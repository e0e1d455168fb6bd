import Sluice.Proofs.GrowingText
import Sluice.Proofs.HeadHosts

/-
  How much room the fields of a head need. A reader with too little room finds fault just where
  more fields than it has room for stand behind the request line (`bad_request_iff`); any other
  answer is the same with more room (`request_eq`). A field takes three octets at least, and four
  where every LF has its CR. Room is made for one field in four octets and no more, so a head of
  short lines that end in LF alone can be turned away for want of room that it needs
  (`parse_roomy_iff`).
-/

namespace Sluice

namespace Scanner

variable {ε α β γ : Type}

theorem bind_assoc (p : Scanner ε α) (f : α → Scanner ε β) (g : β → Scanner ε γ) :
    p >>= f >>= g = p >>= fun a => f a >>= g := by
  funext s
  cases first : p s with
  | complete a rest =>
    rw [bind_complete first]
    show Scanner.bind (p >>= f) g s = Scanner.bind (f a) g rest
    rw [Scanner.bind, bind_complete first]
    rfl
  | short => rw [bind_short first, bind_short (bind_short first)]
  | bad e => rw [bind_bad first, bind_bad (bind_bad first)]

theorem run_eq_error {p : Scanner ε α} {s : Octets} {e : ε} :
    p.run s = .error e ↔ p s = .bad e := by
  unfold run
  cases p s <;> simp

end Scanner

namespace Http

open Octets Scanner

/-! ## Fields one behind the other -/

/-- So many fields at least stand at the front of a text. -/
inductive HasFields : Nat → Octets → Prop where
  | zero (s : Octets) : HasFields 0 s
  | succ {n : Nat} {first : UInt8} {s rest : Octets} {field : Field} :
      fieldFrom first s = .complete field rest → HasFields n rest → HasFields (n + 1) (first :: s)

theorem HasFields.fewer {n m : Nat} {s : Octets} (h : HasFields n s) (le : m ≤ n) :
    HasFields m s := by
  induction h generalizing m with
  | zero s =>
    rw [Nat.le_zero.1 le]
    exact .zero s
  | @succ n first s rest field read _ ih =>
    cases m with
    | zero => exact .zero _
    | succ m => exact .succ read (ih (Nat.le_of_succ_le_succ le))

/-- A field takes three octets at least: one of its name, the colon, and the end of its line. -/
theorem HasFields.length {n : Nat} {s : Octets} (h : HasFields n s) : 3 * n ≤ s.length := by
  induction h with
  | zero s => exact Nat.zero_le _
  | @succ n first s rest field read _ ih =>
    obtain ⟨_, rfl, inner, eol, rfl, filled, -, isBreak⟩ := takes_fieldFrom first s field rest read
    have := List.length_pos_iff.2 filled
    have : 0 < eol.length := by
      rcases isBreak with rfl | rfl
      · decide
      · decide
    simp only [List.length_cons, List.length_append]
    omega

/-- Where lines are paired it takes four. -/
theorem HasFields.length_paired {n : Nat} {s : Octets} (h : HasFields n s) (paired : Paired s) :
    4 * n ≤ s.length := by
  induction h with
  | zero s => exact Nat.zero_le _
  | @succ n first s rest field read _ ih =>
    obtain ⟨_, rfl, line⟩ := takes_fieldFrom first s field rest read
    obtain ⟨inner, filled, rfl, behind⟩ := line.split paired
    have := List.length_pos_iff.2 filled
    have := ih behind
    simp only [List.length_cons, List.length_append, List.length_nil]
    omega

/-! ## The fault of too many fields -/

theorem spares_lineEnd {broken : Fault} (ne : broken ≠ .tooManyFields) :
    Spares (lineEnd broken) .tooManyFields :=
  spares_bind spares_next fun _ => spares_ite (spares_pure ())
    (spares_ite (spares_expect lf ne) (spares_bad ne))

theorem spares_fieldFrom (first : UInt8) : Spares (fieldFrom first) .tooManyFields := by
  have value : Spares fieldValue .tooManyFields :=
    spares_bind (spares_takeWhile _) fun _ => spares_bind (spares_takeWhile _) fun _ =>
      spares_bind (spares_lineEnd nofun) fun _ => spares_pure _
  exact spares_ite (spares_bad nofun) (spares_bind (spares_takeWhile _) fun _ =>
    spares_bind (spares_expect _ nofun) fun _ => spares_bind value fun _ => spares_pure _)

/-- Where a field can be read, there is no empty line. -/
theorem emptyLineOr_field {more : Field → Scanner Fault (List Field)} {before : Array Field}
    {first : UInt8} {s rest : Octets} {field : Field}
    (read : fieldFrom first s = .complete field rest) :
    emptyLineOr before more (first :: s) = more field rest := by
  have token : isToken first = true := by
    unfold fieldFrom at read
    split at read
    · cases read
    · next h => simpa using h
  obtain ⟨notLf, notCr⟩ := ne_of_isToken token
  refine (bind_complete (reads_next first s)).trans ?_
  rw [if_neg notLf, if_neg notCr]
  exact bind_complete read

/-- Fields that are too many are so behind a first one. -/
theorem emptyLineOr_bad {more : Field → Scanner Fault (List Field)} {before : Array Field}
    {s : Octets} (h : emptyLineOr before more s = .bad .tooManyFields) :
    ∃ first s' field rest, s = first :: s' ∧ fieldFrom first s' = .complete field rest ∧
      more field rest = .bad .tooManyFields := by
  have empty : Spares (expect lf Fault.newLine >>= fun _ => pure before.toList) .tooManyFields :=
    spares_bind (spares_expect _ nofun) fun _ => spares_pure _
  obtain ⟨b, mid, first, h⟩ := (bad_of_bind h).resolve_left (spares_next s)
  cases s with
  | nil => cases first
  | cons c s =>
    obtain ⟨rfl, rfl⟩ := Scanned.complete.inj first
    split at h
    · cases h
    · split at h
      · exact absurd h (empty s)
      · obtain ⟨field, rest, read, tooMany⟩ := (bad_of_bind h).resolve_left (spares_fieldFrom c s)
        exact ⟨c, s, field, rest, rfl, read, tooMany⟩

/-- There is too little room just where more fields stand than there is room for. -/
theorem fieldsFrom_bad_iff {before : Array Field} {slots : Nat} {s : Octets} :
    fieldsFrom before slots s = .bad .tooManyFields ↔ HasFields (slots + 1) s := by
  constructor
  · intro h
    induction slots generalizing before s with
    | zero =>
      obtain ⟨first, s', field, rest, rfl, read, -⟩ := emptyLineOr_bad h
      exact .succ read (.zero rest)
    | succ slots ih =>
      obtain ⟨first, s', field, rest, rfl, read, tooMany⟩ := emptyLineOr_bad h
      exact .succ read (ih tooMany)
  · intro h
    induction slots generalizing before s with
    | zero =>
      cases h with
      | succ read behind => exact emptyLineOr_field read
    | succ slots ih =>
      cases h with
      | succ read behind => exact (emptyLineOr_field read).trans (ih behind)

/-- What is made of a field counts only where one can be read. -/
theorem emptyLineOr_congr {more more' : Field → Scanner Fault (List Field)} {before : Array Field}
    {s : Octets} (same : ∀ first s' field rest, s = first :: s' →
      fieldFrom first s' = .complete field rest → more field rest = more' field rest) :
    emptyLineOr before more s = emptyLineOr before more' s := by
  cases s with
  | nil => rfl
  | cons first s =>
    refine (bind_complete (reads_next first s)).trans
      (Eq.trans ?_ (bind_complete (reads_next first s)).symm)
    split
    · rfl
    · split
      · rfl
      · cases read : fieldFrom first s with
        | complete field rest =>
          rw [bind_complete read, bind_complete read]
          exact same first s field rest rfl read
        | short => rw [bind_short read, bind_short read]
        | bad e => rw [bind_bad read, bind_bad read]

/-- Where there is room enough, more makes no difference. -/
theorem fieldsFrom_eq {before : Array Field} {slots room : Nat} {s : Octets}
    (enough : ¬ HasFields (slots + 1) s) (le : slots ≤ room) :
    fieldsFrom before room s = fieldsFrom before slots s := by
  induction slots generalizing before room s with
  | zero =>
    cases room with
    | zero => rfl
    | succ room =>
      refine emptyLineOr_congr fun first s' field rest split read => ?_
      subst split
      exact absurd (.succ read (.zero rest)) enough
  | succ slots ih =>
    obtain ⟨room, rfl⟩ := Nat.exists_eq_add_of_le' (Nat.lt_of_lt_of_le (Nat.succ_pos slots) le)
    refine emptyLineOr_congr fun first s' field rest split read => ?_
    subst split
    exact ih (fun behind => enough (.succ read behind)) (Nat.le_of_succ_le_succ le)

/-! ## Requests -/

theorem spares_emptyLines : Spares emptyLines .tooManyFields := by
  intro s
  fun_induction emptyLines s with
  | case2 rest ih => exact ih
  | case4 rest ih => exact ih
  | _ => intro h; cases h

theorem spares_methodWord : Spares Request.methodWord .tooManyFields := by
  refine spares_bind (spares_takeWhile _) fun method => ?_
  have behind : Spares (expect space Fault.token >>= fun _ => pure method) .tooManyFields :=
    spares_bind (spares_expect _ nofun) fun _ => spares_pure _
  exact spares_ite (spares_bind (spares_bad nofun) fun _ => behind) behind

theorem takes_methodWord : Takes Request.methodWord fun _ => True := by
  refine takes_any_bind (takes_takeWhile _) fun method => ?_
  have behind : Takes (expect space Fault.token >>= fun _ => pure method) fun _ => True :=
    takes_any_bind (takes_expect _ _) fun _ => (takes_pure _).any
  exact takes_ite (fun _ => takes_any_bind (L := fun _ => True) (takes_bad _) fun _ => behind)
    fun _ => behind

theorem spares_targetWord : Spares Request.targetWord .tooManyFields := by
  refine spares_bind (spares_takeWhile _) fun target =>
    spares_bind (spares_expect _ nofun) fun _ => ?_
  split
  · exact spares_ite (spares_bad nofun) (spares_pure _)
  · exact spares_bad nofun

theorem takes_targetWord : Takes Request.targetWord fun _ => True := by
  refine takes_any_bind (takes_takeWhile _) fun target =>
    takes_any_bind (takes_expect _ _) fun _ => ?_
  split
  · exact takes_ite (fun _ => takes_bad _) fun _ => (takes_pure _).any
  · exact takes_bad _

theorem spares_version : Spares version .tooManyFields := by
  have word (w : Octets) : Spares (word .version w) .tooManyFields := by
    induction w with
    | nil => exact spares_pure ()
    | cons b w ih => exact spares_bind (spares_expect b nofun) fun _ => ih
  exact spares_bind (word _) fun _ => spares_bind spares_next fun _ =>
    spares_ite (spares_pure 0) (spares_ite (spares_pure 1) (spares_bad nofun))

/-- What stands in front of the fields of a request. -/
def requestLine : Scanner Fault (Octets × String × Nat) := do
  emptyLines
  let method ← Request.methodWord
  let target ← Request.targetWord
  let minorVersion ← version
  lineEnd .newLine
  return (method, target, minorVersion)

/-- A request with its fields. -/
def withFields (line : Octets × String × Nat) (slots : Nat) : Scanner Fault Request := do
  let fields ← fieldList slots
  return { method := line.1, target := line.2.1, minorVersion := line.2.2, fields }

theorem scanner_eq (slots : Nat) :
    Request.scanner slots = requestLine >>= fun line => withFields line slots := by
  simp only [requestLine, bind_assoc]
  rfl

theorem takes_requestLine : Takes requestLine fun t => ∃ inner, t = inner ++ [lf] := by
  refine (takes_bind takes_emptyLines fun _ => takes_bind takes_methodWord fun _ =>
    takes_bind takes_targetWord fun _ => takes_bind takes_version fun _ =>
      takes_bind (takes_lineEnd _) fun _ => takes_pure _).imp ?_
  rintro _ ⟨empty, _, rfl, -, method, _, rfl, -, target, _, rfl, -, version, _, rfl, -, eol, _, rfl,
    isBreak, rfl⟩
  obtain ⟨line, rfl⟩ : ∃ line, eol = line ++ [lf] := by
    rcases isBreak with rfl | rfl
    · exact ⟨[], rfl⟩
    · exact ⟨[cr], rfl⟩
  exact ⟨empty ++ (method ++ (target ++ (version ++ line))), by simp⟩

theorem spares_requestLine : Spares requestLine .tooManyFields :=
  spares_bind spares_emptyLines fun _ => spares_bind spares_methodWord fun _ =>
    spares_bind spares_targetWord fun _ => spares_bind spares_version fun _ =>
      spares_bind (spares_lineEnd nofun) fun _ => spares_pure _

/-- Do more fields than this stand behind the request line of a text? -/
def Crowded (slots : Nat) (s : Octets) : Prop :=
  ∃ line rest, requestLine s = .complete line rest ∧ HasFields (slots + 1) rest

theorem Crowded.fewer {n m : Nat} {s : Octets} (h : Crowded n s) (le : m ≤ n) : Crowded m s := by
  obtain ⟨line, rest, read, fields⟩ := h
  exact ⟨line, rest, read, fields.fewer (Nat.succ_le_succ le)⟩

theorem Crowded.length {slots : Nat} {s : Octets} (h : Crowded slots s) : slots < s.length := by
  obtain ⟨line, rest, read, fields⟩ := h
  obtain ⟨taken, rfl, -⟩ := takes_requestLine s line rest read
  have := fields.length
  rw [List.length_append]
  omega

theorem Crowded.length_paired {slots : Nat} {s : Octets} (h : Crowded slots s)
    (paired : Paired s) : 4 * slots < s.length := by
  obtain ⟨line, rest, read, fields⟩ := h
  obtain ⟨_, rfl, inner, rfl⟩ := takes_requestLine s line rest read
  have behind : Paired rest := by
    refine Paired.behind (s := inner) ?_
    simpa using paired
  have := fields.length_paired behind
  rw [List.length_append]
  omega

theorem bad_request_iff {slots : Nat} {s : Octets} :
    Request.scanner slots s = .bad .tooManyFields ↔ Crowded slots s := by
  rw [scanner_eq]
  constructor
  · intro h
    obtain ⟨line, rest, read, tooMany⟩ := (bad_of_bind h).resolve_left (spares_requestLine s)
    rcases bad_of_bind tooMany with tooMany | ⟨fields, _, -, told⟩
    · exact ⟨line, rest, read, fieldsFrom_bad_iff.1 tooMany⟩
    · cases told
  · rintro ⟨line, rest, read, fields⟩
    exact (bind_complete read).trans (bind_bad (fieldsFrom_bad_iff.2 fields))

theorem request_eq {slots room : Nat} {s : Octets} (enough : ¬ Crowded slots s)
    (enough' : ¬ Crowded room s) : Request.scanner slots s = Request.scanner room s := by
  rw [scanner_eq, scanner_eq]
  cases read : requestLine s with
  | short => rw [bind_short read, bind_short read]
  | bad e => rw [bind_bad read, bind_bad read]
  | complete line rest =>
    rw [bind_complete read, bind_complete read]
    have fits {n : Nat} (h : ¬ Crowded n s) : ¬ HasFields (n + 1) rest :=
      fun fields => h ⟨line, rest, read, fields⟩
    have same : fieldList slots rest = fieldList room rest := by
      rcases Nat.le_total slots room with le | le
      · exact (fieldsFrom_eq (fits enough) le).symm
      · exact fieldsFrom_eq (fits enough') le
    show Scanner.bind _ _ rest = Scanner.bind _ _ rest
    rw [Scanner.bind, Scanner.bind, same]

/-! ## Making room -/

theorem parseWith_eq {slots : Nat} {s : Octets} (positive : 0 < slots)
    (other : (Request.scanner slots).run s ≠ .error .tooManyFields) :
    parseWith slots positive s = (Request.scanner slots).run s := by
  rw [parseWith]
  split
  · next tooMany => exact absurd tooMany other
  · rfl

theorem parseWith_more {slots : Nat} {s : Octets} (positive : 0 < slots)
    (tooMany : (Request.scanner slots).run s = .error .tooManyFields)
    (room : slots ≤ s.length / minFieldLength) :
    parseWith slots positive s = parseWith (slots * 2) (by omega) s := by
  rw [parseWith]
  simp only [tooMany, if_pos room]

theorem doubled_pos {slots : Nat} (positive : 0 < slots) : 0 < slots * 2 :=
  Nat.mul_pos positive Nat.two_pos

/-- The room that is tried last for a text of so many octets. -/
def lastSlots (length slots : Nat) (positive : 0 < slots) : Nat :=
  if slots ≤ length / minFieldLength then lastSlots length (slots * 2) (doubled_pos positive)
  else slots
termination_by length + 1 - slots
decreasing_by simp only [minFieldLength] at *; omega

theorem lastSlots_bounds (length slots : Nat) (positive : 0 < slots) :
    slots ≤ lastSlots length slots positive ∧
      lastSlots length slots positive ≤ max slots (length / 2) ∧
      length < minFieldLength * lastSlots length slots positive := by
  fun_induction lastSlots length slots positive with
  | case1 slots positive room ih =>
    rw [minFieldLength] at room
    omega
  | case2 slots positive full =>
    rw [minFieldLength] at full ⊢
    omega

/-- A head is judged by what stands behind its request line if that is too much for the last room,
and else as if there were room for everything. -/
theorem parseWith_last (slots : Nat) (positive : 0 < slots) (s : Octets) :
    (Crowded (lastSlots s.length slots positive) s →
      parseWith slots positive s = .error .tooManyFields) ∧
    (¬ Crowded (lastSlots s.length slots positive) s →
      parseWith slots positive s = (Request.scanner s.length).run s) := by
  fun_induction parseWith slots positive s with
  | case1 slots positive tooMany room ih =>
    rw [lastSlots, if_pos room]
    exact ih
  | case2 slots positive tooMany full =>
    rw [lastSlots, if_neg full]
    have crowded := bad_request_iff.1 (run_eq_error.1 tooMany)
    exact ⟨fun _ => rfl, fun enough => absurd crowded enough⟩
  | case3 slots positive other =>
    have enough : ¬ Crowded slots s :=
      fun crowded => other (run_eq_error.2 (bad_request_iff.2 crowded))
    refine ⟨fun crowded => absurd (crowded.fewer (lastSlots_bounds ..).1) enough, fun _ => ?_⟩
    have whole : ¬ Crowded s.length s := fun crowded => Nat.lt_irrefl _ crowded.length
    rw [Scanner.run, Scanner.run, request_eq enough whole]

/-! ## Heads -/

/-- What a head comes to that was read off a text of so many octets. -/
def Head.ofAnswer (length : Nat) :
    Except Fault (Option (Request × Octets)) → Except HeadFault (Option Head)
  | .error f => .error (.grammar f)
  | .ok none => .ok none
  | .ok (some (r, rest)) => (hostOf r).map fun host => some
      { length := length - rest.length
        method := String.ofList (r.method.map fun b => Char.ofNat b.toNat)
        host }

/-- The head at the front of a text, read once and with room for so many fields. -/
def Head.parseIn (slots : Nat) (s : Octets) : Except HeadFault (Option Head) :=
  Head.ofAnswer s.length ((Request.scanner slots).run s)

theorem Head.parse_eq (s : Octets) :
    Head.parse s = Head.ofAnswer s.length (parseWith firstSlots (by decide) s) := by
  unfold Head.parse Head.ofAnswer
  cases parseWith firstSlots (by decide) s with
  | error f => rfl
  | ok found =>
    match found with
    | none => rfl
    | some (r, rest) => cases hostOf r <;> rfl

/-- A host that cannot be told is no matter of grammar. -/
theorem hostOf_ne_grammar (r : Request) (f : Fault) : hostOf r ≠ .error (.grammar f) := by
  have target : hostOfTarget r ≠ .error (.grammar f) := by
    unfold hostOfTarget hostOfUrl
    split
    · nofun
    · split
      · split <;> nofun
      · nofun
  have fields : hostOfFields r.fields ≠ .error (.grammar f) := by
    unfold hostOfFields
    split
    · nofun
    · split <;> nofun
  unfold hostOf
  cases named : hostOfTarget r with
  | error f' =>
    rw [named] at target
    exact target
  | ok host =>
    cases host with
    | none => exact fields
    | some host => exact nofun

theorem Head.ofAnswer_grammar {length : Nat} {answer : Except Fault (Option (Request × Octets))}
    {f : Fault} (h : Head.ofAnswer length answer = .error (.grammar f)) : answer = .error f := by
  unfold Head.ofAnswer at h
  split at h
  · exact congrArg _ (HeadFault.grammar.inj (Except.error.inj h))
  · cases h
  · next r rest =>
    cases host : hostOf r with
    | ok name =>
      rw [host] at h
      cases h
    | error f' =>
      rw [host] at h
      exact absurd (host.trans (congrArg _ (Except.error.inj h))) (hostOf_ne_grammar r f)

theorem firstSlots_pos : 0 < firstSlots := by
  decide

/-- The most room that is made for the fields of a text of so many octets. -/
def mostSlots (length : Nat) : Nat :=
  lastSlots length firstSlots firstSlots_pos

theorem parse_of_crowded {s : Octets} (h : Crowded (mostSlots s.length) s) :
    Head.parse s = .error (.grammar .tooManyFields) := by
  rw [Head.parse_eq, (parseWith_last firstSlots firstSlots_pos s).1 h]
  rfl

theorem parse_of_roomy {s : Octets} (h : ¬ Crowded (mostSlots s.length) s) :
    Head.parse s = Head.parseIn s.length s := by
  rw [Head.parse_eq, (parseWith_last firstSlots firstSlots_pos s).2 h, Head.parseIn]

/-- Room is made for one field in four octets, which is what fields in paired lines take. -/
theorem Paired.roomy {s : Octets} (paired : Paired s) : ¬ Crowded (mostSlots s.length) s := by
  intro crowded
  have := crowded.length_paired paired
  have room : s.length < minFieldLength * mostSlots s.length := (lastSlots_bounds ..).2.2
  rw [minFieldLength] at room
  omega

/-- With room for as many fields as a text has octets there are never too many of them. The head
that is found is the one found so, unless more fields stand behind the request line than the most
room that is made, which is no more than half the octets; then there are too many. Where every LF
has its CR that does not happen. -/
theorem parse_roomy_iff (s : Octets) :
    Head.parseIn s.length s ≠ .error (.grammar .tooManyFields) ∧
    (Head.parse s = Head.parseIn s.length s ↔ ¬ Crowded (mostSlots s.length) s) ∧
    (Head.parse s = .error (.grammar .tooManyFields) ↔ Crowded (mostSlots s.length) s) ∧
    mostSlots s.length ≤ max firstSlots (s.length / 2) ∧
    (Paired s → ¬ Crowded (mostSlots s.length) s) := by
  have roomy : Head.parseIn s.length s ≠ .error (.grammar .tooManyFields) := by
    intro tooMany
    have crowded := bad_request_iff.1 (run_eq_error.1 (Head.ofAnswer_grammar tooMany))
    exact Nat.lt_irrefl _ crowded.length
  refine ⟨roomy, ⟨fun same crowded => ?_, parse_of_roomy⟩, ⟨fun tooMany => ?_, parse_of_crowded⟩,
    (lastSlots_bounds ..).2.1, Paired.roomy⟩
  · exact roomy (same.symm.trans (parse_of_crowded crowded))
  · refine Classical.byContradiction fun enough => roomy ?_
    exact (parse_of_roomy enough).symm.trans tooMany

/-- A request of so many short fields, with these line ends. -/
def shortFields (eol : Octets) (n : Nat) : Octets :=
  ofText "GET / HTTP/1.1" ++ eol ++ (List.replicate n (ofText "a:" ++ eol)).flatten ++ eol

/-- Fields in lines of four octets find the room that they need. -/
theorem parse_roomy_iff_paired :
    Paired (shortFields [cr, lf] 65) ∧
    Head.parse (shortFields [cr, lf] 65) =
      Head.parseIn (shortFields [cr, lf] 65).length (shortFields [cr, lf] 65) := by
  have paired : Paired (shortFields [cr, lf] 65) := by decide +kernel
  obtain ⟨-, same, -, -, spared⟩ := parse_roomy_iff (shortFields [cr, lf] 65)
  exact ⟨paired, same.2 (spared paired)⟩

/-- A head of sixty-five fields in lines of three octets is turned away, though it is one. -/
theorem shortFields_refused :
    Head.parse (shortFields [lf] 65) = .error (.grammar .tooManyFields) ∧
    Head.parseIn (shortFields [lf] 65).length (shortFields [lf] 65) =
      .ok (some ⟨211, "GET", none⟩) := by
  decide +kernel

end Http

end Sluice

import Mathlib.Algebra.Group.Nat.Defs
import Mathlib.Data.List.TakeWhile
import Sluice.Proofs.FieldRoom
import Sluice.Proofs.HeadReading

/-
  A head ends behind every text that was too short for it. A scanner that finds an answer once more
  text has come has to go beyond the text that told nothing (`Passes`); only one that takes as much
  as it can may stop right behind it (`Reaches`), and then what follows goes beyond. So a head that
  was found late ends in what was read last (`length_of_undecided`).
-/

namespace Sluice

namespace Scanner

variable {ε α β : Type} {p : Scanner ε α} {f : α → Scanner ε β}

/-! ## Answers that come late -/

/-- Does an answer that came with more text take some of that? -/
def Passes (p : Scanner ε α) : Prop :=
  ∀ s t a rest, p s = .short → p (s ++ t) = .complete a rest → rest.length < t.length

/-- Does it take all that there was before? -/
def Reaches (p : Scanner ε α) : Prop :=
  ∀ s t a rest, p s = .short → p (s ++ t) = .complete a rest → rest.length ≤ t.length

/-- A scanner whose answers last, and take some of the text that they came with. -/
structure Ends (p : Scanner ε α) : Prop where
  stable : Stable p
  passes : Passes p
  takes : Takes p fun _ => True

theorem Takes.length_le {L : Octets → Prop} (h : Takes p L) {s rest : Octets} {a : α}
    (read : p s = .complete a rest) : rest.length ≤ s.length := by
  obtain ⟨taken, rfl, -⟩ := h s a rest read
  rw [List.length_append]
  omega

theorem Takes.length_lt (h : Takes p (· ≠ [])) {s rest : Octets} {a : α}
    (read : p s = .complete a rest) : rest.length < s.length := by
  obtain ⟨taken, rfl, filled⟩ := h s a rest read
  have := List.length_pos_iff.2 filled
  rw [List.length_append]
  omega

/-- Behind an answer that lasts it is for what follows to go on. -/
theorem passes_behind {s t rest mid : Octets} {a : α} {b : β} (stable : Stable p)
    (hf : ∀ a, Passes (f a)) (first : p s = .complete a mid) (short : (p >>= f) s = .short)
    (late : (p >>= f) (s ++ t) = .complete b rest) : rest.length < t.length := by
  have first' := stable s t (by rw [first]; exact nofun)
  rw [first] at first'
  rw [bind_complete first] at short
  rw [bind_complete first'] at late
  exact hf a mid t b rest short late

theorem passes_bind (hp : Ends p) (hf : ∀ a, Ends (f a)) : Passes (p >>= f) := by
  intro s t b rest short late
  cases first : p s with
  | complete a mid => exact passes_behind hp.stable (fun a => (hf a).passes) first short late
  | bad e => exact absurd ((bind_bad first).symm.trans short) nofun
  | short =>
    obtain ⟨a, mid, first', second⟩ := complete_of_bind late
    exact Nat.lt_of_le_of_lt ((hf a).takes.length_le second) (hp.passes s t a mid first first')

/-- Where the first reader stops right behind what there was, the next takes some of what came. -/
theorem passes_bind_filled (stable : Stable p) (reaches : Reaches p) (hf : ∀ a, Ends (f a))
    (filled : ∀ a, Takes (f a) (· ≠ [])) : Passes (p >>= f) := by
  intro s t b rest short late
  cases first : p s with
  | complete a mid => exact passes_behind stable (fun a => (hf a).passes) first short late
  | bad e => exact absurd ((bind_bad first).symm.trans short) nofun
  | short =>
    obtain ⟨a, mid, first', second⟩ := complete_of_bind late
    exact Nat.lt_of_lt_of_le ((filled a).length_lt second) (reaches s t a mid first first')

theorem ends_pure (a : α) : Ends (pure a : Scanner ε α) :=
  ⟨stable_pure a, (fun _ _ _ _ short => nomatch short), (takes_pure a).any⟩

theorem ends_bad (e : ε) : Ends (bad e : Scanner ε α) :=
  ⟨stable_bad e, (fun _ _ _ _ short => nomatch short), takes_bad e⟩

theorem ends_ite {c : Prop} [Decidable c] {p q : Scanner ε α} (hp : Ends p) (hq : Ends q) :
    Ends (if c then p else q) := by
  split
  · exact hp
  · exact hq

theorem ends_next : Ends (next : Scanner ε UInt8) where
  stable := stable_next
  passes := by
    intro s t a rest short late
    cases s with
    | cons b s => cases short
    | nil =>
      cases t with
      | nil => cases late
      | cons b t =>
        obtain ⟨-, rfl⟩ := Scanned.complete.inj late
        exact Nat.lt_succ_self _
  takes := by
    intro s a rest read
    cases s with
    | nil => cases read
    | cons b s =>
      obtain ⟨-, rfl⟩ := Scanned.complete.inj read
      exact ⟨[b], rfl, trivial⟩

theorem ends_bind (hp : Ends p) (hf : ∀ a, Ends (f a)) : Ends (p >>= f) :=
  ⟨stable_bind hp.stable fun a => (hf a).stable, passes_bind hp hf,
    takes_any_bind hp.takes fun a => (hf a).takes⟩

theorem reaches_takeWhile (q : UInt8 → Bool) : Reaches (takeWhile q : Scanner ε Octets) := by
  intro s t a rest short late
  have all : ∀ b ∈ s, q b = true := by
    unfold takeWhile at short
    split at short
    · next none => exact List.dropWhile_eq_nil_iff.1 none
    · cases short
  unfold takeWhile at late
  rw [List.dropWhile_append_of_pos all] at late
  split at late
  · cases late
  · next b behind stop =>
    obtain ⟨-, rfl⟩ := Scanned.complete.inj late
    rw [← stop]
    exact (List.dropWhile_sublist q).length_le

/-- What goes on behind the octets of a class. -/
theorem ends_takeWhile {q : UInt8 → Bool} {g : Octets → Scanner ε β} (hg : ∀ a, Ends (g a))
    (filled : ∀ a, Takes (g a) (· ≠ [])) : Ends (takeWhile q >>= g) :=
  ⟨stable_bind (stable_takeWhile q) fun a => (hg a).stable,
    passes_bind_filled (stable_takeWhile q) (reaches_takeWhile q) hg filled,
    takes_any_bind (takes_takeWhile q) fun a => (hg a).takes⟩

theorem ends_expect (b : UInt8) (e : ε) : Ends (expect b e) :=
  ends_bind ends_next fun _ => ends_ite (ends_pure ()) (ends_bad e)

theorem filled_expect (b : UInt8) (e : ε) : Takes (expect b e) (· ≠ []) :=
  (takes_expect b e).imp fun _ same => same ▸ List.cons_ne_nil _ _

theorem filled_bind (hp : Takes p (· ≠ [])) (hf : ∀ a, Takes (f a) fun _ => True) :
    Takes (p >>= f) (· ≠ []) := by
  refine (takes_bind hp hf).imp ?_
  rintro _ ⟨x, y, rfl, filled, -⟩
  exact List.append_ne_nil_of_left_ne_nil filled y

theorem filled_behind {L : Octets → Prop} (hp : Takes p L) (hf : ∀ a, Takes (f a) (· ≠ [])) :
    Takes (p >>= f) (· ≠ []) := by
  refine (takes_bind hp hf).imp ?_
  rintro _ ⟨x, y, rfl, -, filled⟩
  exact List.append_ne_nil_of_right_ne_nil x filled

end Scanner

namespace Http

open Octets Scanner

/-! ## Readers of heads -/

theorem ends_lineEnd (broken : Fault) : Ends (lineEnd broken) :=
  ends_bind ends_next fun _ =>
    ends_ite (ends_pure ()) (ends_ite (ends_expect _ _) (ends_bad _))

theorem filled_lineEnd (broken : Fault) : Takes (lineEnd broken) (· ≠ []) := by
  refine (takes_lineEnd broken).imp ?_
  rintro _ (rfl | rfl)
  · exact List.cons_ne_nil _ _
  · exact List.cons_ne_nil _ _

theorem ends_version : Ends version := by
  have word (w : Octets) : Ends (word .version w) := by
    induction w with
    | nil => exact ends_pure ()
    | cons b w ih => exact ends_bind (ends_expect b _) fun _ => ih
  exact ends_bind (word _) fun _ => ends_bind ends_next fun _ =>
    ends_ite (ends_pure 0) (ends_ite (ends_pure 1) (ends_bad _))

theorem ends_fieldValue : Ends fieldValue := by
  have line (value : Octets) : Ends (lineEnd .fieldValue >>= fun _ => pure (trimEnd value)) :=
    ends_bind (ends_lineEnd _) fun _ => ends_pure _
  have filled (value : Octets) :
      Takes (lineEnd .fieldValue >>= fun _ => pure (trimEnd value)) (· ≠ []) :=
    filled_bind (filled_lineEnd _) fun _ => (takes_pure _).any
  exact ends_takeWhile (fun _ => ends_takeWhile line filled)
    fun _ => filled_behind (takes_takeWhile _) filled

theorem ends_fieldFrom (first : UInt8) : Ends (fieldFrom first) := by
  refine ends_ite (ends_bad _) (ends_takeWhile (fun name => ?_) fun name => ?_)
  · exact ends_bind (ends_expect _ _) fun _ => ends_bind ends_fieldValue fun _ => ends_pure _
  · exact filled_bind (filled_expect _ _) fun _ =>
      takes_any_bind ends_fieldValue.takes fun _ => (takes_pure _).any

theorem ends_emptyLineOr {before : Array Field} {more : Field → Scanner Fault (List Field)}
    (h : ∀ field, Ends (more field)) : Ends (emptyLineOr before more) :=
  ends_bind ends_next fun b => ends_ite (ends_pure _)
    (ends_ite (ends_bind (ends_expect _ _) fun _ => ends_pure _) (ends_bind (ends_fieldFrom b) h))

theorem ends_fieldsFrom (before : Array Field) (slots : Nat) : Ends (fieldsFrom before slots) := by
  induction slots generalizing before with
  | zero =>
    rw [fieldsFrom_zero]
    exact ends_emptyLineOr fun _ => ends_bad _
  | succ slots ih =>
    rw [fieldsFrom_succ]
    exact ends_emptyLineOr fun _ => ih _

/-- A method is not read without the space behind it. -/
theorem ends_methodWord : Ends Request.methodWord ∧ Takes Request.methodWord (· ≠ []) := by
  have behind (method : Octets) : Ends (expect space Fault.token >>= fun _ => pure method) :=
    ends_bind (ends_expect _ _) fun _ => ends_pure _
  have filled (method : Octets) :
      Takes (expect space Fault.token >>= fun _ => pure method) (· ≠ []) :=
    filled_bind (filled_expect _ _) fun _ => (takes_pure _).any
  have filled' (method : Octets) : Takes (if method.isEmpty then
      (bad Fault.token : Scanner Fault PUnit) >>= fun _ =>
        expect space Fault.token >>= fun _ => pure method
      else expect space Fault.token >>= fun _ => pure method) (· ≠ []) :=
    takes_ite (fun _ => filled_bind (takes_bad _) fun _ => (behind method).takes)
      fun _ => filled method
  have ends (method : Octets) : Ends (if method.isEmpty then
      (bad Fault.token : Scanner Fault PUnit) >>= fun _ =>
        expect space Fault.token >>= fun _ => pure method
      else expect space Fault.token >>= fun _ => pure method) :=
    ends_ite (ends_bind (ends_bad _) fun _ => behind method) (behind method)
  exact ⟨ends_takeWhile ends filled', filled_behind (takes_takeWhile _) filled'⟩

theorem ends_targetWord : Ends Request.targetWord := by
  refine ends_takeWhile (fun target => ends_bind (ends_expect _ _) fun _ => ?_) fun target => ?_
  · split
    · exact ends_ite (ends_bad _) (ends_pure _)
    · exact ends_bad _
  · refine filled_bind (filled_expect _ _) fun _ => ?_
    split
    · exact takes_ite (fun _ => takes_bad _) fun _ => (takes_pure _).any
    · exact takes_bad _

theorem reaches_emptyLines : Reaches emptyLines := by
  intro s t a rest short late
  fun_induction emptyLines s with
  | case1 => exact takes_emptyLines.length_le late
  | case2 s ih => exact ih short late
  | case3 =>
    cases t with
    | nil => cases late
    | cons b t =>
      by_cases isLf : b = lf
      · subst isLf
        have late : emptyLines t = .complete a rest := late
        exact Nat.le_succ_of_le (takes_emptyLines.length_le late)
      · rw [List.singleton_append, emptyLines] at late
        · cases late
        · exact isLf
  | case4 s ih => exact ih short late
  | case5 => cases short
  | case6 => cases short

/-- A request that was found late ends in what came late. -/
theorem passes_request (slots : Nat) : Passes (Request.scanner slots) := by
  have fields (method : Octets) (target : String) (minorVersion : Nat) :
      Ends (lineEnd .newLine >>= fun _ => fieldList slots >>= fun fields =>
        pure ({ method, target, minorVersion, fields } : Request)) :=
    ends_bind (ends_lineEnd _) fun _ => ends_bind (ends_fieldsFrom _ _) fun _ => ends_pure _
  have behind (method : Octets) : Ends (Request.targetWord >>= fun target => version >>=
      fun minorVersion => lineEnd .newLine >>= fun _ => fieldList slots >>= fun fields =>
        pure ({ method, target, minorVersion, fields } : Request)) :=
    ends_bind ends_targetWord fun target => ends_bind ends_version fun minor =>
      fields method target minor
  exact passes_bind_filled stable_emptyLines reaches_emptyLines
    (fun _ => ends_bind ends_methodWord.1 behind)
    fun _ => filled_bind ends_methodWord.2 fun method => (behind method).takes

/-! ## Heads -/

/-- What is found at last was read with room for everything. -/
theorem parse_eq_some {s : Octets} {head : Head} (h : Head.parse s = .ok (some head)) :
    ∃ r rest, Request.scanner s.length s = .complete r rest ∧
      head.length = s.length - rest.length := by
  by_cases crowded : Crowded (mostSlots s.length) s
  · rw [parse_of_crowded crowded] at h
    cases h
  · rw [parse_of_roomy crowded, Head.parseIn] at h
    cases answer : (Request.scanner s.length).run s with
    | error f =>
      rw [answer] at h
      cases h
    | ok found =>
      rw [answer] at h
      cases found with
      | none => cases h
      | some found =>
        obtain ⟨r, rest⟩ := found
        refine ⟨r, rest, run_eq.1 answer, ?_⟩
        cases host : hostOf r with
        | error f => simp [Head.ofAnswer, host, Except.map] at h
        | ok name =>
          simp only [Head.ofAnswer, host, Except.map, Except.ok.injEq, Option.some.injEq] at h
          rw [← h]

theorem short_of_parse {s : Octets} (h : Head.parse s = .ok none) :
    Request.scanner s.length s = .short := by
  by_cases crowded : Crowded (mostSlots s.length) s
  · rw [parse_of_crowded crowded] at h
    cases h
  · rw [parse_of_roomy crowded, Head.parseIn, Scanner.run] at h
    cases answer : Request.scanner s.length s with
    | short => rfl
    | bad f =>
      rw [answer] at h
      cases h
    | complete r rest =>
      rw [answer] at h
      cases host : hostOf r <;> simp [Head.ofAnswer, host, Except.map] at h

/-- A head that is found late ends behind the text that was too short for it. -/
theorem length_of_undecided {s t : Octets} {head : Head} (undecided : Head.parse s = .ok none)
    (found : Head.parse (s ++ t) = .ok (some head)) : s.length < head.length := by
  obtain ⟨r, rest, complete, length⟩ := parse_eq_some found
  have roomy {n : Nat} (h : s.length ≤ n) : ¬ Crowded n s := fun crowded =>
    Nat.lt_irrefl _ (Nat.lt_of_le_of_lt h crowded.length)
  have short : Request.scanner (s ++ t).length s = .short := by
    rw [request_eq (roomy (List.length_append ▸ Nat.le_add_right _ _)) (roomy (Nat.le_refl _))]
    exact short_of_parse undecided
  have behind := passes_request (s ++ t).length s t r rest short complete
  rw [length, List.length_append]
  omega

/-- Room is doubled while it is too little, so often at most that it stays below half of the
octets, and the last attempt decides. -/
theorem parseWith_doubles (slots : Nat) (positive : 0 < slots) (s : Octets) :
    ∃ k, (∀ j < k, (Request.scanner (slots * 2 ^ j)).run s = .error .tooManyFields) ∧
      parseWith slots positive s = (Request.scanner (slots * 2 ^ k)).run s ∧
      slots * 2 ^ k ≤ max slots (s.length / 2) := by
  fun_induction parseWith slots positive s with
  | case1 slots positive tooMany room ih =>
    obtain ⟨k, before, last, bounded⟩ := ih
    have doubled (j : Nat) : slots * 2 * 2 ^ j = slots * 2 ^ (j + 1) := by
      rw [Nat.mul_assoc, Nat.pow_succ']
    simp only [doubled] at before last bounded
    refine ⟨k + 1, fun j less => ?_, last, ?_⟩
    · cases j with
      | zero => simpa using tooMany
      | succ j => exact before j (Nat.lt_of_succ_lt_succ less)
    · rw [minFieldLength] at room
      omega
  | case2 slots positive tooMany full =>
    refine ⟨0, fun j less => absurd less (Nat.not_lt_zero j), ?_, ?_⟩
    · rw [Nat.pow_zero, Nat.mul_one, tooMany]
    · rw [Nat.pow_zero, Nat.mul_one]
      exact Nat.le_max_left _ _
  | case3 slots positive other =>
    refine ⟨0, fun j less => absurd less (Nat.not_lt_zero j), ?_, ?_⟩
    · rw [Nat.pow_zero, Nat.mul_one]
    · rw [Nat.pow_zero, Nat.mul_one]
      exact Nat.le_max_left _ _

end Http

end Sluice

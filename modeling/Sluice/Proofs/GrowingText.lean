import Sluice.Proofs.RequestHeads

/-
  Heads in a text that is still growing. A scanner is `Stable` if more text changes nothing of an
  answer once it has given one; the reader of requests is (`stable_request`). How long a text must
  be for a fault to be found in it can be told from what its readers take off the front (`Takes`)
  and which faults they never find (`Spares`).
-/

namespace Sluice

namespace Scanned

variable {ε α : Type}

/-- The answer once more text has come. -/
def extend (t : Octets) : Scanned ε α → Scanned ε α
  | complete a rest => complete a (rest ++ t)
  | short => short
  | bad e => bad e

end Scanned

namespace Scanner

variable {ε α β : Type} {p : Scanner ε α} {f : α → Scanner ε β}

/-! ## Answers that last -/

/-- Does an answer last, whatever more comes? -/
def Stable (p : Scanner ε α) : Prop :=
  ∀ s t, p s ≠ .short → p (s ++ t) = (p s).extend t

theorem bind_short {s : Octets} (h : p s = .short) : (p >>= f) s = .short := by
  show Scanner.bind p f s = _
  rw [Scanner.bind, h]

theorem bind_bad {s : Octets} {e : ε} (h : p s = .bad e) : (p >>= f) s = .bad e := by
  show Scanner.bind p f s = _
  rw [Scanner.bind, h]

theorem stable_pure (a : α) : Stable (pure a : Scanner ε α) :=
  fun _ _ _ => rfl

theorem stable_bad (e : ε) : Stable (bad e : Scanner ε α) :=
  fun _ _ _ => rfl

theorem stable_bind (hp : Stable p) (hf : ∀ a, Stable (f a)) : Stable (p >>= f) := by
  intro s t told
  cases first : p s with
  | short => exact absurd (bind_short first) told
  | bad e =>
    have more := hp s t (by rw [first]; exact nofun)
    rw [first] at more
    rw [bind_bad first, bind_bad more]
    rfl
  | complete a rest =>
    have more := hp s t (by rw [first]; exact nofun)
    rw [first] at more
    rw [bind_complete first] at told ⊢
    rw [bind_complete more]
    exact hf a rest t told

theorem stable_ite {c : Prop} [Decidable c] {p q : Scanner ε α} (hp : Stable p) (hq : Stable q) :
    Stable (if c then p else q) := by
  split
  · exact hp
  · exact hq

theorem stable_next : Stable (next : Scanner ε UInt8) := by
  intro s t told
  cases s with
  | nil => exact absurd rfl told
  | cons b rest => rfl

theorem stable_expect (b : UInt8) (e : ε) : Stable (expect b e) :=
  stable_bind stable_next fun _ => stable_ite (stable_pure ()) (stable_bad e)

theorem stable_takeWhile (q : UInt8 → Bool) : Stable (takeWhile q : Scanner ε Octets) := by
  intro s t told
  cases behind : s.dropWhile q with
  | nil =>
    refine absurd ?_ told
    rw [takeWhile, behind]
  | cons b rest =>
    have stop : q b = false := by
      have := List.head?_dropWhile_not q s
      rw [behind] at this
      exact this
    have all : ∀ x ∈ s.takeWhile q, q x = true := List.all_eq_true.1 List.all_takeWhile
    have split : s = s.takeWhile q ++ b :: rest := by
      rw [← behind, List.takeWhile_append_dropWhile]
    have short := takeWhile_complete (ε := ε) all stop rest
    have long := takeWhile_complete (ε := ε) all stop (rest ++ t)
    rw [← split] at short
    rw [← List.cons_append, ← List.append_assoc, ← split] at long
    rw [short, long]
    rfl

/-- What a scanner makes of all of a text, once more has come. -/
def grow (t : Octets) (answer : Except ε (Option (α × Octets))) : Except ε (Option (α × Octets)) :=
  answer.map (Option.map (Prod.map id (· ++ t)))

theorem run_append {s : Octets} (hp : Stable p) (told : p.run s ≠ .ok none) (t : Octets) :
    p.run (s ++ t) = grow t (p.run s) := by
  unfold run at told ⊢
  cases first : p s with
  | short =>
    rw [first] at told
    exact absurd rfl told
  | complete a rest =>
    rw [hp s t (by rw [first]; exact nofun), first]
    rfl
  | bad e =>
    rw [hp s t (by rw [first]; exact nofun), first]
    rfl

/-! ## What is taken off the front -/

/-- Is all that a scanner takes off the front like this? -/
def Takes (p : Scanner ε α) (L : Octets → Prop) : Prop :=
  ∀ s a rest, p s = .complete a rest → ∃ taken, s = taken ++ rest ∧ L taken

variable {L M : Octets → Prop}

theorem Takes.imp (h : Takes p L) (weaker : ∀ t, L t → M t) : Takes p M := by
  intro s a rest read
  obtain ⟨taken, split, like⟩ := h s a rest read
  exact ⟨taken, split, weaker taken like⟩

theorem takes_pure (a : α) : Takes (pure a : Scanner ε α) (· = []) := by
  intro s a' rest read
  obtain ⟨-, rfl⟩ := Scanned.complete.inj read
  exact ⟨[], rfl, rfl⟩

theorem takes_bad (e : ε) : Takes (bad e : Scanner ε α) L :=
  fun _ _ _ read => nomatch read

theorem takes_bind (hp : Takes p L) (hf : ∀ a, Takes (f a) M) :
    Takes (p >>= f) fun t => ∃ x y, t = x ++ y ∧ L x ∧ M y := by
  intro s b rest read
  obtain ⟨a, mid, first, second⟩ := complete_of_bind read
  obtain ⟨x, rfl, like⟩ := hp s a mid first
  obtain ⟨y, rfl, like'⟩ := hf a mid b rest second
  exact ⟨x ++ y, (List.append_assoc x y rest).symm, x, y, rfl, like, like'⟩

theorem Takes.any (h : Takes p L) : Takes p fun _ => True :=
  h.imp fun _ _ => trivial

theorem takes_any_bind (hp : Takes p L) (hf : ∀ a, Takes (f a) fun _ => True) :
    Takes (p >>= f) fun _ => True :=
  (takes_bind hp hf).any

theorem takes_ite {c : Prop} [Decidable c] {p q : Scanner ε α} (hp : c → Takes p L)
    (hq : ¬ c → Takes q L) : Takes (if c then p else q) L := by
  split
  · next h => exact hp h
  · next h => exact hq h

theorem takes_next {f : UInt8 → Scanner ε β} (h : ∀ b, Takes (f b) fun t => L (b :: t)) :
    Takes (next >>= f) L := by
  intro s a rest read
  obtain ⟨b, mid, first, second⟩ := complete_of_bind read
  cases s with
  | nil => cases first
  | cons c s =>
    obtain ⟨rfl, rfl⟩ := Scanned.complete.inj first
    obtain ⟨taken, rfl, like⟩ := h c s a rest second
    exact ⟨c :: taken, rfl, like⟩

theorem takes_expect (b : UInt8) (e : ε) : Takes (expect b e) (· = [b]) :=
  takes_next fun _ => takes_ite
    (fun same => (takes_pure ()).imp fun _ nothing => by rw [same, nothing])
    fun _ => takes_bad e

theorem takes_takeWhile (q : UInt8 → Bool) :
    Takes (takeWhile q : Scanner ε Octets) fun t => ∀ b ∈ t, q b = true := by
  intro s a rest read
  unfold takeWhile at read
  split at read
  · cases read
  · next b behind stop =>
    obtain ⟨rfl, rfl⟩ := Scanned.complete.inj read
    refine ⟨s.takeWhile q, ?_, List.all_eq_true.1 List.all_takeWhile⟩
    rw [← stop, List.takeWhile_append_dropWhile]

/-! ## Faults that are never found -/

/-- Is this never the fault? -/
def Spares (p : Scanner ε α) (e : ε) : Prop :=
  ∀ s, p s ≠ .bad e

variable {e : ε}

theorem bad_of_bind {s : Octets} (h : (p >>= f) s = .bad e) :
    p s = .bad e ∨ ∃ a rest, p s = .complete a rest ∧ f a rest = .bad e := by
  cases first : p s with
  | complete a rest => exact Or.inr ⟨a, rest, rfl, (bind_complete first).symm.trans h⟩
  | short => exact absurd ((bind_short first).symm.trans h) nofun
  | bad e' => exact Or.inl (congrArg _ (Scanned.bad.inj ((bind_bad first).symm.trans h)))

theorem spares_pure (a : α) : Spares (pure a : Scanner ε α) e :=
  fun _ => nofun

theorem spares_bad {e' : ε} (ne : e' ≠ e) : Spares (bad e' : Scanner ε α) e :=
  fun _ h => ne (Scanned.bad.inj h)

theorem spares_bind (hp : Spares p e) (hf : ∀ a, Spares (f a) e) : Spares (p >>= f) e := by
  intro s h
  rcases bad_of_bind h with first | ⟨a, rest, -, second⟩
  · exact hp s first
  · exact hf a rest second

theorem spares_ite {c : Prop} [Decidable c] {p q : Scanner ε α} (hp : Spares p e)
    (hq : Spares q e) : Spares (if c then p else q) e := by
  split
  · exact hp
  · exact hq

theorem spares_next : Spares (next : Scanner ε UInt8) e := by
  intro s
  cases s <;> exact nofun

theorem spares_expect (b : UInt8) {e' : ε} (ne : e' ≠ e) : Spares (expect b e') e :=
  spares_bind spares_next fun _ => spares_ite (spares_pure ()) (spares_bad ne)

theorem spares_takeWhile (q : UInt8 → Bool) : Spares (takeWhile q : Scanner ε Octets) e := by
  intro s
  unfold takeWhile
  split <;> exact nofun

end Scanner

namespace Http

open Octets Scanner

/-! ## Readers of heads -/

theorem stable_emptyLines : Stable emptyLines := by
  intro s t told
  fun_induction emptyLines s with
  | case1 => exact absurd rfl told
  | case2 rest ih => exact ih told
  | case3 => exact absurd rfl told
  | case4 rest ih => exact ih told
  | case5 b rest notLf =>
    rw [List.cons_append, List.cons_append, emptyLines]
    · rfl
    · exact notLf
  | case6 b rest notLf notCr _ notPair =>
    have notCr' : b ≠ cr := by
      rintro rfl
      cases rest with
      | nil => exact notCr rfl rfl
      | cons c rest => exact notPair c rest rfl rfl
    rw [List.cons_append]
    exact emptyLines_filled notLf notCr' (rest ++ t)

theorem stable_lineEnd (broken : Fault) : Stable (lineEnd broken) :=
  stable_bind stable_next fun _ =>
    stable_ite (stable_pure ()) (stable_ite (stable_expect _ _) (stable_bad _))

theorem stable_word (fault : Fault) (w : Octets) : Stable (word fault w) := by
  induction w with
  | nil => exact stable_pure ()
  | cons b w ih => exact stable_bind (stable_expect b fault) fun _ => ih

theorem stable_version : Stable version :=
  stable_bind (stable_word _ _) fun _ => stable_bind stable_next fun _ =>
    stable_ite (stable_pure 0) (stable_ite (stable_pure 1) (stable_bad _))

theorem stable_fieldValue : Stable fieldValue :=
  stable_bind (stable_takeWhile _) fun _ => stable_bind (stable_takeWhile _) fun _ =>
    stable_bind (stable_lineEnd _) fun _ => stable_pure _

theorem stable_fieldFrom (first : UInt8) : Stable (fieldFrom first) :=
  stable_ite (stable_bad _) (stable_bind (stable_takeWhile _) fun _ =>
    stable_bind (stable_expect _ _) fun _ => stable_bind stable_fieldValue fun _ => stable_pure _)

/-- The empty line behind the fields, or one more field and what is made of it. -/
def emptyLineOr (before : Array Field) (more : Field → Scanner Fault (List Field)) :
    Scanner Fault (List Field) := do
  let b ← next
  if b = lf then return before.toList
  else if b = cr then
    expect lf .newLine
    return before.toList
  else
    let field ← fieldFrom b
    more field

theorem fieldsFrom_zero (before : Array Field) :
    fieldsFrom before 0 = emptyLineOr before fun _ => bad .tooManyFields :=
  rfl

theorem fieldsFrom_succ (before : Array Field) (slots : Nat) : fieldsFrom before (slots + 1) =
    emptyLineOr before fun field => fieldsFrom (before.push field) slots :=
  rfl

theorem stable_emptyLineOr {before : Array Field} {more : Field → Scanner Fault (List Field)}
    (h : ∀ field, Stable (more field)) : Stable (emptyLineOr before more) :=
  stable_bind stable_next fun b => stable_ite (stable_pure _)
    (stable_ite (stable_bind (stable_expect _ _) fun _ => stable_pure _)
      (stable_bind (stable_fieldFrom b) h))

theorem stable_fieldsFrom (before : Array Field) (slots : Nat) :
    Stable (fieldsFrom before slots) := by
  induction slots generalizing before with
  | zero =>
    rw [fieldsFrom_zero]
    exact stable_emptyLineOr fun _ => stable_bad _
  | succ slots ih =>
    rw [fieldsFrom_succ]
    exact stable_emptyLineOr fun _ => ih _

theorem stable_methodWord : Stable Request.methodWord := by
  refine stable_bind (stable_takeWhile _) fun method => ?_
  have behind : Stable (expect space Fault.token >>= fun _ => pure method) :=
    stable_bind (stable_expect _ _) fun _ => stable_pure _
  exact stable_ite (stable_bind (stable_bad _) fun _ => behind) behind

theorem stable_targetWord : Stable Request.targetWord := by
  refine stable_bind (stable_takeWhile _) fun target => stable_bind (stable_expect _ _) fun _ => ?_
  split
  · exact stable_ite (stable_bad _) (stable_pure _)
  · exact stable_bad _

/-- The answer about a request lasts. -/
theorem stable_request (slots : Nat) : Stable (Request.scanner slots) :=
  stable_bind stable_emptyLines fun _ => stable_bind stable_methodWord fun _ =>
    stable_bind stable_targetWord fun _ => stable_bind stable_version fun _ =>
      stable_bind (stable_lineEnd _) fun _ => stable_bind (stable_fieldsFrom _ _) fun _ =>
        stable_pure _

/-! ## Lines -/

/-- Has every LF its CR? -/
def Paired (s : Octets) : Prop :=
  ∀ front behind, s = front ++ lf :: behind → front.getLast? = some cr

theorem paired_iff {s : Octets} :
    Paired s ↔ ∀ n < s.length, s[n]? = some lf → (s.take n).getLast? = some cr := by
  constructor
  · intro paired n inside isLf
    refine paired (s.take n) (s.drop (n + 1)) ?_
    rw [List.getElem?_eq_getElem inside, Option.some_inj] at isLf
    rw [← isLf, List.getElem_cons_drop, List.take_append_drop]
  · rintro paired front behind rfl
    have last := paired front.length (by simp) (by simp)
    rwa [List.take_left] at last

instance : DecidablePred Paired :=
  fun _ => decidable_of_iff _ paired_iff.symm

theorem Paired.front {s t : Octets} (h : Paired (s ++ t)) : Paired s := by
  rintro front behind rfl
  exact h front (behind ++ t) (by rw [List.append_assoc, List.cons_append])

/-- Behind a line it is the same. -/
theorem Paired.behind {s t : Octets} (h : Paired (s ++ lf :: t)) : Paired t := by
  rintro front behind rfl
  have last := h (s ++ lf :: front) behind (by rw [List.append_assoc, List.cons_append])
  cases front with
  | nil =>
    rw [List.getLast?_append, List.getLast?_singleton] at last
    exact absurd (Option.some.inj last) (by decide)
  | cons b front =>
    rw [List.getLast?_append, List.getLast?_cons_cons, List.getLast?_cons, Option.some_or] at last
    rw [List.getLast?_cons, last]

/-- Is this the end of a line? -/
def IsBreak (t : Octets) : Prop :=
  t = [lf] ∨ t = [cr, lf]

theorem takes_lineEnd (broken : Fault) : Takes (lineEnd broken) IsBreak :=
  takes_next fun _ => takes_ite
    (fun isLf => (takes_pure ()).imp fun _ nothing => Or.inl (by rw [isLf, nothing]))
    fun _ => takes_ite
      (fun isCr => (takes_expect lf broken).imp fun _ isLf => Or.inr (by rw [isCr, isLf]))
      fun _ => takes_bad broken

theorem takes_emptyLines : Takes emptyLines fun _ => True := by
  intro s a rest read
  fun_induction emptyLines s with
  | case1 => cases read
  | case2 s ih =>
    obtain ⟨taken, rfl, -⟩ := ih read
    exact ⟨lf :: taken, rfl, trivial⟩
  | case3 => cases read
  | case4 s ih =>
    obtain ⟨taken, rfl, -⟩ := ih read
    exact ⟨cr :: lf :: taken, rfl, trivial⟩
  | case5 => cases read
  | case6 b s =>
    obtain ⟨-, rfl⟩ := Scanned.complete.inj read
    exact ⟨[], rfl, trivial⟩

theorem takes_version : Takes version fun _ => True := by
  have word (w : Octets) : Takes (word .version w) fun _ => True := by
    induction w with
    | nil => exact (takes_pure ()).any
    | cons b w ih => exact takes_any_bind (takes_expect b _) fun _ => ih
  exact takes_any_bind (word _) fun _ => takes_next fun _ => takes_ite (fun _ => (takes_pure 0).any)
    fun _ => takes_ite (fun _ => (takes_pure 1).any) fun _ => takes_bad _

/-- The rest of a line that has begun: some octets, none of them a CR, and the line's end. -/
def IsLineRest (t : Octets) : Prop :=
  ∃ inner eol, t = inner ++ eol ∧ inner ≠ [] ∧ (∀ b ∈ inner, b ≠ cr) ∧ IsBreak eol

theorem ne_of_isSpace {b : UInt8} (h : isSpace b = true) : b ≠ cr := by
  rintro rfl
  exact absurd h (by decide)

theorem takes_fieldFrom (first : UInt8) : Takes (fieldFrom first) IsLineRest := by
  refine takes_ite (fun _ => takes_bad _) fun _ => ?_
  have value : Takes fieldValue fun t =>
      ∃ inner eol, t = inner ++ eol ∧ (∀ b ∈ inner, b ≠ cr) ∧ IsBreak eol := by
    refine (takes_bind (takes_takeWhile _) fun _ => takes_bind (takes_takeWhile _) fun _ =>
      takes_bind (takes_lineEnd _) fun _ => takes_pure _).imp ?_
    rintro _ ⟨blanks, _, rfl, blank, text, _, rfl, inline, eol, _, rfl, isBreak, rfl⟩
    refine ⟨blanks ++ text, eol, by simp, fun b mem => ?_, isBreak⟩
    rcases List.mem_append.1 mem with mem | mem
    · exact ne_of_isSpace (blank b mem)
    · exact (ne_of_isText (inline b mem)).2
  refine (takes_bind (takes_takeWhile _) fun _ => takes_bind (takes_expect _ _) fun _ =>
    takes_bind value fun _ => takes_pure _).imp ?_
  rintro _ ⟨name, _, rfl, token, _, _, rfl, rfl, _, _, rfl, ⟨inner, eol, rfl, inline, isBreak⟩, rfl⟩
  refine ⟨name ++ colon :: inner, eol, by simp, by simp, fun b mem => ?_, isBreak⟩
  rcases List.mem_append.1 mem with mem | mem
  · exact (ne_of_isToken (token b mem)).2
  · rcases List.mem_cons.1 mem with rfl | mem
    · decide
    · exact inline b mem

/-- Where lines are paired, the rest of one ends in CR and LF. -/
theorem IsLineRest.split {t rest : Octets} {b : UInt8} (h : IsLineRest t)
    (paired : Paired (b :: (t ++ rest))) :
    ∃ inner, inner ≠ [] ∧ t = inner ++ [cr, lf] ∧ Paired rest := by
  obtain ⟨inner, eol, rfl, filled, noCr, rfl | rfl⟩ := h
  · have last := paired (b :: inner) rest (by simp)
    rw [List.getLast?_cons_of_ne_nil filled] at last
    exact absurd rfl (noCr cr (List.mem_of_getLast? last))
  · refine ⟨inner, filled, rfl, ?_⟩
    refine Paired.behind (s := b :: (inner ++ [cr])) ?_
    simpa using paired

end Http

end Sluice

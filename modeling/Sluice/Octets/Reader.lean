import Sluice.Octets.Basic

/-
  Reading a message that is all there: numbers, strings with a length in front, and lists whose
  entries run to the end. A reader answers with a value and the rest, or fails. `Advances` says
  that the rest is shorter, which is what lets a list of entries be read to its end.
-/

namespace Sluice

/-- A reader of a message that is all there. -/
def Reader (α : Type) : Type :=
  Octets → Option (α × Octets)

namespace Reader

variable {α β : Type}

protected def pure (a : α) : Reader α :=
  fun s => some (a, s)

protected def bind (p : Reader α) (f : α → Reader β) : Reader β :=
  fun s =>
    match p s with
    | some (a, rest) => f a rest
    | none => none

instance : Monad Reader where
  pure := Reader.pure
  bind := Reader.bind

def fail : Reader α :=
  fun _ => none

/-- Goes on only if the test holds. -/
def require (p : Bool) : Reader Unit :=
  if p then pure () else fail

/-- The next `n` octets. -/
def take (n : Nat) : Reader Octets :=
  fun s =>
    let front := s.take n
    if front.length = n then some (front, s.drop n) else none

/-- A big-endian number of `width` octets. -/
def number (width : Nat) : Reader Nat := do
  return Octets.toNat (← take width)

/-- A string behind its length, a number of `width` octets. -/
def block (width : Nat) : Reader Octets := do
  take (← number width)

/-- What `p` reads, if it can; the text stays where it was if not. -/
def optional (p : Reader α) : Reader (Option α) :=
  fun s =>
    match p s with
    | some (a, rest) => some (some a, rest)
    | none => some (none, s)

/-- Does `p` read the front of this message? -/
def accepts (p : Reader α) (s : Octets) : Bool :=
  (p s).isSome

/-! ## What is left is no longer, or shorter -/

def Keeps (p : Reader α) : Prop :=
  ∀ s a rest, p s = some (a, rest) → rest.length ≤ s.length

def Advances (p : Reader α) : Prop :=
  ∀ s a rest, p s = some (a, rest) → rest.length < s.length

theorem Advances.keeps {p : Reader α} (h : Advances p) : Keeps p :=
  fun s a rest e => Nat.le_of_lt (h s a rest e)

theorem keeps_pure (a : α) : Keeps (pure a : Reader α) := by
  intro s b rest h
  cases h
  exact Nat.le_refl _

theorem bind_eq_some {p : Reader α} {f : α → Reader β} {s b rest}
    (h : (p >>= f) s = some (b, rest)) :
    ∃ a mid, p s = some (a, mid) ∧ f a mid = some (b, rest) := by
  change Reader.bind p f s = _ at h
  unfold Reader.bind at h
  split at h
  · exact ⟨_, _, by assumption, h⟩
  · cases h

theorem keeps_bind {p : Reader α} {f : α → Reader β} (hp : Keeps p) (hf : ∀ a, Keeps (f a)) :
    Keeps (p >>= f) := by
  intro s b rest h
  obtain ⟨a, mid, h₁, h₂⟩ := bind_eq_some h
  exact Nat.le_trans (hf a _ _ _ h₂) (hp _ _ _ h₁)

theorem advances_bind {p : Reader α} {f : α → Reader β} (hp : Advances p) (hf : ∀ a, Keeps (f a)) :
    Advances (p >>= f) := by
  intro s b rest h
  obtain ⟨a, mid, h₁, h₂⟩ := bind_eq_some h
  exact Nat.lt_of_le_of_lt (hf a _ _ _ h₂) (hp _ _ _ h₁)

theorem keeps_take (n : Nat) : Keeps (take n) := by
  intro s a rest h
  simp only [take] at h
  split at h
  · cases h; simp
  · cases h

theorem advances_take {n : Nat} (hn : 0 < n) : Advances (take n) := by
  intro s a rest h
  simp only [take] at h
  split at h
  · next e =>
    cases h
    simp only [List.length_take, List.length_drop] at *
    omega
  · cases h

theorem advances_number {width : Nat} (h : 0 < width) : Advances (number width) :=
  advances_bind (advances_take h) fun _ => keeps_pure _

theorem advances_block {width : Nat} (h : 0 < width) : Advances (block width) :=
  advances_bind (advances_number h) fun n => keeps_take n

/-! ## Lists -/

/-- The entries of a list, up to the first that cannot be read; that one and all behind it count
for nothing. -/
def entries (p : Reader α) (adv : Advances p) (s : Octets) : List α :=
  match h : p s with
  | none => []
  | some (a, rest) =>
    have := adv s a rest h
    a :: entries p adv rest
termination_by s.length

end Reader

end Sluice

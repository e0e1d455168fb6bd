/-
  The cap on connections handled at once. How many slots are held is told by how many are still
  free. A slot is known by the number of slots handed out before it; releasing it a second time does
  nothing.
-/

namespace Sluice

/-- Slots handed out and the counters kept about them. -/
structure Slots where
  /-- The most slots held at once. -/
  max : Nat
  /-- How many more slots can be handed out. -/
  free : Nat := max
  /-- The slots held. -/
  held : List Nat := []
  /-- The most slots that were ever held at once. -/
  peak : Nat := 0
  /-- How many slots were handed out. -/
  created : Nat := 0
  /-- How many requests found no free slot. -/
  rejected : Nat := 0
  deriving DecidableEq, Repr

namespace Slots

/-- How many slots are held. -/
def active (s : Slots) : Nat :=
  s.max - s.free

/-- The wording when no slot is free. -/
def noneFree : String := "no free connection slot"

/-- Asks for a slot, without waiting; answers with its number. -/
def acquire (s : Slots) : Option Nat × Slots :=
  match s.free with
  | 0 => (none, { s with rejected := s.rejected + 1 })
  | free + 1 =>
    let taken := { s with free, held := s.created :: s.held, created := s.created + 1 }
    (some s.created, { taken with peak := Nat.max s.peak taken.active })

theorem acquire_full {s : Slots} (full : s.free = 0) :
    s.acquire = (none, { s with rejected := s.rejected + 1 }) := by
  rw [acquire, full]

theorem acquire_free {s : Slots} {free : Nat} (some : s.free = free + 1) :
    s.acquire = (.some s.created,
      { s with
        free
        held := s.created :: s.held
        peak := Nat.max s.peak (s.max - free)
        created := s.created + 1 }) := by
  rw [acquire, some]
  rfl

/-- Gives a slot back; says whether it was held. -/
def release (slot : Nat) (s : Slots) : Bool × Slots :=
  if slot ∈ s.held then (true, { s with free := s.free + 1, held := s.held.erase slot })
  else (false, s)

theorem release_held {slot : Nat} {s : Slots} (held : slot ∈ s.held) :
    s.release slot = (true, { s with free := s.free + 1, held := s.held.erase slot }) := by
  rw [release, if_pos held]

theorem release_other {slot : Nat} {s : Slots} (other : slot ∉ s.held) :
    s.release slot = (false, s) := by
  rw [release, if_neg other]

/-- One thing done with the slots. -/
inductive Step where
  | acquire
  | release (slot : Nat)
  deriving DecidableEq, Repr

/-- What a step answers. -/
inductive Answer where
  | acquired (slot : Option Nat)
  | released (held : Bool)
  deriving DecidableEq, Repr

/-- Does one thing. -/
def step (s : Slots) : Step → Answer × Slots
  | .acquire =>
    let (slot, s) := s.acquire
    (.acquired slot, s)
  | .release slot =>
    let (held, s) := s.release slot
    (.released held, s)

/-- Does things in order. -/
def run (s : Slots) : List Step → List Answer × Slots
  | [] => ([], s)
  | t :: steps =>
    let (answer, s) := s.step t
    let (answers, s) := s.run steps
    (answer :: answers, s)

end Slots

end Sluice

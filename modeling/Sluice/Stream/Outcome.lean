/-
  What an operation that may wait comes to.
-/

namespace Sluice

/-- What an operation comes to. -/
inductive Outcome (ε α : Type) where
  | done (value : α)
  | failed (error : ε)
  /-- It waits for something that never comes. -/
  | pending
  deriving DecidableEq, Repr

namespace Outcome

variable {ε ε' α β : Type}

def map (f : α → β) : Outcome ε α → Outcome ε β
  | done a => done (f a)
  | failed e => failed e
  | pending => pending

def mapError (f : ε → ε') : Outcome ε α → Outcome ε' α
  | done a => done a
  | failed e => failed (f e)
  | pending => pending

theorem map_eq_done {f : α → β} {o : Outcome ε α} {b : β} :
    o.map f = done b ↔ ∃ a, o = done a ∧ f a = b := by
  cases o <;> simp [map]

theorem map_eq_pending {f : α → β} {o : Outcome ε α} : o.map f = pending ↔ o = pending := by
  cases o <;> simp [map]

end Outcome

end Sluice

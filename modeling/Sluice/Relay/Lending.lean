import Sluice.Relay.Pool

/-
  A pool and those who hold its buffers. Each checkout makes a guard, and guards are numbered in
  order; a guard gives its buffer back once, and dropping it again does nothing.
-/

namespace Sluice

/-- A pool with the buffers it has lent. -/
structure Lending where
  pool : Pool := {}
  /-- The buffer of each guard, until the guard is dropped. -/
  guards : Array (Option Buffer) := #[]
  deriving DecidableEq, Repr

namespace Lending

/-- One thing done with a pool. -/
inductive Step where
  /-- Borrow a buffer; if a mark is given, write it all over the buffer. -/
  | checkout (mark : Option UInt8)
  /-- Drop a guard. -/
  | drop (guard : Nat)
  deriving DecidableEq, Repr

/-- What a step answers. -/
inductive Answer where
  /-- The guard's number, and the buffer as it was handed out. -/
  | lent (guard : Nat) (buffer : Buffer)
  /-- Was there anything to drop? -/
  | dropped (held : Bool)
  deriving DecidableEq, Repr

/-- Does one thing. -/
def step (l : Lending) : Step → Answer × Lending
  | .checkout mark =>
    let (buffer, pool) := l.pool.checkout
    let held := match mark with
      | none => buffer
      | some mark => buffer.fill mark
    (.lent l.guards.size buffer, { pool, guards := l.guards.push (some held) })
  | .drop i =>
    match l.guards[i]?.join with
    | none => (.dropped false, l)
    | some buffer =>
      (.dropped true,
        { pool := l.pool.giveBack buffer, guards := l.guards.setIfInBounds i none })

/-- Does things in order. -/
def run (l : Lending) : List Step → List Answer × Lending
  | [] => ([], l)
  | s :: steps =>
    let (answer, l) := l.step s
    let (answers, l) := l.run steps
    (answer :: answers, l)

/-- The buffers that guards hold. -/
def held (l : Lending) : List Buffer :=
  l.guards.toList.filterMap id

end Lending

end Sluice

import Sluice.Octets.Basic

/-
  Reading from the front of a text that may still be growing. A scanner answers with a value and
  the rest, or with an error, or says that the text stops too early to tell. The last answer is the
  only one that more text can change.
-/

namespace Sluice

/-- What a scanner makes of the text so far. -/
inductive Scanned (ε α : Type) where
  | complete (value : α) (rest : Octets)
  | short
  | bad (error : ε)
  deriving DecidableEq, Repr

/-- A reader of growing text. -/
def Scanner (ε α : Type) : Type :=
  Octets → Scanned ε α

namespace Scanner

variable {ε α β : Type}

protected def pure (a : α) : Scanner ε α :=
  fun s => .complete a s

protected def bind (p : Scanner ε α) (f : α → Scanner ε β) : Scanner ε β :=
  fun s =>
    match p s with
    | .complete a rest => f a rest
    | .short => .short
    | .bad e => .bad e

instance : Monad (Scanner ε) where
  pure := Scanner.pure
  bind := Scanner.bind

/-- Gives up with an error, whatever follows. -/
def bad (e : ε) : Scanner ε α :=
  fun _ => .bad e

/-- The next octet. -/
def next : Scanner ε UInt8
  | [] => .short
  | b :: rest => .complete b rest

/-- The octet `b`, or the error. -/
def expect (b : UInt8) (e : ε) : Scanner ε Unit := do
  if (← next) = b then pure () else bad e

/-- The octets up to the first that fails the test; that one has to be there. -/
def takeWhile (p : UInt8 → Bool) : Scanner ε Octets :=
  fun s =>
    match s.dropWhile p with
    | [] => .short
    | b :: rest => .complete (s.takeWhile p) (b :: rest)

/-- What all of a text that will not grow says: a value and the rest, `none` if the text is too
short. -/
def run (p : Scanner ε α) (s : Octets) : Except ε (Option (α × Octets)) :=
  match p s with
  | .complete a rest => .ok (some (a, rest))
  | .short => .ok none
  | .bad e => .error e

end Scanner

end Sluice

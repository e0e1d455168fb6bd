import Sluice.Stream.Sink
import Sluice.Stream.Source

/-
  A connection: what arrives on it, what it takes, and whether either direction can be closed on its
  own.
-/

namespace Sluice

/-- Closing one direction of a connection. -/
inductive HalfClose where
  /-- Stop receiving. -/
  | read
  /-- Tell the far side that nothing more comes. -/
  | write
  deriving DecidableEq, Repr

/-- Can the directions of a connection be closed one by one? -/
inductive HalfClosing where
  | unsupported
  | works
  /-- Each attempt is made and fails. -/
  | fails (error : IoError)
  deriving DecidableEq, Repr

/-- The handle that closes the directions of a connection. -/
structure Closer where
  ability : HalfClosing := .unsupported
  /-- The half-closes attempted, in order. -/
  attempts : List HalfClose := []
  deriving DecidableEq, Repr

namespace Closer

/-- Attempts a half-close, if the connection knows how to; says what went wrong. -/
def close (half : HalfClose) (c : Closer) : Option IoError × Closer :=
  match c.ability with
  | .unsupported => (none, c)
  | .works => (none, { c with attempts := c.attempts ++ [half] })
  | .fails e => (some e, { c with attempts := c.attempts ++ [half] })

end Closer

/-- Both sides of a connection. -/
structure Transport where
  source : Source := []
  sink : Sink := {}
  closer : Closer := {}
  deriving DecidableEq, Repr

end Sluice

import Sluice.Log.Basic

/-
  The signals that ask the server to stop.
-/

namespace Sluice

/-- A signal that asks the server to stop. -/
inductive Signal where
  | term
  | int
  deriving DecidableEq, Repr

namespace Signal

def text : Signal → String
  | term => "SIGTERM"
  | int => "SIGINT"

/-- What the log says of a signal. -/
def line (s : Signal) : LogEvent :=
  { source := .shutdown, level := .info, message := s!"Received {s.text}, draining connections" }

end Signal

end Sluice

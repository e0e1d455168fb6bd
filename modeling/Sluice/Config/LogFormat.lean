import Sluice.Text.Lower

/-
  The form of the log.
-/

namespace Sluice

/-- The form of a log line. -/
inductive LogFormat where
  | text
  | json
  deriving DecidableEq, Repr

namespace LogFormat

/-- The name of a form. -/
def name : LogFormat → String
  | text => "text"
  | json => "json"

/-- The form that a text in small letters names. -/
def ofName? : String → Option LogFormat
  | "text" => some text
  | "json" => some json
  | _ => none

/-- The form that a text names. -/
def parse? (text : String) : Option LogFormat :=
  ofName? (lowerText text)

/-- What is said of a text that names no form. -/
def unknownMessage (text : String) : String :=
  s!"unknown log format '{lowerText text}' (expected text or json)"

end LogFormat

end Sluice

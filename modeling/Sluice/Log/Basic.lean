/-
  Lines of the log: which part of the program writes them, how severe they are, what happened, and
  with which figures.
-/

namespace Sluice

/-- How severe a line is. -/
inductive LogLevel where
  | error
  | warn
  | info
  | debug
  | trace
  deriving DecidableEq, Repr

namespace LogLevel

/-- The name of a level. -/
def text : LogLevel → String
  | error => "ERROR"
  | warn => "WARN"
  | info => "INFO"
  | debug => "DEBUG"
  | trace => "TRACE"

/-- The place of a level, the most severe first. -/
def rank : LogLevel → Nat
  | error => 1
  | warn => 2
  | info => 3
  | debug => 4
  | trace => 5

end LogLevel

/-- The part of the program that writes a line. -/
inductive LogSource where
  | program
  | shutdown
  | server
  | slots
  | handler
  | relay
  deriving DecidableEq, Repr

/-- What the log calls a part of the program. -/
def LogSource.path : LogSource → String
  | program => "transocks"
  | shutdown => "transocks::shutdown"
  | server => "transocks::connection::manager"
  | slots => "transocks::resource"
  | handler => "transocks::connection::handler"
  | relay => "transocks::relay::engine"

/-- The value of a field. -/
inductive LogValue where
  | text (text : String)
  | number (n : Nat)
  | flag (b : Bool)
  deriving DecidableEq, Repr

/-- The text of a value. -/
def LogValue.shown : LogValue → String
  | text s => s
  | number n => toString n
  | flag b => if b then "true" else "false"

/-- One line of the log. -/
structure LogEvent where
  source : LogSource
  level : LogLevel
  message : String
  fields : List (String × LogValue) := []
  deriving DecidableEq, Repr

/-- What a line says: the message, and behind it the fields. -/
def LogEvent.text (e : LogEvent) : String :=
  e.message ++ String.join (e.fields.map fun (name, value) => s!" {name}={value.shown}")

end Sluice

import Sluice.Duration.Basic

/-
  Units of time in configuration texts, and their names. A month is a twelfth of a year but for some
  minutes: a year has 365.25 days and a month 30.44.
-/

namespace Sluice

/-- A unit of time. -/
inductive TimeUnit where
  | nanosecond
  | microsecond
  | millisecond
  | second
  | minute
  | hour
  | day
  | week
  | month
  | year
  deriving DecidableEq, Repr

namespace TimeUnit

/-- What a unit is measured in, and how many of that it has. -/
inductive Measure where
  | nanos (count : Nat)
  | seconds (count : Nat)
  deriving DecidableEq, Repr

/-- The length of a unit. -/
def measure : TimeUnit → Measure
  | nanosecond => .nanos 1
  | microsecond => .nanos 1000
  | millisecond => .nanos 1000000
  | second => .seconds 1
  | minute => .seconds 60
  | hour => .seconds 3600
  | day => .seconds 86400
  | week => .seconds 604800
  | month => .seconds 2630016
  | year => .seconds 31557600

/-- What a fraction of a unit is measured in; nothing is shorter than a nanosecond. -/
def fractionMeasure? : TimeUnit → Option Measure
  | nanosecond => none
  | second => some (.nanos 1000000000)
  | minute => some (.nanos 60000000000)
  | unit => some unit.measure

/-- The unit that a text names. -/
def ofName? : String → Option TimeUnit
  | "nanos" | "nsec" | "ns" => some nanosecond
  | "usec" | "us" | "µs" => some microsecond
  | "millis" | "msec" | "ms" => some millisecond
  | "seconds" | "second" | "secs" | "sec" | "s" => some second
  | "minutes" | "minute" | "mins" | "min" | "m" => some minute
  | "hours" | "hour" | "hrs" | "hr" | "h" => some hour
  | "days" | "day" | "d" => some day
  | "weeks" | "week" | "wks" | "wk" | "w" => some week
  | "months" | "month" | "M" => some month
  | "years" | "year" | "yrs" | "yr" | "y" => some year
  | _ => none

end TimeUnit

end Sluice

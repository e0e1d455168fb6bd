import Sluice.Duration.Basic

/-
  A duration as a configuration file has it: whole numbers of units from years down to nanoseconds,
  the units that do not occur left out. `1day 12h`, `1m 500ms`, `0s`.
-/

namespace Sluice.Duration

/-- A number of units that has a plural. -/
def counted (n : Nat) (name : String) : Nat × String :=
  (n, if 1 < n then name ++ "s" else name)

/-- How many of each unit a duration has, the longest first. -/
def parts (d : Duration) : List (Nat × String) :=
  let inYear := d.seconds % 31557600
  let inMonth := inYear % 2630016
  let inDay := inMonth % 86400
  [counted (d.seconds / 31557600) "year", counted (inYear / 2630016) "month",
   counted (inMonth / 86400) "day", (inDay / 3600, "h"), (inDay % 3600 / 60, "m"),
   (inDay % 60, "s"), (d.nanos / 1000000, "ms"), (d.nanos / 1000 % 1000, "us"),
   (d.nanos % 1000, "ns")]

/-- The text of a duration. -/
def written (d : Duration) : String :=
  if d.isZero then "0s"
  else
    " ".intercalate ((d.parts.filter fun (n, _) => n ≠ 0).map fun (n, name) => s!"{n}{name}")

end Sluice.Duration

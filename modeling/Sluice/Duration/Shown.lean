import Sluice.Duration.Basic

/-
  A duration as one decimal number with a unit: the largest of s, ms, µs and ns that leaves a whole
  part, as many places as it takes, and no trailing zero. `60s`, `1.5ms`, `0ns`.
-/

namespace Sluice.Duration

/-- The decimal places of `fraction / 10 ^ width`, with no trailing zero. -/
def places : (width fraction : Nat) → List Char
  | 0, _ => []
  | width + 1, fraction =>
    if fraction = 0 then []
    else
      Nat.digitChar (fraction / Nat.pow 10 width % 10) ::
        places width (fraction % Nat.pow 10 width)

/-- A whole part and the fraction `fraction / 10 ^ width` behind it. -/
def decimal (whole width fraction : Nat) : String :=
  let fractionText := if fraction = 0 then "" else "." ++ String.ofList (places width fraction)
  s!"{whole}{fractionText}"

/-- The text of a duration in a message. -/
def shown (d : Duration) : String :=
  if d.seconds ≠ 0 then decimal d.seconds 9 d.nanos ++ "s"
  else if 1000000 ≤ d.nanos then decimal (d.nanos / 1000000) 6 (d.nanos % 1000000) ++ "ms"
  else if 1000 ≤ d.nanos then decimal (d.nanos / 1000) 3 (d.nanos % 1000) ++ "µs"
  else decimal d.nanos 0 0 ++ "ns"

end Sluice.Duration

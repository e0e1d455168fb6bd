/-
  Numbers in text: reading the digits at the front of a text, and writing them.
-/

namespace Sluice.Digits

/-- The value of a digit, in bases up to sixteen. Only ASCII digits and letters count. -/
def value? (base : Nat) (c : Char) : Option Nat :=
  let n :=
    if '0' ≤ c ∧ c ≤ '9' then some (c.toNat - 48)
    else if 'a' ≤ c ∧ c ≤ 'f' then some (c.toNat - 87)
    else if 'A' ≤ c ∧ c ≤ 'F' then some (c.toNat - 55)
    else none
  n.filter (· < base)

/-- The number that digits write. -/
def toNat (base : Nat) (digits : List Char) : Nat :=
  digits.foldl (fun n c => n * base + (value? base c).getD 0) 0

/-- The digits at the front of a text, and the rest. -/
def take (base : Nat) (s : List Char) : List Char × List Char :=
  s.span fun c => (value? base c).isSome

/-- A number below `bound` at the front of a text, of at least one digit. -/
def read? (base bound : Nat) (s : List Char) : Option (Nat × List Char) :=
  let (digits, rest) := take base s
  let n := toNat base digits
  if digits.isEmpty || bound ≤ n then none else some (n, rest)

/-- The digits of a number, most significant first. -/
def ofNat (base n : Nat) : List Char :=
  Nat.toDigits base n

end Sluice.Digits

import Sluice.Text.Digits

/-
  Whole numbers from outside: decimal digits, a plus sign if one likes, and a value that fits 64
  bits.
-/

namespace Sluice.Count

/-- Why a text is no such number. -/
inductive Fault where
  | empty
  | digit
  | range
  deriving DecidableEq, Repr

/-- The wording of a fault. -/
def Fault.message : Fault → String
  | empty => "cannot parse integer from empty string"
  | digit => "invalid digit found in string"
  | range => "number too large to fit in target type"

/-- Takes digits behind the number `n`; the first fault from the left counts. -/
def parseFrom (n : Nat) : List Char → Except Fault Nat
  | [] => .ok n
  | c :: rest =>
    match Digits.value? 10 c with
    | none => .error .digit
    | some d => if n * 10 + d < UInt64.size then parseFrom (n * 10 + d) rest else .error .range

/-- The number that a text writes. -/
def parse (text : String) : Except Fault Nat :=
  match text.toList with
  | [] => .error .empty
  | ['+'] => .error .digit
  | '+' :: digits => parseFrom 0 digits
  | digits => parseFrom 0 digits

end Sluice.Count

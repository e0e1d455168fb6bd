/-
  Octet strings: the numbers a wire format writes into them, and the ASCII characters a text
  format reads from them.
-/

namespace Sluice

/-- A string of octets. -/
abbrev Octets := List UInt8

namespace Octets

/-! ## Named octets -/

@[match_pattern] abbrev tab : UInt8 := 9
@[match_pattern] abbrev lf : UInt8 := 10
@[match_pattern] abbrev cr : UInt8 := 13
@[match_pattern] abbrev space : UInt8 := 32
@[match_pattern] abbrev colon : UInt8 := 58

/-- The octets of a text, in UTF-8. -/
def ofText (text : String) : Octets :=
  text.toList.flatMap String.utf8EncodeChar

/-! ## Big-endian numbers -/

/-- The number that octets write, most significant first. -/
def toNat (s : Octets) : Nat :=
  s.foldl (fun n b => n * 256 + b.toNat) 0

/-- The `width` low octets of a number, most significant first. -/
def ofNat : (width n : Nat) → Octets
  | 0, _ => []
  | width + 1, n => ofNat width (n / 256) ++ [UInt8.ofNat (n % 256)]

theorem length_ofNat (width n : Nat) : (ofNat width n).length = width := by
  induction width generalizing n with
  | zero => rfl
  | succ width ih => simp [ofNat, ih]

theorem toNat_append_singleton (s : Octets) (b : UInt8) :
    toNat (s ++ [b]) = toNat s * 256 + b.toNat := by
  simp [toNat]

theorem toNat_ofNat (width n : Nat) (h : n < Nat.pow 256 width) : toNat (ofNat width n) = n := by
  induction width generalizing n with
  | zero =>
    have : n = 0 := by simpa using h
    simp [ofNat, toNat, this]
  | succ width ih =>
    rw [ofNat, toNat_append_singleton, ih]
    · have : n % 256 < 256 := Nat.mod_lt _ (by decide)
      simp only [UInt8.toNat_ofNat']
      omega
    · have : n < Nat.pow 256 width * 256 := h
      exact Nat.div_lt_of_lt_mul (by omega)

/-! ## ASCII -/

/-- The capital ASCII letters become small, every other octet stays. -/
def lower (b : UInt8) : UInt8 :=
  if 65 ≤ b ∧ b ≤ 90 then b + 32 else b

/-- Equality up to the case of ASCII letters. -/
def sameLetters (s t : Octets) : Bool :=
  s.map lower == t.map lower

def isDigit (b : UInt8) : Bool :=
  48 ≤ b && b ≤ 57

def isLetter (b : UInt8) : Bool :=
  (65 ≤ b && b ≤ 90) || (97 ≤ b && b ≤ 122)

/-- The value of a hexadecimal digit. -/
def hexValue? (b : UInt8) : Option Nat :=
  if 48 ≤ b ∧ b ≤ 57 then some (b.toNat - 48)
  else if 65 ≤ b ∧ b ≤ 70 then some (b.toNat - 55)
  else if 97 ≤ b ∧ b ≤ 102 then some (b.toNat - 87)
  else none

/-- An octet as two hexadecimal digits. -/
def hexText (b : UInt8) : String :=
  String.ofList [Nat.digitChar (b.toNat / 16), Nat.digitChar (b.toNat % 16)]

end Octets

end Sluice

import Sluice.Text.Digits
import Sluice.Octets.Basic

/-
  IPv4 addresses, and their dotted text: four numbers below 256 without leading zeros.
-/

namespace Sluice

/-- An IPv4 address. -/
structure Ipv4 where
  a : UInt8
  b : UInt8
  c : UInt8
  d : UInt8
  deriving DecidableEq, Repr

namespace Ipv4

def octets (ip : Ipv4) : Octets :=
  [ip.a, ip.b, ip.c, ip.d]

/-- The address of four octets. -/
def ofOctets? : Octets → Option Ipv4
  | [a, b, c, d] => some ⟨a, b, c, d⟩
  | _ => none

/-- The address of a 32-bit number. -/
def ofNat (n : Nat) : Ipv4 :=
  ⟨UInt8.ofNat (n >>> 24), UInt8.ofNat (n >>> 16), UInt8.ofNat (n >>> 8), UInt8.ofNat n⟩

/-- One of the four numbers at the front of a text. -/
def readPart (s : List Char) : Option (UInt8 × List Char) :=
  let (digits, rest) := Digits.take 10 s
  let n := Digits.toNat 10 digits
  if digits.isEmpty || 3 < digits.length || (digits.head? == some '0' && 1 < digits.length) ||
      256 ≤ n then none
  else some (UInt8.ofNat n, rest)

/-- A full stop, then one of the four numbers. -/
def readDotPart : List Char → Option (UInt8 × List Char)
  | '.' :: rest => readPart rest
  | _ => none

/-- An address at the front of a text. -/
def read (s : List Char) : Option (Ipv4 × List Char) := do
  let (a, s) ← readPart s
  let (b, s) ← readDotPart s
  let (c, s) ← readDotPart s
  let (d, s) ← readDotPart s
  return (⟨a, b, c, d⟩, s)

/-- The address that a text writes. -/
def parse? (s : List Char) : Option Ipv4 :=
  match read s with
  | some (ip, []) => some ip
  | _ => none

/-- The text of an address. -/
def text (ip : Ipv4) : String :=
  s!"{ip.a.toNat}.{ip.b.toNat}.{ip.c.toNat}.{ip.d.toNat}"

instance : ToString Ipv4 := ⟨text⟩

def loopback : Ipv4 :=
  ⟨127, 0, 0, 1⟩

end Ipv4

end Sluice

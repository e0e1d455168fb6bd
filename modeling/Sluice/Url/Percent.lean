import Sluice.Octets.Basic

/-
  Percent-encoding: an octet as a per cent sign and two hexadecimal digits. Reading takes a sign
  that no two digits follow as it stands.
-/

namespace Sluice.Percent

/-- The sign in front of the digits. -/
@[match_pattern] abbrev sign : UInt8 := 37

/-- The octet that two hexadecimal digits write. -/
def pair? (high low : UInt8) : Option UInt8 :=
  match Octets.hexValue? high, Octets.hexValue? low with
  | some h, some l => some (UInt8.ofNat (h * 16 + l))
  | _, _ => none

/-- What the octets stand for. -/
def decode : Octets → Octets
  | sign :: high :: low :: rest =>
    match pair? high low with
    | some b => b :: decode rest
    | none => sign :: decode (high :: low :: rest)
  | b :: rest => b :: decode rest
  | [] => []

/-- A per cent sign and two digits. -/
def encodeOctet (b : UInt8) : List Char :=
  ['%', (Nat.digitChar (b.toNat / 16)).toUpper, (Nat.digitChar (b.toNat % 16)).toUpper]

/-- A text in which the characters that pass the test, and all beyond ASCII, are encoded. -/
def encode (isEncoded : Char → Bool) (text : List Char) : List Char :=
  text.flatMap fun c =>
    if isEncoded c || 127 ≤ c.toNat then (String.utf8EncodeChar c).flatMap encodeOctet else [c]

/-- The control characters of ASCII. -/
def isControl (c : Char) : Bool :=
  c.toNat < 32 || c.toNat == 127

end Sluice.Percent

import Sluice.Http.Field
import Sluice.Text.Utf8

/-
  The head of an HTTP/1 response: a version, a code of three digits, a reason that may be missing,
  and fields.
-/

namespace Sluice.Http

open Octets Scanner

/-- The head of a response. -/
structure Response where
  minorVersion : Nat
  code : Nat
  /-- Empty if it is missing or not ASCII. -/
  reason : String
  fields : List Field
  deriving DecidableEq, Repr

namespace Response

/-- A digit of the code. -/
def codeDigit : Scanner Fault Nat := do
  let b ← next
  if isDigit b then return b.toNat - 48 else bad .status

/-- The code. -/
def codeNumber : Scanner Fault Nat := do
  let hundreds ← codeDigit
  let tens ← codeDigit
  let ones ← codeDigit
  return hundreds * 100 + tens * 10 + ones

/-- A reason phrase as a text; one that is not ASCII is dropped. -/
def reasonText (phrase : Octets) : String :=
  if phrase.any (128 ≤ ·) then ""
  else String.ofList (phrase.map fun b => Char.ofNat b.toNat)

/-- The reason, to the end of the line. -/
def reasonPhrase : Scanner Fault String := do
  let b ← next
  if b = space then
    let phrase ← takeWhile isText
    lineEnd .status
    return reasonText phrase
  else if b = lf then return ""
  else if b = cr then
    expect lf .status
    return ""
  else bad .status

/-- A response head with room for so many fields. -/
def scanner (slots : Nat) : Scanner Fault Response := do
  emptyLines
  let minorVersion ← version
  expect space .version
  let code ← codeNumber
  let reason ← reasonPhrase
  let fields ← fieldList slots
  return { minorVersion, code, reason, fields }

end Response

end Sluice.Http

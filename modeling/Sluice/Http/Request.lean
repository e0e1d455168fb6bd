import Sluice.Http.Field
import Sluice.Text.Utf8

/-
  The head of an HTTP/1 request: a method, a target, a version, and fields.
-/

namespace Sluice.Http

open Octets Scanner

/-- The head of a request. -/
structure Request where
  method : Octets
  target : String
  minorVersion : Nat
  fields : List Field
  deriving DecidableEq, Repr

namespace Request

/-- The method and the space behind it. -/
def methodWord : Scanner Fault Octets := do
  let method ← takeWhile isToken
  if method.isEmpty then bad .token
  expect space .token
  return method

/-- The target and the space behind it. -/
def targetWord : Scanner Fault String := do
  let target ← takeWhile isTarget
  expect space .token
  match Utf8.text? target with
  | some text => if target.isEmpty then bad .token else return text
  | none => bad .token

/-- A request head with room for so many fields. -/
def scanner (slots : Nat) : Scanner Fault Request := do
  emptyLines
  let method ← methodWord
  let target ← targetWord
  let minorVersion ← version
  lineEnd .newLine
  let fields ← fieldList slots
  return { method, target, minorVersion, fields }

end Request

end Sluice.Http

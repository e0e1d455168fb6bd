import Sluice.Tls.Extension

/-
  Handshake messages: a type, the length of the body, the body. The ClientHello is read in full. For
  the other types it is only told whether the body fits the type.
-/

namespace Sluice.Tls

open Reader

/-- The fields of a ClientHello. -/
structure Hello where
  version : Nat
  random : Octets
  sessionId : Octets
  ciphers : Octets
  compressions : Octets
  /-- The extension block, absent if the body ends before it or is too short for its length. -/
  extensions : Option Octets
  deriving DecidableEq, Repr

/-- The body of a ClientHello. What stands behind the extension block is not looked at. -/
def Hello.reader : Reader Hello := do
  let version ← number 2
  let random ← take 32
  let sessionId ← block 1
  require (sessionId.length ≤ 32)
  let ciphers ← block 2
  require (ciphers.length % 2 = 0)
  let compressions ← block 1
  let extensions ← optional (block 2)
  return { version, random, sessionId, ciphers, compressions, extensions }

/-- The type of a ClientHello. -/
def clientHelloType : Nat := 1

/-- The body of a ServerHello. -/
def serverHello : Reader Unit := do
  let version ← number 2
  require (version == 0x7f12 || (0x0300 ≤ version && version ≤ 0x0303))
  let _ ← take 32
  if version == 0x7f12 then
    let _ ← number 2
  else
    let sessionId ← block 1
    require (sessionId.length ≤ 32)
    let _ ← number 2
    let _ ← number 1

/-- The body of a certificate request, with or without a list of signature algorithms. -/
def certificateRequest (content : Octets) : Bool :=
  accepts (do let _ ← block 1; let _ ← block 2; block 2) content ||
    accepts (do let _ ← block 1; block 2) content

/-- Does a body fit a message type other than ClientHello? -/
def fits (type : Nat) (body : Octets) : Bool :=
  match type with
  | 0 | 5 | 12 | 14 | 15 | 16 | 20 => true
  | 2 => accepts serverHello body
  | 4 => accepts (number 4) body
  | 6 => accepts (do let _ ← number 2; number 2) body
  | 11 => accepts (block 3) body
  | 13 => certificateRequest body
  | 22 => accepts (do let _ ← number 1; block 3) body
  | 24 => accepts (number 1) body
  | 67 => accepts (do let _ ← block 1; block 1) body
  | _ => false

/-- A handshake message, as far as it matters here. -/
inductive Message where
  | clientHello (hello : Hello)
  | other (type : Nat)
  deriving DecidableEq, Repr

/-- A handshake message, `none` if it is malformed. -/
def Message.reader : Reader Message := do
  let type ← number 1
  let body ← block 3
  if type = clientHelloType then
    match Hello.reader body with
    | some (hello, _) => return .clientHello hello
    | none => fail
  else
    require (fits type body)
    return .other type

end Sluice.Tls

import Sluice.Destination.Target
import Sluice.Proxy.Url
import Sluice.Stream.Session

/-
  The client side of SOCKS5 (RFC 1928), signing in with a user name and password where the server
  asks for it (RFC 1929). Names are sent as they are; the server resolves them. Not one octet behind
  the server's last reply is read.
-/

namespace Sluice.Socks5

open Session

/-! ## Numbers -/

def version : UInt8 := 5
def connectCommand : UInt8 := 1
def reserved : UInt8 := 0

def typeV4 : UInt8 := 1
def typeDomain : UInt8 := 3
def typeV6 : UInt8 := 4

def noSignIn : UInt8 := 0
def passwordSignIn : UInt8 := 2
def noneAcceptable : UInt8 := 0xFF

def passwordVersion : UInt8 := 1
def granted : UInt8 := 0

/-- What a server says by the code of its reply. -/
def replyText (code : UInt8) : String :=
  match code.toNat with
  | 1 => "general SOCKS server failure"
  | 2 => "connection not allowed by ruleset"
  | 3 => "network unreachable"
  | 4 => "host unreachable"
  | 5 => "connection refused"
  | 6 => "TTL expired"
  | 7 => "command not supported"
  | 8 => "address type not supported"
  | _ => "unknown error"

/-! ## Faults -/

/-- Why a server gave no connection. -/
inductive Fault where
  | greetingNotSent (error : IoError)
  | methodNotRead (error : IoError)
  | methodVersion (version : UInt8)
  | noMethod
  | unoffered (method : UInt8)
  | signInNotSent (error : IoError)
  | signInNotRead (error : IoError)
  | signInVersion (version : UInt8)
  | signInRefused
  | domainLength (length : Nat)
  | requestNotSent (error : IoError)
  | replyNotRead (error : IoError)
  | replyVersion (version : UInt8)
  | addressType (type : UInt8)
  | addressNotRead (error : IoError)
  | domainNotUtf8 (fault : Utf8.Fault)
  | refused (code : UInt8)
  deriving DecidableEq, Repr

/-- The wording of a fault. -/
def Fault.message : Fault → String
  | greetingNotSent e => s!"Failed to send greeting: {e.message}"
  | methodNotRead e => s!"Failed to read auth method response: {e.message}"
  | methodVersion v => s!"Invalid SOCKS version in auth response: {v.toNat}"
  | noMethod => "SOCKS5 server accepted none of the offered methods"
  | unoffered m => s!"SOCKS5 server selected unoffered method 0x{Octets.hexText m}"
  | signInNotSent e => s!"Failed to send auth request: {e.message}"
  | signInNotRead e => s!"Failed to read auth response: {e.message}"
  | signInVersion v => s!"Invalid auth response version: {v.toNat}"
  | signInRefused => "SOCKS5 authentication failed"
  | domainLength n => s!"Invalid domain name length: {n}"
  | requestNotSent e => s!"Failed to send connect request: {e.message}"
  | replyNotRead e => s!"Failed to read connect response header: {e.message}"
  | replyVersion v => s!"Invalid SOCKS version in response: {v.toNat}"
  | addressType t => s!"Unsupported bind address type: {t.toNat}"
  | addressNotRead e => e.message
  | domainNotUtf8 f => s!"Invalid UTF-8 in bind domain name: {f.message}"
  | refused c => s!"SOCKS5 CONNECT failed: {replyText c} (0x{Octets.hexText c})"

/-! ## Messages -/

/-- A string behind its length, which takes one octet. -/
def counted (s : Octets) : Octets :=
  UInt8.ofNat s.length :: s

/-- The ways of signing in that the client can use. -/
def methods (credentials : Option Credentials) : Octets :=
  if credentials.isSome then [noSignIn, passwordSignIn] else [noSignIn]

/-- The first message. -/
def greeting (credentials : Option Credentials) : Octets :=
  version :: counted (methods credentials)

/-- The message that signs in. -/
def signIn (c : Credentials) : Octets :=
  passwordVersion :: counted (Octets.ofText c.username) ++ counted (Octets.ofText c.password)

/-- The address of a target. A name has to be of 1 to 255 octets. -/
def address (target : Target) : Except Fault Octets :=
  match target with
  | .v4 ip => .ok (typeV4 :: ip.octets)
  | .v6 ip => .ok (typeV6 :: ip.octets)
  | .domain name =>
    let octets := Octets.ofText name
    if octets.isEmpty || 255 < octets.length then .error (.domainLength octets.length)
    else .ok (typeDomain :: counted octets)

/-- The message that asks for a connection. -/
def request (target : Target) (port : UInt16) : Except Fault Octets := do
  return [version, connectCommand, reserved] ++ (← address target) ++ Octets.ofNat 2 port.toNat

/-! ## The conversation -/

variable {σ : Type} [Readable σ]

/-- Reads the way of signing in that the server chose. -/
def readMethod : Session σ Fault UInt8 := do
  match ← readExact .methodNotRead 2 with
  | [v, method] => if v = version then return method else fail (.methodVersion v)
  | _ => fail .noMethod

/-- Reads whether the sign-in was granted. -/
def readGrant : Session σ Fault Unit := do
  match ← readExact .signInNotRead 2 with
  | [v, status] =>
    if v ≠ passwordVersion then fail (.signInVersion v)
    else if status ≠ granted then fail .signInRefused
    else return ()
  | _ => fail .signInRefused

/-- Reads an address of this type. -/
def readAddress (type : UInt8) : Session σ Fault Target := do
  if type = typeV4 then
    match Ipv4.ofOctets? (← readExact .addressNotRead 4) with
    | some ip => return .v4 ip
    | none => fail (.addressType type)
  else if type = typeV6 then
    match Ipv6.ofOctets? (← readExact .addressNotRead 16) with
    | some ip => return .v6 ip
    | none => fail (.addressType type)
  else if type = typeDomain then
    let length ← readNumber .addressNotRead 1
    match Utf8.decode (← readExact .addressNotRead length) with
    | .ok cs => return .domain (String.ofList cs)
    | .error f => fail (.domainNotUtf8 f)
  else fail (.addressType type)

/-- A host and a port on the server's side. -/
structure Bound where
  code : UInt8
  host : Target
  port : UInt16
  deriving DecidableEq, Repr

/-- Reads the reply to the request. -/
def readReply : Session σ Fault Bound := do
  match ← readExact .replyNotRead 4 with
  | [v, code, _, type] =>
    if v ≠ version then fail (.replyVersion v)
    else
      let host ← readAddress type
      let port ← readNumber .addressNotRead 2
      return { code, host, port := UInt16.ofNat port }
  | _ => fail .noMethod

/-- Signs in the way the server chose. -/
def signInBy (method : UInt8) (credentials : Option Credentials) : Session Transport Fault Unit :=
  if method = noSignIn then pure ()
  else if method = noneAcceptable then fail .noMethod
  else
    match credentials with
    | none => fail (.unoffered method)
    | some c =>
      if method = passwordSignIn then do
        send .signInNotSent (signIn c)
        readGrant
      else fail (.unoffered method)

/-- Asks for a connection; answers with the address that the server bound for it. -/
def connect (target : Target) (port : UInt16) (credentials : Option Credentials) :
    Session Transport Fault (Target × UInt16) := do
  send .greetingNotSent (greeting credentials)
  signInBy (← readMethod) credentials
  match request target port with
  | .error f => fail f
  | .ok octets =>
    send .requestNotSent octets
    let bound ← readReply
    if bound.code = granted then return (bound.host, bound.port) else fail (.refused bound.code)

end Sluice.Socks5

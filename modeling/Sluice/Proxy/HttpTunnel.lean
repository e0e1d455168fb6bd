import Sluice.Destination.Basic
import Sluice.Http.Response
import Sluice.Proxy.Url
import Sluice.Stream.Session
import Sluice.Text.Base64

/-
  The client side of an HTTP tunnel: a CONNECT request, and a response that is read octet by octet
  up to the first empty line, so that nothing behind it is consumed.
-/

namespace Sluice.HttpTunnel

open Session

/-- The longest response head. -/
def maxResponseHead : Nat := 8 * 1024

/-- The most fields in a response head. -/
def maxResponseFields : Nat := 32

/-- Why there is no tunnel. -/
inductive Fault where
  | notSent (error : IoError)
  | notRead (error : IoError)
  | tooLong
  | incomplete
  | malformed (fault : Http.Fault)
  | refused (destination : Destination) (code : Nat) (reason : String)
  deriving DecidableEq, Repr

/-- The wording of a fault. -/
def Fault.message : Fault → String
  | notSent e => e.message
  | notRead e => s!"HTTP proxy closed before responding: {e.message}"
  | tooLong => s!"HTTP proxy response head exceeds {maxResponseHead} bytes"
  | incomplete => "incomplete HTTP proxy response"
  | malformed f => s!"malformed HTTP proxy response: {f.message}"
  | refused d code reason => s!"HTTP proxy refused CONNECT {d}: {code} {reason}"

/-- User name and password as one word. -/
def basicWord (c : Credentials) : String :=
  String.ofList (Base64.encode (Octets.ofText s!"{c.username}:{c.password}"))

/-- The field that signs in. -/
def signInField : Option Credentials → String
  | none => ""
  | some c => s!"Proxy-Authorization: Basic {basicWord c}\r\n"

/-- The request for a tunnel. -/
def request (d : Destination) (credentials : Option Credentials) : String :=
  s!"CONNECT {d} HTTP/1.1\r\nHost: {d}\r\nProxy-Connection: Keep-Alive\r\n" ++
    signInField credentials ++ "\r\n"

/-- Does a text end in an empty line? The text is given backwards. -/
def endsHead : Octets → Bool
  | 10 :: 13 :: 10 :: 13 :: _ => true
  | _ => false

variable {σ : Type} [Readable σ]

/-- Reads up to the empty line, `left` octets at most; `before` is what was read, last first. -/
def readHeadFrom (before : Octets) : (left : Nat) → Session σ Fault Octets
  | 0 => fail .tooLong
  | left + 1 => do
    let b ← readOctet .notRead
    if endsHead (b :: before) then return (b :: before).reverse
    else readHeadFrom (b :: before) left

/-- Reads a response head. -/
def readHead : Session σ Fault Octets :=
  readHeadFrom [] maxResponseHead

/-- What a response head comes to. -/
def judge (d : Destination) (head : Octets) : Except Fault Unit :=
  match (Http.Response.scanner maxResponseFields).run head with
  | .error f => .error (.malformed f)
  | .ok none => .error .incomplete
  | .ok (some (response, _)) =>
    if 200 ≤ response.code ∧ response.code < 300 then .ok ()
    else .error (.refused d response.code response.reason)

/-- Asks for a tunnel to the destination. -/
def establish (d : Destination) (credentials : Option Credentials) :
    Session Transport Fault Unit := do
  send .notSent (Octets.ofText (request d credentials))
  match judge d (← readHead) with
  | .ok () => return ()
  | .error f => fail f

end Sluice.HttpTunnel

import Sluice.Http.Head
import Sluice.Tls.Record

/-
  Looking at the first octets of a connection. Each stage reads through a peek and closes it,
  however it ends, so the next reader sees the connection as if nobody had looked
  (`unread_peeking`).
-/

namespace Sluice.Sniff

/-- What the first octet suggests. -/
inductive Protocol where
  | tls
  | plain
  deriving DecidableEq, Repr

/-- What a stage found, and how many octets it looked at. -/
structure Found (α : Type) where
  value : α
  consumed : Nat
  deriving DecidableEq, Repr

variable {σ ε α : Type}

/-- Holds a conversation through a peek. -/
def peeking (p : Session (Peek σ) ε α) : Session (Replay σ) ε (Found α) :=
  fun r =>
    let (outcome, peek) := p (Peek.start r)
    (outcome.map fun value => { value, consumed := peek.consumed }, peek.close)

/-- Holds a conversation that cannot talk back. -/
def muted (p : Session (ReadOnly σ) ε α) : Session σ ε α :=
  fun s =>
    let (outcome, s) := p ⟨s⟩
    (outcome, s.inner)

/-- What a first octet suggests. -/
def Protocol.ofOctet (b : UInt8) : Protocol :=
  if b = Tls.handshakeRecord then tls else plain

/-- Reads one octet. -/
def readProtocol [Readable σ] : Session σ SniffError Protocol := do
  match ← Session.read .ofRead 1 with
  | [] => Session.fail .eof
  | b :: _ => return Protocol.ofOctet b

/-- Reads a ClientHello. -/
def readHello [Readable σ] : Session σ SniffError Tls.ClientHello := do
  match Tls.ClientHello.ofMessage (← Tls.readMessage) with
  | .ok hello => return hello
  | .error f => Tls.refuse f

/-- Tells the protocol. -/
def classify [Readable σ] : Session (Replay σ) SniffError (Found Protocol) :=
  peeking readProtocol

/-- Looks for a ClientHello. -/
def clientHello [Readable σ] : Session (Replay σ) SniffError (Found Tls.ClientHello) :=
  peeking (muted readHello)

/-- Looks for a request head. -/
def httpHead [Readable σ] : Session (Replay σ) SniffError (Found Http.Head) :=
  peeking Http.readHead

/-- What a connection turned out to carry. -/
inductive Sighting where
  | hello (hello : Found Tls.ClientHello)
  | head (head : Found Http.Head)
  deriving DecidableEq, Repr

namespace Sighting

/-- The name that the client asks for. -/
def hostname : Sighting → Option String
  | hello h => h.value.serverName
  | head h => h.value.host

def isTls : Sighting → Bool
  | hello _ => true
  | head _ => false

end Sighting

/-- Tells the protocol, then looks for the name that the client asks for. -/
def sniff [Readable σ] : Session (Replay σ) SniffError Sighting := do
  match (← classify).value with
  | .tls => return .hello (← clientHello)
  | .plain => return .head (← httpHead)

end Sluice.Sniff

import Sluice.Server.Launch

/-
  Far sides that act on what they get, for runs without sockets: a server that was dialed, and a
  client that may wait for the proxy to end first.
-/

namespace Sluice

/-- How a server that was dialed behaves. -/
inductive Conduct where
  /-- It sends back what it gets, and ends when the proxy ends. -/
  | echo
  /-- It never says a word and never ends. -/
  | mute
  /-- It says this, reads so many octets or to the end, and ends; it speaks first or last. -/
  | reply (text : Octets) (first : Bool) (readCount : Option Nat)
  deriving DecidableEq, Repr

/-- A server that was dialed. -/
structure Peer where
  conduct : Conduct
  /-- How many octets it has answered. -/
  answered : Nat := 0
  ended : Bool := false
  deriving DecidableEq, Repr

namespace Peer

/-- What it says before it has got anything. -/
def opening (p : Peer) : Source :=
  match p.conduct with
  | .reply text true _ => [.data text, .silence]
  | _ => [.silence]

/-- What it says once it has got these octets, and perhaps the end; nothing if it goes on waiting.
-/
def act (got : Octets) (atEnd : Bool) (p : Peer) : Option Source × Peer :=
  if p.ended then (none, p)
  else
    match p.conduct with
    | .mute => (none, p)
    | .echo =>
      let fresh := got.drop p.answered
      if fresh.isEmpty && !atEnd then (none, p)
      else
        (some (.data fresh :: if atEnd then [] else [.silence]),
          { p with answered := got.length, ended := atEnd })
    | .reply text first readCount =>
      let ready : Bool := match readCount with
        | some n => n ≤ got.length
        | none => atEnd
      if ready then (some (if first then [] else [.data text]), { p with ended := true })
      else (none, p)

end Peer

namespace Server

/-- The relay of a handler. -/
def relay? (id : Nat) (s : Server) : Option Relay := do
  (← s.handler? id).connection.relay?

/-- What the client of a handler was sent. -/
def sentToClient (id : Nat) (s : Server) : Octets :=
  ((s.relay? id).map fun r => r.down.sink.accepted).getD []

/-- Lets a handler and its far sides take turns. A holding client ends once the proxy has. -/
def converse (w : Circumstances) (id : Nat) (holding : Bool) :
    (turns : Nat) → Server → Peer → Server × Peer
  | 0, s, p => (s.settle w id, p)
  | turns + 1, s, p =>
    let s := s.settle w id
    match s.relay? id with
    | none => (s, p)
    | some r =>
      let (more, p) := p.act r.up.sink.accepted (r.remote.attempts.contains .write || r.concluded)
      let s := more.elim s fun more => s.arriveAt id .remote more
      let ends := holding && r.client.attempts.contains .write
      let s := if ends then s.arriveAt id .client [] else s
      converse w id holding turns s p

/-- Enough turns: greeting, answer, end, and the other end. -/
def turnsOfConversation : Nat := 4

end Server

end Sluice

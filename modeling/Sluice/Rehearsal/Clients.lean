import Sluice.Rehearsal.Peer

/-
  A server with clients that connect, send, read and finish step by step, for runs without sockets.
-/

namespace Sluice

/-- A client, and the server that was dialed for it. -/
structure RehearsedClient where
  /-- The handler that serves it, unless it was rejected. -/
  handler : Option Nat
  peer : Peer
  /-- How many octets it has read. -/
  read : Nat := 0
  finished : Bool := false
  deriving DecidableEq, Repr

/-- A server and its clients. -/
structure Rehearsal where
  server : Server
  clients : Array RehearsedClient := #[]
  /-- How many of the next connections cannot be accepted. -/
  acceptErrors : Nat := 0
  base : Destination
  conduct : Conduct
  deriving DecidableEq, Repr

namespace Rehearsal

/-- What became of a client that connected. -/
inductive Admission where
  | accepted
  | rejected
  /-- Nobody listens any more. -/
  | refused
  deriving DecidableEq, Repr

/-- What a handler meets with. -/
def circumstances (r : Rehearsal) : Circumstances :=
  { base := .ok r.base
    dial := fun _ =>
      .done
        { source := Peer.opening { conduct := r.conduct }, closer := { ability := .works } } }

/-- Makes a move in the server, if it can be made. -/
def move (m : Server.Move) (r : Rehearsal) : Rehearsal :=
  { r with server := (r.server.step m).getD r.server }

/-- Lets a client and its handler go on until nothing moves. -/
def settle (r : Rehearsal) (i : Nat) : Rehearsal :=
  match r.clients[i]? with
  | none => r
  | some c =>
    match c.handler with
    | none => r
    | some id =>
      let (server, peer) :=
        r.server.converse r.circumstances id false Server.turnsOfConversation c.peer
      { r with server, clients := r.clients.setIfInBounds i { c with peer } }

/-- The failure of a connection that cannot be accepted. -/
def acceptError : IoError :=
  .ofErrno 24

/-- A client connects. -/
def connect (r : Rehearsal) : Admission × Rehearsal :=
  if r.server.phase ≠ .accepting then (.refused, r)
  else
    let r := (List.replicate r.acceptErrors (Server.Move.acceptFails acceptError)).foldl
      (fun r m => r.move m) { r with acceptErrors := 0 }
    let i := r.clients.size
    let address : SocketAddress := .v4 Ipv4.loopback (UInt16.ofNat (50000 + i))
    let id := r.server.nextId
    let client : Transport := { source := [.silence], closer := { ability := .works } }
    let r := r.move (.arrive address client)
    let accepted := r.server.nextId ≠ id
    let handler := if accepted then some id else none
    let r := { r with clients := r.clients.push { handler, peer := { conduct := r.conduct } } }
    (if accepted then .accepted else .rejected, r.settle i)

/-- All that a client was sent. -/
def received (r : Rehearsal) (c : RehearsedClient) : Octets :=
  (c.handler.map fun id => r.server.sentToClient id).getD []

/-- What a client has not read yet. -/
def unreadBy (r : Rehearsal) (c : RehearsedClient) : Octets :=
  (r.received c).drop c.read

/-- A client sends more. -/
def send (r : Rehearsal) (i : Nat) (more : Source) : Rehearsal :=
  match r.clients[i]?.bind RehearsedClient.handler with
  | none => r
  | some id => { r with server := r.server.arriveAt id .client more }.settle i

/-- A client reads at most `n` octets; all there are if no number is given. -/
def take (r : Rehearsal) (i : Nat) (n : Option Nat) : Octets × Rehearsal :=
  match r.clients[i]? with
  | none => ([], r)
  | some c =>
    let left := r.unreadBy c
    let got := n.elim left fun n => left.take n
    (got, { r with clients := r.clients.setIfInBounds i { c with read := c.read + got.length } })

/-- A client ends, and reads to the end. -/
def finish (r : Rehearsal) (i : Nat) : Octets × Rehearsal :=
  let r := r.send i []
  let r := { r with clients := r.clients.modify i fun c => { c with finished := true } }
  r.take i none

/-- The server drains; answers with what is left for each client that has not finished. -/
def join (r : Rehearsal) : List Octets × Rehearsal :=
  let look := Server.Move.look r.server.shutdownTimeout
  let r := (List.range r.clients.size).foldl settle (r.move look)
  let r := r.move look
  (r.clients.toList.filterMap fun c => if c.finished then none else some (r.unreadBy c), r)

end Rehearsal

end Sluice

import Sluice.CommandLine.Run
import Sluice.Destination.Resolver
import Sluice.Rehearsal.Network
import Sluice.Rehearsal.Peer

/-
  A whole run of the program in a network of scripted servers: clients come one after another, each
  says its piece and ends, and then a signal stops the server.
-/

namespace Sluice.CommandLine

/-- A client that was served. -/
structure Visit where
  /-- What it was sent. -/
  got : Octets
  /-- What the forward proxy was sent on its behalf, if it was reached. -/
  proxied : Option Octets
  /-- The printed lines of its connection. -/
  log : List LogEvent
  deriving DecidableEq, Repr

/-- Where a run takes place. -/
structure Scene where
  network : Network := []
  nat : NatTables := {}
  /-- What each client says. -/
  clients : List Octets := []

namespace Launch

/-- Are the lines of a connection marked as such? They are if the log shows its beginning. -/
def marksConnections (l : Launch) : Bool :=
  l.filter.enables .handler .info

/-- What a handler meets with. -/
def circumstances (l : Launch) (s : Scene) (address : SocketAddress) : Circumstances :=
  { base := l.config.server.mode.baseDestination address s.nat.lookup
    dial := fun destination =>
      ((s.network.dial l.dialer destination).1.map Dialed.transport).mapError Dialer.Fault.chain
    interruption := fun _ => some .timeout }

/-- What the forward proxy was sent for a connection. -/
def proxied (l : Launch) (s : Scene) (c : Connection) : Option Octets :=
  match c.relay?, c.dials with
  | some r, _ => some r.up.sink.accepted
  | none, [] => none
  | none, d :: _ =>
    let (host, port) := l.dialer.server d
    match s.network.reach host port with
    | .done _ => some (s.network.dial l.dialer d).2.sink.accepted
    | _ => none

/-- Serves a client from its arrival to its end. -/
def visit (l : Launch) (s : Scene) (address : SocketAddress) (client : Octets) (server : Server) :
    Option Visit × Server :=
  let id := server.nextId
  let t : Transport := { source := [.data client], closer := { ability := .works } }
  let sender : SocketAddress := .v4 Ipv4.loopback 50000
  let server := (server.step (.arrive sender t)).getD server
  let server := server.settle (l.circumstances s address) id
  match server.handler? id with
  | none => (none, server)
  | some h =>
    let c := h.connection
    let printed := c.log.filter fun e => l.filter.enables e.source e.level
    let visit :=
      { got := server.sentToClient id
        proxied := l.proxied s c
        log := if l.marksConnections then printed else [] }
    (some visit, if l.marksConnections then server else printed.foldl (fun s e => s.note e) server)

/-- Serves clients one after another. -/
def visits (l : Launch) (s : Scene) (address : SocketAddress) :
    List Octets → Server → List Visit × Server
  | [], server => ([], server)
  | client :: rest, server =>
    let (visit, server) := l.visit s address client server
    let (visits, server) := l.visits s address rest server
    (visit.toList ++ visits, server)

/-- Serves all clients, and then a signal. -/
def serve (l : Launch) (s : Scene) (address : SocketAddress) (signal : Signal) :
    List Visit × Report :=
  let (visits, server) := l.visits s address s.clients l.server.begin
  let server := server.note signal.line
  let server := (server.step .shutdown).getD server
  let server := (server.step (.look Duration.zero)).getD server
  (visits, l.served address server.log)

end Launch

end Sluice.CommandLine

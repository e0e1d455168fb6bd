import Sluice.Connection.Error
import Sluice.Destination.Basic
import Sluice.Relay.Basic
import Sluice.Sniff.Stage

/-
  One proxied connection from its arrival to its end: find out where it was headed, look at what the
  client says first, dial, relay. Each move is made by the connection itself, by a time limit or by
  a force-close; which of several possible moves comes next is not decided here.
-/

namespace Sluice

/-- How long a connection may wait. -/
structure Timeouts where
  sniff : Duration := Duration.ofSeconds 10
  dial : Duration := Duration.ofSeconds 30
  deriving DecidableEq, Repr

/-- How a connection ends. -/
inductive ConnectionEnd where
  /-- The relay was over; it failed if there is a failure. -/
  | relayed (bytesUp bytesDown : Nat) (failure : Option IoError)
  /-- It did not come to a relay. -/
  | stopped (error : ProxyError)
  deriving DecidableEq, Repr

/-- What the log says of a connection that has ended. -/
def ConnectionEnd.line : ConnectionEnd → LogEvent
  | relayed up down none =>
    ⟨.handler, .info, "proxy ends", [("bytes_up", .number up), ("bytes_down", .number down)]⟩
  | relayed up down (some e) =>
    ⟨.handler, .error, ProxyError.relayCategory,
      [("bytes_up", .number up), ("bytes_down", .number down), ("error", .text e.message)]⟩
  | stopped e => ⟨.handler, .error, e.category, [("error", .text e.message)]⟩

/-- What a connection is about. -/
inductive ConnectionStage where
  /-- Finding out where the connection was headed. -/
  | resolve
  /-- Looking at what the client says. -/
  | sniff (base : Destination)
  /-- Waiting for the dialer. -/
  | dial (destination : Destination)
  | relay (relay : Relay)
  /-- Nothing more; with the relay as it was left, if there was one. -/
  | ended (how : ConnectionEnd) (relay : Option Relay)
  deriving DecidableEq, Repr

/-- A connection from a client. -/
structure Connection where
  client : Transport
  /-- Octets that were looked at and have to be read again. -/
  held : Octets := []
  stage : ConnectionStage := .resolve
  /-- The destinations that were dialed, in order. -/
  dials : List Destination := []
  /-- Does the client speak TLS? Known once it has been looked at. -/
  isTls : Option Bool := none
  /-- Where to go. Known once the client has been looked at. -/
  destination : Option Destination := none
  log : List LogEvent := []
  deriving DecidableEq, Repr

namespace Connection

/-- A move in a connection. -/
inductive Move where
  /-- The address it was headed for is looked up. -/
  | resolve (base : Except IoError Destination)
  /-- The client has said enough. -/
  | sniff
  | sniffTimeout
  /-- The dialer answers: with a connection, or with what went wrong. -/
  | dialed (result : Except (List String) Transport)
  | dialTimeout
  | relay (move : Relay.Move)
  /-- The connection is told to stop at once. -/
  | force

/-- The client's stream as the next reader sees it. -/
def replay (c : Connection) : Replay :=
  { held := c.held, source := c.client.source }

def setReplay (r : Replay) (c : Connection) : Connection :=
  { c with held := r.held, client := { c.client with source := r.source } }

/-- The connection at its end. -/
def finish (how : ConnectionEnd) (relay : Option Relay) (c : Connection) : Connection :=
  { c with stage := .ended how relay, log := c.log ++ [how.line] }

/-- The connection stopped by an error. -/
def stop (e : ProxyError) (c : Connection) : Connection :=
  c.finish (.stopped e) none

/-- Finds out where the connection was headed. -/
def resolved (base : Except IoError Destination) (c : Connection) : Connection :=
  match base with
  | .error e => c.stop (.resolution e)
  | .ok base => { c with stage := .sniff base }

/-- The connection when the client turned out to carry this: the dialer is asked. -/
def sighted (base : Destination) (s : Sniff.Sighting) (c : Connection) : Connection :=
  let destination := base.withHostname s.hostname
  { c with
    isTls := some s.isTls
    destination := some destination
    stage := .dial destination
    dials := c.dials ++ [destination] }

/-- Looks at what the client says. -/
def sniffed (base : Destination) (c : Connection) : Option Connection :=
  match Sniff.sniff c.replay with
  | (.pending, _) => none
  | (.failed e, r) => some ((c.setReplay r).stop (.sniff e))
  | (.done s, r) => some ((c.setReplay r).sighted base s)

/-- What the log says when a relay starts. -/
def startLine : LogEvent :=
  ⟨.handler, .info, "proxy starts", []⟩

/-- The connection when the dialer has answered. -/
def dialed (result : Except (List String) Transport) (c : Connection) : Connection :=
  match result with
  | .error chain => c.stop (.dial chain)
  | .ok remote =>
    { c with
      stage := .relay (Relay.start c.held c.client remote)
      log := c.log ++ [startLine] }

/-- What went wrong with a dial that took too long. -/
def dialTimedOut (destination : Destination) (limit : Duration) : List String :=
  [s!"dial {destination} timed out after {limit.shown}"]

/-- The connection when its relay stands like this. -/
def relayed (r : Relay) (c : Connection) : Connection :=
  if r.concluded then c.finish (.relayed r.up.copied r.down.copied r.failure) (some r)
  else { c with stage := .relay r }

/-- Stops the connection at once. -/
def force (pool : Pool) (c : Connection) : Option (Pool × Connection) :=
  match c.stage with
  | .sniff _ => some (pool, c.stop (.aborted .sniffing))
  | .dial _ => some (pool, c.stop (.aborted .dialing))
  | .relay r =>
    let (pool, r) := r.force pool
    some (pool, c.relayed r)
  | _ => none

/-- Makes a move, if it can be made. -/
def step (t : Timeouts) (m : Move) (pool : Pool) (c : Connection) : Option (Pool × Connection) :=
  match m, c.stage with
  | .resolve base, .resolve => some (pool, c.resolved base)
  | .sniff, .sniff base => (c.sniffed base).map fun c => (pool, c)
  | .sniffTimeout, .sniff _ => some (pool, c.stop (.sniff (.timeout t.sniff)))
  | .dialed result, .dial _ => some (pool, c.dialed result)
  | .dialTimeout, .dial destination =>
    some (pool, c.stop (.dial (dialTimedOut destination t.dial)))
  | .relay .force, _ => none
  | .relay m, .relay r => (r.step m pool).map fun (pool, r) => (pool, c.relayed r)
  | .force, _ => c.force pool
  | _, _ => none

/-- Makes the moves of a schedule; none may be impossible. -/
def run (t : Timeouts) (pool : Pool) (c : Connection) : List Move → Option (Pool × Connection)
  | [] => some (pool, c)
  | m :: moves => do
    let (pool, c) ← c.step t m pool
    c.run t pool moves

/-- Has the connection ended? -/
def isOver (c : Connection) : Bool :=
  match c.stage with
  | .ended _ _ => true
  | _ => false

/-- The relay, while it runs and after it. -/
def relay? (c : Connection) : Option Relay :=
  match c.stage with
  | .relay r => some r
  | .ended _ r => r
  | _ => none

/-- The connection once more has arrived on one side. -/
def arrive (side : Side) (more : Source) (c : Connection) : Connection :=
  match c.stage, side with
  | .ended _ _, _ => c
  | .relay r, .client =>
    let source := { r.up.source with source := r.up.source.source.extend more }
    { c with stage := .relay { r with up := { r.up with source } } }
  | .relay r, .remote =>
    let source := { r.down.source with source := r.down.source.source.extend more }
    { c with stage := .relay { r with down := { r.down with source } } }
  | _, .client => { c with client := { c.client with source := c.client.source.extend more } }
  | _, .remote => c

end Connection

end Sluice

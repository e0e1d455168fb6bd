import Sluice.Connection.Basic
import Sluice.Server.Broadcast
import Sluice.Server.Slots

/-
  The server: it accepts connections while there are free slots, runs them side by side, and drains
  when it is told to stop. Draining waits for the running connections up to a time limit,
  force-closes whatever is left, and then waits a little longer. Every handler listens for the
  force-close from before it starts, so none can miss it.
-/

namespace Sluice

/-- How far a handler has got with leaving. -/
inductive HandlerStatus where
  /-- It counts as active. -/
  | counted
  /-- It no longer counts, but still has its slot. -/
  | leaving
  | gone
  deriving DecidableEq, Repr

/-- A connection that was given a slot. -/
structure Handler where
  /-- The number of the connection; the first is 1. -/
  id : Nat
  slot : Nat
  /-- Listens for the force-close. -/
  forceClose : Receiver
  connection : Connection
  status : HandlerStatus := .counted
  deriving DecidableEq, Repr

namespace Handler

/-- Has the force-close come? The receiver once it has been seen. A handler that finds nobody left
to send it goes on as if nothing had happened. -/
def forced (b : Broadcast) (h : Handler) : Option Receiver :=
  match h.forceClose.wait b.sent b.isOpen with
  | some (.request, r) => some r
  | some (.lagged _, r) => some r
  | some (.closed, _) => none
  | none => none

/-- The receiver of a handler when its connection makes this move: only a force-close has to have
been sent, and is used up. -/
def listen (b : Broadcast) (h : Handler) : Connection.Move → Option Receiver
  | .force => h.forced b
  | _ => some h.forceClose

end Handler

/-- What the server is doing. -/
inductive ServerPhase where
  | accepting
  /-- Waiting for the running connections. -/
  | draining
  /-- Waiting for the connections that were force-closed. -/
  | forcing
  | stopped
  deriving DecidableEq, Repr

/-- A running server. -/
structure Server where
  timeouts : Timeouts := {}
  shutdownTimeout : Duration
  slots : Slots
  pool : Pool := {}
  forceClose : Broadcast := {}
  nextId : Nat := 1
  /-- How many handlers are counted as active. -/
  active : Nat := 0
  /-- All handlers there have been, in order. -/
  handlers : List Handler := []
  phase : ServerPhase := .accepting
  log : List LogEvent := []
  deriving DecidableEq, Repr

namespace Server

/-- How long force-closed connections get. -/
def forceCloseGrace : Duration :=
  Duration.ofSeconds 5

/-- A move in a server. -/
inductive Move where
  /-- A client from this address connects. -/
  | arrive (address : SocketAddress) (client : Transport)
  /-- A connection could not be accepted. -/
  | acceptFails (error : IoError)
  /-- A connection makes a move. -/
  | connection (id : Nat) (move : Connection.Move)
  /-- A handler whose connection has ended is no longer counted. -/
  | finish (id : Nat)
  /-- A handler that is no longer counted gives back its slot. -/
  | release (id : Nat)
  /-- The server is told to stop. -/
  | shutdown
  /-- A waiting server looks; so much time has passed since the wait began. -/
  | look (elapsed : Duration)
  /-- The server is dropped. Its handlers go on, but nobody is left to force-close them. -/
  | abandon

/-- Adds a line to the log. -/
def note (e : LogEvent) (s : Server) : Server :=
  { s with log := s.log ++ [e] }

/-- Says something in the log. -/
def say (level : LogLevel) (message : String) (s : Server) : Server :=
  s.note { source := .server, level, message }

/-- Says something about the slots. -/
def saySlots (level : LogLevel) (message : String) (s : Server) : Server :=
  s.note { source := .slots, level, message }

/-- The handler with this number. -/
def handler? (id : Nat) (s : Server) : Option Handler :=
  s.handlers.find? (·.id == id)

/-- Puts a handler in the place of the one with its number. -/
def setHandler (h : Handler) (s : Server) : Server :=
  { s with handlers := s.handlers.map fun h' => if h'.id == h.id then h else h' }

/-! ## Accepting -/

/-- What the log says of a client that got no slot. -/
def rejectedText (address : SocketAddress) : String :=
  s!"Connection limit reached, rejecting connection from {address}"

/-- Takes a client in, or closes its connection if no slot is free. -/
def arrive (address : SocketAddress) (client : Transport) (s : Server) : Server :=
  let s := s.say .debug s!"Accepted connection from {address}"
  match s.slots.acquire with
  | (none, slots) =>
    { s with slots }
      |>.saySlots .warn s!"All {slots.max} connection slots taken"
      |>.say .warn (rejectedText address)
  | (some slot, slots) =>
    let s := s.saySlots .debug s!"Acquired connection slot, active connections: {slots.active}"
    { s with
      slots
      nextId := s.nextId + 1
      active := s.active + 1
      handlers := s.handlers ++
        [{ id := s.nextId
           slot
           forceClose := s.forceClose.newReceiver
           connection := { client } }] }

/-! ## Running -/

/-- Lets a connection make a move. -/
def moveConnection (id : Nat) (m : Connection.Move) (s : Server) : Option Server := do
  let h ← s.handler? id
  let forceClose ← h.listen s.forceClose m
  let (pool, connection) ← h.connection.step s.timeouts m s.pool
  return { s with pool }.setHandler { h with forceClose, connection }

/-- Stops counting a handler whose connection has ended. -/
def finish (id : Nat) (s : Server) : Option Server := do
  let h ← s.handler? id
  if h.status = .counted ∧ h.connection.isOver then
    return { s with active := s.active - 1 }.setHandler { h with status := .leaving }
  else none

/-- Frees the slot of a handler that is no longer counted. -/
def release (id : Nat) (s : Server) : Option Server := do
  let h ← s.handler? id
  if h.status = .leaving then
    return { s with slots := (s.slots.release h.slot).2 }.setHandler { h with status := .gone }
  else none

/-! ## Stopping -/

/-- Stops accepting and begins to wait for the running connections. -/
def shutdown (s : Server) : Server :=
  { s with phase := .draining }
    |>.say .info "Received shutdown signal, stopping connection acceptance"
    |>.say .info "Connection acceptance loop stopped"
    |>.say .info (s!"Waiting for {s.active} active connections to close " ++
      s!"(timeout: {s.shutdownTimeout.shown})")

/-- What the log says when all connections ended in time, up to the time. -/
def gracefulText : String :=
  "All connections closed gracefully in "

/-- Sends the force-close. -/
def forceAll (elapsed : Duration) (s : Server) : Server :=
  { s with
    phase := .forcing
    forceClose := { s.forceClose with sent := s.forceClose.sent + 1 } }
    |>.say .warn (s!"Shutdown timeout reached after {elapsed.shown} with {s.active} " ++
      "connections still active, force-closing")

/-- Looks whether the wait is over: because no connection is active, or because it took too long. -/
def look (elapsed : Duration) (s : Server) : Option Server :=
  match s.phase with
  | .draining =>
    if s.active = 0 then
      some ({ s with phase := .stopped }.say .info (gracefulText ++ elapsed.shown))
    else if s.shutdownTimeout.toNanos ≤ elapsed.toNanos then some (s.forceAll elapsed)
    else some s
  | .forcing =>
    if s.active = 0 then some { s with phase := .stopped }
    else if forceCloseGrace.toNanos ≤ elapsed.toNanos then
      some ({ s with phase := .stopped }.say .warn
        s!"{s.active} connections still active after force-close")
    else some s
  | _ => none

/-- Drops the server, once. -/
def abandon (s : Server) : Option Server :=
  if s.forceClose.isOpen then
    some { s with phase := .stopped, forceClose := { s.forceClose with isOpen := false } }
  else none

/-! ## Moves -/

/-- Makes a move, if it can be made. -/
def step (m : Move) (s : Server) : Option Server :=
  match m with
  | .arrive address client => if s.phase = .accepting then some (s.arrive address client) else none
  | .acceptFails e =>
    if s.phase = .accepting then some (s.say .error s!"Error accepting connection: {e.message}")
    else none
  | .connection id move => s.moveConnection id move
  | .finish id => s.finish id
  | .release id => s.release id
  | .shutdown => if s.phase = .accepting then some s.shutdown else none
  | .look elapsed => s.look elapsed
  | .abandon => s.abandon

/-- Makes the moves of a schedule; none may be impossible. -/
def run (s : Server) : List Move → Option Server
  | [] => some s
  | m :: moves => do
    let s ← s.step m
    s.run moves

end Server

end Sluice

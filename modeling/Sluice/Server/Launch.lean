import Sluice.Config.Basic
import Sluice.Connection.Course
import Sluice.Proxy.Dialer
import Sluice.Server.Basic

/-
  A server made from a configuration, and its handlers left to themselves.
-/

namespace Sluice

/-- The dialer that a configuration asks for. -/
def Config.dialer (c : Config) : Except ProxyUrl.Fault Dialer :=
  (ProxyUrl.parse c.outbound.proxyUrl).map fun proxy =>
    Dialer.through proxy
      { connectTimeout := c.outbound.dialTimeout, keepalive := c.outbound.keepalive? }

/-- How long a connection may wait. -/
def Config.timeouts (c : Config) : Timeouts :=
  { sniff := c.server.sniffTimeout, dial := c.outbound.dialTimeout }

namespace Server

/-- The server that a configuration describes, accepting connections. -/
def ofConfig (c : Config) : Server :=
  { timeouts := c.timeouts
    shutdownTimeout := c.server.shutdownTimeout
    slots := { max := c.server.maxConnections } }

/-- The server when it begins to accept. -/
def begin (s : Server) : Server :=
  s.say .info "Starting connection acceptance loop"

/-- Lets a handler whose connection has ended leave. -/
def leave (id : Nat) (s : Server) : Server :=
  match s.finish id with
  | none => s
  | some s => (s.release id).getD s

/-- Lets a handler go on until its connection cannot move; a force-close that it has seen ends any
wait. -/
def settle (w : Circumstances) (id : Nat) (s : Server) : Server :=
  match s.handler? id with
  | none => s
  | some h =>
    let forced := (h.forced s.forceClose).map fun _ => Interruption.force
    let w := { w with
      timeouts := s.timeouts
      interruption := fun wait => forced.or (w.interruption wait) }
    let (pool, connection) := h.connection.settle w s.pool
    ({ s with pool }.setHandler { h with connection }).leave id

/-- The server once a handler's connection has got more from one side. -/
def arriveAt (id : Nat) (side : Side) (more : Source) (s : Server) : Server :=
  match s.handler? id with
  | none => s
  | some h => s.setHandler { h with connection := h.connection.arrive side more }

end Server

end Sluice

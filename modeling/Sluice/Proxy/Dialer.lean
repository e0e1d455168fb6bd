import Sluice.Duration.Shown
import Sluice.Proxy.HttpTunnel
import Sluice.Proxy.Socks5

/-
  Dialing a destination: through a forward proxy that speaks SOCKS5 or HTTP, or straight. A dial
  first connects to a server, which takes part of its time limit, and then asks that server for the
  destination.
-/

namespace Sluice

/-- How to treat the connections that are dialed. -/
structure DialOptions where
  connectTimeout : Duration := Duration.ofSeconds 30
  /-- How long a connection may be idle before it is probed. -/
  keepalive : Option Duration := some (Duration.ofSeconds 180)
  deriving DecidableEq, Repr

/-- A way to reach destinations. -/
structure Dialer where
  options : DialOptions := {}
  /-- The forward proxy to go through, if any. -/
  proxy : Option ProxyUrl := none
  deriving DecidableEq

/-- A connection that was dialed. -/
structure Dialed where
  transport : Transport
  /-- Are small writes sent at once? -/
  noDelay : Bool := true
  keepalive : Option Duration
  deriving DecidableEq, Repr

namespace Dialer

/-- Why a destination was not reached. -/
inductive Fault where
  | connectTimeout (host : String) (port : UInt16) (limit : Duration)
  | connect (host : String) (port : UInt16) (error : IoError)
  | socks5 (fault : Socks5.Fault)
  | http (fault : HttpTunnel.Fault)
  deriving DecidableEq, Repr

/-- The wording of a fault, its cause behind it. -/
def Fault.chain : Fault → List String
  | connectTimeout host port limit =>
    [s!"connect to {host}:{port.toNat} timed out after {limit.shown}"]
  | connect host port e => [s!"connect to {host}:{port.toNat}", e.message]
  | socks5 f => [f.message]
  | http f => [f.message]

/-- The dialer that goes through a forward proxy. -/
def through (proxy : ProxyUrl) (options : DialOptions) : Dialer :=
  { options, proxy := some proxy }

/-- The server that a dial connects to. -/
def server (d : Dialer) (destination : Destination) : String × UInt16 :=
  match d.proxy with
  | none => (destination.host.text, destination.port)
  | some proxy => (proxy.host, proxy.port)

/-- Connects to the server; `reached` is what came of the attempt, and an attempt that is still
pending runs into the time limit. -/
def connect (d : Dialer) (destination : Destination) (reached : Outcome IoError Transport) :
    Except Fault Transport :=
  let (host, port) := d.server destination
  match reached with
  | .done t => .ok t
  | .failed e => .error (.connect host port e)
  | .pending => .error (.connectTimeout host port d.options.connectTimeout)

/-- A conversation whose faults are told apart from others. -/
def wrap {α : Type} {ε : Type} (word : ε → Fault) (p : Session Transport ε α) :
    Session Transport Fault Unit :=
  fun t =>
    let (outcome, t) := p t
    ((outcome.map fun _ => ()).mapError word, t)

/-- Asks the server for the destination. -/
def negotiate (d : Dialer) (destination : Destination) : Session Transport Fault Unit :=
  match d.proxy with
  | none => pure ()
  | some proxy =>
    match proxy.scheme with
    | .socks5 =>
      wrap .socks5 (Socks5.connect destination.host destination.port proxy.credentials)
    | .http => wrap .http (HttpTunnel.establish destination proxy.credentials)

/-- Dials the destination, given what came of connecting to the server. What passed between here
and the server is part of the answer in each case. -/
def dial (d : Dialer) (destination : Destination) (reached : Outcome IoError Transport) :
    Outcome Fault Dialed × Transport :=
  match d.connect destination reached with
  | .error f => (.failed f, {})
  | .ok t =>
    let (outcome, t) := d.negotiate destination t
    (outcome.map fun () => { transport := t, keepalive := d.options.keepalive }, t)

end Dialer

end Sluice

import Sluice.Proxy.Dialer

/-
  A network of scripted servers, for runs without sockets. Only loopback addresses answer: with the
  server that listens there, or with a refusal. Every other address stays silent.
-/

namespace Sluice

/-- A server that sends its script to everybody who connects, at once, and then ends. -/
structure ScriptedServer where
  ip : Ip
  port : UInt16
  script : Octets
  deriving DecidableEq, Repr

/-- The servers that listen. -/
abbrev Network := List ScriptedServer

namespace Network

/-- Is this an address of the host itself? -/
def isLoopback : Ip → Bool
  | .v4 ip => ip.octets.head? == some 127
  | .v6 ip =>
    match ip.mapped? with
    | some ip => ip.octets.head? == some 127
    | none => ip == Ipv6.loopback

/-- Nobody listens there. -/
def refusal : IoError :=
  .ofErrno 111

/-- A name that nobody can resolve. -/
def unresolved : IoError :=
  ⟨.other, "failed to lookup address information: Name or service not known"⟩

/-- The server that listens on an address. -/
def server? (net : Network) (ip : Ip) (port : UInt16) : Option ScriptedServer :=
  net.find? fun s => s.ip == ip && s.port == port

/-- What comes of connecting to an address. -/
def connect (net : Network) (ip : Ip) (port : UInt16) : Outcome IoError Transport :=
  match net.server? ip port with
  | some s => .done { source := [.data s.script], closer := { ability := .works } }
  | none => if isLoopback ip then .failed refusal else .pending

/-- What comes of connecting to a host. -/
def reach (net : Network) (host : String) (port : UInt16) : Outcome IoError Transport :=
  match Target.parse host with
  | .v4 ip => net.connect (.v4 ip) port
  | .v6 ip => net.connect (.v6 ip) port
  | .domain _ => .failed unresolved

/-- Dials a destination in this network. -/
def dial (net : Network) (d : Dialer) (destination : Destination) :
    Outcome Dialer.Fault Dialed × Transport :=
  let (host, port) := d.server destination
  d.dial destination (net.reach host port)

end Network

end Sluice

import Sluice.Destination.Target

/-
  Where a connection is headed: a host and a port. The port comes from the connection itself; the
  host may be replaced by the name that the client asked for.
-/

namespace Sluice

/-- A host and a port. -/
structure Destination where
  host : Target
  port : UInt16
  deriving DecidableEq, Repr

namespace Destination

/-- The destination that an address is. The link of a link-local address is dropped. -/
def ofAddress (a : SocketAddress) : Destination :=
  { host := Target.ofIp a.ip, port := a.port }

/-- The destination with the host that the client asked for; no name, or an empty one, asks for
nothing. -/
def withHostname (d : Destination) (name : Option String) : Destination :=
  match name with
  | none => d
  | some name => if name.isEmpty then d else { d with host := Target.parse name }

/-- The text of a destination: an IPv6 address stands in brackets. -/
def text (d : Destination) : String :=
  match d.host with
  | .v6 ip => s!"[{ip}]:{d.port.toNat}"
  | host => s!"{host}:{d.port.toNat}"

instance : ToString Destination := ⟨text⟩

end Destination

end Sluice

import Sluice.Address.Socket
import Sluice.Text.Brackets

/-
  The host to reach: an IP address, or a name that somebody else resolves. A text is an address
  whenever it can be read as one, so no name looks like an address.
-/

namespace Sluice

/-- A host to reach. -/
inductive Target where
  | v4 (ip : Ipv4)
  | v6 (ip : Ipv6)
  | domain (name : String)
  deriving DecidableEq, Repr

namespace Target

def ofIp : Ip → Target
  | .v4 ip => v4 ip
  | .v6 ip => v6 ip

/-- The host that a text names. Brackets are allowed around an address. -/
def parse (text : String) : Target :=
  match Ip.parse? (unbracketed text.toList) with
  | some ip => ofIp ip
  | none => domain text

/-- The text of a host. -/
def text : Target → String
  | v4 ip => ip.text
  | v6 ip => ip.text
  | domain name => name

instance : ToString Target := ⟨text⟩

end Target

end Sluice

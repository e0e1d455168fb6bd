import Sluice.Destination.Basic
import Sluice.Destination.Mode
import Sluice.Stream.IoError

/-
  Where a connection was headed before it arrived here. The NAT keeps a table for
  each address family; an IPv4 client of an IPv6 listener is found in the IPv4 table.
-/

namespace Sluice

/-- What a NAT table knows about a connection. -/
inductive NatEntry where
  | address (a : SocketAddress)
  /-- An address of some other family. -/
  | foreign
  | failed (error : IoError)
  deriving DecidableEq, Repr

namespace NatEntry

/-- A connection that the table does not list. -/
def absent : NatEntry :=
  failed (.ofErrno 2)

/-- What is said of an address of some other family. -/
def foreignFamily : IoError :=
  ⟨.invalidData, "original destination is not an inet address"⟩

def toExcept : NatEntry → Except IoError SocketAddress
  | address a => .ok a
  | foreign => .error foreignFamily
  | failed e => .error e

end NatEntry

/-- The NAT tables, one for each address family. -/
structure NatTables where
  v4 : NatEntry := .absent
  v6 : NatEntry := .absent
  deriving DecidableEq, Repr

namespace NatTables

/-- The table for a connection that arrived at this address. -/
def table (t : NatTables) : SocketAddress → NatEntry
  | .v4 _ _ => t.v4
  | .v6 ip _ _ => if ip.mapped?.isSome then t.v4 else t.v6

/-- The address that a connection was sent to before it was redirected. -/
def lookup (t : NatTables) (arrivedAt : SocketAddress) : Except IoError SocketAddress :=
  (t.table arrivedAt).toExcept

end NatTables

/-- The destination of a connection, before the client has said anything. -/
def Mode.baseDestination (mode : Mode) (arrivedAt : SocketAddress)
    (lookup : SocketAddress → Except IoError SocketAddress) : Except IoError Destination :=
  match mode with
  | .direct => .ok (Destination.ofAddress arrivedAt)
  | .redirect => (lookup arrivedAt).map Destination.ofAddress

end Sluice

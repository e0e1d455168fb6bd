import Sluice.Address.Ipv6

/-
  IP addresses with a port, as in `127.0.0.1:80` and `[fe80::1%2]:80`. The number behind the per
  cent sign says which link a link-local address is on.
-/

namespace Sluice

/-- An IP address. -/
inductive Ip where
  | v4 (ip : Ipv4)
  | v6 (ip : Ipv6)
  deriving DecidableEq, Repr

/-- The address that a text writes. -/
def Ip.parse? (s : List Char) : Option Ip :=
  match Ipv4.read s with
  | some (ip, []) => some (.v4 ip)
  | some _ => none
  | none => (Ipv6.parse? s).map .v6

/-- An IP address and a port. -/
inductive SocketAddress where
  | v4 (ip : Ipv4) (port : UInt16)
  | v6 (ip : Ipv6) (scope : UInt32) (port : UInt16)
  deriving DecidableEq, Repr

namespace SocketAddress

def ip : SocketAddress → Ip
  | v4 ip _ => .v4 ip
  | v6 ip _ _ => .v6 ip

def port : SocketAddress → UInt16
  | v4 _ port => port
  | v6 _ _ port => port

/-- The address with another port. -/
def withPort (port : UInt16) : SocketAddress → SocketAddress
  | v4 ip _ => v4 ip port
  | v6 ip scope _ => v6 ip scope port

/-- A colon and a port, and nothing else. -/
def readPort : List Char → Option UInt16
  | ':' :: rest =>
    match Digits.read? 10 UInt16.size rest with
    | some (n, []) => some (UInt16.ofNat n)
    | _ => none
  | _ => none

/-- The number of a link, zero if none is given; what is left if it cannot be read is the whole. -/
def readScope (s : List Char) : UInt32 × List Char :=
  match s with
  | '%' :: rest =>
    match Digits.read? 10 UInt32.size rest with
    | some (n, rest) => (UInt32.ofNat n, rest)
    | none => (0, s)
  | _ => (0, s)

/-- An IPv6 address in brackets with a port. -/
def parseV6? : List Char → Option SocketAddress
  | '[' :: rest =>
    match Ipv6.read rest with
    | none => none
    | some (ip, rest) =>
      match readScope rest with
      | (scope, ']' :: rest) => (readPort rest).map (.v6 ip scope)
      | _ => none
  | _ => none

/-- The address and port that a text writes. -/
def parse? (text : String) : Option SocketAddress :=
  match Ipv4.read text.toList with
  | some (ip, rest) => (readPort rest).map (.v4 ip)
  | none => parseV6? text.toList

/-- What is said of a text that is no address with a port. -/
def syntaxMessage : String :=
  "invalid socket address syntax"

/-- The text of an address with its port. -/
def text : SocketAddress → String
  | v4 ip port => s!"{ip}:{port.toNat}"
  | v6 ip scope port =>
    if scope = 0 then s!"[{ip}]:{port.toNat}" else s!"[{ip}%{scope.toNat}]:{port.toNat}"

instance : ToString SocketAddress := ⟨text⟩

end SocketAddress

end Sluice

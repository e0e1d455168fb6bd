import Sluice.Address.Ipv6
import Sluice.Idna.Domain
import Sluice.Url.Percent

/-
  Hosts of URLs: names, IPv4 addresses and IPv6 addresses in brackets. In most schemes a name is
  only looked at for characters that would end it. In the special ones it is a domain name, and a
  name whose last label is a number is an IPv4 address in one of its many forms: fewer than four
  parts, parts in octal or hexadecimal, a last part that fills what is left.
-/

namespace Sluice

namespace Url

/-- Why a text is no URL. -/
inductive Fault where
  | emptyHost
  | domainName
  | portNumber
  | ipv4
  | ipv6
  | domainCharacter
  | noScheme
  deriving DecidableEq, Repr

/-- The wording of a fault. -/
def Fault.message : Fault → String
  | emptyHost => "empty host"
  | domainName => "invalid international domain name"
  | portNumber => "invalid port number"
  | ipv4 => "invalid IPv4 address"
  | ipv6 => "invalid IPv6 address"
  | domainCharacter => "invalid domain character"
  | noScheme => "relative URL without a base"

/-- The host of a URL. -/
inductive Host where
  | name (name : String)
  | v4 (ip : Ipv4)
  | v6 (ip : Ipv6)
  deriving DecidableEq, Repr

namespace Host

/-- The text of a host as it stands in a URL. -/
def text : Host → String
  | name s => s
  | v4 ip => ip.text
  | v6 ip => s!"[{ip.groupText}]"

/-! ## Numbers that are addresses -/

/-- The base of a number, and the digits behind the sign of it. -/
def baseAndDigits (part : List Char) : Nat × List Char :=
  match part with
  | '0' :: 'x' :: digits => (16, digits)
  | '0' :: 'X' :: digits => (16, digits)
  | '0' :: c :: digits => (8, c :: digits)
  | _ => (10, part)

/-- The number that a part of an address writes. -/
def part? (part : List Char) : Option Nat :=
  let (base, digits) := baseAndDigits part
  if part.isEmpty || digits.any (fun c => (Digits.value? base c).isNone) then none
  else some (Digits.toNat base digits)

/-- The parts between full stops; one full stop may end the name. -/
def parts (name : List Char) : List (List Char) :=
  let all := name.splitOn '.'
  if 1 < all.length && all.getLast? == some [] then all.dropLast else all

/-- Is the last label a number, so that the name has to be an address? -/
def endsInNumber (name : List Char) : Bool :=
  match (parts name).getLast? with
  | none => false
  | some last => (!last.isEmpty && last.all Char.isDigit) || (part? last).isSome

/-- The address that numbers write: all but the last are single octets, the last has all that is
left. -/
def ipv4OfNumbers? (numbers : List Nat) : Option Ipv4 :=
  match numbers.reverse with
  | [] => none
  | last :: before =>
    let room := Nat.pow 256 (4 - before.length)
    if 3 < before.length || before.any (255 < ·) || room ≤ last then none
    else
      let high := before.reverse.foldl (fun n part => n * 256 + part) 0
      some (Ipv4.ofNat (high * room + last))

/-- The address that a name with a number at its end writes. -/
def ipv4? (name : List Char) : Option Ipv4 :=
  ((parts name).mapM part?).bind ipv4OfNumbers?

/-! ## Reading -/

/-- The address in brackets, if a host starts with one. -/
def bracketed? : List Char → Option (Except Fault Host)
  | '[' :: rest =>
    match rest.getLast? with
    | some ']' => some (((Ipv6.parse? rest.dropLast).map Host.v6).elim (.error .ipv6) .ok)
    | _ => some (.error .ipv6)
  | _ => none

/-- The characters that no name may hold. -/
def isForbidden (c : Char) : Bool :=
  c == '\x00' || "\t\n\r #/:<>?@[\\]^|".contains c

/-- The host of a URL whose scheme says nothing of names. -/
def ofOpaque (s : List Char) : Except Fault Host :=
  match bracketed? s with
  | some host => host
  | none =>
    if s.any isForbidden then .error .domainCharacter
    else .ok (.name (String.ofList (Percent.encode Percent.isControl s)))

/-- The host that a domain name in ASCII stands for. -/
def ofAscii (name : List Char) : Except Fault Host :=
  if name.isEmpty then .error .emptyHost
  else if endsInNumber name then
    match ipv4? name with
    | some ip => .ok (.v4 ip)
    | none => .error .ipv4
  else .ok (.name (String.ofList name))

/-- The host of a URL whose scheme has domain names. -/
def ofDomain (s : List Char) : Except Fault Host :=
  match bracketed? s with
  | some host => host
  | none =>
    match Idna.toAscii? (Percent.decode (s.flatMap String.utf8EncodeChar)) with
    | none => .error .domainName
    | some ascii => ofAscii ascii

end Host

end Url

end Sluice

import Sluice.Address.Ipv4

/-
  IPv6 addresses, and their text: eight groups of up to four hexadecimal digits. The last two groups
  may be written as an IPv4 address, and one run of zeros as `::`. Written out, the first of the
  longest runs of two zeros or more is left out.
-/

namespace Sluice

/-- An IPv6 address, as its eight groups. -/
structure Ipv6 where
  groups : List UInt16
  length_groups : groups.length = 8
  deriving DecidableEq, Repr

namespace Ipv6

/-- The address of eight groups. -/
def ofGroups? (groups : List UInt16) : Option Ipv6 :=
  if h : groups.length = 8 then some ⟨groups, h⟩ else none

/-- Two octets as one group. -/
def group (a b : UInt8) : UInt16 :=
  UInt16.ofNat (a.toNat * 256 + b.toNat)

def octets (ip : Ipv6) : Octets :=
  ip.groups.flatMap fun g => Octets.ofNat 2 g.toNat

/-- Octets two by two. -/
def pairUp : Octets → List UInt16
  | a :: b :: rest => group a b :: pairUp rest
  | _ => []

/-- The address of sixteen octets. -/
def ofOctets? (s : Octets) : Option Ipv6 :=
  ofGroups? (pairUp s)

/-! ## Reading -/

/-- What `readGroups` finds: the groups, whether they end in an IPv4 address, and the rest. -/
structure Groups where
  groups : List UInt16
  endsInIpv4 : Bool
  rest : List Char

/-- One group at the front of a text. -/
def readGroup (s : List Char) : Option (UInt16 × List Char) :=
  let (digits, rest) := Digits.take 16 s
  if digits.isEmpty || 4 < digits.length then none
  else some (UInt16.ofNat (Digits.toNat 16 digits), rest)

/-- The text behind the colon that a group needs in front unless it is the first. -/
def afterColon? (first : Bool) (s : List Char) : Option (List Char) :=
  if first then some s
  else
    match s with
    | ':' :: rest => some rest
    | _ => none

/-- Reads up to `limit` groups. An IPv4 address counts as two and comes last. -/
def readGroups (first : Bool) : (limit : Nat) → List Char → Groups
  | 0, s => ⟨[], false, s⟩
  | limit + 1, s =>
    match afterColon? first s with
    | none => ⟨[], false, s⟩
    | some s' =>
      match if limit = 0 then none else Ipv4.read s' with
      | some (ip, rest) => ⟨[group ip.a ip.b, group ip.c ip.d], true, rest⟩
      | none =>
        match readGroup s' with
        | none => ⟨[], false, s⟩
        | some (g, rest) =>
          let more := readGroups false limit rest
          ⟨g :: more.groups, more.endsInIpv4, more.rest⟩

/-- An address at the front of a text. -/
def read (s : List Char) : Option (Ipv6 × List Char) :=
  let front := readGroups true 8 s
  if h : front.groups.length = 8 then some (⟨front.groups, h⟩, front.rest)
  else if front.endsInIpv4 then none
  else
    match front.rest with
    | ':' :: ':' :: rest =>
      let back := readGroups true (8 - (front.groups.length + 1)) rest
      let zeros := List.replicate (8 - front.groups.length - back.groups.length) 0
      (ofGroups? (front.groups ++ zeros ++ back.groups)).map fun ip => (ip, back.rest)
    | _ => none

/-- The address that a text writes. -/
def parse? (s : List Char) : Option Ipv6 :=
  match read s with
  | some (ip, []) => some ip
  | _ => none

/-! ## Writing -/

/-- How many zeros stand at the front. -/
def zeros : List UInt16 → Nat
  | 0 :: rest => zeros rest + 1
  | _ => 0

/-- The first of the longest runs of zeros, as its start and its length; `index` is the place of the
list in the address. -/
def longestZeros (index : Nat) (best : Nat × Nat) : List UInt16 → Nat × Nat
  | [] => best
  | g :: rest =>
    let here := zeros (g :: rest)
    longestZeros (index + 1) (if best.2 < here then (index, here) else best) rest

/-- Groups in hexadecimal, joined by colons. -/
def groupsText (groups : List UInt16) : String :=
  ":".intercalate (groups.map fun g => String.ofList (Digits.ofNat 16 g.toNat))

/-- The text of an address in groups alone. -/
def groupText (ip : Ipv6) : String :=
  let (start, length) := longestZeros 0 (0, 0) ip.groups
  if length < 2 then groupsText ip.groups
  else groupsText (ip.groups.take start) ++ "::" ++ groupsText (ip.groups.drop (start + length))

/-- The IPv4 address that this one stands for. -/
def mapped? (ip : Ipv6) : Option Ipv4 :=
  match ip.groups with
  | [0, 0, 0, 0, 0, 0xffff, g, h] =>
    some ⟨UInt8.ofNat (g.toNat / 256), UInt8.ofNat g.toNat,
      UInt8.ofNat (h.toNat / 256), UInt8.ofNat h.toNat⟩
  | _ => none

/-- The address that stands for an IPv4 address. -/
def ofIpv4 (ip : Ipv4) : Ipv6 :=
  ⟨[0, 0, 0, 0, 0, 0xffff, group ip.a ip.b, group ip.c ip.d], rfl⟩

/-- The text of an address. One that stands for an IPv4 address shows it. -/
def text (ip : Ipv6) : String :=
  match ip.mapped? with
  | some v4 => s!"::ffff:{v4}"
  | none => ip.groupText

instance : ToString Ipv6 := ⟨text⟩

def loopback : Ipv6 :=
  ⟨[0, 0, 0, 0, 0, 0, 0, 1], rfl⟩

end Ipv6

end Sluice

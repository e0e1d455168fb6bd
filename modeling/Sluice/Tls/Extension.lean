import Sluice.Octets.Reader

/-
  ClientHello extensions. Only the server names and the application protocols are kept. The content
  of the other known types is checked all the same, because a block of extensions is read up to the
  first one whose content does not fit its type.
-/

namespace Sluice.Tls

open Reader

/-- An extension, as far as its content matters here. -/
inductive Extension where
  /-- The names a client gives its server, each with its type. -/
  | serverName (names : List (UInt8 × Octets))
  /-- The application protocols a client offers. -/
  | alpn (protocols : List Octets)
  | other (type : Nat) (content : Octets)
  deriving DecidableEq, Repr

/-- The type of a name that is a host name. -/
def hostNameType : UInt8 := 0

namespace Extension

/-- An entry of a server name list. -/
def nameEntry : Reader (UInt8 × Octets) := do
  let type ← number 1
  let name ← block 2
  return (UInt8.ofNat type, name)

theorem advances_nameEntry : Advances nameEntry :=
  advances_bind (advances_number (by decide)) fun _ =>
    keeps_bind (advances_block (by decide)).keeps fun _ => keeps_pure _

/-- The names of a server name extension; one without content has none. -/
def serverNames : Reader (List (UInt8 × Octets)) :=
  fun s =>
    if s.isEmpty then some ([], s)
    else
      match block 2 s with
      | some (list, rest) => some (entries nameEntry advances_nameEntry list, rest)
      | none => none

/-- The protocols of an application protocol extension. -/
def protocols : Reader (List Octets) := do
  let list ← block 2
  return entries (block 1) (advances_block (by decide)) list

/-- A block of two-octet items. -/
def pairs (content : Octets) : Reader Unit :=
  require (content.length % 2 = 0)

/-- Types whose two middle digits repeat `a` are set aside to keep peers from choking on types they
do not know; they may hold anything. -/
def isGrease (type : Nat) : Bool :=
  type &&& 0x0f0f == 0x0a0a

/-- Does this content fit the type? -/
def fits (type : Nat) (content : Octets) : Bool :=
  if isGrease type then true
  else
    match type with
    | 1 | 15 => accepts (number 1) content
    | 10 => accepts (do pairs (← block 2)) content
    | 11 | 45 | 0xff01 => accepts (block 1) content
    | 13 | 48 => accepts (block 2) content
    | 22 | 23 | 49 | 13172 => content.isEmpty
    | 28 => accepts (number 2) content
    | 42 => content.isEmpty || accepts (number 4) content
    | 43 => content.length == 2 || content.length % 2 == 1
    | 0xffce =>
      accepts (do
        let _ ← number 2
        let _ ← number 2
        let _ ← block 2
        let _ ← block 2
        block 2) content
    | _ => true

/-- The extension of this type and content. -/
def ofContent (type : Nat) (content : Octets) : Option Extension :=
  match type with
  | 0 => (serverNames content).map fun (names, _) => .serverName names
  | 16 => (protocols content).map fun (names, _) => .alpn names
  | _ => if fits type content then some (.other type content) else none

/-- One extension. -/
def reader : Reader Extension := do
  let type ← number 2
  let content ← block 2
  match ofContent type content with
  | some e => pure e
  | none => fail

theorem advances_reader : Advances reader :=
  advances_bind (advances_number (by decide)) fun type =>
    keeps_bind (advances_block (by decide)).keeps fun content => by
      cases ofContent type content with
      | some e => exact keeps_pure e
      | none => intro s a rest h; cases h

/-- The extensions of a block. -/
def ofBlock (s : Octets) : List Extension :=
  entries reader advances_reader s

end Extension

end Sluice.Tls

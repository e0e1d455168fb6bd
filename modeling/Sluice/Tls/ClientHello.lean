import Sluice.Tls.Handshake
import Sluice.Text.Utf8

/-
  What a ClientHello says about the server the client means to reach.
-/

namespace Sluice.Tls

/-- The part of a ClientHello that routing a connection needs. -/
structure ClientHello where
  /-- The first host name that the client gives its server. -/
  serverName : Option String := none
  /-- The application protocols offered, in order. -/
  alpn : List String := []
  deriving DecidableEq, Repr

/-- Why no ClientHello was found. -/
inductive Fault where
  /-- A record that does not belong to a handshake. -/
  | contentType (type : UInt8)
  | recordLength (length : Nat)
  | tooLarge (length : Nat)
  | malformed
  | notClientHello
  | nameNotUtf8
  deriving DecidableEq, Repr

/-- The wording of a fault. What the handshake parser has to say of a malformed message would stand
behind its two words and is left out. -/
def Fault.message : Fault → String
  | contentType type => s!"unexpected record content type 0x{Octets.hexText type}"
  | recordLength length => s!"invalid record length {length}"
  | tooLarge length => s!"handshake message too large ({length} bytes)"
  | malformed => "malformed handshake"
  | notClientHello => "first handshake message is not a ClientHello"
  | nameNotUtf8 => "server name is not valid UTF-8"

namespace ClientHello

/-- The first entry of a name list that is a host name. -/
def hostName? (names : List (UInt8 × Octets)) : Option Octets :=
  (names.find? fun (type, _) => type == hostNameType).map (·.2)

/-- Adds what one extension says. An empty name counts as none, and a later extension of the same
type replaces an earlier one. -/
def add (hello : ClientHello) : Extension → Except Fault ClientHello
  | .serverName names =>
    match hostName? names with
    | none => .ok hello
    | some name =>
      match Utf8.text? name with
      | none => .error .nameNotUtf8
      | some text => .ok (if text.isEmpty then hello else { hello with serverName := some text })
  | .alpn protocols =>
    .ok { hello with alpn := protocols.map fun p => String.ofList (Utf8.decodeLossy p) }
  | .other _ _ => .ok hello

/-- What the extensions of a hello say together. -/
def ofExtensions (extensions : List Extension) : Except Fault ClientHello :=
  extensions.foldlM add {}

/-- What a whole handshake message says. -/
def ofMessage (message : Octets) : Except Fault ClientHello :=
  match Message.reader message with
  | none => .error .malformed
  | some (.other _, _) => .error .notClientHello
  | some (.clientHello hello, _) =>
    match hello.extensions with
    | none => .ok {}
    | some block => ofExtensions (Extension.ofBlock block)

end ClientHello

end Sluice.Tls

import Sluice.Config.Setting
import Sluice.Text.Utf8
import Sluice.Toml.Document

/-
  Configuration files. A section is a table, or an array of its fields in order; a field that is not
  there has its default, and what is not a field is not looked at.
-/

namespace Sluice

namespace Toml

/-- Where the fields of a section are found: by name, or by place. -/
structure Section where
  get? : (place : Nat) → (name : String) → Option Value

/-- The section that a value is. A date counts as a section without fields. -/
def Section.of? : Value → Option Section
  | .table _ entries => some ⟨fun _ name => Entries.get? name entries⟩
  | .array items => some ⟨fun place _ => items[place]?⟩
  | .tables elements => some ⟨fun place _ => elements[place]?.map (.table .header)⟩
  | .dateTime => some ⟨fun _ _ => none⟩
  | _ => none

variable {α : Type}

/-- A field read as `p` says, or its default if it is not there. -/
def Section.field (s : Section) (place : Nat) (name : String) (default : α)
    (p : Value → Option α) : Option α :=
  match s.get? place name with
  | none => some default
  | some v => p v

/-- A text. -/
def text? : Value → Option String
  | .string s => some s
  | _ => none

/-- A text that `p` can read. -/
def readText? (p : String → Except ValueFault α) (v : Value) : Option α :=
  (text? v).bind fun s => (p s).toOption

/-- A number that is not negative. -/
def count? : Value → Option Nat
  | .integer n => if 0 ≤ n then some n.toNat else none
  | _ => none

/-- Is nothing in it? -/
def isEmpty : Value → Bool
  | .table _ [] => true
  | .array [] => true
  | .tables [] => true
  | _ => false

/-- A name: a text, or a table whose one entry has the name and holds nothing. -/
def name? (ofName? : String → Option α) : Value → Option α
  | .string s => ofName? s
  | .table _ [(key, v)] => if isEmpty v then ofName? key else none
  | _ => none

end Toml

open Toml

namespace ServerConfig

/-- The section on the server. -/
def ofToml? (v : Value) : Option ServerConfig := do
  let s ← Section.of? v
  let d : ServerConfig := {}
  return {
    listen := ← s.field 0 "listen_addr" d.listen (readText? readAddress)
    mode := ← s.field 1 "mode" d.mode (name? Mode.ofName?)
    shutdownTimeout := ← s.field 2 "shutdown_timeout" d.shutdownTimeout (readText? readDuration)
    sniffTimeout := ← s.field 3 "sniff_timeout" d.sniffTimeout (readText? readDuration)
    maxConnections := ← s.field 4 "max_connections" d.maxConnections count? }

end ServerConfig

namespace OutboundConfig

/-- The section on the forward proxy. -/
def ofToml? (v : Value) : Option OutboundConfig := do
  let s ← Section.of? v
  let d : OutboundConfig := {}
  return {
    proxyUrl := ← s.field 0 "proxy_url" d.proxyUrl text?
    dialTimeout := ← s.field 1 "dial_timeout" d.dialTimeout (readText? readDuration)
    keepalive := ← s.field 2 "keepalive" d.keepalive (readText? readDuration) }

end OutboundConfig

namespace LoggingConfig

/-- The section on the log. -/
def ofToml? (v : Value) : Option LoggingConfig := do
  let s ← Section.of? v
  let d : LoggingConfig := {}
  return {
    level := ← s.field 0 "level" d.level text?
    format := ← s.field 1 "format" d.format (name? LogFormat.ofName?) }

end LoggingConfig

namespace Config

/-- The configuration that a document holds. -/
def ofDocument? (entries : Entries) : Option Config := do
  let s ← Section.of? (.table .header entries)
  return {
    server := ← s.field 0 "server" {} ServerConfig.ofToml?
    outbound := ← s.field 1 "upstream" {} OutboundConfig.ofToml?
    logging := ← s.field 2 "logging" {} LoggingConfig.ofToml? }

/-- Why a file holds no configuration. -/
inductive FileFault where
  | notUtf8
  | malformed
  deriving DecidableEq, Repr

/-- What is said of a file that is no text. -/
def notUtf8Message : String :=
  "stream did not contain valid UTF-8"

/-- The configuration that a file holds. -/
def ofFile (content : Octets) : Except FileFault Config :=
  match Utf8.decode content with
  | .error _ => .error .notUtf8
  | .ok text =>
    match (Toml.parse text).bind ofDocument? with
    | some c => .ok c
    | none => .error .malformed

/-- Why no configuration was loaded. -/
inductive LoadFault where
  | file (fault : FileFault)
  | environment (fault : EnvironmentFault)
  deriving DecidableEq, Repr

/-- The configuration from a file, or from the environment if there is no file. -/
def load (file : Option Octets) (env : Environment) : Except LoadFault Config :=
  match file with
  | some content => (ofFile content).mapError .file
  | none =>
    match applyEnvironment env {} with
    | (none, c) => .ok c
    | (some f, _) => .error (.environment f)

end Config

end Sluice

import Mathlib.Data.List.Nodup
import Sluice.Config.File
import Sluice.Proofs.Settings

/-
  The settings in a document. Each has a key of its own in one of three sections, and a document
  holds a configuration just if it holds each of its settings: what is under the key of the setting,
  or else the default (`Config.ofDocument_eq_some`). So what a file says is told setting by setting,
  as what the environment says is.
-/

namespace Sluice

open Toml

/-! ## Keys -/

/-- A part of the configuration, a section in a document. -/
inductive Part where
  | server
  | outbound
  | logging
  deriving DecidableEq

/-- The name of a section. -/
def Part.name : Part → String
  | server => "server"
  | outbound => "upstream"
  | logging => "logging"

/-- The section of a part in a document. One that is missing is empty. -/
def Part.inDocument? (document : Entries) (p : Part) : Option Section :=
  Section.of? ((document.get? p.name).getD (.table .header []))

/-- Where something stands in a document: in a section under a name, or in a place if the section is
an array. -/
structure Key where
  part : Part
  place : Nat
  name : String

namespace Key

/-- Two keys that nothing stands under at once. -/
def Apart (k k' : Key) : Prop :=
  k.part = k'.part → k.place ≠ k'.place ∧ k.name ≠ k'.name

/-- What stands under a key. -/
def inDocument? (document : Entries) (k : Key) : Option Toml.Value := do
  let fields ← k.part.inDocument? document
  fields.get? k.place k.name

end Key

namespace Setting

/-- The key of a setting. -/
def key : Setting → Key
  | listen => ⟨.server, 0, "listen_addr"⟩
  | mode => ⟨.server, 1, "mode"⟩
  | shutdownTimeout => ⟨.server, 2, "shutdown_timeout"⟩
  | sniffTimeout => ⟨.server, 3, "sniff_timeout"⟩
  | maxConnections => ⟨.server, 4, "max_connections"⟩
  | proxyUrl => ⟨.outbound, 0, "proxy_url"⟩
  | dialTimeout => ⟨.outbound, 1, "dial_timeout"⟩
  | keepalive => ⟨.outbound, 2, "keepalive"⟩
  | logLevel => ⟨.logging, 0, "level"⟩
  | logFormat => ⟨.logging, 1, "format"⟩

/-- Each setting has a key of its own. -/
theorem apart_key {s t : Setting} (other : s ≠ t) : s.key.Apart t.key := by
  have places : (all.map fun s => (s.key.part, s.key.place)).Nodup := by decide
  have names : (all.map fun s => (s.key.part, s.key.name)).Nodup := by decide
  intro part
  refine ⟨fun place => ?_, fun name => ?_⟩
  · exact other (List.inj_on_of_nodup_map places s.mem_all t.mem_all (Prod.ext part place))
  · exact other (List.inj_on_of_nodup_map names s.mem_all t.mem_all (Prod.ext part name))

/-! ## Values -/

/-- The value of a setting that a document writes. -/
def ofToml? : (s : Setting) → Toml.Value → Option s.Value
  | listen => readText? readAddress
  | mode => name? Mode.ofName?
  | shutdownTimeout => readText? readDuration
  | sniffTimeout => readText? readDuration
  | maxConnections => count?
  | proxyUrl => text?
  | dialTimeout => readText? readDuration
  | keepalive => readText? readDuration
  | logLevel => text?
  | logFormat => name? LogFormat.ofName?

/-- The value of a setting that nothing is said of. -/
def unsaid : (s : Setting) → s.Value
  | listen => .v4 ⟨127, 0, 0, 1⟩ 1081
  | mode => .direct
  | shutdownTimeout => Duration.ofSeconds 60
  | sniffTimeout => Duration.ofSeconds 10
  | maxConnections => 10000
  | proxyUrl => ""
  | dialTimeout => Duration.ofSeconds 30
  | keepalive => Duration.ofSeconds 180
  | logLevel => "info"
  | logFormat => .text

theorem unsaid_eq (s : Setting) : s.unsaid = ({} : Config).get s := by
  cases s <;> rfl

/-- What comes of what was found under the key of a setting: its value, or the default. -/
def ofFound? (found : Option Toml.Value) (s : Setting) : Option s.Value :=
  match found with
  | some v => s.ofToml? v
  | none => some s.unsaid

/-- What a section makes of a setting. -/
def fromSection? (fields : Section) (s : Setting) : Option s.Value :=
  s.ofFound? (fields.get? s.key.place s.key.name)

/-- The fields of a section are read as the settings are. -/
theorem fromSection_eq_field (s : Setting) (fields : Section) :
    s.fromSection? fields = fields.field s.key.place s.key.name s.unsaid s.ofToml? := by
  rw [fromSection?, Section.field]
  cases fields.get? s.key.place s.key.name with
  | none => rfl
  | some v => rfl

/-- What a document makes of a setting. -/
def fromDocument? (document : Entries) (s : Setting) : Option s.Value := do
  let fields ← s.key.part.inDocument? document
  s.fromSection? fields

/-- What a document makes of a setting depends on what stands under its key. -/
theorem found_of_fromDocument {s : Setting} {document : Entries} {v : s.Value}
    (made : s.fromDocument? document = some v) :
    s.ofFound? (s.key.inDocument? document) = some v := by
  obtain ⟨fields, isSection, made⟩ := Option.bind_eq_some_iff.1 made
  rw [Key.inDocument?, isSection]
  exact made

end Setting

/-! ## Sections -/

section Sections

variable {v : Toml.Value} {c : Config} {p : Part} {document : Entries}

/-- A value is a section that holds the settings of this part of a configuration. -/
def Holds (v : Toml.Value) (p : Part) (c : Config) : Prop :=
  ∃ fields, Section.of? v = some fields ∧
    ∀ s : Setting, s.key.part = p → s.fromSection? fields = some (c.get s)

theorem holds_server : ServerConfig.ofToml? v = some c.server ↔ Holds v .server c := by
  constructor
  · intro read
    obtain ⟨fields, isSection, read⟩ := Option.bind_eq_some_iff.1 read
    obtain ⟨listen, hlisten, read⟩ := Option.bind_eq_some_iff.1 read
    obtain ⟨mode, hmode, read⟩ := Option.bind_eq_some_iff.1 read
    obtain ⟨shutdown, hshutdown, read⟩ := Option.bind_eq_some_iff.1 read
    obtain ⟨sniff, hsniff, read⟩ := Option.bind_eq_some_iff.1 read
    obtain ⟨most, hmost, read⟩ := Option.bind_eq_some_iff.1 read
    obtain ⟨server, outbound, logging⟩ := c
    obtain rfl := Option.some.inj read
    refine ⟨fields, isSection, fun s place => (s.fromSection_eq_field fields).trans ?_⟩
    cases s with
    | listen => exact hlisten
    | mode => exact hmode
    | shutdownTimeout => exact hshutdown
    | sniffTimeout => exact hsniff
    | maxConnections => exact hmost
    | _ => cases place
  · rintro ⟨fields, isSection, all⟩
    simp only [Setting.fromSection_eq_field] at all
    refine Option.bind_eq_some_iff.2 ⟨fields, isSection, ?_⟩
    refine Option.bind_eq_some_iff.2 ⟨_, all .listen rfl, ?_⟩
    refine Option.bind_eq_some_iff.2 ⟨_, all .mode rfl, ?_⟩
    refine Option.bind_eq_some_iff.2 ⟨_, all .shutdownTimeout rfl, ?_⟩
    refine Option.bind_eq_some_iff.2 ⟨_, all .sniffTimeout rfl, ?_⟩
    exact Option.bind_eq_some_iff.2 ⟨_, all .maxConnections rfl, rfl⟩

theorem holds_outbound : OutboundConfig.ofToml? v = some c.outbound ↔ Holds v .outbound c := by
  constructor
  · intro read
    obtain ⟨fields, isSection, read⟩ := Option.bind_eq_some_iff.1 read
    obtain ⟨url, hurl, read⟩ := Option.bind_eq_some_iff.1 read
    obtain ⟨dial, hdial, read⟩ := Option.bind_eq_some_iff.1 read
    obtain ⟨keepalive, hkeepalive, read⟩ := Option.bind_eq_some_iff.1 read
    obtain ⟨server, outbound, logging⟩ := c
    obtain rfl := Option.some.inj read
    refine ⟨fields, isSection, fun s place => (s.fromSection_eq_field fields).trans ?_⟩
    cases s with
    | proxyUrl => exact hurl
    | dialTimeout => exact hdial
    | keepalive => exact hkeepalive
    | _ => cases place
  · rintro ⟨fields, isSection, all⟩
    simp only [Setting.fromSection_eq_field] at all
    refine Option.bind_eq_some_iff.2 ⟨fields, isSection, ?_⟩
    refine Option.bind_eq_some_iff.2 ⟨_, all .proxyUrl rfl, ?_⟩
    refine Option.bind_eq_some_iff.2 ⟨_, all .dialTimeout rfl, ?_⟩
    exact Option.bind_eq_some_iff.2 ⟨_, all .keepalive rfl, rfl⟩

theorem holds_logging : LoggingConfig.ofToml? v = some c.logging ↔ Holds v .logging c := by
  constructor
  · intro read
    obtain ⟨fields, isSection, read⟩ := Option.bind_eq_some_iff.1 read
    obtain ⟨level, hlevel, read⟩ := Option.bind_eq_some_iff.1 read
    obtain ⟨format, hformat, read⟩ := Option.bind_eq_some_iff.1 read
    obtain ⟨server, outbound, logging⟩ := c
    obtain rfl := Option.some.inj read
    refine ⟨fields, isSection, fun s place => (s.fromSection_eq_field fields).trans ?_⟩
    cases s with
    | logLevel => exact hlevel
    | logFormat => exact hformat
    | _ => cases place
  · rintro ⟨fields, isSection, all⟩
    simp only [Setting.fromSection_eq_field] at all
    refine Option.bind_eq_some_iff.2 ⟨fields, isSection, ?_⟩
    refine Option.bind_eq_some_iff.2 ⟨_, all .logLevel rfl, ?_⟩
    exact Option.bind_eq_some_iff.2 ⟨_, all .logFormat rfl, rfl⟩

/-- The section of a part is read where the document has it, and is empty where it has not. -/
theorem field_eq_some {α : Type} {place : Nat} {read : Toml.Value → Option α} {default found : α}
    (holds : ∀ v, read v = some found ↔ Holds v p c)
    (empty : read (.table .header []) = some default) :
    Section.field ⟨fun _ name => document.get? name⟩ place p.name default read = some found ↔
      Holds ((document.get? p.name).getD (.table .header [])) p c := by
  rw [Section.field]
  dsimp only
  cases document.get? p.name with
  | none =>
    rw [← empty]
    exact holds _
  | some v => exact holds v

/-- The section of a part holds its settings just if the document does. -/
theorem holds_section : Holds ((document.get? p.name).getD (.table .header [])) p c ↔
    ∀ s : Setting, s.key.part = p → s.fromDocument? document = some (c.get s) := by
  constructor
  · rintro ⟨fields, isSection, all⟩ s rfl
    exact Option.bind_eq_some_iff.2 ⟨fields, isSection, all s rfl⟩
  · intro all
    obtain ⟨s, rfl⟩ : ∃ s : Setting, s.key.part = p := by
      cases p with
      | server => exact ⟨.listen, rfl⟩
      | outbound => exact ⟨.proxyUrl, rfl⟩
      | logging => exact ⟨.logLevel, rfl⟩
    obtain ⟨fields, isSection, -⟩ := Option.bind_eq_some_iff.1 (all s rfl)
    refine ⟨fields, isSection, fun t same => ?_⟩
    have made := all t same
    rwa [Setting.fromDocument?, same, isSection] at made

end Sections

/-- A document holds a configuration just if it makes each setting what the configuration has. -/
theorem Config.ofDocument_eq_some {document : Entries} {c : Config} :
    ofDocument? document = some c ↔
      ∀ s : Setting, s.fromDocument? document = some (c.get s) := by
  constructor
  · intro read s
    obtain ⟨server, hserver, read⟩ := Option.bind_eq_some_iff.1 read
    obtain ⟨outbound, houtbound, read⟩ := Option.bind_eq_some_iff.1 read
    obtain ⟨logging, hlogging, read⟩ := Option.bind_eq_some_iff.1 read
    obtain rfl := Option.some.inj read
    cases part : s.key.part with
    | server =>
      exact holds_section.1 ((field_eq_some (fun _ => holds_server) rfl).1 hserver) s part
    | outbound =>
      exact holds_section.1 ((field_eq_some (fun _ => holds_outbound) rfl).1 houtbound) s part
    | logging =>
      exact holds_section.1 ((field_eq_some (fun _ => holds_logging) rfl).1 hlogging) s part
  · intro all
    have whole (p : Part) := holds_section.2 fun s (_ : s.key.part = p) => all s
    refine Option.bind_eq_some_iff.2
      ⟨_, (field_eq_some (fun _ => holds_server) rfl).2 (whole .server), ?_⟩
    refine Option.bind_eq_some_iff.2
      ⟨_, (field_eq_some (fun _ => holds_outbound) rfl).2 (whole .outbound), ?_⟩
    exact Option.bind_eq_some_iff.2
      ⟨_, (field_eq_some (fun _ => holds_logging) rfl).2 (whole .logging), rfl⟩

end Sluice

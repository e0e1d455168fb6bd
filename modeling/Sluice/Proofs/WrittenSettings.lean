import Sluice.Proofs.DocumentNumbers
import Sluice.Proofs.Precedence
import Sluice.Proofs.SocketAddressTexts
import Sluice.Proofs.WrittenDurations

/-
  Settings written out and read back. Each kind of value is read from the text that it is written as
  (`Setting.ofText_written`); a number needs to fit 64 bits for it, and so do the numbers of every
  configuration that files, environments and command lines lead to (`Config.run_fits`). So an
  environment with the texts of such a configuration makes it of any other
  (`Config.applyEnvironment_written`).
-/

namespace Sluice

/-! ## Numbers -/

namespace Count

open Digits (value? isSome_value ofNat_ne_nil onward onward_cons onward_ofNat le_onward)

variable {n m : Nat} {text : String} {digits : List Char}

theorem parseFrom_digits (all : ∀ c ∈ digits, (value? 10 c).isSome)
    (fits : onward n digits < UInt64.size) : parseFrom n digits = .ok (onward n digits) := by
  induction digits generalizing n with
  | nil => rfl
  | cons c digits ih =>
    obtain ⟨digit, others⟩ := List.forall_mem_cons.1 all
    obtain ⟨d, value⟩ := Option.isSome_iff_exists.1 digit
    have next := onward_cons (n := n) value digits
    have bound : n * 10 + d < UInt64.size := Nat.lt_of_le_of_lt (le_onward _ digits) (next ▸ fits)
    rw [next] at fits ⊢
    rw [parseFrom, value]
    dsimp only
    rw [if_pos bound, ih others fits]

/-- A number that fits is read from its digits. -/
theorem parse_ofNat (fits : n < UInt64.size) :
    parse (String.ofList (Digits.ofNat 10 n)) = .ok n := by
  have all := isSome_value (by decide : 1 < 10) (by decide) n
  have whole := onward_ofNat n
  have read := parseFrom_digits all (whole.symm ▸ fits)
  rw [whole] at read
  unfold parse
  rw [String.toList_ofList]
  cases digits : Digits.ofNat 10 n with
  | nil => exact absurd digits (ofNat_ne_nil 10 n)
  | cons c rest =>
    rw [digits] at all read
    have plus : c ≠ '+' := fun same =>
      absurd (all c List.mem_cons_self) (by rw [same]; decide)
    split
    · next nothing => cases nothing
    · next sign => exact absurd (List.cons.inj sign).1 plus
    · next sign => exact absurd (List.cons.inj sign).1 plus
    · exact read

theorem parseFrom_fits (start : n < UInt64.size) (read : parseFrom n digits = .ok m) :
    m < UInt64.size := by
  induction digits generalizing n with
  | nil =>
    obtain rfl := Except.ok.inj read
    exact start
  | cons c digits ih =>
    rw [parseFrom] at read
    split at read
    · cases read
    · split at read
      · next bound => exact ih bound read
      · cases read

/-- Only numbers that fit are read. -/
theorem parse_fits (read : parse text = .ok m) : m < UInt64.size := by
  have zero : 0 < UInt64.size := by decide
  unfold parse at read
  split at read
  · cases read
  · cases read
  · exact parseFrom_fits zero read
  · exact parseFrom_fits zero read

end Count

/-! ## Texts -/

theorem readAddress_text (a : SocketAddress) : readAddress a.text = .ok a := by
  rw [readAddress, a.parse_text]
  rfl

theorem readMode_text (m : Mode) : readMode m.text = .ok m := by
  cases m with
  | direct => rfl
  | redirect => rfl

theorem readDuration_written (d : Duration) : readDuration d.written = .ok d :=
  mapError_eq_ok.2 d.parse_written

theorem readCount_ofNat {n : Nat} (fits : n < UInt64.size) :
    readCount (String.ofList (Digits.ofNat 10 n)) = .ok n :=
  mapError_eq_ok.2 (Count.parse_ofNat fits)

theorem readLogFormat_name (f : LogFormat) : readLogFormat f.name = .ok f := by
  cases f with
  | text => rfl
  | json => rfl

/-- The one number in a configuration fits 64 bits. -/
def Config.Fits (c : Config) : Prop :=
  c.get .maxConnections < UInt64.size

/-- Each setting is read from its text. -/
theorem Setting.ofText_written {c : Config} (fits : c.Fits) (s : Setting) :
    s.ofText (s.written c) = .ok (c.get s) := by
  cases s with
  | listen => exact readAddress_text _
  | mode => exact readMode_text _
  | shutdownTimeout => exact readDuration_written _
  | sniffTimeout => exact readDuration_written _
  | maxConnections => exact readCount_ofNat fits
  | proxyUrl => rfl
  | dialTimeout => exact readDuration_written _
  | keepalive => exact readDuration_written _
  | logLevel => rfl
  | logFormat => exact readLogFormat_name _

theorem Key.fits_inDocument {document : Toml.Entries} {k : Key} {v : Toml.Value}
    (fit : document.Fit) (found : k.inDocument? document = some v) : Toml.Fits v := by
  obtain ⟨fields, isSection, found⟩ := Option.bind_eq_some_iff.1 found
  have whole : Toml.Fits ((document.get? k.part.name).getD (.table .header [])) := by
    cases present : document.get? k.part.name with
    | none => exact .table .header Toml.Entries.fit_nil
    | some v => exact fit.get present
  exact whole.get isSection found

/-! ## Changes -/

namespace Config

/-- What changes a configuration. -/
inductive Change where
  | file (content : Octets)
  | environment (env : Environment)
  | commandLine (o : Overrides)

/-- A configuration behind a change. A file that holds no configuration changes nothing, and an
environment with a fault is applied up to it. -/
def change (c : Config) : Change → Config
  | .file content =>
    match ofFile content with
    | .ok loaded => loaded
    | .error _ => c
  | .environment env => (applyEnvironment env c).2
  | .commandLine o => c.override o

/-- What changes make of the defaults. -/
def run (changes : List Change) : Config :=
  changes.foldl change {}

variable {c c' : Config} {env : Environment}

theorem Fits.put {s : Setting} {text : String} {v : s.Value} (fits : c.Fits)
    (read : s.ofText text = .ok v) : (c.put s v).Fits := by
  by_cases own : .maxConnections = s
  · subst own
    rw [Fits, get_put]
    exact Count.parse_fits (mapError_eq_ok.1 read)
  · rwa [Fits, get_put_ne c v own]

theorem Fits.applySettings (settings : List Setting) (fits : c.Fits) :
    (applySettings env settings c).2.Fits := by
  induction settings generalizing c with
  | nil => exact fits
  | cons s rest ih =>
    rw [Config.applySettings]
    cases env s.variableName with
    | none => exact ih fits
    | some text =>
      dsimp only
      rw [s.read_eq]
      cases value : s.ofText text with
      | error fault => exact fits
      | ok v => exact ih (fits.put value)

theorem fits_ofFile {content : Octets} (read : ofFile content = .ok c) : c.Fits := by
  obtain ⟨document, parsed, holds⟩ := ofFile_eq_ok.1 read
  obtain ⟨text, -, parsed⟩ := Option.bind_eq_some_iff.1 parsed
  have made := Setting.found_of_fromDocument (ofDocument_eq_some.1 holds .maxConnections)
  cases found : (Setting.key .maxConnections).inDocument? document with
  | none =>
    rw [found] at made
    rw [Fits, ← Option.some.inj made]
    decide
  | some v =>
    rw [found] at made
    exact (Key.fits_inDocument (Toml.fit_of_parse parsed) found).count made

/-- A change leaves the number one that fits. -/
theorem Fits.change (fits : c.Fits) (x : Change) : (c.change x).Fits := by
  cases x with
  | file content =>
    rw [Config.change]
    split
    · next read => exact fits_ofFile read
    · exact fits
  | environment env => exact fits.applySettings Setting.all
  | commandLine o => exact fits

/-- Whatever changes there were, the number fits. -/
theorem run_fits (changes : List Change) : (run changes).Fits := by
  have all (c : Config) (fits : c.Fits) : (changes.foldl change c).Fits := by
    induction changes generalizing c with
    | nil => exact fits
    | cons x changes ih => exact ih _ (fits.change x)
  exact all {} (show ({} : Config).get .maxConnections < UInt64.size by decide)

/-- Whatever files, environments and command lines a configuration comes from: an environment with
the texts of its settings makes it of any other, without a fault. And every duration is read from
its text, to the nanosecond. -/
theorem applyEnvironment_written (changes : List Change) (start : Config) (env : Environment)
    (said : ∀ s : Setting, env s.variableName = some (s.written (run changes))) :
    applyEnvironment env start = (none, run changes) ∧
      ∀ d : Duration, Duration.parse d.written = .ok d := by
  refine ⟨applyEnvironment_eq_none.2 fun s => ?_, Duration.parse_written⟩
  rw [Setting.fromEnvironment_some (said s)]
  exact s.ofText_written (run_fits changes)

/-- An environment with the texts of a configuration. -/
def texts (c : Config) : Environment := fun name =>
  (Setting.all.find? fun s => s.variableName == name).map fun s => s.written c

theorem texts_variableName (c : Config) (s : Setting) :
    c.texts s.variableName = some (s.written c) := by
  have own : Setting.all.find? (fun t => t.variableName == s.variableName) = some s := by
    cases s <;> decide
  rw [texts, own]
  rfl

/-- A level from a file and then from the environment, and from the command line an address with a
scope and the longest duration. -/
theorem applyEnvironment_written_longest : ∃ changes, run changes =
      { server :=
          { listen := .v6 Ipv6.loopback 2 80
            shutdownTimeout := { seconds := 18446744073709551615, nanos := 999999999 } }
        logging := { level := "warn" } } ∧
    applyEnvironment (run changes).texts {} = (none, run changes) := by
  let level : Environment := fun name => if name = "TRANSOCKS_LOG_LEVEL" then some "warn" else none
  let changes : List Change :=
    [.file (Octets.ofText "logging.level='debug'"), .environment level,
     .commandLine
      { listen := some (.v6 Ipv6.loopback 2 80)
        shutdownTimeout := some { seconds := 18446744073709551615, nanos := 999999999 } }]
  have written := applyEnvironment_written changes {} (run changes).texts (texts_variableName _)
  exact ⟨changes, by decide +kernel, written.1⟩

end Config

end Sluice

import Sluice.CommandLine.Run
import Sluice.Proofs.DocumentSettings
import Sluice.Proofs.MessageReading

/-
  Which source a setting has its value from. A configuration is loaded just if it has for each
  setting what the file makes of it, or, where there is no file, what the environment makes of it
  (`CommandLine.loadConfig_eq_ok`); the command line goes before both (`Config.get_override`).
  What is made of a setting depends on its own key and its own variable only
  (`Setting.loaded_key`, `Setting.loaded_variable`), and no two settings share a key or a variable.
  So each source changes no setting but the one that it names.
-/

namespace Sluice

namespace Setting

/-- The variable that a setting has its value from. -/
def envKey : Setting → String
  | listen => "TRANSOCKS_LISTEN_ADDR"
  | mode => "TRANSOCKS_MODE"
  | shutdownTimeout => "TRANSOCKS_SHUTDOWN_TIMEOUT"
  | sniffTimeout => "TRANSOCKS_SNIFF_TIMEOUT"
  | maxConnections => "TRANSOCKS_MAX_CONNECTIONS"
  | proxyUrl => "TRANSOCKS_PROXY_URL"
  | dialTimeout => "TRANSOCKS_DIAL_TIMEOUT"
  | keepalive => "TRANSOCKS_KEEPALIVE"
  | logLevel => "TRANSOCKS_LOG_LEVEL"
  | logFormat => "TRANSOCKS_LOG_FORMAT"

theorem variableName_eq (s : Setting) : s.variableName = s.envKey := by
  cases s <;> rfl

/-- Each setting has a variable of its own. -/
theorem envKey_ne {s t : Setting} (other : s ≠ t) : s.envKey ≠ t.envKey := by
  have distinct : (all.map envKey).Nodup := by decide
  exact fun same => other (List.inj_on_of_nodup_map distinct s.mem_all t.mem_all same)

/-- What the command line sets a setting to. -/
def override? (o : Overrides) : (s : Setting) → Option s.Value
  | listen => o.listen
  | mode => o.mode
  | shutdownTimeout => o.shutdownTimeout
  | proxyUrl => o.proxyUrl
  | logLevel => o.logLevel
  | sniffTimeout | maxConnections | dialTimeout | keepalive | logFormat => none

end Setting

/-! ## Overrides -/

namespace Config

variable {c : Config} {o o' : Overrides} {s : Setting}

/-- The command line goes before what was loaded. -/
theorem get_override (c : Config) (o : Overrides) (s : Setting) :
    (c.override o).get s = (s.override? o).getD (c.get s) := by
  cases s <;> rfl

/-! ## Files -/

/-- The document in a file. -/
def document? (content : Octets) : Option Toml.Entries :=
  (Utf8.decode content).toOption.bind Toml.parse

/-- A file is read just if it is a document that holds a configuration. -/
theorem ofFile_eq_ok {content : Octets} : ofFile content = .ok c ↔
    ∃ document, document? content = some document ∧ ofDocument? document = some c := by
  rw [ofFile, document?, ← Option.bind_eq_some_iff]
  cases Utf8.decode content with
  | error fault => exact ⟨nofun, nofun⟩
  | ok text =>
    show _ ↔ (Toml.parse text).bind ofDocument? = some c
    dsimp only
    cases (Toml.parse text).bind ofDocument? with
    | none => exact ⟨nofun, nofun⟩
    | some c' => rw [Except.ok.injEq, Option.some.injEq]

/-- Without a file the environment is applied to the defaults. -/
theorem load_none_eq_ok {env : Environment} :
    load none env = .ok c ↔ applyEnvironment env {} = (none, c) := by
  rw [load]
  split
  · next applied => rw [applied, Except.ok.injEq, Prod.mk.injEq, and_iff_right rfl]
  · next applied =>
    rw [applied]
    exact ⟨nofun, nofun⟩

end Config

/-! ## Loading -/

/-- What stands under a key in a file. -/
def Key.inFile? (file : CommandLine.FileState) (k : Key) : Option Toml.Value :=
  match file with
  | .content octets => (Config.document? octets).bind fun document => k.inDocument? document
  | _ => none

namespace Setting

open CommandLine

variable {file file' : FileState} {env env' : Environment} {s : Setting}

/-- What is loaded for a setting. If there is a file it is the value under its key, or the default.
If there is none it is the value of its variable, or the default. -/
def loaded? (file : FileState) (env : Environment) (s : Setting) : Option s.Value :=
  match file with
  | .absent =>
    match env s.envKey with
    | some text => (s.ofText text).toOption
    | none => some s.unsaid
  | .content octets => (Config.document? octets).bind fun document => s.fromDocument? document
  | .unreadable _ => none

theorem loaded_absent : s.loaded? .absent env = (s.fromEnvironment env {}).toOption := by
  rw [loaded?, fromEnvironment, variableName_eq, unsaid_eq]
  cases env s.envKey with
  | none => rfl
  | some text => rfl

/-- Without a file, what is loaded for a setting depends on its own variable. -/
theorem loaded_variable (same : env s.envKey = env' s.envKey) :
    s.loaded? .absent env = s.loaded? .absent env' := by
  rw [loaded?, loaded?, same]

/-- With a file, what is loaded for a setting depends on its own key. -/
theorem loaded_key {v : s.Value} (loaded : s.loaded? file env = some v) (present : file ≠ .absent) :
    s.ofFound? (s.key.inFile? file) = some v := by
  cases file with
  | absent => exact absurd rfl present
  | unreadable e => cases loaded
  | content octets =>
    obtain ⟨document, parsed, made⟩ := Option.bind_eq_some_iff.1 loaded
    rw [Key.inFile?, parsed]
    exact found_of_fromDocument made

end Setting

namespace CommandLine

variable {w w' : Surroundings} {path : String} {c c' : Config} {s t : Setting}

/-- A configuration is loaded just if it has what is loaded for each setting. -/
theorem loadConfig_eq_ok : loadConfig w path = .ok c ↔
    ∀ s : Setting, s.loaded? (w.file path) w.environment = some (c.get s) := by
  unfold loadConfig
  cases w.file path with
  | unreadable e => exact ⟨nofun, fun all => nomatch all .listen⟩
  | absent =>
    dsimp only
    rw [mapError_eq_ok, Config.load_none_eq_ok, Config.applyEnvironment_eq_none]
    refine forall_congr' fun s => ?_
    rw [Setting.loaded_absent]
    exact ⟨congrArg Except.toOption, ok_of_toOption⟩
  | content octets =>
    dsimp only [Config.load]
    rw [mapError_eq_ok, mapError_eq_ok, Config.ofFile_eq_ok]
    constructor
    · rintro ⟨document, parsed, holds⟩ s
      exact Option.bind_eq_some_iff.2 ⟨document, parsed, Config.ofDocument_eq_some.1 holds s⟩
    · intro all
      obtain ⟨document, parsed, -⟩ := Option.bind_eq_some_iff.1 (all .listen)
      refine ⟨document, parsed, Config.ofDocument_eq_some.2 fun s => ?_⟩
      have made := all s
      rwa [Setting.loaded?, parsed, Option.bind_some] at made

/-- The environment is not looked at where there is a file. -/
theorem loadConfig_of_file (same : w.file path = w'.file path) (present : w.file path ≠ .absent) :
    loadConfig w path = loadConfig w' path := by
  unfold loadConfig
  rw [← same]
  cases file : w.file path with
  | unreadable e => rfl
  | absent => exact absurd file present
  | content octets => rfl

/-- The command line goes before the file, the file before the environment, and the environment
before the defaults: a configuration is loaded just if, whatever the command line says, each setting
has what it is set to there, or else what is loaded for it. The environment is not looked at where
there is a file, whether the file can be read or not. And an override, a variable or a key changes
no setting but its own: each setting has a variable and a key of its own, and where two environments
differ in one variable only, or two files under one key only, all other settings are the same. -/
theorem settings_in_order (path : String) :
    (∀ w c, loadConfig w path = .ok c ↔ ∀ o (s : Setting),
      some ((c.override o).get s) =
        (s.override? o).or (s.loaded? (w.file path) w.environment)) ∧
    (∀ w w' : Surroundings, w.file path = w'.file path → w.file path ≠ .absent →
      loadConfig w path = loadConfig w' path) ∧
    (∀ (c : Config) o o' (s : Setting), (∀ t ≠ s, t.override? o = t.override? o') →
      ∀ t ≠ s, (c.override o).get t = (c.override o').get t) ∧
    (∀ s t : Setting, s ≠ t → s.envKey ≠ t.envKey ∧ s.key.Apart t.key) ∧
    (∀ w w' c c', w.file path = .absent → w'.file path = .absent →
      loadConfig w path = .ok c → loadConfig w' path = .ok c' →
      ∀ name, (∀ other ≠ name, w.environment other = w'.environment other) →
      ∀ t : Setting, t.envKey ≠ name → ∀ o, (c.override o).get t = (c'.override o).get t) ∧
    (∀ w w' c c', w.file path ≠ .absent → w'.file path ≠ .absent →
      loadConfig w path = .ok c → loadConfig w' path = .ok c' →
      ∀ key, (∀ other : Key, other.Apart key →
        other.inFile? (w.file path) = other.inFile? (w'.file path)) →
      ∀ t : Setting, t.key.Apart key → ∀ o, (c.override o).get t = (c'.override o).get t) := by
  refine ⟨fun w c => ⟨fun loaded o s => ?_, fun all => loadConfig_eq_ok.2 fun s => ?_⟩,
    fun w w' => loadConfig_of_file, fun c o o' s same t other => ?_,
    fun s t other => ⟨Setting.envKey_ne other, Setting.apart_key other⟩,
    fun w w' c c' absent absent' loaded loaded' name same t other o => ?_,
    fun w w' c c' present present' loaded loaded' key same t other o => ?_⟩
  · rw [Config.get_override, loadConfig_eq_ok.1 loaded s]
    cases s.override? o with
    | none => rfl
    | some v => rfl
  · have silent : s.override? {} = none := by cases s <;> rfl
    have value := all {} s
    rw [Config.get_override, silent] at value
    exact value.symm
  · rw [Config.get_override, Config.get_override, same t other]
  · have value := loadConfig_eq_ok.1 loaded t
    have value' := loadConfig_eq_ok.1 loaded' t
    rw [absent, Setting.loaded_variable (same _ other), ← absent', value'] at value
    rw [Config.get_override, Config.get_override, Option.some.inj value]
  · have value := Setting.loaded_key (loadConfig_eq_ok.1 loaded t) present
    have value' := Setting.loaded_key (loadConfig_eq_ok.1 loaded' t) present'
    rw [same _ other, value'] at value
    rw [Config.get_override, Config.get_override, Option.some.inj value]

/-- A file, and an environment that has the same for every variable. -/
def fileOnly (text : String) : Surroundings where
  file _ := .content (Octets.ofText text)
  environment _ := some "8"

/-- No file, and one variable. -/
def variableOnly (name text : String) : Surroundings where
  file _ := .absent
  environment other := if other = name then some text else none

/-- A file that sets the mode has nothing under other keys. -/
theorem inFile_of_mode {octets : Octets} {k : Key}
    (only : (Config.document? octets).any
      (· matches [("server", .table .dotted [("mode", _)])]) = true)
    (apart : k.Apart (Setting.key .mode)) : k.inFile? (.content octets) = none := by
  rw [Key.inFile?]
  cases parsed : Config.document? octets with
  | none => rfl
  | some document =>
    rw [parsed, Option.any_some] at only
    split at only
    · obtain ⟨part, place, name⟩ := k
      cases part with
      | server =>
        have other : name ≠ "mode" := (apart rfl).2
        simp [Key.inDocument?, Part.inDocument?, Part.name, Toml.Entries.get?, Toml.Section.of?,
          other.symm]
      | outbound => rfl
      | logging => rfl
    · cases only

/-- A file that sets the mode, and where there is none a variable that sets how many connections
there may be. Neither changes anything else, the environment changes nothing where there is a file,
and the command line goes before both. -/
theorem settings_in_order_sources :
    (∃ c, loadConfig (fileOnly "server.mode='nat'") "a.toml" = .ok c ∧
      c.server.mode = .redirect ∧ (c.override { mode := some .direct }).server.mode = .direct ∧
      (∀ t ≠ Setting.mode,
        (c.override { mode := some .direct }).get t = (c.override {}).get t) ∧
      (∀ environment, loadConfig { fileOnly "server.mode='nat'" with environment } "a.toml" =
        .ok c) ∧
      ∀ o, ∀ t ≠ Setting.mode, (c.override o).get t = (({} : Config).override o).get t) ∧
    ∃ c, loadConfig (variableOnly "TRANSOCKS_MAX_CONNECTIONS" "7") "a.toml" = .ok c ∧
      (∀ o, (c.override o).server.maxConnections = 7) ∧
      ∀ o, ∀ t ≠ Setting.maxConnections,
        (c.override o).get t = (({} : Config).override o).get t := by
  obtain ⟨inOrder, unread, ownOverride, distinct, ownVariable, ownKey⟩ :=
    settings_in_order "a.toml"
  constructor
  · have loaded : loadConfig (fileOnly "server.mode='nat'") "a.toml" =
        .ok { server := { mode := .redirect } } := ok_of_toOption (by decide +kernel)
    have loaded' : loadConfig (fileOnly "server.mode='direct'") "a.toml" = .ok {} :=
      ok_of_toOption (by decide +kernel)
    have present (text : String) : (fileOnly text).file "a.toml" ≠ .absent := FileState.noConfusion
    have merged := (inOrder _ _).1 loaded { mode := some .direct } .mode
    refine ⟨_, loaded, rfl, Option.some.inj merged, ownOverride _ _ _ _ fun t other => ?_,
      fun environment => ?_, fun o t other => ?_⟩
    · cases t with
      | mode => exact absurd rfl other
      | _ => rfl
    · exact (unread _ _ rfl (present _)).trans loaded
    · refine ownKey _ _ _ _ (present _) (present _) loaded loaded' (Setting.key .mode)
        (fun k apart => ?_) t (distinct t .mode other).2 o
      have nothing : k.inFile? (.content (Octets.ofText "server.mode='nat'")) = none :=
        inFile_of_mode (by decide +kernel) apart
      have nothing' : k.inFile? (.content (Octets.ofText "server.mode='direct'")) = none :=
        inFile_of_mode (by decide +kernel) apart
      exact nothing.trans nothing'.symm
  · have loaded : loadConfig (variableOnly "TRANSOCKS_MAX_CONNECTIONS" "7") "a.toml" =
        .ok { server := { maxConnections := 7 } } := ok_of_toOption (by decide +kernel)
    have loaded' : loadConfig (variableOnly "TRANSOCKS_MAX_CONNECTIONS" "10000") "a.toml" =
        .ok {} := ok_of_toOption (by decide +kernel)
    have said : Setting.loaded? .absent
        (variableOnly "TRANSOCKS_MAX_CONNECTIONS" "7").environment .maxConnections = some 7 := by
      decide +kernel
    refine ⟨_, loaded, fun o => ?_, fun o t other => ?_⟩
    · exact Option.some.inj (((inOrder _ _).1 loaded o .maxConnections).trans said)
    · refine ownVariable _ _ _ _ rfl rfl loaded loaded' "TRANSOCKS_MAX_CONNECTIONS"
        (fun name apart => ?_) t (distinct t .maxConnections other).1 o
      exact (if_neg apart).trans (if_neg apart).symm

end CommandLine

end Sluice

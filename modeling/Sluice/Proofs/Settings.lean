import Mathlib.Logic.Function.Basic
import Sluice.Config.Overrides

/-
  A configuration is its ten settings, and each setting is a field of its own: it can be looked up
  and put, and putting one leaves the others as they are (`Config.get_put`, `Config.get_put_ne`).
  What reads settings from texts is told in these words. A setting is read from a text by putting
  the value that the text writes (`Setting.read_eq`), and an environment is applied without a fault
  just if each of the settings becomes what its own variable says
  (`Config.applyEnvironment_eq_none`).
-/

namespace Sluice

theorem mapError_eq_ok {ε ε' α : Type} {x : Except ε α} {f : ε → ε'} {a : α} :
    x.mapError f = .ok a ↔ x = .ok a := by
  cases x with
  | error e => exact ⟨nofun, nofun⟩
  | ok b =>
    show Except.ok b = .ok a ↔ _
    rw [Except.ok.injEq, Except.ok.injEq]

namespace Setting

/-- The values of a setting. -/
abbrev Value : Setting → Type
  | listen => SocketAddress
  | mode => Mode
  | shutdownTimeout => Duration
  | sniffTimeout => Duration
  | maxConnections => Nat
  | proxyUrl => String
  | dialTimeout => Duration
  | keepalive => Duration
  | logLevel => String
  | logFormat => LogFormat

/-- The value that a text writes for a setting. -/
def ofText (text : String) : (s : Setting) → Except ValueFault s.Value
  | listen => readAddress text
  | mode => readMode text
  | shutdownTimeout => readDuration text
  | sniffTimeout => readDuration text
  | maxConnections => readCount text
  | proxyUrl => .ok text
  | dialTimeout => readDuration text
  | keepalive => readDuration text
  | logLevel => .ok text
  | logFormat => readLogFormat text

theorem mem_all (s : Setting) : s ∈ all := by
  cases s <;> decide

end Setting

namespace Config

/-! ## Fields -/

/-- The value of a setting. -/
def get (c : Config) : (s : Setting) → s.Value
  | .listen => c.server.listen
  | .mode => c.server.mode
  | .shutdownTimeout => c.server.shutdownTimeout
  | .sniffTimeout => c.server.sniffTimeout
  | .maxConnections => c.server.maxConnections
  | .proxyUrl => c.outbound.proxyUrl
  | .dialTimeout => c.outbound.dialTimeout
  | .keepalive => c.outbound.keepalive
  | .logLevel => c.logging.level
  | .logFormat => c.logging.format

/-- The configuration of these values. -/
def ofValues (values : (s : Setting) → s.Value) : Config where
  server := {
    listen := values .listen
    mode := values .mode
    shutdownTimeout := values .shutdownTimeout
    sniffTimeout := values .sniffTimeout
    maxConnections := values .maxConnections }
  outbound := {
    proxyUrl := values .proxyUrl
    dialTimeout := values .dialTimeout
    keepalive := values .keepalive }
  logging := {
    level := values .logLevel
    format := values .logFormat }

/-- The configuration with another value of a setting. -/
def put (c : Config) (s : Setting) (v : s.Value) : Config :=
  ofValues (Function.update c.get s v)

variable {c c' : Config} {s t : Setting}

theorem get_ofValues (values : (s : Setting) → s.Value) (s : Setting) :
    (ofValues values).get s = values s := by
  cases s <;> rfl

/-- A configuration is its settings. -/
theorem ext_get (same : ∀ s, c.get s = c'.get s) : c = c' :=
  congrArg ofValues (funext same)

theorem get_put (c : Config) (s : Setting) (v : s.Value) : (c.put s v).get s = v := by
  rw [put, get_ofValues, Function.update_self]

theorem get_put_ne (c : Config) (v : s.Value) (other : t ≠ s) : (c.put s v).get t = c.get t := by
  rw [put, get_ofValues, Function.update_of_ne other]

end Config

/-! ## Texts -/

/-- A setting that is read from a text is put. -/
theorem Setting.read_eq (s : Setting) (text : String) (c : Config) :
    s.read text c = (s.ofText text).map (c.put s) := by
  have whole {α : Type} (x : Except ValueFault α) (f g : α → Config) (same : ∀ v, f v = g v) :
      (do return f (← x)) = x.map g := by
    cases x with
    | error e => rfl
    | ok v => exact congrArg Except.ok (same v)
  cases s with
  | proxyUrl => rfl
  | logLevel => rfl
  | listen => exact whole _ _ _ fun _ => rfl
  | mode => exact whole _ _ _ fun _ => rfl
  | shutdownTimeout => exact whole _ _ _ fun _ => rfl
  | sniffTimeout => exact whole _ _ _ fun _ => rfl
  | maxConnections => exact whole _ _ _ fun _ => rfl
  | dialTimeout => exact whole _ _ _ fun _ => rfl
  | keepalive => exact whole _ _ _ fun _ => rfl
  | logFormat => exact whole _ _ _ fun _ => rfl

/-! ## The environment -/

namespace Setting

variable {c c' : Config} {env : Environment} {s t : Setting} {settings : List Setting}

/-- What the environment makes of a setting: the value of its variable, or what it was. -/
def fromEnvironment (env : Environment) (c : Config) (s : Setting) : Except ValueFault s.Value :=
  match env s.variableName with
  | some text => s.ofText text
  | none => .ok (c.get s)

/-- What becomes of a setting where these settings are applied. -/
def applied (env : Environment) (settings : List Setting) (c : Config) (s : Setting) :
    Except ValueFault s.Value :=
  if s ∈ settings then s.fromEnvironment env c else .ok (c.get s)

theorem fromEnvironment_some {text : String} (said : env s.variableName = some text) :
    s.fromEnvironment env c = s.ofText text := by
  rw [fromEnvironment, said]

theorem fromEnvironment_none (silent : env s.variableName = none) :
    s.fromEnvironment env c = .ok (c.get s) := by
  rw [fromEnvironment, silent]

theorem applied_congr (same : c.get s = c'.get s) :
    s.applied env settings c = s.applied env settings c' := by
  rw [applied, applied, fromEnvironment, fromEnvironment, same]

theorem applied_self (settings : List Setting) :
    s.applied env (s :: settings) c = s.fromEnvironment env c :=
  if_pos List.mem_cons_self

theorem applied_fresh (fresh : s ∉ settings) : s.applied env settings c = .ok (c.get s) :=
  if_neg fresh

theorem applied_ne (other : t ≠ s) :
    t.applied env (s :: settings) c = t.applied env settings c := by
  simp only [applied, List.mem_cons, other, false_or]

end Setting

namespace Config

variable {c c' : Config} {env : Environment} {settings : List Setting}

/-- Settings are applied without a fault just if each can become what the environment makes of it.
-/
theorem applySettings_eq_none (once : settings.Nodup) : applySettings env settings c = (none, c') ↔
    ∀ s : Setting, s.applied env settings c = .ok (c'.get s) := by
  induction settings generalizing c with
  | nil =>
    refine ⟨fun same s => ?_, fun same => ?_⟩
    · obtain rfl : c = c' := (Prod.mk.inj same).2
      exact Setting.applied_fresh List.not_mem_nil
    · have all : c = c' := ext_get fun s =>
        Except.ok.inj ((Setting.applied_fresh List.not_mem_nil).symm.trans (same s))
      rw [applySettings, all]
  | cons s rest ih =>
    obtain ⟨fresh, once⟩ := List.nodup_cons.1 once
    rw [applySettings]
    cases said : env s.variableName with
    | none =>
      refine (ih once).trans (forall_congr' fun t => ?_)
      by_cases own : t = s
      · rw [own, Setting.applied_self, Setting.applied_fresh fresh,
          Setting.fromEnvironment_none said]
      · rw [Setting.applied_ne own]
    | some text =>
      have told : s.applied env (s :: rest) c = s.ofText text :=
        (Setting.applied_self rest).trans (Setting.fromEnvironment_some said)
      dsimp only
      rw [s.read_eq]
      cases value : s.ofText text with
      | error fault =>
        refine ⟨nofun, fun all => ?_⟩
        cases (told.trans value).symm.trans (all s)
      | ok v =>
        refine (ih once).trans (forall_congr' fun t => ?_)
        by_cases own : t = s
        · rw [own, told, value, Setting.applied_fresh fresh, get_put]
        · rw [Setting.applied_ne own, Setting.applied_congr (get_put_ne c v own)]

/-- The environment is applied without a fault just if each setting can become what the environment
makes of it. -/
theorem applyEnvironment_eq_none : applyEnvironment env c = (none, c') ↔
    ∀ s : Setting, s.fromEnvironment env c = .ok (c'.get s) := by
  refine (applySettings_eq_none (by decide)).trans (forall_congr' fun s => ?_)
  rw [Setting.applied, if_pos s.mem_all]

end Config

end Sluice

import Sluice.Config.Basic
import Sluice.Duration.Reading
import Sluice.Duration.Written
import Sluice.Text.Count

/-
  Each setting as a text: how it is read, how it is written, and the environment variable that holds
  it. A setting touches its own field only, and reading what was written changes nothing.
-/

namespace Sluice

/-- Why a text is no value of a setting. -/
inductive ValueFault where
  | address
  | mode (text : String)
  | duration (fault : Duration.TextFault)
  | count (fault : Count.Fault)
  | logFormat (text : String)
  deriving DecidableEq, Repr

/-- The wording of a fault. -/
def ValueFault.message : ValueFault → String
  | address => SocketAddress.syntaxMessage
  | mode text => Mode.unknownMessage text
  | duration fault => fault.message
  | count fault => fault.message
  | logFormat text => LogFormat.unknownMessage text

/-! ## Texts of values -/

def readAddress (text : String) : Except ValueFault SocketAddress :=
  (SocketAddress.parse? text).elim (.error .address) .ok

def readMode (text : String) : Except ValueFault Mode :=
  (Mode.parse? text).elim (.error (.mode text)) .ok

def readDuration (text : String) : Except ValueFault Duration :=
  (Duration.parse text).mapError .duration

def readCount (text : String) : Except ValueFault Nat :=
  (Count.parse text).mapError .count

def readLogFormat (text : String) : Except ValueFault LogFormat :=
  (LogFormat.parse? text).elim (.error (.logFormat text)) .ok

/-! ## Settings -/

/-- A setting, in the order in which settings are applied. -/
inductive Setting where
  | listen
  | mode
  | shutdownTimeout
  | sniffTimeout
  | maxConnections
  | proxyUrl
  | dialTimeout
  | keepalive
  | logLevel
  | logFormat
  deriving DecidableEq, Repr

namespace Setting

/-- All settings, in order. -/
def all : List Setting :=
  [listen, mode, shutdownTimeout, sniffTimeout, maxConnections, proxyUrl, dialTimeout, keepalive,
   logLevel, logFormat]

/-- The environment variable of a setting. -/
def variableName : Setting → String
  | listen => "TRANSOCKS_LISTEN_ADDR"
  | mode => "TRANSOCKS_MODE"
  | shutdownTimeout => "TRANSOCKS_SHUTDOWN_TIMEOUT"
  | sniffTimeout => "TRANSOCKS_SNIFF_TIMEOUT"
  | maxConnections => "TRANSOCKS_MAX_CONNECTIONS"
  | proxyUrl => "TRANSOCKS_PROXY_URL"
  | dialTimeout => "TRANSOCKS_DIAL_TIMEOUT"
  | keepalive => "TRANSOCKS_KEEPALIVE"
  | logLevel => "TRANSOCKS_LOG_LEVEL"
  | logFormat => "TRANSOCKS_LOG_FORMAT"

/-- The configuration with a setting read from a text. -/
def read (setting : Setting) (text : String) (c : Config) : Except ValueFault Config :=
  match setting with
  | listen => do return { c with server := { c.server with listen := ← readAddress text } }
  | mode => do return { c with server := { c.server with mode := ← readMode text } }
  | shutdownTimeout => do
    return { c with server := { c.server with shutdownTimeout := ← readDuration text } }
  | sniffTimeout => do
    return { c with server := { c.server with sniffTimeout := ← readDuration text } }
  | maxConnections => do
    return { c with server := { c.server with maxConnections := ← readCount text } }
  | proxyUrl => .ok { c with outbound := { c.outbound with proxyUrl := text } }
  | dialTimeout => do
    return { c with outbound := { c.outbound with dialTimeout := ← readDuration text } }
  | keepalive => do
    return { c with outbound := { c.outbound with keepalive := ← readDuration text } }
  | logLevel => .ok { c with logging := { c.logging with level := text } }
  | logFormat => do return { c with logging := { c.logging with format := ← readLogFormat text } }

/-- The text of a setting. -/
def written (setting : Setting) (c : Config) : String :=
  match setting with
  | listen => c.server.listen.text
  | mode => c.server.mode.text
  | shutdownTimeout => c.server.shutdownTimeout.written
  | sniffTimeout => c.server.sniffTimeout.written
  | maxConnections => String.ofList (Digits.ofNat 10 c.server.maxConnections)
  | proxyUrl => c.outbound.proxyUrl
  | dialTimeout => c.outbound.dialTimeout.written
  | keepalive => c.outbound.keepalive.written
  | logLevel => c.logging.level
  | logFormat => c.logging.format.name

end Setting

/-! ## The environment -/

/-- A variable whose text is no value of its setting. -/
structure EnvironmentFault where
  setting : Setting
  text : String
  cause : ValueFault
  deriving DecidableEq, Repr

/-- The wording of a fault, its cause behind it. -/
def EnvironmentFault.chain (f : EnvironmentFault) : List String :=
  [s!"Invalid {f.setting.variableName}: {f.text}", f.cause.message]

/-- Environment variables. -/
abbrev Environment := String → Option String

namespace Config

/-- Applies settings from the environment until one cannot be read; what was applied stays. -/
def applySettings (env : Environment) : List Setting → Config → Option EnvironmentFault × Config
  | [], c => (none, c)
  | setting :: rest, c =>
    match env setting.variableName with
    | none => applySettings env rest c
    | some text =>
      match setting.read text c with
      | .ok c => applySettings env rest c
      | .error cause => (some { setting, text, cause }, c)

/-- Applies the environment. -/
def applyEnvironment (env : Environment) (c : Config) : Option EnvironmentFault × Config :=
  applySettings env Setting.all c

end Config

end Sluice

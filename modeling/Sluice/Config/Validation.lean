import Sluice.Config.Basic
import Sluice.Proxy.Url

/-
  Which configurations the server can run with.
-/

namespace Sluice

/-- Why the server cannot run with a configuration. -/
inductive ConfigFault where
  | noConnections
  | tooManyConnections
  | noTimeToSniff
  | longShutdown
  | noProxy
  | proxy (fault : ProxyUrl.Fault)
  | noTimeToDial
  | logLevel
  deriving DecidableEq, Repr

/-- The levels of the log. -/
def logLevels : List String :=
  ["trace", "debug", "info", "warn", "error"]

namespace ConfigFault

/-- The section that is at fault. -/
def sectionName : ConfigFault → String
  | noConnections | tooManyConnections | noTimeToSniff | longShutdown => "Server"
  | noProxy | proxy _ | noTimeToDial => "Upstream"
  | logLevel => "Logging"

/-- What is wrong with it, the cause behind. -/
def reason : ConfigFault → List String
  | noConnections => ["max_connections must be greater than 0"]
  | tooManyConnections => ["max_connections cannot exceed 1,000,000"]
  | noTimeToSniff => ["sniff_timeout must be greater than 0"]
  | longShutdown => ["shutdown_timeout cannot exceed 1 hour"]
  | noProxy => ["proxy_url is required"]
  | proxy fault => fault.chain
  | noTimeToDial => ["dial_timeout must be greater than 0"]
  | logLevel => ["logging.level must be one of: " ++ ", ".intercalate logLevels]

/-- The wording of a fault, its causes behind it. -/
def chain (f : ConfigFault) : List String :=
  s!"{f.sectionName} configuration validation failed" :: f.reason

end ConfigFault

/-- The most connections at a time. -/
def connectionLimit : Nat := 1000000

/-- The longest time that a shutdown may take. -/
def shutdownLimit : Duration := Duration.ofSeconds 3600

def ServerConfig.validate (c : ServerConfig) : Except ConfigFault Unit :=
  if c.maxConnections = 0 then .error .noConnections
  else if connectionLimit < c.maxConnections then .error .tooManyConnections
  else if c.sniffTimeout.isZero then .error .noTimeToSniff
  else if shutdownLimit.toNanos < c.shutdownTimeout.toNanos then .error .longShutdown
  else .ok ()

def OutboundConfig.validate (c : OutboundConfig) : Except ConfigFault Unit :=
  if c.proxyUrl.isEmpty then .error .noProxy
  else
    match ProxyUrl.parse c.proxyUrl with
    | .error f => .error (.proxy f)
    | .ok _ => if c.dialTimeout.isZero then .error .noTimeToDial else .ok ()

def LoggingConfig.validate (c : LoggingConfig) : Except ConfigFault Unit :=
  if logLevels.contains (lowerText c.level) then .ok () else .error .logLevel

/-- Can the server run with this configuration? -/
def Config.validate (c : Config) : Except ConfigFault Unit := do
  c.server.validate
  c.outbound.validate
  c.logging.validate

end Sluice

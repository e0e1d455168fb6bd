import Sluice.Address.Socket
import Sluice.Config.LogFormat
import Sluice.Destination.Mode
import Sluice.Duration.Basic

/-
  The configuration: where to listen and how long to wait, which forward proxy to go through, and
  what to log.
-/

namespace Sluice

/-- The listener, and what one connection may take. -/
structure ServerConfig where
  listen : SocketAddress := .v4 Ipv4.loopback 1081
  mode : Mode := .direct
  /-- How long running connections may go on once the server is to stop. -/
  shutdownTimeout : Duration := Duration.ofSeconds 60
  /-- How long a client may take to say what it wants. -/
  sniffTimeout : Duration := Duration.ofSeconds 10
  maxConnections : Nat := 10000
  deriving DecidableEq, Repr

/-- The forward proxy. -/
structure OutboundConfig where
  proxyUrl : String := ""
  dialTimeout : Duration := Duration.ofSeconds 30
  /-- How long a connection may be idle before it is probed; zero for no probes. -/
  keepalive : Duration := Duration.ofSeconds 180
  deriving DecidableEq, Repr

/-- The log. -/
structure LoggingConfig where
  level : String := "info"
  format : LogFormat := .text
  deriving DecidableEq, Repr

/-- The configuration. -/
structure Config where
  server : ServerConfig := {}
  outbound : OutboundConfig := {}
  logging : LoggingConfig := {}
  deriving DecidableEq, Repr

/-- How long a connection may be idle before it is probed. -/
def OutboundConfig.keepalive? (c : OutboundConfig) : Option Duration :=
  if c.keepalive.isZero then none else some c.keepalive

end Sluice

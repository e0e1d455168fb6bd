import Sluice.Config.Setting

/-
  Settings from the command line, which go before all others.
-/

namespace Sluice

/-- What the command line sets. -/
structure Overrides where
  listen : Option SocketAddress := none
  mode : Option Mode := none
  proxyUrl : Option String := none
  shutdownTimeout : Option Duration := none
  logLevel : Option String := none
  deriving DecidableEq, Repr

/-- The configuration with what the command line sets. -/
def Config.override (c : Config) (o : Overrides) : Config :=
  { server :=
      { c.server with
        listen := o.listen.getD c.server.listen
        mode := o.mode.getD c.server.mode
        shutdownTimeout := o.shutdownTimeout.getD c.server.shutdownTimeout }
    outbound := { c.outbound with proxyUrl := o.proxyUrl.getD c.outbound.proxyUrl }
    logging := { c.logging with level := o.logLevel.getD c.logging.level } }

end Sluice

import Sluice.Sniff.Error

/-
  Why a proxied connection ended early: the step that failed, and what it says in the log.
-/

namespace Sluice

/-- A step that can be cut short from outside. -/
inductive CutStep where
  | sniffing
  | dialing
  deriving DecidableEq, Repr

def CutStep.text : CutStep → String
  | sniffing => "sniffing"
  | dialing => "dialing"

/-- Why a connection ended early. -/
inductive ProxyError where
  | resolution (error : IoError)
  | sniff (error : SniffError)
  /-- What was attempted, and behind it what went wrong with it. -/
  | dial (chain : List String)
  | aborted (step : CutStep)
  | relay (error : IoError) (elapsed : Duration)
  deriving DecidableEq, Repr

/-- A chain of causes on one line, the outermost first. -/
def chainText (chain : List String) : String :=
  ": ".intercalate chain

namespace ProxyError

/-- How the log names a relay that failed. -/
def relayCategory : String :=
  "proxy ends with an error"

/-- The kind of failure, as the log names it. -/
def category : ProxyError → String
  | resolution _ => "resolution failed"
  | sniff _ => "sniff failed"
  | dial _ => "dial failed"
  | aborted _ => "proxy aborted"
  | relay _ _ => relayCategory

/-- The wording of a failure. -/
def message : ProxyError → String
  | resolution e => s!"failed to resolve destination: {e.message}"
  | sniff e => e.message
  | dial chain => s!"failed to connect to proxy server: {chainText chain}"
  | aborted step => s!"force-closed while {step.text}"
  | relay e elapsed => s!"relay failed after {elapsed.shown}: {e.message}"

end ProxyError

end Sluice

import Sluice.CommandLine.Arguments

/-
  What the program says about itself: its version and its flags.
-/

namespace Sluice.CommandLine

/-- The name of the program. -/
def programName : String := "transocks"

def programVersion : String := "1.0.0"

/-- The line that tells the version. -/
def versionLine : String :=
  s!"{programName} {programVersion}"

/-- What the program is for. -/
def summary : String :=
  "Transparent proxy that forwards through SOCKS5 or HTTP CONNECT"

/-- What the program does. -/
def description : List String :=
  [summary ++ ".",
   "",
   "The destination of each connection is its local address (direct mode) or",
   "the NAT original destination (redirect mode). A TLS SNI or HTTP Host found",
   "in the first bytes replaces the destination host; the port is kept.",
   "",
   "Configuration priority (highest to lowest):",
   "1. Command-line arguments",
   "2. Configuration file",
   "3. Environment variables",
   "4. Built-in defaults",
   "",
   "Environment variables:",
   "  TRANSOCKS_LISTEN_ADDR       - Listen address (e.g., 127.0.0.1:1081)",
   "  TRANSOCKS_MODE              - direct or redirect (alias: nat)",
   "  TRANSOCKS_PROXY_URL         - socks5://, socks5h:// or http:// proxy URL",
   "  TRANSOCKS_SHUTDOWN_TIMEOUT  - Grace period on shutdown (e.g., 1m)",
   "  TRANSOCKS_SNIFF_TIMEOUT     - Limit for reading SNI / Host (e.g., 10s)",
   "  TRANSOCKS_MAX_CONNECTIONS   - Maximum concurrent connections",
   "  TRANSOCKS_DIAL_TIMEOUT      - Limit for dialing through the proxy",
   "  TRANSOCKS_KEEPALIVE         - TCP keepalive to the proxy (0s disables)",
   "  TRANSOCKS_LOG_LEVEL         - trace, debug, info, warn, error",
   "  TRANSOCKS_LOG_FORMAT        - text or json"]

namespace Flag

/-- What a flag does. -/
def explanation (atLength : Bool) : Flag → String
  | config => "Configuration file path"
  | listen => "Listen address (overrides config file)"
  | mode => "Destination mode: direct or redirect"
  | proxyUrl => "Forward proxy URL"
  | shutdownTimeout => "Grace period for running connections on shutdown (e.g., 30s)"
  | logLevel => "Log level (trace, debug, info, warn, error)"
  | verbose => "Enable verbose logging (sets log level to debug)"
  | validateConfig => "Validate configuration and exit"
  | help =>
    if atLength then "Print help (see a summary with '-h')"
    else "Print help (see more with '--help')"
  | version => "Print version"

/-- The value of a flag that is not given. -/
def default? : Flag → Option String
  | config => some s!"[default: {Arguments.defaultConfig}]"
  | _ => none

/-- How a flag is written. -/
def usage (f : Flag) : String :=
  let letter := match f.short? with
    | some c => String.ofList ['-', c, ',', ' ']
    | none => "    "
  let value := match f.value? with
    | some name => s!" <{name}>"
    | none => ""
  s!"  {letter}--{f.long}{value}"

/-- What stands before an explanation. -/
def indent : String := "          "

/-- The lines about a flag. -/
def lines (atLength : Bool) (f : Flag) : List String :=
  let text := indent ++ f.explanation atLength
  f.usage :: match f.default? with
    | none => [text]
    | some given => if atLength then [text, indent, indent ++ given] else [text ++ " " ++ given]

end Flag

/-- The lines about all flags; at length, an empty line stands between two of them. -/
def flagLines (atLength : Bool) : List String :=
  let blocks := Flag.all.map (Flag.lines atLength)
  if atLength then [""].intercalate blocks else blocks.flatten

/-- The explanation of the program. -/
def helpLines (atLength : Bool) : List String :=
  (if atLength then description ++ ["", ""] else [summary, ""]) ++
    [s!"Usage: {programName} [OPTIONS]", "", "Options:"] ++ flagLines atLength

end Sluice.CommandLine

import Sluice.CommandLine.Help
import Sluice.Config.File
import Sluice.Config.Validation
import Sluice.Log.Filter
import Sluice.Server.Launch
import Sluice.Server.Signal

/-
  What the program does for a command line: it explains itself, checks a configuration, or serves.
  Serving needs an address to listen on, so a run stops where that is asked for (`Start.serve`) and
  is reported once it is known what came of it (`Launch.report`).
-/

namespace Sluice.CommandLine

/-- What there is at a path. -/
inductive FileState where
  | absent
  | unreadable (error : IoError)
  | content (octets : Octets)
  deriving DecidableEq, Repr

/-- What a run finds around it. -/
structure Surroundings where
  file : String → FileState
  environment : Environment

/-- A line that the program prints. -/
inductive OutputLine where
  | plain (text : String)
  | logged (format : LogFormat) (event : LogEvent)
  deriving DecidableEq, Repr

/-- What a run comes to. -/
structure Report where
  output : List OutputLine := []
  exit : Nat := 0
  /-- What went wrong, and behind it the causes. -/
  failure : List String := []
  deriving DecidableEq, Repr

/-- The exit status of a command line that is not understood. -/
def usageExit : Nat := 2

/-- The exit status of a run that failed. -/
def failureExit : Nat := 1

/-! ## The configuration -/

/-- What went wrong with loading a configuration from a path. -/
def loadFailure (path : String) : Config.LoadFault → List String
  | .file .notUtf8 => [s!"Failed to read config file: {path}", Config.notUtf8Message]
  | .file .malformed => [s!"Failed to parse config file: {path}"]
  | .environment f => f.chain

/-- Loads the configuration: from the file, or from the environment if there is no file. -/
def loadConfig (w : Surroundings) (path : String) : Except (List String) Config :=
  let loaded := fun file => (Config.load file w.environment).mapError (loadFailure path)
  match w.file path with
  | .unreadable e => .error [s!"Failed to read config file: {path}", e.message]
  | .absent => loaded none
  | .content octets => loaded (some octets)

/-- The environment variable that holds a log filter. -/
def filterVariable : String := "RUST_LOG"

/-- The filter of the log: the one in the environment, or else the level of the configuration. -/
def filterOf (w : Surroundings) (a : Arguments) (c : Config) : LogFilter :=
  let level := if a.verbose then "debug" else c.logging.level
  match (w.environment filterVariable).bind LogFilter.parse? with
  | some filter => filter
  | none => (LogFilter.parse? level).getD LogFilter.errorsOnly

/-! ## Starting -/

/-- A line about the program as a whole. -/
def say (message : String) : LogEvent :=
  { source := .program, level := .info, message }

/-- What the log says of a configuration that the program can run with. -/
def configLines (c : Config) : List LogEvent :=
  [say "Configuration is valid",
   say s!"  Listen address: {c.server.listen}",
   say s!"  Mode: {c.server.mode}",
   say s!"  Max connections: {c.server.maxConnections}",
   say s!"  Shutdown timeout: {c.server.shutdownTimeout.shown}",
   say s!"  Sniff timeout: {c.server.sniffTimeout.shown}",
   say s!"  Dial timeout: {c.outbound.dialTimeout.shown}"]

/-- A server that is ready to listen. -/
structure Launch where
  config : Config
  filter : LogFilter
  dialer : Dialer
  server : Server

/-- What a command line leads to. -/
inductive Start where
  | finished (report : Report)
  | serve (launch : Launch)

/-- The lines of the log that are printed. -/
def printed (filter : LogFilter) (format : LogFormat) (events : List LogEvent) :
    List OutputLine :=
  (events.filter fun e => filter.enables e.source e.level).map (.logged format)

/-- A run that failed. -/
def failed (failure : List String) : Start :=
  .finished { exit := failureExit, failure }

/-- Starts with these arguments. -/
def startWith (w : Surroundings) (a : Arguments) : Start :=
  match loadConfig w (a.config.getD Arguments.defaultConfig) with
  | .error chain => failed chain
  | .ok loaded =>
    let config := loaded.override a.overrides
    let filter := filterOf w a config
    match config.validate with
    | .error f => failed ("Final configuration validation failed" :: f.chain)
    | .ok () =>
      if a.validateConfig then
        .finished { output := printed filter config.logging.format (configLines config) }
      else
        match config.dialer with
        | .error f => failed f.chain
        | .ok dialer => .serve { config, filter, dialer, server := Server.ofConfig config }

/-- Starts with a command line. -/
def start (w : Surroundings) (words : List String) : Start :=
  match read words with
  | .error f => .finished { exit := usageExit, failure := [f.message] }
  | .ok .version => .finished { output := [.plain versionLine] }
  | .ok (.help atLength) => .finished { output := (helpLines atLength).map .plain }
  | .ok (.run a) => startWith w a

/-! ## Serving -/

namespace Launch

/-- What the log says before the program listens. -/
def firstLines (l : Launch) : List LogEvent :=
  let listen := l.config.server.listen
  let proxy := l.dialer.proxy.elim "" ProxyUrl.text
  [say s!"Starting {programName} v{programVersion}",
   say s!"Listen address: {listen}",
   say s!"Mode: {l.config.server.mode}",
   { source := .server, level := .info, message := s!"Forwarding through {proxy}" },
   { source := .server, level := .info, message := s!"Binding TCP listener to {listen}" }]

/-- Lines of this launch that are printed. -/
def printed (l : Launch) (events : List LogEvent) : List OutputLine :=
  CommandLine.printed l.filter l.config.logging.format events

/-- A run that could not listen. -/
def notBound (l : Launch) (e : IoError) : Report :=
  { output := l.printed l.firstLines
    exit := failureExit
    failure := [s!"Failed to bind {l.config.server.listen}", e.message] }

/-- A run that listened on an address and served, which left this in the log. -/
def served (l : Launch) (address : SocketAddress) (log : List LogEvent) : Report :=
  let bound : LogEvent :=
    { source := .server, level := .info, message := s!"Successfully bound to {address}" }
  { output := l.printed (l.firstLines ++ [bound] ++ log ++ [say "Server shutdown complete"]) }

end Launch

/-! ## Printing -/

/-- A text as JSON writes it. -/
def jsonText (s : String) : String :=
  let escaped := s.toList.map fun c =>
    if c = '"' then "\\\""
    else if c = '\\' then "\\\\"
    else if c = '\n' then "\\n"
    else if c = '\r' then "\\r"
    else if c = '\t' then "\\t"
    else if c.toNat < 32 then
      "\\u00" ++ String.ofList [Nat.digitChar (c.toNat / 16), Nat.digitChar (c.toNat % 16)]
    else String.ofList [c]
  "\"" ++ String.join escaped ++ "\""

/-- A value as JSON writes it. -/
def jsonValue : LogValue → String
  | .text s => jsonText s
  | v => v.shown

/-- A line of the log as a JSON object. -/
def jsonLine (e : LogEvent) : String :=
  let fields := ("message", LogValue.text e.message) :: e.fields
  let entries := fields.map fun (name, value) => jsonText name ++ ":" ++ jsonValue value
  "\x7b\"level\":" ++ jsonText e.level.text ++ ",\"fields\":\x7b" ++ ",".intercalate entries ++
    "\x7d,\"target\":" ++ jsonText e.source.path ++ "\x7d"

/-- The text of a line. -/
def OutputLine.text : OutputLine → String
  | plain s => s
  | logged .json e => jsonLine e
  | logged .text e =>
    String.ofList (List.replicate (5 - e.level.text.length) ' ') ++ e.level.text ++ " " ++ e.text

/-- What is said of a failure: the wording, and the causes below it. -/
def failureText : List String → String
  | [] => ""
  | [message] => s!"Error: {message}\n"
  | message :: causes =>
    let numbered := causes.zipIdx.map fun (cause, i) => s!"\n    {i}: {cause}"
    let lines := if causes.length = 1 then causes.map ("\n    " ++ ·) else numbered
    s!"Error: {message}\n\nCaused by:" ++ String.join lines ++ "\n"

end Sluice.CommandLine

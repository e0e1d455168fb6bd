import Sluice.Config.Overrides

/-
  The words of a command line. They are taken from left to right, and the first one that asks for
  something else than a run, or cannot be understood, decides.
-/

namespace Sluice.CommandLine

/-- Something that can be set on the command line. -/
inductive Flag where
  | config
  | listen
  | mode
  | proxyUrl
  | shutdownTimeout
  | logLevel
  | verbose
  | validateConfig
  | help
  | version
  deriving DecidableEq, Repr

namespace Flag

/-- All flags, in the order in which they are explained. -/
def all : List Flag :=
  [config, listen, mode, proxyUrl, shutdownTimeout, logLevel, verbose, validateConfig, help,
   version]

/-- The name behind two dashes. -/
def long : Flag → String
  | config => "config"
  | listen => "listen"
  | mode => "mode"
  | proxyUrl => "proxy-url"
  | shutdownTimeout => "shutdown-timeout"
  | logLevel => "log-level"
  | verbose => "verbose"
  | validateConfig => "validate-config"
  | help => "help"
  | version => "version"

/-- The letter behind one dash. -/
def short? : Flag → Option Char
  | config => some 'c'
  | listen => some 'l'
  | mode => some 'm'
  | proxyUrl => some 'x'
  | verbose => some 'v'
  | help => some 'h'
  | version => some 'V'
  | shutdownTimeout | logLevel | validateConfig => none

/-- What stands for the value, if the flag takes one. -/
def value? : Flag → Option String
  | config => some "CONFIG"
  | listen => some "LISTEN"
  | mode => some "MODE"
  | proxyUrl => some "PROXY_URL"
  | shutdownTimeout => some "SHUTDOWN_TIMEOUT"
  | logLevel => some "LOG_LEVEL"
  | verbose | validateConfig | help | version => none

def takesValue (f : Flag) : Bool :=
  f.value?.isSome

/-- The flag of this name. -/
def ofLong? (name : String) : Option Flag :=
  all.find? fun f => f.long == name

/-- The flag of this letter. -/
def ofShort? (c : Char) : Option Flag :=
  all.find? fun f => f.short? == some c

end Flag

/-- Why a command line is not understood. -/
inductive UsageFault where
  /-- There is no flag of this name, and no place for a word without one. -/
  | unexpected (word : String)
  | noValue (flag : Flag)
  | needlessValue (flag : Flag)
  | repeated (flag : Flag)
  | badValue (flag : Flag) (text : String) (cause : ValueFault)
  /-- A path has at least one character. -/
  | emptyPath
  deriving DecidableEq, Repr

/-- The wording of a fault. -/
def UsageFault.message : UsageFault → String
  | unexpected word => s!"error: unexpected argument '{word}' found"
  | noValue f => s!"error: a value is required for '--{f.long}' but none was supplied"
  | needlessValue f => s!"error: unexpected value for '--{f.long}'; no more were expected"
  | repeated f => s!"error: the argument '--{f.long}' cannot be used multiple times"
  | badValue f text cause => s!"error: invalid value '{text}' for '--{f.long}': {cause.message}"
  | emptyPath => "error: a value is required for '--config' but none was supplied"

/-- What the command line says. -/
structure Arguments where
  config : Option String := none
  overrides : Overrides := {}
  verbose : Bool := false
  validateConfig : Bool := false
  deriving DecidableEq, Repr

/-- What the command line asks for. -/
inductive Request where
  | run (arguments : Arguments)
  /-- Explain the flags; at length, or in short. -/
  | help (atLength : Bool)
  | version
  deriving DecidableEq, Repr

namespace Arguments

/-- The configuration file, unless another one is named. -/
def defaultConfig : String := "transocks.toml"

/-- Puts a value in a place that is still free. -/
def once {α : Type} (f : Flag) (place : Option α) (value : Except UsageFault α) :
    Except UsageFault (Option α) :=
  if place.isSome then .error (.repeated f) else value.map some

/-- A value read from its text. -/
def readBy {α : Type} (f : Flag) (text : String) (read : String → Except ValueFault α) :
    Except UsageFault α :=
  (read text).mapError (.badValue f text)

/-- The path that a text is. -/
def readPath (text : String) : Except UsageFault String :=
  if text.isEmpty then .error .emptyPath else .ok text

/-- Sets a flag that takes a value. -/
def set (f : Flag) (text : String) (a : Arguments) : Except UsageFault Arguments := do
  let o := a.overrides
  match f with
  | .config => return { a with config := ← once f a.config (readPath text) }
  | .listen =>
    let listen ← once f o.listen (readBy f text readAddress)
    return { a with overrides := { o with listen } }
  | .mode =>
    let mode ← once f o.mode (readBy f text readMode)
    return { a with overrides := { o with mode } }
  | .proxyUrl =>
    let proxyUrl ← once f o.proxyUrl (.ok text)
    return { a with overrides := { o with proxyUrl } }
  | .shutdownTimeout =>
    let shutdownTimeout ← once f o.shutdownTimeout (readBy f text readDuration)
    return { a with overrides := { o with shutdownTimeout } }
  | .logLevel =>
    let logLevel ← once f o.logLevel (.ok text)
    return { a with overrides := { o with logLevel } }
  | .verbose | .validateConfig | .help | .version => .error (.needlessValue f)

/-- Turns a switch on; help and version are asked for instead of a run. -/
def turnOn (f : Flag) (atLength : Bool) (a : Arguments) :
    Except UsageFault (Arguments ⊕ Request) :=
  match f with
  | .verbose => if a.verbose then .error (.repeated f) else .ok (.inl { a with verbose := true })
  | .validateConfig =>
    if a.validateConfig then .error (.repeated f)
    else .ok (.inl { a with validateConfig := true })
  | .help => .ok (.inr (.help atLength))
  | .version => .ok (.inr .version)
  | _ => .error (.noValue f)

/-! ## Words -/

/-- What a bundle of letters comes to. -/
inductive Bundle where
  | read (arguments : Arguments)
  /-- The last letter takes the next word. -/
  | wants (flag : Flag) (arguments : Arguments)
  | asks (request : Request)
  deriving DecidableEq, Repr

/-- Reads a bundle of letters. What follows a letter that takes a value is the value; an equals sign
may stand between them. -/
def bundle (a : Arguments) : List Char → Except UsageFault Bundle
  | [] => .ok (.read a)
  | c :: cs =>
    match Flag.ofShort? c with
    | none => .error (.unexpected (String.ofList ['-', c]))
    | some f =>
      if f.takesValue then
        match cs with
        | [] => .ok (.wants f a)
        | '=' :: value => (a.set f (String.ofList value)).map .read
        | value => (a.set f (String.ofList value)).map .read
      else
        match a.turnOn f false with
        | .error e => .error e
        | .ok (.inr request) => .ok (.asks request)
        | .ok (.inl a) => a.bundle cs

/-- Does a word begin a flag? A dash alone does not. -/
def beginsFlag (word : String) : Bool :=
  match word.toList with
  | '-' :: _ :: _ => true
  | _ => false

/-- A name, and the value behind an equals sign. -/
def splitName (s : List Char) : String × Option String :=
  (String.ofList (s.takeWhile (· != '=')),
    match s.dropWhile (· != '=') with
    | _ :: value => some (String.ofList value)
    | [] => none)

/-- Reads the words that are left. -/
def read (a : Arguments) : List String → Except UsageFault Request
  | [] => .ok (.run a)
  | word :: rest =>
    /- A flag that takes the next word. -/
    let wants (f : Flag) (a : Arguments) : Except UsageFault Request :=
      match rest with
      | [] => .error (.noValue f)
      | value :: rest' =>
        if beginsFlag value then .error (.noValue f)
        else
          match a.set f value with
          | .error e => .error e
          | .ok a => a.read rest'
    match word.toList with
    | ['-', '-'] =>
      match rest with
      | [] => .ok (.run a)
      | word :: _ => .error (.unexpected word)
    | '-' :: '-' :: name =>
      let (name, value?) := splitName name
      match Flag.ofLong? name, value? with
      | none, _ => .error (.unexpected word)
      | some f, none =>
        if f.takesValue then wants f a
        else
          match a.turnOn f true with
          | .error e => .error e
          | .ok (.inr request) => .ok request
          | .ok (.inl a) => a.read rest
      | some f, some value =>
        match a.set f value with
        | .error e => .error e
        | .ok a => a.read rest
    | '-' :: c :: cs =>
      match a.bundle (c :: cs) with
      | .error e => .error e
      | .ok (.asks request) => .ok request
      | .ok (.wants f a) => wants f a
      | .ok (.read a) => a.read rest
    | _ => .error (.unexpected word)

end Arguments

/-- Reads a command line. -/
def read (words : List String) : Except UsageFault Request :=
  Arguments.read {} words

end Sluice.CommandLine

import Sluice.Url.Host

/-
  URLs, up to and with the port: the scheme, who signs in, and where. What follows the port is
  looked at only in `file` URLs, whose path can say that there is no host after all.
-/

namespace Sluice

/-- The front of a URL. User name and password are as they stand in the normal form, encoded. -/
structure Url where
  scheme : String
  username : String := ""
  password : String := ""
  host : Option Url.Host := none
  /-- The port, if it is given and is not the one the scheme has by itself. -/
  port : Option UInt16 := none
  deriving DecidableEq, Repr

namespace Url

/-! ## Schemes -/

/-- What the scheme says about the rest. -/
inductive Manner where
  /-- Domain names for hosts, and a port to fall back on. -/
  | special (port : UInt16)
  | file
  | plain
  deriving DecidableEq, Repr

/-- The manner of a scheme. -/
def Manner.ofScheme : String → Manner
  | "http" => special 80
  | "ws" => special 80
  | "https" => special 443
  | "wss" => special 443
  | "ftp" => special 21
  | "file" => file
  | _ => plain

/-- May a backslash stand for a slash? -/
def Manner.isSpecial : Manner → Bool
  | plain => false
  | _ => true

/-- The port that the scheme has by itself. -/
def Manner.defaultPort? : Manner → Option UInt16
  | special port => some port
  | _ => none

/-- A text without the blanks around it and the line breaks and tabs in it. -/
def clean (text : List Char) : List Char :=
  let isEdge := fun c : Char => decide (c.toNat ≤ 32)
  let inner := ((text.dropWhile isEdge).reverse.dropWhile isEdge).reverse
  inner.filter fun c => !"\t\n\r".contains c

def isSchemeChar (c : Char) : Bool :=
  c.isAlphanum || "+-.".contains c

/-- The scheme in front of a colon, in small letters, and what follows. -/
def readScheme (s : List Char) : Option (String × List Char) :=
  match s.span isSchemeChar with
  | (c :: letters, ':' :: rest) =>
    if c.isAlpha then some (String.ofList ((c :: letters).map Char.toLower), rest) else none
  | _ => none

/-! ## Who and where -/

/-- Does the character end the part of a URL that says who and where? -/
def endsAuthority (manner : Manner) (c : Char) : Bool :=
  c == '/' || c == '?' || c == '#' || (manner.isSpecial && c == '\\')

/-- What stands before the last such character, if there is one, and what stands behind it. -/
def splitLast (c : Char) (s : List Char) : Option (List Char) × List Char :=
  match s.reverse.span (· ≠ c) with
  | (behind, _ :: before) => (some before.reverse, behind.reverse)
  | (_, []) => (none, s)

/-- The characters that are encoded in user names and passwords. -/
def isEncodedInUserinfo (c : Char) : Bool :=
  Percent.isControl c || " \"<>`#?\x7b\x7d/:;=@[\\]^|".contains c

/-- User name and password, encoded. -/
def userinfo (s : List Char) : String × String :=
  let (username, password) := s.span (· ≠ ':')
  let shown := fun t => String.ofList (Percent.encode isEncodedInUserinfo t)
  (shown username, shown (password.drop 1))

/-- The length of the host at the front of a text: a colon in brackets belongs to it. -/
def hostLength (inBrackets : Bool) : List Char → Nat
  | [] => 0
  | c :: rest =>
    if c == ':' && !inBrackets then 0
    else hostLength (if c == '[' then true else if c == ']' then false else inBrackets) rest + 1

/-- The port that digits write; none if there are no digits. -/
def portOfDigits (digits : List Char) : Except Fault (Option UInt16) :=
  if digits.any (fun c => !c.isDigit) || UInt16.size ≤ Digits.toNat 10 digits then
    .error .portNumber
  else .ok (if digits.isEmpty then none else some (UInt16.ofNat (Digits.toNat 10 digits)))

/-- The port behind a host, without the one the scheme has by itself. -/
def readPort (manner : Manner) : List Char → Except Fault (Option UInt16)
  | ':' :: rest => do
    let port ← portOfDigits (rest.takeWhile fun c => !(endsAuthority manner c || c == '\\'))
    return if port == manner.defaultPort? then none else port
  | _ => .ok none

/-- The host, if there is one. -/
def hostOf (manner : Manner) (text : List Char) : Except Fault (Option Host) :=
  if text.isEmpty then if manner.isSpecial then .error .emptyHost else .ok none
  else if manner.isSpecial then (Host.ofDomain text).map some
  else (Host.ofOpaque text).map some

/-- What follows the two slashes. -/
def readAuthority (scheme : String) (manner : Manner) (s : List Char) : Except Fault Url := do
  let (front, rest) := s.span fun c => !endsAuthority manner c
  let (signIn, place) := splitLast '@' front
  if signIn == some [] && place.isEmpty && !rest.isEmpty then throw .emptyHost
  let (username, password) := userinfo (signIn.getD [])
  let length := hostLength false place
  let host ← hostOf manner (place.take length)
  let behind := place.drop length ++ rest
  if host.isNone && behind.head? == some ':' then throw .emptyHost
  let port ← readPort manner behind
  if host.isNone && !(username.isEmpty && password.isEmpty) then throw .emptyHost
  return { scheme, username, password, host, port }

/-! ## Files -/

/-- A letter and a colon or bar. -/
def isDrive (segment : List Char) : Bool :=
  match segment with
  | [c, d] => c.isAlpha && (d == ':' || d == '|')
  | _ => false

/-- A segment with its dots decoded, to tell the ones that move. -/
def dots : List Char → List Char
  | '%' :: '2' :: c :: rest =>
    if c == 'e' || c == 'E' then '.' :: dots rest else '%' :: '2' :: c :: rest
  | '.' :: rest => '.' :: dots rest
  | s => s

/-- Does a path name a drive first? `before` are the segments so far, last first. -/
def startsWithDrive (before : List (List Char)) : List (List Char) → Bool
  | [] => false
  | segment :: rest =>
    if dots segment == "..".toList then startsWithDrive (before.drop 1) rest
    else if dots segment == ".".toList then startsWithDrive before rest
    else if before.isEmpty && isDrive segment then true
    else startsWithDrive (segment :: before) rest

/-- The host of a file. Its own machine goes without a name. -/
def fileHost (text : List Char) : Except Fault (Option Host) :=
  if text.isEmpty then .ok none
  else do
    let host ← Host.ofDomain text
    return if host == .name "localhost" then none else some host

def isSlash (c : Char) : Bool :=
  c == '/' || c == '\\'

/-- The segments of a path. -/
def segments (path : List Char) : List (List Char) :=
  ((path.map fun c => if c == '\\' then '/' else c).splitOn '/')

/-- What follows the scheme `file`. -/
def readFile (s : List Char) : Except Fault Url := do
  match s with
  | a :: b :: rest =>
    if isSlash a && isSlash b then
      let (text, path) := rest.span fun c => !endsAuthority .file c
      let host ← if isDrive text then pure none else fileHost text
      let path := path.takeWhile fun c => c != '?' && c != '#'
      let host := if startsWithDrive [] (segments (path.drop 1)) then none else host
      return { scheme := "file", host }
    else return { scheme := "file" }
  | _ => return { scheme := "file" }

/-! ## Whole URLs -/

/-- What follows the scheme. -/
def readRest (scheme : String) (s : List Char) : Except Fault Url :=
  match Manner.ofScheme scheme with
  | .special port => readAuthority scheme (.special port) (s.dropWhile isSlash)
  | .file => readFile s
  | .plain =>
    match s with
    | '/' :: '/' :: rest => readAuthority scheme .plain rest
    | _ => .ok { scheme }

/-- The URL that a text writes. -/
def parse (text : String) : Except Fault Url :=
  match readScheme (clean text.toList) with
  | none => .error .noScheme
  | some (scheme, rest) => readRest scheme rest

/-- The port to connect to. -/
def portOrDefault? (u : Url) : Option UInt16 :=
  u.port <|> (Manner.ofScheme u.scheme).defaultPort?

/-- The text of the host. -/
def hostText? (u : Url) : Option String :=
  u.host.map Host.text

end Url

end Sluice

import Sluice.Text.Brackets
import Sluice.Text.Quoted
import Sluice.Url.Basic

/-
  The URL of a forward proxy: the protocol it speaks, where it is, and how to sign in. The password
  is in no text made of it.
-/

namespace Sluice

/-- The protocol of a forward proxy. -/
inductive ProxyScheme where
  | socks5
  | http
  deriving DecidableEq, Repr

namespace ProxyScheme

/-- The protocol that the scheme of a URL names. -/
def ofName? : String → Option ProxyScheme
  | "socks5" => some socks5
  | "socks5h" => some socks5
  | "http" => some http
  | _ => none

def text : ProxyScheme → String
  | socks5 => "socks5"
  | http => "http"

/-- The port of a URL that gives none. -/
def defaultPort : ProxyScheme → UInt16
  | socks5 => 1080
  | http => 80

end ProxyScheme

/-- What to sign in with. -/
structure Credentials where
  username : String
  password : String
  deriving DecidableEq

/-- The longest user name and password that SOCKS5 can carry. -/
def maxSocks5Credential : Nat := 255

namespace Credentials

/-- What stands for a password. -/
def mask : String := "***"

/-- Credentials as they show in diagnostics. -/
def shown (c : Credentials) : String :=
  s!"ProxyAuth \x7b username: {Quoted.quote c.username}, password: {Quoted.quote mask} \x7d"

/-- Can SOCKS5 carry them? -/
def fitsSocks5 (c : Credentials) : Bool :=
  c.username.utf8ByteSize ≤ maxSocks5Credential && c.password.utf8ByteSize ≤ maxSocks5Credential

end Credentials

/-- A forward proxy. -/
structure ProxyUrl where
  scheme : ProxyScheme
  /-- The host, an IPv6 address without brackets. -/
  host : String
  port : UInt16
  credentials : Option Credentials := none
  deriving DecidableEq

namespace ProxyUrl

/-- Why a text is not the URL of a forward proxy. -/
inductive Fault where
  | url (text : String) (fault : Url.Fault)
  | scheme (name : String)
  | noHost (text : String)
  | notUtf8 (fault : Utf8.Fault)
  | longCredentials
  deriving DecidableEq, Repr

/-- The wording of a fault, its cause behind it. -/
def Fault.chain : Fault → List String
  | url text fault => [s!"invalid proxy URL '{text}'", fault.message]
  | scheme name => [s!"unsupported proxy scheme '{name}'"]
  | noHost text => [s!"proxy URL '{text}' has no host"]
  | notUtf8 fault => ["proxy URL credentials are not valid UTF-8", fault.message]
  | longCredentials => ["SOCKS5 credentials must be at most 255 bytes each"]

/-- What a part of the sign-in stands for. -/
def decodePart (part : String) : Except Fault String :=
  match Utf8.decode (Percent.decode (Octets.ofText part)) with
  | .ok cs => .ok (String.ofList cs)
  | .error f => .error (.notUtf8 f)

/-- The host, unless it is empty. -/
def hostText (text : String) (url : Url) : Except Fault String :=
  match url.hostText? with
  | none => .error (.noHost text)
  | some host =>
    if host.isEmpty then .error (.noHost text)
    else .ok (String.ofList (unbracketed host.toList))

/-- What to sign in with; nothing without a user name. -/
def credentialsOf (url : Url) : Except Fault (Option Credentials) :=
  if url.username.isEmpty then .ok none
  else do
    let username ← decodePart url.username
    let password ← decodePart url.password
    return some { username, password }

/-- The forward proxy at a URL; `text` is what was read. -/
def ofUrl (text : String) (url : Url) : Except Fault ProxyUrl := do
  let scheme ← (ProxyScheme.ofName? url.scheme).elim (.error (.scheme url.scheme)) .ok
  let host ← hostText text url
  let port := url.portOrDefault?.getD scheme.defaultPort
  let credentials ← credentialsOf url
  if scheme == .socks5 && credentials.any (!·.fitsSocks5) then throw .longCredentials
  return { scheme, host, port, credentials }

/-- The forward proxy that a text names. -/
def parse (text : String) : Except Fault ProxyUrl :=
  match Url.parse text with
  | .error f => .error (.url text f)
  | .ok url => ofUrl text url

/-- The text of a forward proxy, without the password. -/
def text (u : ProxyUrl) : String :=
  let signIn := match u.credentials with
    | some c => s!"{c.username}:{Credentials.mask}@"
    | none => ""
  let host := if u.host.toList.contains ':' then s!"[{u.host}]" else u.host
  s!"{u.scheme.text}://{signIn}{host}:{u.port.toNat}"

end ProxyUrl

end Sluice

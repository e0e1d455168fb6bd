import Sluice.Http.Request
import Sluice.Sniff.Error
import Sluice.Stream.Session
import Sluice.Text.Blank
import Sluice.Text.Brackets
import Sluice.Url.Basic

/-
  The host that a request head asks for. It is the authority of the target if that names one, and
  the first `Host` field otherwise; a port behind it is dropped. The head is read until it is
  complete, and the number of its fields is bounded by its length alone.
-/

namespace Sluice.Http

/-- Why a request tells no host. -/
inductive HeadFault where
  | grammar (fault : Fault)
  | target (fault : Url.Fault)
  | hostNotUtf8
  | cutShort
  | tooLong
  deriving DecidableEq, Repr

/-- The longest head that is waited for. -/
def maxHead : Nat := 64 * 1024

/-- The wording of a fault. -/
def HeadFault.message : HeadFault → String
  | grammar f => f.message
  | target f => s!"bad request target: {f.message}"
  | hostNotUtf8 => "Host header is not valid UTF-8"
  | cutShort => "connection closed before the request head was complete"
  | tooLong => s!"request head exceeds {maxHead} bytes"

/-! ## The host of a request -/

/-- An authority without its port, an IPv6 address without its brackets. A bare IPv6 address, with
more than one colon, has no port. -/
def stripPort (authority : List Char) : List Char :=
  match authority with
  | '[' :: rest => rest.takeWhile (· ≠ ']')
  | _ =>
    match authority.span (· ≠ ':') with
    | (host, _ :: port) => if port.contains ':' then authority else host
    | (_, []) => authority

/-- A host, unless it is empty. -/
def named (host : List Char) : Option String :=
  if host.isEmpty then none else some (String.ofList host)

/-- Does a text hold this one? -/
def holds (word : List Char) : List Char → Bool
  | [] => word.isEmpty
  | c :: rest => word.isPrefixOf (c :: rest) || holds word rest

/-- A target that is a whole URL. One that starts with a slash is a path, whatever it holds. -/
def isAbsolute (target : List Char) : Bool :=
  target.head? != some '/' && holds "://".toList target

/-- The host of the URL that is the target. -/
def hostOfUrl (target : String) : Except HeadFault (Option String) :=
  match Url.parse target with
  | .error f => .error (.target f)
  | .ok url => .ok (url.hostText?.bind fun host => named (unbracketed host.toList))

/-- The host that the target names. -/
def hostOfTarget (r : Request) : Except HeadFault (Option String) :=
  if r.method == Octets.ofText "CONNECT" then .ok (named (stripPort r.target.toList))
  else if isAbsolute r.target.toList then hostOfUrl r.target
  else .ok none

/-- The host that the first `Host` field names. -/
def hostOfFields (fields : List Field) : Except HeadFault (Option String) :=
  match fields.find? fun f => Octets.sameLetters f.name (Octets.ofText "host") with
  | none => .ok none
  | some f =>
    match Utf8.decode f.value with
    | .error _ => .error .hostNotUtf8
    | .ok value => .ok (named (stripPort (trimBlanks value)))

/-- The host that a request asks for. -/
def hostOf (r : Request) : Except HeadFault (Option String) := do
  match ← hostOfTarget r with
  | some host => return some host
  | none => hostOfFields r.fields

/-! ## Heads -/

/-- What a request head says. -/
structure Head where
  length : Nat
  method : String
  host : Option String
  deriving DecidableEq, Repr

/-- The room for fields tried first. -/
def firstSlots : Nat := 64

/-- The length of the shortest field. -/
def minFieldLength : Nat := 4

/-- The head at the front of a text, `none` if it is not complete. Where the fields find too little
room, the room is doubled as long as the text may hold so many. -/
def parseWith (slots : Nat) (h : 0 < slots) (s : Octets) :
    Except Fault (Option (Request × Octets)) :=
  match (Request.scanner slots).run s with
  | .error .tooManyFields =>
    if slots ≤ s.length / minFieldLength then parseWith (slots * 2) (by omega) s
    else .error .tooManyFields
  | answer => answer
termination_by s.length + 1 - slots
decreasing_by simp only [minFieldLength] at *; omega

/-- The head at the front of a text, `none` if it is not complete. -/
def Head.parse (s : Octets) : Except HeadFault (Option Head) :=
  match parseWith firstSlots (by decide) s with
  | .error f => .error (.grammar f)
  | .ok none => .ok none
  | .ok (some (request, rest)) => do
    let host ← hostOf request
    let method := String.ofList (request.method.map fun b => Char.ofNat b.toNat)
    return some { length := s.length - rest.length, method, host }

/-! ## Reading -/

open Session

variable {σ : Type} [Readable σ]

/-- The most that is read at once. -/
def readRoom : Nat := 4096

/-- Ends a conversation because of what the client said. -/
def refuse {α : Type} (f : HeadFault) : Session σ SniffError α :=
  fail (.http f.message)

/-- Reads until the head is complete; `front` is what has been read. -/
def readHeadFrom (front : Array UInt8) : Session σ SniffError Head := do
  match ← read .ofRead readRoom with
  | [] => refuse .cutShort
  | b :: more =>
    let front' := front ++ (b :: more)
    match Head.parse front'.toList with
    | .error f => refuse f
    | .ok (some head) => return head
    | .ok none => if maxHead ≤ front'.size then refuse .tooLong else readHeadFrom front'
termination_by maxHead - front.size
decreasing_by
  have : (front ++ b :: more).size = front.size + (more.length + 1) := by
    rw [← Array.length_toList, Array.toList_appendList, List.length_append]
    rfl
  simp only [front'] at *
  omega

/-- Reads a request head. -/
def readHead : Session σ SniffError Head :=
  readHeadFrom #[]

end Sluice.Http

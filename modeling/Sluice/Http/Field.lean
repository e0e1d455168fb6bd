import Sluice.Octets.Scanner

/-
  What the heads of HTTP requests and responses share: the classes of octets, the version, line
  ends, and header fields. A line ends in LF or CRLF. A field is a name, a colon, blanks and a
  value; a line that starts with a blank does not continue the one before.
-/

namespace Sluice.Http

/-- What is wrong with a head. -/
inductive Fault where
  | token
  | version
  | newLine
  | fieldName
  | fieldValue
  | status
  | tooManyFields
  deriving DecidableEq, Repr

/-- The wording of a fault. -/
def Fault.message : Fault → String
  | token => "invalid token"
  | version => "invalid HTTP version"
  | newLine => "invalid new line"
  | fieldName => "invalid header name"
  | fieldValue => "invalid header value"
  | status => "invalid response status"
  | tooManyFields => "too many headers"

open Octets Scanner

/-! ## Classes -/

/-- Octets of methods and field names. -/
def isToken (b : UInt8) : Bool :=
  isDigit b || isLetter b || (ofText "!#$%&'*+-.^_`|~").contains b

/-- Octets of request targets. -/
def isTarget (b : UInt8) : Bool :=
  (33 ≤ b && b ≤ 126) || 128 ≤ b

/-- Octets of field values and reason phrases. -/
def isText (b : UInt8) : Bool :=
  b == tab || (32 ≤ b && b ≤ 126) || 128 ≤ b

def isSpace (b : UInt8) : Bool :=
  b == space || b == tab

/-! ## Lines -/

/-- The empty lines that may stand in front of a head. -/
def emptyLines : Scanner Fault Unit
  | [] => .short
  | lf :: rest => emptyLines rest
  | [cr] => .short
  | cr :: lf :: rest => emptyLines rest
  | cr :: _ :: _ => .bad .newLine
  | b :: rest => .complete () (b :: rest)

/-- The end of a line. A CR with anything but LF behind it is the fault `broken`. -/
def lineEnd (broken : Fault) : Scanner Fault Unit := do
  let b ← next
  if b = lf then pure ()
  else if b = cr then expect lf broken
  else bad broken

/-- Reads given octets one by one. -/
def word (fault : Fault) : Octets → Scanner Fault Unit
  | [] => pure ()
  | b :: rest => do
    expect b fault
    word fault rest

/-- The minor version. Eight octets are judged together. -/
def version : Scanner Fault Nat := do
  word .version (ofText "HTTP/1.")
  let minor ← next
  if minor = 48 then return 0
  else if minor = 49 then return 1
  else bad .version

/-! ## Fields -/

/-- A header field. -/
structure Field where
  name : Octets
  value : Octets
  deriving DecidableEq, Repr

/-- A value without the blanks at its end. -/
def trimEnd (value : Octets) : Octets :=
  (value.reverse.dropWhile isSpace).reverse

/-- The value behind the colon, to the end of the line. -/
def fieldValue : Scanner Fault Octets := do
  let _ ← takeWhile isSpace
  let value ← takeWhile isText
  lineEnd .fieldValue
  return trimEnd value

/-- A field whose name starts with `first`. -/
def fieldFrom (first : UInt8) : Scanner Fault Field := do
  if !isToken first then bad .fieldName
  else
    let more ← takeWhile isToken
    expect colon .fieldName
    let value ← fieldValue
    return { name := first :: more, value }

/-- The fields and the empty line behind them. There is room for so many fields; `before` are the
ones already read. -/
def fieldsFrom (before : Array Field) : (slots : Nat) → Scanner Fault (List Field)
  | 0 => do
    let b ← next
    if b = lf then return before.toList
    else if b = cr then
      expect lf .newLine
      return before.toList
    else
      let _ ← fieldFrom b
      bad .tooManyFields
  | slots + 1 => do
    let b ← next
    if b = lf then return before.toList
    else if b = cr then
      expect lf .newLine
      return before.toList
    else
      let field ← fieldFrom b
      fieldsFrom (before.push field) slots

/-- At most `slots` fields and the empty line behind them. -/
def fieldList (slots : Nat) : Scanner Fault (List Field) :=
  fieldsFrom #[] slots

end Sluice.Http

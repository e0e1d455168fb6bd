import Sluice.Text.Digits
import Sluice.Toml.Value

/-
  Strings, numbers, dates and times of TOML 1.0.
-/

namespace Sluice.Toml

/-- A reader of text. -/
abbrev Parse := StateT (List Char) Option

namespace Parse

/-- The next character has to be this one. -/
def char (c : Char) : Parse Unit := fun s =>
  match s with
  | d :: rest => if d = c then some ((), rest) else none
  | [] => none

/-- The next characters have to be these. -/
def word (w : String) : Parse Unit := fun s =>
  if w.toList.isPrefixOf s then some ((), s.drop w.length) else none

/-- The next character, if it passes the test. -/
def one (p : Char → Bool) : Parse Char := fun s =>
  match s with
  | c :: rest => if p c then some (c, rest) else none
  | [] => none

/-- The characters up to the first that fails the test. -/
def span (p : Char → Bool) : Parse (List Char) := fun s =>
  some (s.span p)

end Parse

open Parse

/-! ## Characters -/

/-- May the character stand in a comment? -/
def isCommentChar (c : Char) : Bool :=
  c == '\t' || (32 ≤ c.toNat && c.toNat ≠ 127)

def isWhite (c : Char) : Bool :=
  c == ' ' || c == '\t'

/-- May the character stand in a string between these quotes? -/
def isStringChar (mark c : Char) : Bool :=
  isCommentChar c && c ≠ mark && !(mark == '"' && c == '\\')

/-- The end of a line. -/
def newline : Parse Unit :=
  char '\n' <|> word "\r\n"

/-! ## Strings -/

/-- The character that so many hexadecimal digits number. -/
def numbered (width : Nat) : Parse Char := fun s =>
  let digits := s.take width
  let n := Digits.toNat 16 digits
  if digits.length = width && digits.all (fun c => (Digits.value? 16 c).isSome) &&
      n.isValidChar then some (Char.ofNat n, s.drop width)
  else none

/-- The character behind a backslash. -/
def escaped : Parse Char := do
  match ← one fun _ => true with
  | 'b' => return '\x08'
  | 't' => return '\t'
  | 'n' => return '\n'
  | 'f' => return '\x0c'
  | 'r' => return '\r'
  | '"' => return '"'
  | '\\' => return '\\'
  | 'u' => numbered 4
  | 'U' => numbered 8
  | _ => failure

/-- What a backslash at the end of a line swallows. -/
def joinedLines : Parse Unit := do
  let _ ← span isWhite
  newline
  let _ ← span fun c => isWhite c || c == '\n' || c == '\r'

/-- The rest of a string on one line; `before` is what was read, last first. -/
def lineFrom (mark : Char) : (fuel : Nat) → (before : List Char) → Parse String
  | 0, _ => failure
  | fuel + 1, before => do
    let c ← one fun _ => true
    if c = mark then return String.ofList before.reverse
    else if c = '\\' && mark = '"' then lineFrom mark fuel ((← escaped) :: before)
    else if isStringChar mark c then lineFrom mark fuel (c :: before)
    else failure

/-- A string on one line. -/
def lineString (mark : Char) : Parse String := do
  char mark
  lineFrom mark ((← get).length + 1) []

/-- The rest of a string over several lines. Fewer than three marks in a row stand for themselves;
of three to five the last three end the string. -/
def linesFrom (mark : Char) : (fuel : Nat) → (before : List Char) → Parse String
  | 0, _ => failure
  | fuel + 1, before => do
    let marks ← span (· == mark)
    if 3 ≤ marks.length then
      let kept := min marks.length 5 - 3
      modify (marks.drop (kept + 3) ++ ·)
      return String.ofList (List.replicate kept mark ++ before).reverse
    else
      let before := marks ++ before
      match ← optional newline with
      | some () => linesFrom mark fuel ('\n' :: before)
      | none =>
        let c ← one fun _ => true
        if c = '\\' && mark = '"' then
          match ← optional joinedLines with
          | some () => linesFrom mark fuel before
          | none => linesFrom mark fuel ((← escaped) :: before)
        else if isStringChar mark c then linesFrom mark fuel (c :: before)
        else failure

/-- A string over several lines; a line end right behind the opening marks is dropped. -/
def linesString (mark : Char) : Parse String := do
  word (String.ofList [mark, mark, mark])
  let _ ← optional newline
  linesFrom mark ((← get).length + 1) []

/-- A string. -/
def stringValue (mark : Char) : Parse String := fun s =>
  if [mark, mark, mark].isPrefixOf s then linesString mark s else lineString mark s

/-! ## Numbers -/

def isDigitOf (base : Nat) (c : Char) : Bool :=
  (Digits.value? base c).isSome

/-- Digits, the first of them given; an underscore may stand between two. -/
def digitsBehind (base : Nat) : (before : List Char) → List Char → List Char × List Char
  | before, '_' :: c :: rest =>
    if isDigitOf base c then digitsBehind base (c :: before) rest
    else (before.reverse, '_' :: c :: rest)
  | before, c :: rest =>
    if isDigitOf base c then digitsBehind base (c :: before) rest else (before.reverse, c :: rest)
  | before, [] => (before.reverse, [])

/-- Digits, with underscores between them. -/
def digits (base : Nat) : Parse (List Char) := do
  let first ← one (isDigitOf base)
  modifyGet (digitsBehind base [first])

/-- Decimal digits without a leading zero. -/
def wholeDigits : Parse (List Char) := do
  match ← one (isDigitOf 10) with
  | '0' => return ['0']
  | first => modifyGet (digitsBehind 10 [first])

/-- A sign; is it a minus? -/
def sign : Parse (Option Bool) := fun s =>
  match s with
  | '+' :: rest => some (some false, rest)
  | '-' :: rest => some (some true, rest)
  | _ => some (none, s)

/-- An integer that fits 64 bits. -/
def signed (n : Int) : Parse Value :=
  if -9223372036854775808 ≤ n ∧ n ≤ 9223372036854775807 then return .integer n else failure

/-- An integer in another base. -/
def basedInteger : Parse Value := do
  char '0'
  let base ← match ← one fun _ => true with
    | 'x' => pure 16
    | 'o' => pure 8
    | 'b' => pure 2
    | _ => failure
  let ds ← digits base
  signed (Digits.toNat base ds)

/-- The least number that is rounded to infinity: halfway above the largest double. -/
def floatBound : Nat := (1 <<< 54 - 1) <<< 970

/-- Is `mantissa * 10 ^ exponent` rounded to infinity? -/
def overflows (mantissa : Nat) (exponent : Int) : Bool :=
  let size := (Nat.toDigits 10 mantissa).length + exponent
  if mantissa = 0 || size ≤ 308 then false
  else if 310 ≤ size then true
  else if 0 ≤ exponent then floatBound ≤ mantissa * Nat.pow 10 exponent.toNat
  else floatBound * Nat.pow 10 (-exponent).toNat ≤ mantissa

/-- The exponent of a float. -/
def exponentPart : Parse Int := do
  let _ ← one fun c => c == 'e' || c == 'E'
  let negative ← sign
  let n : Int := Digits.toNat 10 (← digits 10)
  return if negative == some true then -n else n

/-- The decimal places of a float. -/
def placesPart : Parse (List Char) := do
  char '.'
  digits 10

/-- A decimal number: an integer, or a float if it has places or an exponent. A float may not be
rounded to positive infinity. -/
def decimal : Parse Value := do
  let negative := (← sign) == some true
  let whole ← wholeDigits
  let places ← optional placesPart
  let exponent ← optional exponentPart
  if places.isNone && exponent.isNone then
    let n : Int := Digits.toNat 10 whole
    signed (if negative then -n else n)
  else
    let behind := places.getD []
    if !negative && overflows (Digits.toNat 10 (whole ++ behind))
        (exponent.getD 0 - behind.length) then failure
    else return .float

/-- Infinity, or no number at all. -/
def specialFloat : Parse Value := do
  let _ ← sign
  word "inf" <|> word "nan"
  return .float

/-- A number. -/
def number : Parse Value :=
  specialFloat <|> basedInteger <|> decimal

/-! ## Dates and times -/

/-- A number of exactly so many digits in a range. -/
def fixed (width low high : Nat) : Parse Nat := fun s =>
  let ds := s.take width
  let n := Digits.toNat 10 ds
  if ds.length = width && ds.all (isDigitOf 10) && low ≤ n && n ≤ high then
    some (n, s.drop width)
  else none

/-- The number of days of a month. -/
def daysOf (year month : Nat) : Nat :=
  if month = 2 then if (year % 4 = 0 ∧ year % 100 ≠ 0) ∨ year % 400 = 0 then 29 else 28
  else if month = 4 ∨ month = 6 ∨ month = 9 ∨ month = 11 then 30
  else 31

/-- A date. -/
def date : Parse Unit := do
  let year ← fixed 4 0 9999
  char '-'
  let month ← fixed 2 1 12
  char '-'
  let _ ← fixed 2 1 (daysOf year month)

/-- A time of day; a minute may have a leap second. -/
def time : Parse Unit := do
  let _ ← fixed 2 0 23
  char ':'
  let _ ← fixed 2 0 59
  char ':'
  let _ ← fixed 2 0 60
  let _ ← optional do
    char '.'
    let _ ← one (isDigitOf 10)
    span (isDigitOf 10)

/-- The difference from universal time. -/
def offset : Parse Unit :=
  (do let _ ← one fun c => c == 'Z' || c == 'z') <|> do
    let _ ← one fun c => c == '+' || c == '-'
    let _ ← fixed 2 0 23
    char ':'
    let _ ← fixed 2 0 59

/-- A date, a time, or both. -/
def dateTime : Parse Value := do
  let dated ← optional date
  match dated with
  | some () =>
    let _ ← optional do
      let _ ← one fun c => c == 'T' || c == 't' || c == ' '
      time
      let _ ← optional offset
  | none => time
  return .dateTime

end Sluice.Toml

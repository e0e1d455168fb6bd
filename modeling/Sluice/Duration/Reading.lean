import Sluice.Duration.Unit
import Sluice.Text.Blank
import Sluice.Text.Quoted

/-
  Reading a duration from a configuration text: numbers with units, added up. A number may have
  decimal places as long as its value is a whole number of what its unit is measured in. The text is
  read character by character; `Phase` is where the reader stands.
-/

namespace Sluice.Duration

/-- Why a text is no duration. Offsets count octets. -/
inductive TextFault where
  | empty
  | numberExpected (offset : Nat)
  | character (offset : Nat)
  | noUnit (number : Nat)
  | unknownUnit (name : String)
  | range
  deriving DecidableEq, Repr

/-- The wording of a fault. -/
def TextFault.message : TextFault → String
  | empty => "value was empty"
  | numberExpected offset => s!"expected number at {offset}"
  | character offset => s!"invalid character at {offset}"
  | noUnit n => s!"time unit needed, for example {n}sec or {n}ms"
  | unknownUnit name =>
    s!"unknown time unit {Quoted.quote name}, supported units: ns, us/µs, ms, sec, min, hours, " ++
      "days, weeks, months, years (and few variations)"
  | range =>
    "number is too large or cannot be represented without a lack of precision " ++
      "(values below 1ns are not supported)"

/-- The decimal places of a number, as a fraction. -/
structure Fraction where
  numerator : Nat := 0
  denominator : Nat := 1
  deriving DecidableEq, Repr

/-- Where the reader stands. -/
inductive Phase where
  /-- Before the first number. -/
  | start
  /-- Behind a unit. -/
  | between
  | whole (n : Nat)
  /-- Behind the decimal point; `edge` is where the last octet read starts or ends. -/
  | places (n : Nat) (fraction : Fraction) (edge : Nat)
  /-- In the name of a unit, given backwards. -/
  | unit (n : Nat) (fraction : Option Fraction) (name : List Char)
  deriving DecidableEq, Repr

/-- The sum so far, and where the reader stands. -/
structure Reader where
  total : Duration := Duration.zero
  phase : Phase := .start
  deriving DecidableEq, Repr

/-- A number that has to fit 64 bits. -/
def checked (n : Nat) : Except TextFault Nat :=
  if n < UInt64.size then .ok n else .error .range

/-- A quotient that has to be whole, of a product that has to fit 64 bits. -/
def wholeQuotient (f : Fraction) (count : Nat) : Except TextFault Nat := do
  let product ← checked (f.numerator * count)
  if product % f.denominator = 0 then return product / f.denominator else throw .range

/-- Adds seconds and nanoseconds. -/
def plus (d : Duration) (seconds nanos : Nat) : Except TextFault Duration := do
  let nanos ← checked (d.nanos + nanos)
  (ofNanos? ((d.seconds + seconds) * nanosPerSecond + nanos)).elim (.error .range) .ok

/-- Adds so many of what a unit is measured in. -/
def plusMeasured (d : Duration) (count : Nat → Except TextFault Nat) :
    TimeUnit.Measure → Except TextFault Duration
  | .nanos m => do plus d 0 (← count m)
  | .seconds m => do plus d (← count m) 0

/-- Adds a number of units. -/
def plusUnits (d : Duration) (n : Nat) (fraction : Option Fraction) (unit : TimeUnit) :
    Except TextFault Duration := do
  let d ← plusMeasured d (fun m => checked (n * m)) unit.measure
  match fraction with
  | none => return d
  | some f =>
    match unit.fractionMeasure? with
    | none => throw .range
    | some measure => plusMeasured d (wholeQuotient f) measure

/-- Adds a number of the units that a text names. -/
def plusNamed (d : Duration) (n : Nat) (fraction : Option Fraction) (name : String) :
    Except TextFault Duration :=
  match TimeUnit.ofName? name with
  | some unit => plusUnits d n fraction unit
  | none => .error (if name.isEmpty then .noUnit n else .unknownUnit name)

/-- The value of a digit. -/
def digit? (c : Char) : Option Nat :=
  Digits.value? 10 c

/-- Characters of unit names. -/
def isUnitChar (c : Char) : Bool :=
  c.isAlpha || c == 'µ'

/-- The fraction with one more place. -/
def Fraction.push (f : Fraction) (d : Nat) : Except TextFault Fraction := do
  let denominator ← checked (f.denominator * 10)
  let numerator ← checked (f.numerator * 10 + d)
  return { numerator, denominator }

/-- The reader behind a character that stands at an offset. -/
def Reader.step (r : Reader) (offset : Nat) (c : Char) : Except TextFault Reader :=
  match r.phase with
  | .start | .between =>
    match digit? c with
    | some d => .ok { r with phase := .whole d }
    | none => if isBlank c then .ok r else .error (.numberExpected offset)
  | .whole n =>
    match digit? c with
    | some d => do return { r with phase := .whole (← checked (n * 10 + d)) }
    | none =>
      if isBlank c then .ok r
      else if isUnitChar c then .ok { r with phase := .unit n none [c] }
      else if c = '.' then .ok { r with phase := .places n {} offset }
      else .error (.character offset)
  | .places n f edge =>
    match digit? c with
    | some d => do return { r with phase := .places n (← f.push d) (offset + c.utf8Size) }
    | none =>
      if isBlank c then .ok { r with phase := .places n f (offset + c.utf8Size) }
      else if isUnitChar c && f.denominator ≠ 1 then .ok { r with phase := .unit n (some f) [c] }
      else .error (.character edge)
  | .unit n f name =>
    match digit? c with
    | some d => do
      let total ← plusNamed r.total n f (String.ofList name.reverse)
      return { total, phase := .whole d }
    | none =>
      if isBlank c then do
        return { total := ← plusNamed r.total n f (String.ofList name.reverse), phase := .between }
      else if isUnitChar c then .ok { r with phase := .unit n f (c :: name) }
      else .error (.character offset)

/-- The reader behind a text that starts at an offset. -/
def Reader.run (r : Reader) (offset : Nat) : List Char → Except TextFault Reader
  | [] => .ok r
  | c :: rest => do
    let r ← r.step offset c
    r.run (offset + c.utf8Size) rest

/-- The sum at the end of the text. -/
def Reader.finish (r : Reader) : Except TextFault Duration :=
  match r.phase with
  | .start => .error .empty
  | .between => .ok r.total
  | .whole n => plusNamed r.total n none ""
  | .places n f edge =>
    if f.denominator = 1 then .error (.character edge) else plusNamed r.total n (some f) ""
  | .unit n f name => plusNamed r.total n f (String.ofList name.reverse)

/-- The duration that a text writes. Zero alone needs no unit. -/
def parse (text : String) : Except TextFault Duration :=
  if text == "0" then .ok Duration.zero
  else do (← Reader.run {} 0 text.toList).finish

end Sluice.Duration

/-
  A number for every character, written as runs of neighbours that share it. The text of such a map
  lists its runs from U+0000 on, each as its length and, behind a colon, the number if that is not
  zero; both are hexadecimal.
-/

namespace Sluice.Unicode

/-- The number that hexadecimal digits write. -/
def hexNat (digits : List Char) : Nat :=
  digits.foldl
    (fun n c => n * 16 + if c.isDigit then c.toNat - 48 else c.toNat - 87) 0

/-- The pieces of a text between separators. -/
def splitAt (separator : Char) (text : List Char) : List (List Char) :=
  text.splitOn separator

/-- Where each run starts, with its number. -/
structure RunMap where
  runs : Array (Nat × Nat)
  deriving Repr

namespace RunMap

/-- One run: its length and its number. -/
def runOfText (text : List Char) : Nat × Nat :=
  match splitAt ':' text with
  | [length, value] => (hexNat length, hexNat value)
  | _ => (hexNat text, 0)

/-- The map that a text writes. -/
def ofText (text : String) : RunMap :=
  let step := fun ((runs, start) : Array (Nat × Nat) × Nat) word =>
    let (length, value) := runOfText word
    (runs.push (start, value), start + length)
  ⟨((splitAt ' ' text.toList).foldl step (#[], 0)).1⟩

/-- The number of the last run in `[low, high)` that starts at `n` or before it. -/
def find (runs : Array (Nat × Nat)) (n low high : Nat) : Nat :=
  if high ≤ low + 1 then (runs[low]?.map (·.2)).getD 0
  else
    let middle := (low + high) / 2
    match runs[middle]? with
    | none => 0
    | some (start, _) => if n < start then find runs n low middle else find runs n middle high
termination_by high - low

/-- The number of a character. -/
def get (m : RunMap) (c : Char) : Nat :=
  find m.runs c.toNat 0 m.runs.size

/-- Is the number of a character other than zero? -/
def contains (m : RunMap) (c : Char) : Bool :=
  m.get c != 0

end RunMap

end Sluice.Unicode

/-
  What a TOML document holds. Tables remember how they came about, because that decides what may
  still be added to them. Of floats and dates it is only known that they are there.
-/

namespace Sluice.Toml

/-- How a table came about. -/
inductive Origin where
  /-- Written in braces; nothing is added to it. -/
  | inline
  /-- Opened by a header of its own. -/
  | header
  /-- On the way to a table that a header opened. -/
  | implied
  /-- On the way to a value under a dotted key. -/
  | dotted
  deriving DecidableEq, Repr

/-- A value. -/
inductive Value where
  | string (text : String)
  | integer (n : Int)
  | float
  | boolean (b : Bool)
  | dateTime
  | array (items : List Value)
  | table (origin : Origin) (entries : List (String × Value))
  /-- Tables opened by headers in double brackets. -/
  | tables (elements : List (List (String × Value)))

/-- What a table holds, in order. -/
abbrev Entries := List (String × Value)

namespace Entries

/-- The value under a key. -/
def get? (key : String) (entries : Entries) : Option Value :=
  (entries.find? fun (k, _) => k == key).map (·.2)

/-- The entries with another value under a key that is there. -/
def replace (key : String) (v : Value) (entries : Entries) : Entries :=
  entries.map fun (k, old) => if k == key then (k, v) else (k, old)

/-- Changes the table at the end of a path. A table that is missing on the way is made, of the
origin `fresh`; behind an array of tables the path goes on in its last one. Along a dotted key the
path may not pass a table that a header opened, and never one in braces. -/
def change (fresh : Origin) (f : Origin → Entries → Option Entries) :
    (path : List String) → Origin → Entries → Option Entries
  | [], origin, entries => f origin entries
  | key :: path, _, entries =>
    match entries.get? key with
    | none => do
      let inner ← change fresh f path fresh []
      return entries ++ [(key, .table fresh inner)]
    | some (.table origin inner) =>
      if origin == .inline || (fresh == .dotted && origin == .header) then none
      else do
        let inner ← change fresh f path origin inner
        return entries.replace key (.table origin inner)
    | some (.tables elements) =>
      match elements.getLast? with
      | none => none
      | some last => do
        let last ← change fresh f path .header last
        return entries.replace key (.tables (elements.dropLast ++ [last]))
    | some _ => none

/-- Adds a value under a key that is not there yet. -/
def add (key : String) (v : Value) (entries : Entries) : Option Entries :=
  match entries.get? key with
  | none => some (entries ++ [(key, v)])
  | some _ => none

/-- Adds a value under a dotted key. A dotted key has to end in a table of its own kind. -/
def addDotted (path : List String) (key : String) (v : Value) (origin : Origin)
    (entries : Entries) : Option Entries :=
  change .dotted
    (fun origin entries =>
      if !path.isEmpty && origin != .dotted then none else entries.add key v)
    path origin entries

/-- Opens a table. One that so far was only on the way is opened late. -/
def openTable (key : String) (entries : Entries) : Option Entries :=
  match entries.get? key with
  | none => some (entries ++ [(key, .table .header [])])
  | some (.table .implied inner) => some (entries.replace key (.table .header inner))
  | some _ => none

/-- Opens one more table of an array. -/
def openElement (key : String) (entries : Entries) : Option Entries :=
  match entries.get? key with
  | none => some (entries ++ [(key, .tables [[]])])
  | some (.tables elements) => some (entries.replace key (.tables (elements ++ [[]])))
  | some _ => none

end Entries

end Sluice.Toml

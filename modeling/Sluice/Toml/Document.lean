import Sluice.Toml.Scalar

/-
  TOML 1.0 documents: values, keys, and the lines that put values into tables.
-/

namespace Sluice.Toml

open Parse

/-! ## Keys -/

def isBareChar (c : Char) : Bool :=
  c.isAlphanum || c == '_' || c == '-'

/-- A key without dots. -/
def simpleKey : Parse String := fun s =>
  match s with
  | '"' :: _ => lineString '"' s
  | '\'' :: _ => lineString '\'' s
  | _ =>
    let (bare, rest) := s.span isBareChar
    if bare.isEmpty then none else some (String.ofList bare, rest)

/-- Blanks within a line. -/
def white : Parse Unit := do
  let _ ← span isWhite

/-- The deepest that values may be nested and keys be dotted, and one more. -/
def depthLimit : Nat := 80

/-- The parts of a dotted key; room for so many. -/
def keyParts : (room : Nat) → Parse (List String)
  | 0 => failure
  | room + 1 => do
    white
    let part ← simpleKey
    white
    match ← optional (char '.') with
    | some () => return part :: (← keyParts room)
    | none => return [part]

/-- A key: the tables on the way, and the last part. -/
def key : Parse (List String × String) := do
  let parts ← keyParts (depthLimit - 1)
  match parts.getLast? with
  | some last => return (parts.dropLast, last)
  | none => failure

/-! ## Values -/

/-- A text behind blanks, line ends and comments. -/
def behindGaps (inComment : Bool) : List Char → List Char
  | [] => []
  | '\r' :: '\n' :: rest => behindGaps false rest
  | '\n' :: rest => behindGaps false rest
  | c :: rest =>
    if inComment then if isCommentChar c then behindGaps true rest else c :: rest
    else if isWhite c then behindGaps false rest
    else if c = '#' then behindGaps true rest
    else c :: rest

/-- Blanks, line ends and comments, as they may stand in an array. -/
def gaps : Parse Unit :=
  modify (behindGaps false)

/-- The front of a text, `none` at its end. -/
def front : Parse (Option Char) := fun s =>
  some (s.head?, s)

mutual

/-- A value, nested at most `depth` deep. -/
def value (fuel depth : Nat) : Parse Value :=
  match fuel, depth with
  | 0, _ => failure
  | fuel + 1, depth => do
    match ← front with
    | some '"' => return .string (← stringValue '"')
    | some '\'' => return .string (← stringValue '\'')
    | some '[' =>
      if depth = 0 then failure
      else
        char '['
        return .array (← elements fuel (depth - 1) #[])
    | some '{' =>
      if depth = 0 then failure
      else
        char '{'
        white
        match ← optional (char '}') with
        | some () => return .table .inline []
        | none => return .table .inline (← members fuel (depth - 1) [])
    | some 't' =>
      word "true"
      return .boolean true
    | some 'f' =>
      word "false"
      return .boolean false
    | _ => dateTime <|> number
termination_by fuel

/-- The elements of an array and the bracket behind them. -/
def elements (fuel depth : Nat) (before : Array Value) : Parse (List Value) :=
  match fuel with
  | 0 => failure
  | fuel + 1 => do
    gaps
    match ← optional (char ']') with
    | some () => return before.toList
    | none =>
      let v ← value fuel depth
      gaps
      match ← optional (char ',') with
      | some () => elements fuel depth (before.push v)
      | none =>
        char ']'
        return (before.push v).toList
termination_by fuel

/-- The entries of a table in braces and the brace behind them. -/
def members (fuel depth : Nat) (before : Entries) : Parse Entries :=
  match fuel with
  | 0 => failure
  | fuel + 1 => do
    let (path, last) ← key
    char '='
    white
    let v ← value fuel depth
    white
    match before.addDotted path last v .inline with
    | none => failure
    | some entries =>
      match ← optional (char ',') with
      | some () => members fuel depth entries
      | none =>
        char '}'
        return entries
termination_by fuel

end

/-! ## Lines -/

/-- Blanks, a comment if one likes, and the end of the line or of the document. -/
def lineEnd : Parse Unit := do
  white
  match ← front with
  | none => return ()
  | some '#' =>
    let _ ← span isCommentChar
    match ← front with
    | none => return ()
    | some _ => newline
  | some _ => newline

/-- A document that is being read: all tables, and the path to the one that lines add to. -/
structure State where
  root : Entries := []
  path : List String := []

/-- Changes the table that lines add to. -/
def State.changeOpen (s : State) (f : Origin → Entries → Option Entries) : Option State := do
  return { s with root := ← Entries.change .implied f s.path .header s.root }

/-- A key and its value. -/
def State.assignment (s : State) (fuel : Nat) : Parse State := do
  let (path, last) ← key
  char '='
  white
  let v ← value fuel (depthLimit - 1)
  lineEnd
  StateT.lift (s.changeOpen (Entries.addDotted path last v))

/-- A header in brackets. -/
def State.header (s : State) : Parse State := do
  char '['
  let isElement := (← optional (char '[')).isSome
  let (path, last) ← key
  word (if isElement then "]]" else "]")
  lineEnd
  let openLast := fun _ entries =>
    if isElement then Entries.openElement last entries else Entries.openTable last entries
  let root ← StateT.lift (Entries.change .implied openLast path .header s.root)
  return { root, path := path ++ [last] }

/-- The lines of a document. Fuel for two steps per character is enough. -/
def State.lines (s : State) : (fuel : Nat) → Parse State
  | 0 => failure
  | fuel + 1 => do
    white
    match ← front with
    | none => return s
    | some '[' => (← s.header).lines fuel
    | some '#' | some '\n' | some '\r' =>
      lineEnd
      s.lines fuel
    | some _ => (← s.assignment fuel).lines fuel

/-- The mark that may stand in front of a text. -/
def byteOrderMark : Char := Char.ofNat 0xFEFF

/-- What a document holds, `none` if it is malformed. -/
def parse (text : List Char) : Option Entries :=
  let text := if text.head? == some byteOrderMark then text.drop 1 else text
  match (State.lines {} (2 * text.length + 3)).run text with
  | some (s, []) => some s.root
  | _ => none

end Sluice.Toml

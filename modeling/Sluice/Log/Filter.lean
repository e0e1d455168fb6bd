import Sluice.Log.Basic
import Sluice.Text.Lower

/-
  Which lines of the log are written. A filter is a list of directives, such as `warn` and
  `transocks::relay=debug`; of those that match the source of a line, the longest one decides.
-/

namespace Sluice

/-- Lets through the lines of some sources up to a level. -/
structure LogDirective where
  /-- What the path of a source begins with. -/
  target : String := ""
  /-- The rank of the last level that is let through; zero for none. -/
  rank : Nat
  deriving DecidableEq, Repr

/-- The directives of a log. -/
abbrev LogFilter := List LogDirective

namespace LogFilter

/-- The rank of a level in a directive: its name in any case, or its number. -/
def rank? (text : String) : Option Nat :=
  match lowerText text with
  | "off" | "0" => some 0
  | "error" | "1" => some 1
  | "warn" | "2" => some 2
  | "info" | "3" => some 3
  | "debug" | "4" => some 4
  | "trace" | "5" => some 5
  | _ => none

/-- May this character be in the path of a source? -/
def isPathChar (c : Char) : Bool :=
  c.isAlphanum || c == '_' || c == ':' || c == '-'

/-- The path that stands first, and what follows it. -/
def path (s : List Char) : List Char × List Char :=
  (s.takeWhile isPathChar, s.dropWhile isPathChar)

/-- What is in the brackets that stand first, if brackets do, and what follows them. -/
def brackets? : List Char → Option (List Char × List Char)
  | '[' :: rest =>
    match rest.dropWhile (· != ']') with
    | ']' :: after => some (rest.takeWhile (· != ']'), after)
    | _ => none
  | _ => none

/-- The rank at the end of a directive: everything unless a level is given. -/
def ending? : List Char → Option Nat
  | [] => some 5
  | ['='] => some 5
  | '=' :: level => rank? (String.ofList level)
  | _ => none

/-- The directive that a text writes. One that is about spans, in brackets, lets no line through
that is outside of them. -/
def directive? (text : String) : Option (Option LogDirective) :=
  match rank? text with
  | some rank => some (some { rank })
  | none =>
    match path text.toList with
    | ([], s) => do
      let (_, s) ← brackets? s
      let _ ← ending? (path s).2
      return none
    | (target, s) =>
      match brackets? s with
      | some (_, s) => (ending? s).map fun _ => none
      | none => (ending? s).map fun rank => some { target := String.ofList target, rank }

/-- The filter that lets through errors only. -/
def errorsOnly : LogFilter :=
  [{ rank := 1 }]

/-- The filter that a text writes, its directives separated by commas; nothing at all lets through
errors only. -/
def parse? (text : String) : Option LogFilter :=
  if text.isEmpty then some errorsOnly
  else
    let directives := (text.splitOn ",").filter fun s => !s.isEmpty
    if directives.isEmpty then some errorsOnly
    else (directives.mapM directive?).map fun ds => ds.filterMap id

/-- The directive that decides about a source: the longest of those that match, and of equal ones
the last. -/
def decisive? (path : String) (filter : LogFilter) : Option LogDirective :=
  (filter.filter fun d => d.target.toList.isPrefixOf path.toList).foldl (fun best d =>
    match best with
    | some b => if b.target.length ≤ d.target.length then some d else best
    | none => some d) none

/-- Is a line of this source and level written? -/
def enables (filter : LogFilter) (source : LogSource) (level : LogLevel) : Bool :=
  (filter.decisive? source.path).any fun d => level.rank ≤ d.rank

end LogFilter

end Sluice

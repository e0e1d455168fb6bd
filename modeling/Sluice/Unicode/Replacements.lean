import Sluice.Unicode.RunMap

/-
  Characters with a text that replaces them. The written form lists them in order. Each entry is the
  distance from the character before, a colon, and the replacement, its characters joined by full
  stops. `d*n:r` stands for `n` neighbours that are replaced by `r` and its neighbours, `d/n:r` for
  every second one of them. All numbers are hexadecimal.
-/

namespace Sluice.Unicode

/-- Replaced characters in ascending order, each with its replacement. -/
structure Replacements where
  entries : Array (Nat × List Char)
  deriving Repr

namespace Replacements

/-- Every `stride`-th character from `start` on, `count` of them, is moved to where `target` is. -/
def shifted (stride start target : Nat) (count : Nat) : List (Nat × List Char) :=
  (List.range count).map fun i => (start + stride * i, [Char.ofNat (target + stride * i)])

/-- The entries that one word stands for, `last` being the character before. -/
def wordEntries (last : Nat) (word : List Char) : List (Nat × List Char) :=
  match splitAt ':' word with
  | [source, target] =>
    match splitAt '*' source, splitAt '/' source with
    | [distance, count], _ => shifted 1 (last + hexNat distance) (hexNat target) (hexNat count)
    | _, [distance, count] => shifted 2 (last + hexNat distance) (hexNat target) (hexNat count)
    | _, _ =>
      [(last + hexNat source, (splitAt '.' target).map fun digits => Char.ofNat (hexNat digits))]
  | _ => []

/-- The replacements that a text writes. -/
def ofText (text : String) : Replacements :=
  let step := fun ((entries, last) : Array (Nat × List Char) × Nat) word =>
    let new := wordEntries last word
    (entries ++ new, (new.getLast?.map (·.1)).getD last)
  ⟨((splitAt ' ' text.toList).foldl step (#[], 0)).1⟩

/-- The entry for `n` in `[low, high)`. -/
def find? (entries : Array (Nat × List Char)) (n low high : Nat) : Option (List Char) :=
  if high ≤ low then none
  else
    let middle := (low + high) / 2
    match entries[middle]? with
    | none => none
    | some (source, target) =>
      if n < source then find? entries n low middle
      else if n = source then some target
      else find? entries n (middle + 1) high
termination_by high - low
decreasing_by all_goals omega

/-- What replaces a character, if anything does. -/
def get? (r : Replacements) (c : Char) : Option (List Char) :=
  find? r.entries c.toNat 0 r.entries.size

end Replacements

end Sluice.Unicode

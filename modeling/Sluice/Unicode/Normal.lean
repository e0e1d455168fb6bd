import Sluice.Unicode.Mark
import Sluice.Unicode.Decomposition

/-
  Canonical composition (normalization form C): take every character apart, put combining marks in
  order, put together what composes. Text within ASCII is left as it is.
-/

namespace Sluice.Unicode

/-! ## Hangul syllables -/

namespace Hangul

def syllableBase : Nat := 0xAC00
def leadBase : Nat := 0x1100
def vowelBase : Nat := 0x1161
def tailBase : Nat := 0x11A7
def leadCount : Nat := 19
def vowelCount : Nat := 21
def tailCount : Nat := 28
def syllableCount : Nat := leadCount * vowelCount * tailCount

/-- A syllable's letters. -/
def decompose? (c : Char) : Option (List Char) :=
  if syllableBase ≤ c.toNat ∧ c.toNat < syllableBase + syllableCount then
    let index := c.toNat - syllableBase
    let lead := Char.ofNat (leadBase + index / (vowelCount * tailCount))
    let vowel := Char.ofNat (vowelBase + index % (vowelCount * tailCount) / tailCount)
    let tail := index % tailCount
    some (if tail = 0 then [lead, vowel] else [lead, vowel, Char.ofNat (tailBase + tail)])
  else none

/-- The syllable of two letters, or of a syllable without a tail and its tail. -/
def compose? (a b : Char) : Option Char :=
  if leadBase ≤ a.toNat ∧ a.toNat < leadBase + leadCount ∧
      vowelBase ≤ b.toNat ∧ b.toNat < vowelBase + vowelCount then
    some (Char.ofNat (syllableBase +
      ((a.toNat - leadBase) * vowelCount + (b.toNat - vowelBase)) * tailCount))
  else if syllableBase ≤ a.toNat ∧ a.toNat < syllableBase + syllableCount ∧
      (a.toNat - syllableBase) % tailCount = 0 ∧
      tailBase < b.toNat ∧ b.toNat < tailBase + tailCount then
    some (Char.ofNat (a.toNat + (b.toNat - tailBase)))
  else none

end Hangul

/-- The canonical decomposition of a character. -/
def decompose (c : Char) : List Char :=
  match Hangul.decompose? c with
  | some letters => letters
  | none => (decompositions.get? c).getD [c]

/-- The character that two compose to. -/
def compose? (a b : Char) : Option Char :=
  match Hangul.compose? a b with
  | some c => some c
  | none => (compositions.lookup (a.toNat, b.toNat)).map Char.ofNat

/-- Puts a mark where it belongs among marks, last first: behind all of its class or a lower one. -/
def insertMark (mark : Char) : List Char → List Char
  | [] => [mark]
  | c :: before =>
    if combiningClass mark < combiningClass c then c :: insertMark mark before
    else mark :: c :: before

/-- Combining marks in the order of their classes; each run of marks stays where it is. -/
def order (cs : List Char) : List Char :=
  let step := fun ((done, marks) : List Char × List Char) c =>
    if combiningClass c = 0 then (c :: (marks ++ done), []) else (done, insertMark c marks)
  let (done, marks) := cs.foldl step ([], [])
  (marks ++ done).reverse

/-- Composition under way: the last starter, what follows it (last first), and what is behind. -/
structure Composing where
  done : List Char := []
  starter : Option Char := none
  following : List Char := []

namespace Composing

/-- Is the next character cut off from the starter by one of its own class or a higher one? -/
def blocked (s : Composing) (c : Char) : Bool :=
  match s.following with
  | [] => false
  | last :: _ => combiningClass last = 0 || combiningClass c ≤ combiningClass last

/-- What is there, last first. -/
def flush (s : Composing) : List Char :=
  s.following ++ (s.starter.toList ++ s.done)

def add (s : Composing) (c : Char) : Composing :=
  let keep : Composing :=
    if combiningClass c = 0 then { done := s.flush, starter := some c }
    else { s with following := c :: s.following }
  match s.starter with
  | none => keep
  | some starter =>
    if s.blocked c then keep
    else
      match compose? starter c with
      | some composite => { s with starter := some composite }
      | none => keep

end Composing

/-- Puts together what composes. -/
def composeAll (cs : List Char) : List Char :=
  ((cs.foldl Composing.add {}).flush).reverse

/-- Normalization form C. -/
def compose (cs : List Char) : List Char :=
  if cs.all (fun c => c.toNat < 128) then cs
  else composeAll (order (cs.flatMap decompose))

end Sluice.Unicode

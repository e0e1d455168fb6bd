import Sluice.Idna.Mapping
import Sluice.Idna.Punycode
import Sluice.Unicode.Bidi
import Sluice.Unicode.Joining
import Sluice.Unicode.Normal
import Sluice.Text.Utf8

/-
  Domain names in ASCII, as UTS #46 processes them for a URL: characters are mapped and composed,
  labels beyond ASCII are checked and written in Punycode, labels written so are decoded and
  checked. Hyphens and lengths are not checked. A name that is already ASCII and has no Punycode
  label only has its letters made small and its characters looked at.
-/

namespace Sluice.Idna

open Unicode

/-- May this character stand in the host of a URL? Only ASCII characters are refused. -/
def isHostChar (c : Char) : Bool :=
  !(c.toNat ≤ 32 || c.toNat == 127 || "%#/:<>?@[\\]^|".contains c)

/-! ## Labels -/

/-- Before a non-joiner stands, marks apart, a character that joins what follows it. -/
def joinsNext (before : List Char) : Bool :=
  match before.dropWhile (fun c => joining c == .transparent) with
  | c :: _ => joining c == .left || joining c == .dual
  | [] => false

/-- After a non-joiner stands, marks apart, a character that joins what precedes it. -/
def joinsPrevious (after : List Char) : Bool :=
  match after.dropWhile (fun c => joining c == .transparent) with
  | c :: _ => joining c == .right || joining c == .dual
  | [] => false

def nonJoiner : Char := Char.ofNat 0x200C
def joiner : Char := Char.ofNat 0x200D

/-- Joiners and non-joiners stand where they show. `before` is what precedes, last first. -/
def joinersFit (before : List Char) : List Char → Bool
  | [] => true
  | c :: after =>
    let afterVirama := match before with
      | v :: _ => isVirama v
      | [] => false
    let fits :=
      if c = joiner then afterVirama
      else if c = nonJoiner then afterVirama || (joinsNext before && joinsPrevious after)
      else true
    fits && joinersFit (c :: before) after

/-- Is a character written from right to left? -/
def isRightToLeft (c : Char) : Bool :=
  (bidiClass c).isRightToLeft

/-- The class of the last character that is not a nonspacing mark. -/
def lastClass (classes : List BidiClass) : BidiClass :=
  (classes.reverse.dropWhile (· == .nonspacingMark)).headD .excluded

/-- Classes that a label of either direction may hold. -/
def isShared : BidiClass → Bool
  | .europeanNumber | .europeanSeparator | .commonSeparator | .europeanTerminator
  | .otherNeutral | .boundaryNeutral | .nonspacingMark => true
  | _ => false

/-- The rule of RFC 5893 for the labels of a name that is partly written from right to left. -/
def bidiFits (label : List Char) : Bool :=
  let classes := label.map bidiClass
  match classes with
  | [] => true
  | .left :: _ =>
    classes.all (fun c => c == .left || isShared c) &&
      (lastClass classes == .left || lastClass classes == .europeanNumber)
  | .right :: _ | .arabicLetter :: _ =>
    classes.all (fun c => c == .right || c == .arabicLetter || c == .arabicNumber || isShared c) &&
      (match lastClass classes with
        | .right | .arabicLetter | .arabicNumber | .europeanNumber => true
        | _ => false) &&
      !(classes.contains .europeanNumber && classes.contains .arabicNumber)
  | _ => false

/-- May these characters be a label? -/
def isValidLabel (label : List Char) : Bool :=
  (match label with
    | c :: _ => !isMark c
    | [] => true) &&
    label.all (fun c => mapChar c == some [c]) &&
    joinersFit [] label

/-- A label as it was meant and as it is written. -/
structure Label where
  meant : List Char
  written : List Char

/-- What stands in front of a Punycode label. -/
def acePrefix : List Char := "xn--".toList

/-- The longest label that is encoded, and the longest Punycode that is decoded. -/
def maxEncoded : Nat := 1000
def maxDecoded : Nat := 2000

/-- Reads a label that has been mapped and composed. -/
def Label.of? (cs : List Char) : Option Label :=
  let isAscii := cs.all fun c => c.toNat < 128
  if cs.take 4 = acePrefix then
    if !isAscii || maxDecoded < cs.length - 4 then none
    else
      match Punycode.decode (cs.drop 4) with
      | none => none
      | some meant =>
        if meant.all (fun c => c.toNat < 128) || compose meant != meant || !isValidLabel meant then
          none
        else some ⟨meant, cs⟩
  else if isAscii then some ⟨cs, cs⟩
  else if !isValidLabel cs || maxEncoded < cs.length then none
  else some ⟨cs, acePrefix ++ Punycode.encode cs⟩

/-! ## Names -/

/-- A name of characters in ASCII. -/
def ofChars? (cs : List Char) : Option (List Char) := do
  let mapped ← mapChars cs
  let labels ← ((compose mapped).splitOn '.').mapM Label.of?
  let isBidi := labels.any fun l => l.meant.any isRightToLeft
  if labels.all (fun l => l.meant.all isHostChar && (!isBidi || bidiFits l.meant)) then
    some (['.'].intercalate (labels.map (·.written)))
  else none

/-- A name written in UTF-8, in ASCII; `none` if it is no name. -/
def toAscii? (name : Octets) : Option (List Char) :=
  match Utf8.decode name with
  | .ok cs => ofChars? cs
  | .error _ => none

end Sluice.Idna

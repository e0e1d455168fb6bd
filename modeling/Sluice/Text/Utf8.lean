import Sluice.Octets.Basic

/-
  UTF-8 as RFC 3629 lays it out. `scan` reads one character or says why there is none; `decode`
  asks for nothing but characters, `decodeLossy` puts U+FFFD where there is none. A fault carries
  where the readable part ends and how many octets are at fault, none when the text just stops
  inside a character.
-/

namespace Sluice.Utf8

/-- Where a text stops being UTF-8. `width` is the number of octets at fault, `none` if the text
ends inside a character. -/
structure Fault where
  offset : Nat
  width : Option Nat
  deriving DecidableEq, Repr

/-- The wording of a fault. -/
def Fault.message (f : Fault) : String :=
  match f.width with
  | some n => s!"invalid utf-8 sequence of {n} bytes from index {f.offset}"
  | none => s!"incomplete utf-8 byte sequence from index {f.offset}"

/-- What stands at the front of a text. -/
inductive Scan where
  /-- Nothing: the text is empty. -/
  | done
  /-- A character of `width` octets. -/
  | char (c : Char) (width : Nat) (rest : Octets)
  /-- `width` octets that start no character. -/
  | invalid (width : Nat) (rest : Octets)
  /-- The start of a character, and no more. -/
  | cut
  deriving DecidableEq, Repr

/-- An octet that continues a character. -/
def isTail (b : UInt8) : Bool :=
  0x80 ≤ b && b ≤ 0xBF

/-- May `b` follow `a`, the first octet of a character of three or four octets? The exclusions are
the overlong forms, the surrogates and what lies above U+10FFFF. -/
def mayFollow (a b : UInt8) : Bool :=
  if a = 0xE0 then 0xA0 ≤ b && b ≤ 0xBF
  else if a = 0xED then 0x80 ≤ b && b ≤ 0x9F
  else if a = 0xF0 then 0x90 ≤ b && b ≤ 0xBF
  else if a = 0xF4 then 0x80 ≤ b && b ≤ 0x8F
  else isTail b

/-- The six low bits of a continuing octet. -/
def tailBits (b : UInt8) : Nat :=
  b.toNat % 64

def scan : Octets → Scan
  | [] => .done
  | a :: r =>
    if a < 0x80 then .char (Char.ofNat a.toNat) 1 r
    else if a < 0xC2 then .invalid 1 r
    else if a < 0xE0 then
      match r with
      | [] => .cut
      | b :: r =>
        if isTail b then .char (Char.ofNat (a.toNat % 32 * 64 + tailBits b)) 2 r
        else .invalid 1 (b :: r)
    else if a < 0xF0 then
      match r with
      | [] => .cut
      | b :: r =>
        if mayFollow a b then
          match r with
          | [] => .cut
          | c :: r =>
            if isTail c then
              .char (Char.ofNat ((a.toNat % 16 * 64 + tailBits b) * 64 + tailBits c)) 3 r
            else .invalid 2 (c :: r)
        else .invalid 1 (b :: r)
    else if a < 0xF5 then
      match r with
      | [] => .cut
      | b :: r =>
        if mayFollow a b then
          match r with
          | [] => .cut
          | c :: r =>
            if isTail c then
              match r with
              | [] => .cut
              | d :: r =>
                if isTail d then
                  .char (Char.ofNat
                    (((a.toNat % 8 * 64 + tailBits b) * 64 + tailBits c) * 64 + tailBits d)) 4 r
                else .invalid 3 (d :: r)
            else .invalid 2 (c :: r)
        else .invalid 1 (b :: r)
    else .invalid 1 r

/-- Whatever is read off the front, the rest is shorter. -/
theorem length_scan (s : Octets) :
    (∀ c w r, scan s = .char c w r → r.length < s.length) ∧
      (∀ w r, scan s = .invalid w r → r.length < s.length) := by
  unfold scan
  constructor
  · intro c w r
    (repeat' split) <;> intro h <;> cases h <;> simp only [List.length_cons] <;> omega
  · intro w r
    (repeat' split) <;> intro h <;> cases h <;> simp only [List.length_cons] <;> omega

/-- The characters from `s` on; `before` are the ones already read, last first, and `offset` counts
their octets. -/
def decodeFrom (offset : Nat) (before : List Char) (s : Octets) : Except Fault (List Char) :=
  match h : scan s with
  | .done => .ok before.reverse
  | .char c width rest =>
    have := (length_scan s).1 _ _ _ h
    decodeFrom (offset + width) (c :: before) rest
  | .invalid width _ => .error ⟨offset, some width⟩
  | .cut => .error ⟨offset, none⟩
termination_by s.length

/-- The characters of a text, or the first fault in it. -/
def decode (s : Octets) : Except Fault (List Char) :=
  decodeFrom 0 [] s

/-- The text that octets write, if they do. -/
def text? (s : Octets) : Option String :=
  match decode s with
  | .ok cs => some (String.ofList cs)
  | .error _ => none

/-- Stands for octets that write no character. -/
def replacement : Char := Char.ofNat 0xFFFD

def decodeLossyFrom (before : List Char) (s : Octets) : List Char :=
  match h : scan s with
  | .done => before.reverse
  | .char c _ rest =>
    have := (length_scan s).1 _ _ _ h
    decodeLossyFrom (c :: before) rest
  | .invalid _ rest =>
    have := (length_scan s).2 _ _ h
    decodeLossyFrom (replacement :: before) rest
  | .cut => (replacement :: before).reverse
termination_by s.length

/-- The characters of a text, with U+FFFD for each fault. -/
def decodeLossy (s : Octets) : List Char :=
  decodeLossyFrom [] s

end Sluice.Utf8

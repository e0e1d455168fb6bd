/-
  Punycode (RFC 3492): any string as ASCII letters, digits and hyphens. The ASCII characters come
  first. Behind the last hyphen stand variable-length numbers. Each says how far to move on, through
  all places of all code points, to the next character to be put in.
-/

namespace Sluice.Idna.Punycode

def base : Nat := 36
def minThreshold : Nat := 1
def maxThreshold : Nat := 26
def skew : Nat := 38
def damp : Nat := 700
def firstBias : Nat := 72
def firstCode : Nat := 128

/-- Numbers are kept below this. -/
def limit : Nat := UInt32.size

/-- The steps of the bias adaption: how often the delta is divided, and what is left. -/
def adaptSteps (delta k : Nat) : Nat × Nat :=
  if (base - minThreshold) * maxThreshold / 2 < delta then
    adaptSteps (delta / (base - minThreshold)) (k + base)
  else (delta, k)
termination_by delta
decreasing_by
  simp only [base, minThreshold, maxThreshold] at *
  exact Nat.div_lt_self (by omega) (by decide)

/-- The bias after a delta, `count` characters being in place. -/
def adapt (delta count : Nat) (first : Bool) : Nat :=
  let delta := if first then delta / damp else delta / 2
  let (delta, k) := adaptSteps (delta + delta / count) 0
  k + (base - minThreshold + 1) * delta / (delta + skew)

/-- The digit at which a number ends, by its place. -/
def threshold (k bias : Nat) : Nat :=
  min maxThreshold (max minThreshold (k - bias))

/-! ## Decoding -/

def digitValue? (c : Char) : Option Nat :=
  if 'a' ≤ c ∧ c ≤ 'z' then some (c.toNat - 97)
  else if 'A' ≤ c ∧ c ≤ 'Z' then some (c.toNat - 65)
  else if '0' ≤ c ∧ c ≤ '9' then some (c.toNat - 22)
  else none

/-- The character of a code point, if it has one. -/
def charOf? (n : Nat) : Option Char :=
  if n.isValidChar then some (Char.ofNat n) else none

/-- Between numbers: the next code point, the place behind the last insertion, and the text so far.
-/
structure Decoding where
  code : Nat
  place : Nat
  bias : Nat
  text : List Char

/-- Reads numbers. `sum` is what the current one amounts to so far, `weight` what its next digit
counts, `k` marks that digit's place; a number is over when `k` is back at `base`. -/
def decodeDigits (s : Decoding) (sum weight k : Nat) : List Char → Option (List Char)
  | [] => if k = base then some s.text else none
  | c :: rest =>
    match digitValue? c with
    | none => none
    | some digit =>
      let sum := sum + digit * weight
      if limit ≤ sum then none
      else if digit < threshold k s.bias then
        let count := s.text.length + 1
        let place := s.place + sum
        let code := s.code + place / count
        if limit ≤ place ∨ limit ≤ code then none
        else
          match charOf? code with
          | none => none
          | some char =>
            let at' := place % count
            decodeDigits
              { code
                place := at' + 1
                bias := adapt sum count (s.text.all fun c => c.toNat < 128)
                text := s.text.take at' ++ char :: s.text.drop at' }
              0 1 base rest
      else
        let weight := weight * (base - threshold k s.bias)
        if limit ≤ weight then none else decodeDigits s sum weight (k + base) rest

/-- The text before the last hyphen, and what is behind it. A hyphen at the very front is not one
that separates. -/
def splitBasic (cs : List Char) : List Char × List Char :=
  let tail := cs.reverse.takeWhile (· ≠ '-')
  let front := cs.take (cs.length - tail.length - 1)
  if tail.length = cs.length ∨ front.isEmpty then ([], cs) else (front, tail.reverse)

/-- The string that Punycode stands for. -/
def decode (cs : List Char) : Option (List Char) :=
  let (front, digits) := splitBasic cs
  if front.all (fun c => c.toNat < 128) then
    decodeDigits { code := firstCode, place := 0, bias := firstBias, text := front } 0 1 base digits
  else none

/-! ## Encoding -/

def digitChar (n : Nat) : Char :=
  if n < 26 then Char.ofNat (n + 97) else Char.ofNat (n + 22)

/-- The digits of a number. -/
def numberDigits (n k bias : Nat) : List Char :=
  let t := threshold k bias
  if _ : n < t ∨ t = 0 ∨ base ≤ t then [digitChar n]
  else
    digitChar (t + (n - t) % (base - t)) :: numberDigits ((n - t) / (base - t)) (k + base) bias
termination_by n
decreasing_by
  have : (n - threshold k bias) / (base - threshold k bias) ≤ n - threshold k bias :=
    Nat.div_le_self _ _
  omega

/-- Encoding under way: the delta so far, how many characters are in place, and the output, last
first. -/
structure Encoding where
  delta : Nat
  bias : Nat
  count : Nat
  basicCount : Nat
  output : List Char

/-- One character of the text, in the round of code point `code`. -/
def encodeChar (code : Nat) (s : Encoding) (c : Char) : Encoding :=
  if c.toNat < code then { s with delta := s.delta + 1 }
  else if c.toNat = code then
    { s with
      delta := 0
      bias := adapt s.delta (s.count + 1) (s.count == s.basicCount)
      count := s.count + 1
      output := (numberDigits s.delta base s.bias).reverse ++ s.output }
  else s

/-- One round: all of the text, for one code point. `previous` is where the last round ended. -/
def encodeRound (cs : List Char) (s : Encoding × Nat) (code : Nat) : Encoding × Nat :=
  let start := { s.1 with delta := s.1.delta + (code - s.2) * (s.1.count + 1) }
  let done := cs.foldl (encodeChar code) start
  ({ done with delta := done.delta + 1 }, code + 1)

/-- The code points beyond ASCII, in order and each once. -/
def codes (cs : List Char) : List Nat :=
  (((cs.filter fun c => 128 ≤ c.toNat).map Char.toNat).mergeSort (· ≤ ·)).eraseReps

/-- Punycode of a string. -/
def encode (cs : List Char) : List Char :=
  let front := cs.filter fun c => c.toNat < 128
  let start : Encoding :=
    { delta := 0, bias := firstBias, count := front.length, basicCount := front.length
      output := if front.isEmpty then [] else '-' :: front.reverse }
  (((codes cs).foldl (encodeRound cs) (start, firstCode)).1.output).reverse

end Sluice.Idna.Punycode

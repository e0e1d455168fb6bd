import Sluice.Proofs.SignedUrls
import Sluice.Proofs.SocksRequests

/-
  Text under a mask. Which characters of ASCII a text holds makes no difference to where it stops
  being UTF-8 (`Utf8.decode_masked`), and encoded text around letters and digits makes nothing else
  of them. So two words of letters and digits, as long as each other, can stand for one another in
  what is read as a password (`Words.decodePart`).
-/

namespace Sluice

open Octets

/-! ## UTF-8 under a mask -/

namespace Utf8


/-- An octet, with a star for every ASCII character. -/
def masked (b : UInt8) : UInt8 :=
  if b < 0x80 then 42 else b

theorem masked_lead {b : UInt8} (high : ¬ b < 0x80) : masked b = b :=
  if_neg high

theorem isTail_masked (b : UInt8) : isTail (masked b) = isTail b := by
  by_cases low : b < 0x80
  · have mask : masked b = 42 := if_pos low
    have outside : ¬ 0x80 ≤ b := UInt8.not_le.2 low
    rw [mask, isTail, isTail, decide_eq_false outside]
    rfl
  · rw [masked_lead low]

theorem mayFollow_masked (a b : UInt8) : mayFollow a (masked b) = mayFollow a b := by
  by_cases low : b < 0x80
  · have mask : masked b = 42 := if_pos low
    have outside (n : UInt8) (high : 0x80 ≤ n) : decide (n ≤ b) = false := by
      simp only [decide_eq_false_iff_not, UInt8.not_le]
      exact UInt8.lt_of_lt_of_le low high
    rw [mayFollow, mayFollow, isTail_masked, mask]
    simp [outside]
  · rw [masked_lead low]

/-- What stands at the front of a text under a mask; `c` is the character that the mask leaves. -/
def Scan.masked (c : Char) : Scan → Scan
  | .char _ width rest => .char c width (rest.map Utf8.masked)
  | .invalid width rest => .invalid width (rest.map Utf8.masked)
  | s => s

theorem scan_masked (s : Octets) : ∃ c, scan (s.map masked) = (scan s).masked c := by
  cases s with
  | nil => exact ⟨'*', rfl⟩
  | cons a r =>
    by_cases small : a < 0x80
    · have star : masked a = 42 := if_pos small
      refine ⟨'*', ?_⟩
      have found : scan (a :: r) = .char (Char.ofNat a.toNat) 1 r := if_pos small
      rw [List.map_cons, star, found]
      rfl
    · rw [List.map_cons, masked_lead small]
      unfold scan
      dsimp only
      rw [if_neg small, if_neg small]
      split
      · exact ⟨'*', rfl⟩
      · rcases r with _ | ⟨b, _ | ⟨c, _ | ⟨d, r⟩⟩⟩
        all_goals
          simp only [List.map_nil, List.map_cons, isTail_masked, mayFollow_masked]
          repeat' split
        all_goals first | exact ⟨_, rfl⟩ | exact ⟨'*', rfl⟩

theorem decodeFrom_eq (offset : Nat) (before : List Char) (s : Octets) :
    decodeFrom offset before s = match scan s with
      | .done => .ok before.reverse
      | .char c width rest => decodeFrom (offset + width) (c :: before) rest
      | .invalid width _ => .error ⟨offset, some width⟩
      | .cut => .error ⟨offset, none⟩ := by
  rw [decodeFrom]
  split <;> next h => simp only [h]

/-- Which characters of ASCII a text holds makes no difference to where it stops being UTF-8. -/
theorem decodeFrom_masked (offset : Nat) (before before' : List Char) (s : Octets) :
    (decodeFrom offset before (s.map masked)).map (fun _ => ()) =
      (decodeFrom offset before' s).map fun _ => () := by
  fun_induction decodeFrom offset before' s generalizing before with
  | case1 offset before' s h =>
    obtain ⟨c, found⟩ := scan_masked s
    rw [decodeFrom_eq, found, h]
    rfl
  | case2 offset before' s ch width rest h _ ih =>
    obtain ⟨c, found⟩ := scan_masked s
    rw [decodeFrom_eq, found, h]
    exact ih _
  | case3 offset before' s width rest h =>
    obtain ⟨c, found⟩ := scan_masked s
    rw [decodeFrom_eq, found, h]
    rfl
  | case4 offset before' s h =>
    obtain ⟨c, found⟩ := scan_masked s
    rw [decodeFrom_eq, found, h]
    rfl

/-- Texts that are alike under a mask are as long as each other, or stop being UTF-8 alike. -/
theorem decode_masked {s s' : Octets} (same : s.map masked = s'.map masked) :
    (decode s).map (fun cs => (String.ofList cs).utf8ByteSize) =
      (decode s').map fun cs => (String.ofList cs).utf8ByteSize := by
  have size {s : Octets} {cs : List Char} (read : decode s = .ok cs) :
      (String.ofList cs).utf8ByteSize = s.length := by
    rw [← length_ofText, ofText, String.toList_ofList, ← decode_eq_ok.1 read]
  have length : s.length = s'.length := by
    rw [← List.length_map masked, same, List.length_map]
  have stops : (decode s).map (fun _ => ()) = (decode s').map fun _ => () := by
    rw [decode, decode, ← decodeFrom_masked 0 [] [], same, decodeFrom_masked 0 [] []]
  cases one : decode s with
  | error f =>
    cases two : decode s' with
    | error f' =>
      rw [one, two] at stops
      exact congrArg Except.error (Except.error.inj stops)
    | ok cs' =>
      rw [one, two] at stops
      cases stops
  | ok cs =>
    cases two : decode s' with
    | error f' =>
      rw [one, two] at stops
      cases stops
    | ok cs' =>
      exact congrArg Except.ok ((size one).trans (length.trans (size two).symm))

end Utf8

/-! ## Encoded text around a password -/

namespace Percent

theorem decode_append {x : Octets} (signless : sign ∉ x) (y : Octets) :
    decode (x ++ y) = x ++ decode y := by
  induction x with
  | nil => rfl
  | cons b x ih =>
    obtain ⟨other, rest⟩ := not_or.1 (mt List.mem_cons.2 signless)
    rw [List.cons_append, decode_cons (Ne.symm other), ih rest, List.cons_append]

/-- A sign that no two digits follow stands for itself. -/
theorem decode_unpaired {high low : UInt8} (pair : pair? high low = none) (rest : Octets) :
    decode (sign :: high :: low :: rest) = sign :: decode (high :: low :: rest) :=
  (decode.eq_1 high low rest).trans (by rw [pair])

theorem pair_sign (b : UInt8) : pair? sign b = none ∧ pair? b sign = none := by
  have none : hexValue? sign = none := by decide
  constructor
  · rw [pair?, none]
  · rw [pair?, none]
    cases hexValue? b <;> rfl

theorem decode_signs (y : Octets) : decode (sign :: sign :: y) = sign :: decode (sign :: y) := by
  cases y with
  | nil => rfl
  | cons b y => exact decode_unpaired (pair_sign b).1 y

/-- A sign is no digit, so what stands before it is decoded by itself. -/
theorem decode_append_sign (x y : Octets) :
    decode (x ++ sign :: y) = decode x ++ decode (sign :: y) := by
  fun_induction decode x with
  | case1 high low rest b pair ih => exact (decode_pair pair _).trans (congrArg (b :: ·) ih)
  | case2 high low rest pair ih => exact (decode_unpaired pair _).trans (congrArg (sign :: ·) ih)
  | case3 b rest alone ih =>
    have front : decode (b :: (rest ++ sign :: y)) = b :: decode (rest ++ sign :: y) := by
      by_cases other : b = sign
      · subst other
        cases rest with
        | nil => exact decode_signs y
        | cons high rest =>
          cases rest with
          | nil => exact decode_unpaired (pair_sign high).2 y
          | cons low rest => exact absurd rfl (alone high low rest rfl)
      · exact decode_cons other _
    exact front.trans (congrArg (b :: ·) ih)
  | case4 => rfl

/-- What cannot take in the text behind it: nothing, or an encoded colon at the end. -/
def Shut (front : List Char) : Prop :=
  front = [] ∨ ∃ x, front = x ++ "%3A".toList

/-- Behind such a front a text without signs is decoded by itself, and to itself. -/
theorem Shut.decode {front : List Char} (shut : Shut front) (behind : List Char) :
    ∃ before after, ∀ p : List Char, '%' ∉ p →
      Percent.decode (ofText (String.ofList (front ++ p ++ behind))) =
        before ++ p.flatMap String.utf8EncodeChar ++ after := by
  have inner (p : List Char) (plain : '%' ∉ p) :
      Percent.decode ((p ++ behind).flatMap String.utf8EncodeChar) =
        p.flatMap String.utf8EncodeChar ++
          Percent.decode (behind.flatMap String.utf8EncodeChar) := by
    rw [List.flatMap_append, decode_append (sign_not_mem plain)]
  simp only [ofText, String.toList_ofList, List.append_assoc]
  rcases shut with rfl | ⟨x, rfl⟩
  · exact ⟨[], _, inner⟩
  · have colon : "%3A".toList.flatMap String.utf8EncodeChar = [sign, 51, 65] := by decide
    refine ⟨Percent.decode (x.flatMap String.utf8EncodeChar) ++ [58],
      Percent.decode (behind.flatMap String.utf8EncodeChar), fun p plain => ?_⟩
    rw [List.append_assoc, List.flatMap_append, List.flatMap_append, colon, List.cons_append,
      decode_append_sign, List.cons_append, List.cons_append, List.nil_append,
      decode_pair (b := 58) (by decide), inner p plain, List.append_assoc]
    rfl

end Percent

/-! ## Passwords alike -/

/-- Two words that nothing shows apart: as many letters and digits in each. -/
structure Words (p p' : String) : Prop where
  length : p.toList.length = p'.toList.length
  first : ∀ c ∈ p.toList, c.isAlphanum = true
  second : ∀ c ∈ p'.toList, c.isAlphanum = true

namespace Words

theorem settled {p : String} (word : ∀ c ∈ p.toList, c.isAlphanum = true) :
    ∀ c ∈ p.toList, Url.isSettled c = true := fun c mem => by
  rw [Url.isSettled, word c mem, Bool.true_or]

theorem signless {p : String} (word : ∀ c ∈ p.toList, c.isAlphanum = true) : '%' ∉ p.toList :=
  fun mem => absurd (word '%' mem) (by decide)

theorem masked {cs : List Char} (ascii : ∀ c ∈ cs, c.toNat < 127) :
    (cs.flatMap String.utf8EncodeChar).map Utf8.masked = List.replicate cs.length 42 := by
  induction cs with
  | nil => rfl
  | cons c cs ih =>
    obtain ⟨small, rest⟩ := List.forall_mem_cons.1 ascii
    have octet : (UInt8.ofNat c.toNat).toNat = c.toNat :=
      UInt8.toNat_ofNat_of_lt (Nat.lt_trans small (by decide))
    have star : Utf8.masked (UInt8.ofNat c.toNat) = 42 := by
      refine if_pos (UInt8.lt_iff_toNat_lt.2 ?_)
      rw [octet]
      exact Nat.lt_trans small (by decide)
    rw [List.flatMap_cons, Utf8.encode_small (Nat.le_of_lt small), List.map_append, ih rest]
    simp [star, List.replicate_succ]

variable {p p' : String}

theorem decodePart_size (part : String) :
    (ProxyUrl.decodePart part).map String.utf8ByteSize =
      ((Utf8.decode (Percent.decode (ofText part))).map fun cs =>
        (String.ofList cs).utf8ByteSize).mapError ProxyUrl.Fault.notUtf8 := by
  rw [ProxyUrl.decodePart]
  cases Utf8.decode (Percent.decode (ofText part)) <;> rfl

/-- Encoded text around a password makes nothing else of it. -/
theorem decodePart (words : Words p p') {front : List Char} (shut : Percent.Shut front)
    (behind : List Char) :
    (ProxyUrl.decodePart (String.ofList (front ++ p.toList ++ behind))).map String.utf8ByteSize =
      (ProxyUrl.decodePart (String.ofList (front ++ p'.toList ++ behind))).map
        String.utf8ByteSize := by
  have small {p : String} (word : ∀ c ∈ p.toList, c.isAlphanum = true) :
      ∀ c ∈ p.toList, c.toNat < 127 :=
    fun c mem => (Url.settled (settled word c mem)).2.1
  obtain ⟨before, after, decoded⟩ := shut.decode behind
  have alike : (before ++ p.toList.flatMap String.utf8EncodeChar ++ after).map Utf8.masked =
      (before ++ p'.toList.flatMap String.utf8EncodeChar ++ after).map Utf8.masked := by
    simp only [List.map_append, masked (small words.first), masked (small words.second),
      words.length]
  have same := Utf8.decode_masked alike
  rw [decodePart_size, decodePart_size, decoded _ (signless words.first),
    decoded _ (signless words.second), same]

end Words

end Sluice

import Sluice.Destination.Basic
import Sluice.Http.Field
import Sluice.Text.Base64
import Sluice.Proofs.AddressTexts
import Sluice.Proofs.Utf8

/-
  Characters that can be seen, and texts of them. A class of characters is `Spelled` by a class of
  octets if one can tell by the octets where a text leaves the class. Visible characters are spelled
  by the octets of request targets, and those that stay on their line by the octets of field values.
  Addresses, ports and words in base 64 can be seen in every character; of a destination only the
  name is open (`destination_iff`).
-/

namespace Sluice

open Octets

/-! ## Characters and octets -/

/-- Are the characters of a class written in octets of a class, and the others, being ASCII, in
octets that are not of it? -/
def Spelled (q : Char → Bool) (p : UInt8 → Bool) : Prop :=
  ∀ ch, if q ch then ∀ b ∈ String.utf8EncodeChar ch, p b = true
    else ∃ b, String.utf8EncodeChar ch = [b] ∧ p b = false

namespace Spelled

variable {q : Char → Bool} {p : UInt8 → Bool} {s : Octets} {cs : List Char}

/-- Classes that hold all that is beyond ASCII, and agree on ASCII. -/
theorem of_ascii (octet : ∀ b : UInt8, 128 ≤ b.toNat → p b = true)
    (character : ∀ ch : Char, 128 ≤ ch.toNat → q ch = true)
    (ascii : ∀ ch : Char, ∀ b : UInt8, b.toNat = ch.toNat → p b = q ch) : Spelled q p := by
  intro ch
  rcases Nat.lt_or_ge 0x7f ch.toNat with large | small
  · rw [if_pos (character ch large)]
    exact fun b hb => octet b (Utf8.encode_large large b hb)
  · have bound : ch.toNat < 256 := by omega
    have same : p (UInt8.ofNat ch.toNat) = q ch := ascii ch _ (UInt8.toNat_ofNat_of_lt bound)
    rw [Utf8.encode_small small]
    split
    · next h =>
      intro b hb
      rw [List.mem_singleton.1 hb, same, h]
    · next h => exact ⟨_, rfl, by rw [same]; exact Bool.eq_false_iff.2 h⟩

theorem octets (h : Spelled q p) (all : ∀ ch ∈ cs, q ch = true) :
    ∀ b ∈ cs.flatMap String.utf8EncodeChar, p b = true := by
  intro b hb
  obtain ⟨ch, mem, hb⟩ := List.mem_flatMap.1 hb
  have encode := h ch
  rw [if_pos (all ch mem)] at encode
  exact encode b hb

theorem characters (h : Spelled q p) (all : ∀ b ∈ s, p b = true) (read : Utf8.decode s = .ok cs) :
    ∀ ch ∈ cs, q ch = true := by
  obtain rfl := Utf8.decode_eq_ok.1 read
  intro ch mem
  have encode := h ch
  split at encode
  · assumption
  · obtain ⟨b, one, other⟩ := encode
    have mem : b ∈ cs.flatMap String.utf8EncodeChar :=
      List.mem_flatMap.2 ⟨ch, mem, one ▸ List.mem_singleton_self b⟩
    rw [all b mem] at other
    simp at other

/-- The octets of the class end where the characters of it end. -/
theorem takeWhile (h : Spelled q p) {b : UInt8} (stop : p b = false) (cs : List Char)
    {rest : Octets} : (cs.flatMap String.utf8EncodeChar ++ b :: rest).takeWhile p =
      (cs.takeWhile q).flatMap String.utf8EncodeChar := by
  induction cs with
  | nil => exact List.takeWhile_cons_of_neg (by simp [stop])
  | cons ch cs ih =>
    have encode := h ch
    rw [List.flatMap_cons, List.append_assoc]
    split at encode
    · next inside =>
      rw [List.takeWhile_append_of_pos encode, ih, List.takeWhile_cons_of_pos inside,
        List.flatMap_cons]
    · next outside =>
      obtain ⟨b', one, stop'⟩ := encode
      rw [one, List.takeWhile_cons_of_neg outside]
      exact List.takeWhile_cons_of_neg (by simp [stop'])

end Spelled

namespace Http

/-- A character that can be seen. Beyond ASCII every character counts as one. -/
def isVisible (ch : Char) : Bool :=
  33 ≤ ch.toNat && ch.toNat != 127

/-- A character that can be seen, or a blank that leaves the line as it is. -/
def isInline (ch : Char) : Bool :=
  ch.toNat == 9 || ch.toNat == 32 || isVisible ch

theorem spelled_visible : Spelled isVisible isTarget := by
  refine .of_ascii (fun b large => ?_) (fun ch large => ?_) fun ch b same => ?_
  · simp only [isTarget, Bool.or_eq_true, decide_eq_true_eq, UInt8.le_iff_toNat_le]
    exact Or.inr large
  · simp only [isVisible, Bool.and_eq_true, decide_eq_true_eq, bne_iff_ne]
    omega
  · rw [Bool.eq_iff_iff]
    simp only [isTarget, isVisible, UInt8.le_iff_toNat_le, same, UInt8.reduceToNat,
      Bool.or_eq_true, Bool.and_eq_true, decide_eq_true_eq, bne_iff_ne]
    omega

theorem spelled_inline : Spelled isInline isText := by
  refine .of_ascii (fun b large => ?_) (fun ch large => ?_) fun ch b same => ?_
  · simp only [isText, Bool.or_eq_true, decide_eq_true_eq, UInt8.le_iff_toNat_le]
    exact Or.inr large
  · simp only [isInline, isVisible, Bool.or_eq_true, Bool.and_eq_true, decide_eq_true_eq,
      bne_iff_ne]
    omega
  · rw [Bool.eq_iff_iff]
    simp only [isText, isInline, isVisible, tab, UInt8.le_iff_toNat_le, ← UInt8.toNat_inj, same,
      UInt8.reduceToNat, Bool.or_eq_true, Bool.and_eq_true, decide_eq_true_eq, bne_iff_ne,
      beq_iff_eq]
    omega

theorem isText_of_isTarget {b : UInt8} (h : isTarget b = true) :
    isText b = true ∧ isSpace b = false := by
  simp only [isTarget, isText, isSpace, space, tab, Bool.or_eq_true, Bool.and_eq_true,
    decide_eq_true_eq, UInt8.le_iff_toNat_le, UInt8.reduceToNat, Bool.or_eq_false_iff,
    beq_eq_false_iff_ne, beq_iff_eq, ne_eq, ← UInt8.toNat_inj] at h ⊢
  omega

/-- No octet of a field value ends a line. -/
theorem ne_of_isText {b : UInt8} (h : isText b = true) : b ≠ lf ∧ b ≠ cr := by
  constructor <;> rintro rfl <;> exact absurd h (by decide)

end Http

open Http (isVisible)

/-! ## Texts that can be seen -/

/-- Can every character of a text be seen? -/
def Visible (text : String) : Prop :=
  ∀ ch ∈ text.toList, isVisible ch = true

instance (text : String) : Decidable (Visible text) :=
  decidable_of_iff (text.toList.all isVisible = true) List.all_eq_true

namespace Visible

theorem append_iff {a b : String} : Visible (a ++ b) ↔ Visible a ∧ Visible b := by
  unfold Visible
  rw [String.toList_append]
  exact List.forall_mem_append

theorem append {a b : String} (ha : Visible a) (hb : Visible b) : Visible (a ++ b) :=
  append_iff.2 ⟨ha, hb⟩

theorem ofList {cs : List Char} (h : ∀ ch ∈ cs, isVisible ch = true) :
    Visible (String.ofList cs) := by
  unfold Visible
  rw [String.toList_ofList]
  exact h

/-- A text that hides something does so at a first place. -/
theorem split {text : String} (h : ¬ Visible text) : ∃ front ch more,
    text.toList = front ++ ch :: more ∧ (∀ c ∈ front, isVisible c = true) ∧
      isVisible ch = false := by
  cases found : text.toList.find? (fun ch => !isVisible ch) with
  | none =>
    refine absurd (fun ch mem => ?_) h
    simpa using List.find?_eq_none.1 found ch mem
  | some ch =>
    obtain ⟨hidden, front, more, whole, visible⟩ := List.find?_eq_some_iff_append.1 found
    exact ⟨front, ch, more, whole, by simpa using visible, by simpa using hidden⟩

theorem nat (n : Nat) : Visible (toString n) := by
  rw [Nat.toString_eq_ofList_toDigits]
  exact ofList (Digits.forall_ofNat (by decide) (by decide) n)

theorem ipv4 (ip : Ipv4) : Visible ip.text :=
  Ipv4.forall_text (by decide) (by decide) ip

theorem groupText (ip : Ipv6) : Visible ip.groupText :=
  Ipv6.forall_groupText (by decide) (by decide) ip

theorem ipv6 (ip : Ipv6) : Visible ip.text :=
  Ipv6.forall_text (by decide) (by decide) (by decide) ip

/-- Only a name that somebody gave can hide anything in the text of a destination. -/
theorem destination_iff (d : Destination) :
    Visible d.text ↔ ∀ name, d.host = .domain name → Visible name := by
  obtain ⟨host, port⟩ := d
  cases host with
  | v4 ip =>
    refine iff_of_true ?_ nofun
    exact ((ipv4 ip).append (by decide)).append (nat _)
  | v6 ip =>
    refine iff_of_true ?_ nofun
    exact ((append (by decide) (ipv6 ip)).append (by decide)).append (nat _)
  | domain name =>
    constructor
    · intro visible _ e
      obtain rfl := Target.domain.inj e
      exact (append_iff.1 (append_iff.1 visible).1).1
    · intro visible
      exact ((visible name rfl).append (by decide)).append (nat _)

end Visible

namespace Base64

theorem visible_letter (n : Nat) : isVisible (letter n) = true := by
  have small : ∀ n < 63, isVisible (letter n) = true := by decide
  rcases Nat.lt_or_ge n 63 with lt | ge
  · exact small n lt
  · have other : letter n = '/' := by
      unfold letter
      repeat rw [if_neg (by omega)]
    rw [other]
    decide

theorem visible_encode (s : Octets) : ∀ ch ∈ encode s, isVisible ch = true := by
  have pad : isVisible '=' = true := by decide
  fun_induction encode s with
  | case1 => simp
  | case2 a n => simp [visible_letter, pad]
  | case3 a b n => simp [visible_letter, pad]
  | case4 a b c rest n ih => simpa [visible_letter] using ih

theorem encode_ne_nil {s : Octets} (h : s ≠ []) : encode s ≠ [] := by
  unfold encode
  split <;> simp_all

end Base64

end Sluice

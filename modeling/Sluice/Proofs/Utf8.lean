import Sluice.Text.Utf8

/-
  Writing characters and reading them back. `scan` finds each character where `utf8EncodeChar` has
  put it, whatever stands behind it (`scan_encode`), and no character anywhere else (`encode_scan`).
  So octets are read as just the text that they write (`decode_eq_ok`).
-/

namespace Sluice.Utf8

variable {a b c d : UInt8} {n : Nat} {s rest : Octets}

/-! ## One character -/

theorem isTail_of (h : b.toNat = n % 64 + 128) : isTail b = true ∧ tailBits b = n % 64 := by
  have lt : n % 64 < 64 := Nat.mod_lt n (by decide)
  simp only [isTail, tailBits, Bool.and_eq_true, decide_eq_true_eq, UInt8.le_iff_toNat_le]
  refine ⟨⟨?_, ?_⟩, ?_⟩
  · show 128 ≤ b.toNat
    omega
  · show b.toNat ≤ 191
    omega
  · omega

/-- Between the bounds that the first octet leaves to the second one. -/
theorem mayFollow_of (low : a.toNat = 0xE0 → 0xA0 ≤ b.toNat)
    (surrogate : a.toNat = 0xED → b.toNat ≤ 0x9F) (low' : a.toNat = 0xF0 → 0x90 ≤ b.toNat)
    (high : a.toNat = 0xF4 → b.toNat ≤ 0x8F)
    (tail : 0x80 ≤ b.toNat ∧ b.toNat ≤ 0xBF) : mayFollow a b = true := by
  unfold mayFollow isTail
  simp only [← UInt8.toNat_inj, UInt8.le_iff_toNat_le, UInt8.reduceToNat]
  split
  · next e => simp [low e, tail.2]
  · split
    · next e => simp [surrogate e, tail.1]
    · split
      · next e => simp [low' e, tail.2]
      · split
        · next e => simp [high e, tail.1]
        · simp [tail]

theorem scan_one (small : n ≤ 0x7f) (ha : a.toNat = n) :
    scan (a :: rest) = .char (Char.ofNat n) 1 rest := by
  have first : a < 0x80 := by
    rw [UInt8.lt_iff_toNat_lt, ha]
    show n < 128
    omega
  unfold scan
  dsimp only
  rw [if_pos first, ha]

theorem scan_two (large : 0x7f < n) (small : n ≤ 0x7ff) (ha : a.toNat = n / 64 % 32 + 192)
    (hb : b.toNat = n % 64 + 128) : scan (a :: b :: rest) = .char (Char.ofNat n) 2 rest := by
  obtain ⟨tail, bits⟩ := isTail_of hb
  have lead : ¬ a < 0x80 ∧ ¬ a < 0xC2 ∧ a < 0xE0 := by
    simp only [UInt8.lt_iff_toNat_lt, ha]
    show ¬ _ < 128 ∧ ¬ _ < 194 ∧ _ < 224
    omega
  have whole : (n / 64 % 32 + 192) % 32 * 64 + n % 64 = n := by omega
  unfold scan
  dsimp only
  rw [if_neg lead.1, if_neg lead.2.1, if_pos lead.2.2, if_pos tail, bits, ha, whole]

theorem scan_three (large : 0x7ff < n) (small : n ≤ 0xffff) (valid : n < 0xd800 ∨ 0xdfff < n)
    (ha : a.toNat = n / 4096 % 16 + 224) (hb : b.toNat = n / 64 % 64 + 128)
    (hc : c.toNat = n % 64 + 128) :
    scan (a :: b :: c :: rest) = .char (Char.ofNat n) 3 rest := by
  obtain ⟨tail, bits⟩ := isTail_of hb
  obtain ⟨tail', bits'⟩ := isTail_of hc
  have lead : ¬ a < 0x80 ∧ ¬ a < 0xC2 ∧ ¬ a < 0xE0 ∧ a < 0xF0 := by
    simp only [UInt8.lt_iff_toNat_lt, ha]
    show ¬ _ < 128 ∧ ¬ _ < 194 ∧ ¬ _ < 224 ∧ _ < 240
    omega
  have follows : mayFollow a b = true := by
    apply mayFollow_of <;> rw [hb] <;> try rw [ha]
    all_goals omega
  have whole : ((n / 4096 % 16 + 224) % 16 * 64 + n / 64 % 64) * 64 + n % 64 = n := by omega
  unfold scan
  dsimp only
  rw [if_neg lead.1, if_neg lead.2.1, if_neg lead.2.2.1, if_pos lead.2.2.2, if_pos follows,
    if_pos tail', bits, bits', ha, whole]

theorem scan_four (large : 0xffff < n) (small : n < 0x110000)
    (ha : a.toNat = n / 262144 % 8 + 240) (hb : b.toNat = n / 4096 % 64 + 128)
    (hc : c.toNat = n / 64 % 64 + 128) (hd : d.toNat = n % 64 + 128) :
    scan (a :: b :: c :: d :: rest) = .char (Char.ofNat n) 4 rest := by
  obtain ⟨tail, bits⟩ := isTail_of hb
  obtain ⟨tail', bits'⟩ := isTail_of hc
  obtain ⟨tail'', bits''⟩ := isTail_of hd
  have lead : ¬ a < 0x80 ∧ ¬ a < 0xC2 ∧ ¬ a < 0xE0 ∧ ¬ a < 0xF0 ∧ a < 0xF5 := by
    simp only [UInt8.lt_iff_toNat_lt, ha]
    show ¬ _ < 128 ∧ ¬ _ < 194 ∧ ¬ _ < 224 ∧ ¬ _ < 240 ∧ _ < 245
    omega
  have follows : mayFollow a b = true := by
    apply mayFollow_of <;> rw [hb] <;> try rw [ha]
    all_goals omega
  have whole : (((n / 262144 % 8 + 240) % 8 * 64 + n / 4096 % 64) * 64 + n / 64 % 64) * 64 +
      n % 64 = n := by omega
  unfold scan
  dsimp only
  rw [if_neg lead.1, if_neg lead.2.1, if_neg lead.2.2.1, if_neg lead.2.2.2.1,
    if_pos lead.2.2.2.2, if_pos follows, if_pos tail', if_pos tail'', bits, bits', bits'', ha,
    whole]

/-- Whatever stands behind it, a character is found where it was written. -/
theorem scan_encode (ch : Char) (rest : Octets) :
    scan (String.utf8EncodeChar ch ++ rest) =
      .char ch (String.utf8EncodeChar ch).length rest := by
  have valid : ch.toNat < 0xd800 ∨ 0xdfff < ch.toNat ∧ ch.toNat < 0x110000 := ch.valid
  have back : ch = Char.ofNat ch.toNat := (Char.ofNat_toNat ch).symm
  have octet : ∀ k, k < 256 → (UInt8.ofNat k).toNat = k := fun k => UInt8.toNat_ofNat_of_lt
  unfold String.utf8EncodeChar
  generalize hn : ch.toNat = n at valid back
  have hv : ch.val.toNat = n := hn
  rw [hv]
  dsimp only
  rw [back]
  split
  · next small => exact scan_one small (octet n (by omega))
  · split
    · next large small =>
      exact scan_two (Nat.lt_of_not_le large) small (octet _ (by omega)) (octet _ (by omega))
    · split
      · next large small =>
        exact scan_three (Nat.lt_of_not_le large) small (by omega) (octet _ (by omega))
          (octet _ (by omega)) (octet _ (by omega))
      · next large =>
        exact scan_four (Nat.lt_of_not_le large) (by omega) (octet _ (by omega))
          (octet _ (by omega)) (octet _ (by omega)) (octet _ (by omega))

theorem encode_small {ch : Char} (small : ch.toNat ≤ 0x7f) :
    String.utf8EncodeChar ch = [UInt8.ofNat ch.toNat] :=
  if_pos small

/-- Only a character of one octet has an octet below 128. -/
theorem encode_large {ch : Char} (large : 0x7f < ch.toNat) :
    ∀ b ∈ String.utf8EncodeChar ch, 128 ≤ b.toNat := by
  have octet : ∀ k, 128 ≤ k → k < 256 → 128 ≤ (UInt8.ofNat k).toNat := by
    intro k le lt
    have same : (UInt8.ofNat k).toNat = k := UInt8.toNat_ofNat_of_lt lt
    rw [same]
    exact le
  have hv : ch.val.toNat = ch.toNat := rfl
  intro b hb
  unfold String.utf8EncodeChar at hb
  rw [hv, if_neg (Nat.not_le_of_lt large)] at hb
  split at hb
  · simp only [List.mem_cons, List.not_mem_nil, or_false] at hb
    rcases hb with rfl | rfl <;> exact octet _ (by omega) (by omega)
  · split at hb
    · simp only [List.mem_cons, List.not_mem_nil, or_false] at hb
      rcases hb with rfl | rfl | rfl <;> exact octet _ (by omega) (by omega)
    · simp only [List.mem_cons, List.not_mem_nil, or_false] at hb
      rcases hb with rfl | rfl | rfl | rfl <;> exact octet _ (by omega) (by omega)

/-- An ASCII octet of a text is one of its characters. -/
theorem mem_of_ascii {cs : List Char} {b : UInt8} (ascii : b.toNat < 128)
    (mem : b ∈ cs.flatMap String.utf8EncodeChar) : Char.ofNat b.toNat ∈ cs := by
  obtain ⟨ch, inside, octet⟩ := List.mem_flatMap.1 mem
  rcases Nat.lt_or_ge 0x7f ch.toNat with large | small
  · exact absurd (encode_large large b octet) (Nat.not_le_of_lt ascii)
  · rw [encode_small small] at octet
    have same : (UInt8.ofNat ch.toNat).toNat = ch.toNat :=
      UInt8.toNat_ofNat_of_lt (show _ < 256 by omega)
    rwa [List.mem_singleton.1 octet, same, Char.ofNat_toNat]

/-! ## What is found was written -/

theorem toNat_ofNat (valid : n.isValidChar) : (Char.ofNat n).toNat = n := by
  unfold Char.ofNat
  rw [dif_pos valid]
  rfl

theorem bounds_of_isTail (h : isTail b = true) :
    128 ≤ b.toNat ∧ b.toNat ≤ 191 ∧ b.toNat = tailBits b + 128 := by
  simp only [isTail, Bool.and_eq_true, decide_eq_true_eq, UInt8.le_iff_toNat_le,
    UInt8.reduceToNat] at h
  unfold tailBits
  omega

theorem bounds_of_mayFollow (h : mayFollow a b = true) :
    isTail b = true ∧ (a.toNat = 0xE0 → 0xA0 ≤ b.toNat) ∧ (a.toNat = 0xED → b.toNat ≤ 0x9F) ∧
      (a.toNat = 0xF0 → 0x90 ≤ b.toNat) ∧ (a.toNat = 0xF4 → b.toNat ≤ 0x8F) := by
  unfold mayFollow at h
  unfold isTail at *
  simp only [← UInt8.toNat_inj, UInt8.le_iff_toNat_le, UInt8.reduceToNat] at *
  (repeat' split at h) <;> simp only [Bool.and_eq_true, decide_eq_true_eq] at * <;> omega

theorem encode_one (lead : a < 0x80) : String.utf8EncodeChar (Char.ofNat a.toNat) = [a] := by
  simp only [UInt8.lt_iff_toNat_lt, UInt8.reduceToNat] at lead
  have octet : (Char.ofNat a.toNat).toNat = a.toNat := toNat_ofNat (Or.inl (by omega))
  rw [encode_small (by omega), octet, UInt8.ofNat_toNat]

theorem encode_two (lead : ¬ a < 0xC2 ∧ a < 0xE0) (tail : isTail b = true) :
    String.utf8EncodeChar (Char.ofNat (a.toNat % 32 * 64 + tailBits b)) = [a, b] := by
  simp only [UInt8.lt_iff_toNat_lt, UInt8.reduceToNat] at lead
  have hb := bounds_of_isTail tail
  generalize hn : a.toNat % 32 * 64 + tailBits b = n
  have hv : (Char.ofNat n).val.toNat = n := toNat_ofNat (Or.inl (by omega))
  have ha : n / 64 % 32 + 192 = a.toNat := by omega
  have hb' : n % 64 + 128 = b.toNat := by omega
  unfold String.utf8EncodeChar
  rw [hv, if_neg (by omega), if_pos (by omega), ha, hb', UInt8.ofNat_toNat, UInt8.ofNat_toNat]

theorem encode_three (lead : ¬ a < 0xE0 ∧ a < 0xF0) (follows : mayFollow a b = true)
    (tail : isTail c = true) :
    String.utf8EncodeChar
      (Char.ofNat ((a.toNat % 16 * 64 + tailBits b) * 64 + tailBits c)) = [a, b, c] := by
  simp only [UInt8.lt_iff_toNat_lt, UInt8.reduceToNat] at lead
  obtain ⟨second, low, surrogate, -⟩ := bounds_of_mayFollow follows
  have hb := bounds_of_isTail second
  have hc := bounds_of_isTail tail
  generalize hn : (a.toNat % 16 * 64 + tailBits b) * 64 + tailBits c = n
  have valid : n.isValidChar := by
    unfold Nat.isValidChar
    omega
  have hv : (Char.ofNat n).val.toNat = n := toNat_ofNat valid
  have ha : n / 4096 % 16 + 224 = a.toNat := by omega
  have hb' : n / 64 % 64 + 128 = b.toNat := by omega
  have hc' : n % 64 + 128 = c.toNat := by omega
  unfold String.utf8EncodeChar
  rw [hv, if_neg (by omega), if_neg (by omega), if_pos (by omega), ha, hb', hc',
    UInt8.ofNat_toNat, UInt8.ofNat_toNat, UInt8.ofNat_toNat]

theorem encode_four (lead : ¬ a < 0xF0 ∧ a < 0xF5) (follows : mayFollow a b = true)
    (tail : isTail c = true) (tail' : isTail d = true) :
    String.utf8EncodeChar (Char.ofNat
      (((a.toNat % 8 * 64 + tailBits b) * 64 + tailBits c) * 64 + tailBits d)) = [a, b, c, d] := by
  simp only [UInt8.lt_iff_toNat_lt, UInt8.reduceToNat] at lead
  obtain ⟨second, -, -, low, high⟩ := bounds_of_mayFollow follows
  have hb := bounds_of_isTail second
  have hc := bounds_of_isTail tail
  have hd := bounds_of_isTail tail'
  generalize hn : ((a.toNat % 8 * 64 + tailBits b) * 64 + tailBits c) * 64 + tailBits d = n
  have hv : (Char.ofNat n).val.toNat = n := toNat_ofNat (Or.inr (by omega))
  have ha : n / 262144 % 8 + 240 = a.toNat := by omega
  have hb' : n / 4096 % 64 + 128 = b.toNat := by omega
  have hc' : n / 64 % 64 + 128 = c.toNat := by omega
  have hd' : n % 64 + 128 = d.toNat := by omega
  unfold String.utf8EncodeChar
  rw [hv, if_neg (by omega), if_neg (by omega), if_neg (by omega), ha, hb', hc', hd',
    UInt8.ofNat_toNat, UInt8.ofNat_toNat, UInt8.ofNat_toNat, UInt8.ofNat_toNat]

/-- A character that is found was written there. -/
theorem encode_scan {ch : Char} {width : Nat} (h : scan s = .char ch width rest) :
    s = String.utf8EncodeChar ch ++ rest := by
  unfold scan at h
  (repeat' split at h) <;> cases h
  · next lead =>
    rw [encode_one lead]
    rfl
  · next low high _ b tail =>
    rw [encode_two ⟨low, high⟩ tail]
    rfl
  · next low high _ b follows _ c tail =>
    rw [encode_three ⟨low, high⟩ follows tail]
    rfl
  · next low high _ b follows _ c tail _ d tail' =>
    rw [encode_four ⟨low, high⟩ follows tail tail']
    rfl

/-! ## Texts -/

theorem decodeFrom_encode (offset : Nat) (before cs : List Char) :
    decodeFrom offset before (cs.flatMap String.utf8EncodeChar) = .ok (before.reverse ++ cs) := by
  induction cs generalizing offset before with
  | nil =>
    rw [List.flatMap_nil, List.append_nil, decodeFrom]
    rfl
  | cons ch cs ih =>
    rw [List.flatMap_cons, decodeFrom]
    split
    · next h => simp [scan_encode] at h
    · next h =>
      rw [scan_encode] at h
      obtain ⟨rfl, rfl, rfl⟩ := Scan.char.inj h
      rw [ih, List.reverse_cons, List.append_assoc]
      rfl
    · next h => simp [scan_encode] at h
    · next h => simp [scan_encode] at h

theorem scan_done (h : scan s = .done) : s = [] := by
  unfold scan at h
  (repeat' split at h) <;> first | rfl | cases h

theorem encode_decodeFrom {offset : Nat} {before cs : List Char}
    (h : decodeFrom offset before s = .ok cs) :
    ∃ more, cs = before.reverse ++ more ∧ s = more.flatMap String.utf8EncodeChar := by
  fun_induction decodeFrom offset before s with
  | case1 offset before s e =>
    obtain rfl := Except.ok.inj h
    exact ⟨[], (List.append_nil _).symm, scan_done e⟩
  | case2 offset before s ch width rest e _ ih =>
    obtain ⟨more, rfl, rest⟩ := ih h
    refine ⟨ch :: more, by simp, ?_⟩
    rw [encode_scan e, rest, List.flatMap_cons]
  | case3 => simp at h
  | case4 => simp at h

/-- Octets write just the characters that they are read as. -/
theorem decode_eq_ok {cs : List Char} :
    decode s = .ok cs ↔ s = cs.flatMap String.utf8EncodeChar := by
  constructor
  · intro h
    obtain ⟨more, rfl, e⟩ := encode_decodeFrom h
    exact e
  · rintro rfl
    exact decodeFrom_encode 0 [] cs

theorem decode_nil : decode [] = .ok [] :=
  decode_eq_ok.2 rfl

theorem encode_inj {a b : Char} (same : String.utf8EncodeChar a = String.utf8EncodeChar b) :
    a = b := by
  have read (ch : Char) : decode (String.utf8EncodeChar ch) = .ok [ch] :=
    decode_eq_ok.2 (by rw [List.flatMap_singleton])
  have chars : Except.ok [a] = (.ok [b] : Except Fault _) := by rw [← read, ← read, same]
  exact List.singleton_inj.1 (Except.ok.inj chars)

/-- A text is cut in two at an ASCII octet. -/
theorem decode_cut {s t : Octets} {b : UInt8} {cs : List Char} (ascii : b.toNat < 128)
    (read : decode (s ++ b :: t) = .ok cs) : ∃ front ch behind, cs = front ++ ch :: behind ∧
      decode s = .ok front ∧ String.utf8EncodeChar ch = [b] ∧ decode t = .ok behind := by
  simp only [decode_eq_ok] at read ⊢
  induction cs generalizing s with
  | nil => simp at read
  | cons ch cs ih =>
    have behind {u : Octets} (rest : cs.flatMap String.utf8EncodeChar = u ++ b :: t)
        (whole : s = String.utf8EncodeChar ch ++ u) :
        ∃ front ch' behind, ch :: cs = front ++ ch' :: behind ∧
          s = front.flatMap String.utf8EncodeChar ∧ String.utf8EncodeChar ch' = [b] ∧
          t = behind.flatMap String.utf8EncodeChar := by
      obtain ⟨front, ch', behind, rfl, rfl, one, rfl⟩ := ih rest.symm
      exact ⟨ch :: front, ch', behind, rfl, whole, one, rfl⟩
    rw [List.flatMap_cons] at read
    rcases List.append_eq_append_iff.1 read with ⟨rest, first, split⟩ | ⟨rest, whole, split⟩
    · cases rest with
      | nil => exact behind (u := []) split.symm (by simp [first])
      | cons b' more =>
        obtain ⟨rfl, rfl⟩ := List.cons.inj split
        rcases Nat.lt_or_ge 0x7f ch.toNat with large | small
        · have octet := encode_large large b (by rw [first]; simp)
          exact absurd octet (Nat.not_le_of_lt ascii)
        · rw [encode_small small] at first
          obtain ⟨rfl, one⟩ := List.append_eq_singleton_iff.1 first.symm |>.resolve_right (by simp)
          obtain ⟨same, rfl⟩ := List.cons.inj one
          exact ⟨[], ch, cs, rfl, rfl, (encode_small small).trans (by rw [same]), rfl⟩
    · exact behind split whole

theorem decode_join {s t : Octets} {b : UInt8} {front behind : List Char} {ch : Char}
    (hs : decode s = .ok front) (one : String.utf8EncodeChar ch = [b])
    (ht : decode t = .ok behind) : decode (s ++ b :: t) = .ok (front ++ ch :: behind) := by
  rw [decode_eq_ok] at hs ht ⊢
  rw [List.flatMap_append, List.flatMap_cons, one, hs, ht]
  rfl

/-- A text comes back from its octets. -/
theorem text?_ofText (text : String) : text? (Octets.ofText text) = some text := by
  have decoded : decode (Octets.ofText text) = .ok text.toList := decode_eq_ok.2 rfl
  rw [text?, decoded]
  exact congrArg some String.ofList_toList

theorem ofText_ne_nil {text : String} (h : text ≠ "") : Octets.ofText text ≠ [] := by
  intro empty
  have back : some "" = some text := by
    rw [← text?_ofText text, empty]
    exact (text?_ofText "").symm
  exact h (Option.some.inj back).symm

end Sluice.Utf8

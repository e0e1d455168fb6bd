import Mathlib.Data.List.TakeDrop
import Sluice.Destination.Target

/-
  Addresses written out and read back. A number is read as far as its digits go, so an address is
  read off the front of a text that goes on with no digit (`Ipv4.read_text`,
  `Ipv6.readGroups_text`). An IPv6 address has more than one text: one in groups alone, with its
  longest run of zeros left out, and one that ends in an IPv4 address. Both are read as the address
  (`Ipv6.parse_groupText`, `Ipv6.parse_text`).
-/

namespace Sluice

/-- What holds of every ASCII code holds of every ASCII character. -/
theorem forall_ascii {P : Char → Prop} (h : ∀ n < 128, P (Char.ofNat n)) {c : Char}
    (ascii : c.toNat < 128) : P c := by
  have code := h c.toNat ascii
  rwa [Char.ofNat_toNat] at code

/-! ## Numbers -/

namespace Digits

variable {base n : Nat} {digits rest : List Char}

theorem value_digitChar (small : base ≤ 16) (h : n < base) :
    value? base (Nat.digitChar n) = some n := by
  have hex : ∀ n < 16, value? 16 (Nat.digitChar n) = some n := by decide
  obtain ⟨value, -⟩ := Option.filter_eq_some_iff.1 (hex n (Nat.lt_of_lt_of_le h small))
  exact Option.filter_eq_some_iff.2 ⟨value, decide_eq_true h⟩

theorem ofNat_eq_if (two : 1 < base) (n : Nat) : ofNat base n =
    if n < base then [Nat.digitChar n] else ofNat base (n / base) ++ [Nat.digitChar (n % base)] :=
  Nat.toDigits_eq_if two

theorem toNat_concat (digits : List Char) (c : Char) :
    toNat base (digits ++ [c]) = toNat base digits * base + (value? base c).getD 0 := by
  simp [toNat]

theorem toNat_ofNat (two : 1 < base) (small : base ≤ 16) (n : Nat) :
    toNat base (ofNat base n) = n := by
  induction n using Nat.strongRecOn with
  | ind n ih =>
    rw [ofNat_eq_if two]
    split
    · next last => simp [toNat, value_digitChar small last]
    · next more =>
      have less : n / base < n := Nat.div_lt_self (by omega) two
      rw [toNat_concat, ih _ less, value_digitChar small (Nat.mod_lt n (by omega)),
        Option.getD_some, Nat.div_add_mod']

/-- What is so of every digit is so of every character of a number. -/
theorem forall_ofNat (two : 1 < base) {P : Char → Prop} (digit : ∀ k < base, P (Nat.digitChar k))
    (n : Nat) : ∀ c ∈ ofNat base n, P c := by
  induction n using Nat.strongRecOn with
  | ind n ih =>
    rw [ofNat_eq_if two]
    intro c mem
    split at mem
    · next last =>
      rw [List.mem_singleton.1 mem]
      exact digit n last
    · next more =>
      have less : n / base < n := Nat.div_lt_self (by omega) two
      rcases List.mem_append.1 mem with mem | mem
      · exact ih _ less c mem
      · rw [List.mem_singleton.1 mem]
        exact digit _ (Nat.mod_lt n (by omega))

theorem isSome_value (two : 1 < base) (small : base ≤ 16) (n : Nat) :
    ∀ c ∈ ofNat base n, (value? base c).isSome :=
  forall_ofNat two (fun k h => by rw [value_digitChar small h]; rfl) n

theorem ofNat_ne_nil (base n : Nat) : ofNat base n ≠ [] :=
  Nat.toDigits_ne_nil

/-- Only zero has a leading zero. -/
theorem head_ofNat (two : 1 < base) (small : base ≤ 16) (positive : 0 < n) :
    (ofNat base n).head? ≠ some '0' := by
  induction n using Nat.strongRecOn with
  | ind n ih =>
    rw [ofNat_eq_if two]
    split
    · next last =>
      intro zero
      have same : Nat.digitChar n = '0' := Option.some.inj zero
      have zero : value? base (Nat.digitChar 0) = some 0 := value_digitChar small (by omega)
      have value := value_digitChar small last
      rw [same] at value
      exact absurd (Option.some.inj (zero.symm.trans value)) (Nat.ne_of_lt positive)
    · next more =>
      have less : n / base < n := Nat.div_lt_self (by omega) two
      rw [List.head?_append, Option.or_of_isSome (List.isSome_head?.2 (ofNat_ne_nil _ _))]
      exact ih _ less (Nat.div_pos (by omega) (by omega))

/-- No digit stands at the front. -/
def Stops (base : Nat) (rest : List Char) : Prop :=
  ∀ c ∈ rest.head?, value? base c = none

theorem stops_nil : Stops base [] :=
  nofun

theorem stops_cons {c : Char} (h : value? base c = none) (rest : List Char) :
    Stops base (c :: rest) := by
  intro c' mem
  obtain rfl := Option.some.inj mem
  exact h

theorem take_append (all : ∀ c ∈ digits, (value? base c).isSome) (stops : Stops base rest) :
    take base (digits ++ rest) = (digits, rest) := by
  rw [take, List.span_eq_takeWhile_dropWhile, List.takeWhile_append_of_pos all,
    List.dropWhile_append_of_pos all]
  cases rest with
  | nil => simp
  | cons c rest =>
    have stop : (value? base c).isSome = false := by rw [stops c rfl]; rfl
    rw [List.takeWhile_cons_of_neg (by simp [stop]), List.dropWhile_cons_of_neg (by simp [stop]),
      List.append_nil]

theorem take_ofNat (two : 1 < base) (small : base ≤ 16) (n : Nat) (stops : Stops base rest) :
    take base (ofNat base n ++ rest) = (ofNat base n, rest) :=
  take_append (isSome_value two small n) stops

/-- What is taken are digits. -/
theorem of_take {s : List Char} (h : take base s = (digits, rest)) :
    s = digits ++ rest ∧ ∀ c ∈ digits, (value? base c).isSome := by
  rw [take, List.span_eq_takeWhile_dropWhile] at h
  obtain ⟨rfl, rfl⟩ := Prod.mk.inj h
  exact ⟨List.takeWhile_append_dropWhile.symm, List.all_eq_true.1 List.all_takeWhile⟩

end Digits

open Digits (Stops)

/-! ## IPv4 addresses -/

namespace Ipv4

variable {s rest : List Char}

theorem toList_text (ip : Ipv4) : ip.text.toList =
    Digits.ofNat 10 ip.a.toNat ++ '.' :: (Digits.ofNat 10 ip.b.toNat ++
      '.' :: (Digits.ofNat 10 ip.c.toNat ++ '.' :: Digits.ofNat 10 ip.d.toNat)) := by
  show (toString ip.a.toNat ++ "." ++ toString ip.b.toNat ++ "." ++ toString ip.c.toNat ++ "." ++
    toString ip.d.toNat).toList = _
  simp [Digits.ofNat]

theorem forall_text {P : Char → Prop} (dot : P '.') (digit : ∀ k < 10, P (Nat.digitChar k))
    (ip : Ipv4) : ∀ c ∈ ip.text.toList, P c := by
  have digits := Digits.forall_ofNat (by decide) digit
  rw [toList_text]
  simp only [List.forall_mem_append, List.forall_mem_cons]
  exact ⟨digits _, dot, digits _, dot, digits _, dot, digits _⟩

theorem readPart_ofNat (b : UInt8) (stops : Stops 10 rest) :
    readPart (Digits.ofNat 10 b.toNat ++ rest) = some (b, rest) := by
  have bound : b.toNat < 256 := b.toNat_lt
  have filled : (Digits.ofNat 10 b.toNat).isEmpty = false :=
    List.isEmpty_eq_false_iff.2 (Digits.ofNat_ne_nil _ _)
  have short : (Digits.ofNat 10 b.toNat).length ≤ 3 :=
    (Nat.length_toDigits_le_iff (by decide) (by decide)).2 (by omega)
  have proper : ((Digits.ofNat 10 b.toNat).head? == some '0' &&
      1 < (Digits.ofNat 10 b.toNat).length) = false := by
    rcases Nat.eq_zero_or_pos b.toNat with zero | positive
    · rw [zero]
      rfl
    · have := Digits.head_ofNat (by decide : 1 < 10) (by decide) positive
      rw [beq_false_of_ne this]
      rfl
  unfold readPart
  rw [Digits.take_ofNat (by decide) (by decide) _ stops]
  dsimp only
  rw [Digits.toNat_ofNat (by decide) (by decide), filled, proper,
    decide_eq_false (Nat.not_lt.2 short), decide_eq_false (Nat.not_le.2 bound)]
  simp

theorem readDotPart_ofNat (b : UInt8) (stops : Stops 10 rest) :
    readDotPart ('.' :: (Digits.ofNat 10 b.toNat ++ rest)) = some (b, rest) :=
  readPart_ofNat b stops

/-- An address at the front of a text that goes on with no digit. -/
theorem read_text (ip : Ipv4) (stops : Stops 10 rest) :
    read (ip.text.toList ++ rest) = some (ip, rest) := by
  have dot (s : List Char) : Stops 10 ('.' :: s) := Digits.stops_cons (by decide) s
  rw [toList_text]
  simp only [List.append_assoc, List.cons_append, read, readPart_ofNat _ (dot _),
    readDotPart_ofNat _ (dot _), readDotPart_ofNat _ stops, Option.bind_eq_bind, Option.bind_some]
  rfl

theorem of_readPart {b : UInt8} (h : readPart s = some (b, rest)) :
    ∃ digits, s = digits ++ rest ∧ ∀ c ∈ digits, (Digits.value? 10 c).isSome := by
  unfold readPart at h
  cases taken : Digits.take 10 s with
  | mk digits rest' =>
    rw [taken] at h
    dsimp only at h
    split at h
    · cases h
    · obtain ⟨-, rfl⟩ := Prod.mk.inj (Option.some.inj h)
      exact ⟨digits, Digits.of_take taken⟩

theorem of_readDotPart {b : UInt8} (h : readDotPart s = some (b, rest)) :
    ∃ digits, s = '.' :: digits ++ rest ∧ ∀ c ∈ digits, (Digits.value? 10 c).isSome := by
  unfold readDotPart at h
  split at h
  · obtain ⟨digits, rfl, all⟩ := of_readPart h
    exact ⟨digits, rfl, all⟩
  · cases h

/-- The text of an address has full stops and otherwise digits. -/
theorem of_read {ip : Ipv4} (h : read s = some (ip, rest)) : ∃ front, s = front ++ rest ∧
    '.' ∈ front ∧ ∀ c ∈ front, c = '.' ∨ (Digits.value? 10 c).isSome := by
  obtain ⟨⟨a, s₁⟩, ha, h⟩ := Option.bind_eq_some_iff.1 h
  obtain ⟨⟨b, s₂⟩, hb, h⟩ := Option.bind_eq_some_iff.1 h
  obtain ⟨⟨c, s₃⟩, hc, h⟩ := Option.bind_eq_some_iff.1 h
  obtain ⟨⟨d, s₄⟩, hd, h⟩ := Option.bind_eq_some_iff.1 h
  obtain ⟨-, rfl⟩ := Prod.mk.inj (Option.some.inj h)
  obtain ⟨da, rfl, alla⟩ := of_readPart ha
  obtain ⟨db, rfl, allb⟩ := of_readDotPart hb
  obtain ⟨dc, rfl, allc⟩ := of_readDotPart hc
  obtain ⟨dd, rfl, alld⟩ := of_readDotPart hd
  refine ⟨da ++ ('.' :: db ++ ('.' :: dc ++ '.' :: dd)), by simp, by simp, fun ch mem => ?_⟩
  simp only [List.mem_append, List.mem_cons] at mem
  rcases mem with mem | (rfl | mem) | (rfl | mem) | rfl | mem
  · exact Or.inr (alla ch mem)
  · exact Or.inl rfl
  · exact Or.inr (allb ch mem)
  · exact Or.inl rfl
  · exact Or.inr (allc ch mem)
  · exact Or.inl rfl
  · exact Or.inr (alld ch mem)

theorem read_dotless (dotless : '.' ∉ s) : read s = none := by
  cases h : read s with
  | none => rfl
  | some found =>
    obtain ⟨front, rfl, dot, -⟩ := of_read (show _ = some (found.1, found.2) from h)
    exact absurd (List.mem_append_left _ dot) dotless

theorem read_stops (stops : Stops 10 s) : read s = none := by
  have nothing : Digits.take 10 ([] ++ s) = ([], s) := Digits.take_append nofun stops
  rw [List.nil_append] at nothing
  have part : readPart s = none := by
    rw [readPart, nothing]
    rfl
  rw [read, part]
  rfl

theorem read_colon (s : List Char) : read (':' :: s) = none :=
  read_stops (Digits.stops_cons (by decide) s)

/-- An address is read from its text. -/
theorem read_toList_text (ip : Ipv4) : read ip.text.toList = some (ip, []) := by
  have read := read_text ip Digits.stops_nil
  rwa [List.append_nil] at read

end Ipv4

/-! ## IPv6 addresses -/

namespace Ipv6

open Ipv4 (read_dotless)

variable {rest : List Char}

/-- The digits of a group. -/
def groupDigits (g : UInt16) : List Char :=
  Digits.ofNat 16 g.toNat

/-- Groups with a colon in front of each. -/
def colonGroups (groups : List UInt16) : List Char :=
  groups.flatMap fun g => ':' :: groupDigits g

theorem toList_groupsText (g : UInt16) (groups : List UInt16) :
    (groupsText (g :: groups)).toList = groupDigits g ++ colonGroups groups := by
  unfold groupsText
  rw [String.toList_intercalate]
  induction groups generalizing g with
  | nil => simp [groupDigits, colonGroups]
  | cons g' groups ih =>
    have ih := ih g'
    simp only [List.map_cons, List.map_map] at ih ⊢
    rw [List.intercalate_cons_cons, ih, String.toList_ofList]
    simp [colonGroups, groupDigits]

theorem readGroup_groupDigits (g : UInt16) (stops : Stops 16 rest) :
    readGroup (groupDigits g ++ rest) = some (g, rest) := by
  have bound : g.toNat < 65536 := g.toNat_lt
  have filled : (groupDigits g).isEmpty = false :=
    List.isEmpty_eq_false_iff.2 (Digits.ofNat_ne_nil _ _)
  have short : (groupDigits g).length ≤ 4 :=
    (Nat.length_toDigits_le_iff (by decide) (by decide)).2 (by omega)
  unfold readGroup
  rw [groupDigits, Digits.take_ofNat (by decide) (by decide) _ stops, ← groupDigits]
  dsimp only
  rw [filled, decide_eq_false (Nat.not_lt.2 short), groupDigits,
    Digits.toNat_ofNat (by decide) (by decide)]
  simp

/-- What may stand behind groups: nothing, or zeros that were left out. -/
def Ends (rest : List Char) : Prop :=
  rest = [] ∨ ∃ more, rest = ':' :: ':' :: more

theorem readGroup_stops (stops : Stops 16 rest) : readGroup rest = none := by
  have nothing : Digits.take 16 ([] ++ rest) = ([], rest) := Digits.take_append nofun stops
  rw [List.nil_append] at nothing
  rw [readGroup, nothing]
  rfl

theorem Ends.stops (ends : Ends rest) : Stops 16 rest := by
  rcases ends with rfl | ⟨more, rfl⟩
  · exact Digits.stops_nil
  · exact Digits.stops_cons (by decide) _

theorem Ends.readGroups (ends : Ends rest) (first : Bool) (limit : Nat) :
    readGroups first limit rest = ⟨[], false, rest⟩ := by
  have colon (s : List Char) : (if limit - 1 = 0 then none else Ipv4.read (':' :: s)) = none := by
    rw [Ipv4.read_colon, ite_self]
  have group (s : List Char) : readGroup (':' :: s) = none :=
    readGroup_stops (Digits.stops_cons (by decide) s)
  cases limit with
  | zero => rfl
  | succ limit =>
    rw [Nat.add_sub_cancel] at colon
    rcases ends with rfl | ⟨more, rfl⟩
    · cases first
      · rfl
      · cases limit <;> rfl
    · cases first
      · simp [Ipv6.readGroups, afterColon?, colon, group]
      · simp [Ipv6.readGroups, afterColon?, colon, group]

theorem groupDigits_dotless (g : UInt16) : '.' ∉ groupDigits g := by
  intro dot
  exact absurd (Digits.isSome_value (by decide : 1 < 16) (by decide) _ '.' dot) (by decide)

theorem colonGroups_dotless (groups : List UInt16) : '.' ∉ colonGroups groups := by
  intro dot
  obtain ⟨g, -, dot⟩ := List.mem_flatMap.1 dot
  rcases List.mem_cons.1 dot with dot | dot
  · exact absurd dot (by decide)
  · exact groupDigits_dotless g dot

/-- One group, and what is read behind it. -/
theorem readGroups_cons {first : Bool} {s tail : List Char} {g : UInt16} (limit : Nat)
    (front : afterColon? first s = some (groupDigits g ++ tail))
    (noIpv4 : Ipv4.read (groupDigits g ++ tail) = none) (stops : Stops 16 tail) :
    readGroups first (limit + 1) s =
      ⟨g :: (readGroups false limit tail).groups, (readGroups false limit tail).endsInIpv4,
        (readGroups false limit tail).rest⟩ := by
  rw [readGroups, front]
  simp only [noIpv4, ite_self, readGroup_groupDigits g stops]

theorem read_colonGroups (g : UInt16) (groups : List UInt16) (dotless : '.' ∉ rest) :
    Ipv4.read (groupDigits g ++ (colonGroups groups ++ rest)) = none := by
  refine read_dotless fun dot => ?_
  rcases List.mem_append.1 dot with dot | dot
  · exact groupDigits_dotless g dot
  · exact (List.mem_append.1 dot).elim (colonGroups_dotless groups) dotless

theorem stops_colonGroups (groups : List UInt16) (ends : Ends rest) :
    Stops 16 (colonGroups groups ++ rest) := by
  cases groups with
  | nil => exact ends.stops
  | cons g groups => exact Digits.stops_cons (by decide) _

theorem readGroups_colonGroups {groups : List UInt16} {limit : Nat} (fits : groups.length ≤ limit)
    (dotless : '.' ∉ rest) (ends : Ends rest) :
    readGroups false limit (colonGroups groups ++ rest) = ⟨groups, false, rest⟩ := by
  induction groups generalizing limit with
  | nil => exact ends.readGroups false limit
  | cons g groups ih =>
    obtain ⟨limit, rfl⟩ := Nat.exists_eq_add_one_of_ne_zero (Nat.ne_zero_of_lt fits)
    have front : afterColon? false (colonGroups (g :: groups) ++ rest) =
        some (groupDigits g ++ (colonGroups groups ++ rest)) := by
      simp [colonGroups, afterColon?]
    rw [readGroups_cons limit front (read_colonGroups g groups dotless)
      (stops_colonGroups groups ends),
      ih (Nat.le_of_succ_le_succ fits)]

/-- Groups at the front of a text. -/
theorem readGroups_text {groups : List UInt16} {limit : Nat} (fits : groups.length ≤ limit)
    (dotless : '.' ∉ rest) (ends : Ends rest) :
    readGroups true limit ((groupsText groups).toList ++ rest) = ⟨groups, false, rest⟩ := by
  cases groups with
  | nil => exact ends.readGroups true limit
  | cons g groups =>
    obtain ⟨limit, rfl⟩ := Nat.exists_eq_add_one_of_ne_zero (Nat.ne_zero_of_lt fits)
    have front : afterColon? true ((groupsText (g :: groups)).toList ++ rest) =
        some (groupDigits g ++ (colonGroups groups ++ rest)) := by
      simp [toList_groupsText, afterColon?]
    rw [readGroups_cons limit front (read_colonGroups g groups dotless)
      (stops_colonGroups groups ends),
      readGroups_colonGroups (Nat.le_of_succ_le_succ fits) dotless ends]

theorem readGroups_groupsText {groups : List UInt16} {limit : Nat}
    (fits : groups.length ≤ limit) :
    readGroups true limit (groupsText groups).toList = ⟨groups, false, []⟩ := by
  have read := readGroups_text fits List.not_mem_nil (Or.inl rfl)
  rwa [List.append_nil] at read

theorem groupsText_dotless (groups : List UInt16) : '.' ∉ (groupsText groups).toList := by
  cases groups with
  | nil => exact List.not_mem_nil
  | cons g groups =>
    rw [toList_groupsText]
    exact fun dot =>
      (List.mem_append.1 dot).elim (groupDigits_dotless g) (colonGroups_dotless groups)

/-! ### Zeros left out -/

/-- Does a run of zeros stand at this place? -/
def ZerosAt (groups : List UInt16) (run : Nat × Nat) : Prop :=
  groups = groups.take run.1 ++ List.replicate run.2 0 ++ groups.drop (run.1 + run.2)

theorem zeros_front (groups : List UInt16) :
    groups = List.replicate (zeros groups) 0 ++ groups.drop (zeros groups) := by
  fun_induction zeros groups with
  | case1 rest ih => rw [List.replicate_succ, List.drop_succ_cons, List.cons_append, ← ih]
  | case2 => rfl

theorem zerosAt_longestZeros {whole groups : List UInt16} {index : Nat} {best : Nat × Nat}
    (place : whole.drop index = groups) (known : ZerosAt whole best) :
    ZerosAt whole (longestZeros index best groups) := by
  induction groups generalizing index best with
  | nil => exact known
  | cons g rest ih =>
    have here : ZerosAt whole (index, zeros (g :: rest)) := by
      unfold ZerosAt
      rw [List.append_assoc, ← List.drop_drop, place, ← zeros_front, ← place,
        List.take_append_drop]
    have next : whole.drop (index + 1) = rest := by
      rw [← List.drop_drop, place]
      rfl
    unfold longestZeros
    refine ih next ?_
    split
    · exact here
    · exact known

theorem ZerosAt.length {groups : List UInt16} {run : Nat × Nat} (h : ZerosAt groups run) :
    run.2 = 0 ∨ run.1 + run.2 ≤ groups.length := by
  have := congrArg List.length h
  simp only [List.length_append, List.length_take, List.length_replicate, List.length_drop] at this
  omega

/-- Groups on both sides of zeros that were left out. -/
theorem parse_zeros {ip : Ipv6} {s t : List Char} {left right : List UInt16} {endsInIpv4 : Bool}
    (front : readGroups true 8 s = ⟨left, false, ':' :: ':' :: t⟩) (short : left.length < 8)
    (back : readGroups true (8 - (left.length + 1)) t = ⟨right, endsInIpv4, []⟩)
    (whole : ip.groups =
      left ++ List.replicate (8 - left.length - right.length) 0 ++ right) :
    parse? s = some ip := by
  have address : ofGroups? ip.groups = some ip := dif_pos ip.length_groups
  rw [whole] at address
  have read : read s = some (ip, []) := by
    unfold Ipv6.read
    simp only [front, back, address]
    rw [dif_neg (Nat.ne_of_lt short)]
    rfl
  rw [parse?, read]

/-- The text in groups alone is read as the address. -/
theorem parse_groupText (ip : Ipv6) : parse? ip.groupText.toList = some ip := by
  have zeros : ZerosAt ip.groups (longestZeros 0 (0, 0) ip.groups) :=
    zerosAt_longestZeros List.drop_zero rfl
  have eight := ip.length_groups
  unfold groupText
  generalize longestZeros 0 (0, 0) ip.groups = run at zeros
  obtain ⟨start, length⟩ := run
  dsimp only
  split
  · have read : read (groupsText ip.groups).toList = some (ip, []) := by
      unfold Ipv6.read
      simp only [readGroups_groupsText (Nat.le_of_eq eight)]
      rw [dif_pos eight]
    rw [parse?, read]
  · next many =>
    have inside : start + length ≤ 8 := by
      have := zeros.length
      dsimp only at this
      omega
    have left : (ip.groups.take start).length = start := by
      rw [List.length_take]
      omega
    have right : (ip.groups.drop (start + length)).length = 8 - (start + length) := by
      rw [List.length_drop, eight]
    have dotless : '.' ∉ ':' :: ':' :: (groupsText (ip.groups.drop (start + length))).toList := by
      simp [groupsText_dotless]
    have front := readGroups_text (by omega : (ip.groups.take start).length ≤ 8) dotless
      (Or.inr ⟨_, rfl⟩)
    have shape : (groupsText (ip.groups.take start) ++ "::" ++
        groupsText (ip.groups.drop (start + length))).toList =
        (groupsText (ip.groups.take start)).toList ++
          ':' :: ':' :: (groupsText (ip.groups.drop (start + length))).toList := by
      simp
    rw [shape]
    refine parse_zeros front (by omega) (readGroups_groupsText (by omega)) ?_
    have count : 8 - start - (8 - (start + length)) = length := by omega
    rw [left, right, count]
    exact zeros

/-! ### Addresses that stand for others -/

/-- The octets of a group make the group. -/
theorem group_octets (g : UInt16) :
    group (UInt8.ofNat (g.toNat / 256)) (UInt8.ofNat g.toNat) = g := by
  have bound : g.toNat < 65536 := g.toNat_lt
  have high : (UInt8.ofNat (g.toNat / 256)).toNat = g.toNat / 256 :=
    UInt8.toNat_ofNat_of_lt (show _ < 256 by omega)
  have low : (UInt8.ofNat g.toNat).toNat = g.toNat % 256 := UInt8.toNat_ofNat'
  rw [group, high, low, Nat.div_add_mod', UInt16.ofNat_toNat]

/-- An IPv4 address in the last two groups, as a text shows it. -/
theorem readGroups_ipv4 (v4 : Ipv4) : readGroups true 7 ("ffff:".toList ++ v4.text.toList) =
    ⟨[0xffff, group v4.a v4.b, group v4.c v4.d], true, []⟩ := by
  have digits : groupDigits 0xffff = "ffff".toList := by decide
  have front : afterColon? true ("ffff:".toList ++ v4.text.toList) =
      some (groupDigits 0xffff ++ ':' :: v4.text.toList) := by
    rw [digits]
    rfl
  have noIpv4 : Ipv4.read (groupDigits 0xffff ++ ':' :: v4.text.toList) = none := by
    rw [digits]
    exact Ipv4.read_stops (Digits.stops_cons (by decide) _)
  rw [readGroups_cons 6 front noIpv4 (Digits.stops_cons (by decide) _)]
  simp [readGroups, afterColon?, Ipv4.read_toList_text]

/-- The text is read as the address, also where it shows an IPv4 address. -/
theorem parse_text (ip : Ipv6) : parse? ip.text.toList = some ip := by
  unfold text
  split
  · next v4 mapped =>
    unfold mapped? at mapped
    split at mapped
    · next g h groups =>
      have shape : ("::ffff:" ++ v4.text).toList =
          ':' :: ':' :: ("ffff:".toList ++ v4.text.toList) := by
        rw [String.toList_append]
        rfl
      have left := Ends.readGroups (Or.inr ⟨_, rfl⟩ : Ends (':' :: ':' ::
        ("ffff:".toList ++ v4.text.toList))) true 8
      show parse? ("::ffff:" ++ v4.text).toList = some ip
      rw [shape]
      refine parse_zeros left (by decide) (readGroups_ipv4 v4) ?_
      obtain rfl := Option.some.inj mapped
      rw [groups, group_octets, group_octets]
      rfl
    · cases mapped
  · exact parse_groupText ip

/-! ### Texts without colons -/

theorem readGroups_colonless {s : List Char} (colonless : ':' ∉ s) (limit : Nat) :
    readGroups false limit s = ⟨[], false, s⟩ := by
  cases limit with
  | zero => rfl
  | succ limit =>
    cases s with
    | nil => rfl
    | cons c s =>
      have other : c ≠ ':' := fun colon => colonless (colon ▸ List.mem_cons_self)
      simp [readGroups, afterColon?, other]

theorem of_readGroup {s : List Char} {g : UInt16} (h : readGroup s = some (g, rest)) :
    ∃ digits, s = digits ++ rest ∧ ∀ c ∈ digits, (Digits.value? 16 c).isSome := by
  unfold readGroup at h
  cases taken : Digits.take 16 s with
  | mk digits rest' =>
    rw [taken] at h
    dsimp only at h
    split at h
    · cases h
    · obtain ⟨-, rfl⟩ := Prod.mk.inj (Option.some.inj h)
      exact ⟨digits, Digits.of_take taken⟩

/-- A text without colons has two groups at most, and then it ends in an IPv4 address. -/
theorem groups_colonless {s : List Char} (colonless : ':' ∉ s) :
    (readGroups true 8 s).groups.length ≠ 8 ∧
      ((readGroups true 8 s).endsInIpv4 = true ∨ ':' ∉ (readGroups true 8 s).rest) := by
  have front : afterColon? true s = some s := rfl
  rw [readGroups, front]
  cases v4 : Ipv4.read s with
  | some found => simp [v4]
  | none =>
    cases group : readGroup s with
    | none => simp [v4, group, colonless]
    | some found =>
      obtain ⟨g, rest⟩ := found
      obtain ⟨digits, rfl, -⟩ := of_readGroup group
      have behind : ':' ∉ rest := fun colon => colonless (List.mem_append_right _ colon)
      simp [v4, group, readGroups_colonless behind, behind]

/-- A text without colons is no address. -/
theorem parse_colonless {s : List Char} (colonless : ':' ∉ s) : parse? s = none := by
  obtain ⟨few, ends⟩ := groups_colonless colonless
  have nothing : read s = none := by
    unfold read
    dsimp only
    rw [dif_neg few]
    split
    · rfl
    · next notIpv4 =>
      split
      · next rest =>
        have := ends.resolve_left notIpv4
        rw [rest] at this
        exact absurd List.mem_cons_self this
      · rfl
  rw [parse?, nothing]

theorem groupText_dotless (ip : Ipv6) : '.' ∉ ip.groupText.toList := by
  unfold groupText
  dsimp only
  split
  · exact groupsText_dotless _
  · simp [groupsText_dotless]

/-- No text of an address is read as an IPv4 address. -/
theorem read_ipv4_text (ip : Ipv6) : Ipv4.read ip.text.toList = none := by
  unfold text
  split
  · next v4 _ =>
    show Ipv4.read ("::ffff:" ++ v4.text).toList = none
    rw [String.toList_append]
    exact Ipv4.read_colon _
  · exact read_dotless (groupText_dotless ip)

end Ipv6

/-! ## Characters of addresses -/

namespace Ipv6

variable {P : Char → Prop}

theorem forall_groupsText (colon : P ':') (digit : ∀ k < 16, P (Nat.digitChar k))
    (groups : List UInt16) : ∀ c ∈ (groupsText groups).toList, P c := by
  have digits (g : UInt16) : ∀ c ∈ groupDigits g, P c := Digits.forall_ofNat (by decide) digit _
  cases groups with
  | nil => exact fun c mem => absurd mem List.not_mem_nil
  | cons g groups =>
    rw [toList_groupsText]
    refine List.forall_mem_append.2 ⟨digits g, fun c mem => ?_⟩
    obtain ⟨g', -, mem⟩ := List.mem_flatMap.1 mem
    exact List.forall_mem_cons.2 ⟨colon, digits g'⟩ c mem

theorem forall_groupText (colon : P ':') (digit : ∀ k < 16, P (Nat.digitChar k)) (ip : Ipv6) :
    ∀ c ∈ ip.groupText.toList, P c := by
  have groups := forall_groupsText colon digit
  unfold groupText
  dsimp only
  split
  · exact groups _
  · have colons : ∀ c ∈ "::".toList, P c :=
      List.forall_mem_cons.2 ⟨colon, List.forall_mem_singleton.2 colon⟩
    simp only [String.toList_append, List.forall_mem_append]
    exact ⟨⟨groups _, colons⟩, groups _⟩

theorem forall_text (colon : P ':') (dot : P '.') (digit : ∀ k < 16, P (Nat.digitChar k))
    (ip : Ipv6) : ∀ c ∈ ip.text.toList, P c := by
  unfold text
  split
  · next v4 _ =>
    have f : P 'f' := digit 15 (by decide)
    have front : ∀ c ∈ "::ffff:".toList, P c := by
      show ∀ c ∈ [':', ':', 'f', 'f', 'f', 'f', ':'], P c
      simp [colon, f]
    show ∀ c ∈ ("::ffff:" ++ v4.text).toList, P c
    rw [String.toList_append]
    exact List.forall_mem_append.2
      ⟨front, Ipv4.forall_text dot (fun k small => digit k (by omega)) v4⟩
  · exact forall_groupText colon digit ip

end Ipv6

/-! ## Hosts -/

theorem dropWhile_none {p : Char → Bool} {s : List Char} (h : ∀ c ∈ s, p c = false) :
    s.dropWhile p = s := by
  cases s with
  | nil => rfl
  | cons c s => exact List.dropWhile_cons_of_neg (by simp [h c List.mem_cons_self])

/-- No bracket stands in a text. -/
def Bare (s : List Char) : Prop :=
  ∀ c ∈ s, c ≠ '[' ∧ c ≠ ']'

theorem bare_ipv4 (ip : Ipv4) : Bare ip.text.toList :=
  Ipv4.forall_text (by decide) (by decide) ip

theorem bare_ipv6 (ip : Ipv6) : Bare ip.text.toList :=
  Ipv6.forall_text (by decide) (by decide) (by decide) ip

theorem bare_groupText (ip : Ipv6) : Bare ip.groupText.toList :=
  Ipv6.forall_groupText (by decide) (by decide) ip

namespace Bare

variable {s : List Char}

theorem dropWhile_close (bare : Bare s) : s.reverse.dropWhile (· == ']') = s.reverse :=
  dropWhile_none fun c mem => by simp [(bare c (List.mem_reverse.1 mem)).2]

/-- A text without brackets has none to leave out. -/
theorem unbracketed (bare : Bare s) : unbracketed s = s := by
  have front : s.dropWhile (· == '[') = s := dropWhile_none fun c mem => by simp [(bare c mem).1]
  rw [Sluice.unbracketed, front, bare.dropWhile_close, List.reverse_reverse]

theorem unbracketed_brackets (bare : Bare s) : Sluice.unbracketed ('[' :: (s ++ [']'])) = s := by
  have front : (s ++ [']']).dropWhile (· == '[') = s ++ [']'] := by
    refine dropWhile_none fun c mem => ?_
    rcases List.mem_append.1 mem with mem | mem
    · simp [(bare c mem).1]
    · rw [List.mem_singleton.1 mem]
      decide
  rw [Sluice.unbracketed, List.dropWhile_cons_of_pos (by decide), front, List.reverse_append,
    List.reverse_singleton, List.singleton_append, List.dropWhile_cons_of_pos (by decide),
    bare.dropWhile_close, List.reverse_reverse]

end Bare

namespace Target

/-- A text that is an IPv4 address. -/
theorem parse_ipv4 (ip : Ipv4) : parse ip.text = .v4 ip := by
  rw [parse, (bare_ipv4 ip).unbracketed, Ip.parse?, Ipv4.read_toList_text]
  rfl

/-- A text that is an IPv6 address. -/
theorem parse_ipv6 {text : String} {ip : Ipv6} (bare : Bare text.toList)
    (other : Ipv4.read text.toList = none) (address : Ipv6.parse? text.toList = some ip) :
    parse text = .v6 ip := by
  rw [parse, bare.unbracketed, Ip.parse?, other, address]
  rfl

theorem parse_ipv6_text (ip : Ipv6) : parse ip.text = .v6 ip :=
  parse_ipv6 (bare_ipv6 ip) ip.read_ipv4_text ip.parse_text

theorem parse_groupText (ip : Ipv6) : parse ip.groupText = .v6 ip :=
  parse_ipv6 (bare_groupText ip) (Ipv4.read_dotless ip.groupText_dotless) ip.parse_groupText

end Target

end Sluice

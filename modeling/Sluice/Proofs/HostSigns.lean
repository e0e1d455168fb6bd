import Sluice.Proofs.AsciiNames
import Sluice.Proofs.UrlHosts

/-
  The sign `@` in what should be the host of a URL. It is decoded to itself, composes with nothing
  and is no digit of Punycode, so it is in some label in the end and may stand in none: the text is
  neither a domain name nor an address, whatever else it holds (`Host.ofDomain_at`). That it
  composes with nothing is seen from the table, which is read word by word.
-/

namespace Sluice

/-! ## Composition -/

namespace Unicode

/-- Does no word of a table, each with a blank behind it, fail the test? -/
def Lists (test : List Char → Bool) (table : String) : Prop :=
  ∃ front, table.toList = front ++ [' '] ∧ ∀ word ∈ splitAt ' ' front, test word = true

theorem splitAt_blank (front behind : List Char) :
    splitAt ' ' (front ++ ' ' :: behind) = splitAt ' ' front ++ splitAt ' ' behind :=
  List.splitOn_append_cons_self _ _

variable {test : List Char → Bool}

/-- Does a part of a table pass, word by word, with a blank at its end? -/
def passes (test : List Char → Bool) (cs : List Char) : Bool :=
  cs.getLast? == some ' ' && (splitAt ' ' cs.dropLast).all test

theorem Lists.ofList {cs : List Char} (h : passes test cs = true) :
    Lists test (String.ofList cs) := by
  obtain ⟨blank, all⟩ := (Bool.and_eq_true _ _).mp h
  obtain ⟨front, rfl⟩ := List.getLast?_eq_some_iff.1 (eq_of_beq blank)
  rw [List.dropLast_concat] at all
  exact ⟨front, String.toList_ofList, List.all_eq_true.1 all⟩

theorem Lists.append {table more : String} (h : Lists test table) (h' : Lists test more) :
    Lists test (table ++ more) := by
  obtain ⟨front, text, words⟩ := h
  obtain ⟨front', text', words'⟩ := h'
  refine ⟨front ++ ' ' :: front', by simp [text, text'], ?_⟩
  rw [splitAt_blank]
  exact List.forall_mem_append.2 ⟨words, words'⟩

/-- The last word has no blank behind it. -/
theorem Lists.words {table : String} {last : List Char} (h : Lists test table)
    (all : (splitAt ' ' last).all test = true) :
    ∀ word ∈ splitAt ' ' (table ++ String.ofList last).toList, test word = true := by
  obtain ⟨front, text, words⟩ := h
  rw [String.toList_append, text, String.toList_ofList, List.append_assoc, List.singleton_append,
    splitAt_blank]
  exact List.forall_mem_append.2 ⟨words, List.all_eq_true.1 all⟩

/-- Is the sign `@` in neither place of the pair that a word writes? -/
def sparesAt (word : List Char) : Bool :=
  (compositionOfText word).1.1 != 64 && (compositionOfText word).1.2 != 64

set_option maxRecDepth 4000 in
theorem compositionText_sparesAt :
    ∀ word ∈ splitAt ' ' compositionText.toList, sparesAt word = true := by
  unfold compositionText
  refine Lists.words ?_ (by decide +kernel)
  iterate 142 refine Lists.append ?_ (Lists.ofList (by decide +kernel))
  exact Lists.ofList (by decide +kernel)

theorem compositions_apart {table : List Char}
    (spared : ∀ word ∈ splitAt ' ' table, sparesAt word = true) :
    ∀ e ∈ (splitAt ' ' table).map compositionOfText, e.1.1 ≠ 64 ∧ e.1.2 ≠ 64 := by
  intro e mem
  obtain ⟨word, listed, rfl⟩ := List.mem_map.1 mem
  simpa only [sparesAt, Bool.and_eq_true, bne_iff_ne] using spared word listed

theorem compose_at (c : Char) : compose? '@' c = none ∧ compose? c '@' = none := by
  have apart : ∀ e ∈ compositions, e.1.1 ≠ 64 ∧ e.1.2 ≠ 64 :=
    compositions_apart compositionText_sparesAt
  have hangul : Hangul.compose? '@' c = none ∧ Hangul.compose? c '@' = none := by
    constructor
    · exact (if_neg fun h => absurd h.1 (by decide)).trans (if_neg fun h => absurd h.1 (by decide))
    · exact (if_neg fun h => absurd h.2.2.1 (by decide)).trans
        (if_neg fun h => absurd h.2.2.2.1 (by decide))
  have first : compositions.lookup ('@'.toNat, c.toNat) = none :=
    List.lookup_eq_none_iff.2 fun e mem => bne_iff_ne.2 fun same =>
      (apart e mem).1 (congrArg Prod.fst same).symm
  have second : compositions.lookup (c.toNat, '@'.toNat) = none :=
    List.lookup_eq_none_iff.2 fun e mem => bne_iff_ne.2 fun same =>
      (apart e mem).2 (congrArg Prod.snd same).symm
  unfold compose?
  rw [hangul.1, hangul.2, first, second]
  exact ⟨rfl, rfl⟩

/-! ## Decomposition -/

namespace Replacements

/-- The entries of one more word. -/
def addWord : Array (Nat × List Char) × Nat → List Char → Array (Nat × List Char) × Nat
  | (entries, last), word =>
    (entries ++ wordEntries last word, ((wordEntries last word).getLast?.map (·.1)).getD last)

theorem entries_ofText (text : String) :
    (ofText text).entries = ((splitAt ' ' text.toList).foldl addWord (#[], 0)).1 :=
  rfl

theorem le_shifted {stride start target count last : Nat} (h : last ≤ start) :
    ∀ e ∈ shifted stride start target count, last ≤ e.1 := by
  intro e mem
  obtain ⟨i, -, rfl⟩ := List.mem_map.1 mem
  exact Nat.le_trans h (Nat.le_add_right _ _)

theorem le_wordEntries (last : Nat) (word : List Char) :
    ∀ e ∈ wordEntries last word, last ≤ e.1 := by
  unfold wordEntries
  split
  · split
    · exact le_shifted (Nat.le_add_right _ _)
    · exact le_shifted (Nat.le_add_right _ _)
    · exact List.forall_mem_singleton.2 (Nat.le_add_right _ _)
  · exact nofun

/-- Entries that are added stand for characters behind the last one. -/
theorem foldl_addWord (words : List (List Char)) (s : Array (Nat × List Char) × Nat) :
    ∃ more, (words.foldl addWord s).1.toList = s.1.toList ++ more ∧ ∀ e ∈ more, s.2 ≤ e.1 := by
  induction words generalizing s with
  | nil => exact ⟨[], (List.append_nil _).symm, nofun⟩
  | cons word words ih =>
    obtain ⟨entries, last⟩ := s
    have new := le_wordEntries last word
    have next : last ≤ (addWord (entries, last) word).2 := by
      show last ≤ ((wordEntries last word).getLast?.map (·.1)).getD last
      cases found : (wordEntries last word).getLast? with
      | none => exact Nat.le_refl _
      | some e => exact new e (List.mem_of_getLast? found)
    obtain ⟨more, whole, behind⟩ := ih (addWord (entries, last) word)
    refine ⟨wordEntries last word ++ more, ?_, List.forall_mem_append.2 ⟨new, ?_⟩⟩
    · rw [List.foldl_cons, whole]
      simp [addWord]
    · exact fun e mem => Nat.le_trans next (behind e mem)

theorem mem_of_find {entries : Array (Nat × List Char)} {n low high : Nat} {target : List Char}
    (h : find? entries n low high = some target) : ∃ e ∈ entries.toList, e.1 = n := by
  fun_induction find? entries n low high with
  | case1 => cases h
  | case2 => cases h
  | case3 low high more middle source target' here before ih => exact ih h
  | case4 low high more middle target' here before =>
    exact ⟨_, Array.mem_toList_iff.2 (Array.mem_of_getElem? here), rfl⟩
  | case5 low high more middle source target' here before other ih => exact ih h

end Replacements

/-- The first words of the table. -/
def firstWords : String :=
  "c0:41.300 1:41.301 1:41.302 1:41.303 1:41.308 1:41.30a 2:43.327 1:45.300 1:45.301 "

theorem decompositionText_front : firstWords.toList <+: decompositionText.toList := by
  unfold decompositionText
  iterate 222 refine Idna.front_append ?_ _
  exact List.prefix_rfl

/-- Their entries. -/
def firstEntries : Array (Nat × List Char) × Nat :=
  (splitAt ' ' firstWords.toList.dropLast).foldl Replacements.addWord (#[], 0)

theorem firstEntries_large :
    (∀ e ∈ firstEntries.1.toList, 128 ≤ e.1) ∧ 128 ≤ firstEntries.2 := by
  decide +kernel

/-- Only characters behind ASCII decompose. -/
theorem decompositions_large : ∀ e ∈ decompositions.entries.toList, 128 ≤ e.1 := by
  obtain ⟨behind, text⟩ := decompositionText_front
  have words : firstWords.toList = firstWords.toList.dropLast ++ [' '] := by decide +kernel
  have split : splitAt ' ' decompositionText.toList =
      splitAt ' ' firstWords.toList.dropLast ++ splitAt ' ' behind := by
    rw [← text, words, List.append_assoc, List.dropLast_concat, List.singleton_append,
      splitAt_blank]
  have fold : decompositions.entries =
      ((splitAt ' ' behind).foldl Replacements.addWord firstEntries).1 := by
    rw [decompositions, Replacements.entries_ofText, split, List.foldl_append, firstEntries]
  obtain ⟨more, whole, after⟩ := Replacements.foldl_addWord (splitAt ' ' behind) firstEntries
  rw [fold, whole]
  refine List.forall_mem_append.2 ⟨firstEntries_large.1, fun e mem => ?_⟩
  exact Nat.le_trans firstEntries_large.2 (after e mem)

theorem decompose_ascii {c : Char} (ascii : c.toNat < 128) : decompose c = [c] := by
  have hangul : Hangul.decompose? c = none :=
    if_neg fun h => absurd ascii (Nat.not_lt.2 (Nat.le_trans (by decide) h.1))
  have table : decompositions.get? c = none := by
    cases found : decompositions.get? c with
    | none => rfl
    | some target =>
      obtain ⟨e, mem, same⟩ := Replacements.mem_of_find found
      have := decompositions_large e mem
      omega
  rw [decompose, hangul, table]
  rfl

/-! ## Normal form -/

theorem mem_insertMark {c mark : Char} {marks : List Char} :
    c ∈ insertMark mark marks ↔ c = mark ∨ c ∈ marks := by
  induction marks with
  | nil => simp [insertMark]
  | cons m marks ih =>
    unfold insertMark
    split
    · rw [List.mem_cons, ih, List.mem_cons]
      tauto
    · exact List.mem_cons

/-- One character more to be put in order. -/
def putInOrder : List Char × List Char → Char → List Char × List Char
  | (done, marks), c =>
    if combiningClass c = 0 then (c :: (marks ++ done), []) else (done, insertMark c marks)

theorem order_eq (cs : List Char) : order cs =
    ((cs.foldl putInOrder ([], [])).2 ++ (cs.foldl putInOrder ([], [])).1).reverse :=
  rfl

theorem mem_foldl_putInOrder {c : Char} (cs : List Char) (s : List Char × List Char)
    (h : c ∈ cs ∨ c ∈ s.2 ++ s.1) :
    c ∈ (cs.foldl putInOrder s).2 ++ (cs.foldl putInOrder s).1 := by
  induction cs generalizing s with
  | nil => exact h.resolve_left List.not_mem_nil
  | cons d cs ih =>
    refine ih _ ?_
    unfold putInOrder
    dsimp only
    simp only [List.mem_cons, List.mem_append] at h
    split
    · simp only [List.mem_cons, List.mem_append, List.not_mem_nil]
      tauto
    · simp only [List.mem_append, mem_insertMark]
      tauto

/-- Marks are put in order, and nothing is lost. -/
theorem mem_order {c : Char} {cs : List Char} (h : c ∈ cs) : c ∈ order cs := by
  rw [order_eq]
  exact List.mem_reverse.2 (mem_foldl_putInOrder cs ([], []) (Or.inl h))

namespace Composing

theorem mem_flush {c : Char} {s : Composing} :
    c ∈ s.flush ↔ c ∈ s.following ∨ s.starter = some c ∨ c ∈ s.done := by
  simp [flush, Option.mem_toList]

/-- The sign is not lost, whether it is there or is added. -/
theorem at_mem_add {s : Composing} {c : Char} (h : '@' ∈ s.flush ∨ c = '@') :
    '@' ∈ (s.add c).flush := by
  have keep : '@' ∈ (if combiningClass c = 0 then { done := s.flush, starter := some c }
      else { s with following := c :: s.following } : Composing).flush := by
    split
    · rw [mem_flush]
      exact Or.inr (h.symm.imp_left fun e => congrArg some e)
    · simp only [mem_flush, List.mem_cons] at h ⊢
      tauto
  unfold add
  dsimp only
  split
  · exact keep
  · next starter started =>
    split
    · exact keep
    · split
      · next composite composed =>
        -- Neither of the two that compose is the sign, so it stands elsewhere.
        have other : c ≠ '@' := by
          rintro rfl
          rw [(compose_at starter).2] at composed
          cases composed
        have other' : starter ≠ '@' := by
          rintro rfl
          rw [(compose_at c).1] at composed
          cases composed
        have stands := h.resolve_right other
        simp only [mem_flush, started, Option.some.injEq, other', false_or] at stands ⊢
        exact stands.imp_right Or.inr
      · exact keep

end Composing

theorem at_mem_composeAll {cs : List Char} (h : '@' ∈ cs) : '@' ∈ composeAll cs := by
  have fold : ∀ (cs : List Char) (s : Composing), '@' ∈ s.flush ∨ '@' ∈ cs →
      '@' ∈ (cs.foldl Composing.add s).flush := by
    intro cs
    induction cs with
    | nil => exact fun s h => h.resolve_right List.not_mem_nil
    | cons c cs ih =>
      intro s h
      refine ih _ ?_
      rcases h with there | mem
      · exact Or.inl (Composing.at_mem_add (Or.inl there))
      · rcases List.mem_cons.1 mem with rfl | mem
        · exact Or.inl (Composing.at_mem_add (Or.inr rfl))
        · exact Or.inr mem
  exact List.mem_reverse.2 (fold cs {} (Or.inr h))

theorem at_mem_compose {cs : List Char} (h : '@' ∈ cs) : '@' ∈ compose cs := by
  unfold compose
  split
  · exact h
  · refine at_mem_composeAll (mem_order (List.mem_flatMap.2 ⟨'@', h, ?_⟩))
    rw [decompose_ascii (by decide)]
    exact List.mem_singleton_self '@'

end Unicode

/-! ## Domain names -/

namespace Idna

open Unicode

theorem exists_of_mapM {α β : Type} {f : α → Option β} {as : List α} {bs : List β} {a : α}
    (h : as.mapM f = some bs) (mem : a ∈ as) : ∃ b ∈ bs, f a = some b := by
  induction as generalizing bs with
  | nil => cases mem
  | cons first as ih =>
    rw [List.mapM_cons] at h
    obtain ⟨here, one, h⟩ := Option.bind_eq_some_iff.1 h
    obtain ⟨others, rest, h⟩ := Option.bind_eq_some_iff.1 h
    obtain rfl := Option.some.inj h
    rcases List.mem_cons.1 mem with rfl | mem
    · exact ⟨here, List.mem_cons_self, one⟩
    · obtain ⟨b, listed, value⟩ := ih rest mem
      exact ⟨b, List.mem_cons_of_mem _ listed, value⟩

theorem at_mem_mapChars {cs mapped : List Char} (h : mapChars cs = some mapped) (mem : '@' ∈ cs) :
    '@' ∈ mapped := by
  obtain ⟨parts, read, rfl⟩ := Option.map_eq_some_iff.1 h
  obtain ⟨part, listed, value⟩ := exists_of_mapM read mem
  have stays : mapChar '@' = some ['@'] := by decide
  obtain rfl := Option.some.inj (stays.symm.trans value)
  exact List.mem_flatten.2 ⟨_, listed, List.mem_singleton_self '@'⟩

/-- A label that holds the sign means it, too. -/
theorem at_mem_meant {cs : List Char} {l : Label} (h : Label.of? cs = some l) (mem : '@' ∈ cs) :
    '@' ∈ l.meant := by
  unfold Label.of? at h
  dsimp only at h
  split at h
  · next starts =>
    split at h
    · cases h
    · split at h
      · cases h
      · next meant decoded =>
        split at h
        · cases h
        · obtain rfl := Option.some.inj h
          have behind : '@' ∈ cs.drop 4 := by
            rw [← List.take_append_drop 4 cs, starts] at mem
            exact (List.mem_append.1 mem).resolve_left (by decide)
          exact (Punycode.mem_of_decode decoded behind).resolve_right (by decide)
  · split at h
    · obtain rfl := Option.some.inj h
      exact mem
    · split at h
      · cases h
      · obtain rfl := Option.some.inj h
        exact mem

theorem ofChars_at {cs : List Char} (mem : '@' ∈ cs) : ofChars? cs = none := by
  refine Option.eq_none_iff_forall_ne_some.2 fun ascii h => ?_
  obtain ⟨mapped, whole, h⟩ := Option.bind_eq_some_iff.1 h
  obtain ⟨labels, read, h⟩ := Option.bind_eq_some_iff.1 h
  have there := at_mem_compose (at_mem_mapChars whole mem)
  have joined : ['.'].intercalate ((compose mapped).splitOn '.') = compose mapped :=
    List.intercalate_splitOn '.'
  rw [← joined] at there
  obtain ⟨text, listed, inside⟩ := (mem_intercalate there).resolve_left (by decide)
  obtain ⟨l, label, value⟩ := exists_of_mapM read listed
  have refused : isHostChar '@' = false := by
    simp only [isHostChar, String.contains_char_eq]
    decide
  dsimp only at h
  split at h
  · next fits =>
    have fits := List.all_eq_true.1 fits l label
    rw [Bool.and_eq_true] at fits
    have shown := List.all_eq_true.1 fits.1 '@' (at_mem_meant value inside)
    rw [refused] at shown
    cases shown
  · cases h

theorem toAscii_at {name : Octets} (mem : 64 ∈ name) : toAscii? name = none := by
  unfold toAscii?
  cases read : Utf8.decode name with
  | error fault => rfl
  | ok cs =>
    rw [Utf8.decode_eq_ok.1 read] at mem
    exact ofChars_at (Utf8.mem_of_ascii (by decide) mem)

end Idna

theorem hexValue_at : Octets.hexValue? 64 = none := by
  decide

/-- The sign is no digit, so no per cent sign takes it in. -/
theorem Percent.at_mem_decode {s : Octets} (mem : 64 ∈ s) : 64 ∈ decode s := by
  fun_induction decode s with
  | case1 high low rest b pair ih =>
    rw [pair?] at pair
    simp only [List.mem_cons] at mem
    rcases mem with same | rfl | rfl | mem
    · exact absurd same (by decide)
    · simp [hexValue_at] at pair
    · cases high : Octets.hexValue? high <;> simp [high, hexValue_at] at pair
    · exact List.mem_cons_of_mem _ (ih mem)
  | case2 high low rest pair ih =>
    rcases List.mem_cons.1 mem with same | mem
    · exact absurd same (by decide)
    · exact List.mem_cons_of_mem _ (ih mem)
  | case3 b rest _ ih =>
    rcases List.mem_cons.1 mem with rfl | mem
    · exact List.mem_cons_self
    · exact List.mem_cons_of_mem _ (ih mem)
  | case4 => cases mem

/-! ## Addresses -/

namespace Ipv6

/-- The characters of the texts of IPv6 addresses. -/
def IsAddressChar (c : Char) : Prop :=
  c = ':' ∨ c = '.' ∨ (Digits.value? 16 c).isSome

theorem isAddressChar_of_decimal {c : Char} (h : (Digits.value? 10 c).isSome) :
    IsAddressChar c := by
  obtain ⟨n, value⟩ := Option.isSome_iff_exists.1 h
  obtain ⟨digit, small⟩ := Option.filter_eq_some_iff.1 value
  have below : n < 16 := Nat.lt_trans (of_decide_eq_true small) (by decide)
  have value' : Digits.value? 16 c = some n :=
    Option.filter_eq_some_iff.2 ⟨digit, decide_eq_true below⟩
  exact Or.inr (Or.inr (Option.isSome_of_eq_some value'))

theorem of_afterColon {first : Bool} {s s' : List Char} (h : afterColon? first s = some s') :
    ∃ front, s = front ++ s' ∧ ∀ c ∈ front, IsAddressChar c := by
  unfold afterColon? at h
  split at h
  · exact ⟨[], Option.some.inj h, nofun⟩
  · split at h
    · obtain rfl := Option.some.inj h
      exact ⟨[':'], rfl, List.forall_mem_singleton.2 (Or.inl rfl)⟩
    · cases h

/-- Groups are read off the front, and have no other characters. -/
theorem of_readGroups (first : Bool) (limit : Nat) (s : List Char) :
    ∃ front, s = front ++ (readGroups first limit s).rest ∧ ∀ c ∈ front, IsAddressChar c := by
  induction limit generalizing first s with
  | zero => exact ⟨[], rfl, nofun⟩
  | succ limit ih =>
    cases colon : afterColon? first s with
    | none =>
      rw [readGroups, colon]
      exact ⟨[], rfl, nofun⟩
    | some s' =>
      obtain ⟨before, rfl, chars⟩ := of_afterColon colon
      rw [readGroups, colon]
      dsimp only
      split
      · next ip rest read =>
        have read : Ipv4.read s' = some (ip, rest) := by
          split at read
          · cases read
          · exact read
        obtain ⟨front, rfl, -, inside⟩ := Ipv4.of_read read
        refine ⟨before ++ front, (List.append_assoc ..).symm, ?_⟩
        refine List.forall_mem_append.2 ⟨chars, fun c mem => ?_⟩
        exact (inside c mem).elim (fun dot => Or.inr (Or.inl dot)) isAddressChar_of_decimal
      · split
        · exact ⟨[], rfl, nofun⟩
        · next g rest group =>
          obtain ⟨digits, rfl, hex⟩ := of_readGroup group
          obtain ⟨more, whole, inside⟩ := ih false rest
          refine ⟨before ++ (digits ++ more), ?_, ?_⟩
          · rw [List.append_assoc, List.append_assoc, ← whole]
          simp only [List.forall_mem_append]
          exact ⟨chars, fun c mem => Or.inr (Or.inr (hex c mem)), inside⟩

theorem isAddressChar_of_parse {s : List Char} {ip : Ipv6} (h : parse? s = some ip) :
    ∀ c ∈ s, IsAddressChar c := by
  have read : read s = some (ip, []) := by
    unfold parse? at h
    split at h
    · next found => rw [found, Option.some.inj h]
    · cases h
  obtain ⟨front, whole, chars⟩ := of_readGroups true 8 s
  unfold Ipv6.read at read
  dsimp only at read
  split at read
  · have rest := (Prod.mk.inj (Option.some.inj read)).2
    rw [rest, List.append_nil] at whole
    rwa [whole]
  · split at read
    · cases read
    · split at read
      · next more rest =>
        obtain ⟨back, whole', chars'⟩ :=
          of_readGroups true (8 - ((readGroups true 8 s).groups.length + 1)) more
        obtain ⟨ip', -, same⟩ := Option.map_eq_some_iff.1 read
        rw [(Prod.mk.inj same).2, List.append_nil] at whole'
        rw [whole, rest, whole']
        simp only [List.forall_mem_append, List.forall_mem_cons]
        exact ⟨chars, Or.inl rfl, Or.inl rfl, chars'⟩
      · cases read

theorem parse_at {s : List Char} (mem : '@' ∈ s) : parse? s = none := by
  refine Option.eq_none_iff_forall_ne_some.2 fun ip parsed => ?_
  have other : ¬ IsAddressChar '@' := by
    unfold IsAddressChar
    decide
  exact other (isAddressChar_of_parse parsed '@' mem)

end Ipv6

/-! ## Hosts -/

namespace Url.Host

theorem bracketed_at {rest : List Char} (mem : '@' ∈ rest) :
    bracketed? ('[' :: rest) = some (.error .ipv6) := by
  rw [bracketed?]
  split
  · next last =>
    obtain ⟨front, rfl⟩ := List.getLast?_eq_some_iff.1 last
    have inside : '@' ∈ front := by simpa using mem
    rw [List.dropLast_concat, Ipv6.parse_at inside]
    rfl
  · rfl

/-- What is said of a text with the sign in it, by its first character. -/
def faultAt (text : List Char) : Fault :=
  if text.head? = some '[' then .ipv6 else .domainName

theorem ofDomain_at {text : List Char} (mem : '@' ∈ text) :
    ofDomain text = .error (faultAt text) := by
  by_cases opened : text.head? = some '['
  · obtain ⟨rest, rfl⟩ := List.head?_eq_some_iff.1 opened
    have inside : '@' ∈ rest := by simpa using mem
    rw [ofDomain, bracketed_at inside]
    exact congrArg Except.error (if_pos opened).symm
  · have octet : 64 ∈ text.flatMap String.utf8EncodeChar :=
      List.mem_flatMap.2 ⟨'@', mem, by decide⟩
    rw [ofDomain, bracketed_bare opened, Idna.toAscii_at (Percent.at_mem_decode octet)]
    exact congrArg Except.error (if_neg opened).symm

end Url.Host

end Sluice

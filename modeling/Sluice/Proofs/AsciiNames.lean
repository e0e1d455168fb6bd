import Mathlib.Data.Bool.AllAny
import Sluice.Url.Host
import Sluice.Proofs.AddressTexts
import Sluice.Proofs.UrlHosts
import Sluice.Proofs.Utf8

/-
  Names that are written in small letters, digits, hyphens and full stops. A URL takes such a name
  as it stands: nothing in it is encoded or mapped, and none of its characters is written from right
  to left, for which the runs of ASCII are looked up at the front of the table
  (`isRightToLeft_ascii`). With a letter at the front of its last label it is a domain name
  (`Host.ofDomain_plain`), and the text of an IPv4 address is that address (`Host.ofDomain_ipv4`).
-/

namespace Sluice

namespace Unicode.RunMap

/-- One more run behind the others. -/
def addRun : Array (Nat × Nat) × Nat → List Char → Array (Nat × Nat) × Nat
  | (runs, start), word => (runs.push (start, (runOfText word).2), start + (runOfText word).1)

theorem runs_ofText (text : String) :
    (ofText text).runs = ((splitAt ' ' text.toList).foldl addRun (#[], 0)).1 :=
  rfl

/-- Runs that are added start where the others end, or behind that. -/
theorem foldl_addRun (words : List (List Char)) (s : Array (Nat × Nat) × Nat) :
    ∃ more, (words.foldl addRun s).1.toList = s.1.toList ++ more ∧ ∀ run ∈ more, s.2 ≤ run.1 := by
  induction words generalizing s with
  | nil => exact ⟨[], (List.append_nil _).symm, nofun⟩
  | cons word words ih =>
    obtain ⟨runs, start⟩ := s
    obtain ⟨more, whole, behind⟩ := ih (addRun (runs, start) word)
    refine ⟨(start, (runOfText word).2) :: more, ?_, List.forall_mem_cons.2 ⟨Nat.le_refl _, ?_⟩⟩
    · rw [List.foldl_cons, whole]
      simp [addRun]
    · exact fun run mem => Nat.le_trans (Nat.le_add_right _ _) (behind run mem)

/-- What is found is the number of a run that starts at `n` or before it. -/
theorem find_mem {runs : Array (Nat × Nat)} {n low high : Nat}
    (begun : ∀ run, runs[low]? = some run → run.1 ≤ n) :
    find runs n low high = 0 ∨ ∃ run ∈ runs.toList, run.1 ≤ n ∧ find runs n low high = run.2 := by
  fun_induction find runs n low high with
  | case1 low high last =>
    cases here : runs[low]? with
    | none => exact Or.inl rfl
    | some run =>
      exact Or.inr ⟨run, Array.mem_toList_iff.2 (Array.mem_of_getElem? here), begun run here, rfl⟩
  | case2 => exact Or.inl rfl
  | case3 low high more middle start value here before ih => exact ih begun
  | case4 low high more middle start value here behind ih =>
    refine ih fun run found => ?_
    obtain rfl := Option.some.inj (here.symm.trans found)
    exact Nat.le_of_not_lt behind

/-- The number of a character is that of a run at the front, if the others start behind it. -/
theorem get_of_front {m : RunMap} {front more : List (Nat × Nat)} {c : Char} {P : Nat → Prop}
    (whole : m.runs.toList = front ++ more) (begins : front.head?.map Prod.fst = some 0)
    (zero : P 0) (inside : ∀ run ∈ front, P run.2) (behind : ∀ run ∈ more, c.toNat < run.1) :
    P (m.get c) := by
  have begun : ∀ run, m.runs[0]? = some run → run.1 ≤ c.toNat := by
    intro run found
    rw [← Array.getElem?_toList, whole] at found
    cases front with
    | nil => cases begins
    | cons first front =>
      obtain rfl := Option.some.inj found
      rw [show first.1 = 0 from Option.some.inj begins]
      exact Nat.zero_le _
  rw [get]
  rcases find_mem begun with nothing | ⟨run, mem, le, is⟩
  · rw [nothing]
    exact zero
  · rw [whole] at mem
    rw [is]
    rcases List.mem_append.1 mem with mem | mem
    · exact inside run mem
    · exact absurd le (Nat.not_le.2 (behind run mem))

end Unicode.RunMap

namespace Idna

open Unicode

/-- The runs of ASCII, as they are written. -/
def asciiRuns : String :=
  "9:a 5 e:a 5 2:9 3:8 5:9 1:6 1:7 1:6 2:7 a:5 1:7 6:9 1a:1 6:9 1a:1 4:9 6:a 1 1a:a 1:7 1:9 "

theorem front_append {front text : String} (h : front.toList <+: text.toList) (more : String) :
    front.toList <+: (text ++ more).toList := by
  rw [String.toList_append]
  exact h.trans (List.prefix_append _ _)

/-- They stand at the front. -/
theorem bidiText_front : asciiRuns.toList <+: bidiText.toList := by
  unfold bidiText
  iterate 57 refine front_append ?_ _
  exact List.prefix_rfl

/-- The runs of ASCII. -/
def asciiBidi : Array (Nat × Nat) × Nat :=
  (splitAt ' ' asciiRuns.toList.dropLast).foldl RunMap.addRun (#[], 0)

/-- The numbers of classes that are written from left to right, or either way. -/
def leftNumbers : List Nat :=
  [0, 1, 5, 6, 7, 8, 9, 10]

/-- They begin at the first character, reach the end of ASCII, and have no other numbers. -/
theorem asciiBidi_left : asciiBidi.1.toList.head?.map Prod.fst = some 0 ∧ 128 ≤ asciiBidi.2 ∧
    ∀ run ∈ asciiBidi.1.toList, run.2 ∈ leftNumbers := by
  decide +kernel

/-- The other runs start behind them. -/
theorem bidiRuns_front : ∃ more, bidiRuns.runs.toList = asciiBidi.1.toList ++ more ∧
    ∀ run ∈ more, 128 ≤ run.1 := by
  obtain ⟨behind, front⟩ := bidiText_front
  have words : asciiRuns.toList = asciiRuns.toList.dropLast ++ [' '] := by decide +kernel
  have split : splitAt ' ' bidiText.toList =
      splitAt ' ' asciiRuns.toList.dropLast ++ splitAt ' ' behind := by
    rw [splitAt, ← front, words, List.append_assoc, List.dropLast_concat]
    exact List.splitOn_append_cons_self _ _
  have fold : bidiRuns.runs = ((splitAt ' ' behind).foldl RunMap.addRun asciiBidi).1 := by
    rw [bidiRuns, RunMap.runs_ofText, split, List.foldl_append, asciiBidi]
  obtain ⟨more, whole, after⟩ := RunMap.foldl_addRun (splitAt ' ' behind) asciiBidi
  refine ⟨more, by rw [fold, whole], fun run mem => ?_⟩
  exact Nat.le_trans asciiBidi_left.2.1 (after run mem)

theorem isRightToLeft_left {c : Char} (h : bidiRuns.get c ∈ leftNumbers) :
    isRightToLeft c = false := by
  simp only [leftNumbers, List.mem_cons, List.not_mem_nil, or_false] at h
  rw [isRightToLeft]
  rcases h with h | h | h | h | h | h | h | h
  all_goals rw [bidiClass, h]; rfl

theorem isRightToLeft_ascii {c : Char} (ascii : c.toNat < 128) : isRightToLeft c = false := by
  obtain ⟨begins, -, left⟩ := asciiBidi_left
  obtain ⟨more, whole, after⟩ := bidiRuns_front
  exact isRightToLeft_left (RunMap.get_of_front (P := (· ∈ leftNumbers)) whole begins (by decide)
    left fun run mem => Nat.lt_of_lt_of_le ascii (after run mem))

/-! ## Names that stay as they are -/

/-- The characters of plain names. -/
def nameChars : List Char :=
  "abcdefghijklmnopqrstuvwxyz0123456789-.".toList

/-- The letters among them. -/
def smallLetters : List Char :=
  "abcdefghijklmnopqrstuvwxyz".toList

theorem smallLetters_other : ∀ c ∈ smallLetters,
    c ≠ '0' ∧ c.isDigit = false ∧ Digits.value? 10 c = none :=
  List.all_iff_forall_prop.1 (by decide)

theorem nameChars_stay : ∀ c ∈ nameChars, c.toNat < 128 ∧ c.toLower = c ∧ c ≠ '%' ∧ c ≠ '[' :=
  List.all_iff_forall_prop.1 (by decide)

theorem nameChars_host : ∀ c ∈ nameChars, isHostChar c = true := by
  simp only [isHostChar, String.contains_char_eq]
  exact List.all_iff_forall_prop.1 (by decide)

variable {name : List Char}

theorem mapM_some {α β : Type} {f : α → Option β} {g : α → β} {as : List α}
    (h : ∀ a ∈ as, f a = some (g a)) : as.mapM f = some (as.map g) := by
  induction as with
  | nil => rfl
  | cons a as ih =>
    obtain ⟨here, rest⟩ := List.forall_mem_cons.1 h
    rw [List.mapM_cons, here, ih rest]
    rfl

theorem toNat_toLower {c : Char} (ascii : c.toNat < 128) : c.toLower.toNat < 128 :=
  forall_ascii (P := fun c => c.toLower.toNat < 128) (by decide +kernel) ascii

/-- The letters of a name are made small, and its characters are small from then on. -/
theorem ascii_small (ascii : ∀ c ∈ name, c.toNat < 128) :
    ∀ c ∈ name.map Char.toLower, c.toNat < 128 := by
  intro c mem
  obtain ⟨d, there, rfl⟩ := List.mem_map.1 mem
  exact toNat_toLower (ascii d there)

theorem mapChars_ascii (ascii : ∀ c ∈ name, c.toNat < 128) :
    mapChars name = some (name.map Char.toLower) := by
  have maps : ∀ c ∈ name, mapChar c = some [c.toLower] := fun c mem => if_pos (ascii c mem)
  rw [mapChars, mapM_some maps, Option.map_some, ← List.flatMap_def]
  exact congrArg some List.map_eq_flatMap.symm

theorem mem_intercalate_of_mem {c : Char} {separator part : List Char} {parts : List (List Char)}
    (mem : part ∈ parts) (inside : c ∈ part) : c ∈ separator.intercalate parts := by
  induction parts with
  | nil => cases mem
  | cons first parts ih =>
    cases parts with
    | nil =>
      rw [List.mem_singleton.1 mem] at inside
      rwa [List.intercalate_singleton]
    | cons next parts =>
      rw [List.intercalate_cons_cons]
      rcases List.mem_cons.1 mem with rfl | mem
      · exact List.mem_append_left _ (List.mem_append_left _ inside)
      · exact List.mem_append_right _ (ih mem)

theorem label_plain {cs : List Char} (ascii : ∀ c ∈ cs, c.toNat < 128)
    (unencoded : cs.take 4 ≠ acePrefix) : Label.of? cs = some ⟨cs, cs⟩ := by
  have all : (cs.all fun c => c.toNat < 128) = true := by simpa using ascii
  simp only [Label.of?, if_neg unencoded, all, if_true]

/-- A name in ASCII whose labels are not Punycode is taken in small letters, if its characters may
stand in a host. -/
theorem ofChars_ascii (ascii : ∀ c ∈ name, c.toNat < 128)
    (unencoded : ∀ label ∈ (name.map Char.toLower).splitOn '.', label.take 4 ≠ acePrefix) :
    ofChars? name = if (name.map Char.toLower).all isHostChar then some (name.map Char.toLower)
      else none := by
  have small := ascii_small ascii
  have mapped := mapChars_ascii ascii
  generalize name.map Char.toLower = lower at small mapped unencoded ⊢
  have whole : ['.'].intercalate (lower.splitOn '.') = lower := List.intercalate_splitOn '.'
  have inside : ∀ label ∈ lower.splitOn '.', ∀ c ∈ label, c ∈ lower := by
    intro label mem c hc
    rw [← whole]
    exact mem_intercalate_of_mem mem hc
  have composed : compose lower = lower :=
    if_pos (List.all_eq_true.2 fun c mem => decide_eq_true (small c mem))
  have labels : (lower.splitOn '.').mapM Label.of? =
      some ((lower.splitOn '.').map fun cs => ⟨cs, cs⟩) :=
    mapM_some fun label mem =>
      label_plain (fun c hc => small c (inside label mem c hc)) (unencoded label mem)
  have left : (((lower.splitOn '.').map fun cs => (⟨cs, cs⟩ : Label)).any
      fun l => l.meant.any isRightToLeft) = false := by
    rw [List.any_map, List.any_eq_false]
    intro label mem
    rw [Function.comp_apply, Bool.not_eq_true, List.any_eq_false]
    intro c hc
    rw [isRightToLeft_ascii (small c (inside label mem c hc))]
    exact Bool.false_ne_true
  have stop : isHostChar '.' = true := by
    simp only [isHostChar, String.contains_char_eq]
    decide
  have fits : (((lower.splitOn '.').map fun cs => (⟨cs, cs⟩ : Label)).all
      fun l => l.meant.all isHostChar && (!false || bidiFits l.meant)) = lower.all isHostChar := by
    rw [List.all_map, Bool.eq_iff_iff]
    simp only [List.all_eq_true, Function.comp_apply, Bool.not_false, Bool.true_or, Bool.and_true]
    constructor
    · intro all c mem
      rw [← whole] at mem
      rcases mem_intercalate mem with dot | ⟨label, there, hc⟩
      · rwa [List.mem_singleton.1 dot]
      · exact all label there c hc
    · exact fun all label there c hc => all c (inside label there c hc)
  have written : ((lower.splitOn '.').map fun cs => (⟨cs, cs⟩ : Label)).map (·.written) =
      lower.splitOn '.' := by
    rw [List.map_map]
    exact List.map_id _
  unfold ofChars?
  simp only [mapped, Option.bind_eq_bind, Option.bind_some, composed, labels, left, fits, written,
    whole]

theorem toLower_plain (plain : ∀ c ∈ name, c ∈ nameChars) : name.map Char.toLower = name :=
  (List.map_congr_left fun c mem => (nameChars_stay c (plain c mem)).2.1).trans (List.map_id _)

end Idna

/-- Octets without a per cent sign stand for themselves. -/
theorem Percent.decode_eq {s : Octets} (h : Percent.sign ∉ s) : Percent.decode s = s := by
  fun_induction Percent.decode s with
  | case1 => simp at h
  | case2 => simp at h
  | case3 b rest _ ih => rw [ih fun mem => h (List.mem_cons_of_mem _ mem)]
  | case4 => rfl

theorem Percent.sign_not_mem {cs : List Char} (h : '%' ∉ cs) :
    Percent.sign ∉ cs.flatMap String.utf8EncodeChar :=
  fun mem => h (Utf8.mem_of_ascii (by decide) mem)

open Idna

namespace Url.Host

variable {name : List Char}

/-- Only a bracket at the front makes an address of a text. -/
theorem bracketed_bare (bare : name.head? ≠ some '[') : bracketed? name = none := by
  unfold bracketed?
  split
  · exact absurd rfl bare
  · rfl

/-- Brackets around the text of an address make it the host. -/
theorem bracketed_parse {s : List Char} {ip : Ipv6} (parsed : Ipv6.parse? s = some ip) :
    bracketed? ('[' :: (s ++ [']'])) = some (.ok (.v6 ip)) := by
  rw [bracketed?, List.getLast?_concat]
  show some (((Ipv6.parse? (s ++ [']']).dropLast).map Host.v6).elim _ _) = _
  rw [List.dropLast_concat, parsed]
  rfl

/-- A name in ASCII is made small, and its characters are looked at, before it is judged. -/
theorem ofDomain_ascii (bare : name.head? ≠ some '[')
    (ascii : ∀ c ∈ name, c.toNat < 128 ∧ c ≠ '%')
    (unencoded : ∀ label ∈ (name.map Char.toLower).splitOn '.', label.take 4 ≠ acePrefix) :
    ofDomain name = if (name.map Char.toLower).all isHostChar then ofAscii (name.map Char.toLower)
      else .error .domainName := by
  have signless : '%' ∉ name := fun mem => (ascii '%' mem).2 rfl
  have read : Utf8.decode (name.flatMap String.utf8EncodeChar) = .ok name :=
    Utf8.decode_eq_ok.2 rfl
  have named : toAscii? (name.flatMap String.utf8EncodeChar) = ofChars? name := by
    rw [toAscii?, read]
  rw [ofDomain, bracketed_bare bare, Percent.decode_eq (Percent.sign_not_mem signless), named,
    ofChars_ascii (fun c mem => (ascii c mem).1) unencoded]
  cases (name.map Char.toLower).all isHostChar <;> rfl

/-- A plain name is not changed before it is judged. -/
theorem ofDomain_ofAscii (plain : ∀ c ∈ name, c ∈ nameChars)
    (unencoded : ∀ label ∈ name.splitOn '.', label.take 4 ≠ acePrefix) :
    ofDomain name = ofAscii name := by
  have stays (c : Char) (mem : c ∈ name) := nameChars_stay c (plain c mem)
  have bare : name.head? ≠ some '[' := fun front =>
    (stays '[' (List.mem_of_mem_head? front)).2.2.2 rfl
  have whole := ofDomain_ascii bare (fun c mem => ⟨(stays c mem).1, (stays c mem).2.2.1⟩)
    (by rwa [toLower_plain plain])
  rw [toLower_plain plain, if_pos (List.all_eq_true.2 fun c mem =>
    nameChars_host c (plain c mem))] at whole
  exact whole

/-! ### Domain names -/

/-- A letter in front of the last label tells that it is no number. -/
theorem endsInNumber_letter {front : List (List Char)} {c : Char} {more : List Char}
    (labels : name.splitOn '.' = front ++ [c :: more]) (letter : c ∈ smallLetters) :
    endsInNumber name = false := by
  obtain ⟨notZero, notDigit, noValue⟩ := smallLetters_other c letter
  have whole : parts name = front ++ [c :: more] := by
    simp [parts, labels]
  have base : baseAndDigits (c :: more) = (10, c :: more) := by
    unfold baseAndDigits
    split <;> simp_all
  have noPart : part? (c :: more) = none := by
    simp [part?, base, noValue]
  simp [endsInNumber, whole, notDigit, noPart]

/-! ### IPv4 addresses -/

theorem baseAndDigits_ofNat (n : Nat) :
    baseAndDigits (Digits.ofNat 10 n) = (10, Digits.ofNat 10 n) := by
  rcases Nat.eq_zero_or_pos n with rfl | positive
  · rfl
  · have head := Digits.head_ofNat (by decide : 1 < 10) (by decide) positive
    unfold baseAndDigits
    split
    · next front => exact absurd (by rw [front]; rfl) head
    · next front => exact absurd (by rw [front]; rfl) head
    · next front => exact absurd (by rw [front]; rfl) head
    · rfl

theorem part_ofNat (n : Nat) : part? (Digits.ofNat 10 n) = some n := by
  have filled := List.isEmpty_eq_false_iff.2 (Digits.ofNat_ne_nil 10 n)
  have digits : ((Digits.ofNat 10 n).any fun c => (Digits.value? 10 c).isNone) = false := by
    rw [List.any_eq_false]
    intro c mem
    have digit := Digits.isSome_value (by decide : 1 < 10) (by decide) n c mem
    simp [Option.isNone_eq_false_iff.2 digit]
  simp [part?, baseAndDigits_ofNat, digits, filled, Digits.toNat_ofNat]

/-- The number that four octets make. -/
theorem ofNat_octets (a b c d : UInt8) :
    Ipv4.ofNat (((a.toNat * 256 + b.toNat) * 256 + c.toNat) * 256 + d.toNat) = ⟨a, b, c, d⟩ := by
  have octet {n : Nat} {x : UInt8} (h : n % 256 = x.toNat) : UInt8.ofNat n = x := by
    rw [← UInt8.toNat_inj, UInt8.toNat_ofNat']
    exact h
  have := a.toNat_lt
  have := b.toNat_lt
  have := c.toNat_lt
  have := d.toNat_lt
  rw [Ipv4.ofNat, Ipv4.mk.injEq]
  refine ⟨octet ?_, octet ?_, octet ?_, octet ?_⟩
  · rw [Nat.shiftRight_eq_div_pow]
    omega
  · rw [Nat.shiftRight_eq_div_pow]
    omega
  · rw [Nat.shiftRight_eq_div_pow]
    omega
  · omega

theorem ipv4OfNumbers_octets (ip : Ipv4) :
    ipv4OfNumbers? [ip.a.toNat, ip.b.toNat, ip.c.toNat, ip.d.toNat] = some ip := by
  have a := ip.a.toNat_lt
  have b := ip.b.toNat_lt
  have c := ip.c.toNat_lt
  have d := ip.d.toNat_lt
  have short : ¬ 3 < [ip.c.toNat, ip.b.toNat, ip.a.toNat].length := by simp
  have octets : [ip.c.toNat, ip.b.toNat, ip.a.toNat].any (255 < ·) = false := by
    simp
    omega
  have room : ¬ Nat.pow 256 (4 - [ip.c.toNat, ip.b.toNat, ip.a.toNat].length) ≤ ip.d.toNat :=
    Nat.not_le.2 d
  have address := ofNat_octets ip.a ip.b ip.c ip.d
  unfold ipv4OfNumbers?
  simp only [List.reverse_cons, List.reverse_nil, List.nil_append, List.cons_append, octets,
    decide_eq_false short, decide_eq_false room]
  simp [address]

theorem splitOn_ipv4 (ip : Ipv4) : ip.text.toList.splitOn '.' =
    [Digits.ofNat 10 ip.a.toNat, Digits.ofNat 10 ip.b.toNat, Digits.ofNat 10 ip.c.toNat,
      Digits.ofNat 10 ip.d.toNat] := by
  have dotless (b : UInt8) : '.' ∉ Digits.ofNat 10 b.toNat := fun dot =>
    absurd (Digits.isSome_value (by decide : 1 < 10) (by decide) _ '.' dot) (by decide)
  rw [Ipv4.toList_text, List.splitOn_append_cons_self_of_not_mem (dotless _),
    List.splitOn_append_cons_self_of_not_mem (dotless _),
    List.splitOn_append_cons_self_of_not_mem (dotless _), List.splitOn_eq_singleton (dotless _)]

/-- The text of an address is judged to be the address. -/
theorem ofAscii_ipv4 (ip : Ipv4) : ofAscii ip.text.toList = .ok (.v4 ip) := by
  have filled : Digits.ofNat 10 ip.d.toNat ≠ [] := Digits.ofNat_ne_nil _ _
  have whole : parts ip.text.toList = [Digits.ofNat 10 ip.a.toNat, Digits.ofNat 10 ip.b.toNat,
      Digits.ofNat 10 ip.c.toNat, Digits.ofNat 10 ip.d.toNat] := by
    simp [parts, splitOn_ipv4, filled]
  have number : endsInNumber ip.text.toList = true := by
    simp [endsInNumber, whole, part_ofNat]
  have named : ip.text.toList.isEmpty = false := by
    simp [Ipv4.toList_text]
  have numbers : (parts ip.text.toList).mapM part? =
      some [ip.a.toNat, ip.b.toNat, ip.c.toNat, ip.d.toNat] := by
    simp [whole, part_ofNat]
  rw [ofAscii, named, number, ipv4?, numbers, Option.bind_some, ipv4OfNumbers_octets]
  rfl

theorem ofDomain_ipv4 (ip : Ipv4) : ofDomain ip.text.toList = .ok (.v4 ip) := by
  have plain : ∀ c ∈ ip.text.toList, c ∈ nameChars := Ipv4.forall_text (by decide) (by decide) ip
  have unencoded : ∀ label ∈ ip.text.toList.splitOn '.', label.take 4 ≠ acePrefix := by
    have digits (b : UInt8) : (Digits.ofNat 10 b.toNat).take 4 ≠ acePrefix := by
      intro encoded
      have x : 'x' ∈ acePrefix := by decide
      rw [← encoded] at x
      exact absurd (Digits.isSome_value (by decide : 1 < 10) (by decide) _ 'x'
        (List.mem_of_mem_take x)) (by decide)
    rw [splitOn_ipv4]
    simp [digits]
  rw [ofDomain_ofAscii plain unencoded, ofAscii_ipv4]

end Url.Host

/-! ## Plain domain names -/

/-- A name of labels in small letters, digits and hyphens, none of them in Punycode, and the last
with a letter at its front. -/
structure PlainDomain (name : String) : Prop where
  plain : ∀ c ∈ name.toList, c ∈ nameChars
  unencoded : ∀ label ∈ name.toList.splitOn '.', label.take 4 ≠ acePrefix
  letter : ∃ c ∈ (name.toList.splitOn '.').getLast?.bind List.head?, c ∈ smallLetters

namespace PlainDomain

variable {name : String}

theorem lastLabel (h : PlainDomain name) : ∃ front c more,
    name.toList.splitOn '.' = front ++ [c :: more] ∧ c ∈ smallLetters := by
  obtain ⟨c, mem, letter⟩ := h.letter
  obtain ⟨label, last, head⟩ := Option.bind_eq_some_iff.1 mem
  obtain ⟨front, whole⟩ := List.getLast?_eq_some_iff.1 last
  obtain ⟨more, rfl⟩ := List.head?_eq_some_iff.1 head
  exact ⟨front, c, more, whole, letter⟩

theorem exists_letter (h : PlainDomain name) : ∃ c ∈ name.toList, c ∈ smallLetters := by
  obtain ⟨front, c, more, labels, letter⟩ := h.lastLabel
  have whole : ['.'].intercalate (name.toList.splitOn '.') = name.toList :=
    List.intercalate_splitOn '.'
  refine ⟨c, ?_, letter⟩
  rw [← whole, labels]
  exact mem_intercalate_of_mem (List.mem_append_right _ List.mem_cons_self) List.mem_cons_self

theorem ofDomain (h : PlainDomain name) : Url.Host.ofDomain name.toList = .ok (.name name) := by
  obtain ⟨front, c, more, labels, letter⟩ := h.lastLabel
  obtain ⟨_, mem, _⟩ := h.exists_letter
  have named : name.toList.isEmpty = false :=
    List.isEmpty_eq_false_iff.2 (List.ne_nil_of_mem mem)
  rw [Url.Host.ofDomain_ofAscii h.plain h.unencoded, Url.Host.ofAscii, named,
    Url.Host.endsInNumber_letter labels letter]
  simp

theorem bare (h : PlainDomain name) : Bare name.toList := by
  have other : ∀ c ∈ nameChars, c ≠ '[' ∧ c ≠ ']' := List.all_iff_forall_prop.1 (by decide)
  exact fun c mem => other c (h.plain c mem)

/-- Plain names are no addresses. -/
theorem parse (h : PlainDomain name) : Target.parse name = .domain name := by
  have colonless : ':' ∉ name.toList := fun mem => absurd (h.plain _ mem) (by decide)
  have notIp : Ip.parse? name.toList = none := by
    unfold Ip.parse?
    split
    · next ip read =>
      obtain ⟨front, whole, -, all⟩ := Ipv4.of_read read
      obtain ⟨c, mem, letter⟩ := h.exists_letter
      rw [List.append_nil] at whole
      obtain ⟨-, -, noValue⟩ := smallLetters_other c letter
      rcases all c (whole ▸ mem) with rfl | digit
      · exact absurd letter (by decide)
      · rw [noValue] at digit
        cases digit
    · rfl
    · rw [Ipv6.parse_colonless colonless]
      rfl
  rw [Target.parse, h.bare.unbracketed, notIp]

end PlainDomain

end Sluice

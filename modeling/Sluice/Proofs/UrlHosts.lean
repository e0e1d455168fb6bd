import Sluice.Url.Basic
import Sluice.Proofs.VisibleText

/-
  The host of a URL can be seen in every character, whatever the URL is. A domain name is looked at
  character by character before it is written in ASCII, and Punycode adds nothing but letters,
  digits and hyphens (`visible_encode`); what a Punycode label does not show itself, its meaning
  shows (`visible_of_decode`). In other names the control characters are encoded and blanks are
  refused.
-/

namespace Sluice

open Http (isVisible)

/-! ## Punycode -/

namespace Idna.Punycode

theorem threshold_bounds (k bias : Nat) : 1 ≤ threshold k bias ∧ threshold k bias ≤ 26 := by
  unfold threshold minThreshold maxThreshold
  omega

theorem visible_digitChar {n : Nat} (h : n < 36) : isVisible (digitChar n) = true := by
  have all : ∀ n < 36, isVisible (digitChar n) = true := by decide
  exact all n h

theorem visible_of_digitValue {c : Char} {n : Nat} (h : digitValue? c = some n) :
    isVisible c = true := by
  have bounds : 48 ≤ c.toNat ∧ c.toNat ≤ 122 := by
    unfold digitValue? at h
    simp only [Char.le_def, UInt32.le_iff_toNat_le] at h
    split at h
    · next small =>
      change 97 ≤ c.toNat ∧ c.toNat ≤ 122 at small
      omega
    · split at h
      · next capital =>
        change 65 ≤ c.toNat ∧ c.toNat ≤ 90 at capital
        omega
      · split at h
        · next digit =>
          change 48 ≤ c.toNat ∧ c.toNat ≤ 57 at digit
          omega
        · simp at h
  simp only [isVisible, Bool.and_eq_true, decide_eq_true_eq, bne_iff_ne]
  omega

/-! ### Writing -/

theorem visible_numberDigits (n k bias : Nat) :
    ∀ c ∈ numberDigits n k bias, isVisible c = true := by
  fun_induction numberDigits n k bias with
  | case1 n k t last =>
    obtain ⟨positive, bound⟩ := threshold_bounds k bias
    intro c h
    rw [List.mem_singleton.1 h]
    refine visible_digitChar ?_
    simp only [base, t] at last
    omega
  | case2 n k t more ih =>
    obtain ⟨positive, bound⟩ := threshold_bounds k bias
    intro c h
    rcases List.mem_cons.1 h with rfl | h
    · refine visible_digitChar ?_
      have : (n - t) % (base - t) < base - t := Nat.mod_lt _ (by simp only [base, t]; omega)
      simp only [base, t] at this ⊢
      omega
    · exact ih c h

theorem visible_encodeChar {code : Nat} {s : Encoding} (h : ∀ c ∈ s.output, isVisible c = true)
    (c : Char) : ∀ c' ∈ (encodeChar code s c).output, isVisible c' = true := by
  unfold encodeChar
  split
  · exact h
  · split
    · intro c' mem
      rcases List.mem_append.1 mem with mem | mem
      · exact visible_numberDigits _ _ _ c' (List.mem_reverse.1 mem)
      · exact h c' mem
    · exact h

theorem visible_encodeRound {cs : List Char} {s : Encoding × Nat}
    (h : ∀ c ∈ s.1.output, isVisible c = true) (code : Nat) :
    ∀ c ∈ (encodeRound cs s code).1.output, isVisible c = true := by
  have fold : ∀ (cs : List Char) (s : Encoding), (∀ c ∈ s.output, isVisible c = true) →
      ∀ c ∈ (cs.foldl (encodeChar code) s).output, isVisible c = true := by
    intro cs
    induction cs with
    | nil => exact fun s h => h
    | cons c cs ih => exact fun s h => ih _ (visible_encodeChar h c)
  exact fold cs _ h

theorem visible_encode {cs : List Char} (h : ∀ c ∈ cs, isVisible c = true) :
    ∀ c ∈ encode cs, isVisible c = true := by
  have fold : ∀ (codes : List Nat) (s : Encoding × Nat), (∀ c ∈ s.1.output, isVisible c = true) →
      ∀ c ∈ (codes.foldl (encodeRound cs) s).1.output, isVisible c = true := by
    intro codes
    induction codes with
    | nil => exact fun s h => h
    | cons code codes ih => exact fun s h => ih _ (visible_encodeRound h code)
  intro c mem
  refine fold _ _ ?_ c (List.mem_reverse.1 mem)
  intro c mem
  dsimp only at mem
  split at mem
  · exact absurd mem List.not_mem_nil
  · rcases List.mem_cons.1 mem with rfl | mem
    · decide
    · exact h c (List.mem_filter.1 (List.mem_reverse.1 mem)).1

/-! ### Reading -/

/-- Digits put characters in and take none out. -/
theorem of_decodeDigits {s : Decoding} {sum weight k : Nat} {digits text : List Char}
    (h : decodeDigits s sum weight k digits = some text) :
    (∀ c ∈ s.text, c ∈ text) ∧ ∀ c ∈ digits, (digitValue? c).isSome := by
  have some_of {c : Char} {n : Nat} (value : digitValue? c = some n) : (digitValue? c).isSome :=
    Option.isSome_of_eq_some value
  fun_induction decodeDigits s sum weight k digits <;> try simp at h
  case case1 =>
    subst h
    exact ⟨fun c mem => mem, fun c mem => absurd mem List.not_mem_nil⟩
  case case7 s _ _ _ _ _ _ value _ _ _ _ _ _ _ _ _ at' ih =>
    obtain ⟨text, rest⟩ := ih h
    refine ⟨fun c mem => text c ?_, List.forall_mem_cons.2 ⟨some_of value, rest⟩⟩
    rw [← List.take_append_drop at' s.text] at mem
    rcases List.mem_append.1 mem with mem | mem
    · exact List.mem_append_left _ mem
    · exact List.mem_append_right _ (List.mem_cons_of_mem _ mem)
  case case9 value _ _ _ _ _ ih =>
    obtain ⟨text, rest⟩ := ih h
    exact ⟨text, List.forall_mem_cons.2 ⟨some_of value, rest⟩⟩

theorem mem_splitBasic {c : Char} {cs : List Char} (h : c ∈ cs) :
    c ∈ (splitBasic cs).1 ∨ c = '-' ∨ c ∈ (splitBasic cs).2 := by
  unfold splitBasic
  dsimp only
  split
  · exact Or.inr (Or.inr h)
  · next hyphen =>
    have whole := List.takeWhile_append_dropWhile (p := (· ≠ '-')) (l := cs.reverse)
    generalize cs.reverse.takeWhile (· ≠ '-') = tail at whole hyphen ⊢
    cases rest : cs.reverse.dropWhile (· ≠ '-') with
    | nil =>
      rw [rest, List.append_nil] at whole
      exact absurd (Or.inl (by rw [whole, List.length_reverse])) hyphen
    | cons first more =>
      have stop : first = '-' := by
        have := List.head?_dropWhile_not (· ≠ '-') cs.reverse
        rw [rest] at this
        simpa using this
      rw [rest, stop] at whole
      have all : cs = more.reverse ++ '-' :: tail.reverse := by
        rw [← List.reverse_reverse cs, ← whole]
        simp
      have front : cs.take (cs.length - tail.length - 1) = more.reverse := by
        rw [all]
        refine List.take_left' ?_
        simp
        omega
      rw [front]
      rw [all] at h
      simpa using h

/-- A character of a text is in what the text is in Punycode for, unless it is a digit or the
hyphen in front of them. -/
theorem mem_of_decode {cs meant : List Char} (h : decode cs = some meant) {c : Char}
    (mem : c ∈ cs) : c ∈ meant ∨ c = '-' ∨ (digitValue? c).isSome := by
  unfold decode at h
  dsimp only at h
  split at h
  · obtain ⟨text, digits⟩ := of_decodeDigits h
    exact (mem_splitBasic mem).imp (text c) (Or.imp_right (digits c))
  · simp at h

/-- What a text is in Punycode for shows what the text does not. -/
theorem visible_of_decode {cs meant : List Char} (h : decode cs = some meant)
    (visible : ∀ c ∈ meant, isVisible c = true) : ∀ c ∈ cs, isVisible c = true := by
  intro c mem
  rcases mem_of_decode h mem with mem | rfl | digit
  · exact visible c mem
  · decide
  · obtain ⟨n, value⟩ := Option.isSome_iff_exists.1 digit
    exact visible_of_digitValue value

end Idna.Punycode

/-! ## Domain names -/

namespace Idna

theorem visible_of_isHostChar {c : Char} (h : isHostChar c = true) : isVisible c = true := by
  simp only [isHostChar, Bool.not_eq_true', Bool.or_eq_false_iff, decide_eq_false_iff_not,
    beq_eq_false_iff_ne] at h
  simp only [isVisible, Bool.and_eq_true, decide_eq_true_eq, bne_iff_ne]
  omega

/-- A label that means nothing hidden is written so. -/
theorem visible_label {cs : List Char} {l : Label} (h : Label.of? cs = some l)
    (meant : ∀ c ∈ l.meant, isVisible c = true) : ∀ c ∈ l.written, isVisible c = true := by
  have ace : ∀ c ∈ acePrefix, isVisible c = true := List.all_eq_true.1 (by decide)
  unfold Label.of? at h
  dsimp only at h
  split at h
  · next starts =>
    split at h
    · simp at h
    · split at h
      · simp at h
      · next decoded =>
        split at h
        · simp at h
        · obtain rfl := Option.some.inj h
          intro c mem
          rw [← List.take_append_drop 4 cs, starts] at mem
          rcases List.mem_append.1 mem with mem | mem
          · exact ace c mem
          · exact Punycode.visible_of_decode decoded meant c mem
  · split at h
    · obtain rfl := Option.some.inj h
      exact meant
    · split at h
      · simp at h
      · obtain rfl := Option.some.inj h
        intro c mem
        rcases List.mem_append.1 mem with mem | mem
        · exact ace c mem
        · exact Punycode.visible_encode meant c mem

theorem mem_intercalate {c : Char} {separator : List Char} {parts : List (List Char)}
    (h : c ∈ separator.intercalate parts) : c ∈ separator ∨ ∃ part ∈ parts, c ∈ part := by
  induction parts with
  | nil => simp at h
  | cons part parts ih =>
    cases parts with
    | nil =>
      rw [List.intercalate_singleton] at h
      exact Or.inr ⟨part, List.mem_cons_self, h⟩
    | cons next parts =>
      rw [List.intercalate_cons_cons] at h
      rcases List.mem_append.1 h with h | h
      · rcases List.mem_append.1 h with h | h
        · exact Or.inr ⟨part, List.mem_cons_self, h⟩
        · exact Or.inl h
      · exact (ih h).imp_right fun ⟨p, mem, inPart⟩ => ⟨p, List.mem_cons_of_mem _ mem, inPart⟩

theorem label_of_mapM {texts : List (List Char)} {labels : List Label} {l : Label}
    (h : texts.mapM Label.of? = some labels) (mem : l ∈ labels) : ∃ cs, Label.of? cs = some l := by
  induction texts generalizing labels with
  | nil =>
    obtain rfl := Option.some.inj (List.mapM_nil.symm.trans h)
    exact absurd mem List.not_mem_nil
  | cons cs texts ih =>
    rw [List.mapM_cons] at h
    obtain ⟨first, read, h⟩ := Option.bind_eq_some_iff.1 h
    obtain ⟨others, rest, h⟩ := Option.bind_eq_some_iff.1 h
    obtain rfl := Option.some.inj h
    rcases List.mem_cons.1 mem with rfl | mem
    · exact ⟨cs, read⟩
    · exact ih rest mem

theorem visible_ofChars {cs ascii : List Char} (h : ofChars? cs = some ascii) :
    ∀ c ∈ ascii, isVisible c = true := by
  obtain ⟨mapped, -, h⟩ := Option.bind_eq_some_iff.1 h
  obtain ⟨labels, read, h⟩ := Option.bind_eq_some_iff.1 h
  dsimp only at h
  split at h
  · next fits =>
    obtain rfl := Option.some.inj h
    intro c mem
    rcases mem_intercalate mem with dot | ⟨part, mem, inPart⟩
    · rw [List.mem_singleton.1 dot]
      decide
    · obtain ⟨l, label, rfl⟩ := List.mem_map.1 mem
      obtain ⟨text, read⟩ := label_of_mapM read label
      have fits := List.all_eq_true.1 fits l label
      rw [Bool.and_eq_true] at fits
      refine visible_label read (fun c mem => ?_) c inPart
      exact visible_of_isHostChar (List.all_eq_true.1 fits.1 c mem)
  · simp at h

theorem visible_toAscii {name : Octets} {ascii : List Char} (h : toAscii? name = some ascii) :
    ∀ c ∈ ascii, isVisible c = true := by
  unfold toAscii? at h
  split at h
  · exact visible_ofChars h
  · simp at h

end Idna

/-! ## Hosts -/

namespace Url

/-- Does whatever a reading comes to have this property? -/
def Answers {α : Type} (P : α → Prop) (reading : Except Fault α) : Prop :=
  ∀ a, reading = .ok a → P a

theorem answers_ok {α : Type} {P : α → Prop} {a : α} (h : P a) : Answers P (.ok a) :=
  fun _ e => Except.ok.inj e ▸ h

theorem answers_bind {α β : Type} {P : α → Prop} {Q : β → Prop} {reading : Except Fault α}
    {f : α → Except Fault β} (h : Answers P reading) (hf : ∀ a, P a → Answers Q (f a)) :
    Answers Q (reading >>= f) := by
  cases reading with
  | error e => exact fun b h => nomatch h
  | ok a => exact hf a (h a rfl)

theorem answers_all {α : Type} (reading : Except Fault α) : Answers (fun _ => True) reading :=
  fun _ _ => trivial

namespace Host

/-- What an encoded name is made of: what no name may hold is not there, and the rest is seen. -/
def isEncoded (c : Char) : Bool :=
  !isForbidden c && decide (32 < c.toNat) && decide (c.toNat < 127)

theorem isEncoded_octet (b : UInt8) : ∀ c ∈ Percent.encodeOctet b, isEncoded c = true := by
  have digit : ∀ n < 16, isEncoded (Nat.digitChar n).toUpper = true := by
    simp only [isEncoded, isForbidden, String.contains_char_eq]
    decide
  have sign : isEncoded '%' = true := by
    simp only [isEncoded, isForbidden, String.contains_char_eq]
    decide
  have := b.toNat_lt
  unfold Percent.encodeOctet
  simp only [List.forall_mem_cons]
  exact ⟨sign, digit _ (by omega), digit _ (by omega), nofun⟩

/-- What is not forbidden is encoded, or needs no encoding. -/
theorem isEncoded_encode {s : List Char} (allowed : s.any isForbidden = false) :
    ∀ c ∈ Percent.encode Percent.isControl s, isEncoded c = true := by
  intro c mem
  obtain ⟨d, there, inside⟩ := List.mem_flatMap.1 mem
  split at inside
  · obtain ⟨b, -, octet⟩ := List.mem_flatMap.1 inside
    exact isEncoded_octet b c octet
  · next other =>
    obtain rfl := List.mem_singleton.1 inside
    have kept := List.any_eq_false.1 allowed c there
    have space : c ≠ ' ' := by
      rintro rfl
      refine kept ?_
      simp only [isForbidden, String.contains_char_eq]
      decide
    have code : c.toNat ≠ 32 := fun same => space (by rw [← Char.ofNat_toNat c, same])
    simp only [Percent.isControl, Bool.or_eq_true, beq_iff_eq, decide_eq_true_eq, not_or,
      Nat.not_lt, Nat.not_le] at other
    simp only [isEncoded, Bool.eq_false_iff.2 kept, Bool.not_false, Bool.true_and,
      Bool.and_eq_true, decide_eq_true_eq]
    omega

theorem visible_bracketed {s : List Char} {host : Host} (h : bracketed? s = some (.ok host)) :
    Visible host.text := by
  unfold bracketed? at h
  split at h
  · split at h
    · next rest _ _ =>
      have parsed := Option.some.inj h
      cases ip : Ipv6.parse? rest.dropLast with
      | none => simp [ip] at parsed
      | some ip' =>
        rw [ip] at parsed
        obtain rfl := Except.ok.inj parsed
        exact (Visible.append (by decide) (Visible.groupText ip')).append (by decide)
    · simp at h
  · simp at h

theorem visible_ofOpaque {s : List Char} {host : Host} (h : ofOpaque s = .ok host) :
    Visible host.text := by
  unfold ofOpaque at h
  split at h
  · next host' bracketed =>
    rw [h] at bracketed
    exact visible_bracketed bracketed
  · split at h
    · simp at h
    · next allowed =>
      obtain rfl := Except.ok.inj h
      refine Visible.ofList fun c mem => ?_
      have encoded := isEncoded_encode (Bool.eq_false_iff.2 allowed) c mem
      simp only [isEncoded, Bool.and_eq_true, decide_eq_true_eq] at encoded
      simp only [isVisible, Bool.and_eq_true, decide_eq_true_eq, bne_iff_ne]
      omega

theorem visible_ofDomain {s : List Char} {host : Host} (h : ofDomain s = .ok host) :
    Visible host.text := by
  unfold ofDomain at h
  split at h
  · next host' bracketed =>
    rw [h] at bracketed
    exact visible_bracketed bracketed
  · split at h
    · simp at h
    · next ascii name =>
      unfold ofAscii at h
      split at h
      · simp at h
      · split at h
        · split at h
          · next ip _ =>
            obtain rfl := Except.ok.inj h
            exact Visible.ipv4 ip
          · simp at h
        · obtain rfl := Except.ok.inj h
          exact Visible.ofList (Idna.visible_toAscii name)

end Host

/-- Nothing is hidden in the host of a URL, if there is one. -/
def Shown (host : Option Host) : Prop :=
  ∀ h, host = some h → Visible h.text

theorem shown_none : Shown none :=
  nofun

theorem shown_hostOf (manner : Manner) (text : List Char) : Answers Shown (hostOf manner text) := by
  have some_of {reading : Except Fault Host} (h : ∀ host, reading = .ok host → Visible host.text) :
      Answers Shown (reading.map some) := by
    cases reading with
    | error e => exact fun _ h => nomatch h
    | ok host => exact answers_ok fun host' e => Option.some.inj e ▸ h host rfl
  unfold hostOf
  split
  · split
    · exact fun _ h => nomatch h
    · exact answers_ok shown_none
  · split
    · exact some_of fun host => Host.visible_ofDomain
    · exact some_of fun host => Host.visible_ofOpaque

theorem shown_readAuthority (scheme : String) (manner : Manner) (s : List Char) :
    Answers (fun url => Shown url.host) (readAuthority scheme manner s) := by
  unfold readAuthority
  dsimp only
  split
  · exact fun _ h => nomatch h
  · refine answers_bind (shown_hostOf manner _) fun host shown => ?_
    split
    · exact fun _ h => nomatch h
    · refine answers_bind (answers_all _) fun port _ => ?_
      split
      · exact fun _ h => nomatch h
      · exact answers_ok shown

theorem shown_fileHost (text : List Char) : Answers Shown (fileHost text) := by
  unfold fileHost
  split
  · exact answers_ok shown_none
  · have domain : Answers (fun host : Host => Visible host.text) (Host.ofDomain text) :=
      fun _ => Host.visible_ofDomain
    refine answers_bind domain fun host visible => answers_ok fun h e => ?_
    split at e
    · simp at e
    · exact Option.some.inj e ▸ visible

theorem shown_readFile (s : List Char) : Answers (fun url => Shown url.host) (readFile s) := by
  have hidden {host : Option Host} (shown : Shown host) (p : Prop) [Decidable p] :
      Shown (if p then none else host) := by
    split
    · exact shown_none
    · exact shown
  unfold readFile
  split
  · split
    · dsimp only
      split
      · exact answers_ok (hidden shown_none _)
      · exact answers_bind (shown_fileHost _) fun host shown => answers_ok (hidden shown _)
    · exact answers_ok shown_none
  · exact answers_ok shown_none

/-- What holds however a URL goes on behind its scheme holds of every URL. -/
theorem answers_parse {P : Url → Prop}
    (authority : ∀ scheme manner s, Answers P (readAuthority scheme manner s))
    (file : ∀ s, Answers P (readFile s)) (bare : ∀ scheme, P { scheme }) (text : String) :
    Answers P (parse text) := by
  unfold parse
  split
  · exact fun _ h => nomatch h
  · unfold readRest
    split
    · exact authority _ _ _
    · exact file _
    · split
      · exact authority _ _ _
      · exact answers_ok (bare _)

/-- Whatever the URL, its host can be seen. -/
theorem shown_parse (text : String) : Answers (fun url => Shown url.host) (parse text) :=
  answers_parse shown_readAuthority shown_readFile (fun _ => shown_none) text

end Url

end Sluice

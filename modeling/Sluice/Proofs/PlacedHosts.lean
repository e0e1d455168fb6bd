import Sluice.Proofs.AsciiNames
import Sluice.Proofs.Authorities

/-
  Hosts in front of a port. What is made of a host in reading it stands there and is read as itself
  (`Url.Stands`): an address, the name of a scheme that says nothing of names
  (`Url.stands_opaque`), and a domain name in ASCII that was not encoded (`Url.stands_domain`).
-/

namespace Sluice.Url

/-! ## Hosts in front of a port -/

/-- A host in front of a port: an IPv6 address is in brackets. -/
def placed (host : String) : List Char :=
  if host.toList.contains ':' then '[' :: (host.toList ++ [']']) else host.toList

/-- May the character stand in front of a port? -/
def IsPlaced (c : Char) : Prop :=
  32 < c.toNat ∧ c ≠ '@' ∧ c ∉ enders

instance : DecidablePred IsPlaced :=
  fun _ => inferInstanceAs (Decidable (_ ∧ _))

/-- A host as it is shown, an IPv6 address without brackets. -/
def Host.shown (h : Host) : String :=
  String.ofList (unbracketed h.text.toList)

theorem Host.shown_bare {h : Host} (bare : Bare h.text.toList) : h.shown = h.text := by
  rw [shown, bare.unbracketed, String.ofList_toList]

theorem Host.shown_ipv4 (ip : Ipv4) : (Host.v4 ip).shown = ip.text :=
  shown_bare (Ipv4.forall_text (by decide) (by decide) ip)

theorem Host.shown_ipv6 (ip : Ipv6) : (Host.v6 ip).shown = ip.groupText := by
  have text : (Host.v6 ip).text.toList = '[' :: (ip.groupText.toList ++ [']']) := by
    show ("[" ++ ip.groupText ++ "]").toList = _
    simp
  rw [shown, text, (bare_groupText ip).unbracketed_brackets, String.ofList_toList]

/-- A host that is read as itself where it stands. -/
structure Stands (manner : Manner) (host : String) : Prop where
  read : ∃ h : Host, hostOf manner (placed host) = .ok (some h) ∧ h.text ≠ "" ∧
    h.shown = host
  inside : ∀ c ∈ placed host, IsPlaced c
  length : ∀ behind, hostLength false (placed host ++ ':' :: behind) = (placed host).length

theorem stands_ipv6 (manner : Manner) (ip : Ipv6) : Stands manner ip.groupText := by
  have colon : ip.groupText.toList.contains ':' = true := by
    -- Nothing without a colon is read as an IPv6 address.
    rw [List.contains_iff_mem]
    by_contra colonless
    have parsed := ip.parse_groupText
    rw [Ipv6.parse_colonless colonless] at parsed
    cases parsed
  have place : placed ip.groupText = '[' :: (ip.groupText.toList ++ [']']) := if_pos colon
  have bracketed : Host.bracketed? (placed ip.groupText) = some (.ok (.v6 ip)) := by
    rw [place, Host.bracketed_parse ip.parse_groupText]
  have text : (Host.v6 ip).text.toList = placed ip.groupText := by
    rw [place]
    show ("[" ++ ip.groupText ++ "]").toList = _
    simp
  refine ⟨⟨.v6 ip, ?_, ?_, ?_⟩, ?_, ?_⟩
  · have filled : (placed ip.groupText).isEmpty = false := by rw [place]; rfl
    rw [hostOf, filled, Host.ofDomain, Host.ofOpaque, bracketed]
    cases manner <;> rfl
  · intro empty
    rw [empty, place] at text
    cases text
  · exact Host.shown_ipv6 ip
  · have group : ∀ c ∈ ip.groupText.toList, IsPlaced c :=
      Ipv6.forall_groupText (by decide) (by decide) ip
    rw [place]
    refine List.forall_mem_cons.2 ⟨by decide, List.forall_mem_append.2 ⟨group, ?_⟩⟩
    exact List.forall_mem_singleton.2 (by decide)
  · intro behind
    rw [place]
    simp [hostLength_brackets (bare_groupText ip)]

/-- May the character stand in a host without brackets? -/
def IsNamed (c : Char) : Prop :=
  IsPlaced c ∧ c ≠ ':' ∧ c ≠ '[' ∧ c ≠ ']'

instance : DecidablePred IsNamed :=
  fun _ => inferInstanceAs (Decidable (_ ∧ _))

theorem hostOf_eq_ok {manner : Manner} {s : List Char} {h : Host} :
    hostOf manner s = .ok (some h) ↔
      s ≠ [] ∧ (if manner.isSpecial then Host.ofDomain s else Host.ofOpaque s) = .ok h := by
  have map (e : Except Fault Host) : e.map some = .ok (some h) ↔ e = .ok h := by
    cases e with
    | error fault => exact ⟨nofun, nofun⟩
    | ok h' => simp [Except.map]
  cases s with
  | nil => cases manner <;> exact ⟨nofun, fun read => absurd rfl read.1⟩
  | cons c s => cases manner <;> exact (map _).trans ⟨fun read => ⟨nofun, read⟩, And.right⟩

/-- A host without brackets that is read as itself. -/
theorem stands_name (manner : Manner) {h : Host} (chars : ∀ c ∈ h.text.toList, IsNamed c)
    (filled : h.text ≠ "")
    (read : (if manner.isSpecial then Host.ofDomain h.text.toList
      else Host.ofOpaque h.text.toList) = .ok h) : Stands manner h.shown := by
  have hosted := hostOf_eq_ok.2 ⟨mt String.toList_eq_nil_iff.1 filled, read⟩
  have bare : Bare h.text.toList := fun c mem => (chars c mem).2.2
  have place : placed h.text = h.text.toList := by
    refine if_neg fun colon => ?_
    exact (chars ':' (List.contains_iff_mem.1 colon)).2.1 rfl
  rw [Host.shown_bare bare]
  refine ⟨⟨h, by rw [place, hosted], filled, Host.shown_bare bare⟩, ?_, ?_⟩
  · rw [place]
    exact fun c mem => (chars c mem).1
  · rw [place]
    exact fun behind => hostLength_plain fun c mem => ⟨(chars c mem).2.1, (chars c mem).2.2.1⟩

/-! ### Names of schemes that say nothing of names -/

theorem isNamed_of_isEncoded {c : Char} (h : Host.isEncoded c = true) : IsNamed c := by
  have small : c.toNat < 127 := by
    rw [Host.isEncoded, Bool.and_eq_true, decide_eq_true_eq] at h
    exact h.2
  refine forall_ascii (P := fun c => Host.isEncoded c = true → IsNamed c) ?_ (by omega) h
  simp only [Host.isEncoded, Host.isForbidden, String.contains_char_eq]
  decide +kernel

theorem encode_encoded {s : List Char} (all : ∀ c ∈ s, Host.isEncoded c = true) :
    Percent.encode Percent.isControl s = s := by
  refine encode_kept fun c mem => ?_
  have first := all c mem
  simp only [Host.isEncoded, Bool.and_eq_true, decide_eq_true_eq] at first
  refine ⟨?_, first.2⟩
  rw [Percent.isControl, Bool.or_eq_false_iff, decide_eq_false_iff_not, beq_eq_false_iff_ne]
  omega

theorem ofOpaque_encoded {s : List Char} (all : ∀ c ∈ s, Host.isEncoded c = true) :
    Host.ofOpaque s = .ok (.name (String.ofList s)) := by
  have bare : s.head? ≠ some '[' := fun front =>
    (isNamed_of_isEncoded (all '[' (List.mem_of_mem_head? front))).2.2.1 rfl
  have allowed : s.any Host.isForbidden = false := by
    refine List.any_eq_false.2 fun c mem => ?_
    have first := all c mem
    simp only [Host.isEncoded, Bool.and_eq_true, Bool.not_eq_true'] at first
    rw [first.1.1]
    exact Bool.false_ne_true
  rw [Host.ofOpaque, Host.bracketed_bare bare, allowed, encode_encoded all]
  rfl

/-- Brackets hold nothing but an IPv6 address. -/
theorem ipv6_of_bracketed {s : List Char} {h : Host} (read : Host.bracketed? s = some (.ok h)) :
    ∃ ip, h = .v6 ip := by
  unfold Host.bracketed? at read
  split at read
  · split at read
    · next rest _ _ =>
      have parsed := Option.some.inj read
      cases address : Ipv6.parse? rest.dropLast with
      | none =>
        rw [address] at parsed
        cases parsed
      | some ip =>
        rw [address] at parsed
        exact ⟨ip, (Except.ok.inj parsed).symm⟩
    · cases Option.some.inj read
  · cases read

theorem stands_encoded {name : String} (all : ∀ c ∈ name.toList, Host.isEncoded c = true)
    (filled : name ≠ "") : Stands .plain name := by
  have named : ∀ c ∈ name.toList, IsNamed c := fun c mem => isNamed_of_isEncoded (all c mem)
  have read := ofOpaque_encoded all
  rw [String.ofList_toList] at read
  have stands := stands_name .plain (h := .name name) named filled read
  rwa [Host.shown_bare (h := .name name) fun c mem => (named c mem).2.2] at stands

/-- An address is an address, or just a name. -/
theorem stands_ipv4 (manner : Manner) (ip : Ipv4) : Stands manner ip.text := by
  have filled : ip.text ≠ "" := by
    intro empty
    have text := ip.toList_text
    rw [empty] at text
    simp at text
  by_cases special : manner.isSpecial = true
  · have stands := stands_name manner (h := .v4 ip) (Ipv4.forall_text (by decide) (by decide) ip)
      filled (by rw [if_pos special]; exact Host.ofDomain_ipv4 ip)
    rwa [Host.shown_ipv4] at stands
  · obtain rfl : manner = .plain := by
      cases manner with
      | special port => exact absurd rfl special
      | file => exact absurd rfl special
      | plain => rfl
    have encoded : ∀ c ∈ ip.text.toList, Host.isEncoded c = true := by
      simp only [Host.isEncoded, Host.isForbidden, String.contains_char_eq]
      exact Ipv4.forall_text (by decide) (by decide) ip
    exact stands_encoded encoded filled

/-- The name that a text is encoded to is read as itself. -/
theorem stands_opaque {s : List Char} {h : Host} (read : Host.ofOpaque s = .ok h)
    (filled : h.text ≠ "") : Stands .plain h.shown := by
  unfold Host.ofOpaque at read
  split at read
  · next bracketed =>
    rw [read] at bracketed
    obtain ⟨ip, rfl⟩ := ipv6_of_bracketed bracketed
    rw [Host.shown_ipv6]
    exact stands_ipv6 _ ip
  · split at read
    · cases read
    · next allowed =>
      obtain rfl := Except.ok.inj read
      have encoded := Host.isEncoded_encode (Bool.eq_false_iff.2 allowed)
      generalize Percent.encode Percent.isControl s = name at encoded filled ⊢
      rw [← String.toList_ofList (l := name)] at encoded
      have bare : Bare (String.ofList name).toList := fun c mem =>
        (isNamed_of_isEncoded (encoded c mem)).2.2
      rw [Host.shown_bare (h := .name (String.ofList name)) bare]
      exact stands_encoded encoded filled

/-! ### Domain names -/

/-- A name in ASCII as it is written, where nothing is encoded. -/
structure Unencoded (name : List Char) : Prop where
  ascii : ∀ c ∈ name, c.toNat < 128 ∧ c ≠ '%'
  labels : ∀ label ∈ (name.map Char.toLower).splitOn '.', label.take 4 ≠ Idna.acePrefix

theorem toLower_toLower {c : Char} (ascii : c.toNat < 128) : c.toLower.toLower = c.toLower :=
  forall_ascii (P := fun c => c.toLower.toLower = c.toLower) (by decide +kernel) ascii

theorem isNamed_of_isHostChar {c : Char} (ascii : c.toNat < 128) (h : Idna.isHostChar c = true) :
    IsNamed c := by
  refine forall_ascii (P := fun c => Idna.isHostChar c = true → IsNamed c) ?_ ascii h
  simp only [Idna.isHostChar, String.contains_char_eq]
  decide +kernel

theorem ofDomain_bracketed {s : List Char} {h : Host} (read : Host.ofDomain s = .ok h)
    (opened : s.head? = some '[') : ∃ ip, h = .v6 ip := by
  unfold Host.ofDomain at read
  split at read
  · next bracketed =>
    rw [read] at bracketed
    exact ipv6_of_bracketed bracketed
  · next none =>
    obtain ⟨rest, rfl⟩ := List.head?_eq_some_iff.1 opened
    rw [Host.bracketed?] at none
    split at none <;> cases none

/-- What is judged to be a name is the name. -/
theorem ofAscii_cases {name : List Char} {h : Host} (read : Host.ofAscii name = .ok h) :
    (∃ ip, h = .v4 ip) ∨ name ≠ [] ∧ h = .name (String.ofList name) := by
  unfold Host.ofAscii at read
  split at read
  · cases read
  · next filled =>
    split at read
    · split at read
      · next ip _ => exact Or.inl ⟨ip, (Except.ok.inj read).symm⟩
      · cases read
    · refine Or.inr ⟨fun empty => filled (by rw [empty]; rfl), (Except.ok.inj read).symm⟩

/-- What is made of a name that is written without encoding is read as itself. -/
theorem stands_domain (port : UInt16) {name : List Char} (written : Unencoded name) {h : Host}
    (read : Host.ofDomain name = .ok h) : Stands (.special port) h.shown := by
  by_cases opened : name.head? = some '['
  · obtain ⟨ip, rfl⟩ := ofDomain_bracketed read opened
    rw [Host.shown_ipv6]
    exact stands_ipv6 _ ip
  · have ascii := Idna.ascii_small fun c mem => (written.ascii c mem).1
    -- What the first reading leaves is small and in ASCII already, so the second leaves it alone.
    have again : (name.map Char.toLower).map Char.toLower = name.map Char.toLower := by
      rw [List.map_map]
      exact List.map_congr_left fun c mem => toLower_toLower (written.ascii c mem).1
    have labels := written.labels
    rw [Host.ofDomain_ascii opened written.ascii written.labels] at read
    generalize name.map Char.toLower = lower at ascii again labels read
    split at read
    · next allowed =>
      have host := List.all_eq_true.1 allowed
      have named : ∀ c ∈ lower, IsNamed c := fun c mem =>
        isNamed_of_isHostChar (ascii c mem) (host c mem)
      have unsigned : '%' ∉ lower := fun mem => by
        have sign := host '%' mem
        simp [Idna.isHostChar] at sign
      rcases ofAscii_cases read with ⟨ip, rfl⟩ | ⟨filled, rfl⟩
      · rw [Host.shown_ipv4]
        exact stands_ipv4 _ ip
      · have text : (Host.name (String.ofList lower)).text.toList = lower := String.toList_ofList
        have filled' : (Host.name (String.ofList lower)).text ≠ "" := by
          rw [Ne, ← String.toList_eq_nil_iff, text]
          exact filled
        have same : Host.ofDomain lower = .ok (.name (String.ofList lower)) := by
          rw [Host.ofDomain_ascii (fun front => (named '[' (List.mem_of_mem_head? front)).2.2.1 rfl)
            (fun c mem => ⟨ascii c mem, fun sign => unsigned (sign ▸ mem)⟩) (by rwa [again]),
            again, if_pos allowed, read]
        refine stands_name _ ?_ filled' ?_
        · rw [text]
          exact named
        · rw [text]
          exact same
    · cases read

/-! ## Hosts and ports -/

section Placed

variable {manner : Manner} {place : List Char} {h : Host}

theorem forall_placed (inside : ∀ c ∈ place, IsPlaced c) (port : UInt16) :
    ∀ c ∈ place ++ ':' :: Digits.ofNat 10 port.toNat, IsPlaced c := by
  refine List.forall_mem_append.2 ⟨inside, List.forall_mem_cons.2 ⟨by decide, ?_⟩⟩
  exact Digits.forall_ofNat (by decide) (by decide) _

/-- Behind a host, what is left to read is the port. -/
theorem readWhere_behind (inside : ∀ c ∈ place, IsPlaced c)
    (length : ∀ behind, hostLength false (place ++ ':' :: behind) = place.length)
    (hosted : hostOf manner place = .ok (some h)) {behind : List Char}
    (rest : ∀ c ∈ behind, IsPlaced c) :
    readWhere manner (place ++ ':' :: behind) =
      (readPort manner (':' :: behind)).map fun port => (some h, port) := by
  have all : ∀ c ∈ place ++ ':' :: behind, IsPlaced c :=
    List.forall_mem_append.2 ⟨inside, List.forall_mem_cons.2 ⟨by decide, rest⟩⟩
  have stays : ∀ c ∈ place ++ ':' :: behind, (!endsAuthority manner c) = true := by
    intro c mem
    rw [Bool.eq_false_iff.2 fun ends => (all c mem).2.2 (mem_enders ends)]
    rfl
  rw [readWhere, List.span_eq_takeWhile_dropWhile, List.takeWhile_eq_self_iff.2 stays,
    List.dropWhile_eq_nil_iff.2 stays, readPlace, length]
  dsimp only
  rw [List.take_left, List.drop_left, List.append_nil, hosted]
  show readPort manner (':' :: behind) >>= _ = _
  cases readPort manner (':' :: behind) <;> rfl

theorem readWhere_placed (inside : ∀ c ∈ place, IsPlaced c)
    (length : ∀ behind, hostLength false (place ++ ':' :: behind) = place.length)
    (hosted : hostOf manner place = .ok (some h)) (port : UInt16) :
    readWhere manner (place ++ ':' :: Digits.ofNat 10 port.toNat) =
      .ok (some h, if some port = manner.defaultPort? then none else some port) := by
  have digits : ∀ c ∈ Digits.ofNat 10 port.toNat, IsPlaced c :=
    Digits.forall_ofNat (by decide) (by decide) _
  have read := readPort_ofNat manner port [] nofun
  rw [List.append_nil] at read
  rw [readWhere_behind inside length hosted digits, read]
  rfl

end Placed

end Sluice.Url

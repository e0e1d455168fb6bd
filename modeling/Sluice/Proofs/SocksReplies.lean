import Mathlib.Data.List.Basic
import Sluice.Proofs.Exchange
import Sluice.Proofs.Utf8
import Sluice.Proxy.Socks5

/-
  The messages of a SOCKS5 server, each heard by its reader: the way of signing in, whether that was
  granted, an address, and the reply to the request. A reader takes just the octets of one message.
  So no address is spelled as a front of another, or one could not know where it ends
  (`spelled_append_inj`).
-/

namespace Sluice

/-! ## Addresses as octets -/

namespace Ipv4

theorem ofOctets?_eq_some {s : Octets} {ip : Ipv4} : ofOctets? s = some ip ↔ s = ip.octets := by
  constructor
  · intro h
    unfold ofOctets? at h
    split at h
    · obtain rfl := Option.some.inj h
      rfl
    · cases h
  · rintro rfl
    rfl

end Ipv4

/-- A number of sixteen bits and its two octets. -/
theorem ofNat_toNat_eq_iff {s : Octets} {n : UInt16} (two : s.length = 2) :
    UInt16.ofNat (Octets.toNat s) = n ↔ s = Octets.ofNat 2 n.toNat := by
  constructor
  · rintro rfl
    have bound : Octets.toNat s < 65536 := by
      have := Octets.toNat_lt s
      rwa [two] at this
    rw [UInt16.toNat_ofNat', Nat.mod_eq_of_lt bound, ← two, Octets.ofNat_toNat]
  · rintro rfl
    rw [Octets.toNat_ofNat 2 _ n.toNat_lt, UInt16.ofNat_toNat]

namespace Ipv6

theorem group_eq (a b : UInt8) : group a b = UInt16.ofNat (Octets.toNat [a, b]) := by
  simp [group, Octets.toNat]

theorem pairUp_octets (groups : List UInt16) :
    pairUp (groups.flatMap fun g => Octets.ofNat 2 g.toNat) = groups := by
  induction groups with
  | nil => rfl
  | cons g groups ih =>
    obtain ⟨a, b, octets⟩ : ∃ a b, Octets.ofNat 2 g.toNat = [a, b] := ⟨_, _, rfl⟩
    have same : group a b = g := by
      rw [group_eq, ofNat_toNat_eq_iff rfl]
      exact octets.symm
    rw [List.flatMap_cons, octets, List.cons_append, List.cons_append, List.nil_append, pairUp, ih,
      same]

theorem octets_pairUp {s : Octets} (even : s.length % 2 = 0) :
    (pairUp s).flatMap (fun g => Octets.ofNat 2 g.toNat) = s := by
  fun_induction pairUp s with
  | case1 a b rest ih =>
    have even' : rest.length % 2 = 0 := by
      rw [List.length_cons, List.length_cons] at even
      omega
    have octets : Octets.ofNat 2 (group a b).toNat = [a, b] :=
      ((ofNat_toNat_eq_iff rfl).1 (group_eq a b).symm).symm
    rw [List.flatMap_cons, octets, ih even']
    rfl
  | case2 s odd =>
    cases s with
    | nil => rfl
    | cons a s =>
      cases s with
      | nil => simp at even
      | cons b rest => exact absurd rfl (odd a b rest)

theorem length_octets (ip : Ipv6) : ip.octets.length = 16 := by
  have width (groups : List UInt16) :
      (groups.flatMap fun g => Octets.ofNat 2 g.toNat).length = 2 * groups.length := by
    induction groups with
    | nil => rfl
    | cons g groups ih =>
      rw [List.flatMap_cons, List.length_append, ih, Octets.length_ofNat, List.length_cons]
      omega
  rw [octets, width, ip.length_groups]

theorem ofOctets?_eq_some {s : Octets} {ip : Ipv6} (even : s.length % 2 = 0) :
    ofOctets? s = some ip ↔ s = ip.octets := by
  unfold ofOctets? ofGroups?
  constructor
  · intro h
    split at h
    · obtain rfl := Option.some.inj h
      exact (octets_pairUp even).symm
    · cases h
  · rintro rfl
    have groups : pairUp ip.octets = ip.groups := pairUp_octets ip.groups
    rw [dif_pos (by rw [groups]; exact ip.length_groups)]
    congr

end Ipv6

namespace Target

/-- A host as SOCKS5 spells it: its kind and its octets, those of a name behind their number. -/
def spelled : Target → Octets
  | v4 ip => 1 :: ip.octets
  | v6 ip => 4 :: ip.octets
  | domain name => 3 :: UInt8.ofNat (Octets.ofText name).length :: Octets.ofText name

/-- Can the number of octets of a name be spelled? -/
def Short (t : Target) : Prop :=
  ∀ name, t = domain name → (Octets.ofText name).length ≤ 255

/-- An address, or a name that can be asked for. -/
def Sendable (t : Target) : Prop :=
  ∀ name, t = domain name → 1 ≤ (Octets.ofText name).length ∧ (Octets.ofText name).length ≤ 255

theorem spelled_v4 {s : Octets} {t : Target} :
    1 :: s = t.spelled ↔ ∃ ip, t = v4 ip ∧ s = ip.octets := by
  cases t <;> simp [spelled]

theorem spelled_v6 {s : Octets} {t : Target} :
    4 :: s = t.spelled ↔ ∃ ip, t = v6 ip ∧ s = ip.octets := by
  cases t <;> simp [spelled]

theorem spelled_domain {s : Octets} {t : Target} : 3 :: s = t.spelled ↔ ∃ name, t = domain name ∧
    s = UInt8.ofNat (Octets.ofText name).length :: Octets.ofText name := by
  cases t <;> simp [spelled]

theorem kind_of_spelled {b : UInt8} {s : Octets} {t : Target} (h : b :: s = t.spelled) :
    b = 1 ∨ b = 4 ∨ b = 3 := by
  cases t <;> simp_all [spelled]

theorem short_v4 (ip : Ipv4) : (v4 ip).Short := by
  intro name same
  cases same

theorem short_v6 (ip : Ipv6) : (v6 ip).Short := by
  intro name same
  cases same

theorem length_of_short {name : String} (short : (Octets.ofText name).length ≤ 255) :
    (Octets.ofText name).length = (UInt8.ofNat (Octets.ofText name).length).toNat := by
  rw [UInt8.toNat_ofNat', Nat.mod_eq_of_lt (Nat.lt_succ_of_le short)]

/-- A name of so many octets, and nothing behind it. -/
theorem spelled_name {b : UInt8} {octets rest : Octets} {t : Target}
    (length : octets.length = b.toNat) :
    3 :: b :: (octets ++ rest) = t.spelled ∧ t.Short ↔
      rest = [] ∧ ∃ name, t = domain name ∧ octets = Octets.ofText name := by
  rw [spelled_domain]
  constructor
  · rintro ⟨⟨name, rfl, octets'⟩, short⟩
    obtain ⟨rfl, text⟩ := List.cons.inj octets'
    rw [← length_of_short (short name rfl), ← text, List.length_append] at length
    obtain rfl : rest = [] := List.length_eq_zero_iff.1 (by omega)
    rw [List.append_nil] at text
    exact ⟨rfl, name, rfl, text⟩
  · rintro ⟨rfl, name, rfl, rfl⟩
    refine ⟨⟨name, rfl, ?_⟩, fun name' same => ?_⟩
    · rw [length, UInt8.ofNat_toNat, List.append_nil]
    · obtain rfl := domain.inj same
      rw [length]
      exact Nat.le_of_lt_succ b.toNat_lt

end Target

namespace Socks5

open Session

/-! ## Readers -/

variable {σ : Type} [Readable σ] [Wire σ]

theorem obeys_readMethod :
    Obeys (readMethod (σ := σ)) (fun heard said m => heard = [5, m] ∧ said = []) fun _ => True := by
  refine obeys_bind_exact (obeys_readExact _ 2 trivial) ?_ ?_
  · rintro _ _ m ⟨rfl, -⟩
    exact Nat.le_refl 2
  · intro octets length
    obtain ⟨v, method, rfl⟩ := List.length_eq_two.1 length
    dsimp only
    split
    · next known =>
      obtain rfl : v = 5 := known
      refine (obeys_pure method).congr fun heard said m => ?_
      constructor
      · rintro ⟨same, rfl⟩
        obtain ⟨rfl, rfl⟩ : method = m ∧ heard = [] := by simpa using same
        exact ⟨rfl, rfl, rfl⟩
      · rintro ⟨rfl, rfl, rfl⟩
        exact ⟨rfl, rfl⟩
    · next unknown =>
      refine obeys_fail (fun heard said m h => unknown ?_) _
      exact (List.cons.inj h.1).1

theorem obeys_readGrant :
    Obeys (readGrant (σ := σ)) (fun heard said _ => heard = [1, 0] ∧ said = []) fun _ => True := by
  refine obeys_bind_exact (obeys_readExact _ 2 trivial) ?_ ?_
  · rintro _ _ _ ⟨rfl, -⟩
    exact Nat.le_refl 2
  · intro octets length
    obtain ⟨v, status, rfl⟩ := List.length_eq_two.1 length
    dsimp only
    split
    · next unknown =>
      refine obeys_fail (fun heard said m h => unknown ?_) _
      exact (List.cons.inj h.1).1
    · next known =>
      split
      · next refused =>
        refine obeys_fail (fun heard said m h => refused ?_) _
        exact (List.cons.inj (List.cons.inj h.1).2).1
      · next grants =>
        obtain rfl : v = 1 := not_not.1 known
        obtain rfl : status = 0 := not_not.1 grants
        refine (obeys_pure ()).congr fun heard said m => ?_
        simp [and_comm]

/-- What is done with the octets of an address that is `kept` in so many. -/
theorem obeys_address {α : Type} {kind : UInt8} {octets : Octets} {decode : Octets → Option α}
    {encode : α → Octets} {wrap : α → Target} {q : Session σ Fault Target}
    (decodes : ∀ a, decode octets = some a ↔ octets = encode a)
    (width : ∀ a, (encode a).length = octets.length)
    (spelled : ∀ s t, kind :: s = Target.spelled t ↔ ∃ a, t = wrap a ∧ s = encode a)
    (short : ∀ a, (wrap a).Short) (known : ∀ a, decode octets = some a → q = pure (wrap a))
    (unknown : decode octets = none → ∃ f, q = fail f) :
    Obeys q (fun heard said host =>
      (kind :: (octets ++ heard) = host.spelled ∧ host.Short) ∧ said = []) fun _ => True := by
  have inside (heard : Octets) (host : Target) : kind :: (octets ++ heard) = host.spelled →
      heard = [] ∧ ∃ a, host = wrap a ∧ octets = encode a := by
    intro spells
    obtain ⟨a, rfl, same⟩ := (spelled _ _).1 spells
    have length := congrArg List.length same
    rw [List.length_append, width] at length
    obtain rfl : heard = [] := List.length_eq_zero_iff.1 (by omega)
    exact ⟨rfl, a, rfl, by rwa [List.append_nil] at same⟩
  cases found : decode octets with
  | none =>
    obtain ⟨f, rfl⟩ := unknown found
    refine obeys_fail (fun heard said host h => ?_) f
    obtain ⟨-, a, -, same⟩ := inside heard host h.1.1
    rw [(decodes a).2 same] at found
    cases found
  | some a =>
    rw [known a found]
    have same := (decodes a).1 found
    refine (obeys_pure _).congr fun heard said host => ?_
    constructor
    · rintro ⟨⟨spells, -⟩, rfl⟩
      obtain ⟨rfl, a', rfl, same'⟩ := inside heard host spells
      rw [(decodes a').2 same'] at found
      rw [Option.some.inj found]
      exact ⟨rfl, rfl, rfl⟩
    · rintro ⟨rfl, rfl, rfl⟩
      exact ⟨⟨(spelled _ _).2 ⟨a, rfl, by rw [List.append_nil, same]⟩, short a⟩, rfl⟩

/-- What is done with the octets of a name. -/
theorem obeys_name {b : UInt8} {octets : Octets} (length : octets.length = b.toNat)
    {q : Session σ Fault Target}
    (known : ∀ cs, Utf8.decode octets = .ok cs → q = pure (.domain (String.ofList cs)))
    (unknown : ∀ e, Utf8.decode octets = .error e → ∃ f, q = fail f) :
    Obeys q (fun heard said host =>
      (3 :: b :: (octets ++ heard) = host.spelled ∧ host.Short) ∧ said = []) fun _ => True := by
  cases found : Utf8.decode octets with
  | error e =>
    obtain ⟨f, rfl⟩ := unknown e found
    refine obeys_fail (fun heard said host h => ?_) f
    obtain ⟨-, name, -, text⟩ := (Target.spelled_name length).1 h.1
    rw [Utf8.decode_eq_ok.2 text] at found
    cases found
  | ok cs =>
    rw [known cs found]
    refine (obeys_pure _).congr fun heard said host => ?_
    rw [Target.spelled_name length]
    constructor
    · rintro ⟨⟨rfl, name, rfl, text⟩, rfl⟩
      rw [Utf8.decode_eq_ok.2 text] at found
      rw [← Except.ok.inj found, String.ofList_toList]
      exact ⟨rfl, rfl, rfl⟩
    · rintro ⟨rfl, rfl, rfl⟩
      refine ⟨⟨rfl, _, rfl, ?_⟩, rfl⟩
      rw [Octets.ofText, String.toList_ofList]
      exact Utf8.decode_eq_ok.1 found

theorem obeys_readAddress (type : UInt8) :
    Obeys (readAddress (σ := σ) type)
      (fun heard said host => (type :: heard = host.spelled ∧ host.Short) ∧ said = [])
      fun _ => True := by
  unfold readAddress
  split
  · next isV4 =>
    obtain rfl : type = 1 := isV4
    refine obeys_bind_exact (obeys_readExact _ 4 trivial) ?_ ?_
    · rintro heard said host ⟨⟨spells, -⟩, -⟩
      obtain ⟨ip, rfl, rfl⟩ := Target.spelled_v4.1 spells
      exact Nat.le_refl 4
    · intro octets length
      exact obeys_address (fun ip => Ipv4.ofOctets?_eq_some) (fun ip => length.symm)
        (fun s t => Target.spelled_v4) Target.short_v4 (fun ip read => by rw [read])
        fun unread => ⟨_, by rw [unread]⟩
  · split
    · next isV6 =>
      obtain rfl : type = 4 := isV6
      refine obeys_bind_exact (obeys_readExact _ 16 trivial) ?_ ?_
      · rintro heard said host ⟨⟨spells, -⟩, -⟩
        obtain ⟨ip, rfl, rfl⟩ := Target.spelled_v6.1 spells
        exact Nat.le_of_eq ip.length_octets.symm
      · intro octets length
        exact obeys_address (fun ip => Ipv6.ofOctets?_eq_some (by rw [length]))
          (fun ip => ip.length_octets.trans length.symm) (fun s t => Target.spelled_v6)
          Target.short_v6 (fun ip read => by rw [read]) fun unread => ⟨_, by rw [unread]⟩
    · split
      · next isDomain =>
        obtain rfl : type = 3 := isDomain
        refine obeys_bind_exact (obeys_readNumber _ 1 trivial) ?_ ?_
        · rintro heard said host ⟨⟨spells, -⟩, -⟩
          obtain ⟨name, rfl, rfl⟩ := Target.spelled_domain.1 spells
          exact Nat.le_add_left 1 _
        · intro count one
          obtain ⟨b, rfl⟩ := List.length_eq_one_iff.1 one
          have value : Octets.toNat [b] = b.toNat := by simp [Octets.toNat]
          refine obeys_bind_exact (obeys_readExact _ _ trivial) ?_ ?_
          · rintro heard said host ⟨⟨spells, short⟩, -⟩
            obtain ⟨name, rfl, octets⟩ := Target.spelled_domain.1 spells
            obtain ⟨rfl, rfl⟩ := List.cons.inj octets
            exact Nat.le_of_eq (value.trans (Target.length_of_short (short name rfl)).symm)
          · intro octets length
            exact obeys_name (length.trans value) (fun cs read => by rw [read])
              fun e unread => ⟨_, by rw [unread]⟩
      · next notV4 notV6 notDomain =>
        refine obeys_fail (fun heard said host h => ?_) _
        rcases Target.kind_of_spelled h.1.1 with v4 | v6 | domain
        · exact notV4 v4
        · exact notV6 v6
        · exact notDomain domain

theorem exists_kind (t : Target) : ∃ kind octets, t.spelled = kind :: octets := by
  cases t with
  | v4 ip => exact ⟨1, ip.octets, rfl⟩
  | v6 ip => exact ⟨4, ip.octets, rfl⟩
  | domain name => exact ⟨3, _, rfl⟩

/-- No host is spelled as a front of what another is. A reader would not know which to take. -/
theorem spelled_append_inj {t t' : Target} {rest rest' : Octets} (short : t.Short)
    (short' : t'.Short) (same : t.spelled ++ rest = t'.spelled ++ rest') :
    t = t' ∧ rest = rest' := by
  obtain ⟨kind, octets, spells⟩ := exists_kind t
  obtain ⟨kind', octets', spells'⟩ := exists_kind t'
  rw [spells, spells'] at same
  obtain ⟨rfl, tails⟩ : kind = kind' ∧ octets ++ rest = octets' ++ rest' := List.cons.inj same
  have front : octets <+: Wire.yield ([.data (octets ++ rest)] : Source) := by
    show octets <+: octets ++ rest ++ []
    simp
  have front' : octets' <+: Wire.yield ([.data (octets ++ rest)] : Source) := by
    rw [tails]
    show octets' <+: octets' ++ rest' ++ []
    simp
  obtain ⟨rfl, rfl⟩ := (obeys_readAddress kind).unique ⟨⟨spells.symm, short⟩, rfl⟩
    ⟨⟨spells'.symm, short'⟩, rfl⟩ front front' (Sink.hasRoom_nil _) (Sink.hasRoom_nil _)
  exact ⟨rfl, List.append_cancel_left tails⟩

theorem obeys_readBound (code : UInt8) (host : Target) :
    Obeys (do
      let port ← readNumber (σ := σ) Fault.addressNotRead 2
      return ({ code, host, port := UInt16.ofNat port } : Bound))
      (fun heard said bound => (code = bound.code ∧ host = bound.host ∧
        heard = Octets.ofNat 2 bound.port.toNat) ∧ said = []) fun _ => True := by
  refine obeys_bind_exact (obeys_readNumber _ 2 trivial) ?_ ?_
  · rintro _ _ bound ⟨⟨-, -, rfl⟩, -⟩
    exact Nat.le_of_eq (Octets.length_ofNat 2 _).symm
  · intro octets two
    refine (obeys_pure _).congr fun heard said bound => ?_
    constructor
    · rintro ⟨⟨rfl, rfl, same⟩, rfl⟩
      have length := congrArg List.length same
      rw [List.length_append, two, Octets.length_ofNat] at length
      obtain rfl : heard = [] := List.length_eq_zero_iff.1 (by omega)
      rw [List.append_nil, ← ofNat_toNat_eq_iff two] at same
      rw [same]
      exact ⟨rfl, rfl, rfl⟩
    · rintro ⟨rfl, rfl, rfl⟩
      rw [List.append_nil]
      exact ⟨⟨rfl, rfl, (ofNat_toNat_eq_iff two).1 rfl⟩, rfl⟩

theorem obeys_readReply :
    Obeys (readReply (σ := σ)) (fun heard said bound => (∃ reserved, heard =
        [5, bound.code, reserved] ++ (bound.host.spelled ++ Octets.ofNat 2 bound.port.toNat)) ∧
      bound.host.Short ∧ said = []) fun _ => True := by
  refine obeys_bind_exact (obeys_readExact _ 4 trivial) ?_ ?_
  · rintro _ _ bound ⟨⟨reserved, rfl⟩, -⟩
    obtain ⟨kind, octets, spells⟩ := exists_kind bound.host
    rw [spells]
    exact Nat.le_add_left 4 _
  · intro header length
    obtain ⟨v, code, reserved, kind, rfl⟩ := List.length_eq_four.1 length
    dsimp only
    split
    · next unknown =>
      refine obeys_fail (fun heard said bound h => unknown ?_) _
      obtain ⟨⟨_, octets⟩, -, -⟩ := h
      exact (List.cons.inj octets).1
    · next known =>
      obtain rfl : v = 5 := not_not.1 known
      have header (heard : Octets) (bound : Bound) :
          (∃ reserved', [5, code, reserved, kind] ++ heard =
            [5, bound.code, reserved'] ++ (bound.host.spelled ++ Octets.ofNat 2 bound.port.toNat)) ↔
          code = bound.code ∧
            kind :: heard = bound.host.spelled ++ Octets.ofNat 2 bound.port.toNat := by
        simp
      simp only [header]
      refine obeys_bind (obeys_readAddress kind) ?_ ?_
      · rintro heard said bound ⟨⟨rfl, octets⟩, short, rfl⟩
        obtain ⟨kind', host, spells⟩ := exists_kind bound.host
        rw [spells] at octets
        obtain ⟨rfl, rfl⟩ := List.cons.inj octets
        exact ⟨host, [], bound.host, _, [], ⟨⟨spells.symm, short⟩, rfl⟩, rfl, rfl⟩
      · rintro octets _ host ⟨⟨spells, short⟩, rfl⟩
        have inside (heard : Octets) (bound : Bound) :
            (code = bound.code ∧
              kind :: (octets ++ heard) = bound.host.spelled ++ Octets.ofNat 2 bound.port.toNat) ∧
              bound.host.Short ↔
            code = bound.code ∧ host = bound.host ∧ heard = Octets.ofNat 2 bound.port.toNat := by
          constructor
          · rintro ⟨⟨same, tail⟩, short'⟩
            rw [← List.cons_append, spells] at tail
            exact ⟨same, spelled_append_inj short short' tail⟩
          · rintro ⟨same, rfl, rfl⟩
            rw [← List.cons_append, spells]
            exact ⟨⟨same, rfl⟩, short⟩
        refine (obeys_readBound code host).congr fun heard said bound => ?_
        rw [← and_assoc, inside]
        rfl

end Socks5

end Sluice

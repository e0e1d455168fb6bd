import Sluice.Config.Setting
import Sluice.Proofs.AddressTexts

/-
  Addresses with a port, written out and read back. What the reader finds in an address does not
  depend on what stands behind it, as long as that cannot go on with the address (`Closes`). So an
  address that is read from a whole text is read in front of a port or of a scope too
  (`Ipv6.read_append`), and a socket address is read from its text (`SocketAddress.parse_text`).
-/

namespace Sluice

namespace Digits

variable {base n bound : Nat} {s digits rest more : List Char} {c : Char}

theorem value_ten_of_hex (other : value? 16 c = none) : value? 10 c = none := by
  unfold value? at other ⊢
  rw [Option.filter_eq_none_iff] at other ⊢
  intro n value small
  exact other n value (decide_eq_true (Nat.lt_trans (of_decide_eq_true small) (by decide)))

theorem Stops.ten (stops : Stops 16 s) : Stops 10 s := fun c head =>
  value_ten_of_hex (stops c head)

/-- Behind the digits that are taken stands none. -/
theorem stops_of_take (taken : take base s = (digits, rest)) : Stops base rest := by
  rw [take, List.span_eq_takeWhile_dropWhile] at taken
  obtain ⟨-, rfl⟩ := Prod.mk.inj taken
  intro c head
  have stop := List.head?_dropWhile_not (fun c => (value? base c).isSome) s
  rw [Option.mem_def.1 head] at stop
  simpa using stop

/-- The digits that are taken do not depend on what stands behind them. -/
theorem take_behind (stops : Stops base more) (taken : take base s = (digits, rest)) :
    take base (s ++ more) = (digits, rest ++ more) := by
  have behind : Stops base (rest ++ more) := by
    cases rest with
    | nil => exact stops
    | cons c rest => exact stops_cons (stops_of_take taken c rfl) _
  obtain ⟨rfl, all⟩ := of_take taken
  rw [List.append_assoc, take_append all behind]

theorem read_ofNat (two : 1 < base) (small : base ≤ 16) (fits : n < bound)
    (stops : Stops base rest) : read? base bound (ofNat base n ++ rest) = some (n, rest) := by
  have filled : (ofNat base n).isEmpty = false := List.isEmpty_eq_false_iff.2 (ofNat_ne_nil _ _)
  rw [read?, take_ofNat two small n stops]
  dsimp only
  rw [toNat_ofNat two small, filled, decide_eq_false (Nat.not_le.2 fits)]
  rfl

end Digits

open Digits (Stops)

/-- A text that no address goes on with. -/
structure Closes (s : List Char) : Prop where
  stops : Stops 16 s
  noDot : s.head? ≠ some '.'
  noColon : s.head? ≠ some ':'

theorem closes_cons {c : Char} (digit : Digits.value? 16 c = none) (dot : c ≠ '.')
    (colon : c ≠ ':') (s : List Char) : Closes (c :: s) where
  stops := Digits.stops_cons digit s
  noDot := fun same => dot (Option.some.inj same)
  noColon := fun same => colon (Option.some.inj same)

variable {s more : List Char}

/-- What stands behind is left over. -/
def leave (more : List Char) {α : Type} (found : α × List Char) : α × List Char :=
  (found.1, found.2 ++ more)

/-! ## IPv4 addresses -/

namespace Ipv4

theorem readPart_append (closes : Closes more) (s : List Char) :
    readPart (s ++ more) = (readPart s).map (leave more) := by
  cases taken : Digits.take 10 s with
  | mk digits rest =>
    rw [readPart, readPart, taken, Digits.take_behind closes.stops.ten taken]
    dsimp only
    split
    · rfl
    · rfl

theorem readDotPart_append (closes : Closes more) (s : List Char) :
    readDotPart (s ++ more) = (readDotPart s).map (leave more) := by
  cases s with
  | nil =>
    have other := closes.noDot
    cases more with
    | nil => rfl
    | cons c more =>
      have dot : c ≠ '.' := fun same => other (congrArg some same)
      simp [readDotPart, dot]
  | cons c s =>
    by_cases dot : c = '.'
    · rw [dot]
      exact readPart_append closes s
    · simp [readDotPart, dot]

/-- What is read in an address does not depend on what stands behind it. -/
theorem read_append (closes : Closes more) (s : List Char) :
    read (s ++ more) = (read s).map (leave more) := by
  have next {s' : List Char} := readDotPart_append closes s'
  simp only [read, readPart_append closes, Option.bind_eq_bind, Option.bind_map, Option.map_bind,
    Function.comp_def, leave, next]
  rfl

end Ipv4

/-! ## IPv6 addresses -/

namespace Ipv6

theorem readGroup_append (closes : Closes more) (s : List Char) :
    readGroup (s ++ more) = (readGroup s).map (leave more) := by
  cases taken : Digits.take 16 s with
  | mk digits rest =>
    rw [readGroup, readGroup, taken, Digits.take_behind closes.stops taken]
    dsimp only
    split
    · rfl
    · rfl

theorem afterColon_append (closes : Closes more) (first : Bool) (s : List Char) :
    afterColon? first (s ++ more) = (afterColon? first s).map (· ++ more) := by
  cases first with
  | true => rfl
  | false =>
    cases s with
    | nil =>
      have other := closes.noColon
      cases more with
      | nil => rfl
      | cons c more =>
        have colon : c ≠ ':' := fun same => other (congrArg some same)
        simp [afterColon?, colon]
    | cons c s =>
      by_cases colon : c = ':'
      · rw [colon]
        rfl
      · simp [afterColon?, colon]

/-- The groups that are read do not depend on what stands behind them. -/
theorem readGroups_append (closes : Closes more) (first : Bool) (limit : Nat) (s : List Char) :
    readGroups first limit (s ++ more) =
      ⟨(readGroups first limit s).groups, (readGroups first limit s).endsInIpv4,
        (readGroups first limit s).rest ++ more⟩ := by
  induction limit generalizing first s with
  | zero => rfl
  | succ limit ih =>
    have address (s' : List Char) : (if limit = 0 then none else Ipv4.read (s' ++ more)) =
        (if limit = 0 then none else Ipv4.read s').map (leave more) := by
      split
      · rfl
      · exact Ipv4.read_append closes s'
    rw [readGroups, readGroups, afterColon_append closes]
    cases afterColon? first s with
    | none => rfl
    | some s' =>
      simp only [Option.map_some, address]
      cases (if limit = 0 then none else Ipv4.read s') with
      | some found => rfl
      | none =>
        simp only [Option.map_none, readGroup_append closes]
        cases readGroup s' with
        | none => rfl
        | some found => simp only [Option.map_some, leave, ih]

/-- What is read in an address does not depend on what stands behind it. -/
theorem read_append {ip : Ipv6} {rest : List Char} (closes : Closes more)
    (found : read s = some (ip, rest)) : read (s ++ more) = some (ip, rest ++ more) := by
  unfold read at found ⊢
  simp only [readGroups_append closes] at found ⊢
  by_cases eight : (readGroups true 8 s).groups.length = 8
  · rw [dif_pos eight] at found ⊢
    obtain ⟨rfl, rfl⟩ := Prod.mk.inj (Option.some.inj found)
    rfl
  · rw [dif_neg eight] at found ⊢
    split at found
    · cases found
    · next noIpv4 =>
      rw [if_neg noIpv4]
      split at found
      · next back zeros =>
        obtain ⟨whole, address, same⟩ := Option.map_eq_some_iff.1 found
        obtain ⟨rfl, rfl⟩ := Prod.mk.inj same
        rw [zeros]
        simp only [List.cons_append, readGroups_append closes, address, Option.map_some]
      · cases found

/-- An address at the front of a text. -/
theorem read_text (ip : Ipv6) (closes : Closes more) :
    read (ip.text.toList ++ more) = some (ip, more) := by
  have whole := ip.parse_text
  unfold parse? at whole
  split at whole
  · next found =>
    obtain rfl := Option.some.inj whole
    exact read_append closes found
  · cases whole

end Ipv6

/-! ## Ports and scopes -/

namespace SocketAddress

theorem readPort_ofNat (port : UInt16) :
    readPort (':' :: Digits.ofNat 10 port.toNat) = some port := by
  have read : Digits.read? 10 UInt16.size (Digits.ofNat 10 port.toNat) = some (port.toNat, []) := by
    rw [← List.append_nil (Digits.ofNat 10 port.toNat)]
    exact Digits.read_ofNat (by decide) (by decide) port.toNat_lt Digits.stops_nil
  rw [readPort, read]
  exact congrArg some UInt16.ofNat_toNat

/-- An address in brackets, where a scope and the closing bracket stand behind the address. -/
theorem parse_brackets (ip : Ipv6) (scope : UInt32) (port : UInt16) {behind : List Char}
    (closes : Closes behind)
    (link : readScope behind = (scope, ']' :: ':' :: Digits.ofNat 10 port.toNat)) :
    parseV6? ('[' :: (ip.text.toList ++ behind)) = some (v6 ip scope port) := by
  simp only [parseV6?, ip.read_text closes, link, readPort_ofNat, Option.map_some]

theorem toList_v6 (ip : Ipv6) (scope : UInt32) (port : UInt16) : (v6 ip scope port).text.toList =
    '[' :: (ip.text.toList ++ ((if scope = 0 then [] else '%' :: Digits.ofNat 10 scope.toNat) ++
      ']' :: ':' :: Digits.ofNat 10 port.toNat)) := by
  by_cases unscoped : scope = 0
  · rw [text, if_pos unscoped, if_pos unscoped]
    show ("[" ++ ip.text ++ "]:" ++ toString port.toNat).toList = _
    simp [Digits.ofNat]
  · rw [text, if_neg unscoped, if_neg unscoped]
    show ("[" ++ ip.text ++ "%" ++ toString scope.toNat ++ "]:" ++ toString port.toNat).toList = _
    simp [Digits.ofNat]

/-- A socket address is read from its text. -/
theorem parse_text (a : SocketAddress) : parse? a.text = some a := by
  cases a with
  | v4 ip port =>
    have shape : (v4 ip port).text.toList =
        ip.text.toList ++ ':' :: Digits.ofNat 10 port.toNat := by
      show (ip.text ++ ":" ++ toString port.toNat).toList = _
      simp [Digits.ofNat]
    rw [parse?, shape, ip.read_text (Digits.stops_cons (by decide) _)]
    simp only [readPort_ofNat, Option.map_some]
  | v6 ip scope port =>
    have bracket (s : List Char) : Ipv4.read ('[' :: s) = none :=
      Ipv4.read_stops (Digits.stops_cons (by decide) s)
    have closing : Stops 10 (']' :: ':' :: Digits.ofNat 10 port.toNat) :=
      Digits.stops_cons (by decide) _
    rw [parse?, toList_v6, bracket]
    by_cases unscoped : scope = 0
    · rw [if_pos unscoped, unscoped]
      exact parse_brackets ip 0 port (closes_cons (by decide) (by decide) (by decide) _) rfl
    · rw [if_neg unscoped]
      refine parse_brackets ip scope port (closes_cons (by decide) (by decide) (by decide) _) ?_
      have read : Digits.read? 10 UInt32.size (Digits.ofNat 10 scope.toNat ++ _) = _ :=
        Digits.read_ofNat (by decide) (by decide) scope.toNat_lt closing
      simp only [List.cons_append, readScope, read, UInt32.ofNat_toNat]

end SocketAddress

end Sluice

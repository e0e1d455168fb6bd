import Sluice.Octets.Reader

/-
  Messages written out and read back. A reader `Reads` some octets if it takes exactly these off the
  front, whatever stands behind them; so what is put together of such octets is read by the readers
  put together (`reads_bind`). A list of entries is read to its end (`entries_flatMap`), because no
  entry can be read off nothing.
-/

namespace Sluice

theorem ok_of_toOption {ε α : Type} {reading : Except ε α} {a : α}
    (h : reading.toOption = some a) : reading = .ok a := by
  cases reading with
  | error e => cases h
  | ok b => rw [Option.some.inj h]

/-- A string behind its length, which takes `width` octets. -/
def Octets.block (width : Nat) (s : Octets) : Octets :=
  ofNat width s.length ++ s

theorem Octets.length_block (width : Nat) (s : Octets) :
    (block width s).length = width + s.length := by
  rw [block, List.length_append, length_ofNat]

namespace Reader

variable {α β : Type} {p : Reader α} {f : α → Reader β} {s t : Octets} {a : α} {b : β}

/-- Takes just these octets off the front, whatever stands behind them. -/
def Reads (p : Reader α) (s : Octets) (a : α) : Prop :=
  ∀ rest, p (s ++ rest) = some (a, rest)

theorem bind_some {rest : Octets} (h : p s = some (a, rest)) : (p >>= f) s = f a rest := by
  show Reader.bind p f s = f a rest
  rw [Reader.bind, h]

/-- Nothing stands behind them. -/
theorem Reads.whole (h : Reads p s a) : p s = some (a, []) := by
  have whole := h []
  rwa [List.append_nil] at whole

theorem reads_pure (a : α) : Reads (pure a) [] a :=
  fun _ => rfl

theorem bind_reads {r : Option (β × Octets)} (hp : Reads p s a) (hf : f a t = r) :
    (p >>= f) (s ++ t) = r :=
  (bind_some (hp t)).trans hf

theorem reads_bind (hp : Reads p s a) (hf : Reads (f a) t b) : Reads (p >>= f) (s ++ t) b := by
  intro rest
  rw [List.append_assoc]
  exact bind_reads hp (hf rest)

/-- What comes of a reader is put into other words. -/
theorem reads_map {g : α → β} (hp : Reads p s a) : Reads (p >>= fun a => pure (g a)) s (g a) := by
  intro rest
  rw [bind_some (hp rest)]
  rfl

/-- What goes on behind a test that holds. -/
theorem bind_require {q : Reader β} {c : Bool} (holds : c = true) :
    (require c >>= fun _ => q) s = q s := by
  rw [holds]
  rfl

theorem reads_require {q : Reader β} {c : Bool} (holds : c = true) (h : Reads q s b) :
    Reads (require c >>= fun _ => q) s b :=
  fun rest => (bind_require holds).trans (h rest)

theorem reads_take (s : Octets) : Reads (take s.length) s s := by
  intro rest
  have front : (s ++ rest).take s.length = s := List.take_left
  have behind : (s ++ rest).drop s.length = rest := List.drop_left
  simp only [take, front, behind, if_pos]

theorem reads_number {width n : Nat} (fits : n < Nat.pow 256 width) :
    Reads (number width) (Octets.ofNat width n) n := by
  have front := reads_take (Octets.ofNat width n)
  rw [Octets.length_ofNat] at front
  have value := reads_map (g := Octets.toNat) front
  rwa [Octets.toNat_ofNat width n fits] at value

/-- What goes on behind one octet. -/
theorem reads_octet {f : Nat → Reader β} {o : UInt8} (h : Reads (f o.toNat) t b) :
    Reads (number 1 >>= f) (o :: t) b := by
  have value := reads_map (g := Octets.toNat) (reads_take [o])
  rw [show Octets.toNat [o] = o.toNat by simp [Octets.toNat]] at value
  exact reads_bind value h

theorem reads_block {width : Nat} (fits : s.length < Nat.pow 256 width) :
    Reads (block width) (Octets.block width s) s :=
  reads_bind (reads_number fits) (reads_take s)

theorem Advances.nil (adv : Advances p) : p [] = none := by
  cases h : p [] with
  | none => rfl
  | some found => exact absurd (adv _ _ _ h) (Nat.not_lt_zero _)

/-- Entries written one behind the other are read as they were written. -/
theorem entries_flatMap {encode : α → Octets} (adv : Advances p) {xs : List α}
    (reads : ∀ x ∈ xs, Reads p (encode x) x) : entries p adv (xs.flatMap encode) = xs := by
  induction xs with
  | nil =>
    rw [List.flatMap_nil, entries]
    split
    · rfl
    · next h =>
      rw [adv.nil] at h
      cases h
  | cons x xs ih =>
    have first := reads x List.mem_cons_self (xs.flatMap encode)
    rw [List.flatMap_cons, entries]
    split
    · next h =>
      rw [first] at h
      cases h
    · next h =>
      rw [first] at h
      obtain ⟨rfl, rfl⟩ := Prod.mk.inj (Option.some.inj h)
      rw [ih fun y member => reads y (List.mem_cons_of_mem _ member)]

end Reader

end Sluice

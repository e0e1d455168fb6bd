import Mathlib.Algebra.GroupWithZero.Nat
import Sluice.Duration.Reading
import Sluice.Duration.Written
import Sluice.Proofs.AddressTexts

/-
  Durations written out and read back. What a duration is written as are whole numbers of units with
  a blank between them. The reader takes the text one character after the other, and where it stands
  behind a text does not depend on what follows (`Leads`), so it comes from part to part
  (`leads_part`) and adds up what each of them is worth (`exists_sum`). The parts of a duration are
  worth the duration (`worth_parts`), and no sum on the way is too large, so the same duration is
  read, to the nanosecond (`parse_written`).
-/

namespace Sluice

/-! ## Numbers -/

namespace Digits

/-- The number that digits make behind a number. -/
def onward (n : Nat) (digits : List Char) : Nat :=
  digits.foldl (fun n c => n * 10 + (value? 10 c).getD 0) n

theorem onward_ofNat (n : Nat) : onward 0 (ofNat 10 n) = n :=
  toNat_ofNat (by decide) (by decide) n

theorem onward_cons {n d : Nat} {c : Char} (value : value? 10 c = some d) (digits : List Char) :
    onward n (c :: digits) = onward (n * 10 + d) digits := by
  rw [onward, List.foldl_cons, value]
  rfl

theorem le_onward (n : Nat) (digits : List Char) : n ≤ onward n digits := by
  induction digits generalizing n with
  | nil => exact Nat.le_refl n
  | cons c digits ih =>
    refine Nat.le_trans ?_ (ih _)
    show n ≤ n * 10 + _
    omega

end Digits

namespace Duration

open Digits (value? isSome_value ofNat_ne_nil onward onward_cons onward_ofNat le_onward)

/-! ## The reader -/

namespace Reader

variable {r r' r'' : Reader} {s t : List Char} {total : Duration} {phase : Phase} {n : Nat}

/-- A text leads from one place of the reader to another, whatever stands behind it. -/
def Leads (r : Reader) (s : List Char) (r' : Reader) : Prop :=
  ∀ offset, ∃ behind, ∀ rest, r.run offset (s ++ rest) = r'.run behind rest

theorem leads_nil (r : Reader) : Leads r [] r := fun offset =>
  ⟨offset, fun _ => rfl⟩

theorem leads_cons {c : Char} (step : ∀ offset, r.step offset c = .ok r') (more : Leads r' s r'') :
    Leads r (c :: s) r'' := by
  intro offset
  obtain ⟨behind, same⟩ := more (offset + c.utf8Size)
  refine ⟨behind, fun rest => ?_⟩
  rw [List.cons_append, run, step offset]
  exact same rest

theorem Leads.trans (first : Leads r s r') (second : Leads r' t r'') : Leads r (s ++ t) r'' := by
  intro offset
  obtain ⟨between, first⟩ := first offset
  obtain ⟨behind, second⟩ := second between
  refine ⟨behind, fun rest => ?_⟩
  rw [List.append_assoc, first, second]

/-- What comes of a text that ends where the reader stands. -/
theorem Leads.finish (leads : Leads r s r') : (do (← r.run 0 s).finish) = r'.finish := by
  obtain ⟨behind, same⟩ := leads 0
  have last := same []
  rw [List.append_nil] at last
  rw [last]
  rfl

/-- A number may begin here. -/
def Begins : Phase → Prop
  | .start => True
  | .between => True
  | _ => False

theorem leads_digits {digits : List Char} (all : ∀ c ∈ digits, (value? 10 c).isSome)
    (fits : onward n digits < UInt64.size) :
    Leads { total, phase := .whole n } digits { total, phase := .whole (onward n digits) } := by
  induction digits generalizing n with
  | nil => exact leads_nil _
  | cons c digits ih =>
    obtain ⟨digit, others⟩ := List.forall_mem_cons.1 all
    obtain ⟨d, value⟩ := Option.isSome_iff_exists.1 digit
    have next := onward_cons (n := n) value digits
    have bound : n * 10 + d < UInt64.size := Nat.lt_of_le_of_lt (le_onward _ digits) (next ▸ fits)
    rw [next] at fits ⊢
    refine leads_cons (fun offset => ?_) (ih others fits)
    simp only [step, digit?, value, checked, if_pos bound]
    rfl

/-- A number that fits is read whole. -/
theorem leads_number (begins : Begins phase) (fits : n < UInt64.size) :
    Leads { total, phase } (Digits.ofNat 10 n) { total, phase := .whole n } := by
  have all := isSome_value (by decide : 1 < 10) (by decide) n
  have whole := onward_ofNat n
  cases digits : Digits.ofNat 10 n with
  | nil => exact absurd digits (ofNat_ne_nil 10 n)
  | cons c rest =>
    rw [digits] at all whole
    obtain ⟨digit, others⟩ := List.forall_mem_cons.1 all
    obtain ⟨d, value⟩ := Option.isSome_iff_exists.1 digit
    have next : onward d rest = n := by
      rw [← whole, onward_cons value, Nat.zero_mul, Nat.zero_add]
    have behind : Leads { total, phase := .whole d } rest
        { total, phase := .whole (onward d rest) } :=
      leads_digits others (next ▸ fits)
    rw [next] at behind
    refine leads_cons (fun offset => ?_) behind
    cases phase with
    | start => simp only [step, digit?, value]
    | between => simp only [step, digit?, value]
    | whole n => cases begins
    | places n f edge => cases begins
    | unit n f name => cases begins

/-- Can a name of a unit have this character? -/
def isNameChar (c : Char) : Bool :=
  (digit? c).isNone && !isBlank c && isUnitChar c

theorem of_isNameChar {c : Char} (name : isNameChar c = true) :
    digit? c = none ∧ isBlank c = false ∧ isUnitChar c = true := by
  simpa [isNameChar, and_assoc] using name

theorem leads_nameFrom {name before : List Char} (all : ∀ c ∈ name, isNameChar c = true) :
    Leads { total, phase := .unit n none before } name
      { total, phase := .unit n none (name.reverse ++ before) } := by
  induction name generalizing before with
  | nil => exact leads_nil _
  | cons c name ih =>
    obtain ⟨first, others⟩ := List.forall_mem_cons.1 all
    obtain ⟨digit, blank, unit⟩ := of_isNameChar first
    rw [List.reverse_cons, List.append_assoc]
    refine leads_cons (fun offset => ?_) (ih others)
    simp [step, digit, blank, unit]

theorem leads_name {name : List Char} (all : ∀ c ∈ name, isNameChar c = true) (filled : name ≠ []) :
    Leads { total, phase := .whole n } name { total, phase := .unit n none name.reverse } := by
  cases name with
  | nil => exact absurd rfl filled
  | cons c name =>
    obtain ⟨first, others⟩ := List.forall_mem_cons.1 all
    obtain ⟨digit, blank, unit⟩ := of_isNameChar first
    rw [List.reverse_cons]
    refine leads_cons (fun offset => ?_) (leads_nameFrom others)
    simp [step, digit, blank, unit]

end Reader

/-! ## Parts -/

/-- A number of units, as it is written. -/
def partText (part : Nat × String) : String :=
  s!"{part.1}{part.2}"

/-- Parts with a blank between them. -/
def partsText (parts : List (Nat × String)) : String :=
  " ".intercalate (parts.map partText)

theorem toList_partText (part : Nat × String) :
    (partText part).toList = Digits.ofNat 10 part.1 ++ part.2.toList := by
  show (toString part.1 ++ part.2).toList = _
  simp [Digits.ofNat]

theorem toList_partsText_single (part : Nat × String) :
    (partsText [part]).toList = (partText part).toList := by
  simp [partsText]

theorem toList_partsText_cons (part next : Nat × String) (parts : List (Nat × String)) :
    (partsText (part :: next :: parts)).toList =
      (partText part).toList ++ ' ' :: (partsText (next :: parts)).toList := by
  simp [partsText, String.toList_intercalate]

/-- Is this a name of the unit, with characters of names only? -/
def names (name : String) (unit : TimeUnit) : Bool :=
  TimeUnit.ofName? name = some unit && !name.toList.isEmpty && name.toList.all Reader.isNameChar

/-- A part that the reader can take: the number fits, also where it is made nanoseconds, and the
name is one of a unit. -/
def Legible (part : Nat × String) : Prop :=
  part.1 < UInt64.size ∧ ∃ unit, names part.2 unit = true ∧
    ∀ count, unit.measure = .nanos count → part.1 * count < nanosPerSecond

theorem of_names {name : String} {unit : TimeUnit} (named : names name unit = true) :
    TimeUnit.ofName? name = some unit ∧ name.toList ≠ [] ∧
      ∀ c ∈ name.toList, Reader.isNameChar c = true := by
  simpa [names, and_assoc] using named

/-- Adds what a part says. -/
def add (total : Duration) (part : Nat × String) : Except TextFault Duration :=
  plusNamed total part.1 none part.2

namespace Reader

variable {total : Duration} {phase : Phase} {part : Nat × String}

/-- Where the reader stands behind a part. -/
def behindPart (total : Duration) (part : Nat × String) : Reader :=
  { total, phase := .unit part.1 none part.2.toList.reverse }

theorem leads_part (begins : Begins phase) (legible : Legible part) :
    Leads { total, phase } (partText part).toList (behindPart total part) := by
  obtain ⟨fits, unit, named, -⟩ := legible
  obtain ⟨-, filled, all⟩ := of_names named
  rw [toList_partText]
  exact (leads_number begins fits).trans (leads_name all filled)

theorem finish_behindPart (total : Duration) (part : Nat × String) :
    (behindPart total part).finish = add total part := by
  show plusNamed total part.1 none (String.ofList part.2.toList.reverse.reverse) = _
  rw [List.reverse_reverse, String.ofList_toList]
  rfl

theorem leads_blank {total' : Duration} (added : add total part = .ok total') :
    Leads (behindPart total part) [' '] { total := total', phase := .between } := by
  refine leads_cons (fun offset => ?_) (leads_nil _)
  have digit : digit? ' ' = none := by decide
  have blank : isBlank ' ' = true := by decide
  unfold add at added
  simp only [behindPart, step, digit, blank, List.reverse_reverse, String.ofList_toList, added]
  rfl

/-- Parts are read by adding them up. -/
theorem leads_parts {parts : List (Nat × String)} {sum : Duration} (begins : Begins phase)
    (legible : ∀ p ∈ part :: parts, Legible p)
    (added : (part :: parts).foldlM add total = .ok sum) :
    ∃ r, Leads { total, phase } (partsText (part :: parts)).toList r ∧ r.finish = .ok sum := by
  induction parts generalizing part total phase with
  | nil =>
    rw [toList_partsText_single]
    refine ⟨behindPart total part, leads_part begins (legible part List.mem_cons_self), ?_⟩
    rw [finish_behindPart]
    simpa using added
  | cons next parts ih =>
    obtain ⟨first, others⟩ := List.forall_mem_cons.1 legible
    rw [List.foldlM_cons] at added
    cases one : add total part with
    | error fault =>
      rw [one] at added
      cases added
    | ok total' =>
      rw [one] at added
      obtain ⟨r, leads, finish⟩ := ih (show Begins .between from trivial) others added
      refine ⟨r, ?_, finish⟩
      rw [toList_partsText_cons, ← List.singleton_append, ← List.append_assoc]
      exact ((leads_part begins first).trans (leads_blank one)).trans leads

end Reader

/-- Parts are not taken for the zero that needs no unit. -/
theorem partsText_ne_zero {part : Nat × String} (legible : Legible part)
    (parts : List (Nat × String)) : partsText (part :: parts) ≠ "0" := by
  obtain ⟨-, unit, named, -⟩ := legible
  obtain ⟨-, filled, all⟩ := of_names named
  obtain ⟨c, mem⟩ := List.exists_mem_of_ne_nil _ filled
  have front : ∃ rest, (partsText (part :: parts)).toList = (partText part).toList ++ rest := by
    cases parts with
    | nil => exact ⟨[], by rw [toList_partsText_single, List.append_nil]⟩
    | cons next parts => exact ⟨_, toList_partsText_cons part next parts⟩
  obtain ⟨rest, front⟩ := front
  have inside : c ∈ (partsText (part :: parts)).toList := by
    rw [front, toList_partText]
    exact List.mem_append_left _ (List.mem_append_right _ mem)
  intro zero
  rw [zero] at inside
  obtain rfl : c = '0' := List.mem_singleton.1 inside
  exact absurd (all '0' mem) (by decide)

theorem parse_partsText {part : Nat × String} {parts : List (Nat × String)} {sum : Duration}
    (legible : ∀ p ∈ part :: parts, Legible p)
    (added : (part :: parts).foldlM add zero = .ok sum) :
    parse (partsText (part :: parts)) = .ok sum := by
  have begins : Reader.Begins .start := trivial
  obtain ⟨r, leads, finish⟩ := Reader.leads_parts begins legible added
  have proper := beq_false_of_ne (partsText_ne_zero (legible part List.mem_cons_self) parts)
  rw [parse, proper]
  exact leads.finish.trans finish

/-! ## Sums -/

/-- The nanoseconds that a measure has. -/
def inNanos : TimeUnit.Measure → Nat
  | .nanos count => count
  | .seconds count => count * nanosPerSecond

/-- The nanoseconds that a part is worth. -/
def worth (part : Nat × String) : Nat :=
  part.1 * (TimeUnit.ofName? part.2).elim 0 fun unit => inNanos unit.measure

variable {total limit : Duration} {part : Nat × String} {parts : List (Nat × String)}

theorem toNanos_inj {d d' : Duration} (same : d.toNanos = d'.toNanos) : d = d' := by
  obtain ⟨seconds, nanos, _, nanos_lt⟩ := d
  obtain ⟨seconds', nanos', _, nanos_lt'⟩ := d'
  simp only [toNanos, nanosPerSecond] at same nanos_lt nanos_lt'
  obtain rfl : seconds = seconds' := by omega
  obtain rfl : nanos = nanos' := by omega
  rfl

/-- What is no longer than some duration is a duration. -/
theorem ofNanos_fits {n : Nat} (fits : n ≤ limit.toNanos) :
    ∃ d, ofNanos? n = some d ∧ d.toNanos = n := by
  have seconds := limit.seconds_lt
  have nanos := limit.nanos_lt
  have bound : n / nanosPerSecond < UInt64.size := by
    simp only [toNanos, nanosPerSecond] at *
    omega
  exact ⟨_, dif_pos bound, Nat.div_add_mod' n nanosPerSecond⟩

theorem plus_fits (seconds nanos : Nat) (small : nanos < nanosPerSecond)
    (fits : total.toNanos + (seconds * nanosPerSecond + nanos) ≤ limit.toNanos) :
    ∃ sum, plus total seconds nanos = .ok sum ∧
      sum.toNanos = total.toNanos + (seconds * nanosPerSecond + nanos) := by
  have room : nanosPerSecond + nanosPerSecond ≤ UInt64.size := by decide
  have bound : total.nanos + nanos < UInt64.size :=
    Nat.lt_of_lt_of_le (Nat.add_lt_add total.nanos_lt small) room
  have whole : (total.seconds + seconds) * nanosPerSecond + (total.nanos + nanos) =
      total.toNanos + (seconds * nanosPerSecond + nanos) := by
    rw [toNanos, Nat.add_mul, Nat.add_add_add_comm]
  obtain ⟨sum, made, length⟩ := ofNanos_fits fits
  refine ⟨sum, ?_, length⟩
  have checked : checked (total.nanos + nanos) = .ok (total.nanos + nanos) := if_pos bound
  simp only [plus, checked, bind, Except.bind, whole, made]
  rfl

/-- A part adds what it is worth. -/
theorem add_fits (legible : Legible part) (fits : total.toNanos + worth part ≤ limit.toNanos) :
    ∃ sum, add total part = .ok sum ∧ sum.toNanos = total.toNanos + worth part := by
  obtain ⟨-, unit, named, small⟩ := legible
  obtain ⟨named, -⟩ := of_names named
  have unitWorth : worth part = part.1 * inNanos unit.measure := by rw [worth, named]; rfl
  have added : add total part =
      plusMeasured total (fun m => checked (part.1 * m)) unit.measure := by
    rw [add, plusNamed, named]
    exact bind_pure _
  rw [unitWorth] at fits ⊢
  rw [added]
  cases measure : unit.measure with
  | nanos count =>
    have few := small count measure
    have checked : checked (part.1 * count) = .ok (part.1 * count) :=
      if_pos (Nat.lt_trans few (by decide))
    have sum := plus_fits 0 _ few (by simpa [measure, inNanos] using fits)
    simp only [plusMeasured, checked, bind, Except.bind]
    simpa [inNanos] using sum
  | seconds count =>
    have length : part.1 * inNanos (.seconds count) = part.1 * count * nanosPerSecond :=
      (Nat.mul_assoc ..).symm
    rw [measure, length] at fits
    have bound : part.1 * count < UInt64.size := by
      have seconds := limit.seconds_lt
      have nanos := limit.nanos_lt
      generalize part.1 * count = n at fits
      simp only [toNanos, nanosPerSecond] at fits nanos
      omega
    have checked : checked (part.1 * count) = .ok (part.1 * count) := if_pos bound
    have positive : 0 < nanosPerSecond := by decide
    have sum := plus_fits (part.1 * count) 0 positive (by rwa [Nat.add_zero])
    simp only [plusMeasured, checked, bind, Except.bind, length]
    simpa using sum

/-- Parts add up as long as the sum is no longer than some duration. -/
theorem exists_sum (total limit : Duration) (legible : ∀ p ∈ parts, Legible p)
    (fits : total.toNanos + (parts.map worth).sum ≤ limit.toNanos) :
    ∃ sum, parts.foldlM add total = .ok sum ∧
      sum.toNanos = total.toNanos + (parts.map worth).sum := by
  induction parts generalizing total with
  | nil => exact ⟨total, rfl, by rw [List.map_nil, List.sum_nil, Nat.add_zero]⟩
  | cons part parts ih =>
    obtain ⟨first, others⟩ := List.forall_mem_cons.1 legible
    rw [List.map_cons, List.sum_cons, ← Nat.add_assoc] at fits ⊢
    obtain ⟨next, added, length⟩ := add_fits first (Nat.le_trans (Nat.le_add_right ..) fits)
    rw [← length] at fits ⊢
    obtain ⟨sum, all, whole⟩ := ih next others fits
    refine ⟨sum, ?_, whole⟩
    rw [List.foldlM_cons, added]
    exact all

/-! ## The parts of a duration -/

/-- A number of a unit that is measured in seconds. -/
theorem legible_long {n : Nat} {name : String} (unit : TimeUnit) (fits : n < UInt64.size)
    (named : names name unit = true) (long : ∀ count, unit.measure ≠ .nanos count) :
    Legible (n, name) :=
  ⟨fits, unit, named, fun count measure => absurd measure (long count)⟩

theorem legible_counted {n : Nat} {name : String} (unit : TimeUnit) (fits : n < UInt64.size)
    (one : names name unit = true) (more : names (name ++ "s") unit = true)
    (long : ∀ count, unit.measure ≠ .nanos count) : Legible (counted n name) := by
  refine legible_long unit fits ?_ long
  split
  · exact more
  · exact one

/-- A number of a unit that is a part of a second, and is no second. -/
theorem legible_short {n count : Nat} {name : String} (unit : TimeUnit)
    (named : names name unit = true) (measure : unit.measure = .nanos count)
    (small : n * count < nanosPerSecond) (fits : n < UInt64.size) : Legible (n, name) := by
  refine ⟨fits, unit, named, fun count' measure' => ?_⟩
  obtain rfl := TimeUnit.Measure.nanos.inj (measure.symm.trans measure')
  exact small

theorem legible_parts (d : Duration) : ∀ p ∈ d.parts, Legible p := by
  have seconds := d.seconds_lt
  have nanos := d.nanos_lt
  have long {n : Nat} (h : n ≤ d.seconds) : n < UInt64.size := Nat.lt_of_le_of_lt h seconds
  have short {n : Nat} (h : n < 1000) : n < UInt64.size := Nat.lt_trans h (by decide)
  have millis : d.nanos / 1000000 < 1000 := by simp only [nanosPerSecond] at nanos; omega
  have micros : d.nanos / 1000 % 1000 < 1000 := by omega
  have rest : d.nanos % 1000 < 1000 := by omega
  simp only [parts, List.forall_mem_cons]
  refine ⟨legible_counted .year (long (by omega)) (by decide) (by decide) nofun,
    legible_counted .month (long (by omega)) (by decide) (by decide) nofun,
    legible_counted .day (long (by omega)) (by decide) (by decide) nofun,
    legible_long .hour (long (by omega)) (by decide) nofun,
    legible_long .minute (long (by omega)) (by decide) nofun,
    legible_long .second (long (by omega)) (by decide) nofun,
    legible_short .millisecond (by decide) rfl ?_ (short millis),
    legible_short .microsecond (by decide) rfl ?_ (short micros),
    legible_short .nanosecond (by decide) rfl ?_ (short rest), nofun⟩
  · simp only [nanosPerSecond]; omega
  · simp only [nanosPerSecond]; omega
  · simp only [nanosPerSecond]; omega

theorem worth_named {n size : Nat} {name : String} (unit : TimeUnit)
    (named : names name unit = true) (length : inNanos unit.measure = size) :
    worth (n, name) = n * size := by
  rw [worth, (of_names named).1, ← length]
  rfl

theorem worth_counted {n size : Nat} {name : String} (unit : TimeUnit)
    (one : names name unit = true) (more : names (name ++ "s") unit = true)
    (length : inNanos unit.measure = size) : worth (counted n name) = n * size := by
  unfold counted
  split
  · exact worth_named unit more length
  · exact worth_named unit one length

/-- A sum over the parts, with what is left over of each longer unit written out. -/
theorem sum_parts (w : Nat × String → Nat) (d : Duration) : (d.parts.map w).sum =
    w (counted (d.seconds / 31557600) "year") +
    (w (counted (d.seconds % 31557600 / 2630016) "month") +
    (w (counted (d.seconds % 31557600 % 2630016 / 86400) "day") +
    (w (d.seconds % 31557600 % 2630016 % 86400 / 3600, "h") +
    (w (d.seconds % 31557600 % 2630016 % 86400 % 3600 / 60, "m") +
    (w (d.seconds % 31557600 % 2630016 % 86400 % 60, "s") +
    (w (d.nanos / 1000000, "ms") + (w (d.nanos / 1000 % 1000, "us") +
    (w (d.nanos % 1000, "ns") + 0)))))))) := by
  simp only [parts, List.map_cons, List.map_nil, List.sum_cons, List.sum_nil]

/-- The parts of a duration are worth the duration. -/
theorem worth_parts (d : Duration) : (d.parts.map worth).sum = d.toNanos := by
  have year (n : Nat) : worth (counted n "year") = n * 31557600000000000 :=
    worth_counted .year (by decide) (by decide) rfl
  have month (n : Nat) : worth (counted n "month") = n * 2630016000000000 :=
    worth_counted .month (by decide) (by decide) rfl
  have day (n : Nat) : worth (counted n "day") = n * 86400000000000 :=
    worth_counted .day (by decide) (by decide) rfl
  have hour (n : Nat) : worth (n, "h") = n * 3600000000000 := worth_named .hour (by decide) rfl
  have minute (n : Nat) : worth (n, "m") = n * 60000000000 := worth_named .minute (by decide) rfl
  have second (n : Nat) : worth (n, "s") = n * 1000000000 := worth_named .second (by decide) rfl
  have milli (n : Nat) : worth (n, "ms") = n * 1000000 := worth_named .millisecond (by decide) rfl
  have micro (n : Nat) : worth (n, "us") = n * 1000 := worth_named .microsecond (by decide) rfl
  have nano (n : Nat) : worth (n, "ns") = n * 1 := worth_named .nanosecond (by decide) rfl
  rw [sum_parts, year, month, day, hour, minute, second, milli, micro, nano, toNanos]
  simp only [nanosPerSecond]
  omega

/-- Parts that do not occur are worth nothing. -/
theorem worth_filter (parts : List (Nat × String)) :
    ((parts.filter fun (n, _) => n ≠ 0).map worth).sum = (parts.map worth).sum := by
  induction parts with
  | nil => rfl
  | cons part parts ih =>
    by_cases none : part.1 = 0
    · have worthless : worth part = 0 := by rw [worth, none, Nat.zero_mul]
      rw [List.filter_cons_of_neg (by simpa using none), ih, List.map_cons, List.sum_cons,
        worthless, Nat.zero_add]
    · rw [List.filter_cons_of_pos (by simpa using none), List.map_cons, List.sum_cons, ih,
        List.map_cons, List.sum_cons]

theorem isZero_of_toNanos {d : Duration} (none : d.toNanos = 0) : d.isZero = true := by
  rw [toNanos] at none
  have seconds : d.seconds = 0 := by simp only [nanosPerSecond] at none; omega
  have nanos : d.nanos = 0 := by omega
  rw [isZero, seconds, nanos]
  rfl

/-- A duration is read from its text, to the nanosecond. -/
theorem parse_written (d : Duration) : parse d.written = .ok d := by
  unfold written
  split
  · next zero =>
    simp only [isZero, Bool.and_eq_true, beq_iff_eq] at zero
    obtain rfl : d = .zero := toNanos_inj (by rw [toNanos, zero.1, zero.2]; rfl)
    rfl
  · next other =>
    have length := (worth_filter d.parts).trans (worth_parts d)
    have legible : ∀ p ∈ d.parts.filter fun (n, _) => n ≠ 0, Legible p :=
      fun p mem => legible_parts d p (List.mem_filter.1 mem).1
    show parse (partsText (d.parts.filter fun (n, _) => n ≠ 0)) = .ok d
    cases occur : d.parts.filter fun (n, _) => n ≠ 0 with
    | nil =>
      rw [occur] at length
      exact absurd (isZero_of_toNanos length.symm) other
    | cons part parts =>
      rw [occur] at legible length
      have start : zero.toNanos + ((part :: parts).map worth).sum = d.toNanos := by
        rw [length]
        exact Nat.zero_add _
      obtain ⟨sum, added, whole⟩ := exists_sum zero d legible (Nat.le_of_eq start)
      rw [parse_partsText legible added, toNanos_inj (whole.trans start)]

end Duration

end Sluice

import Sluice.Relay.Pump

/-
  One direction of a relay as a copy on its own. A source yields some octets and then ends, fails or
  falls silent (`Source.yield`, `Source.ending`); a sink takes a front of what it is offered
  (`Sink.Took`). `Pump.Step` says all that a pump can do while it copies. Whatever it does, what the
  sink took, what is left of the chunk and what the source still yields are together what the source
  yielded at the start (`Pump.Along`). So a pump that has finished comes to what `Pump.ComesTo`
  says, which does not depend on how reads and writes fell.
-/

namespace Sluice

/-! ## What a source yields -/

namespace Source

/-- The octets that arrive before the source ends, fails or falls silent. -/
def yield : Source → Octets
  | [] => []
  | .data s :: rest => s ++ yield rest
  | .failure _ :: _ => []
  | .wait :: rest => yield rest
  | .silence :: _ => []

/-- What comes behind them. -/
def ending : Source → Readable.End
  | [] => .eof
  | .data _ :: rest => ending rest
  | .failure e :: _ => .failed e
  | .wait :: rest => ending rest
  | .silence :: _ => .pending

theorem yield_isPrefix (s : Source) : s.yield <+: s.unread := by
  fun_induction yield s with
  | case1 => exact List.prefix_rfl
  | case2 s rest ih => exact (List.prefix_append_right_inj s).2 ih
  | case3 e rest => exact List.nil_prefix
  | case4 rest ih => exact ih
  | case5 rest => exact List.nil_prefix

theorem yield_eq_unread {s : Source} (h : s.ending = .eof) : s.yield = s.unread := by
  fun_induction yield s <;> simp_all [ending, unread]

theorem length_poll (room : Nat) (s : Source) : (s.poll room).1.octets.length ≤ room := by
  fun_induction poll room s with
  | case3 b s rest =>
    rw [Polled.octets, List.length_take]
    exact Nat.min_le_left _ _
  | _ => simp_all [Polled.octets]

/-- An attempt to read hands out the front of what the source yields. A failure comes behind all of
it, and uses it up. -/
theorem poll_yield (room : Nat) (s : Source) :
    match s.poll room with
    | (.failed e, _) => s.yield = [] ∧ s.ending = .failed e
    | (polled, s') => s.yield = polled.octets ++ s'.yield ∧ s.ending = s'.ending := by
  fun_induction poll room s <;> simp_all [yield, ending, Polled.octets, ← List.append_assoc]

/-- A read without octets has come to the end. -/
theorem poll_nil {room : Nat} (positive : 0 < room) {s : Source}
    (h : (s.poll room).1 = .ready []) : s.yield = [] ∧ s.ending = .eof := by
  fun_induction poll room s with
  | case1 => exact ⟨rfl, rfl⟩
  | case2 rest ih => exact ih h
  | case3 b s rest =>
    obtain ⟨room, rfl⟩ := Nat.exists_eq_succ_of_ne_zero (Nat.ne_of_gt positive)
    simp at h
  | case4 => simp at h
  | case5 => simp at h
  | case6 => simp at h

end Source

/-- What goes wrong at the end of a stream. -/
def Readable.End.failure? : Readable.End → Option IoError
  | .failed e => some e
  | _ => none

namespace Replay

/-- The octets that come before the stream ends, fails or falls silent. -/
def yield (r : Replay) : Octets :=
  r.held ++ r.source.yield

/-- What comes behind them. -/
def ending (r : Replay) : Readable.End :=
  r.source.ending

theorem yield_isPrefix (r : Replay) : r.yield <+: r.unread :=
  (List.prefix_append_right_inj r.held).2 r.source.yield_isPrefix

theorem yield_eq_unread {r : Replay} (h : r.ending = .eof) : r.yield = r.unread :=
  congrArg (r.held ++ ·) (Source.yield_eq_unread h)

theorem length_poll (room : Nat) (r : Replay) : (r.poll room).1.octets.length ≤ room := by
  unfold poll readBy
  split
  · exact Source.length_poll room r.source
  · rw [Polled.octets, List.length_take]
    exact Nat.min_le_left _ _

theorem poll_yield (room : Nat) (r : Replay) :
    match r.poll room with
    | (.failed e, _) => r.yield = [] ∧ r.ending = .failed e
    | (polled, r') => r.yield = polled.octets ++ r'.yield ∧ r.ending = r'.ending := by
  rcases r with ⟨held, source⟩
  cases held with
  | nil =>
    have h := source.poll_yield room
    rcases e : source.poll room with ⟨polled, source'⟩
    rw [e] at h
    simp only [poll, readBy, e]
    cases polled <;> exact h
  | cons b held =>
    refine ⟨?_, rfl⟩
    show b :: held ++ source.yield =
      (b :: held).take room ++ ((b :: held).drop room ++ source.yield)
    rw [← List.append_assoc, List.take_append_drop]

theorem poll_nil {room : Nat} (positive : 0 < room) {r : Replay}
    (h : (r.poll room).1 = .ready []) : r.yield = [] ∧ r.ending = .eof := by
  rcases r with ⟨held, source⟩
  cases held with
  | nil => exact Source.poll_nil positive h
  | cons b held =>
    obtain ⟨room, rfl⟩ := Nat.exists_eq_succ_of_ne_zero (Nat.ne_of_gt positive)
    simp [poll, readBy] at h

end Replay

/-! ## What a sink takes -/

/-- What goes wrong when a sink has no room left. -/
def WhenFull.failure? : WhenFull → Option IoError
  | .refuses e => some e
  | .stalls => none

namespace Sink

/-- How many octets a sink takes in the end; no bound if absent. One that never takes any at a time
takes none. -/
def capacity (s : Sink) : Option Nat :=
  if s.perWrite = some 0 then some 0 else s.room

/-- What goes wrong with a write behind that. -/
def refusal (s : Sink) : Option IoError :=
  if s.perWrite = some 0 ∧ s.room ≠ some 0 then some .nothingWritten else s.whenFull.failure?

theorem capacity_of_takes {s : Sink} (takes : s.perWrite ≠ some 0) : s.capacity = s.room :=
  if_neg takes

theorem refusal_of_takes {s : Sink} (takes : s.perWrite ≠ some 0) :
    s.refusal = s.whenFull.failure? :=
  if_neg fun stuck => takes stuck.1

/-- From `s₀` to `s` a sink has taken these octets and nothing else. -/
structure Took (s₀ : Sink) (taken : Octets) (s : Sink) : Prop where
  accepted : s.accepted = s₀.accepted ++ taken
  room : s.room = s₀.room.map (· - taken.length)
  fits : ∀ n ∈ s₀.capacity, taken.length ≤ n
  perWrite : s.perWrite = s₀.perWrite
  whenFull : s.whenFull = s₀.whenFull

theorem took_nil (s : Sink) : s.Took [] s where
  accepted := (List.append_nil _).symm
  room := by cases s.room <;> rfl
  fits n _ := Nat.zero_le n
  perWrite := rfl
  whenFull := rfl

theorem Took.capacity {s₀ s : Sink} {taken : Octets} (h : s₀.Took taken s) :
    s.capacity = s₀.capacity.map (· - taken.length) := by
  unfold Sink.capacity
  rw [h.perWrite, h.room]
  split
  · exact congrArg some (Nat.zero_sub _).symm
  · rfl

theorem Took.trans {s₀ s s' : Sink} {a b : Octets} (h : s₀.Took a s) (h' : s.Took b s') :
    s₀.Took (a ++ b) s' where
  accepted := by rw [h'.accepted, h.accepted, List.append_assoc]
  room := by
    rw [h'.room, h.room, List.length_append]
    cases s₀.room with
    | none => rfl
    | some n => exact congrArg some (Nat.sub_sub n _ _)
  fits n hn := by
    have left : s.capacity = some (n - a.length) := by
      rw [h.capacity, hn]
      rfl
    have := h.fits n hn
    have := h'.fits _ left
    rw [List.length_append]
    omega
  perWrite := h'.perWrite.trans h.perWrite
  whenFull := h'.whenFull.trans h.whenFull

theorem length_front_le {data : Octets} {s : Sink} {n : Nat} (h : n ∈ s.capacity) :
    (s.front data).length ≤ n := by
  unfold capacity at h
  unfold front most
  split at h
  · next stuck =>
    obtain rfl := Option.some.inj h
    rw [stuck]
    cases s.room <;> simp [Option.merge]
  · rw [h]
    cases s.perWrite with
    | none =>
      show (data.take n).length ≤ n
      rw [List.length_take]
      exact Nat.min_le_left _ _
    | some m =>
      show (data.take (min m n)).length ≤ n
      rw [List.length_take]
      omega

theorem took_write {data : Octets} {s s' : Sink} {n : Nat} (h : s.write data = (.done n, s')) :
    s.Took (data.take n) s' := by
  have front : data.take n = s.front data ∧ s' =
      { s with pieces := s.front data :: s.pieces, room := s.room.map (· - n) } ∧
      n = (s.front data).length := by
    unfold write at h
    split at h
    · split at h <;> simp at h
    · simp only [Prod.mk.injEq, Outcome.done.injEq] at h
      obtain ⟨rfl, rfl⟩ := h
      exact ⟨(s.front_eq_take data).symm, rfl, rfl⟩
  obtain ⟨front, rfl, length⟩ := front
  refine ⟨(write_done h).2, ?_, ?_, rfl, rfl⟩
  · rw [front, ← length]
  · intro m hm
    rw [front]
    exact length_front_le hm

/-- A sink refuses when its room is used up, and then takes nothing. -/
theorem write_failed {data : Octets} {s s' : Sink} {e : IoError}
    (h : s.write data = (.failed e, s')) : s' = s ∧ s.room = some 0 ∧ s.whenFull = .refuses e := by
  unfold write at h
  split at h
  · next full =>
    split at h
    · next e' refuses =>
      simp only [Prod.mk.injEq, Outcome.failed.injEq] at h
      obtain ⟨rfl, rfl⟩ := h
      exact ⟨rfl, full, refuses⟩
    · simp at h
  · simp at h

/-- A sink with room that takes none of some octets takes none at all. -/
theorem write_zero {data : Octets} {s s' : Sink} (ne : data ≠ [])
    (h : s.write data = (.done 0, s')) : s.perWrite = some 0 ∧ s.room ≠ some 0 := by
  rcases s with ⟨pieces, room, perWrite, whenFull⟩
  unfold write at h
  split at h
  · split at h <;> simp at h
  · next hasRoom =>
    refine ⟨?_, hasRoom⟩
    simp only [Prod.mk.injEq, Outcome.done.injEq, List.length_eq_zero_iff] at h
    have nothing := h.1
    unfold front most at nothing
    cases perWrite with
    | none =>
      cases room with
      | none => exact absurd nothing ne
      | some n =>
        have := (List.take_eq_nil_iff.1 nothing).resolve_right ne
        exact absurd (congrArg some this) hasRoom
    | some m =>
      cases room with
      | none => exact congrArg some ((List.take_eq_nil_iff.1 nothing).resolve_right ne)
      | some n =>
        have least : min m n = 0 := (List.take_eq_nil_iff.1 nothing).resolve_right ne
        have : n ≠ 0 := fun h => hasRoom (congrArg some h)
        show some m = some 0
        congr 1
        omega

/-- A sink stalls when its room is used up, and then takes nothing. -/
theorem write_pending {data : Octets} {s s' : Sink} (h : s.write data = (.pending, s')) :
    s' = s ∧ s.room = some 0 := by
  unfold write at h
  split at h
  · next full =>
    split at h
    · simp at h
    · exact ⟨(Prod.mk.inj h).2.symm, full⟩
  · simp at h

theorem capacity_of_full {s : Sink} (full : s.room = some 0) : s.capacity = some 0 := by
  unfold capacity
  split
  · rfl
  · exact full

/-- A sink that is offered some octets until it has them takes a front of them: all, if it says so,
and it says so if it has room for them. -/
theorem took_writeAll (data : Octets) (s : Sink) :
    ∃ taken, taken <+: data ∧ s.Took taken (s.writeAll data).2 ∧
      ((s.writeAll data).1 = .done () → taken = data) ∧
      ((∀ n ∈ s.capacity, data.length ≤ n) → (s.writeAll data).1 = .done ()) := by
  have short {s : Sink} {b : UInt8} {rest : Octets} (h : s.capacity = some 0) :
      ¬ ∀ n ∈ s.capacity, (b :: rest).length ≤ n :=
    fun fits => Nat.not_succ_le_zero _ (fits 0 h)
  fun_induction writeAll data s with
  | case1 s => exact ⟨[], List.prefix_rfl, s.took_nil, fun _ => rfl, fun _ => rfl⟩
  | case2 s b rest e s' h =>
    obtain ⟨rfl, full, -⟩ := write_failed h
    exact ⟨[], List.nil_prefix, took_nil _, nofun,
      fun fits => absurd fits (short (capacity_of_full full))⟩
  | case3 s b rest s' h =>
    obtain ⟨rfl, full⟩ := write_pending h
    exact ⟨[], List.nil_prefix, took_nil _, nofun,
      fun fits => absurd fits (short (capacity_of_full full))⟩
  | case4 s b rest s' h =>
    have stuck : s.capacity = some 0 := if_pos (write_zero (List.cons_ne_nil b rest) h).1
    exact ⟨[], List.nil_prefix, took_write h, nofun, fun fits => absurd fits (short stuck)⟩
  | case5 s b rest n s' h ih =>
    obtain ⟨taken, front, took, all, done⟩ := ih
    have first := took_write h
    have whole : (b :: rest).take (n + 1) ++ rest.drop n = b :: rest :=
      List.take_append_drop (n + 1) (b :: rest)
    refine ⟨(b :: rest).take (n + 1) ++ taken, ?_, first.trans took, fun all' => ?_, fun fits => ?_⟩
    · have longer := (List.prefix_append_right_inj ((b :: rest).take (n + 1))).2 front
      rwa [whole] at longer
    · rw [all all', whole]
    · refine done fun m room => ?_
      rw [first.capacity] at room
      obtain ⟨k, bound, rfl⟩ := Option.map_eq_some_iff.1 room
      have written := (write_done h).1
      have fits := fits k bound
      simp only [List.length_drop, List.length_take, List.length_cons] at *
      omega

/-- A sink with room for some octets takes them all. -/
theorem writeAll_fits {data : Octets} {s : Sink} (fits : ∀ n ∈ s.capacity, data.length ≤ n) :
    ∃ s', s.writeAll data = (.done (), s') ∧ s.Took data s' := by
  obtain ⟨taken, -, took, all, done⟩ := took_writeAll data s
  obtain rfl := all (done fits)
  exact ⟨_, Prod.ext (done fits) rfl, took⟩

/-- A sink without bounds takes all that it is offered. -/
theorem writeAll_open {data : Octets} {s : Sink} (room : s.room = none)
    (takes : s.perWrite ≠ some 0) :
    ∃ s', s.writeAll data = (.done (), s') ∧ s'.accepted = s.accepted ++ data := by
  have unbounded : s.capacity = none := (capacity_of_takes takes).trans room
  have fits : ∀ n ∈ s.capacity, data.length ≤ n := by
    rw [unbounded]
    exact nofun
  obtain ⟨s', done, took⟩ := writeAll_fits fits
  exact ⟨s', done, took.accepted⟩

end Sink

/-! ## What a pump does -/

namespace Pump

/-- All that a pump can do while it copies. -/
inductive Step (p : Pump) : Pump → Prop where
  | borrow {buffer} : p.phase = .start → Step p { p with phase := .read buffer }
  | wait {buffer source} : p.phase = .read buffer →
      p.source.poll Buffer.size = (.pending, source) → Step p { p with source }
  | read {buffer buffer' source data} : p.phase = .read buffer →
      p.source.poll Buffer.size = (.ready data, source) → data ≠ [] →
      Step p { p with source, phase := .write buffer' data.length data }
  | drain {buffer source} : p.phase = .read buffer →
      p.source.poll Buffer.size = (.ready [], source) →
      Step p { p with source, phase := .closeTarget none }
  | fail {buffer source e} : p.phase = .read buffer →
      p.source.poll Buffer.size = (.failed e, source) →
      Step p { p with source, phase := .closeTarget (some e) }
  | refuse {buffer count rest sink e} : p.phase = .write buffer count rest →
      p.sink.write rest = (.failed e, sink) →
      Step p { p with sink, phase := .closeTarget (some e) }
  | stick {buffer count rest sink} : p.phase = .write buffer count rest →
      p.sink.write rest = (.done 0, sink) →
      Step p { p with sink, phase := .closeTarget (some .nothingWritten) }
  | write {buffer count rest sink n} : p.phase = .write buffer count rest →
      p.sink.write rest = (.done n, sink) → rest.drop n ≠ [] →
      Step p { p with sink, phase := .write buffer count (rest.drop n) }
  | count {buffer count rest sink n} : p.phase = .write buffer count rest →
      p.sink.write rest = (.done n, sink) → rest.drop n = [] →
      Step p { p with sink, copied := p.copied + count, phase := .read buffer }

theorem step_readChunk {d : Direction} {buffer : Buffer} {pool : Pool} {p : Pump} {c : Copied}
    (phase : p.phase = .read buffer) (h : readChunk d buffer pool p = some c) : p.Step c.pump := by
  unfold readChunk at h
  split at h
  · simp at h
  · have le := p.source.length_poll Buffer.size
    rcases e : p.source.poll Buffer.size with ⟨polled, source⟩
    rw [e] at h le
    dsimp only at h
    split at h <;> obtain rfl := Option.some.inj h
    · exact .wait phase e
    · exact .fail phase e
    · exact .drain phase e
    · next data ne =>
      have fits : data.length ≤ Buffer.size := le
      show p.Step { p with source, phase := .write _ _ _ }
      rw [Buffer.front_store fits]
      exact .read phase e ne

theorem step_writeChunk {d : Direction} {buffer : Buffer} {count : Nat} {rest : Octets}
    {pool : Pool} {p : Pump} {c : Copied} (phase : p.phase = .write buffer count rest)
    (h : writeChunk d buffer count rest pool p = some c) : p.Step c.pump := by
  unfold writeChunk at h
  split at h
  · simp at h
  · next e =>
    obtain rfl := Option.some.inj h
    exact .refuse phase e
  · next e =>
    obtain rfl := Option.some.inj h
    exact .stick phase e
  · next e =>
    obtain rfl := Option.some.inj h
    dsimp only
    split
    · next done => exact .count phase e done
    · next left => exact .write phase e left

theorem step_copy {d : Direction} {pool : Pool} {p : Pump} {c : Copied}
    (h : copy d pool p = some c) : p.Step c.pump := by
  unfold copy at h
  split at h
  · next phase =>
    obtain rfl := Option.some.inj h
    exact .borrow phase
  · next phase => exact step_readChunk phase h
  · next phase => exact step_writeChunk phase h
  · simp at h

/-! ## What a pump comes to -/

/-- Is there room for all that the source yields? -/
def Fits (p : Pump) : Prop :=
  ∀ n ∈ p.sink.capacity, p.source.yield.length ≤ n

instance (p : Pump) : Decidable p.Fits :=
  inferInstanceAs (Decidable (∀ n ∈ p.sink.capacity, _))

/-- What the sink gets from a copy that is made on its own. -/
def delivered (p : Pump) : Octets :=
  match p.sink.capacity with
  | none => p.source.yield
  | some n => p.source.yield.take n

/-- What goes wrong with a copy that is made on its own. -/
def result (p : Pump) : Option IoError :=
  if p.Fits then p.source.ending.failure? else p.sink.refusal

/-- What a pump comes to that starts like `p`: the octets that the sink takes, how many of them are
counted, and what goes wrong. -/
inductive ComesTo (p : Pump) : (taken : Octets) → (copied : Nat) → Option IoError → Prop where
  | complete : p.Fits → p.source.ending = .eof →
      ComesTo p p.source.yield p.source.yield.length none
  | broken {e} : p.Fits → p.source.ending = .failed e →
      ComesTo p p.source.yield p.source.yield.length (some e)
  | refused {n copied e} : p.sink.capacity = some n → n < p.source.yield.length →
      p.sink.refusal = some e → copied ≤ n → n < copied + Buffer.size →
      ComesTo p (p.source.yield.take n) copied (some e)

theorem delivered_of_fits {p : Pump} (h : p.Fits) : p.delivered = p.source.yield := by
  unfold delivered
  split
  · rfl
  · next n room => exact List.take_of_length_le (h n room)

theorem not_fits {p : Pump} {n : Nat} (room : p.sink.capacity = some n)
    (long : n < p.source.yield.length) : ¬ p.Fits :=
  fun h => Nat.not_le_of_lt long (h n room)

/-- Only the source and the sink decide what a pump comes to. -/
theorem ComesTo.alone {p : Pump} {taken : Octets} {copied : Nat} {failure : Option IoError}
    (h : p.ComesTo taken copied failure) :
    taken = p.delivered ∧ failure = p.result ∧ (p.Fits → copied = p.source.yield.length) := by
  cases h with
  | complete fits ending =>
    refine ⟨(delivered_of_fits fits).symm, ?_, fun _ => rfl⟩
    rw [result, if_pos fits, ending]
    rfl
  | broken fits ending =>
    refine ⟨(delivered_of_fits fits).symm, ?_, fun _ => rfl⟩
    rw [result, if_pos fits, ending]
    rfl
  | refused room long refuses =>
    have full := not_fits room long
    refine ⟨?_, ?_, fun fits => absurd fits full⟩
    · rw [delivered, room]
    · rw [result, if_neg full, refuses]

/-- Has a pump that started like `p₀` finished with this failure? -/
def Done (p₀ p : Pump) (failure : Option IoError) : Prop :=
  ∃ taken, p₀.sink.Took taken p.sink ∧ p₀.ComesTo taken p.copied failure

/-- Is this a pump that started like `p₀`, as far as it has come? -/
def Along (p₀ p : Pump) : Prop :=
  match p.phase with
  | .start => p = p₀
  | .read _ => ∃ taken, p₀.sink.Took taken p.sink ∧ p.copied = taken.length ∧
      p₀.source.yield = taken ++ p.source.yield ∧ p₀.source.ending = p.source.ending
  | .write _ count rest => ∃ taken, p₀.sink.Took taken p.sink ∧
      p.copied + count = taken.length + rest.length ∧
      rest ≠ [] ∧ rest.length ≤ count ∧ count ≤ Buffer.size ∧
      p₀.source.yield = taken ++ (rest ++ p.source.yield) ∧ p₀.source.ending = p.source.ending
  | .closeTarget failure | .closeSource failure | .report failure => Done p₀ p failure
  | .joined => ∃ failure, Done p₀ p failure
  | .dropped => ∃ taken, p₀.sink.Took taken p.sink ∧ taken <+: p₀.source.yield ∧
      p.copied ≤ taken.length ∧ taken.length < p.copied + Buffer.size

/-- A sink that takes no more has taken as much as it ever does. -/
theorem comesTo_refused {p₀ p : Pump} {n count : Nat} {taken rest : Octets} {e : IoError}
    (took : p₀.sink.Took taken p.sink) (counted : p.copied + count = taken.length + rest.length)
    (ne : rest ≠ []) (le : rest.length ≤ count) (size : count ≤ Buffer.size)
    (yield : p₀.source.yield = taken ++ (rest ++ p.source.yield))
    (capacity : p₀.sink.capacity = some n) (full : n ≤ taken.length)
    (refuses : p₀.sink.refusal = some e) : p₀.ComesTo taken p.copied (some e) := by
  have pos := List.length_pos_iff.2 ne
  have all : taken.length = n := Nat.le_antisymm (took.fits n capacity) full
  have long : p₀.source.yield.length = taken.length + (rest.length + p.source.yield.length) := by
    rw [yield, List.length_append, List.length_append]
  have front : p₀.source.yield.take n = taken := by
    rw [yield, ← all, List.take_left]
  rw [← front]
  exact .refused capacity (by omega) refuses (by omega) (by omega)

theorem along_refuse {p₀ p : Pump} {buffer : Buffer} {count : Nat} {rest : Octets} {sink : Sink}
    {e : IoError} (phase : p.phase = .write buffer count rest) (h : p₀.Along p)
    (write : p.sink.write rest = (.failed e, sink)) :
    Done p₀ { p with sink, phase := .closeTarget (some e) } (some e) := by
  simp only [Along, phase] at h
  obtain ⟨taken, took, counted, ne, le, size, yield, -⟩ := h
  obtain ⟨rfl, full, refuses⟩ := Sink.write_failed write
  have fails : p₀.sink.whenFull.failure? = some e := by
    rw [← took.whenFull, refuses]
    rfl
  refine ⟨taken, took, ?_⟩
  by_cases stuck : p₀.sink.perWrite = some 0
  · have capacity : p₀.sink.capacity = some 0 := if_pos stuck
    obtain rfl := List.length_eq_zero_iff.1 (Nat.le_zero.1 (took.fits 0 capacity))
    have room : p₀.sink.room = some 0 := by
      have := took.room
      rw [full] at this
      cases h : p₀.sink.room <;> simp_all
    have refusal : p₀.sink.refusal = some e := by
      rw [Sink.refusal, if_neg (fun h => h.2 room), fails]
    exact comesTo_refused took counted ne le size yield capacity (Nat.le_refl 0) refusal
  · have refusal : p₀.sink.refusal = some e := by
      rw [Sink.refusal_of_takes stuck, fails]
    have room := Sink.capacity_of_takes stuck
    cases h : p₀.sink.room with
    | none => simp [took.room, h] at full
    | some n =>
      have used : n - taken.length = 0 := by simpa [took.room, h] using full
      exact comesTo_refused took counted ne le size yield (room.trans h) (by omega) refusal

theorem along_stick {p₀ p : Pump} {buffer : Buffer} {count : Nat} {rest : Octets} {sink : Sink}
    (phase : p.phase = .write buffer count rest) (h : p₀.Along p)
    (write : p.sink.write rest = (.done 0, sink)) :
    Done p₀ { p with sink, phase := .closeTarget (some .nothingWritten) }
      (some .nothingWritten) := by
  simp only [Along, phase] at h
  obtain ⟨taken, took, counted, ne, le, size, yield, -⟩ := h
  obtain ⟨stuck, room⟩ := Sink.write_zero ne write
  rw [took.perWrite] at stuck
  have capacity : p₀.sink.capacity = some 0 := if_pos stuck
  obtain rfl := List.length_eq_zero_iff.1 (Nat.le_zero.1 (took.fits 0 capacity))
  have room₀ : p₀.sink.room ≠ some 0 := by
    intro h
    rw [took.room, h] at room
    exact room rfl
  have refusal : p₀.sink.refusal = some .nothingWritten := if_pos ⟨stuck, room₀⟩
  have comes := comesTo_refused took counted ne le size yield capacity (Nat.le_refl 0) refusal
  exact ⟨[], took.trans (Sink.took_write write), comes⟩

theorem along_step {p₀ p p' : Pump} (fresh : p₀.copied = 0) (h : p₀.Along p) (step : p.Step p') :
    p₀.Along p' := by
  cases step with
  | borrow phase =>
    simp only [Along, phase] at h
    subst h
    exact ⟨[], Sink.took_nil _, fresh, rfl, rfl⟩
  | @wait buffer source phase poll =>
    simp only [Along, phase] at h ⊢
    obtain ⟨taken, took, counted, yield, ending⟩ := h
    have polled := p.source.poll_yield Buffer.size
    rw [poll] at polled
    exact ⟨taken, took, counted, by rw [yield, polled.1]; rfl, ending.trans polled.2⟩
  | @read buffer buffer' source data phase poll ne =>
    simp only [Along, phase] at h ⊢
    obtain ⟨taken, took, counted, yield, ending⟩ := h
    have polled := p.source.poll_yield Buffer.size
    have le := p.source.length_poll Buffer.size
    rw [poll] at polled le
    exact ⟨taken, took, by rw [counted], ne, Nat.le_refl _, le, by rw [yield, polled.1]; rfl,
      ending.trans polled.2⟩
  | @drain buffer source phase poll =>
    simp only [Along, phase] at h ⊢
    obtain ⟨taken, took, counted, yield, ending⟩ := h
    have polled := Replay.poll_nil (by decide) (congrArg Prod.fst poll)
    rw [polled.1, List.append_nil] at yield
    refine ⟨taken, took, ?_⟩
    rw [counted, ← yield]
    exact .complete (fun n hn => yield ▸ took.fits n hn) (ending.trans polled.2)
  | @fail buffer source e phase poll =>
    simp only [Along, phase] at h ⊢
    obtain ⟨taken, took, counted, yield, ending⟩ := h
    have polled := p.source.poll_yield Buffer.size
    rw [poll] at polled
    rw [polled.1, List.append_nil] at yield
    refine ⟨taken, took, ?_⟩
    rw [counted, ← yield]
    exact .broken (fun n hn => yield ▸ took.fits n hn) (ending.trans polled.2)
  | refuse phase write => exact along_refuse phase h write
  | stick phase write => exact along_stick phase h write
  | @write buffer count rest sink n phase write left =>
    simp only [Along, phase] at h ⊢
    obtain ⟨taken, took, counted, ne, le, size, yield, ending⟩ := h
    have cut := (Sink.write_done write).1
    refine ⟨taken ++ rest.take n, took.trans (Sink.took_write write), ?_, left, ?_, size, ?_,
      ending⟩
    · rw [List.length_append, List.length_take, List.length_drop]
      omega
    · rw [List.length_drop]
      omega
    · rw [yield, List.append_assoc, ← List.append_assoc (rest.take n), List.take_append_drop]
  | @count buffer count rest sink n phase write done =>
    simp only [Along, phase] at h ⊢
    obtain ⟨taken, took, counted, ne, le, size, yield, ending⟩ := h
    have all : rest.take n = rest := List.take_of_length_le (List.drop_eq_nil_iff.1 done)
    have took' := took.trans (Sink.took_write write)
    rw [all] at took'
    refine ⟨taken ++ rest, took', ?_, ?_, ending⟩
    · rw [counted, List.length_append]
    · rw [yield, List.append_assoc]

theorem done_bounds {p₀ p : Pump} {failure : Option IoError} (h : p₀.Done p failure) :
    ∃ taken, p₀.sink.Took taken p.sink ∧ taken <+: p₀.source.yield ∧
      p.copied ≤ taken.length ∧ taken.length < p.copied + Buffer.size := by
  obtain ⟨taken, took, comes⟩ := h
  have size : 0 < Buffer.size := by decide
  refine ⟨taken, took, ?_⟩
  generalize p.copied = copied at comes ⊢
  cases comes with
  | complete => exact ⟨List.prefix_rfl, Nat.le_refl _, Nat.lt_add_of_pos_right size⟩
  | broken => exact ⟨List.prefix_rfl, Nat.le_refl _, Nat.lt_add_of_pos_right size⟩
  | refused room long refuses le lt =>
    have length := List.length_take_of_le (Nat.le_of_lt long)
    refine ⟨List.take_prefix _ _, ?_, ?_⟩
    · rw [length]
      exact le
    · rw [length]
      exact lt

/-- However far a pump has come: the sink has taken a front of what the source yields, and less
than a buffer of it is not counted yet. -/
theorem along_bounds {p₀ p : Pump} (fresh : p₀.copied = 0) (h : p₀.Along p) :
    ∃ taken, p₀.sink.Took taken p.sink ∧ taken <+: p₀.source.yield ∧
      p.copied ≤ taken.length ∧ taken.length < p.copied + Buffer.size := by
  unfold Along at h
  split at h
  · subst h
    exact ⟨[], Sink.took_nil _, List.nil_prefix, by rw [fresh]; exact Nat.le_refl 0,
      by rw [fresh]; decide⟩
  · obtain ⟨taken, took, counted, yield, -⟩ := h
    have : 0 < Buffer.size := by decide
    exact ⟨taken, took, ⟨_, yield.symm⟩, by omega, by omega⟩
  · next rest phase =>
    obtain ⟨taken, took, counted, ne, le, size, yield, -⟩ := h
    have pos := List.length_pos_iff.2 ne
    exact ⟨taken, took, ⟨_, yield.symm⟩, by omega, by omega⟩
  · exact done_bounds h
  · exact done_bounds h
  · exact done_bounds h
  · obtain ⟨failure, h⟩ := h
    exact done_bounds h
  · exact h

end Pump

end Sluice

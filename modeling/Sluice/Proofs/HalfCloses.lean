import Sluice.Proofs.RelayChanges

/-
  Half-closes in a relay. Each connection is read by one pump and written by the other, and each
  pump closes what it used when it is through. What a pump leaves in the history follows one course,
  whichever way it ends and whatever the other pump does meanwhile (`Course`, `run_courses`): it
  borrows a buffer, works, gives the buffer back, closes its target, then its source, and is
  finished. The fate of each half of each connection can be read off that, since only one pump ever
  concerns it (`Direction.side_inj`). Closing has no say in what is copied and in the verdict
  (`run_alike`).
-/

namespace Sluice

/-- The connection that a direction reads from, or writes to. -/
def Direction.side (d : Direction) : HalfClose → Side
  | .read => d.source
  | .write => d.target

/-- Only one direction reads from a connection, and only one writes to it. -/
theorem Direction.side_inj {d d' : Direction} {half : HalfClose} (h : d.side half = d'.side half) :
    d = d' := by
  cases half <;> cases d <;> cases d' <;> first | rfl | cases h

theorem Direction.exists_side (side : Side) (half : HalfClose) :
    ∃ d : Direction, d.side half = side := by
  cases half <;> cases side
  · exact ⟨up, rfl⟩
  · exact ⟨down, rfl⟩
  · exact ⟨down, rfl⟩
  · exact ⟨up, rfl⟩

/-- The calls that close one half of a connection: one, if the connection knows how to. -/
def Closer.calls (d : Direction) (half : HalfClose) (c : Closer) : List RelayEvent :=
  if c.ability = .unsupported then [] else [.closed d half (c.close half).1]

theorem Closer.calls_congr {c c' : Closer} (h : c.ability = c'.ability) (d : Direction)
    (half : HalfClose) : c.calls d half = c'.calls d half := by
  unfold calls close
  rw [h]
  cases c'.ability <;> rfl

@[simp] theorem Closer.ability_close (half : HalfClose) (c : Closer) :
    (c.close half).2.ability = c.ability := by
  unfold close
  split <;> simp_all

theorem Closer.attempts_close (half : HalfClose) (c : Closer) :
    (c.close half).2.attempts =
      c.attempts ++ if c.ability = .unsupported then [] else [half] := by
  unfold close
  split <;> next ability => simp [ability]

/-! ## Events of one direction, of one half -/

namespace RelayEvent

/-- The direction that an event belongs to. -/
def direction? : RelayEvent → Option Direction
  | checkedOut d => some d
  | read d => some d
  | wrote d => some d
  | gaveBack d => some d
  | closed d _ _ => some d
  | finished d _ _ => some d
  | forced => none

/-- The half of a connection that an event uses or closes. -/
def on? : RelayEvent → Option (Side × HalfClose)
  | read d => some (d.side .read, .read)
  | wrote d => some (d.side .write, .write)
  | closed d half _ => some (d.side half, half)
  | _ => none

/-- The half of this connection that an event closes. -/
def closes? (side : Side) : RelayEvent → Option HalfClose
  | closed d half _ => if d.side half = side then some half else none
  | _ => none

/-- Does an event close such a half? -/
def isClose (half : HalfClose) : RelayEvent → Bool
  | closed _ half' _ => half' = half
  | _ => false

/-- Where an event stands in the course of its direction. -/
def rank : RelayEvent → Nat
  | checkedOut _ => 0
  | read _ => 1
  | wrote _ => 1
  | gaveBack _ => 2
  | closed _ .write _ => 3
  | closed _ .read _ => 4
  | finished _ _ _ => 5
  | forced => 6

/-- May these come in this order? Only reading and writing are done more than once. -/
def Ordered (a b : RelayEvent) : Prop :=
  a.rank < b.rank ∨ a.rank = 1 ∧ b.rank = 1

/-- A half of a connection is used and closed by one direction only. -/
theorem direction_of_on {d : Direction} {half : HalfClose} {e : RelayEvent}
    (h : e.on? = some (d.side half, half)) : e.direction? = some d := by
  cases e with
  | read d' =>
    obtain ⟨same, rfl⟩ := Prod.mk.inj (Option.some.inj h)
    exact congrArg some (Direction.side_inj same)
  | wrote d' =>
    obtain ⟨same, rfl⟩ := Prod.mk.inj (Option.some.inj h)
    exact congrArg some (Direction.side_inj same)
  | closed d' half' failure =>
    obtain ⟨same, rfl⟩ := Prod.mk.inj (Option.some.inj h)
    exact congrArg some (Direction.side_inj same)
  | _ => cases h

theorem closes?_eq (d : Direction) (half : HalfClose) (e : RelayEvent) :
    (closes? (d.side half) e == some half) = (isClose half e && e.direction? == some d) := by
  cases e with
  | closed d' half' failure =>
    cases d <;> cases half <;> cases d' <;> cases half' <;> rfl
  | _ => rfl

theorem count_closes (d : Direction) (half : HalfClose) (events : List RelayEvent) :
    (events.filterMap (closes? (d.side half))).count half =
      (events.filter fun e => e.direction? == some d).countP (isClose half) := by
  rw [List.count_filterMap, List.countP_filter]
  simp only [closes?_eq]

end RelayEvent

namespace Relay

variable {r₀ r r' : Relay} {d : Direction} {pool pool' : Pool} {t work : List RelayEvent}

/-- What a direction has left in the history. -/
def trace (d : Direction) (r : Relay) : List RelayEvent :=
  r.history.filter fun e => e.direction? == some d

/-! ## What a change leaves alone -/

theorem history_note (r : Relay) (events : List RelayEvent) :
    (r.note events).history = r.history ++ events := by
  simp [history, note]

theorem trace_note (r : Relay) {events : List RelayEvent}
    (own : ∀ e ∈ events, e.direction? = some d) :
    (r.note events).trace d = r.trace d ++ events ∧
      ∀ d' ≠ d, (r.note events).trace d' = r.trace d' := by
  have all : events.filter (fun e => e.direction? == some d) = events :=
    List.filter_eq_self.2 fun e member => by rw [own e member, beq_self_eq_true]
  have none : ∀ d' ≠ d, events.filter (fun e => e.direction? == some d') = [] := by
    intro d' ne
    refine List.filter_eq_nil_iff.2 fun e member => ?_
    rw [own e member]
    simpa using Ne.symm ne
  unfold trace
  rw [history_note]
  refine ⟨by rw [List.filter_append, all], fun d' ne => ?_⟩
  rw [List.filter_append, none d' ne, List.append_nil]

theorem trace_setPump (r : Relay) (d d' : Direction) (p : Pump) :
    (r.setPump d p).trace d' = r.trace d' := by
  cases d <;> rfl

theorem trace_setCloser (r : Relay) (side : Side) (c : Closer) (d : Direction) :
    (r.setCloser side c).trace d = r.trace d := by
  cases side <;> rfl

@[simp] theorem closer_setPump (r : Relay) (d : Direction) (p : Pump) (side : Side) :
    (r.setPump d p).closer side = r.closer side := by
  cases d <;> cases side <;> rfl

@[simp] theorem closer_note (r : Relay) (events : List RelayEvent) (side : Side) :
    (r.note events).closer side = r.closer side := by
  cases side <;> rfl

@[simp] theorem closer_setCloser (r : Relay) (side side' : Side) (c : Closer) :
    (r.setCloser side c).closer side' = if side' = side then c else r.closer side' := by
  cases side <;> cases side' <;> rfl

theorem closer_halfClose (r : Relay) (d : Direction) (side side' : Side) (half : HalfClose)
    (phase : PumpPhase) :
    (r.halfClose d side half phase).closer side' =
      if side' = side then ((r.closer side).close half).2 else r.closer side' := by
  simp [halfClose, setPhase]

theorem calls_direction (d : Direction) (half : HalfClose) (c : Closer) :
    ∀ e ∈ c.calls d half, e.direction? = some d := by
  unfold Closer.calls
  split
  · exact List.forall_mem_nil _
  · intro e member
    rw [List.mem_singleton.1 member]
    rfl

theorem trace_halfClose (r : Relay) (d : Direction) (side : Side) (half : HalfClose)
    (phase : PumpPhase) :
    (r.halfClose d side half phase).trace d = r.trace d ++ (r.closer side).calls d half ∧
      ∀ d' ≠ d, (r.halfClose d side half phase).trace d' = r.trace d' := by
  obtain ⟨own, others⟩ := trace_note
    ((r.setCloser side ((r.closer side).close half).2).setPhase d phase)
    (calls_direction d half (r.closer side))
  have plain : ∀ d', ((r.setCloser side ((r.closer side).close half).2).setPhase d phase).trace d' =
      r.trace d' := fun d' => (trace_setPump ..).trans (trace_setCloser ..)
  exact ⟨own.trans (by rw [plain]), fun d' ne => (others d' ne).trans (plain d')⟩

/-! ## The course of a direction -/

/-- A buffer was borrowed, and there were attempts to read and to write. -/
def Worked (d : Direction) (events : List RelayEvent) : Prop :=
  ∃ work, events = .checkedOut d :: work ∧ ∀ e ∈ work, e = .read d ∨ e = .wrote d

/-- The half-closes that a direction makes, the target first. -/
def closing (r₀ : Relay) (d : Direction) : List RelayEvent :=
  (r₀.closer d.target).calls d .write ++ (r₀.closer d.source).calls d .read

/-- The whole course of a direction. -/
def Course (r₀ : Relay) (d : Direction) (events : List RelayEvent) : Prop :=
  ∃ worked copied failure, Worked d worked ∧
    events = worked ++ .gaveBack d :: (r₀.closing d ++ [.finished d copied failure])

/-- How far a direction is in its course, by what its pump is about to do. -/
def Lived (r₀ : Relay) (d : Direction) (events : List RelayEvent) : PumpPhase → Prop
  | .start => events = []
  | .read _ => Worked d events
  | .write _ _ _ => Worked d events
  | .closeTarget _ => ∃ worked, Worked d worked ∧ events = worked ++ [.gaveBack d]
  | .closeSource _ => ∃ worked, Worked d worked ∧
      events = worked ++ .gaveBack d :: (r₀.closer d.target).calls d .write
  | .report _ => Course r₀ d events
  | .joined => Course r₀ d events
  | .dropped => events = [] ∨ ∃ worked, Worked d worked ∧ events = worked ++ [.gaveBack d]

theorem Worked.snoc {e : RelayEvent} (h : Worked d work) (used : e = .read d ∨ e = .wrote d) :
    Worked d (work ++ [e]) := by
  obtain ⟨before, rfl, all⟩ := h
  refine ⟨before ++ [e], rfl, fun e' member => ?_⟩
  rcases List.mem_append.1 member with member | member
  · exact all e' member
  · rw [List.mem_singleton.1 member]
    exact used

theorem Worked.course (r₀ : Relay) (h : Worked d work) :
    ∃ course, Course r₀ d course ∧
      work ++ .gaveBack d :: (r₀.closer d.target).calls d .write <+: course := by
  refine ⟨_, ⟨work, 0, none, h, rfl⟩, ?_⟩
  rw [closing, List.append_assoc, ← List.cons_append, ← List.append_assoc]
  exact List.prefix_append _ _

/-- At every moment a direction has a front of its course behind it. -/
theorem Lived.front {phase : PumpPhase} (h : Lived r₀ d t phase) :
    ∃ course, Course r₀ d course ∧ t <+: course := by
  have early : ∀ {work front}, Worked d work →
      front <+: work ++ .gaveBack d :: (r₀.closer d.target).calls d .write →
      ∃ course, Course r₀ d course ∧ front <+: course := by
    intro work front worked early
    obtain ⟨course, whole, front'⟩ := worked.course r₀
    exact ⟨course, whole, early.trans front'⟩
  have returned : ∀ work : List RelayEvent,
      work ++ [.gaveBack d] <+: work ++ .gaveBack d :: (r₀.closer d.target).calls d .write :=
    fun work => (List.prefix_append_right_inj work).2 (List.prefix_append [_] _)
  have borrowed : Worked d [.checkedOut d] := ⟨[], rfl, List.forall_mem_nil _⟩
  cases phase with
  | start =>
    obtain rfl : t = [] := h
    exact early borrowed List.nil_prefix
  | read => exact early h (List.prefix_append t _)
  | write => exact early h (List.prefix_append t _)
  | closeTarget =>
    obtain ⟨worked, h, rfl⟩ := h
    exact early h (returned worked)
  | closeSource =>
    obtain ⟨worked, h, rfl⟩ := h
    exact early h (List.prefix_refl _)
  | report => exact ⟨t, h, List.prefix_refl t⟩
  | joined => exact ⟨t, h, List.prefix_refl t⟩
  | dropped =>
    obtain rfl | ⟨worked, h, rfl⟩ := h
    · exact early borrowed List.nil_prefix
    · exact early h (returned worked)

theorem Lived.worked {phase : PumpPhase} {buffer : Buffer} (has : phase.buffer? = some buffer) :
    Lived r₀ d t phase ↔ Worked d t := by
  cases phase <;> first | rfl | cases has

/-! ## Every change goes along the course -/

/-- Both directions go along their courses, and the connections close in the way they did. -/
structure Courses (r₀ r : Relay) : Prop where
  ability : ∀ side, (r.closer side).ability = (r₀.closer side).ability
  lived : ∀ d, Lived r₀ d (r.trace d) (r.pump d).phase

theorem courses_start (held : Octets) (client remote : Transport) :
    Courses (start held client remote) (start held client remote) where
  ability _ := rfl
  lived d := by cases d <;> rfl

/-- A change of one direction. -/
theorem courses_own (d : Direction) (h : Courses r₀ r)
    (ability : ∀ side, (r'.closer side).ability = (r.closer side).ability)
    (own : Lived r₀ d (r'.trace d) (r'.pump d).phase)
    (others : ∀ d' ≠ d, r'.trace d' = r.trace d' ∧ r'.pump d' = r.pump d') : Courses r₀ r' where
  ability side := (ability side).trans (h.ability side)
  lived d' := by
    by_cases e : d' = d
    · rw [e]
      exact own
    · rw [(others d' e).1, (others d' e).2]
      exact h.lived d'

theorem courses_setPump {p : Pump} {events : List RelayEvent} (h : Courses r₀ r)
    (own : ∀ e ∈ events, e.direction? = some d)
    (lived : Lived r₀ d (r.trace d ++ events) p.phase) :
    Courses r₀ ((r.setPump d p).note events) := by
  obtain ⟨more, same⟩ := trace_note (r.setPump d p) own
  refine courses_own d h (fun side => ?_) ?_ fun d' ne => ⟨?_, ?_⟩
  · rw [closer_note, closer_setPump]
  · rw [more, trace_setPump, pump_note, pump_setPump]
    exact lived
  · rw [same d' ne, trace_setPump]
  · rw [pump_note, pump_setPump_ne _ _ ne]

theorem courses_halfClose {side : Side} {half : HalfClose} {phase : PumpPhase}
    {events : List RelayEvent} (h : Courses r₀ r) (own : ∀ e ∈ events, e.direction? = some d)
    (lived : Lived r₀ d (r.trace d ++ (r₀.closer side).calls d half ++ events) phase) :
    Courses r₀ ((r.halfClose d side half phase).note events) := by
  obtain ⟨calls, untold⟩ := r.trace_halfClose d side half phase
  obtain ⟨more, same⟩ := trace_note (r.halfClose d side half phase) own
  refine courses_own d h (fun side' => ?_) ?_ fun d' ne => ⟨?_, ?_⟩
  · rw [closer_note, closer_halfClose]
    split
    · next e => rw [Closer.ability_close, e]
    · rfl
  · rw [more, calls, Closer.calls_congr (h.ability side), pump_note, pump_halfClose]
    exact lived
  · exact (same d' ne).trans (untold d' ne)
  · rw [pump_note, pump_halfClose_ne _ _ _ _ ne]

/-- One more attempt to read or to write. -/
theorem Worked.attempt {p p' : Pump} {e : RelayEvent} (h : Worked d work)
    (attempt : p.Attempt d p' e) : e.direction? = some d ∧ Worked d (work ++ [e]) := by
  cases attempt with
  | read => exact ⟨rfl, h.snoc (Or.inl rfl)⟩
  | write => exact ⟨rfl, h.snoc (Or.inr rfl)⟩

theorem courses_copy {c : Copied} (h : Courses r₀ r) (use : (r.pump d).Use d pool c) :
    Courses r₀ ((r.setPump d c.pump).note c.events) := by
  have lived := h.lived d
  cases use with
  | borrow phase =>
    rw [phase] at lived
    have nothing : r.trace d = [] := lived
    refine courses_setPump h (by simp [RelayEvent.direction?]) ?_
    rw [nothing]
    exact ⟨[], rfl, List.forall_mem_nil _⟩
  | keep has has' attempt =>
    obtain ⟨own, worked⟩ := ((Lived.worked has).1 lived).attempt attempt
    exact courses_setPump h (by simpa using own) ((Lived.worked has').2 worked)
  | giveBack has phase attempt =>
    obtain ⟨own, worked⟩ := ((Lived.worked has).1 lived).attempt attempt
    refine courses_setPump h (by simpa [RelayEvent.direction?] using own) ?_
    rw [phase]
    exact ⟨_, worked, List.append_cons ..⟩

theorem courses_change (h : Courses r₀ r) (change : Change pool r pool' r') : Courses r₀ r' := by
  cases change with
  | copy use => exact courses_copy h use
  | @closeTarget d failure phase =>
    have lived := h.lived d
    rw [phase] at lived
    obtain ⟨worked, did, trace⟩ := lived
    have closed : Courses r₀ ((r.closeTarget d failure).note []) := by
      refine courses_halfClose h (List.forall_mem_nil _) ?_
      rw [trace, List.append_nil]
      exact ⟨worked, did, List.append_assoc ..⟩
    exact closed
  | @closeSource d failure phase =>
    have lived := h.lived d
    rw [phase] at lived
    obtain ⟨worked, did, trace⟩ := lived
    refine courses_halfClose h (by simp [RelayEvent.direction?]) ?_
    rw [trace]
    refine ⟨worked, (r.pump d).copied, failure, did, ?_⟩
    simp only [closing, List.append_assoc, List.cons_append]
  | @join d _ phase =>
    have lived := h.lived d
    rw [phase] at lived
    have joined : Courses r₀ ((setPhase d .joined r).note []) :=
      courses_setPump h (List.forall_mem_nil _) (by rwa [List.append_nil])
    exact joined
  | @leave d phase =>
    have lived := h.lived d
    rw [phase] at lived
    have dropped : Courses r₀ ((setPhase d .dropped r).note []) :=
      courses_setPump h (List.forall_mem_nil _) (Or.inl (by rwa [List.append_nil]))
    exact dropped
  | @abandon d _ has =>
    have worked := (Lived.worked has).1 (h.lived d)
    exact courses_setPump h (by simp [RelayEvent.direction?]) (Or.inr ⟨_, worked, rfl⟩)
  | force =>
    refine ⟨fun side => ?_, fun d => ?_⟩
    · rw [closer_note]
      exact h.ability side
    · have untold : (r.note [.forced]).trace d = r.trace d := by
        unfold trace
        rw [history_note, List.filter_append]
        exact List.append_nil _
      rw [untold, pump_note]
      exact h.lived d
  | judge =>
    refine ⟨fun side => ?_, fun d => ?_⟩
    · cases side with
      | client => exact h.ability .client
      | remote => exact h.ability .remote
    · cases d with
      | up => exact h.lived .up
      | down => exact h.lived .down

theorem run_courses {held : Octets} {client remote : Transport} {moves : List Move}
    (run : (start held client remote).run pool moves = some (pool', r)) :
    Courses (start held client remote) r :=
  run_keeps (P := fun _ r => Courses (start held client remote) r)
    (fun h change => courses_change h change) (courses_start held client remote) run

/-! ## Closing once, and last -/

theorem Worked.not_close (h : Worked d work) (half : HalfClose) :
    work.countP (RelayEvent.isClose half) = 0 := by
  obtain ⟨work, rfl, all⟩ := h
  refine List.countP_eq_zero.2 fun e member => ?_
  rcases List.mem_cons.1 member with rfl | member
  · simp [RelayEvent.isClose]
  · rcases all e member with rfl | rfl <;> simp [RelayEvent.isClose]

theorem countP_calls (d : Direction) (half half' : HalfClose) (c : Closer) :
    (c.calls d half').countP (RelayEvent.isClose half) =
      if half' = half ∧ c.ability ≠ .unsupported then 1 else 0 := by
  unfold Closer.calls
  by_cases unable : c.ability = .unsupported
  · simp [unable]
  · by_cases same : half' = half <;> simp [unable, same, RelayEvent.isClose]

/-- A whole course closes each half once that can be closed. -/
theorem Course.countP (h : Course r₀ d t) (half : HalfClose) :
    t.countP (RelayEvent.isClose half) =
      if (r₀.closer (d.side half)).ability = .unsupported then 0 else 1 := by
  obtain ⟨worked, copied, failure, did, rfl⟩ := h
  have gaveBack : RelayEvent.isClose half (.gaveBack d) = false := rfl
  have finished : RelayEvent.isClose half (.finished d copied failure) = false := rfl
  simp only [List.countP_append, List.countP_cons, List.countP_nil, did.not_close, closing,
    countP_calls, gaveBack, finished]
  cases half with
  | read => by_cases able : (r₀.closer (d.side .read)).ability = .unsupported <;>
      simp_all [Direction.side]
  | write => by_cases able : (r₀.closer (d.side .write)).ability = .unsupported <;>
      simp_all [Direction.side]

theorem Worked.ordered (h : Worked d work) :
    work.Pairwise RelayEvent.Ordered ∧ ∀ e ∈ work, e.rank ≤ 1 := by
  obtain ⟨work, rfl, all⟩ := h
  have one : ∀ e ∈ work, e.rank = 1 := by
    intro e member
    rcases all e member with rfl | rfl <;> rfl
  refine ⟨List.pairwise_cons.2 ⟨fun e member => Or.inl ?_, ?_⟩, fun e member => ?_⟩
  · rw [one e member]
    exact Nat.zero_lt_one
  · exact List.pairwise_of_forall_mem_list fun e member e' member' =>
      Or.inr ⟨one e member, one e' member'⟩
  · rcases List.mem_cons.1 member with rfl | member
    · exact Nat.zero_le 1
    · exact Nat.le_of_eq (one e member)

/-- A whole course is in order. -/
theorem Course.ordered (h : Course r₀ d t) : t.Pairwise RelayEvent.Ordered := by
  obtain ⟨worked, copied, failure, did, rfl⟩ := h
  obtain ⟨first, low⟩ := did.ordered
  have rest : (RelayEvent.gaveBack d :: (r₀.closing d ++ [.finished d copied failure])).Pairwise
      RelayEvent.Ordered ∧
      ∀ e ∈ RelayEvent.gaveBack d :: (r₀.closing d ++ [.finished d copied failure]),
        2 ≤ e.rank := by
    unfold closing Closer.calls
    split <;> split <;> simp [RelayEvent.Ordered, RelayEvent.rank]
  refine List.pairwise_append.2 ⟨first, rest.1, fun e member e' member' => Or.inl ?_⟩
  have := low e member
  have := rest.2 e' member'
  omega

/-- Behind the close of a half nothing in order uses or closes that half again. -/
theorem not_ordered {half : HalfClose} {failure : Option IoError} {e : RelayEvent}
    (ordered : RelayEvent.Ordered (.closed d half failure) e) :
    e.on? ≠ some (d.side half, half) := by
  intro on
  cases e <;> cases half <;> simp_all [RelayEvent.on?, RelayEvent.Ordered, RelayEvent.rank]

theorem Courses.trace_ordered (h : Courses r₀ r) (d : Direction) :
    (r.trace d).Pairwise RelayEvent.Ordered := by
  obtain ⟨course, whole, front⟩ := (h.lived d).front
  exact whole.ordered.sublist front.sublist

/-- Once a half is closed, nothing uses it, and it is not closed again. -/
theorem Courses.last {half : HalfClose} {failure : Option IoError} {before after : List RelayEvent}
    (h : Courses r₀ r) (history : r.history = before ++ .closed d half failure :: after) :
    ∀ e ∈ after, e.on? ≠ some (d.side half, half) := by
  intro e member on
  -- What concerns this half is of this direction, so it has its place in the same course.
  have own := RelayEvent.direction_of_on on
  have ordered := h.trace_ordered d
  rw [trace, history, List.filter_append, List.filter_cons_of_pos (by simp [RelayEvent.direction?])]
    at ordered
  have behind := (List.pairwise_cons.1 (List.pairwise_append.1 ordered).2.1).1
  exact not_ordered (behind e (List.mem_filter.2 ⟨member, by simp [own]⟩)) on

/-- Once a half is closed, its pump makes no more attempts. -/
theorem Courses.through {half : HalfClose} {failure : Option IoError} (h : Courses r₀ r)
    (closed : .closed d half failure ∈ r.history) (pool : Pool) :
    (r.pump d).copy d pool = none := by
  have closed : .closed d half failure ∈ r.trace d :=
    List.mem_filter.2 ⟨closed, by simp [RelayEvent.direction?]⟩
  have unworked : ¬ Worked d (r.trace d) := fun worked => by
    have none := List.countP_eq_zero.1 (worked.not_close half) _ closed
    simp [RelayEvent.isClose] at none
  have lived := h.lived d
  unfold Pump.copy
  split
  · next phase =>
    rw [phase] at lived
    have nothing : r.trace d = [] := lived
    rw [nothing] at closed
    cases closed
  · next phase =>
    rw [phase] at lived
    exact absurd lived unworked
  · next phase =>
    rw [phase] at lived
    exact absurd lived unworked
  · rfl

/-! ## What the connections see -/

/-- Each connection has seen the half-closes that the history tells of. -/
def Attempted (r₀ r : Relay) : Prop :=
  ∀ side, (r.closer side).attempts =
    (r₀.closer side).attempts ++ r.history.filterMap (RelayEvent.closes? side)

theorem attempted_note {events : List RelayEvent} (h : Attempted r₀ r)
    (quiet : ∀ e ∈ events, ∀ side, e.closes? side = none) : Attempted r₀ (r.note events) := by
  intro side
  have nothing : events.filterMap (RelayEvent.closes? side) = [] :=
    List.filterMap_eq_nil_iff.2 fun e member => quiet e member side
  rw [closer_note, history_note, List.filterMap_append, nothing, List.append_nil]
  exact h side

theorem attempted_setPump (h : Attempted r₀ r) (d : Direction) (p : Pump) :
    Attempted r₀ (r.setPump d p) := by
  intro side
  rw [closer_setPump]
  cases d <;> exact h side

theorem attempted_halfClose (h : Attempted r₀ r) (d : Direction) (half : HalfClose)
    (phase : PumpPhase) : Attempted r₀ (r.halfClose d (d.side half) half phase) := by
  intro side
  have history : (r.halfClose d (d.side half) half phase).history =
      r.history ++ (r.closer (d.side half)).calls d half := by
    cases d <;> cases half <;> exact history_note ..
  rw [closer_halfClose, history, List.filterMap_append, ← List.append_assoc, ← h side]
  split
  · next same =>
    -- The handle and the history agree on whether there was an attempt.
    rw [Closer.attempts_close, same]
    unfold Closer.calls
    split <;> simp [RelayEvent.closes?]
  · next other =>
    unfold Closer.calls
    split <;> simp [RelayEvent.closes?, Ne.symm other]

theorem quiet_copy {p : Pump} {c : Copied} (use : p.Use d pool c) :
    ∀ e ∈ c.events, ∀ side, e.closes? side = none := by
  cases use with
  | borrow => simp [RelayEvent.closes?]
  | keep _ _ attempt => cases attempt <;> simp [RelayEvent.closes?]
  | giveBack _ _ attempt => cases attempt <;> simp [RelayEvent.closes?]

theorem attempted_change (h : Attempted r₀ r) (change : Change pool r pool' r') :
    Attempted r₀ r' := by
  cases change with
  | copy use => exact attempted_note (attempted_setPump h _ _) (quiet_copy use)
  | closeTarget => exact attempted_halfClose h _ .write _
  | closeSource =>
    exact attempted_note (attempted_halfClose h _ .read _) (by simp [RelayEvent.closes?])
  | join => exact attempted_setPump h _ _
  | leave => exact attempted_setPump h _ _
  | abandon => exact attempted_note (attempted_setPump h _ _) (by simp [RelayEvent.closes?])
  | force => exact attempted_note h (by simp [RelayEvent.closes?])
  | judge =>
    intro side
    cases side with
    | client => exact h .client
    | remote => exact h .remote

theorem run_attempted {held : Octets} {client remote : Transport} {moves : List Move}
    (run : (start held client remote).run pool moves = some (pool', r)) :
    Attempted (start held client remote) r :=
  run_keeps (P := fun _ r => Attempted (start held client remote) r)
    (fun h change => attempted_change h change) (fun _ => (List.append_nil _).symm) run

/-- How often a direction closes a half is how often the connection has been told to. -/
theorem Attempted.count (h : Attempted r₀ r) (d : Direction) (half : HalfClose) :
    (r.closer (d.side half)).attempts.count half = (r₀.closer (d.side half)).attempts.count half +
      (r.trace d).countP (RelayEvent.isClose half) := by
  rw [h, List.count_append, RelayEvent.count_closes]
  rfl

/-! ## Closing has no say in the verdict -/

/-- A relay without what concerns its closing. -/
def bare (r : Relay) : Relay :=
  { r with client := {}, remote := {}, past := [] }

section Bare

variable (r : Relay) (d : Direction) (pool : Pool)

@[simp] theorem pump_bare : r.bare.pump d = r.pump d := by
  cases d <;> rfl

@[simp] theorem bare_setPump (p : Pump) : (r.setPump d p).bare = r.bare.setPump d p := by
  cases d <;> rfl

@[simp] theorem bare_setCloser (side : Side) (c : Closer) : (r.setCloser side c).bare = r.bare := by
  cases side <;> rfl

@[simp] theorem bare_note (events : List RelayEvent) : (r.note events).bare = r.bare :=
  rfl

@[simp] theorem bare_bare : r.bare.bare = r.bare :=
  rfl

@[simp] theorem bare_setPhase (phase : PumpPhase) :
    (setPhase d phase r).bare = setPhase d phase r.bare := by
  cases d <;> rfl

@[simp] theorem bare_halfClose (side : Side) (half : HalfClose) (phase : PumpPhase) :
    (r.halfClose d side half phase).bare = setPhase d phase r.bare := by
  simp [halfClose]

theorem bare_advance : (r.advance d pool).map (Prod.map id bare) =
    (r.bare.advance d pool).map (Prod.map id bare) := by
  unfold advance
  rw [pump_bare]
  split <;> simp [closeTarget, closeSource, Function.comp_def]

theorem bare_join : (r.join d).map bare = (r.bare.join d).map bare := by
  unfold join
  rw [pump_bare]
  split
  · cases d <;> rfl
  · rfl

theorem bare_drop : Prod.map id bare (r.drop d pool) = Prod.map id bare (r.bare.drop d pool) := by
  unfold drop
  rw [pump_bare]
  dsimp only
  split <;> simp [closeTarget, closeSource]

end Bare

/-- Do two relays differ in what concerns their closing only? -/
def Alike (s s' : Pool × Relay) : Prop :=
  Prod.map id bare s = Prod.map id bare s'

theorem drop_alike {s s' : Pool × Relay} (d : Direction) (h : Alike s s') :
    Alike (s.2.drop d s.1) (s'.2.drop d s'.1) := by
  obtain ⟨pools, relays⟩ := Prod.mk.inj h
  have pools : s.1 = s'.1 := pools
  show Prod.map id bare (s.2.drop d s.1) = Prod.map id bare (s'.2.drop d s'.1)
  rw [bare_drop s.2, relays, pools, ← bare_drop]

theorem force_alike (pool : Pool) (h : r.bare = r'.bare) :
    Alike (r.force pool) (r'.force pool) := by
  have noted : Alike (pool, r.note [.forced]) (pool, r'.note [.forced]) :=
    congrArg (Prod.mk pool) h
  have dropped := drop_alike .down (drop_alike .up noted)
  exact congrArg (fun s : Pool × Relay =>
    (s.1, { s.2 with failure := some (s.2.failure.getD forceClosed), concluded := true })) dropped

theorem join_alike (d : Direction) (pool : Pool) (h : r.bare = r'.bare) :
    ((r.join d).map fun r => (pool, r)).map (Prod.map id bare) =
      ((r'.join d).map fun r => (pool, r)).map (Prod.map id bare) := by
  have joins := (bare_join r d).trans (h ▸ (bare_join r' d).symm)
  have paired := congrArg (Option.map (Prod.mk pool)) joins
  rw [Option.map_map, Option.map_map] at paired ⊢
  exact paired

theorem step_alike (m : Move) (pool : Pool) (h : r.bare = r'.bare) :
    (r.step m pool).map (Prod.map id bare) = (r'.step m pool).map (Prod.map id bare) := by
  have concluded : r.concluded = r'.concluded := by
    have := congrArg Relay.concluded h
    exact this
  have all : r.allJoined = r'.allJoined := by
    have := congrArg Relay.allJoined h
    exact this
  unfold step
  rw [concluded, all]
  split
  · rfl
  · cases m with
    | advance d =>
      show (r.advance d pool).map _ = (r'.advance d pool).map _
      rw [bare_advance r, h, ← bare_advance]
    | join d => exact join_alike d pool h
    | conclude =>
      dsimp only
      split
      · exact congrArg (fun r => some (pool, { r with concluded := true })) h
      · rfl
    | force => exact congrArg some (force_alike pool h)

/-- Relays that differ in what concerns their closing go the same way. -/
theorem run_alike {moves : List Move} {pool pool' : Pool} {r r' r₁ : Relay}
    (h : r.bare = r₁.bare) (run : r.run pool moves = some (pool', r')) :
    ∃ r₁', r₁.run pool moves = some (pool', r₁') ∧ r'.bare = r₁'.bare := by
  induction moves generalizing pool r r₁ with
  | nil =>
    obtain ⟨rfl, rfl⟩ := Prod.mk.inj (Option.some.inj run)
    exact ⟨r₁, rfl, h⟩
  | cons m moves ih =>
    obtain ⟨⟨pool₂, r₂⟩, step, run⟩ := Option.bind_eq_some_iff.1 run
    have steps := step_alike m pool h
    rw [step, Option.map_some] at steps
    obtain ⟨⟨pool₃, r₃⟩, step', e⟩ := Option.map_eq_some_iff.1 steps.symm
    obtain ⟨pools, relays⟩ := Prod.mk.inj e
    obtain rfl : pool₃ = pool₂ := pools
    obtain ⟨r₁', run', same⟩ := ih relays.symm run
    exact ⟨r₁', by rw [Relay.run, step']; exact run', same⟩

/-- What a relay that started as `r₀` has closed by now, and when. -/
structure ClosesInOrder (r₀ r : Relay) : Prop where
  /-- A direction gives its buffer back, then closes its target, then its source. -/
  course : ∀ d, ∃ course, Course r₀ d course ∧ r.trace d <+: course
  /-- Behind the close of a half nothing uses it or closes it again. -/
  last : ∀ before after d half failure, r.history = before ++ .closed d half failure :: after →
    ∀ e ∈ after, e.on? ≠ some (d.side half, half)
  /-- The pump that has closed something copies no more. -/
  through : ∀ d half failure, .closed d half failure ∈ r.history →
    ∀ pool, (r.pump d).copy d pool = none
  attempted : Attempted r₀ r
  /-- No half is closed twice. -/
  once : ∀ side half, (r.closer side).attempts.count half ≤
    (r₀.closer side).attempts.count half +
      if (r₀.closer side).ability = .unsupported then 0 else 1

theorem run_closesInOrder {held : Octets} {client remote : Transport} {moves : List Move}
    (run : (start held client remote).run pool moves = some (pool', r)) :
    ClosesInOrder (start held client remote) r := by
  have courses := run_courses run
  have attempted := run_attempted run
  refine ⟨fun d => (courses.lived d).front, fun _ _ _ _ _ history => courses.last history,
    fun _ _ _ closed pool => courses.through closed pool, attempted, fun side half => ?_⟩
  obtain ⟨d, rfl⟩ := Direction.exists_side side half
  obtain ⟨course, whole, front⟩ := (courses.lived d).front
  rw [attempted.count, ← whole.countP half]
  exact Nat.add_le_add_left front.sublist.countP_le _

/-- A relay that starts afresh, however far it has come, has closed the halves of its connections in
order and none of them twice; whenever a pump is about to close, the pool has its buffer. A relay
that ends without a force-close has closed each half once that can be closed. And the pumps, the
pool and the verdict are what they are for connections that close in any other way, or do not. -/
theorem run_half_closes {held : Octets} {client remote : Transport} {moves : List Move}
    (run : (start held client remote).run pool moves = some (pool', r)) :
    let r₀ := start held client remote
    ClosesInOrder r₀ r ∧
    (Move.force ∉ moves → r.concluded = true → ∀ side half,
      (r.closer side).attempts.count half = (r₀.closer side).attempts.count half +
        if (r₀.closer side).ability = .unsupported then 0 else 1) ∧
    (∀ d failure,
      (r.pump d).phase = .closeTarget failure ∨ (r.pump d).phase = .closeSource failure →
      pool'.inUse = pool.inUse + (r.pump d.other).phase.lent) ∧
    ∀ c c', ∃ r', (start held { client with closer := c } { remote with closer := c' }).run pool
        moves = some (pool', r') ∧
      r'.outcome = r.outcome ∧ ∀ d, r'.pump d = r.pump d := by
  intro r₀
  refine ⟨run_closesInOrder run, fun unforced ended side half => ?_, fun d failure closing => ?_,
    fun c c' => ?_⟩
  · obtain ⟨d, rfl⟩ := Direction.exists_side side half
    have heard := run_heard (fresh_start held client remote) unforced
      (heard_start held client remote) run
    have lived := (run_courses run).lived d
    rw [(heard.isJoined d).1 (heard.ended ended d)] at lived
    rw [(run_attempted run).count, ← Course.countP lived half]
  · have none : (r.pump d).phase.lent = 0 := by
      rcases closing with phase | phase <;> rw [phase] <;> rfl
    rw [run_lent rfl run, lent_eq r d, none, Nat.zero_add]
  · have same : r₀.bare =
        (start held { client with closer := c } { remote with closer := c' }).bare := rfl
    obtain ⟨r', run', alike⟩ := run_alike same run
    refine ⟨r', run', (congrArg Relay.outcome alike).symm, fun d => ?_⟩
    rw [← pump_bare, ← alike, pump_bare]

/-- The client's stream fails and so does each close of it, while the far side closes well. -/
theorem run_half_closes_failing :
    let reset : IoError := ⟨.connectionReset, "reset by peer"⟩
    let client : Transport :=
      { source := [.failure reset], closer := { ability := .fails ⟨.notConnected, "closed"⟩ } }
    let remote : Transport := { source := [.data [7]], closer := { ability := .works } }
    let moves := [.advance .up, .advance .down, .advance .up, .advance .up, .advance .down,
      .advance .down, .advance .up, .join .up, .advance .down, .advance .down, .advance .down,
      .join .down, .conclude]
    ∃ pool r, (start [] client remote).run {} moves = some (pool, r) ∧
      (∀ side half, (r.closer side).attempts.count half = 1) ∧
      r.outcome = .failed reset ∧
      ∃ r', (start [] { client with closer := {} } { remote with closer := {} }).run {} moves =
        some (pool, r') ∧ r'.outcome = .failed reset := by
  intro reset client remote moves
  have ended : ((start [] client remote).run {} moves).map
      (fun s => (s.2.concluded, s.2.outcome)) = some (true, .failed reset) := by
    decide +kernel
  obtain ⟨⟨pool, r⟩, run, ended⟩ := Option.map_eq_some_iff.1 ended
  obtain ⟨concluded, outcome⟩ := Prod.mk.inj ended
  obtain ⟨-, once, -, alike⟩ := run_half_closes run
  refine ⟨pool, r, run, fun side half => ?_, outcome, ?_⟩
  · rw [once (by decide) concluded side half]
    cases side <;> cases half <;> rfl
  · obtain ⟨r', run', same, -⟩ := alike {} {}
    exact ⟨r', run', same.trans outcome⟩

end Relay

end Sluice

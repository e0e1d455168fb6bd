import Sluice.Relay.Basic
import Sluice.Proofs.Copying

/-
  Two pumps that take turns. A move of a relay moves one pump and leaves the other alone
  (`advance_cases`, `pump_setPump_ne`), so each pump stays along its own copy whatever the schedule
  (`run_along`). A relay that nobody cuts short hears each direction out once, and its verdict is
  the first failure it hears (`Heard`, `run_heard`). Nothing here depends on the pool.
-/

namespace Sluice

namespace Direction

/-- The other direction. -/
def other : Direction → Direction
  | up => down
  | down => up

theorem other_ne (d : Direction) : d.other ≠ d := by
  cases d <;> decide

theorem eq_other {d d' : Direction} (h : d' ≠ d) : d' = d.other := by
  cases d <;> cases d' <;> first | rfl | exact absurd rfl h

/-- Both directions, each once, in some order. -/
theorem eq_pair {ds : List Direction} (nodup : ds.Nodup) (all : ∀ d, d ∈ ds) :
    ∃ d : Direction, ds = [d, d.other] := by
  match ds, nodup, all with
  | [], _, all => exact absurd (all up) List.not_mem_nil
  | [d], _, all => exact absurd (List.mem_singleton.1 (all d.other)) d.other_ne
  | [d, d'], nodup, _ =>
    have ne : d' ≠ d := fun h => (List.nodup_cons.1 nodup).1 (h ▸ List.mem_singleton.2 rfl)
    exact ⟨d, by rw [eq_other ne]⟩
  | a :: b :: c :: rest, nodup, _ =>
    simp only [List.nodup_cons, List.mem_cons, not_or] at nodup
    have second := eq_other (Ne.symm nodup.1.1)
    have third := eq_other (Ne.symm nodup.1.2.1)
    exact absurd (second.trans third.symm) nodup.2.1.1

end Direction

/-! ## What a pump event says -/

/-- Is the direction over, but for the report? -/
def PumpPhase.isDone : PumpPhase → Bool
  | .report _ => true
  | .joined => true
  | _ => false

theorem PumpPhase.ne_joined {phase : PumpPhase} (h : phase.isDone = false) : phase ≠ .joined := by
  rintro rfl
  simp [isDone] at h

theorem Pump.Step.not_done {p p' : Pump} (step : p.Step p') :
    p.phase.isDone = false ∧ p'.phase.isDone = false := by
  cases step with
  | wait phase => exact ⟨phase ▸ rfl, phase ▸ rfl⟩
  | borrow phase => exact ⟨phase ▸ rfl, rfl⟩
  | read phase => exact ⟨phase ▸ rfl, rfl⟩
  | drain phase => exact ⟨phase ▸ rfl, rfl⟩
  | fail phase => exact ⟨phase ▸ rfl, rfl⟩
  | refuse phase => exact ⟨phase ▸ rfl, rfl⟩
  | stick phase => exact ⟨phase ▸ rfl, rfl⟩
  | write phase => exact ⟨phase ▸ rfl, rfl⟩
  | count phase => exact ⟨phase ▸ rfl, rfl⟩

/-- The count and the failure with which a direction finished. -/
def RelayEvent.finish? (d : Direction) : RelayEvent → Option (Nat × Option IoError)
  | .finished d' copied failure => if d' = d then some (copied, failure) else none
  | _ => none

theorem Pump.finish?_copy {d : Direction} {pool : Pool} {p : Pump} {c : Copied}
    (h : p.copy d pool = some c) (d' : Direction) :
    c.events.filterMap (RelayEvent.finish? d') = [] := by
  unfold copy at h
  split at h
  · obtain rfl := Option.some.inj h
    rfl
  · unfold readChunk at h
    split at h
    · simp at h
    · dsimp only at h
      split at h <;> obtain rfl := Option.some.inj h <;> rfl
  · unfold writeChunk at h
    split at h
    · simp at h
    all_goals
      obtain rfl := Option.some.inj h
      rfl
  · simp at h

namespace Relay

/-- How often and how a direction finished. -/
def finishes (d : Direction) (r : Relay) : List (Nat × Option IoError) :=
  r.history.filterMap (RelayEvent.finish? d)

/-! ## What a change leaves alone -/

section Frames

variable (r : Relay) (d d' : Direction) (p : Pump) (phase : PumpPhase) (events : List RelayEvent)
  (side : Side) (half : HalfClose) (c : Closer)

@[simp] theorem pump_setPump : (r.setPump d p).pump d = p := by
  cases d <;> rfl

theorem pump_setPump_ne {d d' : Direction} (h : d' ≠ d) :
    (r.setPump d p).pump d' = r.pump d' := by
  rw [Direction.eq_other h]
  cases d <;> rfl

@[simp] theorem pump_note : (r.note events).pump d = r.pump d := by
  cases d <;> rfl

@[simp] theorem pump_setPhase : (setPhase d phase r).pump d = { r.pump d with phase } :=
  pump_setPump r d _

@[simp] theorem pump_halfClose :
    (r.halfClose d side half phase).pump d = { r.pump d with phase } := by
  simp [halfClose]

theorem pump_halfClose_ne {d d' : Direction} (h : d' ≠ d) :
    (r.halfClose d side half phase).pump d' = r.pump d' := by
  simp [halfClose, setPhase, pump_setPump_ne _ _ h]

@[simp] theorem failure_setPump : (r.setPump d p).failure = r.failure := by
  cases d <;> rfl

@[simp] theorem failure_halfClose : (r.halfClose d side half phase).failure = r.failure := by
  cases side <;> cases d <;> rfl

@[simp] theorem concluded_setPump : (r.setPump d p).concluded = r.concluded := by
  cases d <;> rfl

@[simp] theorem concluded_halfClose :
    (r.halfClose d side half phase).concluded = r.concluded := by
  cases side <;> cases d <;> rfl

@[simp] theorem finishes_setPump : (r.setPump d p).finishes d' = r.finishes d' := by
  cases d <;> rfl

@[simp] theorem finishes_setCloser : (r.setCloser side c).finishes d' = r.finishes d' := by
  cases side <;> rfl

theorem finishes_note :
    (r.note events).finishes d = r.finishes d ++ events.filterMap (RelayEvent.finish? d) := by
  simp [finishes, history, note]

@[simp] theorem finishes_halfClose :
    (r.halfClose d side half phase).finishes d' = r.finishes d' := by
  unfold halfClose
  dsimp only
  rw [finishes_note]
  split <;> simp [setPhase, RelayEvent.finish?]

end Frames

/-! ## What a pump's turn does -/

/-- A pump takes its turn in one of three ways. -/
inductive Turn (d : Direction) (r r' : Relay) : Prop where
  | copy : (r.pump d).Step (r'.pump d) → (∀ d', r'.finishes d' = r.finishes d') → Turn d r r'
  | close {failure} : (r.pump d).phase = .closeTarget failure →
      r'.pump d = { r.pump d with phase := .closeSource failure } →
      (∀ d', r'.finishes d' = r.finishes d') → Turn d r r'
  | finish {failure} : (r.pump d).phase = .closeSource failure →
      r'.pump d = { r.pump d with phase := .report failure } →
      (∀ d', r'.finishes d' = r.finishes d' ++
        if d = d' then [((r.pump d).copied, failure)] else []) → Turn d r r'

/-- All else stays as it was. -/
structure Frame (d : Direction) (r r' : Relay) : Prop where
  pump : ∀ d' ≠ d, r'.pump d' = r.pump d'
  failure : r'.failure = r.failure
  concluded : r'.concluded = r.concluded

theorem turn_closeTarget {d : Direction} {r : Relay} {failure : Option IoError}
    (phase : (r.pump d).phase = .closeTarget failure) :
    Turn d r (r.closeTarget d failure) ∧ Frame d r (r.closeTarget d failure) :=
  ⟨.close phase (pump_halfClose ..) (fun _ => finishes_halfClose ..),
    fun _ ne => pump_halfClose_ne _ _ _ _ ne, failure_halfClose .., concluded_halfClose ..⟩

theorem turn_closeSource {d : Direction} {r : Relay} {failure : Option IoError}
    (phase : (r.pump d).phase = .closeSource failure) :
    Turn d r (r.closeSource d failure) ∧ Frame d r (r.closeSource d failure) := by
  refine ⟨.finish phase ?_ ?_, ?_, failure_halfClose .., concluded_halfClose ..⟩
  · rw [closeSource, pump_note, pump_halfClose]
  · intro d'
    rw [closeSource, finishes_note, finishes_halfClose]
    by_cases h : d = d' <;> simp [RelayEvent.finish?, h]
  · intro d' ne
    rw [closeSource, pump_note, pump_halfClose_ne _ _ _ _ ne]

theorem turn_advance {d : Direction} {pool pool' : Pool} {r r' : Relay}
    (h : r.advance d pool = some (pool', r')) : Turn d r r' ∧ Frame d r r' := by
  unfold advance at h
  split at h
  · next phase =>
    obtain ⟨-, rfl⟩ := Prod.mk.inj (Option.some.inj h)
    exact turn_closeTarget phase
  · next phase =>
    obtain ⟨-, rfl⟩ := Prod.mk.inj (Option.some.inj h)
    exact turn_closeSource phase
  · obtain ⟨c, copied, e⟩ := Option.map_eq_some_iff.1 h
    obtain ⟨-, rfl⟩ := Prod.mk.inj e
    refine ⟨.copy ?_ ?_, ?_, failure_setPump .., concluded_setPump ..⟩
    · rw [pump_note, pump_setPump]
      exact Pump.step_copy copied
    · intro d'
      rw [finishes_note, Pump.finish?_copy copied, List.append_nil, finishes_setPump]
    · intro d' ne
      rw [pump_note, pump_setPump_ne _ _ ne]

/-! ## Each pump stays along its copy -/

/-- Are both pumps along the copies that they started? -/
def Along (r₀ r : Relay) : Prop :=
  ∀ d, (r₀.pump d).Along (r.pump d)

/-- Nothing is counted yet. -/
def Fresh (r₀ : Relay) : Prop :=
  ∀ d, (r₀.pump d).copied = 0

variable {r₀ r r' : Relay} {d : Direction} {pool pool' : Pool}

theorem along_turn (fresh : r₀.Fresh) (h : r₀.Along r) (turn : Turn d r r') (frame : Frame d r r') :
    r₀.Along r' := by
  intro d'
  by_cases e : d' = d
  · subst e
    cases turn with
    | copy step => exact Pump.along_step (fresh d') (h d') step
    | close phase pump =>
      have along := h d'
      simp only [Pump.Along, phase] at along
      rw [pump]
      exact along
    | finish phase pump =>
      have along := h d'
      simp only [Pump.Along, phase] at along
      rw [pump]
      exact along
  · rw [frame.pump d' e]
    exact h d'

theorem along_setPhase {phase : PumpPhase} (h : r₀.Along r)
    (along : (r₀.pump d).Along { r.pump d with phase }) : r₀.Along (setPhase d phase r) := by
  intro d'
  by_cases e : d' = d
  · subst e
    rw [pump_setPhase]
    exact along
  · show (r₀.pump d').Along ((r.setPump d _).pump d')
    rw [pump_setPump_ne _ _ e]
    exact h d'

theorem along_note {events : List RelayEvent} (h : r₀.Along r) : r₀.Along (r.note events) := by
  intro d
  rw [pump_note]
  exact h d

theorem along_drop (d : Direction) (pool : Pool) (fresh : r₀.Fresh) (h : r₀.Along r) :
    r₀.Along (r.drop d pool).2 := by
  have bounds := Pump.along_bounds (fresh d) (h d)
  have dropped : r₀.Along (setPhase d .dropped r) := along_setPhase h bounds
  unfold drop
  dsimp only
  split
  · exact dropped
  · exact along_note dropped
  · exact along_note dropped
  · next failure phase =>
    obtain ⟨turn, frame⟩ := turn_closeTarget phase
    have closed := along_turn fresh h turn frame
    have closing : ((r.closeTarget d failure).pump d).phase = .closeSource failure :=
      congrArg Pump.phase (r.pump_halfClose d _ d.target .write)
    obtain ⟨turn, frame⟩ := turn_closeSource closing
    exact along_turn fresh closed turn frame
  · next phase =>
    obtain ⟨turn, frame⟩ := turn_closeSource phase
    exact along_turn fresh h turn frame
  · exact h

theorem along_force (fresh : r₀.Fresh) (h : r₀.Along r) : r₀.Along (r.force pool).2 := by
  have noted : r₀.Along (r.note [.forced]) := along_note h
  have up := along_drop .up pool fresh noted
  have forced := along_drop .down (drop .up pool (r.note [.forced])).1 fresh up
  intro d
  cases d with
  | up => exact forced .up
  | down => exact forced .down

theorem along_join (h : r₀.Along r) (join : r.join d = some r') : r₀.Along r' := by
  unfold Relay.join at join
  split at join
  · next failure phase =>
    obtain rfl := Option.some.inj join
    have along := h d
    simp only [Pump.Along, phase] at along
    have joined : r₀.Along (setPhase d .joined r) := along_setPhase h ⟨failure, along⟩
    exact fun d' => by cases d' <;> exact joined _
  · simp at join

theorem along_step {m : Move} (fresh : r₀.Fresh) (h : r₀.Along r)
    (step : r.step m pool = some (pool', r')) : r₀.Along r' := by
  unfold Relay.step at step
  split at step
  · simp at step
  · split at step
    · obtain ⟨turn, frame⟩ := turn_advance step
      exact along_turn fresh h turn frame
    · obtain ⟨r'', join, e⟩ := Option.map_eq_some_iff.1 step
      obtain ⟨-, rfl⟩ := Prod.mk.inj e
      exact along_join h join
    · split at step
      · obtain ⟨-, rfl⟩ := Prod.mk.inj (Option.some.inj step)
        exact fun d => by cases d <;> exact h _
      · simp at step
    · obtain rfl : (r.force pool).2 = r' := congrArg Prod.snd (Option.some.inj step)
      exact along_force fresh h

/-- Whatever the schedule, and however far it has come, both pumps are along their copies. -/
theorem run_along {moves : List Move} (fresh : r₀.Fresh) (h : r₀.Along r)
    (run : r.run pool moves = some (pool', r')) : r₀.Along r' := by
  induction moves generalizing pool r with
  | nil =>
    obtain rfl := (Prod.mk.inj (Option.some.inj run)).2
    exact h
  | cons m moves ih =>
    obtain ⟨⟨pool₁, r₁⟩, step, run⟩ := Option.bind_eq_some_iff.1 run
    exact ih (along_step fresh h step) run

/-! ## Each direction is heard once -/

/-- The direction that a move joins. -/
def Move.join? : Move → Option Direction
  | .join d => some d
  | _ => none

/-- The directions that a schedule joins, in order. -/
def joins (moves : List Move) : List Direction :=
  moves.filterMap Move.join?

/-- A relay that nobody has cut short, and the directions that have reported to it. -/
structure Heard (r₀ : Relay) (joined : List Direction) (r : Relay) : Prop where
  along : r₀.Along r
  nodup : joined.Nodup
  isJoined : ∀ d, d ∈ joined ↔ (r.pump d).phase = .joined
  failure : r.failure = joined.findSome? fun d => (r₀.pump d).result
  finishes : ∀ d, r.finishes d =
    if (r.pump d).phase.isDone then [((r.pump d).copied, (r₀.pump d).result)] else []
  ended : r.concluded = true → ∀ d, d ∈ joined

theorem heard_start (held : Octets) (client remote : Transport) :
    Heard (start held client remote) [] (start held client remote) where
  along d := by cases d <;> rfl
  nodup := List.nodup_nil
  isJoined d := by cases d <;> simp [start, pump]
  failure := rfl
  finishes d := by cases d <;> rfl
  ended h := by simp [start] at h

variable {joined : List Direction}

theorem failure_of_along {failure : Option IoError} (h : r₀.Along r)
    (done : (r.pump d).phase = .closeSource failure ∨ (r.pump d).phase = .report failure) :
    failure = (r₀.pump d).result := by
  have along := h d
  rcases done with phase | phase <;> simp only [Pump.Along, phase] at along
  all_goals
    obtain ⟨taken, -, comes⟩ := along
    exact comes.alone.2.1

theorem heard_turn (fresh : r₀.Fresh) (h : Heard r₀ joined r)
    (turn : Turn d r r') (frame : Frame d r r') : Heard r₀ joined r' := by
  have along := along_turn fresh h.along turn frame
  have working : (r.pump d).phase.isDone = false ∧ (r'.pump d).phase ≠ .joined := by
    cases turn with
    | copy step => exact ⟨step.not_done.1, PumpPhase.ne_joined step.not_done.2⟩
    | close phase pump =>
      rw [phase, pump]
      exact ⟨rfl, nofun⟩
    | finish phase pump =>
      rw [phase, pump]
      exact ⟨rfl, nofun⟩
  refine ⟨along, h.nodup, ?_, frame.failure.trans h.failure, ?_, ?_⟩
  · intro d'
    rw [h.isJoined d']
    by_cases e : d' = d
    · subst e
      exact iff_of_false (PumpPhase.ne_joined working.1) working.2
    · rw [frame.pump d' e]
  · intro d'
    have finishes := h.finishes d'
    by_cases e : d' = d
    · subst e
      rw [working.1] at finishes
      cases turn with
      | copy step same =>
        rw [same, finishes, step.not_done.2]
        rfl
      | close phase pump same =>
        rw [same, finishes, pump]
        rfl
      | finish phase pump more =>
        rw [more, finishes, if_pos rfl, pump, failure_of_along h.along (Or.inl phase)]
        rfl
    · rw [frame.pump d' e, ← finishes]
      cases turn with
      | copy step same => exact same d'
      | close phase pump same => exact same d'
      | finish phase pump more =>
        rw [more, if_neg (Ne.symm e), List.append_nil]
  · rw [frame.concluded]
    exact h.ended

theorem heard_join (h : Heard r₀ joined r) (running : r.concluded = false)
    (join : r.join d = some r') : Heard r₀ (joined ++ [d]) r' := by
  have along := along_join h.along join
  unfold Relay.join at join
  split at join
  · next failure phase =>
    obtain rfl := Option.some.inj join
    have pump : ∀ d', Relay.pump { setPhase d .joined r with failure := r.failure.or failure } d' =
        (setPhase d .joined r).pump d' := fun d' => by cases d' <;> rfl
    have other : ∀ d' ≠ d, (setPhase d .joined r).pump d' = r.pump d' :=
      fun d' ne => pump_setPump_ne _ _ ne
    have new : d ∉ joined := by
      rw [h.isJoined d, phase]
      nofun
    refine ⟨along, ?_, ?_, ?_, ?_, ?_⟩
    · exact List.nodup_append.2 ⟨h.nodup, List.pairwise_singleton _ d, fun a ha b hb e =>
        new (List.mem_singleton.1 hb ▸ e ▸ ha)⟩
    · intro d'
      rw [List.mem_append, List.mem_singleton, h.isJoined d', pump]
      by_cases e : d' = d
      · subst e
        rw [pump_setPhase]
        exact iff_of_true (Or.inr rfl) rfl
      · rw [other d' e]
        exact or_iff_left e
    · show r.failure.or failure = _
      rw [List.findSome?_append, h.failure, failure_of_along h.along (Or.inr phase)]
      simp
    · intro d'
      have finishes := h.finishes d'
      have same : Relay.finishes d' { setPhase d .joined r with failure := r.failure.or failure } =
          r.finishes d' := finishes_setPump ..
      rw [same, finishes, pump]
      by_cases e : d' = d
      · subst e
        rw [pump_setPhase, phase]
        rfl
      · rw [other d' e]
    · intro ended
      have : r.concluded = true := by simpa [setPhase] using ended
      rw [running] at this
      simp at this
  · simp at join

theorem heard_step {m : Move} (fresh : r₀.Fresh) (unforced : m ≠ .force)
    (h : Heard r₀ joined r) (step : r.step m pool = some (pool', r')) :
    Heard r₀ (joined ++ joins [m]) r' := by
  unfold Relay.step at step
  split at step
  · simp at step
  · next running =>
    split at step
    · obtain ⟨turn, frame⟩ := turn_advance step
      rw [joins, List.filterMap_cons_none rfl, List.filterMap_nil, List.append_nil]
      exact heard_turn fresh h turn frame
    · obtain ⟨r'', join, e⟩ := Option.map_eq_some_iff.1 step
      obtain ⟨-, rfl⟩ := Prod.mk.inj e
      exact heard_join h (Bool.eq_false_iff.2 running) join
    · split at step
      · next all =>
        obtain ⟨-, rfl⟩ := Prod.mk.inj (Option.some.inj step)
        have both : r.up.phase = .joined ∧ r.down.phase = .joined := by simpa [allJoined] using all
        have pump : ∀ d, ({ r with concluded := true } : Relay).pump d = r.pump d :=
          fun d => by cases d <;> rfl
        rw [joins, List.filterMap_cons_none rfl, List.filterMap_nil, List.append_nil]
        refine ⟨fun d => pump d ▸ h.along d, h.nodup, fun d => pump d ▸ h.isJoined d, h.failure,
          fun d => pump d ▸ h.finishes d, fun _ d => (h.isJoined d).2 ?_⟩
        cases d with
        | up => exact both.1
        | down => exact both.2
      · simp at step
    · exact absurd rfl unforced

/-- A schedule without a force-close hears each direction once, in the order in which it joins
them. -/
theorem run_heard {moves : List Move} (fresh : r₀.Fresh)
    (unforced : Move.force ∉ moves) (h : Heard r₀ joined r)
    (run : r.run pool moves = some (pool', r')) : Heard r₀ (joined ++ joins moves) r' := by
  induction moves generalizing pool r joined with
  | nil =>
    obtain rfl := (Prod.mk.inj (Option.some.inj run)).2
    rw [joins, List.filterMap_nil, List.append_nil]
    exact h
  | cons m moves ih =>
    obtain ⟨⟨pool₁, r₁⟩, step, run⟩ := Option.bind_eq_some_iff.1 run
    obtain ⟨unforced, rest⟩ := not_or.1 (fun e => unforced (List.mem_cons.2 e))
    have heard := heard_step fresh (Ne.symm unforced) h step
    have cons : joins (m :: moves) = joins [m] ++ joins moves := by
      rw [joins, joins, joins, ← List.filterMap_append]
      rfl
    rw [cons, ← List.append_assoc]
    exact ih rest heard run

/-! ## The relay as two copies -/

theorem heard_delivered (h : Heard r₀ joined r) (ended : r.concluded = true)
    (d : Direction) :
    (r.pump d).sink.accepted = (r₀.pump d).sink.accepted ++ (r₀.pump d).delivered ∧
      r.finishes d = [((r.pump d).copied, (r₀.pump d).result)] ∧
      ((r₀.pump d).Fits → (r.pump d).copied = (r₀.pump d).source.yield.length) := by
  have phase := (h.isJoined d).1 (h.ended ended d)
  have along := h.along d
  have finishes := h.finishes d
  simp only [Pump.Along, phase] at along
  rw [phase] at finishes
  obtain ⟨failure, taken, took, comes⟩ := along
  obtain ⟨rfl, -, counted⟩ := comes.alone
  exact ⟨took.accepted, finishes, counted⟩

theorem heard_failure (h : Heard r₀ joined r) (ended : r.concluded = true) :
    ∃ d : Direction, joined = [d, d.other] ∧
      r.failure = (r₀.pump d).result.or (r₀.pump d.other).result := by
  obtain ⟨d, both⟩ := Direction.eq_pair h.nodup (h.ended ended)
  refine ⟨d, both, ?_⟩
  rw [h.failure, both]
  cases first : (r₀.pump d).result with
  | none => simp [first]
  | some e => simp [first]

theorem heard_done (h : Heard r₀ joined r) (ended : r.concluded = true) :
    r.outcome = .done () ↔ ∀ d, (r₀.pump d).result = none := by
  obtain ⟨d, -, failure⟩ := heard_failure h ended
  have outcome : r.outcome = .done () ↔ r.failure = none := by
    unfold Relay.outcome
    rw [ended]
    cases r.failure <;> simp
  rw [outcome, failure, Option.or_eq_none_iff]
  refine ⟨fun none d' => ?_, fun none => ⟨none _, none _⟩⟩
  by_cases e : d' = d
  · rw [e]
    exact none.1
  · rw [Direction.eq_other e]
    exact none.2

/-- A verdict without a failure says that each sink has everything that its source had. -/
theorem heard_complete (h : Heard r₀ joined r) (ended : r.concluded = true)
    (none : r.failure = none) (d : Direction) :
    (r.pump d).sink.accepted = (r₀.pump d).sink.accepted ++ (r₀.pump d).source.unread := by
  have done : r.outcome = .done () := by
    rw [Relay.outcome, ended, none]
  have result := (heard_done h ended).1 done d
  have phase := (h.isJoined d).1 (h.ended ended d)
  have along := h.along d
  simp only [Pump.Along, phase] at along
  obtain ⟨failure, taken, took, comes⟩ := along
  rw [comes.alone.2.1.trans result] at comes
  generalize (r.pump d).copied = copied at comes
  cases comes with
  | complete fits ending => rw [took.accepted, Replay.yield_eq_unread ending]

theorem fresh_start (held : Octets) (client remote : Transport) :
    (start held client remote).Fresh :=
  fun d => by cases d <;> rfl

theorem along_start (held : Octets) (client remote : Transport) :
    (start held client remote).Along (start held client remote) :=
  (heard_start held client remote).along

/-- A relay that is over has done what two copies do: each direction on its own, and both
together. -/
structure TwoCopies (r₀ : Relay) (moves : List Move) (r : Relay) : Prop where
  delivered : ∀ d, (r.pump d).sink.accepted = (r₀.pump d).sink.accepted ++ (r₀.pump d).delivered
  finishes : ∀ d, r.finishes d = [((r.pump d).copied, (r₀.pump d).result)]
  counted : ∀ d, (r₀.pump d).Fits → (r.pump d).copied = (r₀.pump d).source.yield.length
  done : r.outcome = .done () ↔ ∀ d, (r₀.pump d).result = none
  failed : ∃ d : Direction, joins moves = [d, d.other] ∧
    ∀ e, r.outcome = .failed e ↔ (r₀.pump d).result.or (r₀.pump d.other).result = some e

theorem run_copied {moves : List Move} {held : Octets} {client remote : Transport}
    (unforced : Move.force ∉ moves)
    (run : (start held client remote).run pool moves = some (pool', r))
    (ended : r.concluded = true) : TwoCopies (start held client remote) moves r := by
  have heard := run_heard (fresh_start held client remote) unforced
    (heard_start held client remote) run
  rw [List.nil_append] at heard
  refine ⟨fun d => (heard_delivered heard ended d).1,
    fun d => (heard_delivered heard ended d).2.1,
    fun d => (heard_delivered heard ended d).2.2, heard_done heard ended, ?_⟩
  obtain ⟨d, both, failure⟩ := heard_failure heard ended
  refine ⟨d, both, fun e => ?_⟩
  unfold Relay.outcome
  rw [ended, ← failure]
  cases r.failure <;> simp

theorem TwoCopies.outcome_of_none {moves : List Move} (h : TwoCopies r₀ moves r)
    (none : (r₀.pump d).result = none) :
    r.outcome = .done () ∧ (r₀.pump d.other).result = Option.none ∨
      ∃ e, r.outcome = .failed e ∧ (r₀.pump d.other).result = some e := by
  cases other : (r₀.pump d.other).result with
  | none =>
    refine Or.inl ⟨h.done.2 fun d' => ?_, rfl⟩
    by_cases e : d' = d
    · rw [e, none]
    · rw [Direction.eq_other e, other]
  | some e =>
    obtain ⟨first, -, failed⟩ := h.failed
    refine Or.inr ⟨e, (failed e).2 ?_, rfl⟩
    by_cases same : first = d
    · rw [same, none, other]
      rfl
    · obtain rfl := Direction.eq_other same
      rw [other]
      rfl

/-- Where at most one direction fails, the verdict names its failure. -/
theorem TwoCopies.outcome_eq {moves moves' : List Move} (h : TwoCopies r₀ moves r)
    (h' : TwoCopies r₀ moves' r') (none : (r₀.pump d).result = none) : r.outcome = r'.outcome := by
  rcases h.outcome_of_none none with ⟨done, other⟩ | ⟨e, failed, other⟩ <;>
    rcases h'.outcome_of_none none with ⟨done', other'⟩ | ⟨e', failed', other'⟩
  · rw [done, done']
  · simp [other] at other'
  · simp [other] at other'
  · rw [failed, failed']
    exact congrArg _ (Option.some.inj (other.symm.trans other'))

/-- A relay that starts afresh and is never cut short. However far it has come, each sink has taken
a front of what the source behind it yields, and less than a buffer of that is not counted yet. Once
it is over, it has done what two copies do that are made on their own, and any other run to the end
has delivered the same octets with the same verdict; only which of two failures it names may
differ. -/
theorem run_refines_copies {moves : List Move} {held : Octets} {client remote : Transport}
    (unforced : Move.force ∉ moves)
    (run : (start held client remote).run pool moves = some (pool', r)) :
    let r₀ := start held client remote
    (∀ d, ∃ written, (r.pump d).sink.accepted = (r₀.pump d).sink.accepted ++ written ∧
      written <+: (r₀.pump d).source.yield ∧
      (r.pump d).copied ≤ written.length ∧ written.length < (r.pump d).copied + 65536) ∧
    (r.concluded = true → TwoCopies r₀ moves r) ∧
    (r.concluded = true → ∀ pool₁ pool₁' moves₁ r₁, Move.force ∉ moves₁ →
      r₀.run pool₁ moves₁ = some (pool₁', r₁) → r₁.concluded = true →
      (∀ d, (r₁.pump d).sink.accepted = (r.pump d).sink.accepted) ∧
      (r₁.outcome = .done () ↔ r.outcome = .done ()) ∧
      ((∃ d, (r₀.pump d).result = none) → r₁.outcome = r.outcome)) := by
  refine ⟨fun d => ?_, run_copied unforced run, ?_⟩
  · have along := run_along (fresh_start held client remote) (along_start held client remote) run d
    obtain ⟨taken, took, front, le, lt⟩ :=
      Pump.along_bounds (fresh_start held client remote d) along
    exact ⟨taken, took.accepted, front, le, lt⟩
  · intro ended pool₁ pool₁' moves₁ r₁ unforced₁ run₁ ended₁
    have copied := run_copied unforced run ended
    have copied₁ := run_copied unforced₁ run₁ ended₁
    refine ⟨fun d => (copied₁.delivered d).trans (copied.delivered d).symm,
      copied₁.done.trans copied.done.symm, ?_⟩
    rintro ⟨good, none⟩
    exact copied₁.outcome_eq copied none

/-- A client sends more than the far side takes: one octet that was held, two that come late. -/
theorem run_refines_copies_refused :
    let client : Transport := { source := [.wait, .data [2, 3]] }
    let remote : Transport := { sink := { room := some 2, perWrite := some 1 } }
    let moves := [.advance .up, .advance .down, .advance .up, .advance .up, .advance .up,
      .advance .down, .advance .down, .advance .down, .join .down, .advance .up, .advance .up,
      .advance .up, .advance .up, .advance .up, .join .up, .conclude]
    ∃ pool r, (start [1] client remote).run {} moves = some (pool, r) ∧
      r.up.sink.accepted = [1, 2] ∧ r.outcome = .failed ⟨.brokenPipe, "broken pipe"⟩ := by
  intro client remote moves
  have ended : ((start [1] client remote).run {} moves).map (·.2.concluded) = some true := by
    decide +kernel
  obtain ⟨⟨pool, r⟩, run, ended⟩ := Option.map_eq_some_iff.1 ended
  obtain ⟨-, copied, -⟩ := run_refines_copies (by decide) run
  refine ⟨pool, r, run, (copied ended).delivered .up, ?_⟩
  obtain ⟨d, joins, failed⟩ := (copied ended).failed
  obtain rfl : d = .down := (List.cons.inj joins).1.symm
  exact (failed _).2 (by decide)

end Relay

end Sluice

import Mathlib.Logic.Relation
import Sluice.Proofs.Relaying

/-
  What a relay does, one change at a time. A move is a change or a few in a row; a force-close
  takes the most of them (`Change`, `changes_of_step`). A fact that every change keeps holds along
  every run, whether it is cut short or not (`run_keeps`). The first such fact is about the pool: it
  has lent what the two pumps hold, and nothing else (`run_lent`).
-/

namespace Sluice

/-- The buffer that a pump has. -/
def PumpPhase.buffer? : PumpPhase → Option Buffer
  | .read buffer => some buffer
  | .write buffer _ _ => some buffer
  | _ => none

/-- How many buffers a pump has: one or none. -/
def PumpPhase.lent (phase : PumpPhase) : Nat :=
  phase.buffer?.toList.length

theorem PumpPhase.lent_some {phase : PumpPhase} {buffer : Buffer}
    (h : phase.buffer? = some buffer) : phase.lent = 1 := by
  rw [lent, h]
  rfl

theorem PumpPhase.lent_none {phase : PumpPhase} (h : phase.buffer? = none) : phase.lent = 0 := by
  rw [lent, h]
  rfl

/-! ## What a pump does with its buffer -/

namespace Pump

/-- An attempt to read leaves the sink alone, and an attempt to write the source. -/
inductive Attempt (d : Direction) (p p' : Pump) : RelayEvent → Prop where
  | read : p'.sink = p.sink → Attempt d p p' (.read d)
  | write : p'.source = p.source → Attempt d p p' (.wrote d)

/-- A step of copying borrows a buffer, uses the one that it has, or gives it back. -/
inductive Use (d : Direction) (pool : Pool) (p : Pump) : Copied → Prop where
  | borrow : p.phase = .start →
      Use d pool p ⟨pool.checkout.2, { p with phase := .read pool.checkout.1 }, [.checkedOut d]⟩
  | keep {p' buffer buffer' event} : p.phase.buffer? = some buffer →
      p'.phase.buffer? = some buffer' → Attempt d p p' event → Use d pool p ⟨pool, p', [event]⟩
  | giveBack {p' buffer event failure} : p.phase.buffer? = some buffer →
      p'.phase = .closeTarget failure → Attempt d p p' event →
      Use d pool p ⟨pool.giveBack buffer, p', [event, .gaveBack d]⟩

variable {d : Direction} {buffer : Buffer} {pool : Pool} {p : Pump} {c : Copied}

theorem use_readChunk (phase : p.phase = .read buffer) (h : readChunk d buffer pool p = some c) :
    Use d pool p c := by
  have has : p.phase.buffer? = some buffer := by rw [phase]; rfl
  unfold readChunk at h
  split at h
  · simp at h
  · dsimp only at h
    split at h <;> obtain rfl := Option.some.inj h
    · exact .keep has has (.read rfl)
    · exact .giveBack has rfl (.read rfl)
    · exact .giveBack has rfl (.read rfl)
    · exact .keep has rfl (.read rfl)

theorem use_writeChunk {count : Nat} {rest : Octets} (phase : p.phase = .write buffer count rest)
    (h : writeChunk d buffer count rest pool p = some c) : Use d pool p c := by
  have has : p.phase.buffer? = some buffer := by rw [phase]; rfl
  unfold writeChunk at h
  split at h
  · simp at h
  · obtain rfl := Option.some.inj h
    exact .giveBack has rfl (.write rfl)
  · obtain rfl := Option.some.inj h
    exact .giveBack has rfl (.write rfl)
  · obtain rfl := Option.some.inj h
    split
    · exact .keep has rfl (.write rfl)
    · exact .keep has rfl (.write rfl)

theorem use_copy (h : copy d pool p = some c) : Use d pool p c := by
  unfold copy at h
  split at h
  · next phase =>
    obtain rfl := Option.some.inj h
    exact .borrow phase
  · next phase => exact use_readChunk phase h
  · next phase => exact use_writeChunk phase h
  · simp at h

end Pump

namespace Relay

/-! ## Changes -/

/-- All that can happen to a relay and its pool at once. -/
inductive Change (pool : Pool) (r : Relay) : Pool → Relay → Prop where
  | copy {d c} : (r.pump d).Use d pool c →
      Change pool r c.pool ((r.setPump d c.pump).note c.events)
  | closeTarget {d failure} : (r.pump d).phase = .closeTarget failure →
      Change pool r pool (r.closeTarget d failure)
  | closeSource {d failure} : (r.pump d).phase = .closeSource failure →
      Change pool r pool (r.closeSource d failure)
  | join {d failure} : (r.pump d).phase = .report failure →
      Change pool r pool (setPhase d .joined r)
  /-- A pump is cut short that has not begun. -/
  | leave {d} : (r.pump d).phase = .start → Change pool r pool (setPhase d .dropped r)
  /-- A pump is cut short that has a buffer. -/
  | abandon {d buffer} : (r.pump d).phase.buffer? = some buffer →
      Change pool r (pool.giveBack buffer) ((setPhase d .dropped r).note [.gaveBack d])
  | force : Change pool r pool (r.note [.forced])
  | judge {failure concluded} : Change pool r pool { r with failure, concluded }

/-- Changes in a row. -/
def Changes : Pool × Relay → Pool × Relay → Prop :=
  Relation.ReflTransGen fun s s' => Change s.1 s.2 s'.1 s'.2

variable {pool pool' : Pool} {r r' : Relay} {d : Direction}

theorem Change.single (h : Change pool r pool' r') : Changes (pool, r) (pool', r') :=
  Relation.ReflTransGen.single h

theorem changes_of_advance (h : r.advance d pool = some (pool', r')) :
    Changes (pool, r) (pool', r') := by
  unfold advance at h
  split at h
  · next phase =>
    obtain ⟨rfl, rfl⟩ := Prod.mk.inj (Option.some.inj h)
    exact (Change.closeTarget phase).single
  · next phase =>
    obtain ⟨rfl, rfl⟩ := Prod.mk.inj (Option.some.inj h)
    exact (Change.closeSource phase).single
  · obtain ⟨c, copied, e⟩ := Option.map_eq_some_iff.1 h
    obtain ⟨rfl, rfl⟩ := Prod.mk.inj e
    exact (Change.copy (Pump.use_copy copied)).single

theorem changes_of_drop (d : Direction) (pool : Pool) (r : Relay) :
    Changes (pool, r) (r.drop d pool) := by
  unfold drop
  dsimp only
  split
  · next phase => exact (Change.leave phase).single
  · next phase => exact (Change.abandon (phase ▸ rfl)).single
  · next phase => exact (Change.abandon (phase ▸ rfl)).single
  · next failure phase =>
    have closing : ((r.closeTarget d failure).pump d).phase = .closeSource failure :=
      congrArg Pump.phase (r.pump_halfClose d _ d.target .write)
    exact (Change.closeTarget phase).single.trans (Change.closeSource closing).single
  · next phase => exact (Change.closeSource phase).single
  · exact Relation.ReflTransGen.refl

theorem changes_of_force (pool : Pool) (r : Relay) : Changes (pool, r) (r.force pool) :=
  (Change.force.single.trans (changes_of_drop .up pool _)).trans
    ((changes_of_drop .down _ _).trans Change.judge.single)

theorem changes_of_step {m : Move} (h : r.step m pool = some (pool', r')) :
    Changes (pool, r) (pool', r') := by
  unfold step at h
  split at h
  · simp at h
  · split at h
    · exact changes_of_advance h
    · obtain ⟨r'', join, e⟩ := Option.map_eq_some_iff.1 h
      obtain ⟨rfl, rfl⟩ := Prod.mk.inj e
      unfold Relay.join at join
      split at join
      · next phase =>
        obtain rfl := Option.some.inj join
        exact (Change.join phase).single.trans Change.judge.single
      · simp at join
    · split at h
      · obtain ⟨rfl, rfl⟩ := Prod.mk.inj (Option.some.inj h)
        exact Change.judge.single
      · simp at h
    · rw [← Option.some.inj h]
      exact changes_of_force pool r

theorem Changes.keeps {P : Pool → Relay → Prop}
    (kept : ∀ {pool r pool' r'}, P pool r → Change pool r pool' r' → P pool' r')
    {s s' : Pool × Relay} (h : Changes s s') (start : P s.1 s.2) : P s'.1 s'.2 := by
  induction h with
  | refl => exact start
  | tail _ change ih => exact kept ih change

/-- What holds at the start and is kept by every change holds along every run. -/
theorem run_keeps {P : Pool → Relay → Prop}
    (kept : ∀ {pool r pool' r'}, P pool r → Change pool r pool' r' → P pool' r')
    (start : P pool r) {moves : List Move} (run : r.run pool moves = some (pool', r')) :
    P pool' r' := by
  induction moves generalizing pool r with
  | nil =>
    obtain ⟨rfl, rfl⟩ := Prod.mk.inj (Option.some.inj run)
    exact start
  | cons m moves ih =>
    obtain ⟨⟨pool₁, r₁⟩, step, run⟩ := Option.bind_eq_some_iff.1 run
    exact ih ((changes_of_step step).keeps kept start) run

theorem run_append (pool : Pool) (r : Relay) (before after : List Move) :
    r.run pool (before ++ after) = (r.run pool before).bind fun s => s.2.run s.1 after := by
  induction before generalizing pool r with
  | nil => rfl
  | cons m before ih =>
    rw [List.cons_append, run, run]
    cases r.step m pool with
    | none => rfl
    | some s => exact ih s.1 s.2

/-! ## Buffers in use -/

/-- How many buffers the pumps have. -/
def lent (r : Relay) : Nat :=
  (r.pump .up).phase.lent + (r.pump .down).phase.lent

theorem lent_eq (r : Relay) (d : Direction) :
    r.lent = (r.pump d).phase.lent + (r.pump d.other).phase.lent := by
  cases d with
  | up => rfl
  | down => exact Nat.add_comm _ _

theorem inUse_checkout (pool : Pool) : pool.checkout.2.inUse = pool.inUse + 1 := by
  unfold Pool.checkout
  split <;> rfl

/-- A pump that turns to something else changes what is lent by its own buffer. -/
theorem lent_setPump (r : Relay) (d : Direction) (p : Pump) :
    (r.setPump d p).lent + (r.pump d).phase.lent = r.lent + p.phase.lent := by
  rw [lent_eq _ d, lent_eq r d, pump_setPump, pump_setPump_ne r p d.other_ne]
  omega

/-- Half-closing lends nothing and takes nothing back, since no buffer is left by then. -/
theorem lent_halfClose (r : Relay) {d : Direction} {side : Side} {half : HalfClose}
    {phase : PumpPhase} (before : (r.pump d).phase.buffer? = none) (after : phase.buffer? = none) :
    (r.halfClose d side half phase).lent = r.lent := by
  rw [lent_eq _ d, lent_eq r d, pump_halfClose, pump_halfClose_ne _ _ _ _ d.other_ne,
    PumpPhase.lent_none before]
  exact congrArg (· + (r.pump d.other).phase.lent) (PumpPhase.lent_none after)

theorem lent_setPhase (r : Relay) {d : Direction} {phase : PumpPhase}
    (before : (r.pump d).phase.buffer? = none) (after : phase.buffer? = none) :
    (setPhase d phase r).lent = r.lent := by
  have turn := r.lent_setPump d { r.pump d with phase }
  rwa [PumpPhase.lent_none before, PumpPhase.lent_none after] at turn

theorem lent_copy {base : Nat} {c : Copied} (h : pool.inUse = base + r.lent)
    (use : (r.pump d).Use d pool c) : c.pool.inUse = base + (r.setPump d c.pump).lent := by
  have turn := r.lent_setPump d c.pump
  cases use with
  | borrow phase =>
    have none : (r.pump d).phase.lent = 0 := by rw [phase]; rfl
    have one : ∀ buffer, (PumpPhase.read buffer).lent = 1 := fun _ => rfl
    rw [inUse_checkout, h]
    rw [none, one] at turn
    omega
  | keep has has' =>
    rw [PumpPhase.lent_some has, PumpPhase.lent_some has'] at turn
    rw [h]
    omega
  | giveBack has phase =>
    have none : ∀ failure, (PumpPhase.closeTarget failure).lent = 0 := fun _ => rfl
    rw [PumpPhase.lent_some has, phase, none] at turn
    show pool.inUse - 1 = _
    omega

theorem lent_kept {base : Nat} (h : pool.inUse = base + r.lent) (change : Change pool r pool' r') :
    pool'.inUse = base + r'.lent := by
  cases change with
  | copy use => exact lent_copy h use
  | closeTarget phase =>
    exact h.trans (congrArg (base + ·) (r.lent_halfClose (phase ▸ rfl) rfl).symm)
  | closeSource phase =>
    exact h.trans (congrArg (base + ·) (r.lent_halfClose (phase ▸ rfl) rfl).symm)
  | join phase =>
    exact h.trans (congrArg (base + ·) (r.lent_setPhase (phase ▸ rfl) rfl).symm)
  | leave phase =>
    exact h.trans (congrArg (base + ·) (r.lent_setPhase (phase ▸ rfl) rfl).symm)
  | @abandon d buffer has =>
    have turn := r.lent_setPump d { r.pump d with phase := .dropped }
    rw [PumpPhase.lent_some has] at turn
    have turn : (r.setPump d { r.pump d with phase := .dropped }).lent + 1 = r.lent + 0 := turn
    show pool.inUse - 1 = base + (r.setPump d { r.pump d with phase := .dropped }).lent
    omega
  | force => exact h
  | judge => exact h

/-- However far a relay has come, the pool has lent what it had lent before and what the pumps
have. -/
theorem run_lent {moves : List Move} (fresh : r.lent = 0)
    (run : r.run pool moves = some (pool', r')) : pool'.inUse = pool.inUse + r'.lent :=
  run_keeps (P := fun pool₁ r₁ => pool₁.inUse = pool.inUse + r₁.lent)
    (fun h change => lent_kept h change) (by rw [fresh]; rfl) run

end Relay

end Sluice

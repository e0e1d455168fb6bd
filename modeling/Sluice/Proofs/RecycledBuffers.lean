import Sluice.Relay.Basic
import Sluice.Relay.Lending
import Sluice.Proofs.Copying

/-
  What was left in a buffer does not matter. A buffer is handed on as it is, and a pump reads into
  the front of it; what the pump writes is that front (`Buffer.front_store`), so a step of copying
  does the same whatever the buffers hold (`copy_wiped`). The same goes for a relay, and for an
  engine whose relays share a pool with anybody who borrows from it (`step_wiped`, `run_wiped`).
  Whoever looks at the connections, the verdicts and the pool's counters cannot tell what the idle
  buffers held at first (`run_seen`).
-/

namespace Sluice

/-! ## Forgetting what buffers hold -/

/-- Stands for every buffer. -/
def Buffer.wiped : Buffer :=
  Buffer.blank 0

def PumpPhase.wiped : PumpPhase → PumpPhase
  | .read _ => .read Buffer.wiped
  | .write _ count rest => .write Buffer.wiped count rest
  | phase => phase

def Pump.wiped (p : Pump) : Pump :=
  { p with phase := p.phase.wiped }

def Pool.wiped (p : Pool) : Pool :=
  { p with idle := p.idle.map fun _ => Buffer.wiped }

def Copied.wiped (c : Copied) : Copied :=
  { c with pool := c.pool.wiped, pump := c.pump.wiped }

namespace Pool

@[simp] theorem wiped_wiped (p : Pool) : p.wiped.wiped = p.wiped := by
  simp [wiped]

/-- A pool lends and reuses by the number of its idle buffers. -/
@[simp] theorem wiped_checkout (p : Pool) : p.checkout.2.wiped = p.wiped.checkout.2 := by
  unfold checkout wiped
  cases p.idle <;> rfl

@[simp] theorem wiped_giveBack (p : Pool) (buffer : Buffer) :
    (p.giveBack buffer).wiped = p.wiped.giveBack Buffer.wiped := by
  by_cases room : p.idle.length < p.maxIdle <;> simp [giveBack, wiped, room]

end Pool

namespace Pump

variable (d : Direction) (buffer : Buffer) (pool : Pool) (p : Pump)

@[simp] theorem phase_wiped : p.wiped.phase = p.phase.wiped :=
  rfl

@[simp] theorem source_wiped : p.wiped.source = p.source :=
  rfl

@[simp] theorem sink_wiped : p.wiped.sink = p.sink :=
  rfl

@[simp] theorem copied_wiped : p.wiped.copied = p.copied :=
  rfl

@[simp] theorem wiped_wiped : p.wiped.wiped = p.wiped := by
  unfold wiped
  cases p.phase <;> rfl

theorem finish_wiped (failure : Option IoError) (event : RelayEvent) :
    (finish d Buffer.wiped failure pool.wiped p.wiped event).wiped =
      (finish d buffer failure pool p event).wiped := by
  simp [finish, Copied.wiped, wiped, PumpPhase.wiped]

/-- What goes to the sink is what came from the source, for it stands at the front of the buffer. -/
theorem readChunk_wiped (phase : p.phase = .read buffer) :
    (readChunk d Buffer.wiped pool.wiped p.wiped).map Copied.wiped =
      (readChunk d buffer pool p).map Copied.wiped := by
  have fits := p.source.length_poll Buffer.size
  unfold readChunk
  rw [source_wiped]
  split
  · rfl
  · generalize p.source.poll Buffer.size = polled at fits
    obtain ⟨polled, source⟩ := polled
    dsimp only at fits ⊢
    split
    · simp [Copied.wiped, wiped, PumpPhase.wiped, phase]
    · exact congrArg some (finish_wiped d buffer pool { p with source } ..)
    · exact congrArg some (finish_wiped d buffer pool { p with source } ..)
    · next data _ =>
      -- The chunk is written from the buffer, whose front it fills, whatever stands behind it.
      have front : ∀ b : Buffer, (b.store data).front data.length = data := Buffer.front_store fits
      simp [Copied.wiped, wiped, PumpPhase.wiped, front]

theorem writeChunk_wiped (count : Nat) (rest : Octets) :
    (writeChunk d Buffer.wiped count rest pool.wiped p.wiped).map Copied.wiped =
      (writeChunk d buffer count rest pool p).map Copied.wiped := by
  unfold writeChunk
  rw [sink_wiped]
  split
  · rfl
  · next sink _ => exact congrArg some (finish_wiped d buffer pool { p with sink } ..)
  · next sink _ => exact congrArg some (finish_wiped d buffer pool { p with sink } ..)
  · split <;> simp [Copied.wiped, wiped, PumpPhase.wiped]

theorem copy_wiped :
    (p.wiped.copy d pool.wiped).map Copied.wiped = (p.copy d pool).map Copied.wiped := by
  unfold copy
  rw [phase_wiped]
  cases now : p.phase with
  | start => simp [PumpPhase.wiped, Copied.wiped, wiped]
  | read buffer => exact readChunk_wiped d buffer pool p now
  | write buffer count rest => exact writeChunk_wiped d buffer pool p count rest
  | _ => rfl

end Pump

namespace Relay

def wiped (r : Relay) : Relay :=
  { r with up := r.up.wiped, down := r.down.wiped }

section Wiped

variable (r : Relay) (d : Direction) (pool : Pool)

@[simp] theorem pump_wiped : r.wiped.pump d = (r.pump d).wiped := by
  cases d <;> rfl

@[simp] theorem closer_wiped (side : Side) : r.wiped.closer side = r.closer side := by
  cases side <;> rfl

@[simp] theorem wiped_wiped : r.wiped.wiped = r.wiped := by
  simp [wiped]

@[simp] theorem wiped_setPump (p : Pump) :
    (r.setPump d p).wiped = r.wiped.setPump d p.wiped := by
  cases d <;> rfl

@[simp] theorem wiped_note (events : List RelayEvent) :
    (r.note events).wiped = r.wiped.note events :=
  rfl

@[simp] theorem wiped_setPhase (phase : PumpPhase) :
    (setPhase d phase r).wiped = setPhase d phase.wiped r.wiped := by
  cases d <;> rfl

@[simp] theorem wiped_setCloser (side : Side) (c : Closer) :
    (r.setCloser side c).wiped = r.wiped.setCloser side c := by
  cases side <;> rfl

@[simp] theorem wiped_halfClose (side : Side) (half : HalfClose) (phase : PumpPhase) :
    (r.halfClose d side half phase).wiped = r.wiped.halfClose d side half phase.wiped := by
  simp [halfClose]

@[simp] theorem wiped_closeTarget (failure : Option IoError) :
    (r.closeTarget d failure).wiped = r.wiped.closeTarget d failure :=
  wiped_halfClose ..

@[simp] theorem wiped_closeSource (failure : Option IoError) :
    (r.closeSource d failure).wiped = r.wiped.closeSource d failure := by
  simp [closeSource, PumpPhase.wiped]

theorem map_copied (copied : Option Copied) :
    (copied.map fun c => (c.pool, (r.setPump d c.pump).note c.events)).map
        (Prod.map Pool.wiped wiped) =
      (copied.map Copied.wiped).map fun c =>
        (c.pool, (r.wiped.setPump d c.pump).note c.events) := by
  cases copied with
  | none => rfl
  | some c => simp [Copied.wiped]

theorem advance_wiped : (r.wiped.advance d pool.wiped).map (Prod.map Pool.wiped wiped) =
    (r.advance d pool).map (Prod.map Pool.wiped wiped) := by
  unfold advance
  rw [pump_wiped, Pump.phase_wiped]
  cases (r.pump d).phase with
  | closeTarget failure => simp [PumpPhase.wiped]
  | closeSource failure => simp [PumpPhase.wiped]
  | _ =>
    dsimp only [PumpPhase.wiped]
    rw [map_copied, map_copied, wiped_wiped, Pump.copy_wiped]

theorem join_wiped : (r.wiped.join d).map wiped = (r.join d).map wiped := by
  unfold join
  rw [pump_wiped, Pump.phase_wiped]
  cases (r.pump d).phase with
  | report failure =>
    have same : (setPhase d .joined r.wiped).wiped = (setPhase d .joined r).wiped := by simp
    exact congrArg (fun r' : Relay => some { r' with failure := r.failure.or failure }) same
  | _ => rfl

theorem drop_wiped : Prod.map Pool.wiped wiped (r.wiped.drop d pool.wiped) =
    Prod.map Pool.wiped wiped (r.drop d pool) := by
  unfold drop
  rw [pump_wiped, Pump.phase_wiped]
  cases (r.pump d).phase <;> simp [PumpPhase.wiped]

end Wiped

/-- Do these differ in what buffers hold only? -/
def AsWiped (s s' : Pool × Relay) : Prop :=
  Prod.map Pool.wiped wiped s = Prod.map Pool.wiped wiped s'

theorem drop_asWiped {s s' : Pool × Relay} (d : Direction) (h : AsWiped s s') :
    AsWiped (s.2.drop d s.1) (s'.2.drop d s'.1) := by
  obtain ⟨pools, relays⟩ := Prod.mk.inj h
  unfold AsWiped
  rw [← drop_wiped, pools, relays, drop_wiped]

theorem force_wiped (pool : Pool) (r : Relay) :
    AsWiped (r.wiped.force pool.wiped) (r.force pool) := by
  have noted : AsWiped (pool.wiped, r.wiped.note [.forced]) (pool, r.note [.forced]) := by
    simp [AsWiped]
  have dropped := drop_asWiped .down (drop_asWiped .up noted)
  exact congrArg (fun s : Pool × Relay =>
    (s.1, { s.2 with failure := some (s.2.failure.getD forceClosed), concluded := true })) dropped

theorem allJoined_wiped (r : Relay) : r.wiped.allJoined = r.allJoined := by
  have joined : ∀ phase : PumpPhase, (phase.wiped == .joined) = (phase == .joined) :=
    fun phase => by cases phase <;> rfl
  show (r.up.phase.wiped == .joined && r.down.phase.wiped == .joined) = _
  rw [joined, joined]
  rfl

/-- A move is possible, and comes to the same, whatever the buffers hold. -/
theorem step_wiped (m : Move) (pool : Pool) (r : Relay) :
    (r.wiped.step m pool.wiped).map (Prod.map Pool.wiped wiped) =
      (r.step m pool).map (Prod.map Pool.wiped wiped) := by
  have concluded : r.wiped.concluded = r.concluded := rfl
  unfold step
  rw [concluded, allJoined_wiped]
  split
  · rfl
  · cases m with
    | advance d => exact advance_wiped r d pool
    | join d =>
      have joins := congrArg (Option.map (Prod.mk pool.wiped)) (join_wiped r d)
      simp only [Option.map_map] at joins ⊢
      simpa [Function.comp_def] using joins
    | conclude =>
      dsimp only
      split
      · simp [wiped]
      · rfl
    | force => exact congrArg some (force_wiped pool r)

end Relay

namespace Lending

def wiped (l : Lending) : Lending :=
  { pool := l.pool.wiped, guards := l.guards.map (Option.map fun _ => Buffer.wiped) }

@[simp] theorem wiped_wiped (l : Lending) : l.wiped.wiped = l.wiped := by
  simp [wiped, Function.comp_def]

theorem step_wiped (s : Step) (l : Lending) : (l.wiped.step s).2.wiped = (l.step s).2.wiped := by
  cases s with
  | checkout mark => simp [step, wiped, Function.comp_def]
  | drop i =>
    have guard : l.wiped.guards[i]?.join = l.guards[i]?.join.map fun _ => Buffer.wiped := by
      simp only [wiped, Array.getElem?_map]
      cases l.guards[i]? <;> rfl
    simp only [step, guard]
    cases l.guards[i]?.join with
    | none => simp [wiped, Function.comp_def]
    | some buffer => simp [wiped, Function.comp_def, Array.map_setIfInBounds]

end Lending

/-! ## Relays that share a pool -/

/-- A pool that relays share with others who borrow from it. -/
structure Engine where
  lending : Lending := {}
  relays : List Relay := []
  deriving DecidableEq, Repr

namespace Engine

/-- One thing that happens. -/
inductive Step where
  /-- Somebody borrows a buffer or gives one back. -/
  | lend (step : Lending.Step)
  /-- A relay starts. -/
  | start (held : Octets) (client remote : Transport)
  /-- A relay makes a move. -/
  | move (relay : Nat) (move : Relay.Move)
  deriving DecidableEq, Repr

/-- The engine after a move of one relay. -/
def moved (i : Nat) (e : Engine) (s : Pool × Relay) : Engine :=
  { lending := { e.lending with pool := s.1 }, relays := e.relays.set i s.2 }

def step (e : Engine) : Step → Option Engine
  | .lend s => some { e with lending := (e.lending.step s).2 }
  | .start held client remote =>
    some { e with relays := e.relays ++ [Relay.start held client remote] }
  | .move i m => (e.relays[i]?.bind fun r => r.step m e.lending.pool).map (e.moved i)

/-- Lets things happen in order; none may be impossible. -/
def run (e : Engine) : List Step → Option Engine
  | [] => some e
  | s :: steps => do
    let e ← e.step s
    e.run steps

/-- The engine with these buffers idle. -/
def stock (idle : List Buffer) (e : Engine) : Engine :=
  { e with lending := { e.lending with pool := { e.lending.pool with idle } } }

def wiped (e : Engine) : Engine :=
  { lending := e.lending.wiped, relays := e.relays.map Relay.wiped }

@[simp] theorem wiped_wiped (e : Engine) : e.wiped.wiped = e.wiped := by
  simp [wiped, Function.comp_def]

theorem wiped_moved (i : Nat) (e : Engine) (s : Pool × Relay) :
    (e.moved i s).wiped = e.wiped.moved i (Prod.map Pool.wiped Relay.wiped s) := by
  simp [moved, wiped, Lending.wiped, List.map_set]

theorem step_wiped (s : Step) (e : Engine) :
    (e.wiped.step s).map wiped = (e.step s).map wiped := by
  cases s with
  | lend s =>
    have lent := e.lending.step_wiped s
    simp [step, wiped, Function.comp_def, lent]
  | start held client remote => simp [step, wiped, Function.comp_def]
  | move i m =>
    have relay : e.wiped.relays[i]? = e.relays[i]?.map Relay.wiped := List.getElem?_map ..
    have moved : ∀ e : Engine,
        wiped ∘ e.moved i = e.wiped.moved i ∘ Prod.map Pool.wiped Relay.wiped :=
      fun e => funext (wiped_moved i e)
    simp only [step, relay]
    cases e.relays[i]? with
    | none => rfl
    | some r =>
      rw [Option.map_some, Option.bind_some, Option.bind_some, Option.map_map, Option.map_map,
        moved, moved, ← Option.map_map, ← Option.map_map, wiped_wiped]
      exact congrArg (Option.map (e.wiped.moved i)) (r.step_wiped m e.lending.pool)

/-- Engines that differ in what buffers hold only go the same way. -/
theorem run_wiped (steps : List Step) {e e' : Engine} (h : e.wiped = e'.wiped) :
    (e.run steps).map wiped = (e'.run steps).map wiped := by
  induction steps generalizing e e' with
  | nil => exact congrArg some h
  | cons s steps ih =>
    have stepped : (e.step s).map wiped = (e'.step s).map wiped := by
      rw [← step_wiped, h, step_wiped]
    rw [run, run]
    -- What can happen to one engine can happen to the other.
    cases now : e.step s with
    | none =>
      rw [now, Option.map_none] at stepped
      rw [Option.map_eq_none_iff.1 stepped.symm]
    | some e₁ =>
      rw [now, Option.map_some] at stepped
      obtain ⟨e₁', now', alike⟩ := Option.map_eq_some_iff.1 stepped.symm
      rw [now']
      exact ih alike.symm

theorem wiped_stock {idle idle' : List Buffer} (same : idle.length = idle'.length) (e : Engine) :
    (e.stock idle).wiped = (e.stock idle').wiped := by
  have lists : (idle.map fun _ => Buffer.wiped) = idle'.map fun _ => Buffer.wiped := by
    rw [List.map_const', List.map_const', same]
  simp [stock, wiped, Lending.wiped, Pool.wiped, lists]

end Engine

/-! ## What can be seen -/

/-- What a pool tells about itself. -/
structure Pool.Stats where
  allocated : Nat
  reused : Nat
  idle : Nat
  inUse : Nat
  deriving DecidableEq, Repr

def Pool.stats (p : Pool) : Pool.Stats :=
  { allocated := p.allocated, reused := p.reused, idle := p.idle.length, inUse := p.inUse }

/-- What can be seen of a relay: what each write of either direction took, what is counted, which
half-closes both sides have got, what happened, and the verdict. -/
structure Relay.Seen where
  pieces : Direction → List Octets
  copied : Direction → Nat
  closes : Side → List HalfClose
  history : List RelayEvent
  outcome : Outcome IoError Unit

def Relay.seen (r : Relay) : Relay.Seen where
  pieces d := (r.pump d).sink.pieces
  copied d := (r.pump d).copied
  closes side := (r.closer side).attempts
  history := r.history
  outcome := r.outcome

/-- What can be seen of an engine: the pool's counters, which guards are held, and the relays. -/
structure Engine.Seen where
  stats : Pool.Stats
  held : List Bool
  relays : List Relay.Seen

def Engine.seen (e : Engine) : Engine.Seen where
  stats := e.lending.pool.stats
  held := e.lending.guards.toList.map Option.isSome
  relays := e.relays.map Relay.seen

theorem Relay.seen_wiped (r : Relay) : r.wiped.seen = r.seen := by
  unfold seen
  simp only [pump_wiped, Pump.copied_wiped, Pump.sink_wiped, closer_wiped]
  rfl

namespace Engine

theorem seen_wiped (e : Engine) : e.wiped.seen = e.seen := by
  have stats : e.wiped.lending.pool.stats = e.lending.pool.stats := by
    simp [wiped, Lending.wiped, Pool.wiped, Pool.stats]
  have held : e.wiped.lending.guards.toList.map Option.isSome =
      e.lending.guards.toList.map Option.isSome := by
    simp [wiped, Lending.wiped, Function.comp_def]
  have relays : e.wiped.relays.map Relay.seen = e.relays.map Relay.seen := by
    simp [wiped, Function.comp_def, Relay.seen_wiped]
  unfold seen
  rw [stats, held, relays]

/-- Relays run, and buffers are borrowed and given back, all in any order. If as many buffers are
idle at first, whatever they hold, the same can happen and looks the same: what goes to the
connections, what is counted and closed, the verdicts, and the counters of the pool. -/
theorem run_seen (e : Engine) {idle idle' : List Buffer} (same : idle.length = idle'.length)
    (steps : List Step) :
    ((e.stock idle).run steps).map seen = ((e.stock idle').run steps).map seen := by
  have wiped := congrArg (Option.map seen) (run_wiped steps (wiped_stock same e))
  have looks : seen ∘ Engine.wiped = seen := funext seen_wiped
  rwa [Option.map_map, Option.map_map, looks] at wiped

/-- A relay copies two octets through a buffer full of sevens, and through a blank one. -/
theorem run_seen_sevens :
    let sevens := [(Buffer.blank 0).fill 7]
    let blank := [Buffer.blank 0]
    let steps := [.start [] { source := [.data [1, 2]] } {}, .move 0 (.advance .up),
      .move 0 (.advance .up), .lend (.checkout (some 9)), .move 0 (.advance .up), .move 0 .force,
      .lend (.drop 0)]
    sevens.length = blank.length ∧
      ∃ e e', (stock sevens {}).run steps = some e ∧ (stock blank {}).run steps = some e' ∧
        e.seen = e'.seen ∧ e.relays.map (fun r => r.up.sink.pieces) = [[[1, 2]]] := by
  intro sevens blank steps
  have ran : ((stock sevens {}).run steps).map (fun e => e.relays.map fun r => r.up.sink.pieces) =
      some [[[1, 2]]] := by
    decide +kernel
  have looks : ((stock sevens {}).run steps).map seen = ((stock blank {}).run steps).map seen :=
    run_seen {} rfl steps
  obtain ⟨e, run, pieces⟩ := Option.map_eq_some_iff.1 ran
  rw [run] at looks
  obtain ⟨e', run', same⟩ := Option.map_eq_some_iff.1 looks.symm
  exact ⟨rfl, e, e', run, run', same.symm, pieces⟩

end Engine

end Sluice

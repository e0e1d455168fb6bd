import Sluice.Relay.Pump

/-
  The relay between a client and its far side: two pumps that take turns in any order, and a
  verdict. `step` makes one move, `run` makes the moves of a schedule, `settle` goes on until
  nothing can move. A force-close may come at any moment: a pump that has begun to close finishes
  closing, any other is dropped where it stands, and its buffer goes back to the pool. The first
  failure that was reported is the verdict.
-/

namespace Sluice

/-- Two pumps at work. -/
structure Relay where
  up : Pump
  down : Pump
  client : Closer
  remote : Closer
  /-- The first failure that a pump reported. -/
  failure : Option IoError := none
  concluded : Bool := false
  /-- What happened so far, the last event first. -/
  past : List RelayEvent := []
  deriving DecidableEq, Repr

namespace Relay

/-- A move in a relay. -/
inductive Move where
  /-- A pump takes a step. -/
  | advance (d : Direction)
  /-- A pump that is done reports. -/
  | join (d : Direction)
  /-- Both pumps have reported. -/
  | conclude
  /-- The relay is told to stop at once. -/
  | force
  deriving DecidableEq, Repr

/-- The failure of a relay that was cut short. -/
def forceClosed : IoError :=
  ⟨.connectionAborted, "relay force-closed"⟩

/-- A relay between two connections. The `held` octets of the client come before what arrives. -/
def start (held : Octets) (client remote : Transport) : Relay :=
  { up := { source := { held, source := client.source }, sink := remote.sink }
    down := { source := { source := remote.source }, sink := client.sink }
    client := client.closer
    remote := remote.closer }

def pump (r : Relay) : Direction → Pump
  | .up => r.up
  | .down => r.down

def setPump (r : Relay) (d : Direction) (p : Pump) : Relay :=
  match d with
  | .up => { r with up := p }
  | .down => { r with down := p }

/-- Sets what a pump is about to do. -/
def setPhase (d : Direction) (phase : PumpPhase) (r : Relay) : Relay :=
  r.setPump d { r.pump d with phase }

def closer (r : Relay) : Side → Closer
  | .client => r.client
  | .remote => r.remote

def setCloser (r : Relay) (side : Side) (c : Closer) : Relay :=
  match side with
  | .client => { r with client := c }
  | .remote => { r with remote := c }

/-- Notes what happened, in order. -/
def note (events : List RelayEvent) (r : Relay) : Relay :=
  { r with past := events.reverse ++ r.past }

/-- What happened so far, in order. -/
def history (r : Relay) : List RelayEvent :=
  r.past.reverse

/-! ## Moves -/

/-- Half-closes one side for a pump, which goes on to its next phase. -/
def halfClose (d : Direction) (side : Side) (half : HalfClose) (next : PumpPhase) (r : Relay) :
    Relay :=
  let closer := r.closer side
  let (failure, closed) := closer.close half
  let events := if closer.ability = .unsupported then [] else [.closed d half failure]
  ((r.setCloser side closed).setPhase d next).note events

/-- Half-closes the target of a pump. -/
def closeTarget (d : Direction) (failure : Option IoError) (r : Relay) : Relay :=
  r.halfClose d d.target .write (.closeSource failure)

/-- Half-closes the source of a pump, which is then done. -/
def closeSource (d : Direction) (failure : Option IoError) (r : Relay) : Relay :=
  (r.halfClose d d.source .read (.report failure)).note
    [.finished d (r.pump d).copied failure]

/-- One step of a pump. -/
def advance (d : Direction) (pool : Pool) (r : Relay) : Option (Pool × Relay) :=
  match (r.pump d).phase with
  | .closeTarget failure => some (pool, r.closeTarget d failure)
  | .closeSource failure => some (pool, r.closeSource d failure)
  | _ =>
    ((r.pump d).copy d pool).map fun c => (c.pool, (r.setPump d c.pump).note c.events)

/-- A pump reports how it went; the first failure counts. -/
def join (d : Direction) (r : Relay) : Option Relay :=
  match (r.pump d).phase with
  | .report failure =>
    some { r.setPhase d .joined with failure := r.failure.or failure }
  | _ => none

/-- Cuts a pump short. -/
def drop (d : Direction) (pool : Pool) (r : Relay) : Pool × Relay :=
  let dropped := r.setPhase d .dropped
  match (r.pump d).phase with
  | .start => (pool, dropped)
  | .read buffer => (pool.giveBack buffer, dropped.note [.gaveBack d])
  | .write buffer _ _ => (pool.giveBack buffer, dropped.note [.gaveBack d])
  | .closeTarget failure => (pool, (r.closeTarget d failure).closeSource d failure)
  | .closeSource failure => (pool, r.closeSource d failure)
  | _ => (pool, r)

/-- Cuts the relay short. -/
def force (pool : Pool) (r : Relay) : Pool × Relay :=
  let (pool, r) := (r.note [.forced]).drop .up pool
  let (pool, r) := r.drop .down pool
  (pool, { r with failure := some (r.failure.getD forceClosed), concluded := true })

/-- Have both pumps reported? -/
def allJoined (r : Relay) : Bool :=
  r.up.phase == .joined && r.down.phase == .joined

/-- Makes a move, if it can be made. Nothing moves in a relay that is over. -/
def step (m : Move) (pool : Pool) (r : Relay) : Option (Pool × Relay) :=
  if r.concluded then none
  else
    match m with
    | .advance d => r.advance d pool
    | .join d => (r.join d).map fun r => (pool, r)
    | .conclude => if r.allJoined then some (pool, { r with concluded := true }) else none
    | .force => some (r.force pool)

/-- Makes the moves of a schedule; none may be impossible. -/
def run (pool : Pool) (r : Relay) : List Move → Option (Pool × Relay)
  | [] => some (pool, r)
  | m :: moves => do
    let (pool, r) ← r.step m pool
    r.run pool moves

/-! ## Running to the end -/

/-- How much a relay can still do. -/
def weight (r : Relay) : Nat :=
  r.up.weight + r.down.weight + (!r.concluded).toNat

theorem weight_setPump_lt {r : Relay} {d : Direction} {p : Pump}
    (h : p.weight < (r.pump d).weight) (events : List RelayEvent) :
    ((r.setPump d p).note events).weight < r.weight := by
  cases d <;> simp only [weight, setPump, note, pump] at * <;> omega

@[simp] theorem pump_setCloser (r : Relay) (side : Side) (c : Closer) (d : Direction) :
    (r.setCloser side c).pump d = r.pump d := by
  cases side <;> cases d <;> rfl

theorem weight_setCloser (r : Relay) (side : Side) (c : Closer) :
    (r.setCloser side c).weight = r.weight := by
  cases side <;> rfl

theorem weight_setPhase (r : Relay) (d : Direction) (phase : PumpPhase) :
    (r.setPhase d phase).weight + Pump.phaseWeight (r.pump d).phase =
      r.weight + Pump.phaseWeight phase := by
  cases d <;> simp only [weight, setPhase, setPump, pump, Pump.weight] <;> omega

theorem weight_halfClose (r : Relay) (d : Direction) (side : Side) (half : HalfClose)
    (next : PumpPhase) :
    (r.halfClose d side half next).weight + Pump.phaseWeight (r.pump d).phase =
      r.weight + Pump.phaseWeight next := by
  have := weight_setPhase (r.setCloser side (r.closer side |>.close half).2) d next
  simp only [pump_setCloser, weight_setCloser] at this
  exact this

theorem weight_advance {d : Direction} {pool pool' : Pool} {r r' : Relay}
    (h : r.advance d pool = some (pool', r')) : r'.weight < r.weight := by
  unfold advance at h
  split at h
  · next phase =>
    simp only [Option.some.injEq, Prod.mk.injEq] at h
    have := r.weight_halfClose d d.target .write (.closeSource ‹_›)
    rw [← h.2, closeTarget]
    simp only [phase, Pump.phaseWeight] at this
    omega
  · next phase =>
    simp only [Option.some.injEq, Prod.mk.injEq] at h
    have := r.weight_halfClose d d.source .read (.report ‹_›)
    rw [← h.2]
    change (r.halfClose d d.source .read (.report _)).weight < _
    simp only [phase, Pump.phaseWeight] at this
    omega
  · obtain ⟨c, hc, e⟩ := Option.map_eq_some_iff.1 h
    simp only [Prod.mk.injEq] at e
    rw [← e.2]
    exact weight_setPump_lt (Pump.weight_copy hc) _

theorem weight_join {d : Direction} {r r' : Relay} (h : r.join d = some r') :
    r'.weight < r.weight := by
  unfold join at h
  split at h
  · next phase =>
    have := r.weight_setPhase d .joined
    simp only [phase, Pump.phaseWeight] at this
    obtain rfl := Option.some.inj h
    change (r.setPhase d .joined).weight < _
    omega
  · simp at h

/-- The moves that a relay makes on its own. -/
def ownMoves : List Move :=
  [.advance .up, .advance .down, .join .up, .join .down, .conclude]

theorem weight_step {m : Move} {pool pool' : Pool} {r r' : Relay} (own : m ∈ ownMoves)
    (h : r.step m pool = some (pool', r')) : r'.weight < r.weight := by
  unfold step at h
  split at h
  · simp at h
  · next running =>
    split at h
    · exact weight_advance h
    · obtain ⟨r'', hr, e⟩ := Option.map_eq_some_iff.1 h
      simp only [Prod.mk.injEq] at e
      exact e.2 ▸ weight_join hr
    · split at h
      · simp only [Option.some.injEq, Prod.mk.injEq] at h
        rw [← h.2]
        simp [weight, running]
      · simp at h
    · simp [ownMoves] at own

/-- The first of its own moves that a relay can make, made. -/
def next? (pool : Pool) (r : Relay) : Option (Pool × Relay) :=
  ownMoves.findSome? fun m => r.step m pool

theorem weight_next {pool pool' : Pool} {r r' : Relay} (h : r.next? pool = some (pool', r')) :
    r'.weight < r.weight := by
  obtain ⟨m, own, h⟩ := List.exists_of_findSome?_eq_some h
  exact weight_step own h

/-- Goes on until nothing can move. -/
def settle (pool : Pool) (r : Relay) : Pool × Relay :=
  match h : r.next? pool with
  | none => (pool, r)
  | some (pool', r') =>
    have := weight_next h
    settle pool' r'
termination_by r.weight

/-- Goes on until nothing can move; a relay that then waits for ever is cut short. -/
def settleOrForce (pool : Pool) (r : Relay) : Pool × Relay :=
  let (pool, r) := r.settle pool
  if r.concluded then (pool, r) else r.force pool

/-- The verdict, once the relay is over. -/
def outcome (r : Relay) : Outcome IoError Unit :=
  match r.concluded, r.failure with
  | false, _ => .pending
  | true, none => .done ()
  | true, some e => .failed e

end Relay

end Sluice

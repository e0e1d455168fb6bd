import Sluice.Relay.Event
import Sluice.Relay.Pool
import Sluice.Stream.Replay

/-
  One direction of a relay: read a chunk into a buffer, write all of it, count it, start again. A
  pump that is done gives its buffer back, then half-closes the target, then the source. `weight`
  goes down with every step (`Pump.weight_copy`), so a pump cannot run for ever.
-/

namespace Sluice

/-- What a pump is about to do. -/
inductive PumpPhase where
  /-- Borrow a buffer. -/
  | start
  | read (buffer : Buffer)
  /-- Write the rest of a chunk of `count` octets. -/
  | write (buffer : Buffer) (count : Nat) (rest : Octets)
  /-- Half-close the target. -/
  | closeTarget (failure : Option IoError)
  /-- Half-close the source. -/
  | closeSource (failure : Option IoError)
  /-- Report how it went. -/
  | report (failure : Option IoError)
  /-- Nothing: it has reported. -/
  | joined
  /-- Nothing: it was cut short. -/
  | dropped
  deriving DecidableEq, Repr

/-- One direction of a relay. -/
structure Pump where
  source : Replay
  sink : Sink
  phase : PumpPhase := .start
  /-- The octets of completely written chunks. -/
  copied : Nat := 0
  deriving DecidableEq, Repr

/-- What a step of copying did. -/
structure Copied where
  pool : Pool
  pump : Pump
  events : List RelayEvent

/-! ## Progress -/

namespace Source

/-- How much a source can still do. -/
def weight : Source → Nat
  | [] => 0
  | .data s :: rest => s.length + 1 + weight rest
  | .failure _ :: rest => 1 + weight rest
  | .wait :: rest => 1 + weight rest
  | .silence :: rest => 1 + weight rest

theorem weight_poll_le (room : Nat) (s : Source) :
    (poll room s).1.octets.length + (poll room s).2.weight ≤ s.weight := by
  fun_induction poll room s <;> simp_all [weight, Polled.octets] <;> omega

theorem weight_poll_pending {room : Nat} {s : Source} (h : (poll room s).1 = .pending)
    (quiet : s.head? ≠ some .silence) : (poll room s).2.weight < s.weight := by
  revert h quiet
  fun_induction poll room s with
  | case2 rest ih =>
    intro h _
    have := weight_poll_le room rest
    simp [weight]
    omega
  | _ => simp_all [weight]

end Source

namespace Replay

/-- How much a reader of the stream can still get. -/
def weight (r : Replay) : Nat :=
  r.held.length + r.source.weight

/-- Does nothing come for ever? -/
def isSilent (r : Replay) : Bool :=
  r.held.isEmpty && r.source.head? == some .silence

theorem weight_poll_le (room : Nat) (r : Replay) :
    (r.poll room).1.octets.length + (r.poll room).2.weight ≤ r.weight := by
  unfold poll readBy weight
  split
  · next e => simpa [e] using Source.weight_poll_le room r.source
  · simp [Polled.octets]
    omega

theorem weight_poll_pending {room : Nat} {r : Replay} (h : (r.poll room).1 = .pending)
    (quiet : r.isSilent = false) : (r.poll room).2.weight < r.weight := by
  unfold poll readBy isSilent at *
  split at h
  · next e =>
    simp [e] at quiet
    simpa [e, weight] using Source.weight_poll_pending h (by simpa using quiet)
  · simp at h

end Replay

namespace Pump

/-- How much a phase leaves to do. -/
def phaseWeight : PumpPhase → Nat
  | .start => 6
  | .read _ => 5
  | .write _ _ rest => 5 + 2 * rest.length
  | .closeTarget _ => 4
  | .closeSource _ => 3
  | .report _ => 2
  | .joined => 0
  | .dropped => 0

/-- How much a pump can still do. -/
def weight (p : Pump) : Nat :=
  3 * p.source.weight + phaseWeight p.phase

/-! ## Copying -/

/-- The pump at the end of its copying. -/
def finish (d : Direction) (buffer : Buffer) (failure : Option IoError) (pool : Pool) (p : Pump)
    (event : RelayEvent) : Copied :=
  { pool := pool.giveBack buffer
    pump := { p with phase := .closeTarget failure }
    events := [event, .gaveBack d] }

/-- Reads a chunk into the buffer. -/
def readChunk (d : Direction) (buffer : Buffer) (pool : Pool) (p : Pump) : Option Copied :=
  if p.source.isSilent then none
  else
    let (polled, source) := p.source.poll Buffer.size
    match polled with
    | .pending => some { pool, pump := { p with source }, events := [.read d] }
    | .failed e => some (finish d buffer (some e) pool { p with source } (.read d))
    | .ready [] => some (finish d buffer none pool { p with source } (.read d))
    | .ready data =>
      let buffer := buffer.store data
      let count := data.length
      let phase := .write buffer count (buffer.front count)
      some { pool, pump := { p with source, phase }, events := [.read d] }

/-- Writes as much of the chunk as the sink takes at once. -/
def writeChunk (d : Direction) (buffer : Buffer) (count : Nat) (rest : Octets) (pool : Pool)
    (p : Pump) : Option Copied :=
  match p.sink.write rest with
  | (.pending, _) => none
  | (.failed e, sink) => some (finish d buffer (some e) pool { p with sink } (.wrote d))
  | (.done 0, sink) =>
    some (finish d buffer (some .nothingWritten) pool { p with sink } (.wrote d))
  | (.done (n + 1), sink) =>
    let pump := match rest.drop (n + 1) with
      | [] => { p with sink, copied := p.copied + count, phase := .read buffer }
      | rest => { p with sink, phase := .write buffer count rest }
    some { pool, pump, events := [.wrote d] }

/-- One step of copying, if one can be made. -/
def copy (d : Direction) (pool : Pool) (p : Pump) : Option Copied :=
  match p.phase with
  | .start =>
    let (buffer, pool) := pool.checkout
    some { pool, pump := { p with phase := .read buffer }, events := [.checkedOut d] }
  | .read buffer => readChunk d buffer pool p
  | .write buffer count rest => writeChunk d buffer count rest pool p
  | _ => none

theorem weight_readChunk {d : Direction} {buffer : Buffer} {pool : Pool} {p : Pump} {c : Copied}
    (phase : p.phase = .read buffer) (h : readChunk d buffer pool p = some c) :
    c.pump.weight < p.weight := by
  unfold readChunk at h
  split at h
  · simp at h
  · next quiet =>
    have le := p.source.weight_poll_le Buffer.size
    simp only [Bool.not_eq_true] at quiet
    dsimp only at h
    split at h <;> obtain rfl := Option.some.inj h <;>
      simp only [weight, finish, phase, phaseWeight]
    · next e =>
      have := Replay.weight_poll_pending e quiet
      omega
    · omega
    · omega
    · next data ne e =>
      have : 0 < data.length := List.length_pos_iff.2 ne
      simp only [e, Polled.octets] at le
      simp only [Buffer.front, List.length_take]
      omega

theorem weight_writeChunk {d : Direction} {buffer : Buffer} {count : Nat} {rest : Octets}
    {pool : Pool} {p : Pump} {c : Copied} (phase : p.phase = .write buffer count rest)
    (h : writeChunk d buffer count rest pool p = some c) : c.pump.weight < p.weight := by
  unfold writeChunk at h
  split at h
  · simp at h
  · obtain rfl := Option.some.inj h
    simp [weight, finish, phase, phaseWeight]
    omega
  · obtain rfl := Option.some.inj h
    simp [weight, finish, phase, phaseWeight]
    omega
  · next n sink e =>
    obtain rfl := Option.some.inj h
    have := (Sink.write_done e).1
    split <;> simp only [weight, phase, phaseWeight, List.length_drop] <;> omega

theorem weight_copy {d : Direction} {pool : Pool} {p : Pump} {c : Copied}
    (h : copy d pool p = some c) : c.pump.weight < p.weight := by
  unfold copy at h
  split at h
  · next phase =>
    obtain rfl := Option.some.inj h
    simp [weight, phase, phaseWeight]
  · next phase => exact weight_readChunk phase h
  · next phase => exact weight_writeChunk phase h
  · simp at h

end Pump

end Sluice

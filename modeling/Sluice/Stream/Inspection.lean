import Sluice.Stream.Replay
import Sluice.Stream.Session

/-
  A connection that somebody reads, writes and looks into, step by step. What was handed out for
  good is kept apart from what an open peek has only looked at, and the writing side is touched by
  writes outside a peek alone.
-/

namespace Sluice

/-- How much to read. -/
inductive Reading where
  | upTo (room : Nat)
  | exactly (count : Nat)
  | toEnd
  deriving DecidableEq, Repr

/-- One thing done to a connection. The muted ones go through a stream that cannot talk back. -/
inductive InspectionStep where
  | startPeek
  | endPeek
  | read (reading : Reading)
  | write (data : Octets)
  | flush
  | shutdown
  | mutedRead (reading : Reading)
  | mutedWrite (data : Octets)
  | mutedFlush
  | mutedShutdown
  deriving DecidableEq, Repr

/-- What a step answers. -/
inductive InspectionAnswer where
  | read (outcome : Outcome IoError Octets)
  | drained (octets : Octets) (ending : Readable.End)
  | wrote (count : Nat)
  | refused (error : IoError)
  /-- The write waits for room that never comes. -/
  | stalled
  | done
  /-- The peek is over; so many octets were put back. -/
  | closed (count : Nat)
  deriving DecidableEq, Repr

/-- A connection under inspection. -/
structure Inspection where
  replay : Replay
  /-- What the open peek has read, if one is open. -/
  recorded : Option (Array UInt8) := none
  /-- What was handed out for good. -/
  taken : Array UInt8 := #[]
  sink : Sink := {}
  shutdowns : Nat := 0
  deriving DecidableEq, Repr

namespace Inspection

/-- Reads as asked. -/
def reading {σ : Type} [Readable σ] (r : Reading) (s : σ) : InspectionAnswer × σ :=
  match r with
  | .upTo room =>
    let (polled, s) := Readable.read room s
    (.read (Session.ofPolled id polled), s)
  | .exactly count =>
    let (polled, s) := Readable.readExact .earlyEof count s
    (.read (Session.ofPolled id polled), s)
  | .toEnd =>
    let ((octets, ending), s) := Readable.drain s
    (.drained octets ending, s)

/-- Lets a reader at the connection: through the open peek, or for good. -/
def lookBy (look : Peek → InspectionAnswer × Peek) (i : Inspection) :
    InspectionAnswer × Inspection :=
  match i.recorded with
  | some recorded =>
    let (answer, peek) := look { replay := i.replay, recorded }
    (answer, { i with replay := peek.replay, recorded := some peek.recorded })
  | none =>
    let (answer, peek) := look (Peek.start i.replay)
    (answer, { i with replay := peek.replay, taken := i.taken ++ peek.recorded })

/-- Reads through a stream that cannot talk back. -/
def mutedReading (r : Reading) (p : Peek) : InspectionAnswer × Peek :=
  let (answer, s) := reading r (ReadOnly.mk p)
  (answer, s.inner)

/-- What came of a write. -/
def ofWrite : Outcome IoError Nat → InspectionAnswer
  | .done n => .wrote n
  | .failed e => .refused e
  | .pending => .stalled

/-- What came of flushing or shutting down. -/
def ofDone : Except IoError Unit → InspectionAnswer
  | .ok () => .done
  | .error e => .refused e

/-- Closes the open peek. -/
def endPeek (i : Inspection) : InspectionAnswer × Inspection :=
  match i.recorded with
  | some recorded =>
    let replay := Peek.close { replay := i.replay, recorded }
    (.closed recorded.size, { i with replay, recorded := none })
  | none => (.closed 0, i)

/-- Does one thing. -/
def step (i : Inspection) : InspectionStep → InspectionAnswer × Inspection
  | .startPeek => (.done, { i with recorded := some (i.recorded.getD #[]) })
  | .endPeek => i.endPeek
  | .read r => i.lookBy (reading r)
  | .mutedRead r => i.lookBy (mutedReading r)
  | .write data =>
    let (answer, sink) := i.sink.write data
    (ofWrite answer, { i with sink })
  | .flush => (.done, i)
  | .shutdown => (.done, { i with shutdowns := i.shutdowns + 1 })
  | .mutedWrite data =>
    let (answer, muted) := ReadOnly.write data (ReadOnly.mk i)
    (ofWrite answer, muted.inner)
  | .mutedFlush =>
    let (answer, muted) := ReadOnly.flush (ReadOnly.mk i)
    (ofDone answer, muted.inner)
  | .mutedShutdown =>
    let (answer, muted) := ReadOnly.shutdown (ReadOnly.mk i)
    (ofDone answer, muted.inner)

/-- Does things in order. -/
def run (i : Inspection) : List InspectionStep → List InspectionAnswer × Inspection
  | [] => ([], i)
  | s :: steps =>
    let (answer, i) := i.step s
    let (answers, i) := i.run steps
    (answer :: answers, i)

/-- Everything that the connection held at the start, in order: handed out, looked at, held, still
to come. -/
def all (i : Inspection) : Octets :=
  i.taken.toList ++ (i.recorded.getD #[]).toList ++ i.replay.unread

end Inspection

end Sluice

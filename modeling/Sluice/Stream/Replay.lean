import Sluice.Stream.Outcome
import Sluice.Stream.Readable

/-
  A stream with octets held back in front of it. A `Peek` reads through such a stream and keeps a
  copy of all that it reads; closing it puts the copy back in front, so that whoever reads next sees
  the stream as if nobody had looked. `unread` is the view of both: what has not been handed out for
  good. Reading through a peek leaves it alone, whatever the read comes to (`Peek.unread_read`).
-/

namespace Sluice

/-- Octets to be read again, then whatever `source` yields. -/
structure Replay (σ : Type := Source) where
  held : Octets := []
  source : σ
  deriving DecidableEq, Repr

namespace Replay

variable {σ : Type}

/-- What a reader can still get. -/
def unread [Readable σ] (r : Replay σ) : Octets :=
  r.held ++ Readable.unread r.source

/-- The number of octets waiting to be read again. -/
def buffered (r : Replay σ) : Nat :=
  r.held.length

/-- Reads by `reading` once nothing is held. -/
def readBy (reading : Nat → σ → Polled × σ) (room : Nat) (r : Replay σ) : Polled × Replay σ :=
  match r.held with
  | [] =>
    let (polled, source) := reading room r.source
    (polled, { held := [], source })
  | held => (.ready (held.take room), { r with held := held.drop room })

/-- One attempt to read. -/
def poll (room : Nat) (r : Replay) : Polled × Replay :=
  readBy Source.poll room r

/-- Reads at most `room` octets. The held ones come first and are not merged with the source's. -/
def read [Readable σ] (room : Nat) (r : Replay σ) : Polled × Replay σ :=
  readBy Readable.read room r

theorem readBy_unread [Readable σ] {reading : Nat → σ → Polled × σ}
    (h : ∀ room s,
      (reading room s).1.octets ++ Readable.unread (reading room s).2 = Readable.unread s)
    (room : Nat) (r : Replay σ) :
    (readBy reading room r).1.octets ++ (readBy reading room r).2.unread = r.unread := by
  unfold readBy unread
  split
  · next e => simp [e, h]
  · simp [Polled.octets, ← List.append_assoc]

theorem read_unread [Readable σ] (room : Nat) (r : Replay σ) :
    (r.read room).1.octets ++ (r.read room).2.unread = r.unread :=
  readBy_unread Readable.read_unread room r

instance [Readable σ] : Readable (Replay σ) where
  read := read
  unread := unread
  read_unread := read_unread

end Replay

/-- A look at a stream that will be taken back. -/
structure Peek (σ : Type := Source) where
  replay : Replay σ
  recorded : Array UInt8 := #[]
  deriving DecidableEq, Repr

namespace Peek

variable {σ : Type}

/-- What a reader of the stream can get once the peek is closed. -/
def unread [Readable σ] (p : Peek σ) : Octets :=
  p.recorded.toList ++ p.replay.unread

/-- Starts to look. -/
def start (r : Replay σ) : Peek σ :=
  { replay := r }

/-- The number of octets read through the peek. -/
def consumed (p : Peek σ) : Nat :=
  p.recorded.size

/-- Reads, and keeps a copy. -/
def read [Readable σ] (room : Nat) (p : Peek σ) : Polled × Peek σ :=
  let (polled, replay) := p.replay.read room
  (polled, { replay, recorded := p.recorded ++ polled.octets })

/-- Puts all that was read back in front. -/
def close (p : Peek σ) : Replay σ :=
  { p.replay with held := p.recorded.toList ++ p.replay.held }

variable [Readable σ]

@[simp] theorem unread_start (r : Replay σ) : (start r).unread = r.unread := by
  simp [start, unread]

@[simp] theorem unread_read (room : Nat) (p : Peek σ) : (p.read room).2.unread = p.unread := by
  simp [read, unread, List.append_assoc, Replay.read_unread]

@[simp] theorem unread_close (p : Peek σ) : p.close.unread = p.unread := by
  simp [close, unread, Replay.unread]

/-- To its reader a peek yields what the stream behind it still holds. -/
instance : Readable (Peek σ) where
  read := read
  unread p := p.replay.unread
  read_unread room p := Replay.read_unread room p.replay

end Peek

/-- A stream that can be read but not written to. -/
structure ReadOnly (σ : Type) where
  inner : σ

namespace ReadOnly

variable {σ : Type}

instance [Readable σ] : Readable (ReadOnly σ) where
  read room s :=
    let (polled, inner) := Readable.read room s.inner
    (polled, ⟨inner⟩)
  unread s := Readable.unread s.inner
  read_unread room s := Readable.read_unread room s.inner

/-- Refuses every octet. -/
def write (_ : Octets) (s : ReadOnly σ) : Outcome IoError Nat × ReadOnly σ :=
  (.failed ⟨.brokenPipe, "write on read-only stream"⟩, s)

/-- There is nothing to send on. -/
def flush (s : ReadOnly σ) : Except IoError Unit × ReadOnly σ :=
  (.ok (), s)

/-- The stream stays open. -/
def shutdown (s : ReadOnly σ) : Except IoError Unit × ReadOnly σ :=
  (.ok (), s)

end ReadOnly

end Sluice

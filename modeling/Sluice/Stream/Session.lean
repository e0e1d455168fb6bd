import Sluice.Stream.Readable
import Sluice.Stream.Transport

/-
  A conversation over a stream: reads and writes in order, ended early by a failure or by a far side
  that stays silent. What the stream is like afterwards is part of the answer in each case.
-/

namespace Sluice

/-- A conversation over a stream of type `σ`. -/
def Session (σ ε α : Type) : Type :=
  σ → Outcome ε α × σ

namespace Session

variable {σ τ ε α β : Type}

protected def pure (a : α) : Session σ ε α :=
  fun s => (.done a, s)

protected def bind (p : Session σ ε α) (f : α → Session σ ε β) : Session σ ε β :=
  fun s =>
    match p s with
    | (.done a, s) => f a s
    | (.failed e, s) => (.failed e, s)
    | (.pending, s) => (.pending, s)

instance : Monad (Session σ ε) where
  pure := Session.pure
  bind := Session.bind

/-- Ends the conversation. -/
def fail (e : ε) : Session σ ε α :=
  fun s => (.failed e, s)

/-- The answer to one read, with its error put into words. -/
def ofPolled (word : IoError → ε) : Polled → Outcome ε Octets
  | .ready s => .done s
  | .failed e => .failed (word e)
  | .pending => .pending

/-- Reads at most `room` octets; none at the end of the stream. -/
def read [Readable σ] (word : IoError → ε) (room : Nat) : Session σ ε Octets :=
  fun s =>
    let (polled, s) := Readable.read room s
    (ofPolled word polled, s)

/-- Reads exactly `n` octets. -/
def readExact [Readable σ] (word : IoError → ε) (n : Nat) : Session σ ε Octets :=
  fun s =>
    let (polled, s) := Readable.readExact .earlyEof n s
    (ofPolled word polled, s)

/-- Reads a big-endian number of `width` octets. -/
def readNumber [Readable σ] (word : IoError → ε) (width : Nat) : Session σ ε Nat :=
  fun s =>
    let (polled, s) := Readable.readExact .noOctet width s
    ((ofPolled word polled).map Octets.toNat, s)

/-- Reads one octet. -/
def readOctet [Readable σ] (word : IoError → ε) : Session σ ε UInt8 := do
  return UInt8.ofNat (← readNumber word 1)

instance : Readable Transport where
  read room t :=
    let (polled, source) := t.source.read room
    (polled, { t with source })
  unread t := t.source.unread
  read_unread room t := Source.read_unread room t.source

/-- Writes octets to the far side, all of them. -/
def send (word : IoError → ε) (data : Octets) : Session Transport ε Unit :=
  fun t =>
    let (outcome, sink) := t.sink.writeAll data
    (outcome.mapError word, { t with sink })

end Session

end Sluice

import Sluice.Log.Basic
import Sluice.Stream.Transport

/-
  What happens while a relay runs, in the order in which it happens, and which of it is logged.
-/

namespace Sluice

/-- The two directions of a relay. -/
inductive Direction where
  /-- From the client to the far side. -/
  | up
  /-- From the far side to the client. -/
  | down
  deriving DecidableEq, Repr

/-- The two connections of a relay. -/
inductive Side where
  | client
  | remote
  deriving DecidableEq, Repr

namespace Direction

def text : Direction → String
  | up => "client->upstream"
  | down => "upstream->client"

/-- Where octets of this direction come from. -/
def source : Direction → Side
  | up => .client
  | down => .remote

/-- Where octets of this direction go to. -/
def target : Direction → Side
  | up => .remote
  | down => .client

end Direction

/-- Something that happened in a relay. -/
inductive RelayEvent where
  | checkedOut (d : Direction)
  /-- One attempt to read from the source. -/
  | read (d : Direction)
  /-- One attempt to write to the target. -/
  | wrote (d : Direction)
  | gaveBack (d : Direction)
  /-- A half-close of one side, and what went wrong with it. -/
  | closed (d : Direction) (half : HalfClose) (failure : Option IoError)
  | finished (d : Direction) (copied : Nat) (failure : Option IoError)
  | forced
  deriving DecidableEq, Repr

/-- The line that an event leaves in the log, if it leaves one. -/
def RelayEvent.line : RelayEvent → Option LogEvent
  | closed d half (some e) =>
    let message := match half with
      | .write => "close_write failed"
      | .read => "close_read failed"
    some ⟨.relay, .debug, message, [("direction", .text d.text), ("error", .text e.message)]⟩
  | finished d copied failure =>
    some ⟨.relay, .debug, "pump finished",
      [("direction", .text d.text), ("bytes", .number copied), ("ok", .flag failure.isNone)]⟩
  | forced => some ⟨.relay, .debug, "force-closing relay", []⟩
  | _ => none

end Sluice

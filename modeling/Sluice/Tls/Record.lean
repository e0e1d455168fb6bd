import Sluice.Tls.ClientHello
import Sluice.Sniff.Error
import Sluice.Stream.Replay
import Sluice.Stream.Session

/-
  The record layer: a record is a content type, a version, the length of the fragment and the
  fragment. Fragments of handshake records are put together until they hold the first handshake
  message. No record may be empty and no message may be longer than `maxMessage`, so this ends.
-/

namespace Sluice.Tls

open Session

/-- The content type of handshake records. -/
def handshakeRecord : UInt8 := 0x16

/-- The length of what stands in front of a fragment. -/
def recordHeaderLength : Nat := 5

/-- The length of what stands in front of a handshake body. -/
def messageHeaderLength : Nat := 4

/-- The longest fragment: 2^14 octets, and 2048 that protection may add. -/
def maxFragment : Nat := 16384 + 2048

/-- The longest handshake message, its header included. -/
def maxMessage : Nat := 64 * 1024

/-- The length of the message that starts like this, its header included. -/
def messageLength (front : Array UInt8) : Nat :=
  messageHeaderLength + Octets.toNat [front.getD 1 0, front.getD 2 0, front.getD 3 0]

/-- The length that a record header announces. -/
def fragmentLength (header : Octets) : Except Fault { n : Nat // 0 < n } :=
  match header with
  | [type, _, _, high, low] =>
    let length := Octets.toNat [high, low]
    if type ≠ handshakeRecord then .error (.contentType type)
    else if h : length = 0 ∨ maxFragment < length then .error (.recordLength length)
    else .ok ⟨length, by omega⟩
  | _ => .error .malformed

variable {σ : Type} [Readable σ]

/-- Ends a conversation because of what the client said. -/
def refuse {α : Type} (f : Fault) : Session σ SniffError α :=
  fail (.clientHello f.message)

/-- Reads records until the message is complete; `front` are the `held` octets already there. -/
def messageFrom (front : Array UInt8) (held : Nat) : Session σ SniffError Octets := do
  let header ← readExact .ofRead recordHeaderLength
  match fragmentLength header with
  | .error f => refuse f
  | .ok ⟨length, _⟩ =>
    let fragment ← readExact .ofRead length
    let front := front ++ fragment
    if held + length < messageHeaderLength then messageFrom front (held + length)
    else
      let total := messageLength front
      if maxMessage < total then refuse (.tooLarge total)
      else if held + length < total then messageFrom front (held + length)
      else return (front.extract 0 total).toList
termination_by maxMessage - held
decreasing_by
  all_goals simp only [maxMessage, messageHeaderLength] at *; omega

/-- Reads the first handshake message. -/
def readMessage : Session σ SniffError Octets :=
  messageFrom #[] 0

end Sluice.Tls

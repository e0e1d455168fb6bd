import Sluice.Octets.Basic

/-
  Copy buffers and the pool that keeps idle ones for reuse. A buffer is blank when it is new and is
  not cleaned when it is handed on; `serial` tells buffers apart. A pool allocates only when no
  buffer is idle.
-/

namespace Sluice

/-- The number of octets in a buffer. -/
def Buffer.size : Nat := 65536

/-- A copy buffer. -/
structure Buffer where
  octets : Octets
  /-- How many buffers the pool had made before this one. -/
  serial : Nat
  length_octets : octets.length = Buffer.size
  deriving DecidableEq, Repr

namespace Buffer

/-- As many octets as a buffer holds, all the same. -/
def uniform (b : UInt8) : Octets :=
  List.replicate size b

/-- What a new buffer holds. -/
def blankOctets : Octets :=
  uniform 0

/-- A new buffer. -/
def blank (serial : Nat) : Buffer :=
  { octets := blankOctets, serial, length_octets := List.length_replicate }

/-- The buffer with this octet all over it. -/
def fill (mark : UInt8) (b : Buffer) : Buffer :=
  { b with octets := uniform mark, length_octets := List.length_replicate }

/-- Puts octets at the front of the buffer, over what was there. -/
def store (data : Octets) (b : Buffer) : Buffer :=
  let kept := data.take size
  { b with
    octets := kept ++ b.octets.drop kept.length
    length_octets := by
      have := b.length_octets
      simp only [List.length_append, List.length_drop, kept, List.length_take]
      omega }

/-- The first octets of the buffer. -/
def front (n : Nat) (b : Buffer) : Octets :=
  b.octets.take n

theorem front_store {data : Octets} (h : data.length ≤ size) (b : Buffer) :
    (b.store data).front data.length = data := by
  simp [front, store, List.take_of_length_le h]

end Buffer

/-- Buffers lent out and buffers kept for reuse. -/
structure Pool where
  /-- The most idle buffers that are kept. -/
  maxIdle : Nat := 1024
  /-- The idle buffers, the last one given back first. -/
  idle : List Buffer := []
  /-- Buffers made because none was idle. -/
  allocated : Nat := 0
  /-- Buffers handed out a second time. -/
  reused : Nat := 0
  /-- Buffers lent out. -/
  inUse : Nat := 0
  deriving DecidableEq, Repr

namespace Pool

/-- How often a buffer was asked for. -/
def checkouts (p : Pool) : Nat :=
  p.allocated + p.reused

/-- Lends a buffer: an idle one, or a new one if there is none. -/
def checkout (p : Pool) : Buffer × Pool :=
  match p.idle with
  | [] =>
    (Buffer.blank p.allocated,
      { p with allocated := p.allocated + 1, inUse := p.inUse + 1 })
  | buffer :: idle =>
    (buffer, { p with idle, reused := p.reused + 1, inUse := p.inUse + 1 })

/-- Takes a buffer back; it is kept while there is room for idle ones. -/
def giveBack (buffer : Buffer) (p : Pool) : Pool :=
  { p with
    inUse := p.inUse - 1
    idle := if p.idle.length < p.maxIdle then buffer :: p.idle else p.idle }

end Pool

end Sluice

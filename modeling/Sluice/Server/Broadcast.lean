/-
  A broadcast that remembers only the last request. A receiver counts the requests it has seen; one
  that fell behind is told how many it missed, and then gets the last one. A waiting future is over
  once it has seen a request, and stays over. Receivers do not share anything, so what one sees does
  not depend on what the others do.
-/

namespace Sluice

/-- A place in the sequence of requests. -/
structure Receiver where
  /-- The number of the next request to see. -/
  next : Nat
  deriving DecidableEq, Repr

/-- What a receiver finds. -/
inductive Received where
  | request
  | empty
  /-- So many requests were overwritten before they were seen. -/
  | lagged (missed : Nat)
  deriving DecidableEq, Repr

/-- Looks for a request, `sent` of which have been made. -/
def Receiver.receive (sent : Nat) (r : Receiver) : Received × Receiver :=
  if sent ≤ r.next then (.empty, r)
  else if sent = r.next + 1 then (.request, { next := sent })
  else (.lagged (sent - 1 - r.next), { next := sent - 1 })

/-- What a wait for the next request comes to. -/
inductive Woken where
  | request
  /-- So many requests were overwritten before they were seen. -/
  | lagged (missed : Nat)
  /-- Nobody is left who could make a request. -/
  | closed
  deriving DecidableEq, Repr

/-- What wakes a receiver that waits for a request; nothing so far if absent. A request that was
made is seen first, even if nobody is left who could make another. -/
def Receiver.wait (sent : Nat) (isOpen : Bool) (r : Receiver) : Option (Woken × Receiver) :=
  match r.receive sent with
  | (.request, r) => some (.request, r)
  | (.lagged missed, r) => some (.lagged missed, r)
  | (.empty, r) => if isOpen then none else some (.closed, r)

/-- A future that waits for the next request. -/
structure Awaited where
  receiver : Receiver
  ready : Bool := false
  deriving DecidableEq, Repr

/-- Is the wait over? `sent` requests have been made. -/
def Awaited.poll (sent : Nat) (a : Awaited) : Bool × Awaited :=
  let ready := a.ready || a.receiver.next < sent
  (ready, { a with ready })

/-- A broadcast and all that listen to it. -/
structure Broadcast where
  /-- How many requests have been made. -/
  sent : Nat := 0
  /-- Is there anybody left who could make a request? -/
  isOpen : Bool := true
  receivers : Array Receiver := #[]
  futures : Array Awaited := #[]
  deriving DecidableEq, Repr

namespace Broadcast

/-- One thing done with a broadcast. -/
inductive Step where
  | subscribe
  | trigger
  /-- Start to wait for the next request. -/
  | await
  | receive (receiver : Nat)
  | poll (future : Nat)
  deriving DecidableEq, Repr

/-- What a step answers. -/
inductive Answer where
  | subscribed (receiver : Nat)
  | triggered
  | awaited (future : Nat)
  | received (found : Received)
  | polled (ready : Bool)
  /-- There is no such receiver or future. -/
  | unknown
  deriving DecidableEq, Repr

/-- A receiver that sees the next request. -/
def newReceiver (b : Broadcast) : Receiver :=
  { next := b.sent }

/-- Does one thing. -/
def step (b : Broadcast) : Step → Answer × Broadcast
  | .subscribe =>
    (.subscribed b.receivers.size, { b with receivers := b.receivers.push b.newReceiver })
  | .trigger => (.triggered, { b with sent := b.sent + 1 })
  | .await =>
    (.awaited b.futures.size, { b with futures := b.futures.push { receiver := b.newReceiver } })
  | .receive i =>
    match b.receivers[i]? with
    | none => (.unknown, b)
    | some r =>
      let (found, r) := r.receive b.sent
      (.received found, { b with receivers := b.receivers.setIfInBounds i r })
  | .poll i =>
    match b.futures[i]? with
    | none => (.unknown, b)
    | some a =>
      let (ready, a) := a.poll b.sent
      (.polled ready, { b with futures := b.futures.setIfInBounds i a })

/-- Does things in order. -/
def run (b : Broadcast) : List Step → List Answer × Broadcast
  | [] => ([], b)
  | s :: steps =>
    let (answer, b) := b.step s
    let (answers, b) := b.run steps
    (answer :: answers, b)

end Broadcast

end Sluice

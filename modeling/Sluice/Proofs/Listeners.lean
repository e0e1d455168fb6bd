import Mathlib.Algebra.GroupWithZero.Nat
import Mathlib.Data.List.Basic
import Sluice.Server.Broadcast

/-
  Those who listen to a broadcast, which are the receivers and the futures. The broadcast keeps one
  request only, so a receiver that is slow does not see them all; but it is told how many it missed,
  and so every request is accounted for: it was seen, it was reported as missed, or it is still to
  come. What a step means to one receiver is told by the number of requests that are still to come
  (`Reaches`, `reaches_step`), and a run adds the steps up (`run_unseen`). Listeners have nothing
  but the requests in common, so no step of one of them is noticed by another (`told_concerns`).
-/

namespace Sluice

/-- How many requests an answer accounts for: the one that was seen, or those that were missed. -/
def Received.accounts : Received → Nat
  | request => 1
  | empty => 0
  | lagged missed => missed

namespace Receiver

/-- All that a receiver can find, by how many requests are still to come before and after. -/
inductive Finds : (unseen : Nat) → Received → (left : Nat) → Prop where
  | nothing : Finds 0 .empty 0
  | last : Finds 1 .request 0
  /-- All but the last were overwritten. -/
  | behind (missed : Nat) : Finds (missed + 2) (.lagged (missed + 1)) 1

variable {sent unseen left : Nat} {r : Receiver} {found : Received}

theorem finds_receive (here : r.next + unseen = sent) :
    ∃ left, Finds unseen (r.receive sent).1 left ∧ (r.receive sent).2.next + left = sent := by
  match unseen, here with
  | 0, here =>
    have none : r.receive sent = (.empty, r) := if_pos (by omega)
    rw [none]
    exact ⟨0, .nothing, here⟩
  | 1, here =>
    have one : r.receive sent = (.request, { next := sent }) :=
      (if_neg (by omega)).trans (if_pos here.symm)
    rw [one]
    exact ⟨0, .last, rfl⟩
  | missed + 2, here =>
    have many : r.receive sent = (.lagged (sent - 1 - r.next), { next := sent - 1 }) :=
      (if_neg (by omega)).trans (if_neg (by omega))
    have overwritten : sent - 1 - r.next = missed + 1 := by omega
    rw [many, overwritten]
    exact ⟨1, .behind missed, by dsimp only; omega⟩

/-- No request is lost sight of. -/
theorem Finds.accounts (finds : Finds unseen found left) : unseen = found.accounts + left := by
  cases finds with
  | nothing => rfl
  | last => rfl
  | behind missed => rfl

theorem Finds.empty_iff (finds : Finds unseen found left) : found = .empty ↔ unseen = 0 := by
  cases finds <;> simp

end Receiver

namespace Broadcast

/-- One who listens to a broadcast. -/
inductive Listener where
  | receiver (number : Nat)
  | future (number : Nat)
  deriving DecidableEq, Repr

/-- Who takes a step, if it is one who listens. -/
def Step.listener? : Step → Option Listener
  | .receive i => some (.receiver i)
  | .poll k => some (.future k)
  | _ => none

/-- Is this a step of the listener, or of none? -/
def Step.concerns (l : Listener) (s : Step) : Bool :=
  s.listener? = none || s.listener? = some l

/-- What is done and what is answered, in order. -/
def history (b : Broadcast) (steps : List Step) : List (Step × Answer) :=
  steps.zip (b.run steps).1

/-- The answers that a listener got, in order. -/
def told (l : Listener) (past : List (Step × Answer)) : List Answer :=
  (past.filter fun (s, _) => s.listener? = some l).map Prod.snd

/-- How many requests an answer accounts for. -/
def Answer.accounts : Answer → Nat
  | .received found => found.accounts
  | _ => 0

/-- How many requests a listener has seen, or was told that it missed. -/
def accounted (l : Listener) (past : List (Step × Answer)) : Nat :=
  ((told l past).map Answer.accounts).sum

variable {b b' b'' : Broadcast} {s : Step} {a : Answer} {l other : Listener} {i k n : Nat}
  {past : List (Step × Answer)}

/-! ## Runs -/

theorem run_append (b : Broadcast) (before after : List Step) :
    (b.run (before ++ after)).2 = ((b.run before).2.run after).2 := by
  induction before generalizing b with
  | nil => rfl
  | cons s before ih => exact ih _

theorem run_cons (b : Broadcast) (s : Step) (steps : List Step) :
    b.run (s :: steps) = ((b.step s).1 :: ((b.step s).2.run steps).1, ((b.step s).2.run steps).2) :=
  rfl

theorem history_cons (b : Broadcast) (s : Step) (steps : List Step) :
    b.history (s :: steps) = (s, (b.step s).1) :: (b.step s).2.history steps :=
  rfl

theorem told_own (own : s.listener? = some l) : told l ((s, a) :: past) = a :: told l past := by
  simp [told, own]

theorem told_other (other : s.listener? ≠ some l) : told l ((s, a) :: past) = told l past := by
  simp [told, other]

theorem accounted_own (own : s.listener? = some l) :
    accounted l ((s, a) :: past) = a.accounts + accounted l past := by
  rw [accounted, told_own own]
  rfl

theorem accounted_other (other : s.listener? ≠ some l) :
    accounted l ((s, a) :: past) = accounted l past := by
  rw [accounted, told_other other]
  rfl

/-- As many listen as have subscribed or started to wait. -/
theorem sizes_run (b : Broadcast) (steps : List Step) :
    (b.run steps).2.receivers.size = b.receivers.size + steps.count .subscribe ∧
      (b.run steps).2.futures.size = b.futures.size + steps.count .await := by
  induction steps generalizing b with
  | nil => exact ⟨rfl, rfl⟩
  | cons s steps ih =>
    obtain ⟨receivers, futures⟩ := ih (b.step s).2
    rw [run_cons, receivers, futures]
    cases s with
    | subscribe => simp [step]; omega
    | trigger => simp [step]
    | await => simp [step]; omega
    | receive i => cases h : b.receivers[i]? <;> simp [step, h]
    | poll k => cases h : b.futures[k]? <;> simp [step, h]

/-! ## What a listener cannot tell apart -/

/-- Two broadcasts that are the same to a listener: whatever the others have seen, as much was
requested, as many listen, and its own place is the same. -/
structure Alike (l : Listener) (b b' : Broadcast) : Prop where
  sent : b.sent = b'.sent
  receivers : b.receivers.size = b'.receivers.size
  futures : b.futures.size = b'.futures.size
  receiver : ∀ i, l = .receiver i → b.receivers[i]? = b'.receivers[i]?
  future : ∀ k, l = .future k → b.futures[k]? = b'.futures[k]?

theorem alike_refl (l : Listener) (b : Broadcast) : Alike l b b :=
  ⟨rfl, rfl, rfl, fun _ _ => rfl, fun _ _ => rfl⟩

theorem Alike.symm (h : Alike l b b') : Alike l b' b :=
  ⟨h.sent.symm, h.receivers.symm, h.futures.symm, fun i mine => (h.receiver i mine).symm,
    fun k mine => (h.future k mine).symm⟩

theorem Alike.trans (h : Alike l b b') (h' : Alike l b' b'') : Alike l b b'' :=
  ⟨h.sent.trans h'.sent, h.receivers.trans h'.receivers, h.futures.trans h'.futures,
    fun i mine => (h.receiver i mine).trans (h'.receiver i mine),
    fun k mine => (h.future k mine).trans (h'.future k mine)⟩

/-- A listener does not notice what another one does. -/
theorem alike_step_other (own : s.listener? = some other) (differ : other ≠ l) :
    Alike l b (b.step s).2 := by
  cases s with
  | subscribe => cases own
  | trigger => cases own
  | await => cases own
  | receive j =>
    cases there : b.receivers[j]? with
    | none =>
      rw [step, there]
      exact alike_refl l b
    | some r =>
      rw [step, there]
      refine ⟨rfl, (Array.size_setIfInBounds ..).symm, rfl, fun i mine => ?_, fun _ _ => rfl⟩
      have apart : j ≠ i := by
        rintro rfl
        exact differ ((Option.some.inj own).symm.trans mine.symm)
      exact (Array.getElem?_setIfInBounds_ne apart).symm
  | poll j =>
    cases there : b.futures[j]? with
    | none =>
      rw [step, there]
      exact alike_refl l b
    | some a =>
      rw [step, there]
      refine ⟨rfl, rfl, (Array.size_setIfInBounds ..).symm, fun _ _ => rfl, fun k mine => ?_⟩
      have apart : j ≠ k := by
        rintro rfl
        exact differ ((Option.some.inj own).symm.trans mine.symm)
      exact (Array.getElem?_setIfInBounds_ne apart).symm

/-- A step of the listener or of none does the same to broadcasts that are the same to it. -/
theorem alike_step (alike : Alike l b b') (concerns : s.concerns l = true) :
    (b.step s).1 = (b'.step s).1 ∧ Alike l (b.step s).2 (b'.step s).2 := by
  obtain ⟨sent, receivers, futures, receiver, future⟩ := alike
  have fresh : b.newReceiver = b'.newReceiver := congrArg Receiver.mk sent
  cases s with
  | subscribe =>
    refine ⟨congrArg Answer.subscribed receivers, sent, ?_, futures, fun i mine => ?_, future⟩
    · simp [step, receivers]
    · simp only [step, Array.getElem?_push, receivers, receiver i mine, fresh]
  | trigger => exact ⟨rfl, congrArg (· + 1) sent, receivers, futures, receiver, future⟩
  | await =>
    refine ⟨congrArg Answer.awaited futures, sent, receivers, ?_, receiver, fun k mine => ?_⟩
    · simp [step, futures]
    · simp only [step, Array.getElem?_push, futures, future k mine, fresh]
  | receive j =>
    have mine : Listener.receiver j = l := by simpa [Step.concerns, Step.listener?] using concerns
    have same := receiver j mine.symm
    cases there : b'.receivers[j]? with
    | none =>
      simp only [step, same, there]
      exact ⟨trivial, sent, receivers, futures, receiver, future⟩
    | some r =>
      simp only [step, same, there, sent]
      refine ⟨trivial, rfl, by simpa using receivers, futures, fun i _ => ?_, future⟩
      obtain rfl : j = i := by simp_all
      rw [Array.getElem?_setIfInBounds_self, Array.getElem?_setIfInBounds_self, receivers]
  | poll j =>
    have mine : Listener.future j = l := by simpa [Step.concerns, Step.listener?] using concerns
    have same := future j mine.symm
    cases there : b'.futures[j]? with
    | none =>
      simp only [step, same, there]
      exact ⟨trivial, sent, receivers, futures, receiver, future⟩
    | some a =>
      simp only [step, same, there, sent]
      refine ⟨trivial, rfl, receivers, by simpa using futures, receiver, fun k _ => ?_⟩
      obtain rfl : j = k := by simp_all
      rw [Array.getElem?_setIfInBounds_self, Array.getElem?_setIfInBounds_self, futures]

/-- A listener is told the same if all that others who listen do is left out. -/
theorem told_concerns (alike : Alike l b b') (steps : List Step) :
    told l (b.history steps) = told l (b'.history (steps.filter (Step.concerns l))) := by
  induction steps generalizing b b' with
  | nil => rfl
  | cons s steps ih =>
    rw [history_cons]
    by_cases concerns : s.concerns l = true
    · obtain ⟨answer, next⟩ := alike_step alike concerns
      rw [List.filter_cons_of_pos concerns, history_cons, answer]
      by_cases own : s.listener? = some l
      · rw [told_own own, told_own own, ih next]
      · rw [told_other own, told_other own, ih next]
    · rw [List.filter_cons_of_neg concerns]
      simp only [Step.concerns, Bool.or_eq_true, decide_eq_true_eq, not_or] at concerns
      obtain ⟨listens, differ⟩ := concerns
      obtain ⟨other, own⟩ := Option.ne_none_iff_exists'.1 listens
      have unnoticed : Alike l b (b.step s).2 :=
        alike_step_other own fun same => differ (own.trans (congrArg some same))
      rw [told_other differ, ih (unnoticed.symm.trans alike)]

/-! ## Receivers -/

/-- So many requests are still to come for a receiver. -/
def Unseen (b : Broadcast) (i n : Nat) : Prop :=
  ∃ r, b.receivers[i]? = some r ∧ r.next + n = b.sent

/-- All that a step can mean to a receiver, by how many requests are still to come for it before and
after. -/
inductive Reaches (i : Nat) : (unseen : Nat) → Step → Answer → (left : Nat) → Prop where
  | request {unseen} : Reaches i unseen .trigger .triggered (unseen + 1)
  | answer {unseen found left} : Receiver.Finds unseen found left →
      Reaches i unseen (.receive i) (.received found) left
  | other {unseen s a} : s ≠ .trigger → s.listener? ≠ some (.receiver i) →
      Reaches i unseen s a unseen

theorem unseen_subscribe (b : Broadcast) : Unseen (b.step .subscribe).2 b.receivers.size 0 :=
  ⟨b.newReceiver, Array.getElem?_push_size, rfl⟩

theorem Unseen.alike (h : Unseen b i n) (alike : Alike (.receiver i) b b') : Unseen b' i n := by
  obtain ⟨r, here, unseen⟩ := h
  exact ⟨r, (alike.receiver i rfl).symm.trans here, unseen.trans alike.sent⟩

theorem reaches_step (h : Unseen b i n) (s : Step) :
    ∃ left, Reaches i n s (b.step s).1 left ∧ Unseen (b.step s).2 i left := by
  obtain ⟨r, here, unseen⟩ := id h
  obtain ⟨inside, -⟩ := Array.getElem?_eq_some_iff.1 here
  cases s with
  | subscribe =>
    refine ⟨n, .other nofun nofun, r, ?_, unseen⟩
    exact (Array.getElem?_push_lt inside).trans (Array.getElem?_eq_getElem inside ▸ here)
  | trigger => exact ⟨n + 1, .request, r, here, congrArg (· + 1) unseen⟩
  | await => exact ⟨n, .other nofun nofun, r, here, unseen⟩
  | receive j =>
    by_cases own : j = i
    · obtain rfl := own
      obtain ⟨left, finds, next⟩ := Receiver.finds_receive unseen
      rw [step, here]
      exact ⟨left, .answer finds, _, Array.getElem?_setIfInBounds_self_of_lt inside, next⟩
    · have other : Listener.receiver j ≠ .receiver i := by simpa using own
      exact ⟨n, .other nofun (by simpa [Step.listener?] using own),
        h.alike (alike_step_other rfl other)⟩
  | poll k => exact ⟨n, .other nofun nofun, h.alike (alike_step_other rfl nofun)⟩

/-- What a receiver finds at its next look. -/
theorem receive_unseen (h : Unseen b i n) : ∃ found left,
    (b.step (.receive i)).1 = .received found ∧ Receiver.Finds n found left ∧
      Unseen (b.step (.receive i)).2 i left := by
  obtain ⟨left, reaches, behind⟩ := reaches_step h (.receive i)
  generalize (b.step (.receive i)).1 = answer at reaches ⊢
  cases reaches with
  | answer finds => exact ⟨_, left, rfl, finds, behind⟩
  | other _ differ => exact absurd rfl differ

/-- In a run, the requests that were still to come for a receiver and those that are made are
accounted for, or they are still to come. -/
theorem run_unseen (h : Unseen b i n) (steps : List Step) : ∃ left, Unseen (b.run steps).2 i left ∧
    n + steps.count .trigger = accounted (.receiver i) (b.history steps) + left := by
  induction steps generalizing b n with
  | nil => exact ⟨n, h, (Nat.zero_add n).symm⟩
  | cons s steps ih =>
    obtain ⟨next, reaches, behind⟩ := reaches_step h s
    obtain ⟨left, last, sum⟩ := ih behind
    refine ⟨left, last, ?_⟩
    rw [history_cons]
    generalize (b.step s).1 = answer at reaches ⊢
    cases reaches with
    | request =>
      have silent : Step.trigger.listener? ≠ some (.receiver i) := nofun
      rw [List.count_cons_self, accounted_other silent]
      omega
    | answer finds =>
      have accounts := finds.accounts
      have differ : Step.receive i ≠ .trigger := nofun
      rw [List.count_cons_of_ne differ, accounted_own rfl]
      dsimp only [Answer.accounts]
      omega
    | other quiet differ =>
      rw [List.count_cons_of_ne quiet, accounted_other differ]
      exact sum

/-- What a receiver is told while no more requests are made and one at most is still to come. -/
theorem told_quiet (h : Unseen b i n) (steps : List Step) (few : n ≤ 1) (quiet : .trigger ∉ steps) :
    told (.receiver i) (b.history steps) =
      (List.replicate n (Answer.received .request) ++
        List.replicate (steps.count (.receive i)) (Answer.received .empty)).take
          (steps.count (.receive i)) := by
  induction steps generalizing b n with
  | nil => rfl
  | cons s steps ih =>
    obtain ⟨next, reaches, behind⟩ := reaches_step h s
    have quiet' : .trigger ∉ steps := fun mem => quiet (List.mem_cons_of_mem s mem)
    rw [history_cons]
    generalize (b.step s).1 = answer at reaches ⊢
    cases reaches with
    | request => exact absurd List.mem_cons_self quiet
    | answer finds =>
      rw [told_own rfl, List.count_cons_self]
      cases finds with
      | nothing =>
        rw [ih behind few quiet']
        simp [List.replicate_succ, List.take_replicate]
      | last =>
        rw [ih behind (Nat.zero_le 1) quiet']
        simp [List.take_replicate]
      | behind missed => omega
    | other _ differ =>
      have skipped : s ≠ .receive i := fun own => differ (congrArg Step.listener? own)
      rw [told_other differ, ih behind few quiet', List.count_cons_of_ne skipped]

/-! ## Futures -/

/-- A future waits since so many requests. -/
def Waiting (b : Broadcast) (k n : Nat) : Prop :=
  ∃ a, b.futures[k]? = some a ∧ a.receiver.next + n = b.sent ∧ (a.ready = true → 0 < n)

theorem waiting_await (b : Broadcast) : Waiting (b.step .await).2 b.futures.size 0 :=
  ⟨{ receiver := b.newReceiver }, Array.getElem?_push_size, rfl, nofun⟩

theorem Waiting.alike (h : Waiting b k n) (alike : Alike (.future k) b b') : Waiting b' k n := by
  obtain ⟨a, here, since, ready⟩ := h
  exact ⟨a, (alike.future k rfl).symm.trans here, since.trans alike.sent, ready⟩

/-- A future is ready once a request was made. -/
theorem poll_waiting {a : Awaited} {sent : Nat} (since : a.receiver.next + n = sent)
    (ready : a.ready = true → 0 < n) : (a.poll sent).1 = decide (0 < n) := by
  have later : a.receiver.next < sent ↔ 0 < n := by omega
  cases finished : a.ready with
  | false => simp [Awaited.poll, finished, later]
  | true => simp [Awaited.poll, finished, ready finished]

theorem waiting_step (h : Waiting b k n) (s : Step) :
    Waiting (b.step s).2 k (n + [s].count .trigger) ∧
      (s = .poll k → (b.step s).1 = .polled (decide (0 < n))) := by
  obtain ⟨a, here, since, ready⟩ := id h
  obtain ⟨inside, -⟩ := Array.getElem?_eq_some_iff.1 here
  cases s with
  | subscribe => exact ⟨h, nofun⟩
  | trigger => exact ⟨⟨a, here, congrArg (· + 1) since, fun _ => Nat.succ_pos n⟩, nofun⟩
  | await =>
    refine ⟨⟨a, ?_, since, ready⟩, nofun⟩
    exact (Array.getElem?_push_lt inside).trans (Array.getElem?_eq_getElem inside ▸ here)
  | receive i => exact ⟨h.alike (alike_step_other rfl nofun), nofun⟩
  | poll j =>
    by_cases own : j = k
    · obtain rfl := own
      have finished := poll_waiting since ready
      rw [step, here]
      refine ⟨⟨_, Array.getElem?_setIfInBounds_self_of_lt inside, since, fun now => ?_⟩,
        fun _ => ?_⟩
      · exact of_decide_eq_true (finished.symm.trans now)
      · exact congrArg Answer.polled finished
    · have other : Listener.future j ≠ .future k := by simpa using own
      exact ⟨h.alike (alike_step_other rfl other), fun same => absurd (Step.poll.inj same) own⟩

theorem run_waiting (h : Waiting b k n) (steps : List Step) :
    Waiting (b.run steps).2 k (n + steps.count .trigger) := by
  induction steps generalizing b n with
  | nil => exact h
  | cons s steps ih =>
    have next := ih (waiting_step h s).1
    rwa [Nat.add_assoc, ← List.count_append, List.singleton_append] at next

/-! ## Every listener -/

/-- For everything that is done with a broadcast, in whatever order: no request is lost, and none is
made up. A receiver has seen, or was told that it missed, no more requests than were made since it
subscribed; it finds nothing just if these are all; and once it was told that it missed some, it
gets the one that is left and then nothing, as long as no more requests are made. A future is over
just if a request was made since it began to wait, and it stays over. What a listener is told
depends on the requests, on who else subscribes or begins to wait, and on its own steps, but not on
the steps of any other listener. -/
theorem run_listens :
    let start : Broadcast := {}
    (∀ before after : List Step,
      let i := before.count .subscribe
      let joined := (start.run (before ++ [.subscribe])).2
      let b := (joined.run after).2
      let heard := accounted (.receiver i) (joined.history after)
      ((start.run before).2.step .subscribe).1 = .subscribed i ∧
      heard ≤ after.count .trigger ∧
      (∃ found, (b.step (.receive i)).1 = .received found) ∧
      ((b.step (.receive i)).1 = .received .empty ↔ heard = after.count .trigger) ∧
      ∀ missed later, (b.step (.receive i)).1 = .received (.lagged missed) → .trigger ∉ later →
        let looks := later.count (.receive i)
        told (.receiver i) ((b.step (.receive i)).2.history later) =
          (.received .request :: List.replicate looks (.received .empty)).take looks) ∧
    (∀ before after : List Step,
      let k := before.count .await
      let b := (start.run (before ++ .await :: after)).2
      ((start.run before).2.step .await).1 = .awaited k ∧
      (b.step (.poll k)).1 = .polled (decide (.trigger ∈ after)) ∧
      ∀ later, (b.step (.poll k)).1 = .polled true →
        ((b.run (.poll k :: later)).2.step (.poll k)).1 = .polled true) ∧
    ∀ (l : Listener) (steps others : List Step),
      steps.filter (Step.concerns l) = others.filter (Step.concerns l) →
        told l (start.history steps) = told l (start.history others) := by
  intro start
  refine ⟨fun before after => ?_, fun before after => ?_, fun l steps others same => ?_⟩
  · intro i joined b heard
    have size : (start.run before).2.receivers.size = i := by
      rw [(sizes_run start before).1]
      exact Nat.zero_add _
    have fresh : Unseen joined i 0 := by
      rw [← size]
      show Unseen (start.run (before ++ [.subscribe])).2 _ 0
      rw [run_append]
      exact unseen_subscribe _
    obtain ⟨n, unseen, sum⟩ := run_unseen fresh after
    rw [Nat.zero_add] at sum
    obtain ⟨found, left, answer, finds, behind⟩ := receive_unseen unseen
    refine ⟨congrArg Answer.subscribed size, by omega, ⟨found, answer⟩, ?_, fun missed later => ?_⟩
    · rw [answer, Answer.received.injEq, finds.empty_iff]
      omega
    · intro lagged quiet
      obtain rfl : found = .lagged missed := Answer.received.inj (answer.symm.trans lagged)
      cases finds with
      | behind missed => exact told_quiet behind later (Nat.le_refl 1) quiet
  · intro k b
    have size : (start.run before).2.futures.size = k := by
      rw [(sizes_run start before).2]
      exact Nat.zero_add _
    have waits (after : List Step) :
        Waiting (start.run (before ++ .await :: after)).2 k (after.count .trigger) := by
      have run := run_waiting (waiting_await (start.run before).2) after
      rw [size, Nat.zero_add] at run
      rwa [run_append]
    have ready (after : List Step) : ((start.run (before ++ .await :: after)).2.step (.poll k)).1 =
        .polled (decide (.trigger ∈ after)) := by
      rw [(waiting_step (waits after) (.poll k)).2 rfl]
      exact congrArg Answer.polled (decide_eq_decide.2 List.count_pos_iff)
    refine ⟨congrArg Answer.awaited size, ready after, fun later finished => ?_⟩
    have requested : .trigger ∈ after :=
      of_decide_eq_true (Answer.polled.inj ((ready after).symm.trans finished))
    have still := ready (after ++ .poll k :: later)
    rw [← List.cons_append, ← List.append_assoc, run_append] at still
    rw [still, decide_eq_true (List.mem_append_left _ requested)]
  · rw [told_concerns (alike_refl l start) steps, told_concerns (alike_refl l start) others, same]

/-- Two receivers and a future. One receiver looks after the first of three requests; the other one
has missed two by then, gets the last, and finds nothing more. -/
theorem run_listens_lagging :
    let joined := (run {} ([.subscribe] ++ [.subscribe])).2
    let b := (joined.run [.trigger, .receive 0, .trigger, .trigger]).2
    let waiting := (run {} ([.subscribe] ++ .await :: [.trigger, .receive 0])).2
    ((b.step (.receive 1)).1 = .received (.lagged 2) ∧
      told (.receiver 1) ((b.step (.receive 1)).2.history [.receive 1, .receive 0, .receive 1]) =
        [.received .request, .received .empty]) ∧
    ((waiting.step (.poll 0)).1 = .polled true ∧
      ((waiting.run [.poll 0, .receive 0]).2.step (.poll 0)).1 = .polled true) ∧
    told (.receiver 0) (history {} [.subscribe, .subscribe, .trigger, .receive 1, .receive 0]) =
      told (.receiver 0) (history {} [.subscribe, .subscribe, .trigger, .receive 0]) := by
  obtain ⟨receivers, futures, apart⟩ := run_listens
  obtain ⟨-, -, -, -, lagging⟩ :=
    receivers [.subscribe] [.trigger, .receive 0, .trigger, .trigger]
  obtain ⟨-, -, stays⟩ := futures [.subscribe] [.trigger, .receive 0]
  refine ⟨⟨by decide, ?_⟩, ⟨by decide, ?_⟩, ?_⟩
  · exact lagging 2 [.receive 1, .receive 0, .receive 1] (by decide) (by decide)
  · exact stays [.receive 0] (by decide)
  · exact apart (.receiver 0) _ _ (by decide)

end Broadcast

end Sluice

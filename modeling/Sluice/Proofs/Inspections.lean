import Sluice.Proofs.Conversation
import Sluice.Proofs.TakenOctets
import Sluice.Stream.Inspection

/-
  Looking at a connection, taking from it and going on, in any order. What a step can do is told
  once (`does_step`): a reading takes octets off the front of what can still be read, to the copy
  of an open peek or for good, and every other step leaves the stream alone or puts the copy back.
  So nothing is lost and nothing comes twice, however the steps follow each other (`run_replays`).
-/

namespace Sluice

/-- Can a reading answer so, having taken these octets? One that fails may have taken some. -/
def Reading.Answers : Reading → (taken : Octets) → InspectionAnswer → Prop
  | .upTo room, t, .read (.done octets) => octets = t ∧ t.length ≤ room
  | .upTo _, t, .read _ => t = []
  | .exactly count, t, .read (.done octets) => octets = t ∧ t.length = count
  | .exactly count, t, .read _ => t.length < count
  | .toEnd, t, .drained octets _ => octets = t
  | _, _, _ => False

/-- The reading that a step is, if it is one. -/
def InspectionStep.reading? : InspectionStep → Option Reading
  | .read r => some r
  | .mutedRead r => some r
  | _ => none

/-- What a step offers to the far side, if it can talk to it. -/
def InspectionStep.written? : InspectionStep → Option Octets
  | .write data => some data
  | _ => none

namespace Inspection

/-! ## Readings -/

section Readings

variable {σ : Type} [Readable σ] {took : Octets → σ → σ → Prop} {stuck : σ → Prop}

theorem reading_took (m : Metered took stuck) (r : Reading) (s : σ) :
    ∃ t, took t s (reading r s).2 ∧ r.Answers t (reading r s).1 := by
  cases r with
  | upTo room =>
    have first := m.read room s
    have short := m.short room s
    refine ⟨_, first, ?_⟩
    show (Reading.upTo room).Answers _ (.read (Session.ofPolled id (Readable.read room s).1))
    cases came : (Readable.read room s).1 with
    | ready octets =>
      rw [came] at short
      exact ⟨rfl, short⟩
    | failed e => rfl
    | pending => rfl
  | exactly count =>
    obtain ⟨t, all, exactly⟩ := m.readExactFrom .earlyEof #[] count s
    refine ⟨t, all, ?_⟩
    show (Reading.exactly count).Answers t
      (.read (Session.ofPolled id (Readable.readExactFrom .earlyEof #[] count s).1))
    rcases came : Readable.readExactFrom .earlyEof #[] count s with ⟨polled, s'⟩
    rw [came] at exactly
    cases polled with
    | ready octets => exact exactly
    | failed e => exact exactly
    | pending => exact exactly.1
  | toEnd => exact m.drainFrom #[] s

/-- Being muted makes no difference to a reading. -/
theorem mutedReading_took (r : Reading) (p : Peek) :
    ∃ t, Peek.Took Source.Took t p (mutedReading r p).2 ∧ r.Answers t (mutedReading r p).1 :=
  reading_took Source.metered.peek.readOnly r (ReadOnly.mk p)

end Readings

/-! ## Steps -/

/-- What a step does to a connection. -/
inductive Does (i : Inspection) : InspectionStep → InspectionAnswer → Inspection → Prop where
  | opened : Does i .startPeek .done { i with recorded := some (i.recorded.getD #[]) }
  | closed {recorded : Array UInt8} : i.recorded = some recorded →
      Does i .endPeek (.closed recorded.size)
        { i with replay := Peek.close { replay := i.replay, recorded }, recorded := none }
  | idle : i.recorded = none → Does i .endPeek (.closed 0) i
  /-- Octets were read through the open peek. -/
  | looked {s : InspectionStep} {r : Reading} {recorded recorded' : Array UInt8} {t : Octets}
      {answer : InspectionAnswer} {replay : Replay} : s.reading? = some r →
      i.recorded = some recorded → r.Answers t answer →
      Peek.Took Source.Took t { replay := i.replay, recorded } { replay, recorded := recorded' } →
      Does i s answer { i with replay, recorded := some recorded' }
  /-- Octets were read for good. -/
  | took {s : InspectionStep} {r : Reading} {taken : Array UInt8} {t : Octets}
      {answer : InspectionAnswer} {replay : Replay} : s.reading? = some r →
      i.recorded = none → r.Answers t answer → Replay.Took Source.Took t i.replay replay →
      taken.toList = i.taken.toList ++ t →
      Does i s answer { i with replay, taken }
  | wrote (data : Octets) : Does i (.write data) (ofWrite (i.sink.write data).1)
      { i with sink := (i.sink.write data).2 }
  | shut : Does i .shutdown .done { i with shutdowns := i.shutdowns + 1 }
  /-- Nothing came of it. -/
  | silent {s : InspectionStep} {answer : InspectionAnswer} : s ≠ .endPeek → s ≠ .shutdown →
      s.reading? = none → s.written? = none → Does i s answer i

/-- Whatever reads as it should does so through the open peek or for good. -/
theorem does_lookBy {look : Peek → InspectionAnswer × Peek} {s : InspectionStep} {r : Reading}
    (reads : s.reading? = some r)
    (took : ∀ p, ∃ t, Peek.Took Source.Took t p (look p).2 ∧ r.Answers t (look p).1)
    (i : Inspection) : i.Does s (i.lookBy look).1 (i.lookBy look).2 := by
  unfold lookBy
  cases opened : i.recorded with
  | some recorded =>
    obtain ⟨t, took, answers⟩ := took { replay := i.replay, recorded }
    exact .looked reads opened answers took
  | none =>
    obtain ⟨t, took, answers⟩ := took (Peek.start i.replay)
    have all : (i.taken ++ (look (Peek.start i.replay)).2.recorded).toList =
        i.taken.toList ++ t := by
      rw [Array.toList_append, took.recorded]
      rfl
    have does := Does.took reads opened answers took.replay all
    simpa [opened] using does

/-- A step does one of these things. -/
theorem does_step (i : Inspection) (s : InspectionStep) : i.Does s (i.step s).1 (i.step s).2 := by
  cases s with
  | startPeek => exact .opened
  | endPeek =>
    show i.Does .endPeek i.endPeek.1 i.endPeek.2
    unfold endPeek
    split
    · next recorded opened => exact .closed opened
    · next none => exact .idle none
  | read r => exact does_lookBy rfl (reading_took Source.metered.peek r) i
  | mutedRead r => exact does_lookBy rfl (mutedReading_took r) i
  | write data => exact .wrote data
  | shutdown => exact .shut
  | flush => exact .silent nofun nofun rfl rfl
  | mutedWrite data => exact .silent nofun nofun rfl rfl
  | mutedFlush => exact .silent nofun nofun rfl rfl
  | mutedShutdown => exact .silent nofun nofun rfl rfl

/-! ## What steps take -/

/-- The octets that can be read from the first connection and no longer from the second. -/
def readBetween (i i' : Inspection) : Octets :=
  i.replay.unread.take (i.replay.unread.length - i'.replay.unread.length)

/-- The octets that a step takes. -/
def takenBy (i : Inspection) (s : InspectionStep) : Octets :=
  i.readBetween (i.step s).2

/-- The octets taken along a run by the steps that find the connection so. -/
def takenWhen (p : Inspection → Bool) (i : Inspection) : List InspectionStep → Octets
  | [] => []
  | s :: steps => (if p i then i.takenBy s else []) ++ takenWhen p (i.step s).2 steps

variable {i i' : Inspection} {s : InspectionStep} {steps : List InspectionStep}
  {answer : InspectionAnswer}

theorem readBetween_eq {t : Octets} (fewer : i.replay.unread = t ++ i'.replay.unread) :
    i.readBetween i' = t := by
  rw [readBetween, fewer, List.length_append, Nat.add_sub_cancel_right, List.take_left]

theorem readBetween_eq_nil (same : i'.replay = i.replay) : i.readBetween i' = [] :=
  readBetween_eq (by rw [same]; rfl)

/-- What there was stays, handed out, looked at or still to be read. -/
theorem Does.all (h : i.Does s answer i') : i'.all = i.all := by
  cases h with
  | opened => rfl
  | closed opened => simp [Inspection.all, opened, Peek.close, Replay.unread]
  | idle => rfl
  | looked _ opened _ looked =>
    have fewer := looked.replay.unread
    have recorded := looked.recorded
    simp only [Inspection.all, opened, Option.getD_some] at *
    rw [fewer, recorded]
    simp only [List.append_assoc]
  | took _ none _ taken all =>
    have fewer := taken.unread
    simp only [Inspection.all, none, Option.getD_none] at *
    rw [fewer, all]
    simp
  | wrote => rfl
  | shut => rfl
  | silent => rfl

/-- What is handed out for good is what is taken while nobody looks. -/
theorem Does.taken (h : i.Does s answer i') : i'.taken.toList =
    i.taken.toList ++ if i.recorded.isNone then i.readBetween i' else [] := by
  have still (same : i'.replay = i.replay) (same' : i'.taken = i.taken) : i'.taken.toList =
      i.taken.toList ++ if i.recorded.isNone then i.readBetween i' else [] := by
    rw [readBetween_eq_nil same, same', ite_self, List.append_nil]
  cases h with
  | opened => exact still rfl rfl
  | closed opened => simp [opened]
  | idle => exact still rfl rfl
  | looked _ opened => simp [opened]
  | took _ none _ taken all =>
    rw [readBetween_eq taken.unread, none, all]
    rfl
  | wrote => exact still rfl rfl
  | shut => exact still rfl rfl
  | silent => exact still rfl rfl

/-- While somebody looks, what is taken goes to the copy. -/
theorem Does.looking {recorded : Array UInt8} (h : i.Does s answer i')
    (opened : i.recorded = some recorded) (notClosed : s ≠ .endPeek) :
    ∃ recorded', i'.recorded = some recorded' ∧ Peek.Took Source.Took (i.readBetween i')
      { replay := i.replay, recorded } { replay := i'.replay, recorded := recorded' } := by
  have still (same : i'.replay = i.replay) (same' : i'.recorded = i.recorded) :
      ∃ recorded', i'.recorded = some recorded' ∧ Peek.Took Source.Took (i.readBetween i')
        { replay := i.replay, recorded } { replay := i'.replay, recorded := recorded' } := by
    rw [readBetween_eq_nil same, same', same]
    exact ⟨recorded, opened, Source.metered.peek.nil _⟩
  cases h with
  | opened => exact still rfl (by simp [opened])
  | closed => exact absurd rfl notClosed
  | idle none => exact absurd rfl notClosed
  | @looked _ _ _ recorded' _ _ _ _ opened' _ looked =>
    obtain rfl := Option.some.inj (opened.symm.trans opened')
    rw [readBetween_eq looked.replay.unread]
    exact ⟨recorded', rfl, looked⟩
  | took _ none =>
    rw [opened] at none
    cases none
  | wrote => exact still rfl rfl
  | shut => exact still rfl rfl
  | silent => exact still rfl rfl

/-- A reading answers with what it takes. -/
theorem Does.answers {r : Reading} (h : i.Does s answer i') (reads : s.reading? = some r) :
    r.Answers (i.readBetween i') answer := by
  cases h with
  | @looked _ _ _ _ _ _ _ reads' _ answers looked =>
    obtain rfl := Option.some.inj (reads.symm.trans reads')
    rw [readBetween_eq looked.replay.unread]
    exact answers
  | @took _ _ _ _ _ _ reads' _ answers taken =>
    obtain rfl := Option.some.inj (reads.symm.trans reads')
    rw [readBetween_eq taken.unread]
    exact answers
  | silent _ _ none =>
    rw [reads] at none
    cases none
  | _ => cases reads

theorem silent_of_reading {r : Reading} (reads : s.reading? = some r) :
    s ≠ .shutdown ∧ s.written? = none := by
  cases s with
  | read => exact ⟨nofun, rfl⟩
  | mutedRead => exact ⟨nofun, rfl⟩
  | _ => cases reads

/-- Only who writes reaches the far side, and only who shuts the connection down. -/
theorem Does.far (h : i.Does s answer i') :
    i'.sink = (s.written?.map fun data => (i.sink.write data).2).getD i.sink ∧
      i'.shutdowns = i.shutdowns + if s = .shutdown then 1 else 0 := by
  have still (notShut : s ≠ .shutdown) (none : s.written? = none) : i.sink =
      (s.written?.map fun data => (i.sink.write data).2).getD i.sink ∧
        i.shutdowns = i.shutdowns + if s = .shutdown then 1 else 0 := by
    rw [none, if_neg notShut]
    exact ⟨rfl, rfl⟩
  cases h with
  | looked reads => exact still (silent_of_reading reads).1 (silent_of_reading reads).2
  | took reads => exact still (silent_of_reading reads).1 (silent_of_reading reads).2
  | silent _ notShut _ none => exact still notShut none
  | _ => exact ⟨rfl, rfl⟩

/-! ## Runs -/

theorem run_append (i : Inspection) (before behind : List InspectionStep) :
    (i.run (before ++ behind)).2 = ((i.run before).2.run behind).2 := by
  induction before generalizing i with
  | nil => rfl
  | cons s before ih => exact ih (i.step s).2

theorem run_all (i : Inspection) (steps : List InspectionStep) : (i.run steps).2.all = i.all := by
  induction steps generalizing i with
  | nil => rfl
  | cons s steps ih => exact (ih (i.step s).2).trans (i.does_step s).all

theorem run_taken (i : Inspection) (steps : List InspectionStep) : (i.run steps).2.taken.toList =
    i.taken.toList ++ i.takenWhen (·.recorded.isNone) steps := by
  induction steps generalizing i with
  | nil => exact (List.append_nil _).symm
  | cons s steps ih =>
    show ((i.step s).2.run steps).2.taken.toList = _
    rw [ih, (i.does_step s).taken, List.append_assoc]
    rfl

/-- As long as nobody closes it, an open peek has a copy of all that is taken. -/
theorem run_looking {recorded : Array UInt8} (opened : i.recorded = some recorded)
    (notClosed : .endPeek ∉ steps) : ∃ recorded', (i.run steps).2.recorded = some recorded' ∧
      Peek.Took Source.Took (i.takenWhen (·.recorded.isSome) steps)
        { replay := i.replay, recorded }
        { replay := (i.run steps).2.replay, recorded := recorded' } := by
  induction steps generalizing i recorded with
  | nil => exact ⟨recorded, opened, Source.metered.peek.nil _⟩
  | cons s steps ih =>
    obtain ⟨ne, rest⟩ := not_or.1 fun h => notClosed (List.mem_cons.2 h)
    obtain ⟨recorded₁, opened₁, first⟩ := (i.does_step s).looking opened (Ne.symm ne)
    obtain ⟨recorded', opened', more⟩ := ih opened₁ rest
    refine ⟨recorded', opened', ?_⟩
    simp only [takenWhen, opened, Option.isSome_some, if_true]
    exact Source.metered.peek.append first more

/-- A peek that was opened here has copied all that was taken since, and closing it puts that
back. -/
theorem run_peeked (none : i.recorded = none) (notClosed : .endPeek ∉ steps) :
    let i' := (i.run (.startPeek :: steps)).2
    let looked := i.takenWhen (·.recorded.isSome) (.startPeek :: steps)
    i'.recorded.map Array.toList = some looked ∧ i'.endPeek.1 = .closed looked.length ∧
      i'.endPeek.2.replay.buffered = max i.replay.buffered looked.length ∧
      i'.endPeek.2.replay.unread = i.replay.unread := by
  intro i' looked
  have opened : (i.step .startPeek).2.recorded = some #[] := by simp [step, none]
  have same : looked = (i.step .startPeek).2.takenWhen (·.recorded.isSome) steps := by
    simp only [looked, takenWhen, none, Option.isSome_none, Bool.false_eq_true, if_false,
      List.nil_append]
  obtain ⟨recorded, still, took⟩ := run_looking opened notClosed
  rw [← same] at took
  have took : Peek.Took Source.Took looked (Peek.start i.replay)
      { replay := i'.replay, recorded } := took
  have copied : recorded.toList = looked := took.recorded
  have closed : i'.endPeek = (.closed recorded.size,
      { i' with replay := Peek.close { replay := i'.replay, recorded }, recorded := .none }) := by
    rw [endPeek, show i'.recorded = some recorded from still]
  have size : recorded.size = looked.length := took.consumed
  rw [closed, size]
  refine ⟨?_, rfl, took.buffered, ?_⟩
  · rw [show i'.recorded = some recorded from still, Option.map_some, copied]
  · show (Peek.close { replay := i'.replay, recorded }).unread = _
    rw [Peek.unread_close, Peek.unread, copied]
    exact took.replay.unread.symm

theorem run_far (i : Inspection) (steps : List InspectionStep) :
    (i.run steps).2.sink =
        (steps.filterMap InspectionStep.written?).foldl (fun s data => (s.write data).2) i.sink ∧
      (i.run steps).2.shutdowns = i.shutdowns + steps.count .shutdown := by
  induction steps generalizing i with
  | nil => exact ⟨rfl, rfl⟩
  | cons s steps ih =>
    obtain ⟨sink, shutdowns⟩ := (i.does_step s).far
    obtain ⟨sink', shutdowns'⟩ := ih (i.step s).2
    constructor
    · show ((i.step s).2.run steps).2.sink = _
      rw [sink', sink, List.filterMap_cons]
      cases s.written? <;> rfl
    · show ((i.step s).2.run steps).2.shutdowns = _
      rw [shutdowns', shutdowns, List.count_cons, Nat.add_assoc, Nat.add_comm (ite _ _ _)]
      simp only [beq_iff_eq]

/-- Whatever is done to a connection, one step after the other: what was handed out, what an open
peek has copied, what is held and what is still to come are together what was held and to come at
the start. Handed out is what is taken while no peek is open, and an open peek has copied what was
taken since it was opened; closing it leaves so much held, or what was held when it was opened if
that is more. What a reading answers is what it takes. Only writing and shutting down outside of
peeks and muted streams reach the far side. -/
theorem run_replays (held : Octets) (source : Source) (sink : Sink)
    (steps : List InspectionStep) :
    let start : Inspection := { replay := { held, source }, sink }
    let i := (start.run steps).2
    i.taken.toList ++ (i.recorded.getD #[]).toList ++ i.replay.held ++ i.replay.source.unread =
      held ++ source.unread ∧
    i.taken.toList = start.takenWhen (·.recorded.isNone) steps ∧
    (∀ before during, steps = before ++ .startPeek :: during → .endPeek ∉ during →
      (start.run before).2.recorded = none →
      let opened := (start.run before).2
      let looked := opened.takenWhen (·.recorded.isSome) (.startPeek :: during)
      i.recorded.map Array.toList = some looked ∧ i.endPeek.1 = .closed looked.length ∧
        i.endPeek.2.replay.buffered = max opened.replay.buffered looked.length ∧
        i.endPeek.2.replay.unread = opened.replay.unread) ∧
    (∀ (s : InspectionStep) (r : Reading), s.reading? = some r →
      r.Answers (i.takenBy s) (i.step s).1) ∧
    i.sink = (steps.filterMap InspectionStep.written?).foldl (fun s data => (s.write data).2) sink ∧
    i.shutdowns = steps.count .shutdown := by
  intro start i
  refine ⟨?_, run_taken start steps, ?_, fun s r reads => (i.does_step s).answers reads, ?_, ?_⟩
  · have all : i.taken.toList ++ (i.recorded.getD #[]).toList ++ i.replay.unread =
        start.replay.unread := run_all start steps
    rw [List.append_assoc _ i.replay.held]
    exact all
  · rintro before during rfl notClosed none
    have peeked := run_peeked none notClosed
    rw [← run_append] at peeked
    exact peeked
  · exact (run_far start steps).1
  · rw [(run_far start steps).2]
    exact Nat.zero_add _

/-- Two octets are held, and a read fails behind two more. -/
def failingClient : Inspection :=
  { replay := { held := [1, 2], source := [.data [3, 4], .failure .earlyEof, .data [5, 6]] } }

/-- A peek inside of what is held, an octet taken for good, and a peek that runs into the
failure. -/
theorem run_replays_chained :
    let before : List InspectionStep := [.startPeek, .read (.upTo 1), .endPeek, .read (.upTo 1)]
    let during : List InspectionStep := [.mutedRead (.exactly 5), .mutedWrite [7]]
    let i := (failingClient.run (before ++ .startPeek :: during)).2
    i.taken.toList = [1] ∧ i.recorded.map Array.toList = some [2, 3, 4] ∧
      i.endPeek.1 = .closed 3 ∧ i.endPeek.2.replay.buffered = 3 ∧
      i.endPeek.2.replay.unread = [2, 3, 4, 5, 6] ∧ i.sink.accepted = [] := by
  intro before during i
  obtain ⟨-, taken, peeked, -, far, -⟩ := run_replays failingClient.replay.held
    failingClient.replay.source failingClient.sink (before ++ .startPeek :: during)
  obtain ⟨copied, closed, buffered, unread⟩ :=
    peeked before during rfl (by decide) (by decide +kernel)
  have outside : failingClient.takenWhen (·.recorded.isNone) (before ++ .startPeek :: during) =
      [1] := by decide +kernel
  have inside : (failingClient.run before).2.takenWhen (·.recorded.isSome)
      (.startPeek :: during) = [2, 3, 4] := by decide +kernel
  have held : (failingClient.run before).2.replay.unread = [2, 3, 4, 5, 6] := by decide +kernel
  have buffered₀ : (failingClient.run before).2.replay.buffered = 1 := by decide +kernel
  refine ⟨taken.trans outside, copied.trans (congrArg some inside), ?_, ?_, unread.trans held, ?_⟩
  · exact closed.trans (congrArg (InspectionAnswer.closed ·.length) inside)
  · refine buffered.trans ?_
    show max (failingClient.run before).2.replay.buffered
      ((failingClient.run before).2.takenWhen (·.recorded.isSome) (.startPeek :: during)).length = 3
    rw [inside, buffered₀]
    rfl
  · show i.sink.accepted = []
    rw [show i.sink = _ from far]
    rfl

end Inspection

end Sluice

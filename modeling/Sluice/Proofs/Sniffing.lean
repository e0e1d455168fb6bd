import Sluice.Proofs.Conversation
import Sluice.Sniff.Stage

/-
  Sniffing leaves a stream as it found it. Through a peek nothing gets lost: what was recorded and
  what is still to come are together what the stream held, so closing the peek gives the stream
  back whole (`unread_peeking`). How a stage ends makes no difference. Being cut off is one of the
  ways: a `Timed` source lets its reader make so many attempts, and a stage that is not cut off
  finds there what it finds at its leisure (`run_timed`).
-/

namespace Sluice

/-! ## Being cut off -/

/-- A source that somebody reads for a while: after so many attempts nothing more comes to them. -/
structure Timed where
  source : Source
  attempts : Nat

namespace Timed

/-- Attempts to read until something comes. Whoever is cut off seems to wait for ever. -/
def await (room : Nat) : (attempts : Nat) → Source → Polled × Timed
  | 0, source => (.pending, ⟨source, 0⟩)
  | attempts + 1, source =>
    match source.poll room with
    | (.pending, source) => await room attempts source
    | (polled, source) => (polled, ⟨source, attempts⟩)

/-- Reads at most `room` octets, if they come in time. -/
def read (room : Nat) (t : Timed) : Polled × Timed :=
  if room = 0 then (.ready [], t) else await room t.attempts t.source

theorem await_unread (room attempts : Nat) (s : Source) :
    (await room attempts s).1.octets ++ (await room attempts s).2.source.unread = s.unread := by
  fun_induction await room attempts s with
  | case1 => rfl
  | case2 attempts s s' e ih => rw [ih, ← s.poll_unread room, e]; rfl
  | case3 attempts s polled s' _ e => rw [← s.poll_unread room, e]

instance : Readable Timed where
  read := read
  unread t := t.source.unread
  read_unread room t := by
    unfold read
    split
    · rfl
    · exact await_unread room t.attempts t.source

theorem poll_settle {room : Nat} {s : Source} (h : (s.poll room).1 ≠ .pending) :
    s.settle.poll room = s.poll room := by
  fun_induction Source.poll room s <;> simp_all [Source.settle, Source.poll]

theorem poll_settle_pending {room : Nat} {s : Source} (h : (s.poll room).1 = .pending) :
    (s.poll room).2.settle.poll room = s.settle.poll room := by
  fun_induction Source.poll room s <;> simp_all [Source.settle, Source.poll]

/-- An attempt either runs out of time or finds what an unhurried reader finds. -/
theorem await_eq (room attempts : Nat) (s : Source) :
    (await room attempts s).1 = .pending ∨
      s.settle.poll room = ((await room attempts s).1, (await room attempts s).2.source) := by
  fun_induction await room attempts s with
  | case1 => exact Or.inl rfl
  | case2 attempts s s' e ih =>
    have h := poll_settle_pending (congrArg Prod.fst e)
    rw [e] at h
    rw [← h]
    exact ih
  | case3 attempts s polled s' ne e =>
    refine Or.inr ?_
    rw [poll_settle (by rw [e]; exact ne), e]

theorem read_eq (room : Nat) (t : Timed) :
    (t.read room).1 = .pending ∨
      t.source.read room = ((t.read room).1, (t.read room).2.source) := by
  unfold read Source.read
  split
  · exact Or.inr rfl
  · exact await_eq room t.attempts t.source

end Timed

namespace Replay

/-- The stream as it is for somebody who is cut off after so many attempts. -/
def timed (attempts : Nat) (r : Replay) : Replay Timed :=
  { held := r.held, source := ⟨r.source, attempts⟩ }

/-- The stream with all the time in the world. -/
def untimed (r : Replay Timed) : Replay :=
  { held := r.held, source := r.source.source }

end Replay

/-! ## Streams that read alike -/

section Alike

variable {σ τ : Type} [Readable σ] [Readable τ] {project : σ → τ}

/-- The stream with another source behind what is held. -/
def Replay.map (project : σ → τ) (r : Replay σ) : Replay τ :=
  { held := r.held, source := project r.source }

/-- A peek at that stream. -/
def Peek.map (project : σ → τ) (p : Peek σ) : Peek τ :=
  { replay := p.replay.map project, recorded := p.recorded }

variable (reads : ∀ room s, (Readable.read room s).1 = .pending ∨
  Readable.read room (project s) = ((Readable.read room s).1, project (Readable.read room s).2))
include reads

theorem Replay.read_map (room : Nat) (r : Replay σ) : (r.read room).1 = .pending ∨
    (r.map project).read room = ((r.read room).1, (r.read room).2.map project) := by
  unfold Replay.read Replay.readBy
  rcases r with ⟨held, source⟩
  cases held with
  | cons b held => exact Or.inr rfl
  | nil =>
    rcases reads room source with h | h
    · exact Or.inl h
    · refine Or.inr ?_
      show ((Readable.read room (project source)).1,
        ({ source := (Readable.read room (project source)).2 } : Replay τ)) = _
      rw [h]
      rfl

theorem Peek.read_map (room : Nat) (p : Peek σ) : (p.read room).1 = .pending ∨
    (p.map project).read room = ((p.read room).1, (p.read room).2.map project) := by
  rcases p.replay.read_map reads room with h | h
  · exact Or.inl h
  · refine Or.inr ?_
    unfold Peek.read
    rw [show (p.map project).replay = p.replay.map project from rfl, h]
    rfl

end Alike

namespace Sniff

open Session

variable {σ ε α : Type} [Readable σ]

/-! ## Stages -/

/-- Whatever a conversation through a peek comes to, the stream is afterwards what it was. -/
theorem unread_peeking {p : Session (Peek σ) ε α} (h : Keeps Peek.unread p) (r : Replay σ) :
    (peeking p r).2.unread = r.unread := by
  show (p (Peek.start r)).2.close.unread = r.unread
  rw [Peek.unread_close, h, Peek.unread_start]

omit [Readable σ] in
theorem keeps_muted {γ : Type} {view : σ → γ} {p : Session (ReadOnly σ) ε α}
    (h : Keeps (fun s => view s.inner) p) : Keeps view (muted p) :=
  fun s => h ⟨s⟩

theorem classify_keeps : Keeps Replay.unread (classify (σ := σ)) := by
  apply unread_peeking
  apply keeps_bind (keeps_read Peek.unread_read _ _)
  intro s
  cases s with
  | nil => exact keeps_fail _ _
  | cons b _ => exact keeps_pure _ _

theorem clientHello_keeps : Keeps Replay.unread (clientHello (σ := σ)) := by
  apply unread_peeking
  apply keeps_muted
  apply keeps_bind (keeps_messageFrom (fun room s => Peek.unread_read room s.inner) _ _)
  intro message
  split
  · exact keeps_pure _ _
  · exact keeps_fail _ _

theorem httpHead_keeps : Keeps Replay.unread (httpHead (σ := σ)) :=
  unread_peeking (keeps_readHeadFrom Peek.unread_read _)

theorem sniff_keeps : Keeps Replay.unread (sniff (σ := σ)) := by
  apply keeps_bind classify_keeps
  intro found
  split
  · exact keeps_bind clientHello_keeps fun _ => keeps_pure _ _
  · exact keeps_bind httpHead_keeps fun _ => keeps_pure _ _

/-! ## Stages that go alike -/

/-- The stages that look at a stream. -/
inductive Stage where
  | classify
  | clientHello
  | httpHead
  | sniff
  deriving DecidableEq, Repr

/-- What a stage finds. -/
inductive Finding where
  | protocol (found : Found Protocol)
  | hello (found : Found Tls.ClientHello)
  | head (found : Found Http.Head)
  | sighting (sighting : Sighting)
  deriving DecidableEq, Repr

/-- Looks at a stream. -/
def Stage.run : Stage → Session (Replay σ) SniffError Finding
  | .classify => do return .protocol (← Sniff.classify)
  | .clientHello => do return .hello (← Sniff.clientHello)
  | .httpHead => do return .head (← Sniff.httpHead)
  | .sniff => do return .sighting (← Sniff.sniff)

theorem run_keeps (stage : Stage) : Keeps Replay.unread (stage.run (σ := σ)) := by
  cases stage with
  | classify => exact keeps_bind classify_keeps fun _ => keeps_pure _ _
  | clientHello => exact keeps_bind clientHello_keeps fun _ => keeps_pure _ _
  | httpHead => exact keeps_bind httpHead_keeps fun _ => keeps_pure _ _
  | sniff => exact keeps_bind sniff_keeps fun _ => keeps_pure _ _

section Alike

variable {τ : Type} {project : σ → τ}

omit [Readable σ] in
theorem follows_peeking {p : Session (Peek σ) ε α} {q : Session (Peek τ) ε α}
    (h : Follows (Peek.map project) p q) :
    Follows (Replay.map project) (peeking p) (peeking q) := by
  intro r
  have start : Peek.start (r.map project) = (Peek.start r).map project := rfl
  rcases h (Peek.start r) with h | h
  · exact Or.inl (by simp [peeking, h, Outcome.map])
  · refine Or.inr ?_
    simp only [peeking, start, h]
    rfl

omit [Readable σ] in
theorem follows_muted {p : Session (ReadOnly σ) ε α} {q : Session (ReadOnly τ) ε α}
    (h : Follows (fun s => ⟨project s.inner⟩) p q) : Follows project (muted p) (muted q) := by
  intro s
  rcases h ⟨s⟩ with h | h
  · exact Or.inl h
  · exact Or.inr (by simp only [muted, h])

variable [Readable τ]
  (reads : ∀ room s, (Readable.read room s).1 = .pending ∨
    Readable.read room (project s) = ((Readable.read room s).1, project (Readable.read room s).2))
include reads

theorem follows_classify : Follows (Replay.map project) classify classify := by
  apply follows_peeking
  apply follows_bind (follows_read (Peek.read_map reads) _ _)
  intro s
  cases s with
  | nil => exact follows_fail _ _
  | cons b _ => exact follows_pure _ _

theorem follows_clientHello : Follows (Replay.map project) clientHello clientHello := by
  apply follows_peeking
  apply follows_muted
  apply follows_bind
  · refine follows_messageFrom (fun room s => ?_) _ _
    rcases s.inner.read_map reads room with h | h
    · exact Or.inl h
    · refine Or.inr ?_
      show (((s.inner.map project).read room).1,
        (⟨((s.inner.map project).read room).2⟩ : ReadOnly (Peek τ))) = _
      rw [h]
      rfl
  · intro message
    split
    · exact follows_pure _ _
    · exact follows_fail _ _

theorem follows_httpHead : Follows (Replay.map project) httpHead httpHead :=
  follows_peeking (follows_readHeadFrom (Peek.read_map reads) _)

theorem follows_sniff : Follows (Replay.map project) sniff sniff := by
  apply follows_bind (follows_classify reads)
  intro found
  split
  · exact follows_bind (follows_clientHello reads) fun _ => follows_pure _ _
  · exact follows_bind (follows_httpHead reads) fun _ => follows_pure _ _

/-- Where single reads go alike for as long as they go on, so does every stage. -/
theorem follows_run (stage : Stage) : Follows (Replay.map project) stage.run stage.run := by
  cases stage with
  | classify => exact follows_bind (follows_classify reads) fun _ => follows_pure _ _
  | clientHello => exact follows_bind (follows_clientHello reads) fun _ => follows_pure _ _
  | httpHead => exact follows_bind (follows_httpHead reads) fun _ => follows_pure _ _
  | sniff => exact follows_bind (follows_sniff reads) fun _ => follows_pure _ _

end Alike

/-- A stage that is not cut off comes to what it would have come to without a limit. -/
theorem run_timed (stage : Stage) : Follows Replay.untimed stage.run stage.run := by
  have alike : Follows (Replay.map Timed.source) stage.run stage.run :=
    follows_run Timed.read_eq stage
  exact alike

/-! ## Visits -/

/-- One stage let at a stream. -/
structure Visit where
  stage : Stage
  /-- The attempts to read before the stage is cut off; no bound if absent. -/
  attempts : Option Nat
  deriving DecidableEq, Repr

/-- Lets the stage at the stream. Pending says that it was cut off, or that it waits for ever. -/
def Visit.run (v : Visit) (r : Replay) : Outcome SniffError Finding × Replay :=
  match v.attempts with
  | none => v.stage.run r
  | some attempts =>
    let (outcome, left) := v.stage.run (r.timed attempts)
    (outcome, left.untimed)

/-- What each of several visits comes to, and the stream it leaves to the next. -/
def visitAll (r : Replay) : List Visit → List (Outcome SniffError Finding × Replay)
  | [] => []
  | v :: visits => v.run r :: visitAll (v.run r).2 visits

theorem visit_keeps (v : Visit) (r : Replay) : (v.run r).2.unread = r.unread := by
  unfold Visit.run
  split
  · exact run_keeps v.stage r
  · next attempts _ => exact run_keeps v.stage (r.timed attempts)

/-- Whatever stages are let at a stream, and wherever they are cut off: what is held and what is
still to come are after each of them what they were at the start. A stage that is not cut off comes
to what it would have come to without a limit. -/
theorem visits_keep_stream (r : Replay) (visits : List Visit) :
    (∀ after ∈ visitAll r visits,
      after.2.held ++ after.2.source.unread = r.held ++ r.source.unread) ∧
    ∀ stage attempts, (Visit.run ⟨stage, some attempts⟩ r).1 = .pending ∨
      Visit.run ⟨stage, some attempts⟩ r = Visit.run ⟨stage, none⟩ r := by
  constructor
  · induction visits generalizing r with
    | nil => simp [visitAll]
    | cons v visits ih =>
      intro after h
      rcases List.mem_cons.1 h with rfl | h
      · exact visit_keeps v r
      · exact (ih _ _ h).trans (visit_keeps v r)
  · intro stage attempts
    exact (run_timed stage (r.timed attempts)).imp_right fun h => h.symm

end Sniff

end Sluice

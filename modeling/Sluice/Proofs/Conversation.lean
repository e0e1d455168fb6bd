import Sluice.Http.Head
import Sluice.Tls.Record

/-
  Conversations that only read. What they do to a stream follows from what single reads do to it:
  if reads leave a view of the stream alone, so does the whole conversation (`Session.Keeps`), and
  if reads of one stream go like reads of another, so does the whole conversation
  (`Session.Follows`). Both hold of the readers of handshake messages and of request heads, however
  these end.
-/

namespace Sluice

namespace Session

variable {σ τ ε α β γ : Type}

theorem bind_done {p : Session σ ε α} {f : α → Session σ ε β} {s s' : σ} {a : α}
    (h : p s = (.done a, s')) : (p >>= f) s = f a s' := by
  show Session.bind p f s = f a s'
  rw [Session.bind, h]

theorem bind_congr {p : Session σ ε α} {f g : α → Session σ ε β} {s : σ}
    (h : ∀ a s', p s = (.done a, s') → f a s' = g a s') : (p >>= f) s = (p >>= g) s := by
  show Session.bind p f s = Session.bind p g s
  unfold Session.bind
  split
  · next a s' e => exact h a s' e
  · rfl
  · rfl

theorem done_of_bind {p : Session σ ε α} {f : α → Session σ ε β} {s s'' : σ} {b : β}
    (h : (p >>= f) s = (.done b, s'')) :
    ∃ a s', p s = (.done a, s') ∧ f a s' = (.done b, s'') := by
  change Session.bind p f s = _ at h
  unfold Session.bind at h
  split at h
  · next a s' e => exact ⟨a, s', e, h⟩
  · simp at h
  · simp at h

theorem bind_failed {p : Session σ ε α} {s s' : σ} {e : ε} (h : p s = (.failed e, s'))
    (f : α → Session σ ε β) : (p >>= f) s = (.failed e, s') := by
  show Session.bind p f s = _
  rw [Session.bind, h]

theorem bind_pending {p : Session σ ε α} {s s' : σ} (h : p s = (.pending, s'))
    (f : α → Session σ ε β) : (p >>= f) s = (.pending, s') := by
  show Session.bind p f s = _
  rw [Session.bind, h]

/-! ## Keeping a view of the stream -/

/-- Does a conversation leave a view of the stream as it was, whatever it comes to? -/
def Keeps (view : σ → γ) (p : Session σ ε α) : Prop :=
  ∀ s, view (p s).2 = view s

theorem keeps_pure (view : σ → γ) (a : α) : Keeps view (pure a : Session σ ε α) :=
  fun _ => rfl

theorem keeps_fail (view : σ → γ) (e : ε) : Keeps view (fail e : Session σ ε α) :=
  fun _ => rfl

theorem keeps_bind {view : σ → γ} {p : Session σ ε α} {f : α → Session σ ε β}
    (hp : Keeps view p) (hf : ∀ a, Keeps view (f a)) : Keeps view (p >>= f) := by
  intro s
  have h := hp s
  show view (Session.bind p f s).2 = view s
  unfold Session.bind
  split
  · next e => rw [hf, ← h, e]
  · next e => rw [← h, e]
  · next e => rw [← h, e]

section Keeping

variable [Readable σ] {view : σ → γ} (reads : ∀ room s, view (Readable.read room s).2 = view s)
include reads

theorem keeps_read (word : IoError → ε) (room : Nat) : Keeps view (read (σ := σ) word room) :=
  reads room

theorem view_readExactFrom (eof : IoError) (got : Array UInt8) (need : Nat) (s : σ) :
    view (Readable.readExactFrom eof got need s).2 = view s := by
  fun_induction Readable.readExactFrom eof got need s with
  | case1 => rfl
  | case2 got need s _ s' e => rw [← reads need s, e]
  | case3 got need s _ s' b front e ih => rw [ih, ← reads need s, e]
  | case4 got need s _ s' e' e => rw [← reads need s, e]
  | case5 got need s _ s' e => rw [← reads need s, e]

theorem keeps_readExact (word : IoError → ε) (n : Nat) :
    Keeps view (readExact (σ := σ) word n) :=
  view_readExactFrom reads .earlyEof #[] n

theorem keeps_readNumber (word : IoError → ε) (width : Nat) :
    Keeps view (readNumber (σ := σ) word width) :=
  view_readExactFrom reads .noOctet #[] width

theorem keeps_readOctet (word : IoError → ε) : Keeps view (readOctet (σ := σ) word) :=
  keeps_bind (keeps_readNumber reads word 1) fun _ => keeps_pure view _

theorem keeps_messageFrom (front : Array UInt8) (held : Nat) :
    Keeps view (Tls.messageFrom (σ := σ) front held) := by
  fun_induction Tls.messageFrom (σ := σ) front held with
  | case1 front held ih₁ ih₂ =>
    apply keeps_bind (keeps_readExact reads _ _)
    intro header
    split
    · exact keeps_fail view _
    · next length positive _ =>
      apply keeps_bind (keeps_readExact reads _ _)
      intro fragment
      dsimp only
      split
      · exact ih₁ _ positive _ ‹_›
      · split
        · exact keeps_fail view _
        · split
          · exact ih₂ _ positive _ ‹_› ‹_› ‹_›
          · exact keeps_pure view _

theorem keeps_readHeadFrom (front : Array UInt8) :
    Keeps view (Http.readHeadFrom (σ := σ) front) := by
  fun_induction Http.readHeadFrom (σ := σ) front with
  | case1 front ih =>
    apply keeps_bind (keeps_read reads _ _)
    intro s
    cases s with
    | nil => exact keeps_fail view _
    | cons b more =>
      dsimp only
      split
      · exact keeps_fail view _
      · exact keeps_pure view _
      · split
        · exact keeps_fail view _
        · exact ih _ _ ‹_›

end Keeping

/-! ## What a conversation comes to -/

/-- Does whatever a conversation comes to have this property? -/
def Gives (p : Session σ ε α) (P : α → Prop) : Prop :=
  ∀ s a, (p s).1 = .done a → P a

theorem gives_pure {P : α → Prop} {a : α} (h : P a) : Gives (pure a : Session σ ε α) P :=
  fun _ _ e => Outcome.done.inj e ▸ h

theorem gives_fail {P : α → Prop} (e : ε) : Gives (fail e : Session σ ε α) P :=
  fun _ _ h => nomatch h

theorem gives_all (p : Session σ ε α) : Gives p fun _ => True :=
  fun _ _ _ => trivial

theorem gives_bind {P : α → Prop} {Q : β → Prop} {p : Session σ ε α} {f : α → Session σ ε β}
    (hp : Gives p P) (hf : ∀ a, P a → Gives (f a) Q) : Gives (p >>= f) Q := by
  intro s b h
  change (Session.bind p f s).1 = _ at h
  unfold Session.bind at h
  split at h
  · next a s' e => exact hf a (hp s a (congrArg Prod.fst e)) s' b h
  · simp at h
  · simp at h

/-! ## Going like a conversation over another stream -/

/-- Does a conversation over one stream go like one over another for as long as it goes on?
`project` tells the second stream by the first. Either it is cut off, or both come to the same
and leave the same behind. -/
def Follows (project : σ → τ) (p : Session σ ε α) (q : Session τ ε α) : Prop :=
  ∀ s, (p s).1 = .pending ∨ q (project s) = ((p s).1, project (p s).2)

theorem follows_pure (project : σ → τ) (a : α) :
    Follows project (pure a : Session σ ε α) (pure a) :=
  fun _ => Or.inr rfl

theorem follows_fail (project : σ → τ) (e : ε) :
    Follows project (fail e : Session σ ε α) (fail e) :=
  fun _ => Or.inr rfl

theorem follows_bind {project : σ → τ} {p : Session σ ε α} {q : Session τ ε α}
    {f : α → Session σ ε β} {g : α → Session τ ε β} (hp : Follows project p q)
    (hf : ∀ a, Follows project (f a) (g a)) : Follows project (p >>= f) (q >>= g) := by
  intro s
  show (Session.bind p f s).1 = .pending ∨
    Session.bind q g (project s) = ((Session.bind p f s).1, project (Session.bind p f s).2)
  have h := hp s
  rcases e : p s with ⟨outcome, s'⟩
  rw [e] at h
  cases outcome with
  | done a =>
    have h := h.resolve_left (by simp)
    simpa only [Session.bind, e, h] using hf a s'
  | failed e' =>
    have h := h.resolve_left (by simp)
    simp only [Session.bind, e, h]
    exact Or.inr trivial
  | pending =>
    simp only [Session.bind, e]
    exact Or.inl trivial

section Following

variable [Readable σ] [Readable τ] {project : σ → τ}
  (reads : ∀ room s, (Readable.read room s).1 = .pending ∨
    Readable.read room (project s) = ((Readable.read room s).1, project (Readable.read room s).2))
include reads

theorem follows_read (word : IoError → ε) (room : Nat) :
    Follows project (read word room) (read word room) := by
  intro s
  rcases reads room s with h | h
  · exact Or.inl (by simp [read, h, ofPolled])
  · exact Or.inr (by simp [read, h])

theorem readExactFrom_follows (eof : IoError) (got : Array UInt8) (need : Nat) (s : σ) :
    (Readable.readExactFrom eof got need s).1 = .pending ∨
      Readable.readExactFrom eof got need (project s) =
        ((Readable.readExactFrom eof got need s).1,
          project (Readable.readExactFrom eof got need s).2) := by
  fun_induction Readable.readExactFrom eof got need s with
  | case1 => exact Or.inr (by rw [Readable.readExactFrom, if_pos rfl])
  | case2 got need s needs s' e =>
    have h := (reads need s).resolve_left (by simp [e])
    rw [e] at h
    exact Or.inr (by rw [Readable.readExactFrom, if_neg needs, h])
  | case3 got need s needs b front s' e ih =>
    have h := (reads need s).resolve_left (by simp [e])
    rw [e] at h
    have step : Readable.readExactFrom eof got need (project s) =
        Readable.readExactFrom eof (got ++ b :: front) (need - (front.length + 1))
          (project s') := by
      rw [Readable.readExactFrom, if_neg needs, h]
    rw [step]
    exact ih
  | case4 got need s needs s' e' e =>
    have h := (reads need s).resolve_left (by simp [e])
    rw [e] at h
    exact Or.inr (by rw [Readable.readExactFrom, if_neg needs, h])
  | case5 => exact Or.inl rfl

theorem follows_readExact (word : IoError → ε) (n : Nat) :
    Follows project (readExact word n) (readExact word n) := by
  intro s
  rcases readExactFrom_follows reads .earlyEof #[] n s with h | h
  · exact Or.inl (by simp [readExact, Readable.readExact, h, ofPolled])
  · exact Or.inr (by simp [readExact, Readable.readExact, h])

theorem follows_messageFrom (front : Array UInt8) (held : Nat) :
    Follows project (Tls.messageFrom (σ := σ) front held) (Tls.messageFrom front held) := by
  fun_induction Tls.messageFrom (σ := σ) front held with
  | case1 front held ih₁ ih₂ =>
    rw [Tls.messageFrom]
    apply follows_bind (follows_readExact reads _ _)
    intro header
    split
    · exact follows_fail project _
    · next length positive _ =>
      apply follows_bind (follows_readExact reads _ _)
      intro fragment
      dsimp only
      split
      · exact ih₁ _ positive _ ‹_›
      · split
        · exact follows_fail project _
        · split
          · exact ih₂ _ positive _ ‹_› ‹_› ‹_›
          · exact follows_pure project _

theorem follows_readHeadFrom (front : Array UInt8) :
    Follows project (Http.readHeadFrom (σ := σ) front) (Http.readHeadFrom front) := by
  fun_induction Http.readHeadFrom (σ := σ) front with
  | case1 front ih =>
    rw [Http.readHeadFrom]
    apply follows_bind (follows_read reads _ _)
    intro s
    cases s with
    | nil => exact follows_fail project _
    | cons b more =>
      dsimp only
      split
      · exact follows_fail project _
      · exact follows_pure project _
      · split
        · exact follows_fail project _
        · exact ih _ _ ‹_›

end Following

end Session

end Sluice

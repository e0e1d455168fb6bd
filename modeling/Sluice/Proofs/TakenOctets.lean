import Sluice.Proofs.Copying
import Sluice.Stream.Replay

/-
  Which octets are taken off a stream. A relation between two states of a stream that tells the
  octets taken from one to the other is `Metered` if single reads go by it and it can be followed
  from state to state; then all that is made of single reads goes by it too. From a metered stream
  one gets the relation for the stream with octets held in front, and for a peek at that; closing
  the peek shows how much has to be held afterwards (`Peek.Took.buffered`).
-/

namespace Sluice

/-- Does this relation tell the octets taken off a stream, from one state to another? Whoever waits
for ever is in one of the states that are `stuck`. -/
structure Metered {σ : Type} [Readable σ] (took : Octets → σ → σ → Prop) (stuck : σ → Prop) :
    Prop where
  nil (s : σ) : took [] s s
  append {t t' : Octets} {s s' s'' : σ} : took t s s' → took t' s' s'' → took (t ++ t') s s''
  unread {t : Octets} {s s' : σ} : took t s s' → Readable.unread s = t ++ Readable.unread s'
  read (room : Nat) (s : σ) : took (Readable.read room s).1.octets s (Readable.read room s).2
  short (room : Nat) (s : σ) : (Readable.read room s).1.octets.length ≤ room
  waits (room : Nat) (s : σ) :
    (Readable.read room s).1 = .pending → stuck (Readable.read room s).2

namespace Metered

variable {σ : Type} {took : Octets → σ → σ → Prop} {stuck : σ → Prop}

/-! ## Reading as much as is asked for -/

/-- What reading an exact number of octets comes to, `got` being there and `t` taken. -/
def Exact (stuck : σ → Prop) (got : Octets) (need : Nat) (t : Octets) : Polled × σ → Prop
  | (.ready octets, _) => octets = got ++ t ∧ t.length = need
  | (.failed _, _) => t.length < need
  | (.pending, s) => t.length < need ∧ stuck s

theorem Exact.behind {b : UInt8} {got front t : Octets} {need : Nat} {came : Polled × σ}
    (fits : (b :: front).length ≤ need)
    (h : Exact stuck (got ++ b :: front) (need - (front.length + 1)) t came) :
    Exact stuck got need (b :: front ++ t) came := by
  rcases came with ⟨polled, s⟩
  have length : (b :: front ++ t).length = front.length + 1 + t.length := by
    rw [List.length_append, List.length_cons]
  rw [List.length_cons] at fits
  cases polled with
  | ready octets =>
    obtain ⟨rfl, whole⟩ := h
    exact ⟨List.append_assoc _ _ _, by omega⟩
  | failed e =>
    have h : t.length < need - (front.length + 1) := h
    show (b :: front ++ t).length < need
    omega
  | pending =>
    obtain ⟨less, waits⟩ := h
    exact ⟨by omega, waits⟩

variable [Readable σ]

theorem readExactFrom (m : Metered took stuck) (eof : IoError) (got : Array UInt8) (need : Nat)
    (s : σ) : ∃ t, took t s (Readable.readExactFrom eof got need s).2 ∧
      Exact stuck got.toList need t (Readable.readExactFrom eof got need s) := by
  fun_induction Readable.readExactFrom eof got need s with
  | case1 got s => exact ⟨[], m.nil s, (List.append_nil _).symm, rfl⟩
  | case2 got need s needs s' came =>
    have first := m.read need s
    rw [came] at first
    exact ⟨[], first, Nat.pos_of_ne_zero needs⟩
  | case3 got need s needs b front s' came ih =>
    have first := m.read need s
    have fits := m.short need s
    rw [came] at first fits
    obtain ⟨t, more, exactly⟩ := ih
    rw [Array.toList_appendList] at exactly
    exact ⟨b :: front ++ t, m.append first more, exactly.behind fits⟩
  | case4 got need s needs e s' came =>
    have first := m.read need s
    rw [came] at first
    exact ⟨[], first, Nat.pos_of_ne_zero needs⟩
  | case5 got need s needs s' came =>
    have first := m.read need s
    have waits := m.waits need s
    rw [came] at first waits
    exact ⟨[], first, Nat.pos_of_ne_zero needs, waits rfl⟩

theorem drainFrom (m : Metered took stuck) (got : Array UInt8) (s : σ) :
    ∃ t, took t s (Readable.drainFrom got s).2 ∧
      (Readable.drainFrom got s).1.1 = got.toList ++ t := by
  fun_induction Readable.drainFrom got s with
  | case1 got s s' came =>
    have first := m.read Readable.drainRoom s
    rw [came] at first
    exact ⟨[], first, (List.append_nil _).symm⟩
  | case2 got s b front s' came _ ih =>
    have first := m.read Readable.drainRoom s
    rw [came] at first
    obtain ⟨t, more, all⟩ := ih
    rw [Array.toList_appendList, List.append_assoc] at all
    exact ⟨b :: front ++ t, m.append first more, all⟩
  | case3 got s e s' came =>
    have first := m.read Readable.drainRoom s
    rw [came] at first
    exact ⟨[], first, (List.append_nil _).symm⟩
  | case4 got s s' came =>
    have first := m.read Readable.drainRoom s
    rw [came] at first
    exact ⟨[], first, (List.append_nil _).symm⟩

end Metered

/-! ## Sources -/

namespace Source

/-- From the first source to the second these octets were taken, and no silence came up. -/
structure Took (t : Octets) (s s' : Source) : Prop where
  unread : s.unread = t ++ s'.unread
  silence : .silence ∈ s' → .silence ∈ s

theorem silence_settle {s : Source} (h : .silence ∈ s.settle) : .silence ∈ s := by
  fun_induction settle s with
  | case1 rest ih => exact List.mem_cons_of_mem _ (ih h)
  | case2 rest ih => exact List.mem_cons_of_mem _ (ih h)
  | case3 => exact h

theorem silence_poll {room : Nat} {s : Source} (h : .silence ∈ (s.poll room).2) :
    .silence ∈ s := by
  fun_induction poll room s with
  | case1 => exact h
  | case2 rest ih => exact List.mem_cons_of_mem _ (ih h)
  | case3 b t rest =>
    rcases List.mem_cons.1 h with same | h
    · cases same
    · exact List.mem_cons_of_mem _ h
  | case4 e rest => exact List.mem_cons_of_mem _ h
  | case5 rest => exact List.mem_cons_of_mem _ h
  | case6 rest => exact h

/-- Whoever waits for ever sits through a silence. -/
theorem silence_of_pending {room : Nat} {s : Source} (h : (s.settle.poll room).1 = .pending) :
    .silence ∈ (s.settle.poll room).2 := by
  fun_induction settle s with
  | case1 rest ih => exact ih h
  | case2 rest ih => exact ih h
  | case3 s notWait notEmpty =>
    cases s with
    | nil => cases h
    | cons arrival rest =>
      cases arrival with
      | wait => exact absurd rfl (notWait rest)
      | failure e => cases h
      | silence => exact List.mem_cons_self
      | data octets =>
        cases octets with
        | nil => exact absurd rfl (notEmpty rest)
        | cons b t => cases h

theorem metered : Metered Took fun s : Source => .silence ∈ s where
  nil _ := ⟨rfl, id⟩
  append first more :=
    ⟨by rw [first.unread, more.unread, List.append_assoc], first.silence ∘ more.silence⟩
  unread h := h.unread
  read room s := by
    refine ⟨(read_unread room s).symm, fun silence => ?_⟩
    change .silence ∈ (read room s).2 at silence
    unfold read at silence
    split at silence
    · exact silence
    · exact silence_settle (silence_poll silence)
  short room s := by
    show (read room s).1.octets.length ≤ room
    unfold read
    split
    · exact Nat.zero_le _
    · exact length_poll room s.settle
  waits room s := by
    show (read room s).1 = .pending → .silence ∈ (read room s).2
    unfold read
    split
    · exact nofun
    · exact silence_of_pending

end Source

/-! ## Octets held in front -/

variable {σ : Type} {took : Octets → σ → σ → Prop} {stuck : σ → Prop} [Readable σ]

/-- These octets were taken: held ones as far as there were any, the others from behind them. -/
structure Replay.Took (took : Octets → σ → σ → Prop) (t : Octets) (r r' : Replay σ) : Prop where
  held : r'.held = r.held.drop t.length
  source : took (t.drop r.held.length) r.source r'.source
  unread : r.unread = t ++ r'.unread

/-- Is nothing held, and what is behind it stuck? -/
def Replay.Stuck (stuck : σ → Prop) (r : Replay σ) : Prop :=
  r.held = [] ∧ stuck r.source

theorem Metered.replay (m : Metered took stuck) :
    Metered (Replay.Took took) (Replay.Stuck stuck) where
  nil r := ⟨rfl, by rw [List.drop_nil]; exact m.nil _, rfl⟩
  append {t t' r r' r''} first more := by
    refine ⟨?_, ?_, ?_⟩
    · rw [more.held, first.held, List.drop_drop, List.length_append]
    · have source := m.append first.source more.source
      rw [first.held, List.length_drop] at source
      rw [List.drop_append]
      exact source
    · rw [first.unread, more.unread, List.append_assoc]
  unread h := h.unread
  read room r := by
    refine ⟨?_, ?_, (Replay.read_unread room r).symm⟩
    · rcases r with ⟨held, source⟩
      cases held with
      | nil => exact List.drop_nil.symm
      | cons b held =>
        show (b :: held).drop room = (b :: held).drop ((b :: held).take room).length
        rw [List.length_take, ← List.drop_eq_drop_min]
    · rcases r with ⟨held, source⟩
      cases held with
      | nil => exact m.read room source
      | cons b held =>
        have none : ((b :: held).take room).drop (b :: held).length = [] := by
          rw [List.drop_eq_nil_iff, List.length_take]
          exact Nat.min_le_right _ _
        show took (((b :: held).take room).drop (b :: held).length) source source
        rw [none]
        exact m.nil source
  short room r := by
    rcases r with ⟨held, source⟩
    cases held with
    | nil => exact m.short room source
    | cons b held => exact List.length_take_le room (b :: held)
  waits room r pending := by
    rcases r with ⟨held, source⟩
    cases held with
    | nil => exact ⟨rfl, m.waits room source pending⟩
    | cons b held => cases pending

/-- These octets were taken through a peek, and a copy was kept. -/
structure Peek.Took (took : Octets → σ → σ → Prop) (t : Octets) (p p' : Peek σ) : Prop where
  replay : Replay.Took took t p.replay p'.replay
  recorded : p'.recorded.toList = p.recorded.toList ++ t

theorem Metered.peek (m : Metered took stuck) :
    Metered (Peek.Took took) fun p => Replay.Stuck stuck p.replay where
  nil p := ⟨m.replay.nil p.replay, (List.append_nil _).symm⟩
  append first more := by
    refine ⟨m.replay.append first.replay more.replay, ?_⟩
    rw [more.recorded, first.recorded, List.append_assoc]
  unread h := h.replay.unread
  read room p := ⟨m.replay.read room p.replay, Array.toList_appendList⟩
  short room p := m.replay.short room p.replay
  waits room p := m.replay.waits room p.replay

theorem Metered.readOnly (m : Metered took stuck) :
    Metered (fun t (s s' : ReadOnly σ) => took t s.inner s'.inner) fun s => stuck s.inner where
  nil s := m.nil s.inner
  append := m.append
  unread := m.unread
  read room s := m.read room s.inner
  short room s := m.short room s.inner
  waits room s := m.waits room s.inner

namespace Peek.Took

variable {t : Octets} {r : Replay σ} {p : Peek σ}

theorem consumed (h : Peek.Took took t (Peek.start r) p) : p.consumed = t.length := by
  rw [Peek.consumed, ← Array.length_toList, h.recorded]
  rfl

/-- What a closed peek leaves to be read again is what was held when it was opened, or all that was
read through it if that is more. -/
theorem buffered (h : Peek.Took took t (Peek.start r) p) :
    p.close.buffered = max r.buffered t.length := by
  have held : p.replay.held.length = r.held.length - t.length := by
    rw [h.replay.held, List.length_drop]
    rfl
  have closed : p.close.buffered = p.consumed + p.replay.held.length := by
    rw [Replay.buffered, Peek.close, List.length_append, Array.length_toList]
    rfl
  rw [closed, h.consumed, held, Replay.buffered]
  omega

end Peek.Took

end Sluice

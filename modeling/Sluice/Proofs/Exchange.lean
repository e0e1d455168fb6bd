import Mathlib.Data.List.Induction
import Sluice.Proofs.Conversation
import Sluice.Proofs.Copying

/-
  What passes between the two ends of a stream while somebody talks over it. Of a `Wire` it is known
  which octets arrive, what comes behind them, and who takes what is said. An exchange tells what is
  heard, what is said, and what comes of it. A conversation `Obeys` an exchange if it comes to an
  end of it just where these octets arrive, whatever the sizes of the reads, and leaves alone all
  that arrives behind them; and if what arrives breaks off, so does the conversation. There is one
  rule for each way of putting conversations together.
-/

namespace Sluice

/-! ## Numbers -/

namespace Octets

theorem toNat_lt (s : Octets) : toNat s < Nat.pow 256 s.length := by
  induction s using List.reverseRecOn with
  | nil => decide
  | append_singleton s b ih =>
    have bound : b.toNat < 256 := b.toNat_lt
    have power : Nat.pow 256 (s ++ [b]).length = Nat.pow 256 s.length * 256 := by
      rw [List.length_append]
      rfl
    rw [toNat_append_singleton, power]
    omega

/-- Octets are what their number is written as. -/
theorem ofNat_toNat (s : Octets) : ofNat s.length (toNat s) = s := by
  induction s using List.reverseRecOn with
  | nil => rfl
  | append_singleton s b ih =>
    have bound : b.toNat < 256 := b.toNat_lt
    have high : (toNat s * 256 + b.toNat) / 256 = toNat s := by omega
    have low : (toNat s * 256 + b.toNat) % 256 = b.toNat := by omega
    rw [List.length_append, List.length_singleton, toNat_append_singleton, ofNat, high, low, ih,
      UInt8.ofNat_toNat]

end Octets

theorem Outcome.map_id {ε α : Type} (o : Outcome ε α) : o.map id = o := by
  cases o <;> rfl

/-! ## Wires -/

/-- What a read comes to when no more octets arrive. -/
def Readable.End.polled : Readable.End → Polled
  | .eof => .ready []
  | .failed e => .failed e
  | .pending => .pending

/-- A stream seen with both its ends. -/
class Wire (σ : Type) [Readable σ] where
  /-- The octets that arrive before the stream ends, fails or falls silent. -/
  yield : σ → Octets
  /-- What comes behind them. -/
  ending : σ → Readable.End
  /-- Who takes what is said; nobody asks where nothing can be said. -/
  sink : σ → Sink
  /-- A read hands out a front of what arrives, or comes to what is behind it. -/
  read_cases {room : Nat} (positive : 0 < room) (s : σ) :
    (∃ b front s', Readable.read room s = (.ready (b :: front), s') ∧ front.length < room ∧
      yield s = b :: front ++ yield s' ∧ ending s' = ending s) ∨
    (yield s = [] ∧ (Readable.read room s).1 = (ending s).polled)
  sink_read (room : Nat) (s : σ) : sink (Readable.read room s).2 = sink s

namespace Source

theorem poll_settle_cases {room : Nat} (positive : 0 < room) (s : Source) :
    (∃ b front s', poll room (settle s) = (.ready (b :: front), s') ∧ front.length < room ∧
      s.yield = b :: front ++ s'.yield ∧ s'.ending = s.ending) ∨
    (s.yield = [] ∧ (poll room (settle s)).1 = s.ending.polled) := by
  obtain ⟨room, rfl⟩ := Nat.exists_eq_succ_of_ne_zero (Nat.ne_of_gt positive)
  fun_induction settle s with
  | case1 rest ih => exact ih
  | case2 rest ih => exact ih
  | case3 s notWait notEmpty =>
    cases s with
    | nil => exact Or.inr ⟨rfl, rfl⟩
    | cons arrival rest =>
      cases arrival with
      | wait => exact absurd rfl (notWait rest)
      | silence => exact Or.inr ⟨rfl, rfl⟩
      | failure e => exact Or.inr ⟨rfl, rfl⟩
      | data octets =>
        cases octets with
        | nil => exact absurd rfl (notEmpty rest)
        | cons b t =>
          refine Or.inl ⟨b, t.take room, _, rfl, ?_, ?_, rfl⟩
          · rw [List.length_take]
            omega
          · show b :: t ++ yield rest = b :: t.take room ++ (t.drop room ++ yield rest)
            rw [List.cons_append, List.cons_append, ← List.append_assoc, List.take_append_drop]

instance : Wire Source where
  yield := yield
  ending := ending
  sink _ := {}
  read_cases {room} positive s := by
    have read : Source.read room s = poll room (settle s) := if_neg (Nat.ne_of_gt positive)
    have cases := poll_settle_cases positive s
    rw [← read] at cases
    exact cases
  sink_read _ _ := rfl

end Source

variable {σ : Type} [Readable σ] [Wire σ]

theorem Replay.read_cases {room : Nat} (positive : 0 < room) (r : Replay σ) :
    (∃ b front r', r.read room = (.ready (b :: front), r') ∧ front.length < room ∧
      r.held ++ Wire.yield r.source = b :: front ++ (r'.held ++ Wire.yield r'.source) ∧
      Wire.ending r'.source = Wire.ending r.source) ∨
    (r.held ++ Wire.yield r.source = [] ∧ (r.read room).1 = (Wire.ending r.source).polled) := by
  rcases r with ⟨held, source⟩
  unfold Replay.read Replay.readBy
  cases held with
  | nil =>
    rcases Wire.read_cases positive source with ⟨b, front, s', read, short, yields, ends⟩ | h
    · refine Or.inl ⟨b, front, { source := s' }, ?_, short, yields, ends⟩
      simp only [read]
    · exact Or.inr h
  | cons b held =>
    obtain ⟨room, rfl⟩ := Nat.exists_eq_succ_of_ne_zero (Nat.ne_of_gt positive)
    refine Or.inl ⟨b, held.take room, { held := held.drop room, source }, rfl, ?_, ?_, rfl⟩
    · rw [List.length_take]
      omega
    · rw [List.cons_append, List.cons_append, ← List.append_assoc, List.take_append_drop]

instance : Wire (Replay σ) where
  yield r := r.held ++ Wire.yield r.source
  ending r := Wire.ending r.source
  sink r := Wire.sink r.source
  read_cases := Replay.read_cases
  sink_read room r := by
    rcases r with ⟨held, source⟩
    cases held with
    | nil => exact Wire.sink_read room source
    | cons b held => rfl

instance : Wire (Peek σ) where
  yield p := Wire.yield p.replay
  ending p := Wire.ending p.replay
  sink p := Wire.sink p.replay
  read_cases {room} positive p := by
    rcases Wire.read_cases positive p.replay with ⟨b, front, r, read, short, yields, ends⟩ | h
    · refine Or.inl ⟨b, front, ⟨r, p.recorded ++ (b :: front)⟩, ?_, short, yields, ends⟩
      show p.read room = _
      rw [Peek.read, show p.replay.read room = _ from read]
      rfl
    · exact Or.inr h
  sink_read room p := Wire.sink_read room p.replay

instance : Wire (ReadOnly σ) where
  yield s := Wire.yield s.inner
  ending s := Wire.ending s.inner
  sink s := Wire.sink s.inner
  read_cases {room} positive s := by
    rcases Wire.read_cases positive s.inner with ⟨b, front, s', read, rest⟩ | h
    · refine Or.inl ⟨b, front, ⟨s'⟩, ?_, rest⟩
      show ((Readable.read room s.inner).1, (⟨(Readable.read room s.inner).2⟩ : ReadOnly σ)) = _
      rw [read]
    · exact Or.inr h
  sink_read room s := Wire.sink_read room s.inner

instance : Wire Transport where
  yield t := t.source.yield
  ending t := t.source.ending
  sink t := t.sink
  read_cases {room} positive t := by
    rcases Wire.read_cases positive t.source with ⟨b, front, s', read, rest⟩ | h
    · refine Or.inl ⟨b, front, { t with source := s' }, ?_, rest⟩
      show ((t.source.read room).1, { t with source := (t.source.read room).2 }) = _
      rw [show t.source.read room = _ from read]
    · exact Or.inr h
  sink_read _ _ := rfl

/-! ## What passes -/

/-- From the first stream to the second just these octets were heard, and these said. -/
structure Passed (heard said : Octets) (s s' : σ) : Prop where
  yield : Wire.yield s = heard ++ Wire.yield s'
  unread : Readable.unread s = heard ++ Readable.unread s'
  ending : Wire.ending s' = Wire.ending s
  said : (Wire.sink s).Took said (Wire.sink s')

theorem passed_nil (s : σ) : Passed [] [] s s :=
  ⟨rfl, rfl, rfl, Sink.took_nil _⟩

theorem Passed.trans {heard heard' said said' : Octets} {s s' s'' : σ}
    (h : Passed heard said s s') (h' : Passed heard' said' s' s'') :
    Passed (heard ++ heard') (said ++ said') s s'' where
  yield := by rw [h.yield, h'.yield, List.append_assoc]
  unread := by rw [h.unread, h'.unread, List.append_assoc]
  ending := h'.ending.trans h.ending
  said := h.said.trans h'.said

/-- A read of a front hears it, and says nothing. -/
theorem passed_read {room : Nat} {s s' : σ} {b : UInt8} {front : Octets}
    (read : Readable.read room s = (.ready (b :: front), s'))
    (yields : Wire.yield s = b :: front ++ Wire.yield s')
    (ends : Wire.ending s' = Wire.ending s) : Passed (b :: front) [] s s' := by
  have unread := Readable.read_unread room s
  have sink := Wire.sink_read room s
  rw [read] at unread sink
  exact ⟨yields, unread.symm, ends, sink ▸ Sink.took_nil _⟩

/-- Has a sink room for all of this? -/
def Sink.HasRoom (said : Octets) (s : Sink) : Prop :=
  ∀ n ∈ s.capacity, said.length ≤ n

theorem Sink.hasRoom_nil (s : Sink) : s.HasRoom [] :=
  fun n _ => Nat.zero_le n

theorem Sink.HasRoom.front {said said' : Octets} {s : Sink} (h : s.HasRoom (said ++ said')) :
    s.HasRoom said := by
  intro n bound
  have := h n bound
  rw [List.length_append] at this
  omega

theorem Sink.HasRoom.behind {said said' : Octets} {s s' : Sink} (h : s.HasRoom (said ++ said'))
    (took : s.Took said s') : s'.HasRoom said' := by
  intro n left
  rw [took.capacity] at left
  obtain ⟨k, bound, rfl⟩ := Option.map_eq_some_iff.1 left
  have := h k bound
  rw [List.length_append] at this
  omega

/-- A text that breaks off: it is a front of the other, and not all of it. -/
def BreaksOff (s whole : Octets) : Prop :=
  s <+: whole ∧ s ≠ whole

/-- Reading an exact number of octets succeeds if so many arrive, and comes to what is behind them
if not. -/
theorem readExactFrom_cases (eof : IoError) (got : Array UInt8) (need : Nat) (s : σ) :
    (∃ front s', front.length = need ∧ Passed front [] s s' ∧
      Readable.readExactFrom eof got need s = (.ready (got.toList ++ front), s')) ∨
    ((Wire.yield s).length < need ∧ (Readable.readExactFrom eof got need s).1 =
      match Wire.ending s with
      | .eof => .failed eof
      | .failed e => .failed e
      | .pending => .pending) := by
  induction need using Nat.strongRecOn generalizing got s with
  | ind need ih =>
    rw [Readable.readExactFrom]
    by_cases zero : need = 0
    · refine Or.inl ⟨[], s, zero.symm, passed_nil s, ?_⟩
      rw [if_pos zero, List.append_nil]
    · rw [if_neg zero]
      have positive := Nat.pos_of_ne_zero zero
      rcases Wire.read_cases positive s with
        ⟨b, front, s', read, short, yields, ends⟩ | ⟨none, ends⟩
      · have first := passed_read read yields ends
        have less : need - (front.length + 1) < need := by omega
        rw [read]
        rcases ih _ less (got ++ (b :: front)) s' with
          ⟨more, s'', length, passed, done⟩ | ⟨few, same⟩
        · refine Or.inl ⟨b :: front ++ more, s'', ?_, first.trans passed, ?_⟩
          · rw [List.length_append, length, List.length_cons]
            omega
          · rw [Array.toList_appendList, List.append_assoc] at done
            exact done
        · rw [ends] at same
          refine Or.inr ⟨?_, same⟩
          rw [yields, List.length_append, List.length_cons]
          omega
      · refine Or.inr ⟨by rw [none]; exact positive, ?_⟩
        rcases e : Readable.read need s with ⟨polled, s'⟩
        rw [e] at ends
        obtain rfl : polled = _ := ends
        cases Wire.ending s <;> rfl

/-! ## Exchanges -/

/-- What may pass and what comes of it: the octets heard, the octets said, and the end of it. -/
abbrev Exchange (α : Type) : Type :=
  (heard said : Octets) → α → Prop

namespace Session

variable {ε α β : Type}

/-- Does a conversation go by an exchange? `cut` are the failures of one that breaks off. -/
structure Obeys (p : Session σ ε α) (P : Exchange α) (cut : ε → Prop) : Prop where
  /-- Where this arrives and that can be said, it comes to the end of it. -/
  complete : ∀ {s heard said a}, P heard said a → heard <+: Wire.yield s →
    (Wire.sink s).HasRoom said → ∃ s', p s = (.done a, s') ∧ Passed heard said s s'
  /-- It comes to no other end. -/
  sound : ∀ {s s' a}, p s = (.done a, s') → ∃ heard said, P heard said a ∧ Passed heard said s s'
  breaks : ∀ {s heard said a}, P heard said a → BreaksOff (Wire.yield s) heard →
    Wire.ending s = .eof → (Wire.sink s).HasRoom said → ∃ e, (p s).1 = .failed e ∧ cut e

variable {cut : ε → Prop}

theorem Obeys.congr {p : Session σ ε α} {P Q : Exchange α} (h : Obeys p P cut)
    (same : ∀ heard said a, Q heard said a ↔ P heard said a) : Obeys p Q cut where
  complete q := h.complete ((same _ _ _).1 q)
  sound done := by
    obtain ⟨heard, said, a, passed⟩ := h.sound done
    exact ⟨heard, said, (same _ _ _).2 a, passed⟩
  breaks q := h.breaks ((same _ _ _).1 q)

/-- Where two exchanges could go on, they are the same. -/
theorem Obeys.unique {p : Session σ ε α} {P : Exchange α} (h : Obeys p P cut) {s : σ}
    {heard heard' said said' : Octets} {a a' : α} (start : P heard said a)
    (start' : P heard' said' a') (front : heard <+: Wire.yield s) (front' : heard' <+: Wire.yield s)
    (room : (Wire.sink s).HasRoom said) (room' : (Wire.sink s).HasRoom said') :
    a = a' ∧ heard = heard' := by
  obtain ⟨s', done, passed⟩ := h.complete start front room
  obtain ⟨s'', done', passed'⟩ := h.complete start' front' room'
  obtain ⟨same, rfl⟩ := Prod.mk.inj (done.symm.trans done')
  exact ⟨Outcome.done.inj same,
    List.append_cancel_right (passed.yield.symm.trans passed'.yield)⟩

theorem not_breaksOff_nil (s : Octets) : ¬ BreaksOff s [] :=
  fun h => h.2 (List.prefix_nil.1 h.1)

theorem obeys_pure (a : α) :
    Obeys (pure a : Session σ ε α) (fun heard said b => heard = [] ∧ said = [] ∧ b = a) cut where
  complete := by
    rintro s _ _ _ ⟨rfl, rfl, rfl⟩ - -
    exact ⟨s, rfl, passed_nil s⟩
  sound := by
    intro s s' b done
    obtain ⟨same, rfl⟩ := Prod.mk.inj done
    exact ⟨[], [], ⟨rfl, rfl, (Outcome.done.inj same).symm⟩, passed_nil s⟩
  breaks := by
    rintro s _ _ _ ⟨rfl, -, -⟩ off
    exact absurd off (not_breaksOff_nil _)

theorem obeys_fail {P : Exchange α} (none : ∀ heard said a, ¬ P heard said a) (e : ε) :
    Obeys (fail e : Session σ ε α) P cut where
  complete h := absurd h (none _ _ _)
  sound done := nomatch done
  breaks h := absurd h (none _ _ _)

theorem obeys_bind {p : Session σ ε α} {f : α → Session σ ε β} {P : Exchange α} {Q : Exchange β}
    (first : Obeys p P cut)
    (starts : ∀ {heard said b}, Q heard said b → ∃ h t a h' t', P h t a ∧
      heard = h ++ h' ∧ said = t ++ t')
    (rest : ∀ {h t a}, P h t a → Obeys (f a) (fun h' t' => Q (h ++ h') (t ++ t')) cut) :
    Obeys (p >>= f) Q cut where
  complete := by
    intro s _ _ b q front room
    obtain ⟨h, t, a, h', t', start, rfl, rfl⟩ := starts q
    obtain ⟨s', done, passed⟩ :=
      first.complete start ((List.prefix_append h h').trans front) room.front
    rw [passed.yield] at front
    obtain ⟨s'', done', passed'⟩ := (rest start).complete q
      ((List.prefix_append_right_inj h).1 front) (room.behind passed.said)
    exact ⟨s'', (bind_done done).trans done', passed.trans passed'⟩
  sound := by
    intro s s'' b done
    obtain ⟨a, s', ended, done⟩ := done_of_bind done
    obtain ⟨h, t, start, passed⟩ := first.sound ended
    obtain ⟨h', t', q, passed'⟩ := (rest start).sound done
    exact ⟨h ++ h', t ++ t', q, passed.trans passed'⟩
  breaks := by
    intro s _ _ b q off eof room
    obtain ⟨h, t, a, h', t', start, rfl, rfl⟩ := starts q
    by_cases whole : h <+: Wire.yield s
    · obtain ⟨s', done, passed⟩ := first.complete start whole room.front
      obtain ⟨front, short⟩ := off
      rw [passed.yield] at front short
      have off' : BreaksOff (Wire.yield s') h' :=
        ⟨(List.prefix_append_right_inj h).1 front, fun same => short (by rw [same])⟩
      obtain ⟨e, failed, is⟩ :=
        (rest start).breaks q off' (passed.ending.trans eof) (room.behind passed.said)
      exact ⟨e, by rw [bind_done done]; exact failed, is⟩
    · have front := (List.prefix_or_prefix_of_prefix off.1 (List.prefix_append h h')).resolve_right
        whole
      have off' : BreaksOff (Wire.yield s) h :=
        ⟨front, fun same => whole (same ▸ List.prefix_rfl)⟩
      obtain ⟨e, failed, is⟩ := first.breaks start off' eof room.front
      exact ⟨e, congrArg Prod.fst (bind_failed (Prod.ext failed rfl) f), is⟩

/-- Reading an exact number of octets, with what came of it put into other words. -/
theorem obeys_readExactFrom (word : IoError → ε) (eof : IoError) (f : Octets → α) (n : Nat)
    (is : cut (word eof)) :
    Obeys (fun s : σ =>
        (((ofPolled word (Readable.readExact eof n s).1).map f : Outcome ε α),
          (Readable.readExact eof n s).2))
      (fun heard said a => heard.length = n ∧ said = [] ∧ a = f heard) cut where
  complete := by
    rintro s heard _ _ ⟨length, rfl, rfl⟩ front -
    rcases readExactFrom_cases eof #[] n s with ⟨front', s', length', passed, done⟩ | ⟨few, -⟩
    · have same : front' = heard := by
        rw [passed.yield] at front
        exact (List.prefix_of_prefix_length_le front (List.prefix_append _ _)
          (by omega)).eq_of_length (by omega) |>.symm
      refine ⟨s', ?_, same ▸ passed⟩
      rw [Readable.readExact, done, ← same]
      rfl
    · have := front.length_le
      omega
  sound := by
    intro s s' a done
    rcases readExactFrom_cases eof #[] n s with ⟨front, s'', length, passed, read⟩ | ⟨-, ends⟩
    · rw [Readable.readExact, read] at done
      obtain ⟨same, rfl⟩ := Prod.mk.inj done
      exact ⟨front, [], ⟨length, rfl, (Outcome.done.inj same).symm⟩, passed⟩
    · rw [Readable.readExact, ends] at done
      cases ending : Wire.ending s <;> simp [ending, ofPolled, Outcome.map] at done
  breaks := by
    rintro s heard _ _ ⟨length, rfl, rfl⟩ off eof' -
    rcases readExactFrom_cases eof #[] n s with ⟨front, s', length', passed, -⟩ | ⟨-, ends⟩
    · have short := off.1.length_le
      rw [passed.yield, List.length_append] at short
      exact absurd (off.1.eq_of_length (by rw [passed.yield, List.length_append]; omega)) off.2
    · rw [eof'] at ends
      refine ⟨word eof, ?_, is⟩
      rw [Readable.readExact, ends]
      rfl

theorem obeys_readExact (word : IoError → ε) (n : Nat) (is : cut (word .earlyEof)) :
    Obeys (readExact (σ := σ) word n)
      (fun heard said octets => heard.length = n ∧ said = [] ∧ octets = heard) cut := by
  have h := obeys_readExactFrom (σ := σ) word .earlyEof id n is
  simp only [Outcome.map_id] at h
  exact h

theorem obeys_readNumber (word : IoError → ε) (width : Nat) (is : cut (word .noOctet)) :
    Obeys (readNumber (σ := σ) word width)
      (fun heard said k => heard.length = width ∧ said = [] ∧ k = Octets.toNat heard) cut :=
  obeys_readExactFrom word .noOctet Octets.toNat width is

/-- What goes on behind a reader of an exact number of octets. -/
theorem obeys_bind_exact {p : Session σ ε α} {f : α → Session σ ε β} {value : Octets → α} {n : Nat}
    {Q : Exchange β}
    (first : Obeys p (fun heard said a => heard.length = n ∧ said = [] ∧ a = value heard) cut)
    (enough : ∀ {heard said b}, Q heard said b → n ≤ heard.length)
    (rest : ∀ {front : Octets}, front.length = n →
      Obeys (f (value front)) (fun heard said => Q (front ++ heard) said) cut) :
    Obeys (p >>= f) Q cut := by
  refine obeys_bind first ?_ ?_
  · intro heard said b q
    exact ⟨heard.take n, [], _, heard.drop n, said,
      ⟨List.length_take_of_le (enough q), rfl, rfl⟩, (List.take_append_drop n heard).symm, rfl⟩
  · rintro front _ _ ⟨length, rfl, rfl⟩
    exact rest length

theorem obeys_readOctet (word : IoError → ε) (is : cut (word .noOctet)) :
    Obeys (readOctet (σ := σ) word) (fun heard said b => heard = [b] ∧ said = []) cut := by
  refine obeys_bind_exact (obeys_readNumber word 1 is) ?_ ?_
  · rintro _ _ b ⟨rfl, rfl⟩
    exact Nat.le_refl 1
  · intro octets length
    obtain ⟨b, rfl⟩ := List.length_eq_one_iff.1 length
    refine (obeys_pure _).congr fun h' t' b' => ?_
    have value : UInt8.ofNat (Octets.toNat [b]) = b := by simp [Octets.toNat]
    rw [value, List.cons_append, List.nil_append, List.cons.injEq]
    constructor
    · rintro ⟨⟨rfl, rfl⟩, rfl⟩
      exact ⟨rfl, rfl, rfl⟩
    · rintro ⟨rfl, rfl, rfl⟩
      exact ⟨⟨rfl, rfl⟩, rfl⟩

theorem written_of_send {word : IoError → ε} {data : Octets} {t : Transport} {a : Unit}
    (done : (send word data t).1 = .done a) : (t.sink.writeAll data).1 = .done () := by
  rw [send] at done
  cases outcome : (t.sink.writeAll data).1 <;> simp [outcome, Outcome.mapError] at done
  rfl

theorem obeys_send (word : IoError → ε) (data : Octets) :
    Obeys (send word data) (fun heard said _ => heard = [] ∧ said = data) cut where
  complete := by
    rintro t _ _ ⟨⟩ ⟨rfl, rfl⟩ - room
    obtain ⟨sink, done, took⟩ := Sink.writeAll_fits room
    have done : t.sink.writeAll _ = _ := done
    refine ⟨{ t with sink }, ?_, rfl, rfl, rfl, took⟩
    rw [send, done]
    rfl
  sound := by
    intro t t' _ done
    obtain ⟨taken, -, took, all, -⟩ := Sink.took_writeAll data t.sink
    obtain rfl := all (written_of_send (congrArg Prod.fst done))
    obtain ⟨-, rfl⟩ := Prod.mk.inj done
    exact ⟨[], _, ⟨rfl, rfl⟩, rfl, rfl, rfl, took⟩
  breaks := by
    rintro t _ _ _ ⟨rfl, -⟩ off
    exact absurd off (not_breaksOff_nil _)

/-- What goes on behind a message. -/
theorem obeys_bind_send {f : Unit → Session Transport ε β} {Q : Exchange β} (word : IoError → ε)
    (data : Octets) (starts : ∀ {heard said b}, Q heard said b → data <+: said)
    (rest : Obeys (f ()) (fun heard said => Q heard (data ++ said)) cut) :
    Obeys (send word data >>= f) Q cut := by
  refine obeys_bind (obeys_send word data) ?_ ?_
  · intro heard said b q
    obtain ⟨said, rfl⟩ := starts q
    exact ⟨[], data, (), heard, said, ⟨rfl, rfl⟩, rfl, rfl⟩
  · rintro _ _ _ ⟨rfl, rfl⟩
    exact rest

/-! ## What is said in any case -/

/-- Whatever the conversation comes to from here, it has said a front of this; all of it if it came
to its end. -/
def Says (t : Transport) (p : Session Transport ε α) (said : Octets) : Prop :=
  ∃ front, front <+: said ∧ t.sink.Took front (p t).2.sink ∧ ∀ a, (p t).1 = .done a → front = said

theorem says_silent (t : Transport) {p : Session Transport ε α}
    (keeps : Keeps (fun t : Transport => t.sink) p) : Says t p [] := by
  refine ⟨[], List.nil_prefix, ?_, fun _ _ => rfl⟩
  rw [show (p t).2.sink = t.sink from keeps t]
  exact Sink.took_nil _

theorem says_send (t : Transport) (word : IoError → ε) (data : Octets) :
    Says t (send word data) data := by
  obtain ⟨taken, front, took, all, -⟩ := Sink.took_writeAll data t.sink
  exact ⟨taken, front, took, fun a done => all (written_of_send done)⟩

theorem says_bind {t : Transport} {p : Session Transport ε α} {f : α → Session Transport ε β}
    {said said' : Octets} (first : Says t p said)
    (rest : ∀ a t', p t = (.done a, t') → Says t' (f a) said') :
    Says t (p >>= f) (said ++ said') := by
  obtain ⟨front, isFront, took, all⟩ := first
  rcases ended : p t with ⟨outcome, t'⟩
  rw [ended] at took all
  cases outcome with
  | done a =>
    obtain rfl := all a rfl
    obtain ⟨front', isFront', took', all'⟩ := rest a t' ended
    rw [Says, bind_done ended]
    refine ⟨front ++ front', (List.prefix_append_right_inj front).2 isFront', took.trans took', ?_⟩
    exact fun b done => by rw [all' b done]
  | failed e =>
    rw [Says, bind_failed ended]
    exact ⟨front, isFront.trans (List.prefix_append _ _), took, nofun⟩
  | pending =>
    rw [Says, bind_pending ended]
    exact ⟨front, isFront.trans (List.prefix_append _ _), took, nofun⟩

/-- What is said next may depend on what the conversation came to. -/
theorem says_bind_some {t : Transport} {p : Session Transport ε α}
    {f : α → Session Transport ε β} {said : Octets} {P : Octets → Prop} (some : ∃ said', P said')
    (first : Says t p said)
    (rest : ∀ a t', p t = (.done a, t') → ∃ said', P said' ∧ Says t' (f a) said') :
    ∃ said', P said' ∧ Says t (p >>= f) (said ++ said') := by
  by_cases ended : ∃ a t', p t = (.done a, t')
  · obtain ⟨a, t', ended⟩ := ended
    obtain ⟨said', holds, next⟩ := rest a t' ended
    refine ⟨said', holds, says_bind first fun b t'' ended' => ?_⟩
    obtain ⟨same, rfl⟩ := Prod.mk.inj (ended.symm.trans ended')
    exact Outcome.done.inj same ▸ next
  · obtain ⟨said', holds⟩ := some
    exact ⟨said', holds, says_bind first fun a t' done => absurd ⟨a, t', done⟩ ended⟩

/-- What only listens makes no difference to what is said. -/
theorem says_behind {t : Transport} {p : Session Transport ε α} {f : α → Session Transport ε β}
    {said : Octets} (keeps : Keeps (fun t : Transport => t.sink) p)
    (rest : ∀ a t', p t = (.done a, t') → Says t' (f a) said) : Says t (p >>= f) said :=
  says_bind (says_silent t keeps) rest

end Session

/-! ## Coming to an end -/

theorem Sink.stalls_of_pending {data : Octets} {s s' : Sink} (h : s.write data = (.pending, s')) :
    s.whenFull = .stalls := by
  unfold write at h
  split at h
  · split at h
    · simp at h
    · next stalls => exact stalls
  · simp at h

theorem Sink.stalls_of_writeAll {data : Octets} {s : Sink} (h : (s.writeAll data).1 = .pending) :
    s.whenFull = .stalls := by
  fun_induction writeAll data s with
  | case1 => cases h
  | case2 => cases h
  | case3 s b rest s' stuck => exact stalls_of_pending stuck
  | case4 => cases h
  | case5 s b rest n s' wrote ih => exact (took_write wrote).whenFull ▸ ih h

/-- A far side that does not fall silent, and takes or refuses what is said. -/
structure Lively (t : Transport) : Prop where
  speaks : t.source.ending ≠ .pending
  listens : t.sink.whenFull ≠ .stalls

theorem Lively.passed {heard said : Octets} {t t' : Transport} (h : Lively t)
    (passed : Passed heard said t t') : Lively t' where
  speaks := by
    have same : t'.source.ending = t.source.ending := passed.ending
    rw [same]
    exact h.speaks
  listens := by
    have same : t'.sink.whenFull = t.sink.whenFull := passed.said.whenFull
    rw [same]
    exact h.listens

namespace Session

variable {ε α β : Type}

/-- Does a conversation come to an end with every lively far side? -/
def Ends (p : Session Transport ε α) : Prop :=
  ∀ t, Lively t → (p t).1 ≠ .pending ∧ ∀ a t', p t = (.done a, t') → Lively t'

theorem ends_pure (a : α) : Ends (pure a : Session Transport ε α) := by
  intro t lively
  refine ⟨?_, fun _ _ done => (Prod.mk.inj done).2 ▸ lively⟩
  show Outcome.done a ≠ .pending
  simp

theorem ends_failed {p : Session Transport ε α} {t t' : Transport} {e : ε}
    (h : p t = (.failed e, t')) :
    (p t).1 ≠ .pending ∧ ∀ a t'', p t = (.done a, t'') → Lively t'' := by
  rw [h]
  simp

theorem ends_fail (e : ε) : Ends (fail e : Session Transport ε α) :=
  fun _ _ => ends_failed rfl

theorem ends_bind {p : Session Transport ε α} {f : α → Session Transport ε β} (hp : Ends p)
    (hf : ∀ a, Ends (f a)) : Ends (p >>= f) := by
  intro t lively
  obtain ⟨ends, goesOn⟩ := hp t lively
  rcases came : p t with ⟨outcome, t'⟩
  rw [came] at ends
  cases outcome with
  | done a =>
    rw [bind_done came]
    exact hf a t' (goesOn a t' came)
  | failed e => exact ends_failed (bind_failed came f)
  | pending => exact absurd rfl ends

/-- Reading an exact number of octets, with what came of it put into other words. -/
theorem ends_readExactFrom (word : IoError → ε) (eof : IoError) (f : Octets → α) (n : Nat) :
    Ends fun t => (((ofPolled word (Readable.readExact eof n t).1).map f : Outcome ε α),
      (Readable.readExact eof n t).2) := by
  intro t lively
  rcases came : Readable.readExact eof n t with ⟨polled, t'⟩
  dsimp only
  rw [came]
  rcases readExactFrom_cases eof #[] n t with ⟨front, t'', -, passed, read⟩ | ⟨-, ends⟩
  · obtain ⟨rfl, rfl⟩ := Prod.mk.inj (came.symm.trans read)
    refine ⟨?_, fun a t'' done => (Prod.mk.inj done).2 ▸ lively.passed passed⟩
    simp [ofPolled, Outcome.map]
  · have failed : ∃ e, polled = .failed e := by
      rw [Readable.readExact] at came
      rw [came] at ends
      cases ending : Wire.ending t with
      | eof => exact ⟨eof, by rw [ending] at ends; exact ends⟩
      | failed e => exact ⟨e, by rw [ending] at ends; exact ends⟩
      | pending => exact absurd ending lively.speaks
    obtain ⟨e, rfl⟩ := failed
    simp [ofPolled, Outcome.map]

theorem ends_readExact (word : IoError → ε) (n : Nat) :
    Ends (readExact (σ := Transport) word n) := by
  have h := ends_readExactFrom word .earlyEof id n
  simp only [Outcome.map_id] at h
  exact h

theorem ends_send (word : IoError → ε) (data : Octets) : Ends (send word data) := by
  intro t lively
  refine ⟨fun stuck => ?_, fun _ t' done => ?_⟩
  · have full : (t.sink.writeAll data).1 = .pending := by
      rw [send] at stuck
      cases outcome : (t.sink.writeAll data).1 <;> simp [outcome, Outcome.mapError] at stuck ⊢
    exact lively.listens (Sink.stalls_of_writeAll full)
  · obtain ⟨said, -, took, -⟩ := Sink.took_writeAll data t.sink
    obtain ⟨-, rfl⟩ := Prod.mk.inj done
    exact ⟨lively.speaks, took.whenFull ▸ lively.listens⟩

end Session

end Sluice

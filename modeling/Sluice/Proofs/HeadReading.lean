import Sluice.Proofs.Exchange
import Sluice.Proofs.FieldRoom
import Sluice.Proofs.Sniffing

/-
  Reading a request head from a stream. After each read all that has come is judged anew, so the
  outcome might hang on how the stream falls into reads. It does not: of two fronts of the stream
  that can be judged the longer one says what the shorter said (`parse_append`), so a text that can
  be judged is told alike, however it arrives (`readHeadFrom_told`).
-/

namespace Sluice

open Session

namespace Http

/-! ## Judging a head -/

/-- A judgement lasts if it found a head or if lines are paired. -/
theorem parseWith_append (slots : Nat) (positive : 0 < slots) {s : Octets}
    (told : parseWith slots positive s ≠ .ok none)
    (lasting : Paired s ∨ ∃ found, parseWith slots positive s = .ok (some found)) (t : Octets) :
    parseWith slots positive (s ++ t) = Scanner.grow t (parseWith slots positive s) := by
  fun_induction parseWith slots positive s with
  | case1 slots positive tooMany room ih =>
    have answered : (Request.scanner slots).run s ≠ .ok none := by simp [tooMany]
    have tooMany' := Scanner.run_append (stable_request slots) answered t
    rw [tooMany] at tooMany'
    have room' : slots ≤ (s ++ t).length / minFieldLength := by
      rw [List.length_append, minFieldLength]
      rw [minFieldLength] at room
      omega
    rw [parseWith_more positive tooMany' room']
    exact ih told lasting
  | case2 slots positive tooMany full =>
    rcases lasting with paired | ⟨found, done⟩
    · have := (bad_request_iff.1 (Scanner.run_eq_error.1 tooMany)).length_paired paired
      rw [minFieldLength] at full
      omega
    · cases done
  | case3 slots positive other =>
    have same := Scanner.run_append (stable_request slots) told t
    rw [parseWith_eq positive (fun tooMany => ?_), same]
    rw [tooMany] at same
    cases answer : (Request.scanner slots).run s with
    | error f =>
      rw [answer] at same
      exact other (answer.trans same.symm)
    | ok found =>
      rw [answer] at same
      cases same

theorem parse_found {s rest : Octets} {r : Request}
    (h : parseWith firstSlots (by decide) s = .ok (some (r, rest))) :
    Head.parse s = (hostOf r).map fun host => some
      { length := s.length - rest.length
        method := String.ofList (r.method.map fun b => Char.ofNat b.toNat)
        host } := by
  rw [Head.parse_eq, h]
  rfl

/-- What is said of a head lasts if it is one or if lines are paired. -/
theorem parse_append {s : Octets} (told : Head.parse s ≠ .ok none)
    (lasting : Paired s ∨ ∃ head, Head.parse s = .ok (some head)) (t : Octets) :
    Head.parse (s ++ t) = Head.parse s := by
  have more := parseWith_append firstSlots (by decide) (s := s)
  cases parsed : parseWith firstSlots (by decide) s with
  | error f =>
    have same : ∀ text, parseWith firstSlots (by decide) text = .error f →
        Head.parse text = .error (.grammar f) := by
      intro text h
      rw [Head.parse, h]
    rw [same s parsed] at lasting ⊢
    rw [parsed] at more
    have paired : Paired s := lasting.resolve_right (by rintro ⟨head, h⟩; cases h)
    exact same _ (more (by simp) (Or.inl paired) t)
  | ok found =>
    rw [parsed] at more
    cases found with
    | none => exact absurd (by rw [Head.parse, parsed]) told
    | some found =>
      obtain ⟨r, rest⟩ := found
      have length : (s ++ t).length - (rest ++ t).length = s.length - rest.length := by
        rw [List.length_append, List.length_append]
        omega
      have grown : parseWith firstSlots (by decide) (s ++ t) = .ok (some (r, rest ++ t)) :=
        more (by simp) (Or.inr ⟨_, rfl⟩) t
      rw [parse_found parsed, parse_found grown, length]

/-- A head is no longer than the text that holds it. -/
theorem length_parse {s : Octets} {head : Head} (h : Head.parse s = .ok (some head)) :
    head.length ≤ s.length := by
  cases parsed : parseWith firstSlots (by decide) s with
  | error f =>
    rw [Head.parse, parsed] at h
    cases h
  | ok found =>
    cases found with
    | none =>
      rw [Head.parse, parsed] at h
      cases h
    | some found =>
      obtain ⟨r, rest⟩ := found
      rw [parse_found parsed] at h
      cases host : hostOf r with
      | error f =>
        rw [host] at h
        cases h
      | ok name =>
        rw [host] at h
        obtain rfl := Option.some.inj (Except.ok.inj h)
        exact Nat.sub_le _ _

theorem parse_nil : Head.parse [] = .ok none := by
  rw [Head.parse, parseWith_eq (by decide) (by exact nofun)]
  rfl

/-- Is this said of a text? -/
def Tells (s : Octets) (verdict : Except HeadFault Head) : Prop :=
  Head.parse s = verdict.map some

theorem Tells.ne_none {s : Octets} {verdict : Except HeadFault Head} (h : Tells s verdict) :
    Head.parse s ≠ .ok none := by
  rw [h]
  cases verdict <;> exact nofun

theorem Tells.unique {s : Octets} {verdict verdict' : Except HeadFault Head}
    (h : Tells s verdict) (h' : Tells s verdict') : verdict = verdict' := by
  rw [Tells, h] at h'
  cases verdict with
  | error f =>
    cases verdict' with
    | error f' => exact congrArg _ (Except.error.inj h')
    | ok head' => cases h'
  | ok head =>
    cases verdict' with
    | error f' => cases h'
    | ok head' => exact congrArg _ (Option.some.inj (Except.ok.inj h'))

/-- Of two fronts of one text the same is said, if something is said of both. -/
theorem Tells.same {s t whole : Octets} {verdict verdict' : Except HeadFault Head}
    (h : Tells s verdict) (h' : Tells t verdict') (paired : Paired t) (front : s <+: whole)
    (front' : t <+: whole) : verdict = verdict' := by
  rcases List.prefix_or_prefix_of_prefix front front' with ⟨more, rfl⟩ | ⟨more, rfl⟩
  · exact Tells.unique ((parse_append h.ne_none (Or.inl paired.front) more).trans h) h'
  · exact h.unique ((parse_append h'.ne_none (Or.inl paired) more).trans h')

/-! ## Reading a head -/

/-- What a reader reports. -/
def reported : Except HeadFault Head → Outcome SniffError Head
  | .ok head => .done head
  | .error f => .failed (.http f.message)

variable {σ : Type} [Readable σ]

/-- What the reader does with a front of the stream. -/
theorem readHeadFrom_arrived (front : Array UInt8) {s s' : σ} {b : UInt8} {more : Octets}
    (arrived : Readable.read readRoom s = (.ready (b :: more), s')) :
    (∃ verdict, Tells (front ++ (b :: more)).toList verdict ∧
      (readHeadFrom front s).1 = reported verdict) ∨
    (Head.parse (front ++ (b :: more)).toList = .ok none ∧
      (readHeadFrom front s).1 =
        if maxHead ≤ (front ++ (b :: more)).size then .failed (.http HeadFault.tooLong.message)
        else (readHeadFrom (front ++ (b :: more)) s').1) := by
  have read : Session.read SniffError.ofRead readRoom s = (.done (b :: more), s') := by
    rw [Session.read, arrived]
    rfl
  rw [readHeadFrom, bind_done read]
  cases judged : Head.parse (front ++ (b :: more)).toList with
  | error f =>
    refine Or.inl ⟨.error f, judged, ?_⟩
    simp only [judged]
    rfl
  | ok found =>
    cases found with
    | some head =>
      refine Or.inl ⟨.ok head, judged, ?_⟩
      simp only [judged]
      rfl
    | none =>
      refine Or.inr ⟨rfl, ?_⟩
      simp only [judged]
      split
      · rfl
      · rfl

/-- What the reader does at the end of the stream. -/
theorem readHeadFrom_ended (front : Array UInt8) {s : σ} {ending : Readable.End}
    (ended : (Readable.read readRoom s).1 = ending.polled) :
    (ending = .eof ∧ (readHeadFrom front s).1 = .failed (.http HeadFault.cutShort.message)) ∨
      (ending ≠ .eof ∧ ∀ head, (readHeadFrom front s).1 ≠ .done head) := by
  rcases arrived : Readable.read readRoom s with ⟨polled, s'⟩
  rw [arrived] at ended
  obtain rfl : polled = _ := ended
  have read : Session.read SniffError.ofRead readRoom s =
      (ofPolled SniffError.ofRead ending.polled, s') := by
    rw [Session.read, arrived]
  rw [readHeadFrom]
  cases ending with
  | eof =>
    refine Or.inl ⟨rfl, ?_⟩
    rw [bind_done read]
    rfl
  | failed e =>
    refine Or.inr ⟨by simp, fun head => ?_⟩
    simp [bind_failed read]
  | pending =>
    refine Or.inr ⟨by simp, fun head => ?_⟩
    simp [bind_pending read]

variable [Wire σ]

/-- Where a text arrives of which something is said, the reader reports just that. -/
theorem readHeadFrom_told {whole : Octets} {verdict : Except HeadFault Head}
    (told : Tells whole verdict) (paired : Paired whole) (bounded : whole.length ≤ maxHead)
    (front : Array UInt8) (s : σ) (inside : front.size < whole.length)
    (arrives : whole <+: front.toList ++ Wire.yield s) :
    (readHeadFrom front s).1 = reported verdict := by
  induction missing : whole.length - front.size using Nat.strongRecOn generalizing front s with
  | ind n ih =>
    rcases Wire.read_cases (show 0 < readRoom by decide) s with
      ⟨b, more, s', read, -, yields, -⟩ | ⟨nothing, -⟩
    · have stream : front.toList ++ Wire.yield s =
          (front ++ (b :: more)).toList ++ Wire.yield s' := by
        rw [yields, Array.toList_appendList, List.append_assoc]
      rw [stream] at arrives
      have front' := List.prefix_append (front ++ (b :: more)).toList (Wire.yield s')
      rcases readHeadFrom_arrived front read with ⟨verdict', told', is⟩ | ⟨undecided, is⟩
      · rw [is, told'.same told paired front' arrives]
      · have inside' : (front ++ (b :: more)).size < whole.length := by
          refine Nat.lt_of_not_le fun long => ?_
          obtain ⟨rest, holds⟩ := List.prefix_of_prefix_length_le arrives front' long
          rw [← holds, parse_append told.ne_none (Or.inl paired)] at undecided
          exact told.ne_none undecided
        have longer : front.size < (front ++ (b :: more)).size := by
          rw [← Array.length_toList, ← Array.length_toList, Array.toList_appendList,
            List.length_append, List.length_cons]
          omega
        rw [is, if_neg (Nat.not_le.2 (Nat.lt_of_lt_of_le inside' bounded))]
        exact ih _ (by omega) _ _ inside' arrives rfl
    · have := arrives.length_le
      rw [nothing, List.append_nil] at this
      exact absurd this (Nat.not_le.2 inside)

/-- A front of a head that is shorter than the head is not taken for one. -/
theorem readHeadFrom_short {whole : Octets} {head : Head}
    (told : Tells whole (.ok head)) (front : Array UInt8) (s : σ)
    (inside : front.toList ++ Wire.yield s <+: whole)
    (short : (front.toList ++ Wire.yield s).length < head.length) :
    (∃ f : HeadFault, (readHeadFrom front s).1 = .failed (.http f.message)) ∨
      (Wire.ending s ≠ .eof ∧ ∀ head', (readHeadFrom front s).1 ≠ .done head') := by
  induction missing : (Wire.yield s).length using Nat.strongRecOn generalizing front s with
  | ind n ih =>
    rcases Wire.read_cases (show 0 < readRoom by decide) s with
      ⟨b, more, s', read, -, yields, ends⟩ | ⟨nothing, ends⟩
    · have stream : front.toList ++ Wire.yield s =
          (front ++ (b :: more)).toList ++ Wire.yield s' := by
        rw [yields, Array.toList_appendList, List.append_assoc]
      rw [stream] at inside short
      rcases readHeadFrom_arrived front read with ⟨verdict', told', is⟩ | ⟨-, is⟩
      · cases verdict' with
        | error f => exact Or.inl ⟨f, is⟩
        | ok head' =>
          obtain ⟨rest, holds⟩ := (List.prefix_append _ _).trans inside
          have same : Tells whole (.ok head') := by
            rw [Tells, ← holds, parse_append told'.ne_none (Or.inr ⟨head', told'⟩)]
            exact told'
          have := length_parse told'
          rw [← Except.ok.inj (told.unique same)] at this
          rw [List.length_append] at short
          omega
      · rw [is]
        split
        · exact Or.inl ⟨.tooLong, rfl⟩
        · have fewer : (Wire.yield s').length < n := by
            rw [← missing, yields, List.length_append, List.length_cons]
            omega
          rw [← ends]
          exact ih _ fewer _ _ inside short rfl
    · rcases readHeadFrom_ended front ends with ⟨-, is⟩ | waits
      · exact Or.inl ⟨.cutShort, is⟩
      · exact Or.inr waits

end Http

namespace Sniff

open Http

/-- The stage's reader reports what is to be said of a text that arrives first. -/
theorem readHead_told {r : Replay} {h : Octets} {verdict : Except HeadFault Head}
    (told : Tells h verdict) (paired : Paired h) (bounded : h.length ≤ maxHead)
    (arrives : h <+: r.yield) : (readHead (Peek.start r)).1 = reported verdict := by
  have filled : 0 < h.length := by
    refine List.length_pos_iff.2 fun nothing => told.ne_none ?_
    rw [nothing, parse_nil]
  exact readHeadFrom_told told paired bounded #[] (Peek.start r) filled arrives

/-- However a stream is cut into held octets and reads: where it starts with a text that can be
judged, in which every LF has its CR and that is not too long, the stage finds what is to be said of
the text, whatever follows it. A stream that is a front of a head and shorter than the head is not
taken for one, and if it ends there it is refused. -/
theorem httpHead_judges (r : Replay) (h : Octets) :
    (h.length ≤ maxHead → Paired h → h <+: r.yield →
      (∀ head, Head.parse h = .ok (some head) → ∃ n, (httpHead r).1 = .done ⟨head, n⟩) ∧
      ∀ f, Head.parse h = .error f → (httpHead r).1 = .failed (.http f.message)) ∧
    ∀ head, Head.parse h = .ok (some head) → r.yield <+: h → r.yield.length < head.length →
      (∀ found, (httpHead r).1 ≠ .done found) ∧
      (r.ending = .eof → ∃ f : HeadFault, (httpHead r).1 = .failed (.http f.message)) := by
  constructor
  · intro bounded paired arrives
    have reports {verdict} (told : Tells h verdict) := readHead_told told paired bounded arrives
    refine ⟨fun head judged => ?_, fun f judged => ?_⟩
    · refine ⟨(readHead (Peek.start r)).2.consumed, ?_⟩
      simp only [httpHead, peeking, reports (show Tells h (.ok head) from judged)]
      rfl
    · simp only [httpHead, peeking, reports (show Tells h (.error f) from judged)]
      rfl
  · intro head judged inside short
    have told : Tells h (.ok head) := judged
    rcases readHeadFrom_short told #[] (Peek.start r) inside short with
      ⟨f, failed⟩ | ⟨open', refused⟩
    · have failed : (httpHead r).1 = .failed (.http f.message) := by
        simp only [httpHead, peeking, readHead, failed]
        rfl
      exact ⟨by simp [failed], fun _ => ⟨f, failed⟩⟩
    · refine ⟨fun found done => ?_, fun eof => absurd eof open'⟩
      simp only [httpHead, peeking, readHead] at done
      cases outcome : (readHeadFrom #[] (Peek.start r)).1 with
      | done head' => exact refused head' outcome
      | failed e =>
        rw [outcome] at done
        cases done
      | pending =>
        rw [outcome] at done
        cases done

/-- A request of the smallest kind. -/
def plainRequest : Octets :=
  Octets.ofText "GET / HTTP/1.1\r\nHost: a:80\r\n\r\n"

/-- The request, partly held, and the rest in two reads; something follows. -/
def plainRequestStream : Replay :=
  { held := plainRequest.take 3
    source := [.data ((plainRequest.drop 3).take 12), .wait,
      .data (plainRequest.drop 15 ++ [0, 10])] }

/-- The request without its last octet. -/
def plainRequestTorn : Replay :=
  { source := [.data plainRequest.dropLast] }

theorem httpHead_judges_plain :
    (∃ n, (httpHead plainRequestStream).1 = .done ⟨⟨30, "GET", some "a"⟩, n⟩) ∧
    ∃ f : HeadFault, (httpHead plainRequestTorn).1 = .failed (.http f.message) := by
  have judged : Head.parse plainRequest = .ok (some ⟨30, "GET", some "a"⟩) := by decide +kernel
  have paired : Paired plainRequest := by decide +kernel
  have front : plainRequest <+: plainRequestStream.yield := by decide +kernel
  have torn : plainRequestTorn.yield <+: plainRequest := by decide +kernel
  exact ⟨((httpHead_judges plainRequestStream plainRequest).1 (by decide) paired front).1 _ judged,
    ((httpHead_judges plainRequestTorn plainRequest).2 _ judged torn (by decide)).2 rfl⟩

end Sniff

end Sluice

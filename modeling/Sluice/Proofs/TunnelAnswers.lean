import Mathlib.Data.List.Basic
import Sluice.Proofs.TunnelResponse

/-
  Answers to a request for a tunnel. A head that was written with CR and LF is read back
  (`reads_response`), and its last four octets are the first empty line in it, since no line of it
  is empty or holds an LF (`toBlankLine_lines`). So just the head is heard, and its code decides.
  Where no empty line comes, the reader stops at its limit or with the stream, whichever is first
  (`readHeadFrom_endless`).
-/

namespace Sluice

open Octets Scanner

namespace Http

/-! ## Heads of responses -/

/-- A code as it is written. -/
def codeDigits (code : Nat) : Octets :=
  [code / 100, code / 10 % 10, code % 10].map fun digit => UInt8.ofNat (48 + digit)

/-- The reason as it is written. Where there is none, the blank in front of it may be missing. -/
def reasonWord (bare : Bool) (reason : String) : Octets :=
  if bare ∧ reason = "" then [] else space :: ofText reason

/-- The first line of a head. -/
def Response.statusLine (bare : Bool) (r : Response) : Octets :=
  ofText "HTTP/1." ++ (UInt8.ofNat (48 + r.minorVersion) :: space :: codeDigits r.code) ++
    reasonWord bare r.reason

/-- A head as it may be written. -/
def Response.lines (bare : Bool) (r : Response) : Octets :=
  r.statusLine bare ++ lineBreak ++ (r.fields.flatMap Field.line ++ lineBreak)

/-- Printable ASCII characters. -/
def isPrintable (ch : Char) : Bool :=
  32 ≤ ch.toNat && ch.toNat ≤ 126

/-- A head that can be written so. -/
structure Response.Legal (r : Response) : Prop where
  version : r.minorVersion ≤ 1
  code : r.code < 1000
  reason : ∀ ch ∈ r.reason.toList, isPrintable ch = true
  fields : ∀ f ∈ r.fields, f.Legal

instance (r : Response) : Decidable r.Legal :=
  decidable_of_iff (r.minorVersion ≤ 1 ∧ r.code < 1000 ∧
      r.reason.toList.all isPrintable = true ∧ ∀ f ∈ r.fields, f.Legal)
    ⟨fun ⟨version, code, reason, fields⟩ => ⟨version, code, List.all_eq_true.1 reason, fields⟩,
      fun h => ⟨h.version, h.code, List.all_eq_true.2 h.reason, h.fields⟩⟩

/-- The head that is read. -/
def Response.trimmed (r : Response) : Response :=
  { r with fields := r.fields.map Field.trimmed }

/-! ## Reading them -/

theorem encode_printable {ch : Char} (h : isPrintable ch = true) :
    String.utf8EncodeChar ch = [UInt8.ofNat ch.toNat] ∧
      (UInt8.ofNat ch.toNat).toNat = ch.toNat ∧ 32 ≤ ch.toNat ∧ ch.toNat ≤ 126 := by
  simp only [isPrintable, Bool.and_eq_true, decide_eq_true_eq] at h
  have small : ch.toNat < 256 := by omega
  exact ⟨Utf8.encode_small (by omega), UInt8.toNat_ofNat_of_lt small, h⟩

theorem ofText_printable {text : String} (h : ∀ ch ∈ text.toList, isPrintable ch = true) :
    ofText text = text.toList.map fun ch => UInt8.ofNat ch.toNat := by
  rw [ofText, List.map_eq_flatMap]
  exact List.flatMap_congr fun ch mem => (encode_printable (h ch mem)).1

theorem isText_printable {text : String} (h : ∀ ch ∈ text.toList, isPrintable ch = true) :
    ∀ b ∈ ofText text, isText b = true := by
  intro b mem
  rw [ofText_printable h] at mem
  obtain ⟨ch, member, rfl⟩ := List.mem_map.1 mem
  obtain ⟨-, value, low, high⟩ := encode_printable (h ch member)
  simp only [isText, Bool.or_eq_true, Bool.and_eq_true, decide_eq_true_eq, UInt8.le_iff_toNat_le]
  refine Or.inl (Or.inr ⟨?_, ?_⟩)
  · rw [value]
    exact low
  · rw [value]
    exact high

/-- A reason of printable characters is kept as it is. -/
theorem reasonText_ofText {text : String} (h : ∀ ch ∈ text.toList, isPrintable ch = true) :
    Response.reasonText (ofText text) = text := by
  have ascii : (ofText text).any (128 ≤ ·) = false := by
    rw [ofText_printable h, List.any_map, List.any_eq_false]
    intro ch mem
    obtain ⟨-, value, -, high⟩ := encode_printable (h ch mem)
    simp only [Function.comp_apply, decide_eq_true_eq, UInt8.le_iff_toNat_le, value]
    exact Nat.not_le.2 (Nat.lt_of_le_of_lt high (by decide))
  have characters : (ofText text).map (fun b => Char.ofNat b.toNat) = text.toList := by
    rw [ofText_printable h, List.map_map]
    refine (List.map_congr_left fun ch mem => ?_).trans (List.map_id _)
    rw [Function.comp_apply, (encode_printable (h ch mem)).2.1, Char.ofNat_toNat]
    rfl
  rw [Response.reasonText, ascii, characters]
  exact String.ofList_toList

theorem toNat_digit {digit : Nat} (h : digit < 10) :
    (UInt8.ofNat (48 + digit)).toNat = 48 + digit := by
  have small : 48 + digit < 256 := by omega
  exact UInt8.toNat_ofNat_of_lt small

theorem reads_codeDigit {digit : Nat} (h : digit < 10) :
    Reads Response.codeDigit [UInt8.ofNat (48 + digit)] digit := by
  have value := toNat_digit h
  have isDigit : isDigit (UInt8.ofNat (48 + digit)) = true := by
    simp only [Octets.isDigit, Bool.and_eq_true, decide_eq_true_eq, UInt8.le_iff_toNat_le, value]
    exact ⟨Nat.le_add_right 48 digit, show 48 + digit ≤ 57 by omega⟩
  refine reads_bind (s := [UInt8.ofNat (48 + digit)]) (t := []) (reads_next _) ?_
  rw [isDigit, value, Nat.add_sub_cancel_left]
  exact reads_pure

theorem reads_codeNumber {code : Nat} (h : code < 1000) :
    Reads Response.codeNumber (codeDigits code) code := by
  have value : code / 100 * 100 + code / 10 % 10 * 10 + code % 10 = code := by omega
  refine reads_bind (s := [_]) (reads_codeDigit (show code / 100 < 10 by omega)) ?_
  refine reads_bind (s := [_]) (reads_codeDigit (show code / 10 % 10 < 10 by omega)) ?_
  refine reads_bind (s := [_]) (t := []) (reads_codeDigit (show code % 10 < 10 by omega)) ?_
  rw [value]
  exact reads_pure

theorem reads_reasonPhrase (bare : Bool) {reason : String}
    (printable : ∀ ch ∈ reason.toList, isPrintable ch = true) :
    Reads Response.reasonPhrase (reasonWord bare reason ++ lineBreak) reason := by
  unfold reasonWord
  split
  · next none =>
    rw [none.2]
    exact fun _ => rfl
  · refine reads_bind (s := [space]) (t := ofText reason ++ lineBreak) (reads_next space) ?_
    rw [if_pos rfl]
    have line : Reads (do lineEnd .status; return Response.reasonText (ofText reason))
        lineBreak reason := by
      rw [reasonText_ofText printable]
      exact reads_bind (t := []) (reads_lineEnd _) reads_pure
    exact reads_takeWhile (isText_printable printable) (by decide) line

/-- A head that was written is read, blanks around values apart, whatever stands behind it. -/
theorem reads_response {r : Response} {slots : Nat} (bare : Bool) (legal : r.Legal)
    (room : r.fields.length ≤ slots) : Reads (Response.scanner slots) (r.lines bare) r.trimmed := by
  obtain ⟨minor, code, reason, fields⟩ := r
  have behind : Reads (do
      let minorVersion ← version
      expect space .version
      let code ← Response.codeNumber
      let reason ← Response.reasonPhrase
      let fields ← fieldList slots
      return ({ minorVersion, code, reason, fields } : Response))
      (ofText "HTTP/1." ++ [UInt8.ofNat (48 + minor)] ++ ([space] ++ (codeDigits code ++
        (reasonWord bare reason ++ lineBreak ++ (fields.flatMap Field.line ++ lineBreak ++ [])))))
      ⟨minor, code, reason, fields.map Field.trimmed⟩ := by
    refine reads_bind (reads_version legal.version) ?_
    refine reads_bind (reads_expect _ _) ?_
    refine reads_bind (reads_codeNumber legal.code) ?_
    refine reads_bind (reads_reasonPhrase bare legal.reason) ?_
    exact reads_bind (reads_fieldsFrom #[] legal.fields room) reads_pure
  have shape : Response.lines bare ⟨minor, code, reason, fields⟩ =
      ofText "HTTP/1." ++ [UInt8.ofNat (48 + minor)] ++ ([space] ++ (codeDigits code ++
        (reasonWord bare reason ++ lineBreak ++
          (fields.flatMap Field.line ++ lineBreak ++ [])))) := by
    simp [Response.lines, Response.statusLine]
  intro rest
  rw [shape]
  exact (bind_complete (emptyLines_filled (by decide) (by decide) _)).trans (behind rest)

end Http

namespace HttpTunnel

open Http Session

/-! ## The first empty line -/

theorem ToBlankLine.within {before heard : Octets} {left left' : Nat}
    (h : ToBlankLine before heard left) (bounded : heard.length ≤ left') :
    ToBlankLine before heard left' :=
  { h with bounded }

/-- No empty line ends where no line does. -/
theorem not_blankLine_of_ne {before : Octets} {b : UInt8} (ne : b ≠ lf) :
    ¬ blankLine <:+ before ++ [b] := by
  rintro ⟨front, same⟩
  have same : front ++ [cr, lf, cr] ++ [lf] = before ++ [b] := by
    simpa [blankLine, lineBreak] using same
  exact ne (List.singleton_inj.1 (List.append_inj_right' same rfl)).symm

/-- The line that ends in an empty one is behind the end of another. -/
theorem not_blankLine_of_line {before : Octets} {b : UInt8} (ne : b ≠ lf) :
    ¬ blankLine <:+ before ++ [b] ++ [cr] ++ [lf] := by
  rintro ⟨front, same⟩
  have same : front ++ [cr] ++ [lf] ++ [cr, lf] = before ++ [b] ++ [cr, lf] := by
    simpa [blankLine, lineBreak] using same
  have last := List.append_inj_right' (List.append_cancel_right same) rfl
  exact ne (List.singleton_inj.1 last).symm

/-- Octets that end no line make no difference. -/
theorem toBlankLine_inline {before inner rest : Octets} (inline : ∀ b ∈ inner, b ≠ lf)
    (h : ToBlankLine (before ++ inner) rest rest.length) :
    ToBlankLine before (inner ++ rest) (inner ++ rest).length := by
  induction inner generalizing before with
  | nil =>
    rw [List.append_nil] at h
    exact h
  | cons b inner ih =>
    refine (toBlankLine_more (not_blankLine_of_ne (inline b List.mem_cons_self))).2 ?_
    refine ih (fun b mem => inline b (List.mem_cons_of_mem _ mem)) ?_
    rw [List.append_assoc]
    exact h

/-- Nor does a line that is not empty. -/
theorem toBlankLine_line {before line rest : Octets} (filled : line ≠ [])
    (inline : ∀ b ∈ line, b ≠ lf)
    (h : ToBlankLine (before ++ (line ++ lineBreak)) rest rest.length) :
    ToBlankLine before (line ++ (lineBreak ++ rest)) (line ++ (lineBreak ++ rest)).length := by
  obtain ⟨front, last, rfl⟩ := (List.eq_nil_or_concat line).resolve_left filled
  rw [List.concat_eq_append] at inline h ⊢
  refine toBlankLine_inline inline ?_
  refine (toBlankLine_more (not_blankLine_of_ne (by decide))).2 ?_
  refine (toBlankLine_more ?_).2 ?_
  · rw [← List.append_assoc before]
    exact not_blankLine_of_line (inline last (by simp))
  · simpa [lineBreak] using h

/-- Behind the end of a line an empty one is the first. -/
theorem toBlankLine_empty (before : Octets) :
    ToBlankLine (before ++ lineBreak) lineBreak lineBreak.length := by
  refine (toBlankLine_more (not_blankLine_of_ne (by decide))).2 ((toBlankLine_last ?_).2 rfl)
  exact ⟨before, by simp [blankLine, lineBreak]⟩

theorem toBlankLine_fields {fields : List Field} (legal : ∀ f ∈ fields, f.Legal)
    (before : Octets) : ToBlankLine (before ++ lineBreak) (fields.flatMap Field.line ++ lineBreak)
      (fields.flatMap Field.line ++ lineBreak).length := by
  induction fields generalizing before with
  | nil => exact toBlankLine_empty before
  | cons f fields ih =>
    have legal' := legal f List.mem_cons_self
    have inline : ∀ b ∈ f.name ++ colon :: f.value, b ≠ lf := by
      intro b mem
      rcases List.mem_append.1 mem with mem | mem
      · exact (ne_of_isToken (legal'.name b mem)).1
      · rcases List.mem_cons.1 mem with rfl | mem
        · decide
        · exact (ne_of_isText (legal'.value b mem)).1
    have shape : (f :: fields).flatMap Field.line ++ lineBreak =
        f.name ++ colon :: f.value ++ (lineBreak ++ (fields.flatMap Field.line ++ lineBreak)) := by
      simp [Field.line]
    rw [shape]
    refine toBlankLine_line (by simp) inline ?_
    rw [← List.append_assoc]
    exact ih (fun f mem => legal f (List.mem_cons_of_mem _ mem)) _

/-- The digits of a code end no line. -/
theorem ne_of_mem_codeDigits {code : Nat} (h : code < 1000) {b : UInt8}
    (mem : b ∈ codeDigits code) : b ≠ lf := by
  obtain ⟨digit, member, rfl⟩ := List.mem_map.1 mem
  have small : digit < 10 := by
    simp only [List.mem_cons, List.not_mem_nil, or_false] at member
    omega
  intro same
  have value := toNat_digit small
  rw [same] at value
  exact absurd value (show 10 ≠ 48 + digit by omega)

theorem ne_of_mem_statusLine {r : Response} {bare : Bool} (legal : r.Legal) {b : UInt8}
    (mem : b ∈ r.statusLine bare) : b ≠ lf := by
  rcases List.mem_append.1 mem with mem | mem
  · rcases List.mem_append.1 mem with mem | mem
    · rintro rfl
      exact absurd mem (by decide)
    · rcases List.mem_cons.1 mem with rfl | mem
      · obtain zero | one : r.minorVersion = 0 ∨ r.minorVersion = 1 := by
          have := legal.version
          omega
        · rw [zero]
          decide
        · rw [one]
          decide
      · rcases List.mem_cons.1 mem with rfl | mem
        · decide
        · exact ne_of_mem_codeDigits legal.code mem
  · unfold reasonWord at mem
    split at mem
    · exact absurd mem List.not_mem_nil
    · rcases List.mem_cons.1 mem with rfl | mem
      · decide
      · exact (ne_of_isText (isText_printable legal.reason b mem)).1

/-- The empty line behind the fields is the first in a head. -/
theorem toBlankLine_lines {r : Response} (bare : Bool) (legal : r.Legal) :
    ToBlankLine [] (r.lines bare) (r.lines bare).length := by
  have filled : r.statusLine bare ≠ [] := by simp [Response.statusLine]
  rw [Response.lines, List.append_assoc]
  refine toBlankLine_line filled (fun b mem => ne_of_mem_statusLine legal mem) ?_
  rw [List.nil_append]
  exact toBlankLine_fields legal.fields _

/-! ## Streams without one -/

variable {σ : Type} [Readable σ] [Wire σ]

/-- At the end of what arrives there is no octet to read, and nothing is taken. -/
theorem readOctet_ended {s : σ} (none : Wire.yield s = []) (eof : Wire.ending s = .eof) :
    ∃ s', readOctet Fault.notRead s = (.failed (.notRead .noOctet), s') ∧
      Readable.unread s' = Readable.unread s := by
  rcases Wire.read_cases Nat.one_pos s with ⟨b, front, s', -, -, yields, -⟩ | ⟨-, ends⟩
  · rw [none] at yields
    cases yields
  · rcases came : Readable.read 1 s with ⟨polled, s'⟩
    have unread := Readable.read_unread 1 s
    rw [came, eof] at ends
    obtain rfl : polled = .ready [] := ends
    rw [came] at unread
    have number : readNumber Fault.notRead 1 s = (.failed (.notRead .noOctet), s') := by
      rw [readNumber, Readable.readExact, Readable.readExactFrom, if_neg Nat.one_ne_zero, came]
      rfl
    exact ⟨s', bind_failed number _, unread⟩

/-- Where no empty line comes, the reader stops at its limit, or with the stream if that ends
before. -/
theorem readHeadFrom_endless (before : Octets) (left : Nat) (s : σ)
    (endless : ∀ front, front <+: (Wire.yield s).take left → front ≠ [] →
      ¬ blankLine <:+ before.reverse ++ front)
    (ends : Wire.ending s = .eof ∨ left ≤ (Wire.yield s).length) :
    ∃ s', readHeadFrom before left s =
        (.failed (if left ≤ (Wire.yield s).length then .tooLong else .notRead .noOctet), s') ∧
      Readable.unread s = (Wire.yield s).take left ++ Readable.unread s' := by
  induction left generalizing before s with
  | zero => exact ⟨s, rfl, rfl⟩
  | succ left ih =>
    cases yields : Wire.yield s with
    | nil =>
      rw [yields] at ends
      obtain ⟨s', failed, unread⟩ :=
        readOctet_ended yields (ends.resolve_right (Nat.not_succ_le_zero left))
      exact ⟨s', bind_failed failed _, by rw [unread]; rfl⟩
    | cons b more =>
      have octet : Obeys (readOctet (σ := σ) Fault.notRead)
          (fun heard said b => heard = [b] ∧ said = []) (· = .notRead .noOctet) :=
        obeys_readOctet _ rfl
      obtain ⟨s₁, read, passed⟩ := octet.complete (s := s) (a := b) ⟨rfl, rfl⟩
        (by rw [yields]; exact ⟨more, rfl⟩) (Sink.hasRoom_nil _)
      have more' : Wire.yield s₁ = more := by
        have := passed.yield
        rw [yields] at this
        exact (List.cons.inj this).2.symm
      rw [yields] at endless ends
      have goesOn : endsHead (b :: before) = false := by
        have := endless [b] (by simp) (List.cons_ne_nil _ _)
        rw [← List.reverse_cons, ← endsHead_iff] at this
        exact Bool.eq_false_iff.2 this
      have endless' : ∀ front, front <+: (Wire.yield s₁).take left → front ≠ [] →
          ¬ blankLine <:+ (b :: before).reverse ++ front := by
        intro front isFront _
        rw [more'] at isFront
        rw [List.reverse_cons, List.append_assoc]
        exact endless (b :: front) (List.cons_prefix_cons.2 ⟨rfl, isFront⟩) (List.cons_ne_nil _ _)
      obtain ⟨s', failed, unread⟩ := ih (b :: before) s₁ endless'
        (ends.imp passed.ending.trans fun long => by rw [more']; exact Nat.le_of_succ_le_succ long)
      refine ⟨s', ?_, ?_⟩
      · rw [readHeadFrom, bind_done read, goesOn, if_neg Bool.false_ne_true, failed, more']
        simp only [List.length_cons, Nat.add_le_add_iff_right]
      · rw [passed.unread, unread, more']
        rfl

/-! ## Answers -/

theorem judge_lines {d : Destination} {r : Response} {bare : Bool} (legal : r.Legal)
    (room : r.fields.length ≤ maxResponseFields) : judge d (r.lines bare) =
      if 200 ≤ r.code ∧ r.code < 300 then .ok ()
      else .error (.refused d r.code r.reason) := by
  have read : (Response.scanner maxResponseFields).run (r.lines bare) =
      .ok (some (r.trimmed, [])) := by
    have reads := reads_response bare legal room []
    rw [List.append_nil] at reads
    exact Scanner.run_eq.2 reads
  rw [judge, read]
  rfl

variable {d : Destination} {credentials : Option Credentials} {t : Transport}

/-- Asking leaves all that arrives as it is. -/
theorem request_sent (room : t.sink.HasRoom (ofText (request d credentials))) :
    ∃ t', send Fault.notSent (ofText (request d credentials)) t = (.done (), t') ∧
      t'.source.yield = t.source.yield ∧ t'.source.ending = t.source.ending ∧
      t'.source.unread = t.source.unread := by
  have obeys : Obeys (send Fault.notSent (ofText (request d credentials)))
      (fun heard said _ => heard = [] ∧ said = ofText (request d credentials))
      (· = .notRead .noOctet) := obeys_send _ _
  obtain ⟨t', sent, passed⟩ := obeys.complete (s := t) (a := ()) ⟨rfl, rfl⟩ List.nil_prefix room
  exact ⟨t', sent, passed.yield.symm, passed.ending, passed.unread.symm⟩

theorem establish_answered {r : Response} {bare : Bool}
    (room : t.sink.HasRoom (ofText (request d credentials)))
    (legal : r.Legal) (few : r.fields.length ≤ maxResponseFields)
    (short : (r.lines bare).length ≤ maxResponseHead) (arrives : r.lines bare <+: t.source.yield) :
    ∃ t', establish d credentials t =
        (if 200 ≤ r.code ∧ r.code < 300 then .done ()
          else .failed (.refused d r.code r.reason), t') ∧
      t.source.unread = r.lines bare ++ t'.source.unread := by
  obtain ⟨t₁, sent, yields, -, octets⟩ := request_sent room
  rw [← yields] at arrives
  have up := (toBlankLine_lines bare legal).within short
  obtain ⟨t', read, passed⟩ := obeys_readHead.complete (s := t₁) ⟨rfl, rfl, up⟩ arrives
    (Sink.hasRoom_nil _)
  refine ⟨t', ?_, octets.symm.trans passed.unread⟩
  rw [establish, bind_done sent, bind_done read, judge_lines legal few]
  split <;> rfl

theorem establish_endless
    (room : t.sink.HasRoom (ofText (request d credentials)))
    (endless : ¬ blankLine <:+: t.source.yield.take maxResponseHead)
    (ends : t.source.ending = .eof ∨ maxResponseHead ≤ t.source.yield.length) :
    ∃ t', establish d credentials t = (.failed (if maxResponseHead ≤ t.source.yield.length
        then .tooLong else .notRead .noOctet), t') ∧
      t.source.unread = t.source.yield.take maxResponseHead ++ t'.source.unread := by
  obtain ⟨t₁, sent, yields, ending, octets⟩ := request_sent room
  rw [← yields] at endless ends ⊢
  rw [← ending] at ends
  obtain ⟨t', failed, unread⟩ := readHeadFrom_endless [] maxResponseHead t₁
    (fun front isFront _ blank => endless (blank.isInfix.trans isFront.isInfix)) ends
  refine ⟨t', ?_, octets.symm.trans unread⟩
  rw [establish, bind_done sent]
  exact bind_failed failed _

/-- What a proxy that takes the request sends back decides. A head with a code from 200 on and below
300 grants the tunnel, one with another code refuses it, and all that stands behind it is still to
come; so for every head that can be written, the fields and its length within their limits, and
however it arrives. If there is no empty line in what arrives up to the limit, that much is taken
and the tunnel fails. -/
theorem establish_answers (d : Destination) (credentials : Option Credentials) (t : Transport)
    (room : t.sink.HasRoom (ofText (request d credentials))) :
    (∀ (r : Response) (bare : Bool) (payload : Octets), r.Legal →
      r.fields.length ≤ maxResponseFields → (r.lines bare).length ≤ maxResponseHead →
      t.source.unread = r.lines bare ++ payload → r.lines bare <+: t.source.yield →
      ∃ t', establish d credentials t =
          (if 200 ≤ r.code ∧ r.code < 300 then .done ()
            else .failed (.refused d r.code r.reason), t') ∧
        (Fault.refused d r.code r.reason).message = "HTTP proxy refused CONNECT " ++
          d.text ++ ": " ++ toString r.code ++ " " ++ r.reason ∧
        t'.source.unread = payload) ∧
    (¬ blankLine <:+: t.source.yield.take maxResponseHead →
      t.source.ending = .eof ∨ maxResponseHead ≤ t.source.yield.length →
      ∃ t', establish d credentials t = (.failed (if maxResponseHead ≤ t.source.yield.length
          then .tooLong else .notRead .noOctet), t') ∧
        t'.source.unread = t.source.unread.drop (min maxResponseHead t.source.yield.length)) := by
  constructor
  · intro r bare payload legal few short octets arrives
    obtain ⟨t', ended, unread⟩ := establish_answered room legal few short arrives
    refine ⟨t', ended, ?_, List.append_cancel_left (unread.symm.trans octets)⟩
    rfl
  · intro endless ends
    obtain ⟨t', ended, unread⟩ := establish_endless room endless ends
    refine ⟨t', ended, ?_⟩
    rw [unread, ← List.length_take, List.drop_left]

/-- An answer that refuses the tunnel. -/
def refusal : Response :=
  ⟨1, 407, "Proxy Authentication Required", [⟨ofText "Via", ofText " a"⟩]⟩

/-- The answer in two reads, and what looks like the end of another behind it. -/
def refusingProxy : Transport :=
  { source := [.data ((refusal.lines false).take 9), .wait,
      .data ((refusal.lines false).drop 9 ++ ofText "no\r\n\r\n")] }

theorem establish_answers_refusal :
    let d : Destination := { host := .domain "b", port := 443 }
    (∃ t', establish d none refusingProxy =
        (.failed (.refused d 407 "Proxy Authentication Required"), t') ∧
      t'.source.unread = ofText "no\r\n\r\n") ∧
    ∃ t', establish d none (hastyProxy "HTTP/1.1 200 OK\n\n") = (.failed (.notRead .noOctet), t') ∧
      t'.source.unread = [] := by
  intro d
  have answered := (establish_answers d none refusingProxy nofun).1
  have endless := (establish_answers d none (hastyProxy "HTTP/1.1 200 OK\n\n") nofun).2
  obtain ⟨t', refused, -, payload⟩ := answered refusal false (ofText "no\r\n\r\n")
    (by decide +kernel) (by decide) (by decide +kernel) (by decide +kernel) (by decide +kernel)
  obtain ⟨t'', failed, none⟩ := endless (by decide +kernel) (Or.inl rfl)
  refine ⟨⟨t', refused, payload⟩, t'', ?_, ?_⟩
  · rw [failed, if_neg (by decide +kernel)]
  · rw [none]
    decide +kernel

end HttpTunnel

end Sluice

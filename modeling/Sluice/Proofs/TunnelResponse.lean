import Sluice.Proofs.Exchange
import Sluice.Proofs.GrowingText
import Sluice.Proxy.HttpTunnel

/-
  What is taken for the answer to a request for a tunnel. Octets are read up to the first empty line
  that ends in CR and LF (`obeys_readHead`); to the parser of responses a head ends with any line
  end behind another (`takes_response`). Where every LF of the head has its CR both agree, and
  nothing behind the head is touched. Otherwise what stands between the end of the head and the next
  such empty line is read, and lost.
-/

namespace Sluice

open Octets Scanner

namespace Http

/-! ## Where a response ends -/

/-- Does a text end with a line? -/
def EndsLine (t : Octets) : Prop :=
  ∃ inner, t = inner ++ [lf]

theorem IsBreak.endsLine {t : Octets} (h : IsBreak t) : EndsLine t := by
  rcases h with rfl | rfl
  · exact ⟨[], rfl⟩
  · exact ⟨[cr], rfl⟩

theorem EndsLine.behind {s t : Octets} (h : EndsLine t) : EndsLine (s ++ t) := by
  obtain ⟨inner, rfl⟩ := h
  exact ⟨s ++ inner, (List.append_assoc _ _ _).symm⟩

/-- Lines, if any, and the end of an empty one. -/
def IsFieldBlock (t : Octets) : Prop :=
  ∃ lines eol, t = lines ++ eol ∧ (lines = [] ∨ EndsLine lines) ∧ IsBreak eol

theorem isFieldBlock_of_isBreak {t : Octets} (h : IsBreak t) : IsFieldBlock t :=
  ⟨[], t, rfl, Or.inl rfl, h⟩

theorem IsLineRest.endsLine {t : Octets} (h : IsLineRest t) : EndsLine t := by
  obtain ⟨inner, eol, rfl, -, -, isBreak⟩ := h
  exact isBreak.endsLine.behind

/-- A line that has begun, and the block behind it. -/
theorem IsFieldBlock.line {b : UInt8} {t t' : Octets} (h : IsLineRest t) (h' : IsFieldBlock t') :
    IsFieldBlock (b :: (t ++ t')) := by
  obtain ⟨lines, eol, rfl, lines', isBreak⟩ := h'
  refine ⟨b :: (t ++ lines), eol, by simp, Or.inr ?_, isBreak⟩
  rcases lines' with rfl | ends
  · rw [List.append_nil]
    exact h.endsLine.behind (s := [b])
  · exact ends.behind (s := b :: t)

/-- An empty line, or a field and the block behind it. -/
theorem takes_emptyLineOr {more : Field → Scanner Fault (List Field)} {before : Array Field}
    (h : ∀ field, Takes (more field) IsFieldBlock) :
    Takes (emptyLineOr before more) IsFieldBlock := by
  refine takes_next fun b => takes_ite (fun isLf => ?_) fun _ =>
    takes_ite (fun isCr => ?_) fun _ => ?_
  · refine (takes_pure before.toList).imp ?_
    rintro _ rfl
    exact isFieldBlock_of_isBreak (Or.inl (by rw [isLf]))
  · refine (takes_bind (takes_expect lf _) fun _ => takes_pure before.toList).imp ?_
    rintro _ ⟨_, _, rfl, rfl, rfl⟩
    exact isFieldBlock_of_isBreak (Or.inr (by rw [isCr, List.append_nil]))
  · refine (takes_bind (takes_fieldFrom b) h).imp ?_
    rintro _ ⟨line, block, rfl, isLine, isBlock⟩
    exact isBlock.line isLine

theorem takes_fieldsFrom (before : Array Field) (slots : Nat) :
    Takes (fieldsFrom before slots) IsFieldBlock := by
  induction slots generalizing before with
  | zero =>
    rw [fieldsFrom_zero]
    exact takes_emptyLineOr fun _ => takes_bad _
  | succ slots ih =>
    rw [fieldsFrom_succ]
    exact takes_emptyLineOr fun _ => ih _

theorem takes_reasonPhrase : Takes Response.reasonPhrase EndsLine := by
  refine takes_next fun b => takes_ite (fun _ => ?_) fun _ => takes_ite (fun isLf => ?_) fun _ =>
    takes_ite (fun _ => ?_) fun _ => takes_bad _
  · refine (takes_bind (takes_takeWhile _) fun _ => takes_bind (takes_lineEnd _) fun _ =>
      takes_pure _).imp ?_
    rintro _ ⟨phrase, _, rfl, -, eol, _, rfl, isBreak, rfl⟩
    rw [List.append_nil]
    exact isBreak.endsLine.behind (s := b :: phrase)
  · refine (takes_pure _).imp ?_
    rintro _ rfl
    exact ⟨[], by rw [isLf]; rfl⟩
  · refine (takes_bind (takes_expect lf _) fun _ => takes_pure _).imp ?_
    rintro _ ⟨_, _, rfl, rfl, rfl⟩
    exact ⟨[b], rfl⟩

/-- A response ends with a line end behind another. -/
theorem takes_response (slots : Nat) : Takes (Response.scanner slots) fun t =>
    ∃ lines eol, t = lines ++ eol ∧ EndsLine lines ∧ IsBreak eol := by
  have digit : Takes Response.codeDigit fun _ => True :=
    takes_next fun _ => takes_ite (fun _ => (takes_pure _).any) fun _ => takes_bad _
  have code : Takes Response.codeNumber fun _ => True :=
    takes_any_bind digit fun _ => takes_any_bind digit fun _ => takes_any_bind digit fun _ =>
      (takes_pure _).any
  refine (takes_bind takes_emptyLines fun _ => takes_bind takes_version fun _ =>
    takes_bind (takes_expect space _) fun _ => takes_bind code fun _ =>
      takes_bind takes_reasonPhrase fun _ => takes_bind (takes_fieldsFrom _ _) fun _ =>
        takes_pure _).imp ?_
  rintro _ ⟨empty, _, rfl, -, version, _, rfl, -, _, _, rfl, rfl, code, _, rfl, -, reason, _, rfl,
    ends, _, _, rfl, ⟨lines, eol, rfl, lines', isBreak⟩, rfl⟩
  refine ⟨empty ++ (version ++ ([space] ++ (code ++ (reason ++ lines)))), eol, by simp, ?_, isBreak⟩
  have reasonLines : EndsLine (reason ++ lines) := by
    rcases lines' with rfl | ends'
    · rw [List.append_nil]
      exact ends
    · exact ends'.behind
  exact reasonLines.behind.behind.behind.behind

/-- The end of a line and an empty line. -/
def blankLine : Octets :=
  lineBreak ++ lineBreak

theorem blankLine_of_paired {lines eol : Octets} (ends : EndsLine lines) (isBreak : IsBreak eol)
    (paired : Paired (lines ++ eol)) : blankLine <:+ lines ++ eol := by
  obtain ⟨inner, rfl⟩ := ends
  obtain ⟨front, rfl⟩ : ∃ front, inner = front ++ [cr] :=
    List.getLast?_eq_some_iff.1 (paired inner eol (by simp))
  rcases isBreak with rfl | rfl
  · have last := paired (front ++ [cr] ++ [lf]) [] rfl
    rw [List.getLast?_concat] at last
    exact absurd (Option.some.inj last) (by decide)
  · exact ⟨front, by simp [blankLine, lineBreak]⟩

end Http

namespace HttpTunnel

open Http Session

/-! ## Reading up to an empty line -/

theorem endsHead_iff {before : Octets} :
    endsHead before = true ↔ blankLine <:+ before.reverse := by
  rw [show blankLine = [lf, cr, lf, cr].reverse from rfl, List.reverse_suffix]
  constructor
  · intro h
    unfold endsHead at h
    split at h
    · next behind => exact ⟨behind, rfl⟩
    · cases h
  · rintro ⟨behind, rfl⟩
    rfl

/-- Behind what was heard before, is this heard up to the first end of an empty line? -/
structure ToBlankLine (before heard : Octets) (left : Nat) : Prop where
  filled : heard ≠ []
  bounded : heard.length ≤ left
  ends : blankLine <:+ before ++ heard
  first : ∀ front, front <+: heard → blankLine <:+ before ++ front → front = [] ∨ front = heard

/-- Nothing is heard behind it. -/
theorem ToBlankLine.whole {before heard rest : Octets} {left left' : Nat}
    (h : ToBlankLine before heard left) (h' : ToBlankLine before (heard ++ rest) left') :
    rest = [] := by
  rcases h'.first heard (List.prefix_append _ _) h.ends with none | same
  · exact absurd none h.filled
  · exact List.append_right_eq_self.1 same.symm

theorem toBlankLine_last {before rest : Octets} {b : UInt8} {left : Nat}
    (ends : blankLine <:+ before ++ [b]) :
    ToBlankLine before (b :: rest) (left + 1) ↔ rest = [] := by
  constructor
  · intro up
    rcases up.first [b] (by simp) ends with none | whole
    · exact absurd none (List.cons_ne_nil _ _)
    · exact (List.cons.inj whole).2.symm
  · rintro rfl
    refine ⟨List.cons_ne_nil _ _, by simp, ends, fun front isFront _ => ?_⟩
    cases front with
    | nil => exact Or.inl rfl
    | cons c front => exact Or.inr (isFront.eq_of_length_le (by simp))

theorem toBlankLine_more {before rest : Octets} {b : UInt8} {left : Nat}
    (more : ¬ blankLine <:+ before ++ [b]) :
    ToBlankLine before (b :: rest) (left + 1) ↔ ToBlankLine (before ++ [b]) rest left := by
  have behind (front : Octets) : before ++ [b] ++ front = before ++ b :: front := by simp
  constructor
  · rintro ⟨-, bounded, ends, first⟩
    refine ⟨?_, Nat.le_of_succ_le_succ bounded, by rwa [behind], fun front isFront ends' => ?_⟩
    · rintro rfl
      exact more ends
    · rw [behind] at ends'
      refine Or.inr ?_
      rcases first (b :: front) (List.cons_prefix_cons.2 ⟨rfl, isFront⟩) ends' with none | whole
      · exact absurd none (List.cons_ne_nil _ _)
      · exact (List.cons.inj whole).2
  · rintro ⟨-, bounded, ends, first⟩
    rw [behind] at ends
    refine ⟨List.cons_ne_nil _ _, Nat.succ_le_succ bounded, ends, fun front isFront ends' => ?_⟩
    cases front with
    | nil => exact Or.inl rfl
    | cons c front =>
      obtain ⟨rfl, isFront'⟩ := List.cons_prefix_cons.1 isFront
      rw [← behind] at ends'
      rcases first front isFront' ends' with rfl | rfl
      · exact absurd (by rwa [List.append_nil] at ends') more
      · exact Or.inr rfl

variable {σ : Type} [Readable σ] [Wire σ]

theorem obeys_readHeadFrom (before : Octets) (left : Nat) :
    Obeys (readHeadFrom (σ := σ) before left) (fun heard said head => said = [] ∧
      head = before.reverse ++ heard ∧ ToBlankLine before.reverse heard left)
      (· = .notRead .noOctet) := by
  induction left generalizing before with
  | zero =>
    refine obeys_fail (fun heard said head h => ?_) _
    exact h.2.2.filled (List.length_eq_zero_iff.1 (Nat.le_zero.1 h.2.2.bounded))
  | succ left ih =>
    refine obeys_bind (obeys_readOctet _ rfl) ?_ ?_
    · rintro heard said head ⟨rfl, rfl, up⟩
      obtain ⟨b, rest, rfl⟩ := List.exists_cons_of_ne_nil up.filled
      exact ⟨[b], [], b, rest, [], ⟨rfl, rfl⟩, rfl, rfl⟩
    · rintro _ _ b ⟨rfl, rfl⟩
      have reversed : (b :: before).reverse = before.reverse ++ [b] := List.reverse_cons
      split
      · next ends =>
        rw [endsHead_iff, reversed] at ends
        refine (obeys_pure _).congr fun heard said head => ?_
        rw [List.singleton_append, List.nil_append, toBlankLine_last ends, reversed]
        constructor
        · rintro ⟨rfl, rfl, rfl⟩
          exact ⟨rfl, rfl, rfl⟩
        · rintro ⟨rfl, rfl, rfl⟩
          exact ⟨rfl, rfl, rfl⟩
      · next more =>
        rw [endsHead_iff, reversed] at more
        refine (ih (b :: before)).congr fun heard said head => ?_
        rw [List.singleton_append, List.nil_append, toBlankLine_more more, reversed,
          List.append_assoc, List.singleton_append]

/-- A response head is heard up to the first empty line, if that comes soon enough. -/
theorem obeys_readHead : Obeys (readHead (σ := σ)) (fun heard said head => said = [] ∧
    head = heard ∧ ToBlankLine [] heard maxResponseHead) (· = .notRead .noOctet) :=
  obeys_readHeadFrom [] maxResponseHead

/-- A tunnel is asked for, and a head that grants it heard. -/
theorem obeys_establish (d : Destination) (credentials : Option Credentials) :
    Obeys (establish d credentials) (fun heard said _ => said = ofText (request d credentials) ∧
      ToBlankLine [] heard maxResponseHead ∧ judge d heard = .ok ()) (· = .notRead .noOctet) := by
  refine obeys_bind_send _ _ ?_ ?_
  · rintro heard _ _ ⟨rfl, -⟩
    exact List.prefix_rfl
  · refine obeys_bind obeys_readHead ?_ ?_
    · rintro heard said _ ⟨said', up, granted⟩
      exact ⟨heard, [], heard, [], said, ⟨rfl, rfl, up⟩, (List.append_nil _).symm, rfl⟩
    · rintro _ _ head ⟨rfl, rfl, up⟩
      cases judged : judge d head with
      | ok granted =>
        refine (obeys_pure _).congr fun heard said _ => ?_
        simp only [List.append_right_eq_self]
        constructor
        · rintro ⟨rfl, up', -⟩
          exact ⟨up.whole up', rfl, trivial⟩
        · rintro ⟨rfl, rfl, -⟩
          rw [List.append_nil]
          exact ⟨rfl, up, judged⟩
      | error f =>
        refine obeys_fail (fun heard said _ h => ?_) f
        obtain ⟨-, up', granted⟩ := h
        rw [up.whole up', List.append_nil, judged] at granted
        cases granted

/-! ## What is lost -/

theorem judge_eq_ok {d : Destination} {head : Octets} (h : judge d head = .ok ()) :
    ∃ response rest,
      (Response.scanner maxResponseFields).run head = .ok (some (response, rest)) ∧
      200 ≤ response.code ∧ response.code < 300 := by
  unfold judge at h
  split at h
  · cases h
  · cases h
  · next response rest read =>
    split at h
    · next success => exact ⟨response, rest, read, success⟩
    · cases h

/-- When a tunnel is established, a head was read as the parser of responses delimits it, and
nothing of what the proxy sent behind it is lost just if it ends in an empty line with CR and LF.
That is so if every LF of the head has its CR; if not, all up to the next such line is gone. -/
theorem established_reads (d : Destination) (credentials : Option Credentials) (t t' : Transport)
    (established : establish d credentials t = (.done (), t')) :
    ∃ response head lost,
      t.source.unread = head ++ lost ++ t'.source.unread ∧
      (Response.scanner maxResponseFields).run (head ++ lost) = .ok (some (response, lost)) ∧
      200 ≤ response.code ∧ response.code < 300 ∧
      (lost = [] ↔ blankLine <:+ head) ∧
      (Paired head → lost = []) := by
  obtain ⟨heard, _, ⟨rfl, up, granted⟩, passed⟩ := (obeys_establish d credentials).sound established
  obtain ⟨response, lost, read, low, high⟩ := judge_eq_ok granted
  obtain ⟨head, rfl, lines, eol, rfl, ends, isBreak⟩ :=
    takes_response _ _ _ _ (Scanner.run_eq.1 read)
  have exact' : lost = [] ↔ blankLine <:+ lines ++ eol := by
    constructor
    · rintro rfl
      rw [← List.append_nil (lines ++ eol)]
      exact up.ends
    · intro blank
      rcases up.first (lines ++ eol) (List.prefix_append _ _) blank with none | whole
      · obtain ⟨inner, rfl⟩ := ends
        simp at none
      · exact List.append_right_eq_self.1 whole.symm
  exact ⟨response, lines ++ eol, lost, passed.unread, read, low, high, exact',
    fun paired => exact'.2 (blankLine_of_paired ends isBreak paired)⟩

/-- A proxy that goes on at once behind its head. -/
def hastyProxy (head : String) : Transport :=
  { source := [.data (ofText head), .data (ofText "world")] }

/-- Where every LF has its CR, what follows the head is still there. -/
theorem established_reads_paired :
    let proxy := hastyProxy "HTTP/1.1 200 OK\r\n\r\n"
    ∃ t', establish { host := .domain "b", port := 443 } none proxy = (.done (), t') ∧
      ∃ response head, proxy.source.unread = head ++ t'.source.unread ∧
        (Response.scanner maxResponseFields).run head = .ok (some (response, [])) := by
  intro proxy
  have granted : (establish { host := .domain "b", port := 443 } none proxy).1 = .done () := by
    decide +kernel
  have paired : Paired proxy.source.unread := by decide +kernel
  obtain ⟨response, head, lost, octets, read, -, -, -, kept⟩ :=
    established_reads { host := .domain "b", port := 443 } none proxy _ (Prod.ext granted rfl)
  rw [octets, List.append_assoc] at paired
  obtain rfl := kept paired.front
  rw [List.append_nil] at octets read
  exact ⟨_, Prod.ext granted rfl, response, head, octets, read⟩

/-- Two LF end this head for the parser. The tunnel begins nine octets later. -/
theorem unpaired_loses :
    let proxy := hastyProxy "HTTP/1.1 200 OK\n\nhello\r\n\r\n"
    ∃ t' response, establish { host := .domain "b", port := 443 } none proxy = (.done (), t') ∧
      proxy.source.unread = ofText "HTTP/1.1 200 OK\n\nhello\r\n\r\n" ++ t'.source.unread ∧
      (Response.scanner maxResponseFields).run (ofText "HTTP/1.1 200 OK\n\nhello\r\n\r\n") =
        .ok (some (response, ofText "hello\r\n\r\n")) := by
  intro proxy
  have granted : (establish { host := .domain "b", port := 443 } none proxy).1 = .done () := by
    decide +kernel
  refine ⟨_, ⟨1, 200, "OK", []⟩, Prod.ext granted rfl, ?_, ?_⟩
  · decide +kernel
  · decide +kernel

end HttpTunnel

end Sluice

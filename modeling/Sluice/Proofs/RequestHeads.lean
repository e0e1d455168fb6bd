import Sluice.Http.Request
import Sluice.Proofs.VisibleText

/-
  Request heads written out and read back. A scanner `Reads` a text if it takes exactly that text
  off the front, whatever stands behind it; a head is read so, but for the blanks around the values
  of its fields (`reads_lines`), and a plain one as it is (`reads_scanner`). A target that
  is no plain text is cut where its first octet out of place stands (`target_of_complete`), which is
  where the first character stands that cannot be seen. If the line goes on behind it, no head is
  read at all (`refuses_scanner`).
-/

namespace Sluice

namespace Scanner

variable {ε α β : Type} {p : Scanner ε α} {f : α → Scanner ε β} {s t : Octets} {a : α} {v : β}

/-- Takes this text off the front, whatever stands behind it. -/
def Reads (p : Scanner ε α) (s : Octets) (a : α) : Prop :=
  ∀ rest, p (s ++ rest) = .complete a rest

theorem bind_complete {rest : Octets} (h : p s = .complete a rest) : (p >>= f) s = f a rest := by
  show Scanner.bind p f s = f a rest
  rw [Scanner.bind, h]

theorem complete_of_bind {rest : Octets} (h : (p >>= f) s = .complete v rest) :
    ∃ a rest', p s = .complete a rest' ∧ f a rest' = .complete v rest := by
  change Scanner.bind p f s = _ at h
  unfold Scanner.bind at h
  split at h
  · next e => exact ⟨_, _, e, h⟩
  · simp at h
  · simp at h

theorem run_eq {rest : Octets} : p.run s = .ok (some (a, rest)) ↔ p s = .complete a rest := by
  unfold Scanner.run
  cases p s <;> simp

theorem reads_pure : Reads (pure a : Scanner ε α) [] a :=
  fun _ => rfl

theorem reads_bind (hp : Reads p s a) (hf : Reads (f a) t v) : Reads (p >>= f) (s ++ t) v := by
  intro rest
  rw [List.append_assoc, bind_complete (hp (t ++ rest))]
  exact hf rest

theorem reads_next (b : UInt8) : Reads (next : Scanner ε UInt8) [b] b :=
  fun _ => rfl

theorem reads_expect (b : UInt8) (e : ε) : Reads (expect b e) [b] () := by
  intro rest
  rw [expect, bind_complete (reads_next b rest), if_pos rfl]
  rfl

theorem takeWhile_complete {q : UInt8 → Bool} {b : UInt8} (all : ∀ x ∈ s, q x = true)
    (stop : q b = false) (rest : Octets) :
    takeWhile q (s ++ b :: rest) = (.complete s (b :: rest) : Scanned ε Octets) := by
  have drop : (s ++ b :: rest).dropWhile q = b :: rest := by
    rw [List.dropWhile_append_of_pos all, List.dropWhile_cons_of_neg (by simp [stop])]
  have take : (s ++ b :: rest).takeWhile q = s := by
    rw [List.takeWhile_append_of_pos all, List.takeWhile_cons_of_neg (by simp [stop]),
      List.append_nil]
  rw [takeWhile, drop, take]

/-- The octets of a class are read up to the first that is not of it. -/
theorem reads_takeWhile {q : UInt8 → Bool} {g : Octets → Scanner ε β} {b : UInt8}
    (all : ∀ x ∈ s, q x = true) (stop : q b = false) (h : Reads (g s) (b :: t) v) :
    Reads (takeWhile q >>= g) (s ++ b :: t) v := by
  intro rest
  rw [List.append_assoc]
  exact (bind_complete (takeWhile_complete all stop (t ++ rest))).trans (h rest)

/-- Is a text at fault, whatever stands behind it? -/
def Refuses (p : Scanner ε α) (s : Octets) : Prop :=
  ∃ e, p s = .bad e

theorem refuses_bad (e : ε) (s : Octets) : Refuses (bad e : Scanner ε α) s :=
  ⟨e, rfl⟩

theorem refuses_bind (h : Refuses p s) : Refuses (p >>= f) s := by
  obtain ⟨e, h⟩ := h
  refine ⟨e, ?_⟩
  show Scanner.bind p f s = _
  rw [Scanner.bind, h]

theorem refuses_behind {rest : Octets} (h : p s = .complete a rest) (hf : Refuses (f a) rest) :
    Refuses (p >>= f) s := by
  obtain ⟨e, hf⟩ := hf
  exact ⟨e, (bind_complete h).trans hf⟩

theorem run_refuses (h : Refuses p s) : ∃ e, p.run s = .error e := by
  obtain ⟨e, h⟩ := h
  exact ⟨e, by rw [run, h]⟩

end Scanner

namespace Http

open Octets Scanner

/-! ## Fields -/

/-- The end of a line. -/
def lineBreak : Octets :=
  [cr, lf]

/-- A field in a line of its own. The value may have blanks around it. -/
def Field.line (f : Field) : Octets :=
  f.name ++ colon :: (f.value ++ lineBreak)

/-- A field that can be written so. -/
structure Field.Legal (f : Field) : Prop where
  named : f.name ≠ []
  name : ∀ b ∈ f.name, isToken b = true
  value : ∀ b ∈ f.value, isText b = true

instance (f : Field) : Decidable f.Legal :=
  decidable_of_iff (f.name ≠ [] ∧ f.name.all isToken = true ∧ f.value.all isText = true)
    ⟨fun ⟨named, name, value⟩ => ⟨named, List.all_eq_true.1 name, List.all_eq_true.1 value⟩,
      fun h => ⟨h.named, List.all_eq_true.2 h.name, List.all_eq_true.2 h.value⟩⟩

/-- A value without the blanks around it. -/
def trimSpaces (value : Octets) : Octets :=
  trimEnd (value.dropWhile isSpace)

/-- The field that is read. -/
def Field.trimmed (f : Field) : Field :=
  { f with value := trimSpaces f.value }

theorem reads_lineEnd (fault : Fault) : Reads (lineEnd fault) lineBreak () :=
  fun _ => rfl

theorem reads_fieldValue {value : Octets} (text : ∀ b ∈ value, isText b = true) :
    Reads fieldValue (value ++ lineBreak) (trimSpaces value) := by
  have line {v : Octets} (text : ∀ b ∈ v, isText b = true) :
      Reads (do let v ← takeWhile isText; lineEnd .fieldValue; return trimEnd v)
        (v ++ lineBreak) (trimEnd v) :=
    reads_takeWhile text (by decide) (reads_bind (s := lineBreak) (t := []) (reads_lineEnd _)
      reads_pure)
  have text' : ∀ b ∈ value.dropWhile isSpace, isText b = true :=
    fun b mem => text b ((List.dropWhile_sublist _).subset mem)
  have blank : ∀ b ∈ value.takeWhile isSpace, isSpace b = true :=
    List.all_eq_true.1 List.all_takeWhile
  have split : value ++ lineBreak =
      value.takeWhile isSpace ++ (value.dropWhile isSpace ++ lineBreak) := by
    rw [← List.append_assoc, List.takeWhile_append_dropWhile]
  have stop := List.head?_dropWhile_not isSpace value
  rw [split, trimSpaces]
  cases rest : value.dropWhile isSpace with
  | nil =>
    rw [rest] at text'
    exact reads_takeWhile blank (by decide) (line text')
  | cons b more =>
    rw [rest] at stop text'
    exact reads_takeWhile blank stop (line text')

theorem reads_fieldFrom {first : UInt8} {more value : Octets}
    (legal : Field.Legal ⟨first :: more, value⟩) :
    Reads (fieldFrom first) (more ++ colon :: (value ++ lineBreak))
      ⟨first :: more, trimSpaces value⟩ := by
  have token := legal.name first List.mem_cons_self
  unfold fieldFrom
  rw [token]
  refine reads_takeWhile (fun b hb => legal.name b (List.mem_cons_of_mem _ hb)) (by decide) ?_
  refine reads_bind (s := [colon]) (t := value ++ lineBreak) (reads_expect _ _) ?_
  have line := reads_fieldValue legal.value
  rw [← List.append_nil (value ++ lineBreak)]
  exact reads_bind line reads_pure

theorem ne_of_isToken {b : UInt8} (h : isToken b = true) : b ≠ lf ∧ b ≠ cr := by
  constructor <;> rintro rfl <;> exact absurd h (by decide)

theorem reads_fieldsFrom {fields : List Field} {slots : Nat} (before : Array Field)
    (legal : ∀ f ∈ fields, f.Legal) (room : fields.length ≤ slots) :
    Reads (fieldsFrom before slots) (fields.flatMap Field.line ++ lineBreak)
      (before.toList ++ fields.map Field.trimmed) := by
  induction fields generalizing before slots with
  | nil =>
    rw [List.map_nil, List.append_nil]
    cases slots with
    | zero => exact fun _ => rfl
    | succ slots => exact fun _ => rfl
  | cons field fields ih =>
    obtain ⟨slots, rfl⟩ : ∃ k, slots = k + 1 := ⟨slots - 1, by simp at room; omega⟩
    obtain ⟨name, value⟩ := field
    have legal' := legal _ List.mem_cons_self
    cases name with
    | nil => exact absurd rfl legal'.named
    | cons first more =>
      have rest := ih (before.push ⟨first :: more, trimSpaces value⟩)
        (fun f hf => legal f (List.mem_cons_of_mem _ hf)) (Nat.le_of_succ_le_succ room)
      obtain ⟨notLf, notCr⟩ := ne_of_isToken (legal'.name first List.mem_cons_self)
      rw [Array.toList_push, List.append_assoc] at rest
      rw [List.flatMap_cons, List.append_assoc]
      refine reads_bind (s := [first]) (reads_next first) ?_
      rw [if_neg notLf, if_neg notCr]
      exact reads_bind (reads_fieldFrom legal') rest

/-! ## Heads -/

/-- A head as it may be written. -/
def Request.lines (r : Request) : Octets :=
  r.method ++ space :: (ofText r.target ++ space :: (ofText "HTTP/1." ++
    (UInt8.ofNat (48 + r.minorVersion) ::
      (lineBreak ++ (r.fields.flatMap Field.line ++ lineBreak)))))

/-- A head that can be written so. -/
structure Request.Legal (r : Request) : Prop where
  named : r.method ≠ []
  method : ∀ b ∈ r.method, isToken b = true
  aimed : r.target ≠ ""
  target : ∀ ch ∈ r.target.toList, isVisible ch = true
  version : r.minorVersion ≤ 1
  fields : ∀ f ∈ r.fields, f.Legal

instance (r : Request) : Decidable r.Legal :=
  decidable_of_iff (r.method ≠ [] ∧ r.method.all isToken = true ∧ r.target ≠ "" ∧
      Visible r.target ∧ r.minorVersion ≤ 1 ∧ ∀ f ∈ r.fields, f.Legal)
    ⟨fun ⟨named, method, aimed, target, version, fields⟩ =>
      ⟨named, List.all_eq_true.1 method, aimed, target, version, fields⟩,
      fun h => ⟨h.named, List.all_eq_true.2 h.method, h.aimed, h.target, h.version, h.fields⟩⟩

/-- The head that is read. -/
def Request.trimmed (r : Request) : Request :=
  { r with fields := r.fields.map Field.trimmed }

theorem emptyLines_filled {b : UInt8} (notLf : b ≠ lf) (notCr : b ≠ cr) (rest : Octets) :
    emptyLines (b :: rest) = .complete () (b :: rest) := by
  unfold emptyLines
  split <;> simp_all

theorem emptyLines_token {b : UInt8} (token : isToken b = true) (rest : Octets) :
    emptyLines (b :: rest) = .complete () (b :: rest) := by
  obtain ⟨notLf, notCr⟩ := ne_of_isToken token
  exact emptyLines_filled notLf notCr rest

theorem reads_methodWord {method : Octets} (named : method ≠ [])
    (token : ∀ b ∈ method, isToken b = true) :
    Reads Request.methodWord (method ++ [space]) method := by
  refine reads_takeWhile token (by decide) ?_
  have filled : method.isEmpty = false := List.isEmpty_eq_false_iff.2 named
  rw [filled]
  exact reads_bind (s := [space]) (t := []) (reads_expect _ _) reads_pure

theorem reads_targetWord {target : String} (aimed : target ≠ "")
    (visible : ∀ ch ∈ target.toList, isVisible ch = true) :
    Reads Request.targetWord (ofText target ++ [space]) target := by
  refine reads_takeWhile (spelled_visible.octets visible) (by decide) ?_
  refine reads_bind (s := [space]) (t := []) (reads_expect _ _) ?_
  have filled : (ofText target).isEmpty = false :=
    List.isEmpty_eq_false_iff.2 (Utf8.ofText_ne_nil aimed)
  rw [Utf8.text?_ofText, filled]
  exact reads_pure

theorem reads_word (fault : Fault) (w : Octets) : Reads (word fault w) w () := by
  induction w with
  | nil => exact reads_pure
  | cons b w ih => exact reads_bind (s := [b]) (reads_expect b fault) ih

theorem reads_version {minor : Nat} (h : minor ≤ 1) :
    Reads version (ofText "HTTP/1." ++ [UInt8.ofNat (48 + minor)]) minor := by
  refine reads_bind (reads_word .version _) ?_
  refine reads_bind (s := [UInt8.ofNat (48 + minor)]) (t := []) (reads_next _) ?_
  obtain rfl | rfl : minor = 0 ∨ minor = 1 := by omega
  · exact reads_pure
  · exact reads_pure

/-- A head that was written is read, blanks around values apart, whatever stands behind it. -/
theorem reads_lines {r : Request} {slots : Nat} (legal : r.Legal)
    (room : r.fields.length ≤ slots) : Reads (Request.scanner slots) r.lines r.trimmed := by
  intro rest
  obtain ⟨method, target, minor, fields⟩ := r
  cases method with
  | nil => exact absurd rfl legal.named
  | cons first more =>
    have lines : Reads (do
        let method ← Request.methodWord
        let target ← Request.targetWord
        let minorVersion ← version
        lineEnd .newLine
        let fields ← fieldList slots
        return ({ method, target, minorVersion, fields } : Request))
        (first :: more ++ [space] ++ (ofText target ++ [space] ++ (ofText "HTTP/1." ++
          [UInt8.ofNat (48 + minor)] ++
            (lineBreak ++ (fields.flatMap Field.line ++ lineBreak ++ [])))))
        ⟨first :: more, target, minor, fields.map Field.trimmed⟩ := by
      refine reads_bind (reads_methodWord legal.named legal.method) ?_
      refine reads_bind (reads_targetWord legal.aimed legal.target) ?_
      refine reads_bind (reads_version legal.version) ?_
      refine reads_bind (reads_lineEnd _) ?_
      exact reads_bind (reads_fieldsFrom #[] legal.fields room) reads_pure
    have front := emptyLines_token (legal.method first List.mem_cons_self)
    have shape : Request.lines ⟨first :: more, target, minor, fields⟩ =
        first :: more ++ [space] ++ (ofText target ++ [space] ++ (ofText "HTTP/1." ++
          [UInt8.ofNat (48 + minor)] ++
            (lineBreak ++ (fields.flatMap Field.line ++ lineBreak ++ [])))) := by
      simp [Request.lines]
    rw [shape]
    exact (bind_complete (front _)).trans (lines rest)

/-! ## Heads that are read as they were written -/

/-- A field as it is written. -/
def Field.text (f : Field) : Octets :=
  f.name ++ colon :: space :: (f.value ++ lineBreak)

/-- A field that is read as it was written. -/
structure Field.Plain (f : Field) : Prop where
  named : f.name ≠ []
  name : ∀ b ∈ f.name, isToken b = true
  value : ∀ b ∈ f.value, isText b = true
  /-- No blanks around the value. -/
  front : ∀ b ∈ f.value.head?, isSpace b = false
  back : ∀ b ∈ f.value.getLast?, isSpace b = false

/-- A head as it is written. -/
def Request.text (r : Request) : Octets :=
  r.method ++ space :: (ofText r.target ++ space :: (ofText "HTTP/1." ++
    (UInt8.ofNat (48 + r.minorVersion) ::
      (lineBreak ++ (r.fields.flatMap Field.text ++ lineBreak)))))

/-- A head that is read as it was written. -/
structure Request.Plain (r : Request) : Prop where
  named : r.method ≠ []
  method : ∀ b ∈ r.method, isToken b = true
  aimed : r.target ≠ ""
  target : ∀ ch ∈ r.target.toList, isVisible ch = true
  version : r.minorVersion ≤ 1
  fields : ∀ f ∈ r.fields, f.Plain

/-- The field with a blank in front of its value. -/
def Field.spaced (f : Field) : Field :=
  { f with value := space :: f.value }

/-- The head with a blank in front of every value. -/
def Request.spaced (r : Request) : Request :=
  { r with fields := r.fields.map Field.spaced }

theorem Request.lines_spaced (r : Request) : r.spaced.lines = r.text := by
  unfold Request.lines Request.spaced Request.text
  rw [List.flatMap_map]
  rfl

theorem trimEnd_eq {value : Octets} (back : ∀ b ∈ value.getLast?, isSpace b = false) :
    trimEnd value = value := by
  unfold trimEnd
  rw [← List.head?_reverse] at back
  cases h : value.reverse with
  | nil =>
    rw [List.reverse_eq_nil_iff.1 h]
    rfl
  | cons b rest =>
    have last := back b (by rw [h]; rfl)
    rw [List.dropWhile_cons_of_neg (by simp [last]), ← h, List.reverse_reverse]

theorem trimSpaces_eq {value : Octets} (front : ∀ b ∈ value.head?, isSpace b = false)
    (back : ∀ b ∈ value.getLast?, isSpace b = false) : trimSpaces value = value := by
  have kept : value.dropWhile isSpace = value := by
    cases value with
    | nil => rfl
    | cons b more => exact List.dropWhile_cons_of_neg (by simp [front b rfl])
  rw [trimSpaces, kept, trimEnd_eq back]

theorem Field.Plain.legal {f : Field} (plain : f.Plain) : f.spaced.Legal where
  named := plain.named
  name := plain.name
  value b mem := by
    rcases List.mem_cons.1 mem with rfl | mem
    · decide
    · exact plain.value b mem

theorem Field.Plain.trimmed {f : Field} (plain : f.Plain) : f.spaced.trimmed = f := by
  have blank : trimSpaces (space :: f.value) = trimSpaces f.value :=
    congrArg trimEnd (List.dropWhile_cons_of_pos (by decide))
  show Field.mk f.name (trimSpaces (space :: f.value)) = f
  rw [blank, trimSpaces_eq plain.front plain.back]

theorem Request.Plain.legal {r : Request} (plain : r.Plain) : r.spaced.Legal where
  named := plain.named
  method := plain.method
  aimed := plain.aimed
  target := plain.target
  version := plain.version
  fields := List.forall_mem_map.2 fun f mem => (plain.fields f mem).legal

theorem Request.Plain.trimmed {r : Request} (plain : r.Plain) : r.spaced.trimmed = r := by
  have same : (r.fields.map Field.spaced).map Field.trimmed = r.fields := by
    rw [List.map_map]
    exact (List.map_congr_left fun f mem => (plain.fields f mem).trimmed).trans (List.map_id _)
  obtain ⟨method, target, minor, fields⟩ := r
  exact congrArg (Request.mk method target minor) same

/-- What a head says, written in a line of its own and read back, whatever stands behind it. -/
theorem reads_scanner {r : Request} {slots : Nat} (plain : r.Plain)
    (room : r.fields.length ≤ slots) : Reads (Request.scanner slots) r.text r := by
  have same : r.spaced.fields.length = r.fields.length := List.length_map _
  have reads := reads_lines plain.legal (same ▸ room)
  rw [Request.lines_spaced, plain.trimmed] at reads
  exact reads

/-! ## Targets that are cut -/

/-- A target ends at the first octet that no target has. -/
theorem targetWord_complete {s rest : Octets} {target : String}
    (h : Request.targetWord s = .complete target rest) :
    Utf8.text? (s.takeWhile isTarget) = some target := by
  obtain ⟨taken, rest', take, h⟩ := complete_of_bind h
  have same : taken = s.takeWhile isTarget := by
    unfold takeWhile at take
    split at take <;> simp at take
    exact take.1.symm
  obtain ⟨_, rest'', -, h⟩ := complete_of_bind h
  rw [← same]
  cases text : Utf8.text? taken with
  | none => simp [text, bad] at h
  | some t =>
    simp only [text] at h
    split at h
    · simp [bad] at h
    · obtain ⟨rfl, -⟩ := Scanned.complete.inj h
      rfl

theorem target_of_complete {method s rest : Octets} {slots : Nat} {r : Request}
    (named : method ≠ []) (token : ∀ b ∈ method, isToken b = true)
    (h : Request.scanner slots (method ++ space :: s) = .complete r rest) :
    Utf8.text? (s.takeWhile isTarget) = some r.target := by
  cases method with
  | nil => exact absurd rfl named
  | cons first more =>
    have front := emptyLines_token (token first List.mem_cons_self) (more ++ space :: s)
    obtain ⟨_, s₁, skip, h⟩ := complete_of_bind h
    obtain ⟨-, rfl⟩ := Scanned.complete.inj (front.symm.trans skip)
    obtain ⟨_, s₂, word, h⟩ := complete_of_bind h
    have reads := reads_methodWord named token s
    rw [List.append_assoc] at reads
    obtain ⟨rfl, rfl⟩ := Scanned.complete.inj (reads.symm.trans word)
    obtain ⟨target, s₃, word, h⟩ := complete_of_bind h
    obtain ⟨_, _, -, h⟩ := complete_of_bind h
    obtain ⟨_, _, -, h⟩ := complete_of_bind h
    obtain ⟨_, _, -, h⟩ := complete_of_bind h
    obtain ⟨rfl, -⟩ := Scanned.complete.inj h
    exact targetWord_complete word

/-! ## Lines that go on too long -/

theorem word_cases {fault : Fault} {w line rest : Octets} (long : w.length ≤ line.length) :
    Refuses (word fault w) (line ++ rest) ∨
      word fault w (line ++ rest) = .complete () (line.drop w.length ++ rest) := by
  induction w generalizing line with
  | nil => exact Or.inr rfl
  | cons b w ih =>
    have filled : 0 < line.length := Nat.lt_of_lt_of_le (Nat.succ_pos _) long
    obtain ⟨b', line, rfl⟩ := List.exists_cons_of_length_pos filled
    by_cases same : b' = b
    · have first : expect b fault (b' :: (line ++ rest)) = .complete () (line ++ rest) := by
        rw [same]
        exact reads_expect b fault _
      rcases ih (Nat.le_of_succ_le_succ long) with h | h
      · exact Or.inl (refuses_behind first h)
      · exact Or.inr ((bind_complete first).trans h)
    · refine Or.inl (refuses_bind (refuses_behind (reads_next b' _) ?_))
      rw [if_neg same]
      exact refuses_bad _ _

/-- A version has eight octets, so a line that has more does not end where it has to. -/
theorem refuses_versionLine {α : Type} {line rest : Octets} (inline : ∀ b ∈ line, isText b = true)
    (long : 8 < line.length) (f : Nat → Unit → Scanner Fault α) :
    Refuses (version >>= fun minor => lineEnd .newLine >>= f minor) (line ++ rest) := by
  have seven : (ofText "HTTP/1.").length = 7 := by decide
  obtain ⟨digit, b, more, tail⟩ : ∃ digit b more, line.drop 7 = digit :: b :: more := by
    match e : line.drop 7, List.length_drop (i := 7) (l := line) with
    | [], length => exact absurd length (by simp; omega)
    | [_], length => exact absurd length (by simp; omega)
    | digit :: b :: more, _ => exact ⟨digit, b, more, rfl⟩
  have mem : b ∈ line.drop 7 := by
    rw [tail]
    exact List.mem_cons_of_mem _ List.mem_cons_self
  obtain ⟨notLf, notCr⟩ := ne_of_isText (inline b (List.mem_of_mem_drop mem))
  have ends : ∀ minor, Refuses (lineEnd .newLine >>= f minor) (b :: (more ++ rest)) := by
    intro minor
    refine refuses_bind (refuses_behind (reads_next b _) ?_)
    rw [if_neg notLf, if_neg notCr]
    exact refuses_bad _ _
  have cases : Refuses (word .version (ofText "HTTP/1.")) (line ++ rest) ∨
      word .version (ofText "HTTP/1.") (line ++ rest) =
        .complete () (line.drop (ofText "HTTP/1.").length ++ rest) :=
    word_cases (by omega)
  rcases cases with word | word
  · exact refuses_bind (refuses_bind word)
  · rw [seven, tail] at word
    have digits : ∀ minor, (if digit = 48 then pure 0 else if digit = 49 then pure 1
        else bad .version : Scanner Fault Nat) (b :: (more ++ rest)) =
          .complete minor (b :: (more ++ rest)) →
        version (line ++ rest) = .complete minor (b :: (more ++ rest)) := by
      intro minor h
      exact (bind_complete word).trans ((bind_complete (reads_next digit _)).trans h)
    by_cases zero : digit = 48
    · refine refuses_behind (digits 0 ?_) (ends 0)
      rw [if_pos zero]
      rfl
    · by_cases one : digit = 49
      · refine refuses_behind (digits 1 ?_) (ends 1)
        rw [if_neg zero, if_pos one]
        rfl
      · refine refuses_bind (refuses_behind word (refuses_behind (reads_next digit _) ?_))
        rw [if_neg zero, if_neg one]
        exact refuses_bad _ _

theorem targetWord_cases {front : Octets} {b : UInt8} (target : ∀ x ∈ front, isTarget x = true)
    (stop : isTarget b = false) (rest : Octets) :
    Refuses Request.targetWord (front ++ b :: rest) ∨
      ∃ t, Request.targetWord (front ++ b :: rest) = .complete t rest := by
  have taken := takeWhile_complete (ε := Fault) target stop rest
  by_cases blank : b = space
  · have gap : expect space Fault.token (b :: rest) = .complete () rest := by
      rw [blank]
      exact reads_expect space .token rest
    cases text : Utf8.text? front with
    | none =>
      refine Or.inl (refuses_behind taken (refuses_behind gap ?_))
      rw [text]
      exact refuses_bad _ _
    | some t =>
      cases empty : front.isEmpty with
      | true =>
        refine Or.inl (refuses_behind taken (refuses_behind gap ?_))
        rw [text]
        dsimp only
        rw [if_pos empty]
        exact refuses_bad _ _
      | false =>
        refine Or.inr ⟨t, (bind_complete taken).trans ((bind_complete gap).trans ?_)⟩
        simp only [text, empty]
        rfl
  · refine Or.inl (refuses_behind taken (refuses_bind (refuses_behind (reads_next b _) ?_)))
    rw [if_neg blank]
    exact refuses_bad _ _

/-- A target that breaks off inside its line. What goes on behind it is no version of a head. -/
theorem refuses_scanner {method front line rest : Octets} {b : UInt8} {slots : Nat}
    (named : method ≠ []) (token : ∀ x ∈ method, isToken x = true)
    (target : ∀ x ∈ front, isTarget x = true) (stop : isTarget b = false)
    (inline : ∀ x ∈ line, isText x = true) (long : 8 < line.length) :
    Refuses (Request.scanner slots) (method ++ space :: (front ++ b :: (line ++ rest))) := by
  cases method with
  | nil => exact absurd rfl named
  | cons first more =>
    refine refuses_behind (emptyLines_token (token first List.mem_cons_self) _) ?_
    have word := reads_methodWord named token (front ++ b :: (line ++ rest))
    rw [List.append_assoc] at word
    refine refuses_behind word ?_
    rcases targetWord_cases target stop (line ++ rest) with bad | ⟨t, read⟩
    · exact refuses_bind bad
    · exact refuses_behind read (refuses_versionLine inline long _)

end Http

end Sluice

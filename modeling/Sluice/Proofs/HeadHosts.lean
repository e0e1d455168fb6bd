import Mathlib.Data.List.TakeDrop
import Sluice.Sniff.Stage
import Sluice.Proofs.Conversation
import Sluice.Proofs.RequestHeads
import Sluice.Proofs.UrlHosts

/-
  The host that a request names stays on its line. Whatever a scanner comes to is made of octets
  that it has let pass (`Gives`): a target of visible ones, the value of a field of those that may
  stand in a line. A host is cut out of one of them, or is the host of a URL. So no client gives a
  name with a line break in it by way of a request (`inline_sniff`).
-/

namespace Sluice

open Http (isVisible isInline)

/-! ## What scanners come to -/

namespace Scanner

variable {ε α β : Type} {P : α → Prop} {Q : β → Prop} {p : Scanner ε α} {f : α → Scanner ε β}

/-- Does whatever a scanner comes to have this property? -/
def Gives (p : Scanner ε α) (P : α → Prop) : Prop :=
  ∀ s a rest, p s = .complete a rest → P a

theorem gives_pure {a : α} (h : P a) : Gives (pure a : Scanner ε α) P := by
  intro s a' rest e
  obtain ⟨rfl, -⟩ := Scanned.complete.inj e
  exact h

theorem gives_bad (e : ε) : Gives (bad e : Scanner ε α) P :=
  fun _ _ _ h => nomatch h

theorem gives_all (p : Scanner ε α) : Gives p fun _ => True :=
  fun _ _ _ _ => trivial

theorem gives_bind (hp : Gives p P) (hf : ∀ a, P a → Gives (f a) Q) : Gives (p >>= f) Q := by
  intro s b rest h
  obtain ⟨a, rest', first, second⟩ := complete_of_bind h
  exact hf a (hp s a rest' first) rest' b rest second

theorem gives_takeWhile (q : UInt8 → Bool) :
    Gives (takeWhile q : Scanner ε Octets) fun s => ∀ b ∈ s, q b = true := by
  intro s a rest h b mem
  unfold takeWhile at h
  split at h
  · simp at h
  · obtain ⟨rfl, -⟩ := Scanned.complete.inj h
    exact List.all_eq_true.1 List.all_takeWhile b mem

end Scanner

namespace Http

open Octets Scanner

/-- A field whose value stays on its line. -/
def Field.Inline (f : Field) : Prop :=
  ∀ b ∈ f.value, isText b = true

theorem mem_trimEnd {b : UInt8} {value : Octets} (h : b ∈ trimEnd value) : b ∈ value :=
  List.mem_reverse.1 ((List.dropWhile_sublist _).subset (List.mem_reverse.1 h))

theorem gives_fieldFrom (first : UInt8) : Gives (fieldFrom first) Field.Inline := by
  have value : Gives fieldValue fun value => ∀ b ∈ value, isText b = true := by
    refine gives_bind (gives_all _) fun _ _ => ?_
    refine gives_bind (gives_takeWhile isText) fun value text => ?_
    refine gives_bind (gives_all _) fun _ _ => ?_
    exact gives_pure fun b mem => text b (mem_trimEnd mem)
  unfold fieldFrom
  split
  · exact gives_bad _
  · refine gives_bind (gives_all _) fun _ _ => ?_
    refine gives_bind (gives_all _) fun _ _ => ?_
    exact gives_bind value fun _ text => gives_pure text

theorem gives_fieldsFrom (before : Array Field) (slots : Nat)
    (h : ∀ f ∈ before.toList, f.Inline) :
    Gives (fieldsFrom before slots) fun fields => ∀ f ∈ fields, f.Inline := by
  induction slots generalizing before with
  | zero =>
    refine gives_bind (gives_all _) fun b _ => ?_
    split
    · exact gives_pure h
    · split
      · exact gives_bind (gives_all _) fun _ _ => gives_pure h
      · exact gives_bind (gives_all _) fun _ _ => gives_bad _
  | succ slots ih =>
    refine gives_bind (gives_all _) fun b _ => ?_
    split
    · exact gives_pure h
    · split
      · exact gives_bind (gives_all _) fun _ _ => gives_pure h
      · refine gives_bind (gives_fieldFrom b) fun f inline => ih _ ?_
        rw [Array.toList_push]
        intro f' mem
        rcases List.mem_append.1 mem with mem | mem
        · exact h f' mem
        · rw [List.mem_singleton.1 mem]
          exact inline

theorem gives_targetWord : Gives Request.targetWord Visible := by
  refine gives_bind (gives_takeWhile isTarget) fun target visible => ?_
  refine gives_bind (gives_all _) fun _ _ => ?_
  cases read : Utf8.decode target with
  | error e =>
    have none : Utf8.text? target = Option.none := by rw [Utf8.text?, read]
    rw [none]
    exact gives_bad _
  | ok cs =>
    have some : Utf8.text? target = Option.some (String.ofList cs) := by rw [Utf8.text?, read]
    rw [some]
    dsimp only
    split
    · exact gives_bad _
    · exact gives_pure (Visible.ofList (spelled_visible.characters visible read))

/-- A head with nothing in it that leaves its line. -/
structure Request.Inline (r : Request) : Prop where
  target : Visible r.target
  fields : ∀ f ∈ r.fields, f.Inline

theorem gives_scanner (slots : Nat) : Gives (Request.scanner slots) Request.Inline := by
  refine gives_bind (gives_all _) fun _ _ => ?_
  refine gives_bind (gives_all _) fun _ _ => ?_
  refine gives_bind gives_targetWord fun target visible => ?_
  refine gives_bind (gives_all _) fun _ _ => ?_
  refine gives_bind (gives_all _) fun _ _ => ?_
  refine gives_bind (gives_fieldsFrom #[] slots (by simp)) fun fields inline => ?_
  exact gives_pure ⟨visible, inline⟩

/-! ## What is cut out of them -/

/-- Does every character of a name, if there is one, stay on its line? -/
def InlineName (name : Option String) : Prop :=
  ∀ text, name = some text → ∀ ch ∈ text.toList, isInline ch = true

theorem isInline_of_isVisible {ch : Char} (h : isVisible ch = true) : isInline ch = true :=
  Bool.or_eq_true_iff.2 (Or.inr h)

theorem inline_named {cs : List Char} (h : ∀ ch ∈ cs, isInline ch = true) :
    InlineName (named cs) := by
  intro text e
  unfold named at e
  split at e
  · simp at e
  · obtain rfl := Option.some.inj e
    rw [String.toList_ofList]
    exact h

theorem mem_stripPort {ch : Char} {authority : List Char} (h : ch ∈ stripPort authority) :
    ch ∈ authority := by
  unfold stripPort at h
  split at h
  · exact List.mem_cons_of_mem _ ((List.takeWhile_sublist _).subset h)
  · rw [List.span_eq_takeWhile_dropWhile] at h
    split at h
    · next e =>
      split at h
      · exact h
      · obtain rfl := congrArg Prod.fst e
        exact (List.takeWhile_sublist _).subset h
    · exact h

theorem mem_trimmed {p q : Char → Bool} {ch : Char} {text : List Char}
    (h : ch ∈ ((text.dropWhile p).reverse.dropWhile q).reverse) : ch ∈ text :=
  (List.dropWhile_sublist _).subset
    (List.mem_reverse.1 ((List.dropWhile_sublist _).subset (List.mem_reverse.1 h)))

theorem inline_hostOfUrl {target : String} {name : Option String}
    (h : hostOfUrl target = .ok name) : InlineName name := by
  unfold hostOfUrl at h
  split at h
  · simp at h
  · next url parsed =>
    obtain rfl := Except.ok.inj h
    have shown := Url.shown_parse target url parsed
    unfold Url.hostText?
    cases host : url.host with
    | none => exact nofun
    | some host' =>
      refine inline_named fun ch mem => ?_
      exact isInline_of_isVisible (shown host' host ch (mem_trimmed mem))

theorem inline_hostOfTarget {r : Request} (visible : Visible r.target) {name : Option String}
    (h : hostOfTarget r = .ok name) : InlineName name := by
  unfold hostOfTarget at h
  split at h
  · obtain rfl := Except.ok.inj h
    exact inline_named fun ch mem => isInline_of_isVisible (visible ch (mem_stripPort mem))
  · split at h
    · exact inline_hostOfUrl h
    · obtain rfl := Except.ok.inj h
      exact nofun

theorem inline_hostOfFields {fields : List Field} (inline : ∀ f ∈ fields, f.Inline)
    {name : Option String} (h : hostOfFields fields = .ok name) : InlineName name := by
  unfold hostOfFields at h
  split at h
  · obtain rfl := Except.ok.inj h
    exact nofun
  · next f found =>
    split at h
    · simp at h
    · next value read =>
      obtain rfl := Except.ok.inj h
      have characters := spelled_inline.characters (inline f (List.mem_of_find?_eq_some found)) read
      exact inline_named fun ch mem => characters ch (mem_trimmed (mem_stripPort mem))

theorem inline_hostOf {r : Request} (inline : r.Inline) {name : Option String}
    (h : hostOf r = .ok name) : InlineName name := by
  unfold hostOf at h
  cases target : hostOfTarget r with
  | error e =>
    rw [target] at h
    simp [bind, Except.bind] at h
  | ok name' =>
    rw [target] at h
    cases name' with
    | none => exact inline_hostOfFields inline.fields h
    | some host =>
      obtain rfl := Except.ok.inj h
      exact inline_hostOfTarget inline.target target

/-! ## What a client is seen to give -/

theorem complete_of_parseWith {slots : Nat} {positive : 0 < slots} {s rest : Octets} {r : Request}
    (h : parseWith slots positive s = .ok (some (r, rest))) :
    ∃ slots', Request.scanner slots' s = .complete r rest := by
  fun_induction parseWith slots positive s with
  | case1 slots positive _ _ ih => exact ih h
  | case2 => simp at h
  | case3 slots positive => exact ⟨slots, Scanner.run_eq.1 h⟩

theorem inline_parse {s : Octets} {head : Head} (h : Head.parse s = .ok (some head)) :
    InlineName head.host := by
  unfold Head.parse at h
  split at h
  · simp at h
  · simp at h
  · next r rest parsed =>
    obtain ⟨slots, complete⟩ := complete_of_parseWith parsed
    have inline := gives_scanner slots s r rest complete
    cases host : hostOf r with
    | error e => simp [host, bind, Except.bind] at h
    | ok name =>
      rw [host] at h
      obtain rfl := Option.some.inj (Except.ok.inj h)
      exact inline_hostOf inline host

variable {σ : Type} [Readable σ]

theorem gives_readHeadFrom (front : Array UInt8) :
    Session.Gives (readHeadFrom (σ := σ) front) fun head => InlineName head.host := by
  fun_induction readHeadFrom (σ := σ) front with
  | case1 front ih =>
    refine Session.gives_bind (Session.gives_all _) fun s _ => ?_
    cases s with
    | nil => exact Session.gives_fail _
    | cons b more =>
      dsimp only
      split
      · exact Session.gives_fail _
      · next head parsed => exact Session.gives_pure (inline_parse parsed)
      · split
        · exact Session.gives_fail _
        · next short => exact ih b more short

end Http

namespace Sniff

variable {σ ε α : Type}

theorem gives_peeking {P : α → Prop} {p : Session (Peek σ) ε α} (h : Session.Gives p P) :
    Session.Gives (peeking p) fun found => P found.value := by
  intro r found e
  unfold peeking at e
  cases outcome : (p (Peek.start r)).1 with
  | done a =>
    have value : found.value = a := by
      simp only [outcome, Outcome.map] at e
      exact (congrArg Found.value (Outcome.done.inj e)).symm
    rw [value]
    exact h _ a outcome
  | failed e' => simp [outcome, Outcome.map] at e
  | pending => simp [outcome, Outcome.map] at e

/-- A client that sends a request gives no name that leaves its line. -/
theorem inline_sniff [Readable σ] : Session.Gives (sniff (σ := σ)) fun s =>
    s.isTls = false → Http.InlineName s.hostname := by
  refine Session.gives_bind (Session.gives_all _) fun found _ => ?_
  split
  · exact Session.gives_bind (Session.gives_all _) fun _ _ => Session.gives_pure nofun
  · refine Session.gives_bind (gives_peeking (Http.gives_readHeadFrom _)) fun head inline => ?_
    exact Session.gives_pure fun _ => inline

end Sniff

end Sluice

import Mathlib.Data.Set.Card
import Sluice.Server.Slots

/-
  The counters of the slots. How many are held is never counted as such: it is what the free ones
  leave of the limit, and the peak, the slots handed out and the requests refused are each counted
  on one branch only. Along every run they agree with what was asked and answered (`Counted`,
  `counted_turn`): nothing drifts, whatever is released, in whatever order and how often
  (`run_counts`).
-/

namespace Sluice

namespace Slots

/-- Does a step ask for a slot? -/
def Step.isAcquire : Step → Bool
  | .acquire => true
  | .release _ => false

/-- What is done and what is answered, in order. -/
def history (s : Slots) (steps : List Step) : List (Step × Answer) :=
  steps.zip (s.run steps).1

/-- The slots that were handed out, in order. -/
def handedOut (past : List (Step × Answer)) : List Nat :=
  past.filterMap fun
    | (_, .acquired slot) => slot
    | (_, .released _) => none

/-- The slots that were found held when they were released, in order. -/
def givenBack (past : List (Step × Answer)) : List Nat :=
  past.filterMap fun
    | (.release slot, .released true) => some slot
    | _ => none

/-- Was this slot released once it had been handed out? -/
def WasReleased (past : List (Step × Answer)) (slot : Nat) : Prop :=
  ∃ earlier answer later,
    past = earlier ++ (.release slot, answer) :: later ∧ slot ∈ handedOut earlier

/-! ## One step -/

/-- All that a step can answer and do. -/
inductive Turn (s : Slots) : Step → Answer → Slots → Prop where
  | take {free} : s.free = free + 1 →
      Turn s .acquire (.acquired (some s.created))
        { s with
          free
          held := s.created :: s.held
          peak := Nat.max s.peak (s.max - free)
          created := s.created + 1 }
  | refuse : s.free = 0 →
      Turn s .acquire (.acquired none) { s with rejected := s.rejected + 1 }
  | giveBack {slot} : slot ∈ s.held →
      Turn s (.release slot) (.released true)
        { s with free := s.free + 1, held := s.held.erase slot }
  | ignore {slot} : slot ∉ s.held → Turn s (.release slot) (.released false) s

theorem turn_step (s : Slots) (t : Step) : s.Turn t (s.step t).1 (s.step t).2 := by
  cases t with
  | acquire =>
    cases free : s.free with
    | zero =>
      rw [step, acquire_full free]
      exact .refuse free
    | succ n =>
      rw [step, acquire_free free]
      exact .take free
  | release slot =>
    by_cases held : slot ∈ s.held
    · rw [step, release_held held]
      exact .giveBack held
    · rw [step, release_other held]
      exact .ignore held

/-! ## Runs, one step longer -/

theorem length_answers (s : Slots) (steps : List Step) : (s.run steps).1.length = steps.length := by
  induction steps generalizing s with
  | nil => rfl
  | cons t steps ih => exact congrArg (· + 1) (ih _)

theorem run_cons (s : Slots) (t : Step) (steps : List Step) :
    s.run (t :: steps) = ((s.step t).1 :: ((s.step t).2.run steps).1, ((s.step t).2.run steps).2) :=
  rfl

theorem run_concat (s : Slots) (steps : List Step) (t : Step) :
    s.run (steps ++ [t]) =
      ((s.run steps).1 ++ [((s.run steps).2.step t).1], ((s.run steps).2.step t).2) := by
  induction steps generalizing s with
  | nil => rfl
  | cons t' steps ih =>
    rw [List.cons_append, run_cons, ih]
    rfl

theorem history_concat (s : Slots) (steps : List Step) (t : Step) :
    s.history (steps ++ [t]) = s.history steps ++ [(t, ((s.run steps).2.step t).1)] := by
  rw [history, run_concat, List.zip_append (length_answers s steps).symm]
  rfl

theorem map_history (s : Slots) (steps : List Step) :
    (s.history steps).map Prod.fst = steps :=
  List.map_fst_zip (Nat.le_of_eq (length_answers s steps).symm)

section

variable {limit : Nat} {past : List (Step × Answer)} {s s' : Slots} {t : Step} {answer : Answer}
  {slot : Nat}

theorem handedOut_concat : handedOut (past ++ [(t, answer)]) =
    handedOut past ++ handedOut [(t, answer)] :=
  List.filterMap_append

theorem givenBack_concat : givenBack (past ++ [(t, answer)]) =
    givenBack past ++ givenBack [(t, answer)] :=
  List.filterMap_append

theorem handedOut_same (none : handedOut [(t, answer)] = []) :
    handedOut (past ++ [(t, answer)]) = handedOut past := by
  rw [handedOut_concat, none, List.append_nil]

theorem givenBack_same (none : givenBack [(t, answer)] = []) :
    givenBack (past ++ [(t, answer)]) = givenBack past := by
  rw [givenBack_concat, none, List.append_nil]

/-- A slot was released by the last step or before it. -/
theorem wasReleased_concat : WasReleased (past ++ [(t, answer)]) slot ↔
    WasReleased past slot ∨ (t = .release slot ∧ slot ∈ handedOut past) := by
  constructor
  · rintro ⟨earlier, answer', later, split, handed⟩
    rcases List.eq_nil_or_concat later with rfl | ⟨later, last, rfl⟩
    · obtain ⟨rfl, same⟩ := List.append_inj' split rfl
      exact Or.inr ⟨congrArg Prod.fst (List.cons.inj same).1, handed⟩
    · rw [List.concat_eq_append, ← List.cons_append, ← List.append_assoc] at split
      obtain ⟨rfl, -⟩ := List.append_inj' split rfl
      exact Or.inl ⟨earlier, answer', later, rfl, handed⟩
  · rintro (⟨earlier, answer', later, rfl, handed⟩ | ⟨rfl, handed⟩)
    · exact ⟨earlier, answer', later ++ [(t, answer)], by simp, handed⟩
    · exact ⟨past, answer, [], rfl, handed⟩

/-! ## The counters -/

/-- The counters agree with what was asked and answered. -/
structure Counted (limit : Nat) (past : List (Step × Answer)) (s : Slots) : Prop where
  max : s.max = limit
  permits : s.free + s.held.length = limit
  handed : handedOut past = List.range s.created
  /-- Whatever was handed out is held or was given back, and this once. -/
  places : (s.held ++ givenBack past).Perm (List.range s.created)
  released : ∀ slot, slot ∈ givenBack past ↔ WasReleased past slot
  asked : s.created + s.rejected = (past.map Prod.fst).countP Step.isAcquire

theorem counted_start (limit : Nat) : Counted limit [] { max := limit } where
  max := rfl
  permits := rfl
  handed := rfl
  places := List.Perm.nil
  released slot := by
    refine ⟨nofun, ?_⟩
    rintro ⟨earlier, answer, later, split, -⟩
    simp at split
  asked := rfl

theorem Counted.active_eq (counted : Counted limit past s) : s.active = s.held.length := by
  have max := counted.max
  have permits := counted.permits
  rw [active]
  omega

theorem Counted.full_iff (counted : Counted limit past s) : s.active = limit ↔ s.free = 0 := by
  have permits := counted.permits
  rw [counted.active_eq]
  omega

theorem acquire_eq_none : s.acquire.1 = none ↔ s.free = 0 := by
  cases free : s.free with
  | zero => simp [acquire_full free]
  | succ n => simp [acquire_free free]

/-- A slot that was handed out is held or was given back. -/
theorem Counted.held_or_givenBack (counted : Counted limit past s) :
    slot ∈ handedOut past ↔ slot ∈ s.held ∨ slot ∈ givenBack past := by
  rw [counted.handed, ← counted.places.mem_iff, List.mem_append]

theorem asked_concat : ((past ++ [(t, answer)]).map Prod.fst).countP Step.isAcquire =
    (past.map Prod.fst).countP Step.isAcquire + if t.isAcquire then 1 else 0 := by
  rw [List.map_append, List.countP_append]
  exact congrArg _ (List.countP_singleton ..)

theorem counted_turn (counted : Counted limit past s) (turn : s.Turn t answer s') :
    Counted limit (past ++ [(t, answer)]) s' := by
  have permits := counted.permits
  have asked := counted.asked
  have places := counted.places
  cases turn with
  | @take free some =>
    refine ⟨counted.max, ?_, ?_, ?_, fun slot => ?_, ?_⟩
    · show free + (s.held.length + 1) = limit
      omega
    · rw [handedOut_concat, counted.handed]
      exact List.range_succ.symm
    · rw [givenBack_same rfl]
      show (s.created :: (s.held ++ givenBack past)).Perm (List.range (s.created + 1))
      rw [List.range_succ]
      exact (places.cons _).trans (List.perm_append_singleton _ _).symm
    · rw [givenBack_same rfl, wasReleased_concat, ← counted.released]
      exact ⟨Or.inl, fun back => back.resolve_right fun ⟨same, _⟩ => nomatch same⟩
    · rw [asked_concat, ← asked]
      exact Nat.add_right_comm _ _ _
  | refuse none =>
    refine ⟨counted.max, permits, ?_, ?_, fun slot => ?_, ?_⟩
    · rw [handedOut_same rfl]
      exact counted.handed
    · rw [givenBack_same rfl]
      exact places
    · rw [givenBack_same rfl, wasReleased_concat, ← counted.released]
      exact ⟨Or.inl, fun back => back.resolve_right fun ⟨same, _⟩ => nomatch same⟩
    · rw [asked_concat, ← asked]
      rfl
  | @giveBack slot held =>
    have some := List.length_pos_of_mem held
    refine ⟨counted.max, ?_, ?_, ?_, fun other => ?_, ?_⟩
    · show s.free + 1 + (s.held.erase slot).length = limit
      rw [List.length_erase_of_mem held]
      omega
    · rw [handedOut_same rfl]
      exact counted.handed
    · rw [givenBack_concat]
      refine List.Perm.trans ?_ places
      show (s.held.erase slot ++ (givenBack past ++ [slot])).Perm (s.held ++ givenBack past)
      refine ((List.perm_append_singleton slot _).append_left _).trans ?_
      exact List.perm_middle.trans ((List.perm_cons_erase held).symm.append_right _)
    · rw [givenBack_concat, wasReleased_concat, ← counted.released, List.mem_append]
      refine or_congr_right ⟨fun same => ?_, fun ⟨same, _⟩ => ?_⟩
      · obtain rfl : other = slot := List.mem_singleton.1 same
        exact ⟨rfl, counted.held_or_givenBack.2 (Or.inl held)⟩
      · obtain rfl := Step.release.inj same
        exact List.mem_singleton.2 rfl
    · rw [asked_concat, ← asked]
      rfl
  | @ignore slot free =>
    refine ⟨counted.max, permits, ?_, ?_, fun other => ?_, ?_⟩
    · rw [handedOut_same rfl]
      exact counted.handed
    · rw [givenBack_same rfl]
      exact places
    · rw [givenBack_same rfl, wasReleased_concat, ← counted.released]
      refine ⟨Or.inl, ?_⟩
      rintro (back | ⟨same, handed⟩)
      · exact back
      · obtain rfl := Step.release.inj same
        exact (counted.held_or_givenBack.1 handed).resolve_left free
    · rw [asked_concat, ← asked]
      rfl

/-- The counters agree along every run. -/
theorem run_counted (limit : Nat) (steps : List Step) :
    Counted limit (history { max := limit } steps) (run { max := limit } steps).2 := by
  induction steps using List.reverseRecOn with
  | nil => exact counted_start limit
  | append_singleton steps t ih =>
    rw [history_concat, run_concat]
    exact counted_turn ih (turn_step _ t)

/-- As many slots were released as were given back, each counted once. -/
theorem Counted.ncard_released (counted : Counted limit past s) :
    {slot | WasReleased past slot}.ncard = (givenBack past).length := by
  have distinct : (givenBack past).Nodup :=
    (List.nodup_append.1 (counted.places.nodup_iff.2 List.nodup_range)).2.1
  have same : {slot | WasReleased past slot} = ((givenBack past).toFinset : Set Nat) := by
    ext slot
    rw [Finset.mem_coe, List.mem_toFinset, counted.released]
    rfl
  rw [same, Set.ncard_coe_finset, List.toFinset_card_of_nodup distinct]

/-! ## The peak -/

/-- How many slots were held at the moments of a run. -/
def actives (s : Slots) (steps : List Step) : Set Nat :=
  {n | ∃ before, before <+: steps ∧ (s.run before).2.active = n}

theorem actives_nil (s : Slots) : s.actives [] = {s.active} := by
  ext n
  constructor
  · rintro ⟨before, front, rfl⟩
    rw [List.prefix_nil.1 front]
    rfl
  · rintro rfl
    exact ⟨[], List.prefix_rfl, rfl⟩

theorem actives_concat (s : Slots) (steps : List Step) (t : Step) :
    s.actives (steps ++ [t]) = insert (s.run (steps ++ [t])).2.active (s.actives steps) := by
  ext n
  constructor
  · rintro ⟨before, front, rfl⟩
    rcases List.prefix_concat_iff.1 front with rfl | front
    · exact Set.mem_insert _ _
    · exact Set.mem_insert_of_mem _ ⟨before, front, rfl⟩
  · rintro (rfl | ⟨before, front, rfl⟩)
    · exact ⟨_, List.prefix_rfl, rfl⟩
    · exact ⟨before, front.trans (List.prefix_append _ _), rfl⟩

/-- The peak takes in what a step comes to, though only a step that takes a slot looks at it. -/
theorem peak_turn (turn : s.Turn t answer s') (bound : s.active ≤ s.peak) :
    s'.peak = Max.max s.peak s'.active := by
  have lower : s.max - (s.free + 1) ≤ s.active := Nat.sub_le_sub_left (Nat.le_succ _) _
  cases turn with
  | take some => rfl
  | refuse none => exact (Nat.max_eq_left bound).symm
  | giveBack held => exact (Nat.max_eq_left (Nat.le_trans lower bound)).symm
  | ignore free => exact (Nat.max_eq_left bound).symm

theorem run_peak (limit : Nat) (steps : List Step) :
    IsGreatest (actives { max := limit } steps) (run { max := limit } steps).2.peak := by
  induction steps using List.reverseRecOn with
  | nil =>
    have none : active { max := limit } = 0 := Nat.sub_self limit
    rw [actives_nil, none]
    exact isGreatest_singleton
  | append_singleton steps t ih =>
    have bound := ih.2 ⟨steps, List.prefix_rfl, rfl⟩
    have peak := peak_turn (turn_step (run { max := limit } steps).2 t) bound
    rw [actives_concat, run_concat, peak, Nat.max_comm]
    exact ih.insert _

/-- The counters of the slots, for every limit and whatever is asked and released. The number of
slots held, which is taken from the free ones, is never below nothing nor above the limit, and is
the number of slots handed out less that of slots released since, each counted once. A request is
refused just when all slots are held, and then counts as refused and changes nothing else. Each
request is counted as one or the other, and the peak is the most slots that were held at any
moment. -/
theorem run_counts (limit : Nat) (steps : List Step) :
    let s₀ : Slots := { max := limit }
    let s := (s₀.run steps).2
    let past := s₀.history steps
    (s.max = limit ∧ s.free ≤ s.max ∧ s.active = s.held.length ∧ s.active ≤ limit) ∧
    s.active + {slot | WasReleased past slot}.ncard = (handedOut past).length ∧
    ((s.acquire.1 = none ↔ s.active = limit) ∧
      (s.acquire.1 = none → s.acquire.2 = { s with rejected := s.rejected + 1 })) ∧
    (s.created = (handedOut past).length ∧
      s.created + s.rejected = steps.countP Step.isAcquire) ∧
    IsGreatest {n | ∃ before, before <+: steps ∧ (s₀.run before).2.active = n} s.peak := by
  intro s₀ s past
  have counted : Counted limit past s := run_counted limit steps
  have active := counted.active_eq
  have permits := counted.permits
  have max := counted.max
  refine ⟨⟨max, by omega, active, by omega⟩, ?_, ⟨?_, ?_⟩, ⟨?_, ?_⟩, run_peak limit steps⟩
  · rw [counted.ncard_released, active, ← List.length_append, counted.places.length_eq,
      counted.handed]
  · rw [acquire_eq_none, counted.full_iff]
  · intro refused
    rw [acquire_full (acquire_eq_none.1 refused)]
  · rw [counted.handed, List.length_range]
  · rw [counted.asked, map_history]

end

end Slots

end Sluice

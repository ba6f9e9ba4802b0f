import Mathlib
import LocalRepair.Error

/-!
# Sequences of steps that may be refused

A sequence succeeds exactly if its steps do, one after the other, and steps that
all succeed act like plain functions.  What a sequence refuses, one of its steps does.
A scan of a list stops at the first item that is refused in view of those before it.
-/

namespace LocalRepair.Outcome

variable {α β : Type}

theorem bind_eq_ok_iff {step : Except Error α} {next : α → Except Error β} {result : β} :
    (step >>= next) = .ok result ↔ ∃ value, step = .ok value ∧ next value = .ok result := by
  cases step with
  | error cause =>
      constructor
      · intro success
        cases success
      · rintro ⟨value, impossible, _⟩
        cases impossible
  | ok value =>
      constructor
      · intro success
        exact ⟨value, rfl, success⟩
      · rintro ⟨other, same, success⟩
        cases same
        exact success

@[simp]
theorem ok_bind (value : α) (next : α → Except Error β) :
    (Except.ok value >>= next) = next value := rfl

@[simp]
theorem error_bind (cause : Error) (next : α → Except Error β) :
    (Except.error cause >>= next) = .error cause := rfl

@[simp]
theorem pure_eq_ok (value : α) : (pure value : Except Error α) = .ok value := rfl

theorem ensure_eq_ok_iff {condition : Prop} [Decidable condition] {cause : Error} :
    Error.ensure condition cause = .ok () ↔ condition := by
  unfold Error.ensure
  split <;> simp_all

theorem ensure_bind_eq_ok_iff {condition : Prop} [Decidable condition] {cause : Error}
    {next : Unit → Except Error α} {result : α} :
    (Error.ensure condition cause >>= next) = .ok result ↔ condition ∧ next () = .ok result := by
  rw [bind_eq_ok_iff]
  constructor
  · rintro ⟨_, holds, success⟩
    exact ⟨ensure_eq_ok_iff.mp holds, success⟩
  · rintro ⟨holds, success⟩
    exact ⟨(), ensure_eq_ok_iff.mpr holds, success⟩

theorem ensure_of {condition : Prop} [Decidable condition] (holds : condition)
    (cause : Error) : Error.ensure condition cause = .ok () :=
  ensure_eq_ok_iff.mpr holds

theorem exists_of_isOk {outcome : Except Error α} (success : outcome.isOk = true) :
    ∃ value, outcome = .ok value := by
  cases outcome with
  | error cause => cases success
  | ok value => exact ⟨value, rfl⟩

theorem mapM_eq_ok {step : α → Except Error β} {value : α → β} {list : List α}
    (success : ∀ item ∈ list, step item = .ok (value item)) :
    list.mapM step = .ok (list.map value) := by
  induction list with
  | nil => rfl
  | cons head tail ih =>
      have headSuccess := success head List.mem_cons_self
      have tailSuccess := ih fun item member =>
        success item (List.mem_cons_of_mem head member)
      rw [List.mapM_cons, headSuccess, ok_bind, tailSuccess, ok_bind, List.map_cons,
        pure_eq_ok]

theorem exists_mapM_eq_ok {step : α → Except Error β} {holds : α → β → Prop} {list : List α}
    (success : ∀ item ∈ list, ∃ value, step item = .ok value ∧ holds item value) :
    ∃ values, list.mapM step = .ok values ∧ List.Forall₂ holds list values := by
  induction list with
  | nil => exact ⟨[], rfl, .nil⟩
  | cons head tail ih =>
      obtain ⟨value, headSuccess, headHolds⟩ := success head List.mem_cons_self
      obtain ⟨values, tailSuccess, tailHolds⟩ := ih fun item member =>
        success item (List.mem_cons_of_mem head member)
      refine ⟨value :: values, ?_, .cons headHolds tailHolds⟩
      simp [headSuccess, tailSuccess]

theorem mapM_cases (step : α → Except Error β) (list : List α) :
    (∀ item ∈ list, ∃ value, step item = .ok value) ∨
      ∃ before item after cause, list = before ++ item :: after ∧
        (∀ earlier ∈ before, ∃ value, step earlier = .ok value) ∧
        step item = .error cause ∧ list.mapM step = .error cause := by
  induction list with
  | nil => simp
  | cons head tail ih =>
      cases headOutcome : step head with
      | error cause =>
          refine .inr ⟨[], head, tail, cause, rfl, by simp, headOutcome, ?_⟩
          rw [List.mapM_cons, headOutcome, error_bind]
      | ok value =>
          rcases ih with all | ⟨before, item, after, cause, rfl, earlier, refused, stops⟩
          · exact .inl (List.forall_mem_cons.mpr ⟨⟨value, headOutcome⟩, all⟩)
          · refine .inr ⟨head :: before, item, after, cause, rfl, ?_, refused, ?_⟩
            · exact List.forall_mem_cons.mpr ⟨⟨value, headOutcome⟩, earlier⟩
            · rw [List.mapM_cons, headOutcome, ok_bind, stops, error_bind]

theorem forM_eq_ok {check : α → Except Error Unit} {list : List α}
    (success : ∀ item ∈ list, check item = .ok ()) : list.forM check = .ok () := by
  induction list with
  | nil => rfl
  | cons head tail ih =>
      change (check head >>= fun _ => tail.forM check) = .ok ()
      rw [success head List.mem_cons_self, ok_bind]
      exact ih fun item member => success item (List.mem_cons_of_mem head member)

theorem exists_step_of_foldlM_eq_ok {step : β → α → Except Error β} {list : List α}
    {start final : β} (success : list.foldlM step start = .ok final) :
    ∀ item ∈ list, ∃ before after, step before item = .ok after := by
  induction list generalizing start with
  | nil =>
      intro item member
      cases member
  | cons head tail ih =>
      rw [List.foldlM_cons, bind_eq_ok_iff] at success
      obtain ⟨middle, first, rest⟩ := success
      intro item member
      rcases List.mem_cons.mp member with rfl | later
      · exact ⟨start, middle, first⟩
      · exact ih rest item later

section

variable {allowed : Error → Prop}

/-- Every refusal has an allowed cause. -/
def Refuses (allowed : Error → Prop) (outcome : Except Error α) : Prop :=
  ∀ cause, outcome = .error cause → allowed cause

theorem refuses_ok (value : α) : Refuses allowed (Except.ok value) := by
  intro cause impossible
  cases impossible

theorem refuses_error {cause : Error} (isAllowed : allowed cause) :
    Refuses allowed (Except.error cause : Except Error α) := by
  rintro _ ⟨⟩
  exact isAllowed

theorem refuses_ensure (condition : Prop) [Decidable condition] {cause : Error}
    (isAllowed : allowed cause) : Refuses allowed (Error.ensure condition cause) := by
  unfold Error.ensure
  split_ifs
  · exact refuses_ok ()
  · exact refuses_error isAllowed

/-- A sequence refuses what its first step refuses, or what the others do after it. -/
theorem Refuses.bind {step : Except Error α} {next : α → Except Error β}
    (first : Refuses allowed step)
    (others : ∀ value, step = .ok value → Refuses allowed (next value)) :
    Refuses allowed (step >>= next) := by
  cases outcome : step with
  | error cause => exact refuses_error (first cause outcome)
  | ok value => exact others value outcome

theorem Refuses.mapM {step : α → Except Error β} {list : List α}
    (each : ∀ item ∈ list, Refuses allowed (step item)) :
    Refuses allowed (list.mapM step) := by
  induction list with
  | nil => exact refuses_ok []
  | cons head tail ih =>
      rw [List.mapM_cons]
      refine (each head List.mem_cons_self).bind fun _ _ => ?_
      have rest := ih fun item member => each item (List.mem_cons_of_mem head member)
      exact rest.bind fun _ _ => refuses_ok _

end

/-! ## Scans -/

/-- A check that goes through a list item by item and judges each in view of those before
it, the latest of them first. -/
structure Scans (check : List α → List α → Except Error Unit) : Prop where
  nil : ∀ earlier, check earlier [] = .ok ()
  cons : ∀ earlier item rest, check earlier (item :: rest) =
    (check earlier [item] >>= fun _ => check (item :: earlier) rest)

/-- A scan refuses a list for the first item that is refused in view of those before it. -/
theorem Scans.eq_error_iff {check : List α → List α → Except Error Unit}
    (scans : Scans check) {earlier items : List α} {cause : Error} :
    check earlier items = .error cause ↔
      ∃ before item after, items = before ++ item :: after ∧ check earlier before = .ok () ∧
        check (before.reverse ++ earlier) [item] = .error cause := by
  induction items generalizing earlier with
  | nil => simp [scans.nil]
  | cons head tail ih =>
      rw [scans.cons]
      constructor
      · intro refused
        cases first : check earlier [head] with
        | error other =>
            rw [first, error_bind] at refused
            exact ⟨[], head, tail, rfl, scans.nil earlier, first.trans refused⟩
        | ok passed =>
            rw [first, ok_bind, ih] at refused
            obtain ⟨before, item, after, rfl, accepted, refused⟩ := refused
            refine ⟨head :: before, item, after, rfl, ?_, ?_⟩
            · rw [scans.cons, first, ok_bind, accepted]
            · simpa using refused
      · rintro ⟨before, item, after, division, accepted, refused⟩
        cases before with
        | nil =>
            obtain ⟨rfl, rfl⟩ := List.cons.inj division
            rw [List.reverse_nil, List.nil_append] at refused
            rw [refused, error_bind]
        | cons other before =>
            obtain ⟨rfl, rfl⟩ := List.cons.inj division
            rw [scans.cons, bind_eq_ok_iff] at accepted
            obtain ⟨_, first, accepted⟩ := accepted
            rw [first, ok_bind, ih]
            exact ⟨before, item, after, rfl, accepted, by simpa using refused⟩

end LocalRepair.Outcome

import Mathlib
import LocalRepair.Proofs.DomainRecovery

/-!
# Losses within tolerance

Tolerance is a matter of counting, and so is the size of the recovery system.
Whether the system can be inverted depends on more once two local groups lose two
blocks each, for then parities of their own share the matrix with the global ones.
With one such group at most, tolerance decides whether the data comes back.
-/

namespace LocalRepair.Scheme

variable {scheme : Scheme}

/-- Lost data within tolerance is recovered exactly if the parities that the recovery
uses determine it, as they do unless two local groups lose two blocks each; otherwise
the recovery matrix is singular. -/
theorem recoverTargets_tolerated_iff (constructed : scheme.Constructed)
    {domain targets : List Nat} (distinct : domain.Nodup)
    (inside : ∀ block ∈ domain, block < scheme.n)
    (tolerated : scheme.shape.checkTolerance [domain] = .ok ())
    (targetsDistinct : targets.Nodup)
    (lost : ∀ target ∈ targets, target < scheme.k ∧ target ∈ domain) :
    ((∃ graph, scheme.recoverTargets domain targets = .ok graph) ↔ scheme.Determined domain) ∧
      (scheme.SingleGroup domain → scheme.Determined domain) ∧
      (¬scheme.Determined domain → scheme.recoverTargets domain targets =
        .error (.recovery (.singular domain (scheme.lostData domain).length))) := by
  have sound := constructed.sound
  have supplied := (sound.supplied_iff distinct inside).mpr tolerated
  obtain ⟨system, systemOk⟩ := sound.exists_system distinct supplied
  have refused : ¬scheme.Determined domain → scheme.recoverTargets domain targets =
      .error (.recovery (.singular domain (scheme.lostData domain).length)) :=
    fun undetermined => sound.recoverTargets_eq_error systemOk undetermined targets
  refine ⟨⟨?_, ?_⟩, sound.determined_of_singleGroup distinct supplied, refused⟩
  · rintro ⟨graph, success⟩
    by_contra undetermined
    rw [refused undetermined] at success
    cases success
  · intro determined
    exact sound.recoverTargets_eq_ok systemOk determined targetsDistinct
      fun target member => mem_lostData.mpr (lost target member)

/-- Two data blocks of the only local group are determined, so they are recovered. -/
theorem recoverTargets_tolerated_pair :
    ∃ scheme graph, Scheme.flat 2 1 1 = .ok scheme ∧ scheme.Determined [0, 1] ∧
      scheme.recoverTargets [0, 1] [1] = .ok graph := by
  obtain ⟨scheme, built, inside, tolerated, lost, groups⟩ : ∃ scheme,
      Scheme.flat 2 1 1 = .ok scheme ∧ (∀ block ∈ [0, 1], block < scheme.n) ∧
        scheme.shape.checkTolerance [[0, 1]] = .ok () ∧
        (∀ target ∈ [1], target < scheme.k ∧ target ∈ [0, 1]) ∧ scheme.shape.l = 1 :=
    ⟨_, rfl, by decide⟩
  obtain ⟨recovered, single, _⟩ := recoverTargets_tolerated_iff (.flat built)
    (by decide : [0, 1].Nodup) inside tolerated (by decide : [1].Nodup) lost
  have determined : scheme.Determined [0, 1] := by
    apply single
    intro left leftInside right rightInside _ _
    omega
  obtain ⟨graph, success⟩ := recovered.mpr determined
  exact ⟨scheme, graph, built, determined, success⟩

/-- Four data blocks of two local groups are within tolerance with three global
parities.  The first two of these, at 6 and 7, give the same equation on data that is
equal in pairs, so the recovery matrix is singular. -/
theorem recoverTargets_singular_of_two_pairs :
    ∃ scheme, Scheme.flat 4 2 3 = .ok scheme ∧ [0, 1, 2, 3].Nodup ∧
      (∀ block ∈ [0, 1, 2, 3], block < scheme.n) ∧
      scheme.shape.checkTolerance [[0, 1, 2, 3]] = .ok () ∧
      scheme.recoverTargets [0, 1, 2, 3] [0] =
        .error (.recovery (.singular [0, 1, 2, 3] 4)) := by
  refine ⟨_, rfl, ?_⟩
  decide +kernel

theorem Sound.recoverTargets_eq_shortOfGlobals (sound : scheme.Sound) {domain : List Nat}
    (short : ¬scheme.Supplied domain) (targets : List Nat) :
    ∃ group, scheme.recoverTargets domain targets =
      .error (.recovery (.shortOfGlobals group scheme.shape.g domain)) := by
  rcases sound.recoverySystem_cases domain with
    ⟨supplied, _⟩ | ⟨supplied, _⟩ | ⟨_, group, refused⟩
  · exact absurd supplied short
  · exact absurd supplied short
  · exact ⟨group, by rw [recoverTargets, refused, Outcome.error_bind]⟩

/-- Where at most one local group loses two blocks or more, lost data is recovered
exactly if the loss is within tolerance, and then by a graph that determines it; otherwise
global parities are missing. -/
theorem recoverTargets_iff_tolerated (constructed : scheme.Constructed)
    {domain targets : List Nat} (distinct : domain.Nodup)
    (inside : ∀ block ∈ domain, block < scheme.n) (single : scheme.SingleGroup domain)
    (targetsDistinct : targets.Nodup)
    (lost : ∀ target ∈ targets, target < scheme.k ∧ target ∈ domain) :
    ((∃ graph, scheme.recoverTargets domain targets = .ok graph) ↔
        scheme.shape.checkTolerance [domain] = .ok ()) ∧
      (∀ graph, scheme.recoverTargets domain targets = .ok graph →
        scheme.Recovers domain targets graph) ∧
      (scheme.shape.checkTolerance [domain] ≠ .ok () →
        ∃ group, scheme.recoverTargets domain targets =
          .error (.recovery (.shortOfGlobals group scheme.shape.g domain))) := by
  have sound := constructed.sound
  have refused : scheme.shape.checkTolerance [domain] ≠ .ok () →
      ∃ group, scheme.recoverTargets domain targets =
        .error (.recovery (.shortOfGlobals group scheme.shape.g domain)) := by
    intro beyond
    apply sound.recoverTargets_eq_shortOfGlobals
    exact fun supplied => beyond ((sound.supplied_iff distinct inside).mp supplied)
  refine ⟨⟨?_, ?_⟩, fun graph success => (sound.recovers_of_recoverTargets success).2, refused⟩
  · rintro ⟨graph, success⟩
    by_contra beyond
    obtain ⟨group, short⟩ := refused beyond
    rw [success] at short
    cases short
  · intro tolerated
    have supplied := (sound.supplied_iff distinct inside).mpr tolerated
    obtain ⟨system, systemOk⟩ := sound.exists_system distinct supplied
    exact sound.recoverTargets_eq_ok systemOk
      (sound.determined_of_singleGroup distinct supplied single) targetsDistinct
      fun target member => mem_lostData.mpr (lost target member)

/-- Two data blocks of one group, one of the other and a global parity are within
tolerance; a whole group and a global parity are not. -/
theorem recoverTargets_iff_tolerated_pair :
    ∃ scheme graph group, Scheme.flat 4 2 2 = .ok scheme ∧
      scheme.SingleGroup [2, 0, 6, 1] ∧ scheme.shape.checkTolerance [[2, 0, 6, 1]] = .ok () ∧
      scheme.recoverTargets [2, 0, 6, 1] [1, 2] = .ok graph ∧
      scheme.Recovers [2, 0, 6, 1] [1, 2] graph ∧
      scheme.SingleGroup [4, 0, 6, 1] ∧ scheme.shape.checkTolerance [[4, 0, 6, 1]] ≠ .ok () ∧
      scheme.recoverTargets [4, 0, 6, 1] [1] =
        .error (.recovery (.shortOfGlobals group 2 [4, 0, 6, 1])) := by
  obtain ⟨scheme, built, width, ⟨inside, single, lost, tolerated⟩,
      wholeInside, wholeSingle, wholeLost, beyond⟩ : ∃ scheme,
      Scheme.flat 4 2 2 = .ok scheme ∧ scheme.shape.g = 2 ∧
        ((∀ block ∈ [2, 0, 6, 1], block < scheme.n) ∧ scheme.SingleGroup [2, 0, 6, 1] ∧
          (∀ target ∈ [1, 2], target < scheme.k ∧ target ∈ [2, 0, 6, 1]) ∧
          scheme.shape.checkTolerance [[2, 0, 6, 1]] = .ok ()) ∧
        (∀ block ∈ [4, 0, 6, 1], block < scheme.n) ∧ scheme.SingleGroup [4, 0, 6, 1] ∧
          (∀ target ∈ [1], target < scheme.k ∧ target ∈ [4, 0, 6, 1]) ∧
          scheme.shape.checkTolerance [[4, 0, 6, 1]] ≠ .ok () := by
    refine ⟨_, rfl, ?_⟩
    unfold SingleGroup
    decide
  obtain ⟨recovered, recovers, _⟩ := recoverTargets_iff_tolerated (.flat built) (by decide)
    inside single (by decide) lost
  obtain ⟨_, _, refused⟩ := recoverTargets_iff_tolerated (.flat built) (by decide) wholeInside
    wholeSingle (by decide) wholeLost
  obtain ⟨graph, success⟩ := recovered.mpr tolerated
  obtain ⟨group, short⟩ := refused beyond
  exact ⟨scheme, graph, group, built, single, tolerated, success, recovers graph success,
    wholeSingle, beyond, width ▸ short⟩

end LocalRepair.Scheme

import Mathlib
import LocalRepair.Proofs.Maintenance

/-!
# Answers to decode requests

`Answers` says which request is answered by which strategy or refused for which
reason.  Its clauses exclude one another and leave no request out, and the answer of
`planDecode` is the one that they give.  Hence the only refusals are those of the
clauses, and under maintenance a block is planned for exactly if `maintenanceAllowed`
says so.
-/

namespace LocalRepair.Scheme

/-- A request for one block under maintenance, which takes the domain of the block
offline. -/
structure TakesOffline (scheme : Scheme) (available : List Nat) (failed : Nat)
    (domain : FaultDomain) : Prop where
  maintains : scheme.kind ≠ .flat ∧ scheme.approach = .maintenance
  inside : ∀ block ∈ failed :: available, block < scheme.n
  placed : domain ∈ scheme.domains
  member : failed ∈ domain

/-- Another block of the domain belongs to the local group of the failed one. -/
def SiblingLost (scheme : Scheme) (domain : FaultDomain) (failed : Nat) : Prop :=
  ∃ sibling ∈ domain, sibling ≠ failed ∧
    scheme.shape.localGroup? sibling = scheme.shape.localGroup? failed

/-- The answers to requests, by what is asked of which scheme. -/
inductive Answers (scheme : Scheme) (available : List Nat) :
    List Nat → Except Error Strategy → Prop where
  | nothing : Answers scheme available [] (.error (.request .noFailedBlock))
  | several {failed : List Nat} :
      2 ≤ failed.length →
      Answers scheme available failed (.error (.multipleFailures failed))
  /-- The first index that is no block is reported. -/
  | outside {failed block : Nat} {before after : List Nat} :
      failed :: available = before ++ block :: after →
      (∀ index ∈ before, index < scheme.n) →
      scheme.n ≤ block →
      Answers scheme available [failed] (.error (.request (.blockOutside block scheme.n)))
  | repair {failed : Nat} :
      (∀ block ∈ failed :: available, block < scheme.n) →
      (scheme.kind = .flat ∨ scheme.approach = .repair) →
      Answers scheme available [failed] (.ok .singleRepair)
  /-- Members of the domain that are still available are listed in its order. -/
  | alive {failed : Nat} {domain alive : List Nat} :
      scheme.TakesOffline available failed domain →
      alive = domain.filter (fun block => block ≠ failed ∧ block ∈ available) →
      alive ≠ [] →
      Answers scheme available [failed] (.error (.maintenancePrecondition failed alive))
  | parity {failed : Nat} {domain : List Nat} :
      scheme.TakesOffline available failed domain →
      (∀ block ∈ domain, block ≠ failed → block ∉ available) →
      scheme.k ≤ failed →
      Answers scheme available [failed] (.error (.parityMaintenance failed))
  | sibling {failed : Nat} {domain : List Nat} :
      scheme.TakesOffline available failed domain →
      (∀ block ∈ domain, block ≠ failed → block ∉ available) →
      failed < scheme.k →
      scheme.SiblingLost domain failed →
      Answers scheme available [failed] (.ok .globalMaintenance)
  | alone {failed : Nat} {domain : List Nat} :
      scheme.TakesOffline available failed domain →
      (∀ block ∈ domain, block ≠ failed → block ∉ available) →
      failed < scheme.k →
      ¬scheme.SiblingLost domain failed →
      Answers scheme available [failed] (.ok .localMaintenance)

variable {scheme : Scheme} {available : List Nat} {failed : Nat} {domain : FaultDomain}

theorem aliveMembers_eq_filter :
    aliveMembers domain available failed =
      domain.filter fun block => block ≠ failed ∧ block ∈ available := by
  apply List.filter_congr
  intro block _
  simp

theorem aliveMembers_eq_nil_iff :
    aliveMembers domain available failed = [] ↔
      ∀ block ∈ domain, block ≠ failed → block ∉ available := by
  rw [List.eq_nil_iff_forall_not_mem]
  constructor
  · intro none block inDomain other isAvailable
    exact none block (mem_aliveMembers.mpr ⟨inDomain, other, isAvailable⟩)
  · intro quiet block alive
    obtain ⟨inDomain, other, isAvailable⟩ := mem_aliveMembers.mp alive
    exact quiet block inDomain other isAvailable

theorem losesSibling_iff (isData : failed < scheme.k) :
    scheme.losesSibling domain failed = true ↔ scheme.SiblingLost domain failed := by
  simp [losesSibling, SiblingLost, localGroup_of_isData isData]

theorem Sound.exists_domain (sound : scheme.Sound) (inside : failed < scheme.n) :
    ∃ domain ∈ scheme.domains, failed ∈ domain :=
  List.mem_flatten.mp (sound.mem_flatten_domains.mpr inside)

theorem inside_or_outside (scheme : Scheme) (blocks : List Nat) :
    (∀ block ∈ blocks, block < scheme.n) ∨
      ∃ before block after, blocks = before ++ block :: after ∧
        (∀ index ∈ before, index < scheme.n) ∧ scheme.n ≤ block := by
  induction blocks with
  | nil => simp
  | cons head tail ih =>
      by_cases headInside : head < scheme.n
      · rcases ih with inside | ⟨before, block, after, division, inside, beyond⟩
        · exact .inl (List.forall_mem_cons.mpr ⟨headInside, inside⟩)
        · refine .inr ⟨head :: before, block, after, ?_, ?_, beyond⟩
          · rw [division, List.cons_append]
          · exact List.forall_mem_cons.mpr ⟨headInside, inside⟩
      · exact .inr ⟨[], head, tail, rfl, by simp, Nat.le_of_not_lt headInside⟩

theorem Sound.exists_answers (sound : scheme.Sound) (available failed : List Nat) :
    ∃ outcome, scheme.Answers available failed outcome := by
  match failed with
  | [] => exact ⟨_, .nothing⟩
  | first :: second :: rest => exact ⟨_, .several (by simp)⟩
  | [block] =>
      rcases scheme.inside_or_outside (block :: available) with
        inside | ⟨before, index, after, division, inside, beyond⟩
      · by_cases repairs : scheme.kind = .flat ∨ scheme.approach = .repair
        · exact ⟨_, .repair inside repairs⟩
        · obtain ⟨domain, placed, member⟩ :=
            sound.exists_domain (inside block List.mem_cons_self)
          have maintains : scheme.kind ≠ .flat ∧ scheme.approach = .maintenance := by
            rw [not_or] at repairs
            refine ⟨repairs.1, ?_⟩
            cases isApproach : scheme.approach with
            | repair => exact absurd isApproach repairs.2
            | maintenance => rfl
          have offline : scheme.TakesOffline available block domain :=
            ⟨maintains, inside, placed, member⟩
          by_cases quiet : ∀ other ∈ domain, other ≠ block → other ∉ available
          · by_cases isData : block < scheme.k
            · by_cases sibling : scheme.SiblingLost domain block
              · exact ⟨_, .sibling offline quiet isData sibling⟩
              · exact ⟨_, .alone offline quiet isData sibling⟩
            · exact ⟨_, .parity offline quiet (Nat.le_of_not_lt isData)⟩
          · refine ⟨_, .alive offline aliveMembers_eq_filter ?_⟩
            exact fun none => quiet (aliveMembers_eq_nil_iff.mp none)
      · exact ⟨_, .outside division inside beyond⟩

/-- What a plan answers, without the graph. -/
def answer (scheme : Scheme) (available failed : List Nat) : Except Error Strategy :=
  (scheme.planDecode available failed).map DecodePlan.strategy

theorem answer_outside {block : Nat} {before after : List Nat}
    (division : failed :: available = before ++ block :: after)
    (inside : ∀ index ∈ before, index < scheme.n) (beyond : scheme.n ≤ block) :
    scheme.answer available [failed] = .error (.request (.blockOutside block scheme.n)) := by
  have found : (failed :: available).find? (scheme.n ≤ ·) = some block := by
    rw [List.find?_eq_some_iff_append]
    refine ⟨decide_eq_true beyond, before, after, division, ?_⟩
    intro index earlier
    simpa using inside index earlier
  rw [answer, planDecode, planBlock, found]
  rfl

theorem Sound.answer_alive (sound : scheme.Sound)
    (offline : scheme.TakesOffline available failed domain)
    (some : aliveMembers domain available failed ≠ []) :
    scheme.answer available [failed] =
      .error (.maintenancePrecondition failed (aliveMembers domain available failed)) := by
  have availableInside := (List.forall_mem_cons.mp offline.inside).2
  rw [answer, sound.planDecode_eq offline.maintains.2 offline.placed offline.member
    availableInside]
  dsimp only
  rw [Error.ensure, if_neg some]
  rfl

theorem Sound.answer_parity (sound : scheme.Sound)
    (offline : scheme.TakesOffline available failed domain)
    (quiet : ∀ block ∈ domain, block ≠ failed → block ∉ available)
    (isParity : scheme.k ≤ failed) :
    scheme.answer available [failed] = .error (.parityMaintenance failed) := by
  have availableInside := (List.forall_mem_cons.mp offline.inside).2
  rw [answer, sound.planDecode_eq offline.maintains.2 offline.placed offline.member
    availableInside, aliveMembers_eq_nil_iff.mpr quiet]
  dsimp only
  rw [Outcome.ensure_of rfl, Outcome.ok_bind, Error.ensure, if_neg (Nat.not_lt.mpr isParity)]
  rfl

theorem Sound.answer_data (sound : scheme.Sound)
    (offline : scheme.TakesOffline available failed domain)
    (quiet : ∀ block ∈ domain, block ≠ failed → block ∉ available)
    (isData : failed < scheme.k) :
    scheme.answer available [failed] =
      .ok (if scheme.losesSibling domain failed then .globalMaintenance
        else .localMaintenance) := by
  obtain ⟨graph, success, _⟩ := sound.exists_planDecode_eq offline.maintains.2 isData
    offline.placed offline.member (List.forall_mem_cons.mp offline.inside).2
    (aliveMembers_eq_nil_iff.mpr quiet)
  rw [answer, success]
  rfl

theorem Sound.answer_of_answers (sound : scheme.Sound) {failed : List Nat}
    {outcome : Except Error Strategy} (answers : scheme.Answers available failed outcome) :
    scheme.answer available failed = outcome := by
  cases answers with
  | nothing => rfl
  | several many =>
      match failed with
      | first :: second :: rest => rfl
  | outside division inside beyond => exact answer_outside division inside beyond
  | repair inside repairs =>
      obtain ⟨graph, _, repaired, _⟩ :=
        sound.exists_singleRepair (inside _ List.mem_cons_self)
      rw [answer, planDecode_of_singleRepair (repairs.elim approach_of_flat id) inside repaired]
      rfl
  | alive offline isAlive some =>
      rw [← aliveMembers_eq_filter] at isAlive
      rw [isAlive] at some ⊢
      exact sound.answer_alive offline some
  | parity offline quiet isParity => exact sound.answer_parity offline quiet isParity
  | sibling offline quiet isData lost =>
      rw [sound.answer_data offline quiet isData, (losesSibling_iff isData).mpr lost]
      rfl
  | alone offline quiet isData kept =>
      rw [sound.answer_data offline quiet isData,
        if_neg fun lost => kept ((losesSibling_iff isData).mp lost)]

theorem Sound.answer_eq_iff (sound : scheme.Sound) {failed : List Nat}
    {outcome : Except Error Strategy} :
    scheme.answer available failed = outcome ↔ scheme.Answers available failed outcome := by
  constructor
  · intro isAnswer
    obtain ⟨found, answers⟩ := sound.exists_answers available failed
    rw [← isAnswer, sound.answer_of_answers answers]
    exact answers
  · exact sound.answer_of_answers

theorem answer_eq_error_iff {failed : List Nat} {cause : Error} :
    scheme.answer available failed = .error cause ↔
      scheme.planDecode available failed = .error cause := by
  rw [answer]
  cases scheme.planDecode available failed <;> simp [Except.map]

theorem exists_answer_eq_ok_iff {failed : List Nat} :
    (∃ strategy, scheme.answer available failed = .ok strategy) ↔
      ∃ plan, scheme.planDecode available failed = .ok plan := by
  rw [answer]
  cases scheme.planDecode available failed <;> simp [Except.map]

theorem Answers.reason {failed : List Nat} {cause : Error}
    (answers : scheme.Answers available failed (.error cause)) :
    cause.reason ∈ [Reason.invalidRequest, .unsupportedMultiFailure,
      .maintenancePrecondition, .unsupportedParityMaintenance] := by
  cases answers <;> simp [Error.reason]

theorem Sound.maintenanceAllowed_iff (sound : scheme.Sound)
    (offline : scheme.TakesOffline available failed domain) :
    scheme.maintenanceAllowed available failed = true ↔
      failed < scheme.k ∧ ∀ block ∈ domain, block ≠ failed → block ∉ available := by
  rw [maintenanceAllowed, sound.find?_domain offline.placed offline.member, Bool.and_eq_true,
    decide_eq_true_eq, List.isEmpty_iff, aliveMembers_eq_nil_iff]

/-- The check of the maintenance constraints and the planner agree. -/
theorem Sound.maintenanceAllowed_iff_exists_plan (sound : scheme.Sound)
    (maintains : scheme.kind ≠ .flat ∧ scheme.approach = .maintenance)
    (inside : ∀ block ∈ available, block < scheme.n) {block : Nat} :
    scheme.maintenanceAllowed available block = true ↔
      ∃ plan, scheme.planDecode available [block] = .ok plan := by
  rw [← exists_answer_eq_ok_iff]
  constructor
  · intro allowed
    have isData : block < scheme.k := by
      rw [maintenanceAllowed, Bool.and_eq_true, decide_eq_true_eq] at allowed
      exact allowed.1
    have blockInside := isData.trans sound.k_lt_n
    obtain ⟨domain, placed, member⟩ := sound.exists_domain blockInside
    have offline : scheme.TakesOffline available block domain :=
      ⟨maintains, List.forall_mem_cons.mpr ⟨blockInside, inside⟩, placed, member⟩
    have quiet := ((sound.maintenanceAllowed_iff offline).mp allowed).2
    exact ⟨_, sound.answer_data offline quiet isData⟩
  · rintro ⟨strategy, answered⟩
    cases sound.answer_eq_iff.mp answered with
    | repair _ repairs =>
        obtain ⟨notFlat, maintenance⟩ := maintains
        rcases repairs with flat | repair
        · exact absurd flat notFlat
        · rw [maintenance] at repair
          cases repair
    | sibling offline quiet isData _ =>
        exact (sound.maintenanceAllowed_iff offline).mpr ⟨isData, quiet⟩
    | alone offline quiet isData _ =>
        exact (sound.maintenanceAllowed_iff offline).mpr ⟨isData, quiet⟩

/-- Every request is answered as the clauses say.  No refusal comes from a recovery
system, a matrix, the field or a graph, and the check of the maintenance constraints
foretells which blocks are planned for. -/
theorem planDecode_answers (constructed : scheme.Constructed) (available : List Nat) :
    (∀ failed outcome,
      (scheme.planDecode available failed).map DecodePlan.strategy = outcome ↔
        scheme.Answers available failed outcome) ∧
    (∀ failed cause, scheme.planDecode available failed = .error cause →
      cause.reason ∉ [Reason.recoverySystemInvariant, .singularMatrix, .divisionByZero,
        .graph]) ∧
    (scheme.kind ≠ .flat → scheme.approach = .maintenance →
      (∀ block ∈ available, block < scheme.n) →
      ∀ block, scheme.maintenanceAllowed available block = true ↔
        ∃ plan, scheme.planDecode available [block] = .ok plan) := by
  have sound := constructed.sound
  refine ⟨fun failed outcome => sound.answer_eq_iff, ?_, ?_⟩
  · intro failed cause refused
    have answers := sound.answer_eq_iff.mp (answer_eq_error_iff.mpr refused)
    have known := answers.reason
    intro excluded
    simp only [List.mem_cons, List.not_mem_nil, or_false] at known excluded
    rcases known with isReason | isReason | isReason | isReason <;>
      simp [isReason] at excluded
  · intro notFlat maintenance inside block
    exact sound.maintenanceAllowed_iff_exists_plan ⟨notFlat, maintenance⟩ inside

/-- A block of a cluster, first while its neighbour is available, then without it. -/
theorem planDecode_answers_cluster :
    ∃ scheme, Scheme.tradeoff 2 1 1 1 .maintenance = .ok scheme ∧
      (scheme.planDecode [0, 3] [1]).map DecodePlan.strategy =
        .error (.maintenancePrecondition 1 [0]) ∧
      (scheme.planDecode [2, 3] [1]).map DecodePlan.strategy = .ok .globalMaintenance ∧
      ∃ plan, scheme.planDecode [2, 3] [1] = .ok plan := by
  obtain ⟨scheme, built, notFlat, maintenance, firstInside, secondInside, placed, isData, lost,
      allowed⟩ : ∃ scheme,
      Scheme.tradeoff 2 1 1 1 .maintenance = .ok scheme ∧ scheme.kind ≠ .flat ∧
        scheme.approach = .maintenance ∧ (∀ block ∈ [1, 0, 3], block < scheme.n) ∧
        (∀ block ∈ [1, 2, 3], block < scheme.n) ∧ [0, 1] ∈ scheme.domains ∧ 1 < scheme.k ∧
        (∃ sibling ∈ [0, 1], sibling ≠ 1 ∧
          scheme.shape.localGroup? sibling = scheme.shape.localGroup? 1) ∧
        scheme.maintenanceAllowed [2, 3] 1 = true :=
    ⟨_, rfl, by decide⟩
  have first := planDecode_answers (.tradeoff built) [0, 3]
  have second := planDecode_answers (.tradeoff built) [2, 3]
  refine ⟨scheme, built, (first.1 _ _).mpr ?_, (second.1 _ _).mpr ?_, ?_⟩
  · exact .alive ⟨⟨notFlat, maintenance⟩, firstInside, placed, by decide⟩ rfl (by decide)
  · exact .sibling ⟨⟨notFlat, maintenance⟩, secondInside, placed, by decide⟩ (by decide)
      isData lost
  · exact (second.2.2 notFlat maintenance
      (List.forall_mem_cons.mp secondInside).2 1).mp allowed

end LocalRepair.Scheme

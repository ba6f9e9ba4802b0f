import Mathlib
import LocalRepair.Proofs.DomainRecovery
import LocalRepair.Proofs.SingleRepair

/-!
# Decoding under maintenance

While a fault domain is offline, each of its data blocks can be decoded from the
blocks outside the domain.  Where the domain takes nothing else out of the local
group, the rest of the group is enough.
-/

namespace LocalRepair.Scheme

variable {scheme : Scheme} {domain : FaultDomain} {failed : Nat}

/-- A block whose domain holds no sibling is recovered within its local group. -/
theorem Sound.recovers_localRepair (sound : scheme.Sound) (isData : failed < scheme.k)
    (alone : scheme.losesSibling domain failed = false) :
    ∃ graph, scheme.localRepair failed = .ok graph ∧
      scheme.Recovers domain [failed] graph := by
  have relates := sound.relates_local isData
  have failedInside : failed < scheme.n := Nat.lt_of_lt_of_le isData scheme.shape.k_le_n
  have survive : ∀ source ∈ (scheme.localEquation [failed] (failed / scheme.shape.b)).sources,
      source < scheme.n ∧ source ∉ domain := by
    intro source read
    refine ⟨(relates.survive source read).1, ?_⟩
    intro offline
    obtain ⟨different, inGroup⟩ := (sound.mem_localSources isData).mp read
    have none := List.any_eq_false.mp alone source offline
    simp [different, inGroup] at none
  rw [localRepair_eq_join]
  exact exists_recovers_join failedInside relates.arity relates.reads
    (fun own => ((sound.mem_localSources isData).mp own).1 rfl) survive
    fun value codeword => sound.weightedSum_local isData codeword

theorem Sound.find?_domain (sound : scheme.Sound) (placed : domain ∈ scheme.domains)
    (member : failed ∈ domain) : scheme.domains.find? (failed ∈ ·) = some domain := by
  cases isFound : scheme.domains.find? (failed ∈ ·) with
  | none =>
      have absent := List.find?_eq_none.mp isFound domain placed
      simp [member] at absent
  | some first =>
      have inFirst : failed ∈ first := by simpa using List.find?_some isFound
      rw [sound.domain_unique (List.mem_of_find?_eq_some isFound) placed inFirst member]

theorem mem_aliveMembers {available : List Nat} {block : Nat} :
    block ∈ aliveMembers domain available failed ↔
      block ∈ domain ∧ block ≠ failed ∧ block ∈ available := by
  simp [aliveMembers]

theorem Sound.planDecode_eq (sound : scheme.Sound)
    (maintenance : scheme.approach = .maintenance) (placed : domain ∈ scheme.domains)
    (member : failed ∈ domain) {available : List Nat}
    (inside : ∀ block ∈ available, block < scheme.n) :
    scheme.planDecode available [failed] = (do
      let alive := aliveMembers domain available failed
      Error.ensure (alive = []) (.maintenancePrecondition failed alive)
      Error.ensure (failed < scheme.k) (.parityMaintenance failed)
      if scheme.losesSibling domain failed then
        pure ⟨.globalMaintenance, ← scheme.recoverTargets domain [failed]⟩
      else
        pure ⟨.localMaintenance, ← scheme.localRepair failed⟩) := by
  have allInside : ∀ block ∈ failed :: available, block < scheme.n :=
    List.forall_mem_cons.mpr ⟨sound.lt_of_mem_domain placed member, inside⟩
  rw [planDecode, planBlock, find?_outside_eq_none allInside, maintenance]
  dsimp only
  rw [planMaintenance, sound.find?_domain placed member]

/-- A data block of an offline domain is decoded by one of the two graphs. -/
theorem Sound.exists_planDecode_eq (sound : scheme.Sound)
    (maintenance : scheme.approach = .maintenance) (isData : failed < scheme.k)
    (placed : domain ∈ scheme.domains) (member : failed ∈ domain) {available : List Nat}
    (inside : ∀ block ∈ available, block < scheme.n)
    (offline : aliveMembers domain available failed = []) :
    ∃ graph, scheme.planDecode available [failed] =
        .ok ⟨if scheme.losesSibling domain failed then .globalMaintenance
          else .localMaintenance, graph⟩ ∧
      (if scheme.losesSibling domain failed then scheme.recoverTargets domain [failed]
        else scheme.localRepair failed) = .ok graph ∧
      scheme.Recovers domain [failed] graph := by
  have planned := sound.planDecode_eq maintenance placed member inside
  rw [offline] at planned
  dsimp only at planned
  rw [Outcome.ensure_of rfl, Outcome.ok_bind, Outcome.ensure_of isData, Outcome.ok_bind]
    at planned
  cases sibling : scheme.losesSibling domain failed with
  | true =>
      have lost : ∀ target ∈ [failed], target ∈ scheme.lostData domain := by
        intro target isTarget
        rw [List.mem_singleton.mp isTarget]
        exact mem_lostData.mpr ⟨isData, member⟩
      obtain ⟨graph, success, recovers⟩ :=
        sound.exists_recovers placed (List.nodup_singleton failed) lost
      refine ⟨graph, ?_, success, recovers⟩
      rw [planned, if_pos sibling, success]
      rfl
  | false =>
      obtain ⟨graph, success, recovers⟩ := sound.recovers_localRepair isData sibling
      refine ⟨graph, ?_, success, recovers⟩
      rw [planned, if_neg (by simp [sibling]), success]
      rfl

theorem Sound.exists_planDecode (sound : scheme.Sound)
    (maintenance : scheme.approach = .maintenance) (isData : failed < scheme.k)
    (placed : domain ∈ scheme.domains) (member : failed ∈ domain) {available : List Nat}
    (inside : ∀ block ∈ available, block < scheme.n)
    (offline : ∀ block ∈ available, block ∈ domain → block = failed) :
    ∃ plan, scheme.planDecode available [failed] = .ok plan ∧
      scheme.Recovers domain [failed] plan.graph := by
  have none : aliveMembers domain available failed = [] := by
    rw [List.eq_nil_iff_forall_not_mem]
    intro block alive
    obtain ⟨inDomain, other, isAvailable⟩ := mem_aliveMembers.mp alive
    exact other (offline block isAvailable inDomain)
  obtain ⟨graph, success, _, recovers⟩ :=
    sound.exists_planDecode_eq maintenance isData placed member inside none
  exact ⟨_, success, recovers⟩

/-- While a fault domain is offline, each of its data blocks can be decoded, from
blocks outside the domain, and comes back as it was encoded. -/
theorem planDecode_restores (constructed : scheme.Constructed)
    (maintenance : scheme.approach = .maintenance) (isData : failed < scheme.k)
    (placed : domain ∈ scheme.domains) (member : failed ∈ domain) {available : List Nat}
    (inside : ∀ block ∈ available, block < scheme.n)
    (offline : ∀ block ∈ available, block ∈ domain → block = failed) :
    ∃ plan, scheme.planDecode available [failed] = .ok plan ∧
      (∀ index ∈ plan.graph.inputs, index < scheme.n ∧ index ∉ domain) ∧
      ∀ stripe : Stripe, stripe.HoldsData scheme.k →
        (scheme.encodeStripe stripe).outcome = .ok () ∧
          (scheme.apply plan.graph
            ((scheme.encodeStripe stripe).stripe.removeAll domain)).Restores
              ((scheme.encodeStripe stripe).stripe.removeAll domain)
              (scheme.encodeStripe stripe).stripe [failed] := by
  have sound := constructed.sound
  obtain ⟨plan, success, recovers⟩ :=
    sound.exists_planDecode maintenance isData placed member inside offline
  exact ⟨plan, success, recovers.survive,
    fun stripe data => sound.restores_encoded recovers data⟩

/-- A block of a cluster is decoded while the parities are at hand. -/
theorem planDecode_restores_cluster :
    ∃ scheme plan stripe, Scheme.tradeoff 2 1 1 1 .maintenance = .ok scheme ∧
      scheme.planDecode [1, 2, 3] [1] = .ok plan ∧ stripe.HoldsData 2 ∧
      (scheme.apply plan.graph
        ((scheme.encodeStripe stripe).stripe.removeAll [0, 1])).Restores
          ((scheme.encodeStripe stripe).stripe.removeAll [0, 1])
          (scheme.encodeStripe stripe).stripe [1] := by
  obtain ⟨scheme, built, maintenance, width, blocks, placed⟩ : ∃ scheme,
      Scheme.tradeoff 2 1 1 1 .maintenance = .ok scheme ∧ scheme.approach = .maintenance ∧
        scheme.k = 2 ∧ scheme.n = 4 ∧ [0, 1] ∈ scheme.domains :=
    ⟨_, rfl, by decide⟩
  obtain ⟨stripe, _, data, _⟩ := Stripe.exists_holdsData (fun _ => [7]) (fun _ => rfl) 2
  have isData : 1 < scheme.k := by
    rw [width]
    decide
  have inside : ∀ block ∈ [1, 2, 3], block < scheme.n := by
    rw [blocks]
    decide
  have offline : ∀ block ∈ [1, 2, 3], block ∈ [0, 1] → block = 1 := by decide
  obtain ⟨plan, success, _, restores⟩ := planDecode_restores (.tradeoff built) maintenance
    isData placed (by decide) inside offline
  exact ⟨scheme, plan, stripe, built, success, data, (restores stripe (width ▸ data)).2⟩

end LocalRepair.Scheme

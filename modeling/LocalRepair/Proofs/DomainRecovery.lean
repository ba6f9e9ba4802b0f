import Mathlib
import LocalRepair.Proofs.Domains
import LocalRepair.Proofs.RecoveryGraph

/-!
# Recovery of domains

A graph for any list of lost blocks restores its targets, if there is one.  For
the domains of a scheme there is one whenever there is data to recover.
-/

namespace LocalRepair.Scheme

variable {scheme : Scheme}

/-- Whatever indices are lost, in whatever order and however often they are named, a
graph that is returned reads survivors only and restores its targets, which are lost
data blocks. -/
theorem restores_of_recoverTargets (constructed : scheme.Constructed)
    {domain targets : List Nat} {graph : Graph}
    (success : scheme.recoverTargets domain targets = .ok graph) :
    (∀ target ∈ targets, target < scheme.k ∧ target ∈ domain) ∧
      (∀ index ∈ graph.inputs, index < scheme.n ∧ index ∉ domain) ∧
      ∀ stripe : Stripe, stripe.HoldsData scheme.k →
        (scheme.encodeStripe stripe).outcome = .ok () ∧
          (scheme.apply graph ((scheme.encodeStripe stripe).stripe.removeAll domain)).Restores
            ((scheme.encodeStripe stripe).stripe.removeAll domain)
            (scheme.encodeStripe stripe).stripe targets := by
  have sound := constructed.sound
  obtain ⟨lost, recovers⟩ := sound.recovers_of_recoverTargets success
  exact ⟨fun target member => mem_lostData.mp (lost target member), recovers.survive,
    fun stripe data => sound.restores_encoded recovers data⟩

/-- Two data blocks of one group, lost together with an index that no stripe has. -/
theorem restores_of_recoverTargets_pair :
    ∃ scheme graph stripe, Scheme.flat 2 1 1 = .ok scheme ∧
      scheme.recoverTargets [1, 9, 0] [0, 1] = .ok graph ∧ stripe.HoldsData 2 ∧
      (scheme.apply graph ((scheme.encodeStripe stripe).stripe.removeAll [1, 9, 0])).Restores
        ((scheme.encodeStripe stripe).stripe.removeAll [1, 9, 0])
        (scheme.encodeStripe stripe).stripe [0, 1] := by
  obtain ⟨scheme, built, solvable⟩ : ∃ scheme, Scheme.flat 2 1 1 = .ok scheme ∧
      scheme.k = 2 ∧ (scheme.recoverTargets [1, 9, 0] [0, 1]).isOk = true :=
    ⟨_, rfl, by decide +kernel⟩
  obtain ⟨graph, success⟩ := Outcome.exists_of_isOk solvable.2
  obtain ⟨stripe, _, data, _⟩ :=
    Stripe.exists_holdsData (fun _ => [7]) (fun _ => rfl) 2
  obtain ⟨_, _, restores⟩ := restores_of_recoverTargets (.flat built) success
  exact ⟨scheme, graph, stripe, built, success, data,
    (restores stripe (solvable.1 ▸ data)).2⟩

theorem Sound.exists_recovers (sound : scheme.Sound) {domain : FaultDomain}
    (member : domain ∈ scheme.domains) {targets : List Nat} (distinct : targets.Nodup)
    (lost : ∀ target ∈ targets, target ∈ scheme.lostData domain) :
    ∃ graph, scheme.recoverTargets domain targets = .ok graph ∧
      scheme.Recovers domain targets graph := by
  obtain ⟨⟨system, systemOk⟩, determined⟩ := sound.determined_domain member
  obtain ⟨graph, success⟩ := sound.recoverTargets_eq_ok systemOk determined distinct lost
  exact ⟨graph, success, (sound.recovers_of_recoverTargets success).2⟩

theorem Sound.exists_recoverDomain (sound : scheme.Sound) {position : Nat}
    {domain : FaultDomain} (found : scheme.domains[position]? = some domain)
    (data : ∃ block ∈ domain, block < scheme.k) :
    ∃ graph, scheme.recoverDomain position = .ok graph ∧
      scheme.Recovers domain (domain.filter (· < scheme.k)) graph := by
  have member := List.mem_of_getElem? found
  have lost : ∀ target ∈ domain.filter (· < scheme.k), target ∈ scheme.lostData domain := by
    intro target isTarget
    obtain ⟨inDomain, isData⟩ := List.mem_filter.mp isTarget
    exact mem_lostData.mpr ⟨of_decide_eq_true isData, inDomain⟩
  have nonempty : domain.filter (· < scheme.k) ≠ [] := by
    obtain ⟨block, inDomain, isData⟩ := data
    exact List.ne_nil_of_mem (List.mem_filter.mpr ⟨inDomain, decide_eq_true isData⟩)
  obtain ⟨graph, success, recovers⟩ :=
    sound.exists_recovers member ((sound.nodup_domain member).filter _) lost
  refine ⟨graph, ?_, recovers⟩
  rw [recoverDomain, found]
  dsimp only
  rw [if_neg nonempty, success]

/-- A position without a domain, or with one that holds no data, is refused as a bad
request.  For every other position the graph restores all data blocks of the domain
and changes nothing else. -/
theorem recoverDomain_restores (constructed : scheme.Constructed) (position : Nat) :
    ((∃ cause, scheme.recoverDomain position = .error (.request cause)) ↔
      scheme.domains.length ≤ position ∨
        ∃ domain, scheme.domains[position]? = some domain ∧
          ∀ block ∈ domain, scheme.k ≤ block) ∧
    ∀ domain, scheme.domains[position]? = some domain →
      (∃ block ∈ domain, block < scheme.k) →
      ∃ graph, scheme.recoverDomain position = .ok graph ∧
        ∀ stripe : Stripe, stripe.HoldsData scheme.k →
          (scheme.encodeStripe stripe).outcome = .ok () ∧
            (scheme.apply graph
              ((scheme.encodeStripe stripe).stripe.removeAll domain)).Restores
                ((scheme.encodeStripe stripe).stripe.removeAll domain)
                (scheme.encodeStripe stripe).stripe (domain.filter (· < scheme.k)) := by
  have sound := constructed.sound
  constructor
  · constructor
    · rintro ⟨cause, refused⟩
      by_cases outside : scheme.domains.length ≤ position
      · exact .inl outside
      · right
        have found := List.getElem?_eq_getElem (Nat.lt_of_not_le outside)
        refine ⟨_, found, ?_⟩
        by_contra some
        push Not at some
        obtain ⟨graph, success, _⟩ := sound.exists_recoverDomain found some
        rw [success] at refused
        cases refused
    · rintro (outside | ⟨domain, found, parities⟩)
      · refine ⟨.domainOutside position scheme.domains.length, ?_⟩
        rw [recoverDomain, List.getElem?_eq_none outside]
      · have none : domain.filter (· < scheme.k) = [] := by
          rw [List.filter_eq_nil_iff]
          intro block member
          simpa using parities block member
        refine ⟨.domainWithoutData position, ?_⟩
        rw [recoverDomain, found]
        dsimp only
        rw [if_pos none]
  · intro domain found data
    obtain ⟨graph, success, recovers⟩ := sound.exists_recoverDomain found data
    exact ⟨graph, success, fun stripe holds => sound.restores_encoded recovers holds⟩

/-- A cluster of two data blocks and the domain of their parity. -/
theorem recoverDomain_restores_cluster :
    ∃ scheme graph stripe, Scheme.tradeoff 2 1 1 1 .maintenance = .ok scheme ∧
      (∃ cause, scheme.recoverDomain 1 = .error (.request cause)) ∧
      scheme.recoverDomain 0 = .ok graph ∧ stripe.HoldsData 2 ∧
      (scheme.apply graph ((scheme.encodeStripe stripe).stripe.removeAll [0, 1])).Restores
        ((scheme.encodeStripe stripe).stripe.removeAll [0, 1])
        (scheme.encodeStripe stripe).stripe [0, 1] := by
  obtain ⟨scheme, built, width, cluster, parity, targets⟩ : ∃ scheme,
      Scheme.tradeoff 2 1 1 1 .maintenance = .ok scheme ∧ scheme.k = 2 ∧
        scheme.domains[0]? = some [0, 1] ∧ scheme.domains[1]? = some [2] ∧
          [0, 1].filter (· < scheme.k) = [0, 1] :=
    ⟨_, rfl, by decide⟩
  obtain ⟨stripe, _, data, _⟩ := Stripe.exists_holdsData (fun _ => [7]) (fun _ => rfl) 2
  have refused := (recoverDomain_restores (.tradeoff built) 1).1.mpr
    (.inr ⟨[2], parity, by rw [width]; decide⟩)
  obtain ⟨graph, success, restores⟩ := (recoverDomain_restores (.tradeoff built) 0).2 [0, 1]
    cluster ⟨0, List.mem_cons_self, by rw [width]; decide⟩
  have restored := (restores stripe (width ▸ data)).2
  rw [targets] at restored
  exact ⟨scheme, graph, stripe, built, refused, success, data, restored⟩

end LocalRepair.Scheme

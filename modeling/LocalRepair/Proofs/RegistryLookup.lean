import Mathlib
import LocalRepair.Policy.Document
import LocalRepair.Proofs.Outcome

/-!
# Registries and what is looked up in them

A list of policies makes a registry exactly if their ids differ and their class names are
known.  Any other list is refused for its first policy that repeats an id or names an
unknown class.  An id that a registry knows belongs to one of its policies only, whose
scheme is then the one that its parameters construct.
-/

namespace LocalRepair

open Outcome

namespace SchemeKind

/-- A kind has a short name besides its class name. -/
def shortName : SchemeKind → String
  | .flat => "flat"
  | .tradeoff => "tradeoff"
  | .optimizedRepair => "opt-repair"
  | .optimizedMaintenance => "opt-maintenance"

/-- A name stands for a kind if it is the class name or the short name, whatever the case of
its letters. -/
def Named (kind : SchemeKind) (name : String) : Prop :=
  name.toLower = kind.className.toLower ∨ name.toLower = kind.shortName

/-- The class name in small letters. -/
def lowerName : SchemeKind → String
  | .flat => "azurelrcflat"
  | .tradeoff => "azurelrctradeoff"
  | .optimizedRepair => "azurelrcoptr1022"
  | .optimizedMaintenance => "azurelrcoptm1022"

theorem toLower_className (kind : SchemeKind) : kind.className.toLower = kind.lowerName := by
  cases kind <;> decide +kernel

theorem ofName?_eq_some_iff {kind : SchemeKind} {name : String} :
    ofName? name = some kind ↔ kind.Named name := by
  rw [Named, toLower_className]
  unfold ofName?
  split <;> cases kind <;> simp_all [lowerName, shortName]

theorem parse_eq_ok_iff {kind : SchemeKind} {name : String} :
    parse name = .ok kind ↔ kind.Named name := by
  rw [← ofName?_eq_some_iff, parse]
  cases ofName? name <;> simp

end SchemeKind

namespace Policy

/-- Policies with ids of their own and known class names. -/
structure Faultless (policies : List Policy) : Prop where
  distinct : (policies.map Policy.id).Nodup
  known : ∀ policy ∈ policies, ∃ kind : SchemeKind, kind.Named policy.className

/-- The fault that keeps policies from making a registry: that of the first policy that has
one, where an id that is taken counts before a class name that is unknown. -/
inductive Fault (policies : List Policy) : ConfigError → Prop where
  | duplicate {before after : List Policy} {policy : Policy}
      (division : policies = before ++ policy :: after) (faultless : Faultless before)
      (taken : ∃ other ∈ before, other.id = policy.id) :
      Fault policies (.duplicatePolicy policy.id)
  | unknown {before after : List Policy} {policy : Policy}
      (division : policies = before ++ policy :: after) (faultless : Faultless before)
      (fresh : ∀ other ∈ before, other.id ≠ policy.id)
      (noKind : ∀ kind : SchemeKind, ¬kind.Named policy.className) :
      Fault policies (.unknownKind policy.className)

theorem kind_eq_ok_iff {policy : Policy} {kind : SchemeKind} :
    policy.kind = .ok kind ↔ kind.Named policy.className :=
  SchemeKind.parse_eq_ok_iff

theorem kind_eq_error_iff {policy : Policy} {cause : Error} :
    policy.kind = .error cause ↔
      (∀ kind : SchemeKind, ¬kind.Named policy.className) ∧
        cause = .config (.unknownKind policy.className) := by
  simp only [← SchemeKind.ofName?_eq_some_iff]
  rw [kind, SchemeKind.parse]
  cases SchemeKind.ofName? policy.className with
  | none => simp [eq_comm]
  | some kind => simp

end Policy

namespace Registry

variable {earlier policies : List Policy} {policy : Policy} {cause : Error}

/-! ## What is accepted -/

theorem scans_checkPolicies : Scans checkPolicies := by
  refine ⟨fun _ => rfl, ?_⟩
  intro earlier policy rest
  simp only [checkPolicies, bind_assoc, ok_bind]

theorem checkPolicies_eq_ok_iff :
    checkPolicies earlier policies = .ok () ↔
      Policy.Faultless policies ∧
        ∀ policy ∈ policies, ∀ other ∈ earlier, other.id ≠ policy.id := by
  induction policies generalizing earlier with
  | nil => exact iff_of_true rfl ⟨⟨List.nodup_nil, by simp⟩, by simp⟩
  | cons head tail ih =>
      rw [checkPolicies, ensure_bind_eq_ok_iff, bind_eq_ok_iff]
      simp only [ih, Policy.kind_eq_ok_iff]
      constructor
      · rintro ⟨fresh, kind, isKind, ⟨distinct, known⟩, others⟩
        have apart : head.id ∉ tail.map Policy.id := by
          intro repeated
          obtain ⟨policy, member, same⟩ := List.mem_map.mp repeated
          exact others policy member head List.mem_cons_self same.symm
        refine ⟨⟨?_, List.forall_mem_cons.mpr ⟨⟨kind, isKind⟩, known⟩⟩, ?_⟩
        · rw [List.map_cons, List.nodup_cons]
          exact ⟨apart, distinct⟩
        · intro policy member other before
          rcases List.mem_cons.mp member with rfl | later
          · exact fresh other before
          · exact others policy later other (List.mem_cons_of_mem head before)
      · rintro ⟨⟨distinct, known⟩, others⟩
        obtain ⟨⟨kind, isKind⟩, tailKnown⟩ := List.forall_mem_cons.mp known
        rw [List.map_cons, List.nodup_cons] at distinct
        refine ⟨others head List.mem_cons_self, kind, isKind, ⟨distinct.2, tailKnown⟩, ?_⟩
        intro policy member other before same
        rcases List.mem_cons.mp before with rfl | earlier
        · exact distinct.1 (same ▸ List.mem_map_of_mem member)
        · exact others policy (List.mem_cons_of_mem head member) other earlier same

theorem checkPolicies_nil_eq_ok_iff :
    checkPolicies [] policies = .ok () ↔ Policy.Faultless policies := by
  rw [checkPolicies_eq_ok_iff]
  simp

theorem checkPolicies_singleton_eq_error_iff :
    checkPolicies earlier [policy] = .error cause ↔
      (∃ other ∈ earlier, other.id = policy.id) ∧
          cause = .config (.duplicatePolicy policy.id) ∨
        (∀ other ∈ earlier, other.id ≠ policy.id) ∧ policy.kind = .error cause := by
  rw [checkPolicies]
  by_cases fresh : ∀ other ∈ earlier, other.id ≠ policy.id
  · have byKind : (policy.kind >>= fun _ => checkPolicies (policy :: earlier) []) =
        .error cause ↔ policy.kind = .error cause := by
      cases policy.kind <;> simp [checkPolicies]
    rw [ensure_of fresh, ok_bind, byKind]
    constructor
    · exact fun refused => .inr ⟨fresh, refused⟩
    · rintro (⟨⟨other, member, same⟩, _⟩ | ⟨_, refused⟩)
      · exact absurd same (fresh other member)
      · exact refused
  · rw [Error.ensure, if_neg fresh, error_bind, Except.error.injEq]
    constructor
    · rintro rfl
      push Not at fresh
      exact .inl ⟨fresh, rfl⟩
    · rintro (⟨_, rfl⟩ | ⟨isFresh, _⟩)
      · rfl
      · exact absurd isFresh fresh

theorem ofPolicies_eq_ok_iff {registry : Registry} :
    ofPolicies policies = .ok registry ↔
      Policy.Faultless policies ∧ registry = ⟨policies⟩ := by
  rw [ofPolicies, bind_eq_ok_iff, ← checkPolicies_nil_eq_ok_iff]
  constructor
  · rintro ⟨_, accepted, same⟩
    cases same
    exact ⟨accepted, rfl⟩
  · rintro ⟨accepted, rfl⟩
    exact ⟨(), accepted, rfl⟩

/-- What is reported for a list of policies is its fault. -/
theorem ofPolicies_eq_error_iff :
    ofPolicies policies = .error cause ↔
      ∃ detail, cause = .config detail ∧ Policy.Fault policies detail := by
  have refusal : ofPolicies policies = .error cause ↔
      checkPolicies [] policies = .error cause := by
    rw [ofPolicies]
    cases checkPolicies [] policies <;> simp
  rw [refusal, scans_checkPolicies.eq_error_iff]
  simp only [checkPolicies_nil_eq_ok_iff, checkPolicies_singleton_eq_error_iff,
    List.append_nil, List.mem_reverse, Policy.kind_eq_error_iff]
  constructor
  · rintro ⟨before, policy, after, division, faultless, ⟨taken, rfl⟩ | ⟨fresh, noKind, rfl⟩⟩
    · exact ⟨_, rfl, .duplicate division faultless taken⟩
    · exact ⟨_, rfl, .unknown division faultless fresh noKind⟩
  · rintro ⟨detail, rfl, fault⟩
    cases fault with
    | duplicate division faultless taken =>
        exact ⟨_, _, _, division, faultless, .inl ⟨taken, rfl⟩⟩
    | unknown division faultless fresh noKind =>
        exact ⟨_, _, _, division, faultless, .inr ⟨fresh, noKind, rfl⟩⟩

/-! ## What is found -/

section

variable {registry : Registry} {id : String}

theorem exists_get_iff :
    (∃ policy, registry.get id = .ok policy) ↔ ∃ policy ∈ registry.policies, policy.id = id := by
  rw [get]
  cases found : registry.policies.find? (·.id = id) with
  | none =>
      have absent := List.find?_eq_none.mp found
      simpa using absent
  | some policy =>
      have isId : policy.id = id := by simpa using List.find?_some found
      exact iff_of_true ⟨policy, rfl⟩ ⟨policy, List.mem_of_find?_eq_some found, isId⟩

theorem mem_of_get (found : registry.get id = .ok policy) :
    policy ∈ registry.policies ∧ policy.id = id := by
  rw [get] at found
  cases search : registry.policies.find? (·.id = id) with
  | none =>
      rw [search] at found
      cases found
  | some other =>
      rw [search] at found
      cases found
      exact ⟨List.mem_of_find?_eq_some search, by simpa using List.find?_some search⟩

theorem existsUnique_position_of_id (distinct : (policies.map Policy.id).Nodup)
    (member : policy ∈ policies) :
    ∃! position : Nat, ∃ other, policies[position]? = some other ∧ other.id = policy.id := by
  obtain ⟨position, isPolicy⟩ := List.mem_iff_getElem?.mp member
  refine ⟨position, ⟨policy, isPolicy, rfl⟩, ?_⟩
  rintro other ⟨found, isFound, same⟩
  have inside : other < (policies.map Policy.id).length := by
    rw [List.length_map]
    exact (List.getElem?_eq_some_iff.mp isFound).1
  apply (List.getElem?_inj inside distinct).mp
  rw [List.getElem?_map, List.getElem?_map, isFound, isPolicy, Option.map_some,
    Option.map_some, same]

theorem createScheme_of_get (faultless : Policy.Faultless registry.policies)
    (found : registry.get id = .ok policy) :
    ∃ kind, policy.kind = .ok kind ∧
      registry.createScheme id = Scheme.construct kind policy.n policy.k policy.subpackets
        policy.optimization policy.parameters := by
  obtain ⟨kind, named⟩ := faultless.known policy (mem_of_get found).1
  have isKind := Policy.kind_eq_ok_iff.mpr named
  refine ⟨kind, isKind, ?_⟩
  rw [createScheme, found, ok_bind, Policy.createScheme, isKind, ok_bind]

end

theorem parseWith_of_reads {read : String → Option (List Policy)} {text : String}
    (reads : read text = some policies) : parseWith read text = ofPolicies policies := by
  rw [parseWith, reads]

/-- Whatever reads a file, the policies that it yields make a registry exactly if they have no
fault, and are refused for the first fault that they have.  In a registry, an id is known exactly
if some policy has it; no other policy has it then, and its scheme is constructed from the
policy. -/
theorem registry_lookup (read : String → Option (List Policy)) (text : String)
    (policies : List Policy) (reads : read text = some policies) :
    ((∃ registry, parseWith read text = .ok registry) ↔ Policy.Faultless policies) ∧
    (∀ cause, parseWith read text = .error cause ↔
      ∃ detail, cause = .config detail ∧ Policy.Fault policies detail) ∧
    ∀ registry, parseWith read text = .ok registry → ∀ id,
      ((∃ policy, registry.get id = .ok policy) ↔ ∃ policy ∈ policies, policy.id = id) ∧
      ∀ policy, registry.get id = .ok policy →
        policy.id = id ∧ policy ∈ policies ∧
        (∃! position : Nat, ∃ other, policies[position]? = some other ∧ other.id = id) ∧
        ∃ kind, policy.kind = .ok kind ∧
          registry.createScheme id = Scheme.construct kind policy.n policy.k policy.subpackets
            policy.optimization policy.parameters := by
  rw [parseWith_of_reads reads]
  refine ⟨?_, fun _ => ofPolicies_eq_error_iff, ?_⟩
  · simp only [ofPolicies_eq_ok_iff, exists_and_left, exists_eq, and_true]
  · intro registry accepted id
    obtain ⟨faultless, rfl⟩ := ofPolicies_eq_ok_iff.mp accepted
    refine ⟨exists_get_iff, fun policy found => ?_⟩
    obtain ⟨member, rfl⟩ := mem_of_get found
    exact ⟨rfl, member, existsUnique_position_of_id faultless.distinct member,
      createScheme_of_get faultless found⟩

/-- A file with two policies, of which the second is looked up; a policy that repeats an id
and has an unknown class besides. -/
theorem registry_lookup_second :
    (∃ registry,
      parse ("policies:\n" ++
        "- id: a\n  classname: flat\n  n: 8\n  k: 4\n  param: [2, 2]\n" ++
        "- id: b\n  classname: OPT-repair\n  n: 14\n  k: 10\n  param: [2, 2, 0]\n") =
          .ok registry ∧
      registry.get "b" = .ok ⟨"b", "OPT-repair", 14, 10, 1, -1, ["2", "2", "0"]⟩ ∧
      ∃ kind, registry.createScheme "b" =
        Scheme.construct kind 14 10 1 (-1) ["2", "2", "0"]) ∧
    ofPolicies [⟨"a", "flat", 8, 4, 1, -1, []⟩, ⟨"a", "round", 8, 4, 1, -1, []⟩] =
      .error (.config (.duplicatePolicy "a")) := by
  constructor
  · have reads : Policy.listOfText? ("policies:\n" ++
        "- id: a\n  classname: flat\n  n: 8\n  k: 4\n  param: [2, 2]\n" ++
        "- id: b\n  classname: OPT-repair\n  n: 14\n  k: 10\n  param: [2, 2, 0]\n") =
        some [⟨"a", "flat", 8, 4, 1, -1, ["2", "2"]⟩,
          ⟨"b", "OPT-repair", 14, 10, 1, -1, ["2", "2", "0"]⟩] := by
      decide +kernel
    obtain ⟨accepts, _, looked⟩ := registry_lookup _ _ _ reads
    obtain ⟨registry, accepted⟩ :=
      accepts.mpr (checkPolicies_nil_eq_ok_iff.mp (by decide +kernel))
    have same : registry = ⟨_⟩ :=
      (ofPolicies_eq_ok_iff.mp ((parseWith_of_reads reads).symm.trans accepted)).2
    subst same
    obtain ⟨_, only⟩ := looked _ accepted "b"
    obtain ⟨_, _, _, kind, _, scheme⟩ :=
      only ⟨"b", "OPT-repair", 14, 10, 1, -1, ["2", "2", "0"]⟩ (by decide)
    exact ⟨_, accepted, by decide, kind, scheme⟩
  · obtain ⟨_, refused, _⟩ := registry_lookup
      (fun _ => some [⟨"a", "flat", 8, 4, 1, -1, []⟩, ⟨"a", "round", 8, 4, 1, -1, []⟩]) "" _ rfl
    have division : [⟨"a", "flat", 8, 4, 1, -1, []⟩, ⟨"a", "round", 8, 4, 1, -1, []⟩] =
      [⟨"a", "flat", 8, 4, 1, -1, []⟩] ++ (⟨"a", "round", 8, 4, 1, -1, []⟩ : Policy) :: [] := rfl
    have faultless : Policy.Faultless [⟨"a", "flat", 8, 4, 1, -1, []⟩] :=
      checkPolicies_nil_eq_ok_iff.mp (by decide +kernel)
    have taken : ∃ other ∈ [(⟨"a", "flat", 8, 4, 1, -1, []⟩ : Policy)], other.id = "a" :=
      ⟨_, List.mem_cons_self, rfl⟩
    exact (refused _).mpr ⟨_, rfl, .duplicate division faultless taken⟩

end Registry

end LocalRepair

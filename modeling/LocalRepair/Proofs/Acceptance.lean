import Mathlib
import LocalRepair.Proofs.Numerals
import LocalRepair.Proofs.TunablePlacement

/-!
# Parameters that are accepted

The texts of parameters are read by the names of the parameters.  A scheme is built from
them exactly if the values satisfy a list of conditions on the code and on its placement;
whatever satisfies them is placed block by block and has a generator, so nothing is refused
after the conditions have been checked.  A refusal names an approach code that stands for
none, or else it is a refusal of the configuration.
-/

namespace LocalRepair

/-- A refusal of parameters. -/
def Error.IsConfig (cause : Error) : Prop :=
  ∃ detail, cause = .config detail

open Outcome

/-! ## Codes and placements -/

theorem Shape.refuses_check (shape : Shape) : Refuses Error.IsConfig shape.check := by
  unfold Shape.check
  refine (refuses_ensure _ ⟨_, rfl⟩).bind fun _ _ => ?_
  refine (refuses_ensure _ ⟨_, rfl⟩).bind fun _ _ => ?_
  exact (refuses_ensure _ ⟨_, rfl⟩).bind fun _ _ => refuses_ensure _ ⟨_, rfl⟩

theorem Layout.refuses_check (layout : Layout) (shape : Shape) :
    Refuses Error.IsConfig (layout.check shape) := by
  cases layout with
  | flat => exact refuses_ok ()
  | tradeoff eta approach =>
      exact (refuses_ensure _ ⟨_, rfl⟩).bind fun _ _ => refuses_ensure _ ⟨_, rfl⟩
  | optimizedRepair approach => exact refuses_ensure _ ⟨_, rfl⟩
  | optimizedMaintenance approach => exact refuses_ensure _ ⟨_, rfl⟩

/-- The layout of a kind, with a granularity and an approach as far as the kind leaves them
open. -/
def SchemeKind.layout (kind : SchemeKind) (eta : Nat) (approach : Approach) : Layout :=
  match kind with
  | .flat => .flat
  | .tradeoff => .tradeoff eta approach
  | .optimizedRepair => .optimizedRepair approach
  | .optimizedMaintenance => .optimizedMaintenance approach

theorem SchemeKind.kind_layout (kind : SchemeKind) (eta : Nat) (approach : Approach) :
    (kind.layout eta approach).kind = kind := by
  cases kind <;> rfl

theorem SchemeKind.check_layout_eq_ok_iff {kind : SchemeKind} {eta : Nat}
    {approach : Approach} {shape : Shape} :
    (kind.layout eta approach).check shape = .ok () ↔
      (kind = .tradeoff → shape.g ≠ 0 ∧ eta ≤ maxEta shape.b shape.g) ∧
        (kind = .optimizedRepair ∨ kind = .optimizedMaintenance → shape = ⟨10, 2, 2⟩) := by
  cases kind with
  | flat => simp [layout, Layout.check]
  | tradeoff => simp [layout, Layout.check, ensure_bind_eq_ok_iff, ensure_eq_ok_iff]
  | optimizedRepair => simp [layout, Layout.check, ensure_eq_ok_iff]
  | optimizedMaintenance => simp [layout, Layout.check, ensure_eq_ok_iff]

theorem Layout.flatten_domains_perm {layout : Layout} {shape : Shape} (sound : shape.Sound)
    (fits : layout.check shape = .ok ()) :
    (layout.placement shape).domains.flatten.Perm (List.range shape.n) := by
  cases layout with
  | flat =>
      apply List.Perm.of_eq
      rw [placement, Placement.domains, ← List.flatMap_def, List.flatMap_singleton']
  | tradeoff eta approach => exact Placement.flatten_tunable_perm sound.dvd eta
  | optimizedRepair approach =>
      obtain rfl : shape = ⟨10, 2, 2⟩ := ensure_eq_ok_iff.mp fits
      exact (by decide : Placement.repairOptimized.domains.flatten.Perm (List.range 14))
  | optimizedMaintenance approach =>
      obtain rfl : shape = ⟨10, 2, 2⟩ := ensure_eq_ok_iff.mp fits
      exact (by decide : Placement.maintenanceOptimized.domains.flatten.Perm (List.range 14))

namespace Scheme

section

variable {layout : Layout} {shape : Shape} {n subpackets : Nat} {optimization : Int}

theorem build_eq_ok_iff {scheme : Scheme} :
    build layout shape n subpackets optimization = .ok scheme ↔
      shape.Sound ∧ n = shape.n ∧ subpackets ≠ 0 ∧ layout.check shape = .ok () ∧
        ∃ generator, shape.generator = .ok generator ∧
          scheme = ⟨shape, subpackets, optimization, layout, generator⟩ := by
  constructor
  · intro success
    simp only [build, bind_eq_ok_iff] at success
    obtain ⟨_, shapeOk, _, widthOk, _, subpacketsOk, _, layoutOk, _, _, generator, generated,
      same⟩ := success
    cases same
    exact ⟨Shape.check_eq_ok_iff.mp shapeOk, ensure_eq_ok_iff.mp widthOk,
      ensure_eq_ok_iff.mp subpacketsOk, layoutOk, generator, generated, rfl⟩
  · rintro ⟨sound, width, someSubpackets, layoutOk, generator, generated, rfl⟩
    have partition := checkPartition_eq_ok_iff_perm.mpr
      (Layout.flatten_domains_perm sound layoutOk)
    rw [build, Shape.check_eq_ok_iff.mpr sound, ok_bind, ensure_of width, ok_bind,
      ensure_of someSubpackets, ok_bind, layoutOk, ok_bind, partition, ok_bind, generated,
      ok_bind, pure_eq_ok]

theorem exists_build_iff :
    (∃ scheme, build layout shape n subpackets optimization = .ok scheme) ↔
      shape.Sound ∧ n = shape.n ∧ subpackets ≠ 0 ∧ layout.check shape = .ok () := by
  simp only [build_eq_ok_iff]
  constructor
  · rintro ⟨_, sound, width, someSubpackets, layoutOk, _⟩
    exact ⟨sound, width, someSubpackets, layoutOk⟩
  · rintro ⟨sound, width, someSubpackets, layoutOk⟩
    obtain ⟨generator, generated, _⟩ := sound.generator
    exact ⟨_, sound, width, someSubpackets, layoutOk, generator, generated, rfl⟩

theorem refuses_build (layout : Layout) (shape : Shape) (n subpackets : Nat)
    (optimization : Int) :
    Refuses Error.IsConfig (build layout shape n subpackets optimization) := by
  unfold build
  refine shape.refuses_check.bind fun _ shapeOk => ?_
  refine (refuses_ensure _ ⟨_, rfl⟩).bind fun _ _ => ?_
  refine (refuses_ensure _ ⟨_, rfl⟩).bind fun _ _ => ?_
  refine (layout.refuses_check shape).bind fun _ layoutOk => ?_
  have sound := Shape.check_eq_ok_iff.mp shapeOk
  obtain ⟨generator, generated, _⟩ := sound.generator
  rw [checkPartition_eq_ok_iff_perm.mpr (Layout.flatten_domains_perm sound layoutOk),
    generated]
  exact refuses_ok _

/-- A scheme that is built places every block once and has the generator of its code. -/
theorem described_of_build {scheme : Scheme}
    (built : build layout shape n subpackets optimization = .ok scheme) :
    scheme.shape = shape ∧ scheme.layout = layout ∧
      scheme.domains.flatten.Perm (List.range n) ∧
      scheme.shape.generator = .ok scheme.generator ∧
      scheme.generator.WellFormed ∧ scheme.generator.rows = n ∧
      scheme.generator.cols = shape.k := by
  obtain ⟨sound, rfl, _, layoutOk, generator, generated, rfl⟩ := build_eq_ok_iff.mp built
  obtain ⟨_, generates⟩ := Shape.generates_of_generator generated
  exact ⟨rfl, rfl, Layout.flatten_domains_perm sound layoutOk, generated,
    generates.wellFormed, generates.rows_eq, generates.cols_eq⟩

end

/-! ## Reading parameters -/

section

variable {kind : SchemeKind} {parameters : List String} {value : String → Int}

/-- The texts denote the values of the parameters of a kind, one for each, and no number is
negative, an approach code aside. -/
structure Readable (kind : SchemeKind) (parameters : List String) (value : String → Int) :
    Prop where
  denotes : List.Forall₂ Text.Denotes parameters (kind.parameterNames.map value)
  signs : ∀ name ∈ kind.parameterNames, name ≠ "approach" → 0 ≤ value name

/-- The approach that a kind takes, by its code if there is a parameter for it. -/
def readApproach (kind : SchemeKind) (value : String → Int) : Except Error Approach :=
  if "approach" ∈ kind.parameterNames then Approach.ofCode (value "approach")
  else .ok default

theorem nonNegative_eq_ok {name : String} {number : Int} (sign : 0 ≤ number) :
    nonNegative name number = .ok number.toNat := by
  rw [nonNegative, if_pos sign]

theorem signs_iff : (∀ name ∈ kind.parameterNames, name ≠ "approach" → 0 ≤ value name) ↔
    0 ≤ value "l" ∧ 0 ≤ value "g" ∧ (kind = .tradeoff → 0 ≤ value "eta") := by
  cases kind <;> simp [SchemeKind.parameterNames]

theorem readLayout_eq
    (signs : ∀ name ∈ kind.parameterNames, name ≠ "approach" → 0 ≤ value name) :
    readLayout kind (kind.parameterNames.map value) =
      readApproach kind value >>= fun approach =>
        .ok ((value "l").toNat, (value "g").toNat, kind.layout (value "eta").toNat approach) := by
  obtain ⟨l, g, eta⟩ := signs_iff.mp signs
  cases kind with
  | tradeoff =>
      simp [SchemeKind.parameterNames, readLayout, readApproach, SchemeKind.layout,
        nonNegative_eq_ok, l, g, eta rfl]
  | _ =>
      simp [SchemeKind.parameterNames, readLayout, readApproach, SchemeKind.layout,
        nonNegative_eq_ok, l, g]

theorem readLayout_of_negative
    (negative : ¬∀ name ∈ kind.parameterNames, name ≠ "approach" → 0 ≤ value name) :
    ∃ detail, readLayout kind (kind.parameterNames.map value) = .error (.config detail) := by
  have refused : ∀ name, ¬0 ≤ value name →
      nonNegative name (value name) = .error (.config (.parameterSign name (value name))) :=
    fun name sign => if_neg sign
  rw [signs_iff] at negative
  by_cases l : 0 ≤ value "l"
  · by_cases g : 0 ≤ value "g"
    · obtain ⟨rfl, eta⟩ : kind = .tradeoff ∧ ¬0 ≤ value "eta" := by
        simpa [l, g] using negative
      refine ⟨.parameterSign "eta" (value "eta"), ?_⟩
      simp [SchemeKind.parameterNames, readLayout, nonNegative_eq_ok l, nonNegative_eq_ok g,
        refused "eta" eta]
    · refine ⟨.parameterSign "g" (value "g"), ?_⟩
      cases kind <;>
        simp [SchemeKind.parameterNames, readLayout, nonNegative_eq_ok l, refused "g" g]
  · refine ⟨.parameterSign "l" (value "l"), ?_⟩
    cases kind <;> simp [SchemeKind.parameterNames, readLayout, refused "l" l]

theorem readParameters_eq_ok_iff {names : List String} {values : List Int}
    (count : parameters.length = names.length) :
    ((names.zip parameters).mapM fun (name, text) => readParameter name text) = .ok values ↔
      List.Forall₂ Text.Denotes parameters values := by
  induction names generalizing parameters values with
  | nil =>
      rw [List.length_nil, List.length_eq_zero_iff] at count
      simp [count, eq_comm]
  | cons name names ih =>
      cases parameters with
      | nil => cases count
      | cons text parameters =>
          simp only [List.zip_cons_cons, List.mapM_cons, bind_eq_ok_iff, pure_eq_ok,
            readParameter_eq_ok_iff, ih (Nat.succ.inj count), Except.ok.injEq]
          rw [List.forall₂_cons_left_iff]
          constructor
          · rintro ⟨value, denotes, others, rest, rfl⟩
            exact ⟨value, others, denotes, rest, rfl⟩
          · rintro ⟨value, others, denotes, rest, rfl⟩
            exact ⟨value, denotes, others, rest, rfl⟩

theorem refuses_readParameter (name text : String) :
    Refuses Error.IsConfig (readParameter name text) := by
  unfold readParameter
  split
  · exact refuses_ok _
  · exact refuses_error ⟨_, rfl⟩

theorem readApproach_of_known
    (known : "approach" ∈ kind.parameterNames →
      value "approach" = 0 ∨ value "approach" = 1) :
    ∃ approach, readApproach kind value = .ok approach := by
  unfold readApproach
  split_ifs with hasCode
  · rcases known hasCode with zero | one
    · exact ⟨.repair, by simp [zero, Approach.ofCode, Approach.ofCode?]⟩
    · exact ⟨.maintenance, by simp [one, Approach.ofCode, Approach.ofCode?]⟩
  · exact ⟨default, rfl⟩

theorem readApproach_of_unknown (hasCode : "approach" ∈ kind.parameterNames)
    (unknown : value "approach" ≠ 0 ∧ value "approach" ≠ 1) :
    readApproach kind value = .error (.unknownApproachCode (value "approach")) := by
  rw [readApproach, if_pos hasCode]
  simp [Approach.ofCode, Approach.ofCode?, unknown]

section

variable {n k subpackets : Nat} {optimization : Int}

/-- Parameters that can be read leave the approach code and the checks of a scheme. -/
theorem construct_of_readable (readable : Readable kind parameters value) :
    construct kind n k subpackets optimization parameters =
      readApproach kind value >>= fun approach =>
        build (kind.layout (value "eta").toNat approach)
          ⟨k, (value "l").toNat, (value "g").toNat⟩ n subpackets optimization := by
  have count : parameters.length = kind.parameterNames.length := by
    rw [readable.denotes.length_eq, List.length_map]
  rw [construct, ensure_of count, ok_bind,
    (readParameters_eq_ok_iff count).mpr readable.denotes, ok_bind,
    readLayout_eq readable.signs]
  cases readApproach kind value <;> rfl

theorem construct_of_unreadable (n k subpackets : Nat) (optimization : Int)
    (unreadable : ¬∃ value, Readable kind parameters value) :
    ∃ detail, construct kind n k subpackets optimization parameters =
      .error (.config detail) := by
  by_cases count : parameters.length = kind.parameterNames.length
  · rw [construct, ensure_of count, ok_bind]
    cases read : (kind.parameterNames.zip parameters).mapM fun (name, text) =>
        readParameter name text with
    | error cause =>
        obtain ⟨detail, rfl⟩ : cause.IsConfig := by
          apply Refuses.mapM (fun parameter _ => refuses_readParameter parameter.1 parameter.2)
            cause read
        exact ⟨detail, rfl⟩
    | ok values =>
        have denotes := (readParameters_eq_ok_iff count).mp read
        have distinct : kind.parameterNames.Nodup := by cases kind <;> decide
        obtain ⟨value, rfl⟩ := exists_map_eq distinct (denotes.length_eq.symm.trans count)
        obtain ⟨detail, refused⟩ : ∃ detail,
            readLayout kind (kind.parameterNames.map value) = .error (.config detail) :=
          readLayout_of_negative fun signs => unreadable ⟨value, denotes, signs⟩
        exact ⟨detail, by rw [ok_bind, refused, error_bind]⟩
  · refine ⟨.parameterCount kind parameters.length, ?_⟩
    rw [construct, Error.ensure, if_neg count, error_bind]

/-! ## Conditions on the values -/

/-- The conditions on a code and its placement, in terms of the values of the parameters. -/
structure Acceptable (kind : SchemeKind) (n k subpackets : Nat) (value : String → Int) :
    Prop where
  code : "approach" ∈ kind.parameterNames → value "approach" = 0 ∨ value "approach" = 1
  data : 1 ≤ k
  groups : 1 ≤ value "l"
  divides : value "l" ∣ k
  width : k + value "l" + value "g" ≤ 256
  blocks : n = k + value "l" + value "g"
  subpackets : 1 ≤ subpackets
  granularity : kind = .tradeoff →
    1 ≤ value "g" ∧ value "eta" ≤ ⌈(k : ℚ) / value "l" / (value "g" + 1)⌉
  fixed : kind = .optimizedRepair ∨ kind = .optimizedMaintenance →
    k = 10 ∧ value "l" = 2 ∧ value "g" = 2

theorem maxEta_eq_ceil (b g : Nat) : (maxEta b g : Int) = ⌈(b : ℚ) / (g + 1)⌉ := by
  have positive : (0 : ℚ) < g + 1 := by positivity
  apply le_antisymm
  · obtain ⟨count, isCount⟩ := Int.eq_ofNat_of_zero_le (Int.ceil_nonneg
      (div_nonneg (Nat.cast_nonneg b) positive.le) : 0 ≤ ⌈(b : ℚ) / (g + 1)⌉)
    rw [isCount, Int.ofNat_le, maxEta_le_iff]
    have covers := Int.le_ceil ((b : ℚ) / (g + 1))
    rw [isCount, div_le_iff₀ positive] at covers
    exact_mod_cast covers
  · rw [Int.ceil_le, div_le_iff₀ positive]
    exact_mod_cast le_maxEta_mul b g

theorem le_ceil_iff {k l g : Nat} (divides : l ∣ k) {eta : Int} (sign : 0 ≤ eta) :
    eta ≤ ⌈(k : ℚ) / (l : Int) / ((g : Int) + 1)⌉ ↔ eta.toNat ≤ maxEta (k / l) g := by
  have quotient : (k : ℚ) / (l : Int) = (k / l : Nat) := by
    rw [Int.cast_natCast, Nat.cast_div_charZero divides]
  rw [quotient, Int.cast_natCast, ← maxEta_eq_ceil]
  omega

theorem Acceptable.exists_build (acceptable : Acceptable kind n k subpackets value)
    (readable : Readable kind parameters value) (approach : Approach) :
    ∃ scheme, build (kind.layout (value "eta").toNat approach)
      ⟨k, (value "l").toNat, (value "g").toNat⟩ n subpackets optimization = .ok scheme := by
  obtain ⟨lSign, gSign, etaSign⟩ := signs_iff.mp readable.signs
  obtain ⟨l, isL⟩ := Int.eq_ofNat_of_zero_le lSign
  obtain ⟨g, isG⟩ := Int.eq_ofNat_of_zero_le gSign
  have divides : l ∣ k := Int.natCast_dvd_natCast.mp (isL ▸ acceptable.divides)
  have groups := acceptable.groups
  have width := acceptable.width
  have blocks := acceptable.blocks
  rw [isL] at groups
  rw [isL, isG] at width blocks
  have someGroup : l ≠ 0 := by omega
  rw [exists_build_iff, SchemeKind.check_layout_eq_ok_iff, isL, isG, Int.toNat_natCast,
    Int.toNat_natCast]
  refine ⟨⟨Nat.ne_of_gt acceptable.data, someGroup, Nat.mod_eq_zero_of_dvd divides, ?_⟩, ?_,
    Nat.ne_of_gt acceptable.subpackets, ?_, ?_⟩
  · exact_mod_cast width
  · exact_mod_cast blocks
  · intro tunable
    obtain ⟨someGlobal, limit⟩ := acceptable.granularity tunable
    rw [isL, isG, le_ceil_iff divides (etaSign tunable)] at limit
    rw [isG] at someGlobal
    have isSome : g ≠ 0 := by omega
    exact ⟨isSome, limit⟩
  · intro fixed
    obtain ⟨isTen, isTwo, isAlsoTwo⟩ := acceptable.fixed fixed
    rw [Shape.mk.injEq]
    omega

theorem acceptable_of_build (readable : Readable kind parameters value) {approach : Approach}
    (isApproach : readApproach kind value = .ok approach) {scheme : Scheme}
    (built : build (kind.layout (value "eta").toNat approach)
      ⟨k, (value "l").toNat, (value "g").toNat⟩ n subpackets optimization = .ok scheme) :
    Acceptable kind n k subpackets value := by
  obtain ⟨lSign, gSign, etaSign⟩ := signs_iff.mp readable.signs
  obtain ⟨l, isL⟩ := Int.eq_ofNat_of_zero_le lSign
  obtain ⟨g, isG⟩ := Int.eq_ofNat_of_zero_le gSign
  have checked := exists_build_iff.mp ⟨scheme, built⟩
  rw [SchemeKind.check_layout_eq_ok_iff, isL, isG, Int.toNat_natCast, Int.toNat_natCast]
    at checked
  obtain ⟨sound, blocks, some, granularity, fixed⟩ := checked
  have divides : l ∣ k := sound.dvd
  have data := sound.data
  have groups := sound.groups
  have width := sound.width
  rw [Shape.n] at width blocks
  dsimp only at data groups width blocks
  constructor
  case code =>
    intro hasCode
    by_contra unknown
    rw [readApproach_of_unknown hasCode (not_or.mp unknown)] at isApproach
    cases isApproach
  case data => exact Nat.pos_of_ne_zero data
  case groups => omega
  case divides =>
    rw [isL]
    exact Int.natCast_dvd_natCast.mpr divides
  case width => omega
  case blocks => omega
  case subpackets => exact Nat.pos_of_ne_zero some
  case granularity =>
    intro tunable
    obtain ⟨someGlobal, limit⟩ := granularity tunable
    rw [isL, isG, le_ceil_iff divides (etaSign tunable)]
    dsimp only at someGlobal
    exact ⟨by omega, limit⟩
  case fixed =>
    intro isFixed
    obtain ⟨isTen, isTwo, isAlsoTwo⟩ := Shape.mk.inj (fixed isFixed)
    omega

theorem construct_eq_ok_iff {scheme : Scheme} :
    construct kind n k subpackets optimization parameters = .ok scheme ↔
      ∃ value approach, Readable kind parameters value ∧ readApproach kind value = .ok approach ∧
        build (kind.layout (value "eta").toNat approach)
          ⟨k, (value "l").toNat, (value "g").toNat⟩ n subpackets optimization = .ok scheme := by
  constructor
  · intro success
    by_cases isReadable : ∃ value, Readable kind parameters value
    · obtain ⟨value, readable⟩ := isReadable
      rw [construct_of_readable readable, bind_eq_ok_iff] at success
      obtain ⟨approach, isApproach, built⟩ := success
      exact ⟨value, approach, readable, isApproach, built⟩
    · obtain ⟨detail, refused⟩ :=
        construct_of_unreadable n k subpackets optimization isReadable
      rw [success] at refused
      cases refused
  · rintro ⟨value, approach, readable, isApproach, built⟩
    rw [construct_of_readable readable, isApproach, ok_bind, built]

theorem construct_refused {cause : Error}
    (refused : construct kind n k subpackets optimization parameters = .error cause) :
    cause.IsConfig ∨ ∃ value, Readable kind parameters value ∧
      "approach" ∈ kind.parameterNames ∧ (value "approach" ≠ 0 ∧ value "approach" ≠ 1) ∧
        cause = .unknownApproachCode (value "approach") := by
  by_cases isReadable : ∃ value, Readable kind parameters value
  · obtain ⟨value, readable⟩ := isReadable
    rw [construct_of_readable readable] at refused
    by_cases known : "approach" ∈ kind.parameterNames →
        value "approach" = 0 ∨ value "approach" = 1
    · obtain ⟨approach, isApproach⟩ := readApproach_of_known known
      rw [isApproach, ok_bind] at refused
      exact .inl (refuses_build _ _ _ _ _ cause refused)
    · push Not at known
      obtain ⟨hasCode, unknown⟩ := known
      rw [readApproach_of_unknown hasCode unknown, error_bind] at refused
      cases refused
      exact .inr ⟨value, readable, hasCode, unknown, rfl⟩
  · obtain ⟨detail, isConfig⟩ :=
      construct_of_unreadable n k subpackets optimization isReadable
    rw [refused] at isConfig
    cases isConfig
    exact .inl ⟨detail, rfl⟩

end

end

/-- Schemes are constructed from the parameters that can be read and satisfy the
conditions, and from no others. -/
theorem construct_acceptance (kind : SchemeKind) (n k subpackets : Nat) (optimization : Int)
    (parameters : List String) :
    ((∃ scheme, construct kind n k subpackets optimization parameters = .ok scheme) ↔
      ∃ value, Readable kind parameters value ∧ Acceptable kind n k subpackets value) ∧
    (∀ scheme, construct kind n k subpackets optimization parameters = .ok scheme →
      scheme.kind = kind ∧
      (∀ value, Readable kind parameters value →
        scheme.shape = ⟨k, (value "l").toNat, (value "g").toNat⟩) ∧
      scheme.domains.flatten.Perm (List.range n) ∧
      scheme.shape.generator = .ok scheme.generator ∧
      scheme.generator.WellFormed ∧ scheme.generator.rows = n ∧ scheme.generator.cols = k) ∧
    (∀ (layout : Layout) (shape : Shape), shape.check = .ok () → layout.check shape = .ok () →
      checkPartition (layout.placement shape).domains shape.n = .ok () ∧
        ∃ generator, shape.generator = .ok generator) ∧
    (∀ code, construct kind n k subpackets optimization parameters =
        .error (.unknownApproachCode code) ↔
      ∃ value, Readable kind parameters value ∧ "approach" ∈ kind.parameterNames ∧
        value "approach" = code ∧ code ≠ 0 ∧ code ≠ 1) ∧
    ∀ cause, construct kind n k subpackets optimization parameters = .error cause →
      cause.IsConfig ∨ ∃ code, cause = .unknownApproachCode code := by
  refine ⟨⟨?_, ?_⟩, ?_, ?_, ?_, ?_⟩
  · rintro ⟨scheme, success⟩
    obtain ⟨value, approach, readable, isApproach, built⟩ := construct_eq_ok_iff.mp success
    exact ⟨value, readable, acceptable_of_build readable isApproach built⟩
  · rintro ⟨value, readable, acceptable⟩
    obtain ⟨approach, isApproach⟩ := readApproach_of_known acceptable.code
    obtain ⟨scheme, built⟩ := acceptable.exists_build readable approach
    exact ⟨scheme, construct_eq_ok_iff.mpr ⟨value, approach, readable, isApproach, built⟩⟩
  · intro scheme success
    obtain ⟨value, approach, readable, isApproach, built⟩ := construct_eq_ok_iff.mp success
    obtain ⟨_, isLayout, placed, generated, wellFormed, rows, cols⟩ := described_of_build built
    refine ⟨?_, ?_, placed, generated, wellFormed, rows, cols⟩
    · rw [Scheme.kind, isLayout, SchemeKind.kind_layout]
    · intro other alsoReadable
      rw [construct_of_readable alsoReadable, bind_eq_ok_iff] at success
      obtain ⟨_, _, alsoBuilt⟩ := success
      exact (described_of_build alsoBuilt).1
  · intro layout shape shapeOk layoutOk
    have sound := Shape.check_eq_ok_iff.mp shapeOk
    obtain ⟨generator, generated, _⟩ := sound.generator
    exact ⟨checkPartition_eq_ok_iff_perm.mpr (Layout.flatten_domains_perm sound layoutOk),
      generator, generated⟩
  · intro code
    constructor
    · intro refused
      rcases construct_refused refused with ⟨_, impossible⟩ |
        ⟨value, readable, hasCode, unknown, same⟩
      · cases impossible
      · cases same
        exact ⟨value, readable, hasCode, rfl, unknown⟩
    · rintro ⟨value, readable, hasCode, rfl, unknown⟩
      rw [construct_of_readable readable, readApproach_of_unknown hasCode unknown, error_bind]
  · intro cause refused
    rcases construct_refused refused with isConfig | ⟨value, _, _, _, isCode⟩
    · exact .inl isConfig
    · exact .inr ⟨_, isCode⟩

/-- Signs, leading zeros and blanks around a number are read; the approach code seven is
not known. -/
theorem construct_acceptance_signed :
    (∃ scheme, construct .tradeoff 15 9 4 (-1) ["+3", " 03", "1\n", "-0"] = .ok scheme ∧
      scheme.shape = ⟨9, 3, 3⟩ ∧ scheme.domains.flatten.Perm (List.range 15)) ∧
    construct .tradeoff 15 9 4 (-1) ["3", "3", "1", "7"] =
      .error (.unknownApproachCode 7) := by
  let value : Int → String → Int := fun code name =>
    if name = "approach" then code else if name = "eta" then 1 else 3
  have reads : ∀ code parameters,
      List.Forall₂ (fun text number => readParameter "" text = .ok number) parameters
        [3, 3, 1, code] →
      Readable .tradeoff parameters (value code) := by
    intro code parameters read
    exact ⟨read.imp fun _ _ success => readParameter_eq_ok_iff.mp success,
      signs_iff.mpr ⟨by simp [value], by simp [value], by simp [value]⟩⟩
  have known : Readable .tradeoff ["+3", " 03", "1\n", "-0"] (value 0) :=
    reads 0 _ (by decide)
  have unknown : Readable .tradeoff ["3", "3", "1", "7"] (value 7) :=
    reads 7 _ (by decide)
  have limit : (1 : Int) ≤ ⌈((9 : Nat) : ℚ) / (3 : Int) / ((3 : Int) + 1)⌉ := by norm_num
  have acceptable : Acceptable .tradeoff 15 9 4 (value 0) :=
    ⟨by simp [value], by decide, by simp [value], by simp [value], by simp [value],
      by simp [value], by decide, fun _ => ⟨by simp [value], limit⟩, by simp⟩
  obtain ⟨accepted, described, _⟩ :=
    construct_acceptance .tradeoff 15 9 4 (-1) ["+3", " 03", "1\n", "-0"]
  obtain ⟨_, _, _, refused, _⟩ :=
    construct_acceptance .tradeoff 15 9 4 (-1) ["3", "3", "1", "7"]
  obtain ⟨scheme, success⟩ := accepted.mpr ⟨_, known, acceptable⟩
  obtain ⟨_, shape, placed, _⟩ := described scheme success
  exact ⟨⟨scheme, success, shape _ known, placed⟩,
    (refused 7).mpr ⟨_, unknown, by decide, rfl, by decide, by decide⟩⟩

end Scheme

end LocalRepair

import Mathlib
import LocalRepair.Graph.Execution
import LocalRepair.Proofs.Combination
import LocalRepair.Proofs.NodeValue
import LocalRepair.Proofs.Outcome

/-!
# Execution of batches

Blocks of the right length can be written to different indices, and nothing else
changes.  So the batch of a unit whose sources are all present leaves at its targets
the sums that its nodes stand for; any other batch ends the run with the name of a
missing block.
-/

namespace LocalRepair

namespace Stripe

theorem blockSize_of_insert {stripe inserted : Stripe} {index : Nat} {block : Block}
    (success : stripe.insert index block = .ok inserted) :
    inserted.blockSize = stripe.blockSize := by
  unfold insert at success
  split at success
  · cases success
    rfl
  · cases success

theorem insert_eq_ok {stripe : Stripe} {block : Block}
    (fits : block.length = stripe.blockSize) (index : Nat) :
    ∃ inserted, stripe.insert index block = .ok inserted := by
  unfold insert
  rw [dif_pos fits]
  exact ⟨_, rfl⟩

theorem contains_iff {stripe : Stripe} {index : Nat} :
    stripe.contains index = true ↔ ∃ block, stripe.get? index = some block := by
  rw [contains, get?, Std.TreeMap.contains_eq_isSome_getElem?, Option.isSome_iff_exists]

end Stripe

namespace Workspace

/-- The block at an index, empty if there is none. -/
def blockAt (workspace : Workspace) (n index : Nat) : Block :=
  (workspace.get? n index).getD []

theorem blockAt_of_get? {workspace : Workspace} {n index : Nat} {block : Block}
    (present : workspace.get? n index = some block) : workspace.blockAt n index = block := by
  rw [blockAt, present, Option.getD_some]

/-- Virtual blocks have the block size of the stripe, too. -/
def Sized (workspace : Workspace) : Prop :=
  ∀ (index : Nat) (block : Block), workspace.scratch[index]? = some block →
    block.length = workspace.stripe.blockSize

theorem Sized.length_of_get? {workspace : Workspace} (sized : workspace.Sized)
    {n index : Nat} {block : Block} (present : workspace.get? n index = some block) :
    block.length = workspace.stripe.blockSize := by
  unfold get? at present
  split at present
  · exact Stripe.length_of_get? present
  · exact sized index block present

/-- What writing blocks at the `targets` does not change. -/
structure Frame (n : Nat) (targets : List Nat) (before after : Workspace) : Prop where
  blockSize : after.stripe.blockSize = before.stripe.blockSize
  sized : before.Sized → after.Sized
  kept : ∀ index, index ∉ targets → after.get? n index = before.get? n index
  beyond : ∀ index, n ≤ index → after.stripe.get? index = before.stripe.get? index
  virtual : (∀ index ∈ targets, n ≤ index) → after.stripe = before.stripe

theorem Frame.refl (n : Nat) (workspace : Workspace) : Frame n [] workspace workspace where
  blockSize := rfl
  sized := id
  kept _ _ := rfl
  beyond _ _ := rfl
  virtual _ := rfl

theorem Frame.trans {n : Nat} {first second : List Nat} {before middle after : Workspace}
    (left : Frame n first before middle) (right : Frame n second middle after) :
    Frame n (first ++ second) before after where
  blockSize := right.blockSize.trans left.blockSize
  sized := right.sized ∘ left.sized
  kept index outside := by
    rw [List.mem_append, not_or] at outside
    rw [right.kept index outside.2, left.kept index outside.1]
  beyond index outside := (right.beyond index outside).trans (left.beyond index outside)
  virtual outside := by
    rw [List.forall_mem_append] at outside
    rw [right.virtual outside.2, left.virtual outside.1]

theorem put_eq_ok {workspace : Workspace} {block : Block}
    (fits : block.length = workspace.stripe.blockSize) (n index : Nat) :
    ∃ written, workspace.put n index block = .ok written ∧
      Frame n [index] workspace written ∧ written.get? n index = some block := by
  by_cases inside : index < n
  · obtain ⟨inserted, success⟩ := Stripe.insert_eq_ok fits index
    have found := Stripe.get?_of_insert success
    have blockSize := Stripe.blockSize_of_insert success
    refine ⟨{ workspace with stripe := inserted }, ?_, ⟨blockSize, ?_, ?_, ?_, ?_⟩, ?_⟩
    · rw [put, if_pos inside, success]
      rfl
    · intro sized other virtual present
      rw [blockSize]
      exact sized other virtual present
    · intro other outside
      rw [List.mem_singleton] at outside
      simp only [get?, found other, if_neg (Ne.symm outside)]
    · intro other beyond
      have different : index ≠ other := by omega
      rw [found other, if_neg different]
    · intro outside
      exact absurd inside (Nat.not_lt.mpr (outside index List.mem_cons_self))
    · rw [get?, if_pos inside, found index, if_pos rfl]
  · refine ⟨{ workspace with scratch := workspace.scratch.insert index block }, ?_,
      ⟨rfl, ?_, ?_, fun _ _ => rfl, fun _ => rfl⟩, ?_⟩
    · rw [put, if_neg inside]
    · intro sized other virtual present
      rw [Std.TreeMap.getElem?_insert] at present
      split at present
      · cases present
        exact fits
      · exact sized other virtual present
    · intro other outside
      rw [List.mem_singleton] at outside
      have different : index ≠ other := Ne.symm outside
      simp [get?, Std.TreeMap.getElem?_insert, different]
    · simp [get?, inside]

end Workspace

namespace Batch

theorem writeAll_eq_ok {n : Nat} (results : List (Nat × Block)) (workspace : Workspace)
    (distinct : (results.map Prod.fst).Nodup)
    (fit : ∀ result ∈ results, result.2.length = workspace.stripe.blockSize) :
    ∃ written, writeAll n results workspace = (.ok (), written) ∧
      Workspace.Frame n (results.map Prod.fst) workspace written ∧
      ∀ result ∈ results, written.get? n result.1 = some result.2 := by
  induction results generalizing workspace with
  | nil =>
      exact ⟨workspace, rfl, Workspace.Frame.refl n workspace, by simp⟩
  | cons head tail ih =>
      rw [List.map_cons, List.nodup_cons] at distinct
      obtain ⟨middle, putHead, headFrame, headFound⟩ :=
        Workspace.put_eq_ok (fit head List.mem_cons_self) n head.1
      have tailFit : ∀ result ∈ tail, result.2.length = middle.stripe.blockSize := by
        intro result member
        rw [headFrame.blockSize]
        exact fit result (List.mem_cons_of_mem head member)
      obtain ⟨written, writeTail, tailFrame, tailFound⟩ := ih middle distinct.2 tailFit
      refine ⟨written, ?_, headFrame.trans tailFrame, ?_⟩
      · rw [writeAll, putHead]
        exact writeTail
      · intro result member
        rcases List.mem_cons.mp member with rfl | later
        · rw [tailFrame.kept _ distinct.1, headFound]
        · exact tailFound result later

section

variable {n : Nat} {workspace : Workspace} {unit : List Node}

/-- The block that a unit computes for a node. -/
def computed (workspace : Workspace) (n : Nat) (unit : List Node) (node : Node) : Block :=
  Block.combine workspace.stripe.blockSize
    ((ofUnit unit).children.map (workspace.blockAt n))
    ((ofUnit unit).children.map node.coefficientOf)

/-- The indices that a unit reads hold blocks. -/
def Supplied (workspace : Workspace) (n : Nat) (unit : List Node) : Prop :=
  ∀ node ∈ unit, ∀ source ∈ node.sources, ∃ block, workspace.get? n source = some block

theorem inputs_eq (batch : Batch) (n : Nat) (workspace : Workspace) :
    batch.inputs n workspace = batch.children.mapM fun child =>
      (workspace.get? n child).elim (.error (.missingBlock child)) Except.ok := by
  rw [inputs]
  congr 1
  funext child
  cases workspace.get? n child <;> rfl

theorem inputs_cases (batch : Batch) (n : Nat) (workspace : Workspace) :
    (∀ child ∈ batch.children, ∃ block, workspace.get? n child = some block) ∨
      ∃ before child after, batch.children = before ++ child :: after ∧
        (∀ earlier ∈ before, ∃ block, workspace.get? n earlier = some block) ∧
        workspace.get? n child = none ∧
        batch.inputs n workspace = .error (.missingBlock child) := by
  let read (child : Nat) : Except Error Block :=
    (workspace.get? n child).elim (.error (.missingBlock child)) Except.ok
  have present : ∀ child, (∃ value, read child = .ok value) →
      ∃ block, workspace.get? n child = some block := by
    rintro child ⟨value, success⟩
    cases found : workspace.get? n child with
    | some block => exact ⟨block, rfl⟩
    | none => simp [read, found] at success
  rcases Outcome.mapM_cases read batch.children with
    all | ⟨before, child, after, cause, division, earlier, refused, stops⟩
  · exact .inl fun child member => present child (all child member)
  · right
    cases missing : workspace.get? n child with
    | some block => simp [read, missing] at refused
    | none =>
        simp only [read, missing, Option.elim_none, Except.error.injEq] at refused
        exact ⟨before, child, after, division,
          fun other member => present other (earlier other member), missing,
          by rw [inputs_eq, refused, stops]⟩

private theorem inputs_ofUnit (supplied : Supplied workspace n unit) :
    (ofUnit unit).inputs n workspace =
      .ok ((ofUnit unit).children.map (workspace.blockAt n)) := by
  apply Outcome.mapM_eq_ok
  intro child member
  obtain ⟨node, nodeMember, read⟩ := mem_children.mp member
  obtain ⟨block, present⟩ := supplied node nodeMember child read
  rw [present, Workspace.blockAt_of_get? present]

private theorem length_inputs (sized : workspace.Sized) (supplied : Supplied workspace n unit) :
    ∀ block ∈ (ofUnit unit).children.map (workspace.blockAt n),
      block.length = workspace.stripe.blockSize := by
  intro block member
  obtain ⟨child, childMember, rfl⟩ := List.mem_map.mp member
  obtain ⟨node, nodeMember, read⟩ := mem_children.mp childMember
  obtain ⟨block, present⟩ := supplied node nodeMember child read
  rw [Workspace.blockAt_of_get? present]
  exact sized.length_of_get? present

theorem results_ofUnit (sized : workspace.Sized) (supplied : Supplied workspace n unit)
    (reads : ∃ node ∈ unit, node.sources ≠ []) :
    (ofUnit unit).results n workspace =
      .ok (unit.map fun node => (node.target, computed workspace n unit node)) := by
  have nonempty : (ofUnit unit).children.map (workspace.blockAt n) ≠ [] := by
    obtain ⟨node, nodeMember, some⟩ := reads
    obtain ⟨source, read⟩ := List.exists_mem_of_ne_nil _ some
    intro none
    rw [List.map_eq_nil_iff] at none
    have member := mem_children.mpr ⟨node, nodeMember, read⟩
    rw [none] at member
    cases member
  have rows : ((ofUnit unit).targets.map fun _ => ([] : Block)).length =
      (ofUnit unit).coefficients.rows := by
    simp [ofUnit]
  have cols : ((ofUnit unit).children.map (workspace.blockAt n)).length =
      (ofUnit unit).coefficients.cols := by
    simp [ofUnit]
  have combined := multiplyAccumulate_eq wellFormed_ofUnit rows cols nonempty
    (length_inputs sized supplied)
  rw [results, inputs_ofUnit supplied, Outcome.ok_bind]
  simp only [combined, Outcome.ok_bind, Outcome.pure_eq_ok]
  congr 1
  apply List.ext_getElem
  · simp [ofUnit]
  · intro row leftInside rightInside
    have inside : row < unit.length := by simpa using rightInside
    rw [List.getElem_zip, List.getElem_map, List.getElem_map, List.getElem_range,
      row_ofUnit inside]
    simp [ofUnit, computed]

theorem length_computed (sized : workspace.Sized) (supplied : Supplied workspace n unit)
    (node : Node) : (computed workspace n unit node).length = workspace.stripe.blockSize :=
  Block.length_combine (length_inputs sized supplied) _

theorem byte_computed (sized : workspace.Sized) (supplied : Supplied workspace n unit)
    {node : Node} (member : node ∈ unit) (position : Nat) :
    Block.byte (computed workspace n unit node) position =
      node.value fun source => Block.byte (workspace.blockAt n source) position := by
  rw [computed, Block.byte_combine (length_inputs sized supplied), List.zip_map',
    List.map_map]
  exact Node.sum_coefficientOf nodup_children
    (fun source read => mem_children.mpr ⟨node, member, read⟩) _

/-- A unit whose sources are all present leaves its blocks at its targets, whatever is
run after it. -/
theorem runAll_ofUnit (sized : workspace.Sized) (supplied : Supplied workspace n unit)
    (reads : ∃ node ∈ unit, node.sources ≠ []) (distinct : (unit.map Node.target).Nodup) :
    ∃ after, Workspace.Frame n (unit.map Node.target) workspace after ∧
      (∀ node ∈ unit, after.get? n node.target = some (computed workspace n unit node)) ∧
      ∀ rest, runAll n (ofUnit unit :: rest) workspace = runAll n rest after := by
  let results := unit.map fun node => (node.target, computed workspace n unit node)
  have indices : results.map Prod.fst = unit.map Node.target := by
    rw [List.map_map]
    rfl
  have fit : ∀ result ∈ results, result.2.length = workspace.stripe.blockSize := by
    intro result member
    obtain ⟨node, _, rfl⟩ := List.mem_map.mp member
    exact length_computed sized supplied node
  obtain ⟨after, write, frame, found⟩ :=
    writeAll_eq_ok results workspace (indices ▸ distinct) fit
  refine ⟨after, indices ▸ frame, ?_, ?_⟩
  · intro node member
    exact found _ (List.mem_map_of_mem member)
  · intro rest
    rw [runAll, results_ofUnit sized supplied reads]
    simp only [results] at write
    simp only [write]

end

end Batch

end LocalRepair

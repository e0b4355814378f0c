import Mathlib.Order.Nat
import TypedMessages.Proofs.Extension.Distance
import TypedMessages.Proofs.Extension.Queue

/-!
# Distances as shortest ways

There is a distance from one name to another exactly if some way leads up from the one to the other, and it is the length of a shortest such way, around circles and past names that nothing declares. Whatever a walk comes to lies on a way up, so it has a distance; and two ways, one after the other, are a way, so going past a name in between is never shorter.
-/

namespace TypedMessages

section Ways

variable {interfaces : List InterfaceDeclaration} {source middle target : String} {near far : Nat}

theorem ClimbsIn.trans (hnear : ClimbsIn interfaces near source middle) (hfar : ClimbsIn interfaces far middle target) :
    ClimbsIn interfaces (near + far) source target := by
  induction hnear with
  | stay name =>
    rw [Nat.zero_add]
    exact hfar
  | step hparent _ ih =>
    rw [Nat.add_right_comm]
    exact .step hparent (ih hfar)

theorem climbsIn_succ_iff {steps : Nat} :
    ClimbsIn interfaces (steps + 1) source target ↔
      ∃ parent, IsParent interfaces parent source ∧ ClimbsIn interfaces steps parent target := by
  constructor
  · intro hclimbs
    cases hclimbs with
    | step hparent hrest => exact ⟨_, hparent, hrest⟩
  · intro hclimbs
    obtain ⟨parent, hparent, hrest⟩ := hclimbs
    exact .step hparent hrest

theorem exists_isDistance_iff :
    (∃ distance, IsDistance interfaces source target distance) ↔ ∃ steps, ClimbsIn interfaces steps source target := by
  constructor
  · intro hdistance
    obtain ⟨distance, hclimbs, _⟩ := hdistance
    exact ⟨distance, hclimbs⟩
  · intro hways
    classical
    exact ⟨Nat.find hways, Nat.isLeast_find hways⟩

theorem Batch.exists_climbsIn_of_stepsUp {batch : Batch} {name other : String}
    (hreaches : Relation.ReflTransGen batch.StepsUp name other) : ∃ steps, ClimbsIn batch.interfaces steps name other := by
  induction hreaches with
  | refl => exact ⟨0, .stay name⟩
  | tail _ hstep ih =>
    obtain ⟨steps, hclimbs⟩ := ih
    have hlast := ClimbsIn.step hstep.2 (.stay _)
    exact ⟨steps + 1, hclimbs.trans hlast⟩

end Ways

namespace Hierarchy

variable {batch : Batch} {source target : String}

theorem distance?_ofBatch_eq_some_iff (hdistinct : batch.interfaceNames.Nodup)
    (hsource : (ofBatch batch).contains source = true) {distance : Nat} :
    (ofBatch batch).distance? source target = some distance ↔ IsDistance batch.interfaces source target distance :=
  distance?_eq_some_iff (h := ofBatch batch) hdistinct hsource

theorem distance?_isSome_iff (hdistinct : batch.interfaceNames.Nodup) (hsource : (ofBatch batch).contains source = true) :
    ((ofBatch batch).distance? source target).isSome = true ↔ ∃ steps, ClimbsIn batch.interfaces steps source target := by
  rw [Option.isSome_iff_exists, ← exists_isDistance_iff]
  exact exists_congr fun _ => distance?_ofBatch_eq_some_iff hdistinct hsource

end Hierarchy

open Hierarchy in
/-- **A distance is the length of a shortest way up.** In a batch that declares no interface twice, cyclic or not, two names have a distance exactly if some way leads up from the first to the second, and it is then the least number of steps on such a way. All members of a closure and all its logger bases have one, and the distances of two stretches together are no less than that of the whole. One search with a queue from the first name finds all its distances. -/
theorem distance_shortest (batch : Batch) (hdistinct : batch.interfaceNames.Nodup) {source target : String}
    (hsource : (ofBatch batch).contains source = true) :
    (∀ distance, (ofBatch batch).distance? source target = some distance ↔
        IsDistance batch.interfaces source target distance) ∧
      ((ofBatch batch).distance? source target = none ↔ ∀ steps, ¬ ClimbsIn batch.interfaces steps source target) ∧
      (∀ other ∈ (ofBatch batch).closure source ++ (ofBatch batch).basesOf source,
        ((ofBatch batch).distance? source other).isSome = true) ∧
      (∀ top near far, (ofBatch batch).distance? source target = some near →
        (ofBatch batch).distance? target top = some far →
          ∃ whole, (ofBatch batch).distance? source top = some whole ∧ whole ≤ near + far) ∧
      ∀ other, (ofBatch batch).distance? source other = ((ofBatch batch).distancesFrom source).lookup other := by
  refine ⟨fun distance => distance?_ofBatch_eq_some_iff hdistinct hsource, ?_, ?_, ?_,
    fun other => distance?_eq_lookup hsource⟩
  · rw [← Option.not_isSome_iff_eq_none, distance?_isSome_iff hdistinct hsource, not_exists]
  · intro other hother
    rw [List.mem_append, mem_closure_iff, mem_basesOf_iff, ← or_and_right, leadsOn_ofBatch hdistinct] at hother
    have hways := Batch.exists_climbsIn_of_stepsUp hother.2
    exact (distance?_isSome_iff hdistinct hsource).2 hways
  · intro top near far hnear hfar
    obtain ⟨hfirst, _⟩ := (distance?_ofBatch_eq_some_iff hdistinct hsource).1 hnear
    have htarget : (ofBatch batch).contains target = true := contains_of_climbsIn hfirst hsource
    obtain ⟨hsecond, _⟩ := (distance?_ofBatch_eq_some_iff hdistinct htarget).1 hfar
    have hways := hfirst.trans hsecond
    have hsome := (distance?_isSome_iff hdistinct hsource).2 ⟨_, hways⟩
    obtain ⟨whole, hwhole⟩ := Option.isSome_iff_exists.1 hsome
    obtain ⟨_, hshortest⟩ := (distance?_ofBatch_eq_some_iff hdistinct hsource).1 hwhole
    exact ⟨whole, hwhole, hshortest hways⟩

/-- Around the circle from the upper interface down to one of those that extend it. -/
theorem distance_shortest_tangledBatch :
    tangledBatch.interfaceNames.Nodup ∧ (Hierarchy.ofBatch tangledBatch).contains "a.Base" = true ∧
      (Hierarchy.ofBatch tangledBatch).distance? "a.Base" "a.Right" = some 2 := by
  have hdistinct : tangledBatch.interfaceNames.Nodup := by decide
  have hsource : (Hierarchy.ofBatch tangledBatch).contains "a.Base" = true := by decide
  have hparents (child parent : String) :
      IsParent tangledBatch.interfaces parent child ↔ parent ∈ (Hierarchy.ofBatch tangledBatch).parents child :=
    (Hierarchy.mem_parents_iff (h := Hierarchy.ofBatch tangledBatch) hdistinct).symm
  have hbase : (Hierarchy.ofBatch tangledBatch).parents "a.Base" = ["org.jboss.logging.BasicLogger", "a.Bottom"] := by
    rfl
  obtain ⟨hiff, _⟩ := distance_shortest tangledBatch hdistinct hsource
  refine ⟨hdistinct, hsource, (hiff 2).2 ⟨?_, ?_⟩⟩
  · have hbottom : IsParent tangledBatch.interfaces "a.Bottom" "a.Base" := (hparents ..).2 (by rw [hbase]; decide)
    have hright : IsParent tangledBatch.interfaces "a.Right" "a.Bottom" := (hparents ..).2 (by decide)
    exact ClimbsIn.step hbottom (.step hright (.stay _))
  · intro steps hsteps
    match steps, hsteps with
    | 0, hsteps => exact absurd (climbsIn_zero_iff.1 hsteps) (by decide)
    | 1, hsteps =>
      obtain ⟨parent, hparent, hrest⟩ := climbsIn_succ_iff.1 hsteps
      rw [climbsIn_zero_iff.1 hrest, hparents, hbase] at hparent
      exact absurd hparent (by decide)
    | _ + 2, _ => exact Nat.le_add_left ..

end TypedMessages

import TypedMessages.Proofs.Extension.Preorder

/-!
# What a closure reaches

The closure of an interface holds what can be reached from it without passing a logger base. So the closure of a member lies within the closure, and where logger bases extend nothing, whatever an interface has a distance to is a member or a logger base.
-/

namespace TypedMessages.Hierarchy

variable {h : Hierarchy} {name member : String}

/-! ### Closures -/

theorem not_base_of_mem_closure (hmember : member ∈ h.closure name) : h.loggerBases.contains member = false :=
  (mem_closure_iff.1 hmember).1

theorem self_mem_closure (hbase : h.loggerBases.contains name = false) : name ∈ h.closure name :=
  mem_closure_iff.2 ⟨hbase, .refl⟩

theorem mem_closure_of_mem_parents {parent : String} (hmember : member ∈ h.closure name)
    (hparent : parent ∈ h.parents member) (hbase : h.loggerBases.contains parent = false) : parent ∈ h.closure name := by
  obtain ⟨hmemberBase, hreaches⟩ := mem_closure_iff.1 hmember
  have hstep : h.LeadsOn member parent := leadsOn_iff.2 ⟨hmemberBase, hparent⟩
  exact mem_closure_iff.2 ⟨hbase, hreaches.tail hstep⟩

theorem closure_subset (hmember : member ∈ h.closure name) : h.closure member ⊆ h.closure name := by
  intro other hother
  obtain ⟨_, hmember⟩ := mem_closure_iff.1 hmember
  obtain ⟨hbase, hother⟩ := mem_closure_iff.1 hother
  exact mem_closure_iff.2 ⟨hbase, hmember.trans hother⟩

/-! ### Distances -/

theorem exists_child_of_mem_nextLevel {met level : List String} (hname : name ∈ h.nextLevel met level) :
    ∃ child ∈ level, name ∈ h.parents child := by
  obtain ⟨hflat, _⟩ := List.mem_filter.1 (List.mem_eraseDups.1 hname)
  exact List.mem_flatMap.1 hflat

/-- Going up level by level stays in every set that holds the parents of its names. -/
theorem mem_of_distanceFrom {set : String → Prop} {target : String} {met level : List String} {distance : Nat}
    (hset : ∀ name, set name → ∀ parent ∈ h.parents name, set parent) (hlevel : ∀ name ∈ level, set name)
    (hdistance : h.distanceFrom target met level = some distance) : set target := by
  fun_induction distanceFrom h target met level generalizing distance with
  | case1 met level htarget => exact hlevel target htarget
  | case2 met level _ _ => cases hdistance
  | case3 met level _ name rest hnext ih =>
    obtain ⟨before, hbefore, _⟩ := Option.map_eq_some_iff.1 hdistance
    refine ih (fun other hother => ?_) hbefore
    rw [← hnext] at hother
    obtain ⟨child, hchild, hparent⟩ := exists_child_of_mem_nextLevel hother
    exact hset child (hlevel child hchild) other hparent

theorem mem_closure_of_distance? {target : String} (hbases : ∀ base ∈ h.loggerBases, h.parents base = [])
    (hname : h.loggerBases.contains name = false) (htarget : h.loggerBases.contains target = false)
    (hdistance : (h.distance? name target).isSome = true) : target ∈ h.closure name := by
  obtain ⟨distance, hdistance⟩ := Option.isSome_iff_exists.1 hdistance
  unfold distance? at hdistance
  split at hdistance
  · have hset : ∀ child, (h.loggerBases.contains child = true ∨ child ∈ h.closure name) →
        ∀ parent ∈ h.parents child, h.loggerBases.contains parent = true ∨ parent ∈ h.closure name := by
      rintro child (hbase | hchild) parent hparent
      · rw [hbases child (List.contains_iff_mem.1 hbase)] at hparent
        cases hparent
      · cases hbase : h.loggerBases.contains parent with
        | true => exact Or.inl rfl
        | false => exact Or.inr (mem_closure_of_mem_parents hchild hparent hbase)
    have hlevel : ∀ start ∈ [name], h.loggerBases.contains start = true ∨ start ∈ h.closure name := by
      intro start hstart
      rw [List.mem_singleton.1 hstart]
      exact Or.inr (self_mem_closure hname)
    refine (mem_of_distanceFrom hset hlevel hdistance).resolve_left ?_
    rw [htarget]
    exact Bool.false_ne_true
  · cases hdistance

end TypedMessages.Hierarchy

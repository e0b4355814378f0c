import Mathlib.Order.Bounds.Basic
import TypedMessages.Proofs.Extension.Agreement

/-!
# Shortest ways up

A distance is searched level by level, and a name belongs to the first level that reaches it. So the number of the level is the length of a shortest way up: some way is as long as that, because every name of a level has a child in the level before, and no way is shorter, because the parents of all names left behind have been met. Cycles do not matter, and neither do parents that nothing declares.
-/

namespace TypedMessages

/-- A way up of so many steps, each from an interface to one that it extends. -/
inductive ClimbsIn (interfaces : List InterfaceDeclaration) : Nat → String → String → Prop
  | stay (name : String) : ClimbsIn interfaces 0 name name
  | step {steps : Nat} {child parent top : String} (hparent : IsParent interfaces parent child)
      (hrest : ClimbsIn interfaces steps parent top) : ClimbsIn interfaces (steps + 1) child top

theorem climbsIn_zero_iff {interfaces : List InterfaceDeclaration} {source target : String} :
    ClimbsIn interfaces 0 source target ↔ source = target := by
  constructor
  · intro hclimbs
    cases hclimbs
    rfl
  · intro heq
    exact heq ▸ .stay source

/-- The number of steps is that of a shortest way up. -/
def IsDistance (interfaces : List InterfaceDeclaration) (source target : String) (distance : Nat) : Prop :=
  IsLeast {steps | ClimbsIn interfaces steps source target} distance

namespace Hierarchy

variable {h : Hierarchy} {source target : String} {met level : List String} {distance steps : Nat}

theorem exists_climbsIn_of_distanceFrom (hdistinct : h.declaredNames.Nodup)
    (hdistance : h.distanceFrom target met level = some distance) :
    ∃ start ∈ level, ClimbsIn h.declarations distance start target := by
  fun_induction distanceFrom h target met level generalizing distance with
  | case1 met level htarget =>
    cases hdistance
    exact ⟨target, htarget, .stay target⟩
  | case2 met level _ _ => cases hdistance
  | case3 met level _ name rest hnext ih =>
    obtain ⟨before, hbefore, rfl⟩ := Option.map_eq_some_iff.1 hdistance
    obtain ⟨parent, hparent, hclimbs⟩ := ih hbefore
    rw [← hnext] at hparent
    obtain ⟨child, hchild, hstep⟩ := exists_child_of_mem_nextLevel hparent
    have hextends := (mem_parents_iff hdistinct).1 hstep
    exact ⟨child, hchild, .step hextends hclimbs⟩

/-- What the search has left behind: the target is not among it, and all its parents have been met. -/
structure LeftBehind (h : Hierarchy) (target : String) (met level : List String) : Prop where
  target : target ∉ met
  parents : ∀ child ∈ met, ∀ parent ∈ h.parents child, parent ∈ met ∨ parent ∈ level

theorem mem_nextLevel_iff {name : String} :
    name ∈ h.nextLevel met level ↔ (∃ child ∈ level, name ∈ h.parents child) ∧ name ∉ met := by
  rw [nextLevel, List.mem_eraseDups, List.mem_filter, List.mem_flatMap, decide_eq_true_eq]

theorem LeftBehind.next (hbehind : h.LeftBehind target met level) (htarget : target ∉ level) :
    h.LeftBehind target (met ++ level) (h.nextLevel (met ++ level) level) where
  target := by
    rw [List.mem_append, not_or]
    exact ⟨hbehind.target, htarget⟩
  parents child hchild parent hparent := by
    by_cases hmet : parent ∈ met ++ level
    · exact Or.inl hmet
    · rcases List.mem_append.1 hchild with hold | hlevel
      · have hearlier := hbehind.parents child hold parent hparent
        exact absurd (List.mem_append.2 hearlier) hmet
      · exact Or.inr (mem_nextLevel_iff.2 ⟨⟨child, hlevel, hparent⟩, hmet⟩)

/-- A way up from what is left behind leads on to the present level or stays behind, so it has one step more. -/
theorem LeftBehind.exists_step (hdistinct : h.declaredNames.Nodup) (hbehind : h.LeftBehind target met level)
    {start : String} (hstart : start ∈ met) (hclimbs : ClimbsIn h.declarations steps start target) :
    ∃ fewer parent, steps = fewer + 1 ∧ (parent ∈ met ∨ parent ∈ level) ∧
      ClimbsIn h.declarations fewer parent target := by
  cases hclimbs with
  | stay => exact absurd hstart hbehind.target
  | step hparent hrest =>
    have hmet := hbehind.parents start hstart _ ((mem_parents_iff hdistinct).2 hparent)
    exact ⟨_, _, rfl, hmet, hrest⟩

theorem LeftBehind.not_climbsIn (hdistinct : h.declaredNames.Nodup) (hbehind : h.LeftBehind target met [])
    {start : String} (hstart : start ∈ met) : ¬ ClimbsIn h.declarations steps start target := by
  intro hclimbs
  induction steps generalizing start with
  | zero =>
    obtain ⟨_, _, hzero, _⟩ := hbehind.exists_step hdistinct hstart hclimbs
    cases hzero
  | succ steps ih =>
    obtain ⟨_, parent, hsteps, hparent, hrest⟩ := hbehind.exists_step hdistinct hstart hclimbs
    cases hsteps
    exact ih (hparent.resolve_right List.not_mem_nil) hrest

/-- No way up is shorter than the level that is found: from the present level it is at least as long, and from what is left behind it is longer. -/
theorem exists_distanceFrom_of_climbsIn (hdistinct : h.declaredNames.Nodup) (hbehind : h.LeftBehind target met level)
    {start : String} (hstart : start ∈ met ++ level) (hclimbs : ClimbsIn h.declarations steps start target) :
    ∃ distance, h.distanceFrom target met level = some distance ∧ distance ≤ steps ∧
      (start ∈ met → distance < steps) := by
  fun_induction distanceFrom h target met level generalizing start steps with
  | case1 met level htarget =>
    refine ⟨0, rfl, Nat.zero_le _, fun hold => ?_⟩
    obtain ⟨fewer, _, rfl, _, _⟩ := hbehind.exists_step hdistinct hold hclimbs
    exact Nat.succ_pos fewer
  | case2 met level htarget hnext =>
    have hlast := hbehind.next htarget
    rw [hnext] at hlast
    exact absurd hclimbs (hlast.not_climbsIn hdistinct hstart)
  | case3 met level htarget name rest hnext ih =>
    have hlast := hbehind.next htarget
    rw [hnext] at hlast
    obtain ⟨distance, hdistance, _, hless⟩ := ih hlast (List.mem_append_left _ hstart) hclimbs
    refine ⟨distance + 1, by rw [hdistance]; rfl, hless hstart, fun hold => ?_⟩
    -- The parent that the way leads on to has been met, so the rest of the way is longer than the search.
    obtain ⟨fewer, parent, rfl, hparent, hrest⟩ := hbehind.exists_step hdistinct hold hclimbs
    have hparentMet : parent ∈ met ++ level := List.mem_append.2 hparent
    obtain ⟨other, hother, _, hmore⟩ := ih hlast (List.mem_append_left _ hparentMet) hrest
    rw [hdistance] at hother
    cases hother
    exact Nat.succ_lt_succ (hmore hparentMet)

theorem contains_of_climbsIn (hclimbs : ClimbsIn h.declarations steps source target)
    (hsource : h.contains source = true) : h.contains target = true := by
  induction hclimbs with
  | stay name => exact hsource
  | step hparent _ ih =>
    obtain ⟨declaration, hmem, _, hparent⟩ := hparent
    have hmentioned := List.mem_flatMap.2 ⟨declaration, hmem, hparent⟩
    apply ih
    exact List.contains_iff_mem.2 (List.mem_append_right _ hmentioned)

theorem distance?_eq_some_iff (hdistinct : h.declaredNames.Nodup) (hsource : h.contains source = true) :
    h.distance? source target = some distance ↔ IsDistance h.declarations source target distance := by
  have hbehind : h.LeftBehind target [] [source] := ⟨List.not_mem_nil, fun _ hchild => absurd hchild List.not_mem_nil⟩
  have hfound : ∀ {steps}, ClimbsIn h.declarations steps source target →
      ∃ found, h.distance? source target = some found ∧ found ≤ steps := by
    intro steps hclimbs
    obtain ⟨found, hfound, hle, _⟩ :=
      exists_distanceFrom_of_climbsIn hdistinct hbehind (List.mem_singleton_self source) hclimbs
    rw [distance?, hsource, contains_of_climbsIn hclimbs hsource, Bool.and_self, if_pos rfl]
    exact ⟨found, hfound, hle⟩
  have hclimbs : ∀ {found}, h.distance? source target = some found → ClimbsIn h.declarations found source target := by
    intro found hfound
    unfold distance? at hfound
    split at hfound
    · obtain ⟨start, hstart, hclimbs⟩ := exists_climbsIn_of_distanceFrom hdistinct hfound
      cases List.mem_singleton.1 hstart
      exact hclimbs
    · cases hfound
  constructor
  · intro hdistance
    refine ⟨hclimbs hdistance, fun steps hsteps => ?_⟩
    obtain ⟨found, hsame, hle⟩ := hfound hsteps
    rw [hdistance] at hsame
    cases hsame
    exact hle
  · rintro ⟨hway, hleast⟩
    obtain ⟨found, hsame, hle⟩ := hfound hway
    rw [hsame, Nat.le_antisymm hle (hleast (hclimbs hsame))]

end Hierarchy

end TypedMessages

import TypedMessages.Proofs.Extension.Reach

/-!
# Hierarchies that agree above a name

Whatever a hierarchy says about an interface it reads off the declarations above that interface: a walk, and the search for a distance, only ever go from a name to its parents. So two hierarchies that have the same declarations in a set of names, out of which no extension leads, give the same closures, the same methods and the same distances there, however different they are elsewhere.
-/

namespace TypedMessages.Hierarchy

/-! ### Steps of the search for a distance -/

section Levels

variable {h : Hierarchy} {target : String} {met level : List String}

theorem distanceFrom_of_top (htarget : target ∉ level) (hnext : h.nextLevel (met ++ level) level = []) :
    h.distanceFrom target met level = none := by
  rw [distanceFrom, if_neg htarget]
  split
  · rfl
  · next hcons =>
    rw [hnext] at hcons
    cases hcons

theorem distanceFrom_of_nextLevel {name : String} {rest : List String} (htarget : target ∉ level)
    (hnext : h.nextLevel (met ++ level) level = name :: rest) :
    h.distanceFrom target met level = (h.distanceFrom target (met ++ level) (name :: rest)).map (· + 1) := by
  rw [distanceFrom, if_neg htarget]
  split
  · next hnil =>
    rw [hnext] at hnil
    cases hnil
  · next hcons =>
    rw [hnext] at hcons
    cases hcons
    rfl

end Levels

/-! ### Agreement -/

/-- The names of the set have the same declarations in both hierarchies, or none in both, and their parents are in the set as well. -/
structure AgreeOn (h other : Hierarchy) (set : String → Prop) : Prop where
  loggerBases : h.loggerBases = other.loggerBases
  declaration : ∀ name, set name → h.declaration? name = other.declaration? name
  parents : ∀ name, set name → ∀ parent ∈ h.parents name, set parent

theorem contains_of_declared {h : Hierarchy} {name : String} {declaration : InterfaceDeclaration}
    (hfind : h.declaration? name = some declaration) : h.contains name = true :=
  List.contains_iff_mem.2 (List.mem_append_left _ (mem_names_of_findInterface? hfind))

namespace AgreeOn

variable {h other : Hierarchy} {set : String → Prop} {name : String}

theorem parents_eq (hagree : h.AgreeOn other set) (hname : set name) : h.parents name = other.parents name := by
  unfold Hierarchy.parents
  rw [hagree.declaration name hname]

/-! ### Closures -/

theorem walkFrom_eq (hagree : h.AgreeOn other set) {seen stack : List String} (hstack : ∀ name ∈ stack, set name) :
    h.walkFrom seen stack = other.walkFrom seen stack := by
  induction seen, stack using walkFrom_induction (h := h) with
  | nil seen => rw [walkFrom_nil, walkFrom_nil]
  | known seen name stack hseen ih =>
    obtain ⟨_, hrest⟩ := List.forall_mem_cons.1 hstack
    rw [walkFrom_known hseen, walkFrom_known hseen]
    exact ih hrest
  | base seen name stack hnew hbase ih =>
    obtain ⟨_, hrest⟩ := List.forall_mem_cons.1 hstack
    have hotherBase : other.loggerBases.contains name = true := hagree.loggerBases ▸ hbase
    rw [walkFrom_base hnew hbase, walkFrom_base hnew hotherBase, ih hrest]
  | enter seen name stack hnew hbase ih =>
    obtain ⟨hname, hrest⟩ := List.forall_mem_cons.1 hstack
    have hotherBase : other.loggerBases.contains name = false := hagree.loggerBases ▸ hbase
    have hnext : ∀ next ∈ h.parents name ++ stack, set next :=
      List.forall_mem_append.2 ⟨hagree.parents name hname, hrest⟩
    rw [walkFrom_enter hnew hbase, walkFrom_enter hnew hotherBase, ← hagree.parents_eq hname, ih hnext]

theorem walk_eq (hagree : h.AgreeOn other set) (hname : set name) : h.walk name = other.walk name :=
  hagree.walkFrom_eq (List.forall_mem_singleton.2 hname)

/-- Walking up does not lead out of the set. -/
theorem mem_of_reaches (hagree : h.AgreeOn other set) (hname : set name) {above : String}
    (hreaches : Relation.ReflTransGen h.LeadsOn name above) : set above := by
  induction hreaches with
  | refl => exact hname
  | tail _ hstep ih => exact hagree.parents _ ih _ (leadsOn_iff.1 hstep).2

theorem mem_of_mem_closure (hagree : h.AgreeOn other set) (hname : set name) : ∀ member ∈ h.closure name, set member :=
  fun _ hmember => hagree.mem_of_reaches hname (mem_closure_iff.1 hmember).2

theorem mem_of_mem_basesOf (hagree : h.AgreeOn other set) (hname : set name) : ∀ base ∈ h.basesOf name, set base :=
  fun _ hbase => hagree.mem_of_reaches hname (mem_basesOf_iff.1 hbase).2

/-! ### Methods -/

theorem closureDeclarations_eq (hagree : h.AgreeOn other set) (requested : String) {names : List String}
    (hnames : ∀ name ∈ names, set name) :
    h.closureDeclarations requested names = other.closureDeclarations requested names := by
  induction names with
  | nil => rfl
  | cons name names ih =>
    obtain ⟨hname, hrest⟩ := List.forall_mem_cons.1 hnames
    rw [closureDeclarations, closureDeclarations, hagree.declaration name hname, ih hrest]

theorem delegatedOf_eq (hagree : h.AgreeOn other set) (hname : set name) : h.delegatedOf name = other.delegatedOf name := by
  have hbases : h.basesOf name = other.basesOf name := congrArg Walk.bases (hagree.walk_eq hname)
  rw [delegatedOf, delegatedOf, ← hbases]
  refine List.flatMap_congr fun base hbase => ?_
  rw [hagree.declaration base (hagree.mem_of_mem_basesOf hname base hbase)]

theorem contains_eq (hagree : h.AgreeOn other set) (hname : set name) {declaration : InterfaceDeclaration}
    (hfind : h.declaration? name = some declaration) : h.contains name = other.contains name := by
  rw [contains_of_declared hfind, contains_of_declared ((hagree.declaration name hname).symm.trans hfind)]

theorem closureOf_eq (hagree : h.AgreeOn other set) (hname : set name) {declaration : InterfaceDeclaration}
    (hfind : h.declaration? name = some declaration) : h.closureOf name = other.closureOf name := by
  rw [closureOf, closureOf, hagree.contains_eq hname hfind, closure, closure, hagree.walk_eq hname]

theorem flattenedMethods_eq (hagree : h.AgreeOn other set) (hname : set name) {declaration : InterfaceDeclaration}
    (hfind : h.declaration? name = some declaration) : h.flattenedMethods name = other.flattenedMethods name := by
  have hclosure : h.closure name = other.closure name := congrArg Walk.members (hagree.walk_eq hname)
  rw [flattenedMethods, flattenedMethods, hagree.contains_eq hname hfind, hagree.delegatedOf_eq hname,
    hagree.closureDeclarations_eq name (hagree.mem_of_mem_closure hname), hclosure]

/-! ### Distances -/

theorem nextLevel_eq (hagree : h.AgreeOn other set) {level : List String} (hlevel : ∀ name ∈ level, set name)
    (met : List String) : h.nextLevel met level = other.nextLevel met level := by
  have hparents : level.flatMap h.parents = level.flatMap other.parents :=
    List.flatMap_congr fun name hname => hagree.parents_eq (hlevel name hname)
  rw [nextLevel, nextLevel, hparents]

theorem distanceFrom_eq (hagree : h.AgreeOn other set) (target : String) {met level : List String}
    (hlevel : ∀ name ∈ level, set name) : h.distanceFrom target met level = other.distanceFrom target met level := by
  fun_induction distanceFrom h target met level with
  | case1 met level htarget => rw [distanceFrom, if_pos htarget]
  | case2 met level htarget hnext =>
    rw [hagree.nextLevel_eq hlevel] at hnext
    rw [distanceFrom_of_top htarget hnext]
  | case3 met level htarget name rest hnext ih =>
    have hmore : ∀ above ∈ name :: rest, set above := by
      rw [← hnext]
      intro above habove
      obtain ⟨child, hchild, hparent⟩ := exists_child_of_mem_nextLevel habove
      exact hagree.parents child (hlevel child hchild) above hparent
    rw [hagree.nextLevel_eq hlevel] at hnext
    rw [distanceFrom_of_nextLevel htarget hnext, ih hmore]

theorem distance?_eq (hagree : h.AgreeOn other set) {source target : String} (hsource : set source) (htarget : set target)
    {sourceDeclaration targetDeclaration : InterfaceDeclaration} (hsourceFind : h.declaration? source = some sourceDeclaration)
    (htargetFind : h.declaration? target = some targetDeclaration) :
    h.distance? source target = other.distance? source target := by
  rw [distance?, distance?, hagree.contains_eq hsource hsourceFind, hagree.contains_eq htarget htargetFind,
    hagree.distanceFrom_eq target (List.forall_mem_singleton.2 hsource)]

end AgreeOn

end TypedMessages.Hierarchy

import TypedMessages.Extension.Fault
import TypedMessages.Interface.Basic
import TypedMessages.Proofs.Errors

/-!
# Closures of batches without name faults

In a batch whose names are declared once and whose parents are all declared or logger bases, walking up never meets a name that is neither. So all members of a closure are declared, and the methods of every declared interface can be flattened. Methods are only ever taken from declarations in the closure, so building an interface never meets one from outside.
-/

namespace TypedMessages

/-! ### What a batch without faults promises -/

theorem repetitions_eq_nil_iff {seen names : List String} :
    repetitions seen names = [] ↔ names.Nodup ∧ ∀ name ∈ names, name ∉ seen := by
  induction names generalizing seen with
  | nil => simp [repetitions]
  | cons name names ih =>
    by_cases hseen : name ∈ seen
    · simp [repetitions, hseen]
    · simp only [repetitions, if_neg hseen, ih, List.mem_cons, List.nodup_cons, not_or]
      constructor
      · rintro ⟨hnodup, hnew⟩
        refine ⟨⟨fun hmem => (hnew name hmem).1 rfl, hnodup⟩, ?_⟩
        rintro other (rfl | hother)
        · exact hseen
        · exact (hnew other hother).2
      · rintro ⟨⟨hname, hnodup⟩, hnew⟩
        refine ⟨hnodup, fun other hother => ⟨?_, hnew other (Or.inr hother)⟩⟩
        rintro rfl
        exact hname hother

/-- The names of a batch stand for one interface each, and every parent is declared or a logger base. -/
structure Batch.NamesResolved (batch : Batch) : Prop where
  distinct : batch.interfaceNames.Nodup
  parents : ∀ interface ∈ batch.interfaces, ∀ parent ∈ interface.parents,
    parent ∈ batch.interfaceNames ∨ batch.options.isLoggerBase parent = true

theorem Batch.namesResolved_of_nameFaults {batch : Batch} (h : batch.nameFaults = []) : batch.NamesResolved := by
  simp only [Batch.nameFaults, List.append_eq_nil_iff, List.map_eq_nil_iff] at h
  obtain ⟨⟨hinterfaces, _⟩, hparents⟩ := h
  obtain ⟨hdistinct, _⟩ := repetitions_eq_nil_iff.1 hinterfaces
  refine ⟨hdistinct, fun interface hinterface parent hparent => ?_⟩
  have hnone := List.map_eq_nil_iff.1 (List.flatMap_eq_nil_iff.1 hparents interface hinterface)
  have hfound := List.filter_eq_nil_iff.1 hnone parent hparent
  simpa [Classical.or_iff_not_imp_left] using hfound

theorem Batch.namesResolved_of_faults {batch : Batch} (h : batch.faults = []) : batch.NamesResolved := by
  apply Batch.namesResolved_of_nameFaults
  unfold Batch.faults at h
  split at h
  · assumption
  · exact absurd h (by assumption)

theorem isSome_findInterface? {interfaces : List InterfaceDeclaration} {name : String}
    (h : name ∈ interfaces.map (·.name)) : ∃ interface, findInterface? interfaces name = some interface := by
  obtain ⟨interface, hmem, hname⟩ := List.mem_map.1 h
  apply Option.isSome_iff_exists.1
  rw [findInterface?, List.find?_isSome]
  exact ⟨interface, List.mem_reverse.2 hmem, by simpa using hname⟩

/-! ### Walking up -/

namespace Hierarchy

/-- A name at which a walk can go on or end: it is declared, or a logger base. -/
def Settled (h : Hierarchy) (name : String) : Prop :=
  name ∈ h.declaredNames ∨ h.loggerBases.contains name = true

/-- No declaration names a parent that is unknown. -/
def ParentsSettled (h : Hierarchy) : Prop :=
  ∀ declaration ∈ h.declarations, ∀ parent ∈ declaration.parents, h.Settled parent

theorem parentsSettled_ofBatch {batch : Batch} (h : batch.NamesResolved) : (ofBatch batch).ParentsSettled :=
  h.parents

theorem parents_settled {h : Hierarchy} (hparents : h.ParentsSettled) (name : String) :
    ∀ parent ∈ h.parents name, h.Settled parent := by
  unfold parents
  split
  · next declaration hfind => exact hparents declaration (mem_of_findInterface? hfind).1
  · exact List.forall_mem_nil _

section Steps

variable {h : Hierarchy} {name : String} {seen stack : List String}

theorem walkFrom_nil (h : Hierarchy) (seen : List String) : h.walkFrom seen [] = ⟨[], []⟩ := by
  rw [walkFrom]

theorem walkFrom_known (hseen : name ∈ seen) : h.walkFrom seen (name :: stack) = h.walkFrom seen stack := by
  rw [walkFrom, if_pos hseen]

theorem walkFrom_base (hnew : name ∉ seen) (hbase : h.loggerBases.contains name = true) :
    h.walkFrom seen (name :: stack) =
      { h.walkFrom (name :: seen) stack with bases := name :: (h.walkFrom (name :: seen) stack).bases } := by
  rw [walkFrom, if_neg hnew, if_pos hbase]

theorem walkFrom_enter (hnew : name ∉ seen) (hbase : h.loggerBases.contains name = false) :
    h.walkFrom seen (name :: stack) =
      { h.walkFrom (name :: seen) (h.parents name ++ stack) with
        members := name :: (h.walkFrom (name :: seen) (h.parents name ++ stack)).members } := by
  rw [walkFrom, if_neg hnew, if_neg (by rw [hbase]; exact Bool.false_ne_true)]
  unfold parents
  split
  · next hfind => simp only [hfind, List.nil_append]
  · next declaration hfind => simp only [hfind]

/-- A walk goes on from a stack in one of three ways: past a name that it knows, past a logger base, or into an interface, whose parents come onto the stack. -/
theorem walkFrom_induction {motive : List String → List String → Prop} (nil : ∀ seen, motive seen [])
    (known : ∀ seen name stack, name ∈ seen → motive seen stack → motive seen (name :: stack))
    (base : ∀ seen name stack, name ∉ seen → h.loggerBases.contains name = true →
      motive (name :: seen) stack → motive seen (name :: stack))
    (enter : ∀ seen name stack, name ∉ seen → h.loggerBases.contains name = false →
      motive (name :: seen) (h.parents name ++ stack) → motive seen (name :: stack))
    (seen stack : List String) : motive seen stack := by
  fun_induction walkFrom h seen stack with
  | case1 seen => exact nil seen
  | case2 seen name stack hseen ih => exact known seen name stack hseen ih
  | case3 seen name stack hnew hbase walk ih => exact base seen name stack hnew hbase ih
  | case4 seen name stack hnew hbase hfind walk ih =>
    refine enter seen name stack hnew (Bool.not_eq_true _ ▸ hbase) ?_
    simpa only [parents, hfind, List.nil_append] using ih
  | case5 seen name stack hnew hbase declaration hfind walk ih =>
    refine enter seen name stack hnew (Bool.not_eq_true _ ▸ hbase) ?_
    simpa only [parents, hfind] using ih

end Steps

theorem walk_of_root {h : Hierarchy} {name : String} (hbase : h.loggerBases.contains name = false)
    (hparents : h.parents name = []) : h.walk name = ⟨[name], []⟩ := by
  rw [walk, walkFrom_enter List.not_mem_nil hbase, hparents, List.nil_append, walkFrom]

theorem walk_of_child {h : Hierarchy} {name parent : String} (hbase : h.loggerBases.contains name = false)
    (hparents : h.parents name = [parent]) (hne : parent ≠ name) (hparentBase : h.loggerBases.contains parent = false)
    (hroot : h.parents parent = []) : h.walk name = ⟨[name, parent], []⟩ := by
  rw [walk, walkFrom_enter List.not_mem_nil hbase, hparents, List.append_nil,
    walkFrom_enter (by rw [List.mem_singleton]; exact hne) hparentBase, hroot, List.nil_append, walkFrom]

/-- The stack of a walk holds settled names only, so what the walk enters is declared. -/
theorem declared_of_mem_walkFrom {h : Hierarchy} (hparents : h.ParentsSettled) {seen stack : List String}
    (hstack : ∀ name ∈ stack, h.Settled name) :
    ∀ name ∈ (h.walkFrom seen stack).members, name ∈ h.declaredNames := by
  induction seen, stack using walkFrom_induction (h := h) with
  | nil seen => simp [walkFrom_nil]
  | known seen name stack hseen ih =>
    obtain ⟨_, hrest⟩ := List.forall_mem_cons.1 hstack
    rw [walkFrom_known hseen]
    exact ih hrest
  | base seen name stack hnew hbase ih =>
    obtain ⟨_, hrest⟩ := List.forall_mem_cons.1 hstack
    rw [walkFrom_base hnew hbase]
    exact ih hrest
  | enter seen name stack hnew hbase ih =>
    obtain ⟨hname, hrest⟩ := List.forall_mem_cons.1 hstack
    have hdeclared : name ∈ h.declaredNames := hname.resolve_right (by rw [hbase]; exact Bool.false_ne_true)
    have hnext : ∀ next ∈ h.parents name ++ stack, h.Settled next :=
      List.forall_mem_append.2 ⟨parents_settled hparents name, hrest⟩
    rw [walkFrom_enter hnew hbase, List.forall_mem_cons]
    exact ⟨hdeclared, ih hnext⟩

theorem declared_of_mem_closure {h : Hierarchy} (hparents : h.ParentsSettled) {name member : String}
    (hname : h.Settled name) (hmember : member ∈ h.closure name) : member ∈ h.declaredNames := by
  refine declared_of_mem_walkFrom hparents ?_ member hmember
  intro other hother
  rw [List.mem_singleton.1 hother]
  exact hname

/-! ### Flattening -/

theorem closureDeclarations_eq_ok {h : Hierarchy} (requested : String) {names : List String}
    (hnames : ∀ name ∈ names, name ∈ h.declaredNames) :
    ∃ declarations, h.closureDeclarations requested names = .ok declarations := by
  induction names with
  | nil => exact ⟨[], rfl⟩
  | cons name names ih =>
    obtain ⟨declaration, hfind⟩ := isSome_findInterface? (hnames name (List.mem_cons_self ..))
    obtain ⟨declarations, hrest⟩ := ih fun other hother => hnames other (List.mem_cons_of_mem _ hother)
    exact ⟨declaration :: declarations, by rw [closureDeclarations, declaration?, hfind, hrest]; rfl⟩

theorem flattenedMethods_eq_ok {h : Hierarchy} (hparents : h.ParentsSettled) {name : String}
    (hname : name ∈ h.declaredNames) : ∃ flattened, h.flattenedMethods name = .ok flattened := by
  have hcontains : h.contains name = true := List.contains_iff_mem.2 (List.mem_append_left _ hname)
  have hclosure : ∀ member ∈ h.closure name, member ∈ h.declaredNames :=
    fun member hmember => declared_of_mem_closure hparents (Or.inl hname) hmember
  obtain ⟨declarations, hdeclarations⟩ := closureDeclarations_eq_ok name hclosure
  rw [flattenedMethods, if_pos hcontains, hdeclarations]
  exact ⟨_, rfl⟩

/-! ### Where methods come from -/

theorem firstByKey_sublist (seen : List String) (methods : List (InterfaceDeclaration × MethodDeclaration)) :
    (firstByKey seen methods).Sublist methods := by
  fun_induction firstByKey seen methods with
  | case1 => exact .slnil
  | case2 seen declaring method methods hseen ih => exact ih.cons _
  | case3 seen declaring method methods hnew ih => exact ih.cons_cons _

theorem mem_of_mem_firstByKey {seen : List String} {methods : List (InterfaceDeclaration × MethodDeclaration)}
    {declared : InterfaceDeclaration × MethodDeclaration} (h : declared ∈ firstByKey seen methods) :
    declared ∈ methods :=
  (firstByKey_sublist seen methods).mem h

theorem name_mem_of_closureDeclarations {h : Hierarchy} {requested : String} {names : List String}
    {declarations : List InterfaceDeclaration} (hok : h.closureDeclarations requested names = .ok declarations) :
    ∀ declaration ∈ declarations, declaration.name ∈ names := by
  induction names generalizing declarations with
  | nil =>
    cases hok
    intro declaration hdeclaration
    cases hdeclaration
  | cons name names ih =>
    rw [closureDeclarations] at hok
    split at hok
    · cases hok
    · next first hfind =>
      obtain ⟨rest, hrest, rfl⟩ := map_eq_ok_iff.1 hok
      intro declaration hdeclaration
      rcases List.mem_cons.1 hdeclaration with rfl | hdeclaration
      · rw [(mem_of_findInterface? hfind).2]
        exact List.mem_cons_self ..
      · exact List.mem_cons_of_mem _ (ih hrest declaration hdeclaration)

theorem flattenedMethods_declaring_mem {h : Hierarchy} {name : String} {flattened : FlattenedMethods}
    (hok : h.flattenedMethods name = .ok flattened) :
    ∀ declared ∈ flattened.methods, declared.1.name ∈ h.closure name := by
  unfold flattenedMethods at hok
  split at hok
  · obtain ⟨declarations, hdeclarations, rfl⟩ := map_eq_ok_iff.1 hok
    intro declared hdeclared
    obtain ⟨declaration, hmem, hmethod⟩ := List.mem_flatMap.1 (mem_of_mem_firstByKey hdeclared)
    obtain ⟨method, _, rfl⟩ := List.mem_map.1 hmethod
    exact name_mem_of_closureDeclarations hdeclarations declaration hmem
  · cases hok

theorem contains_of_flattenedMethods {h : Hierarchy} {name : String} {flattened : FlattenedMethods}
    (hok : h.flattenedMethods name = .ok flattened) : h.contains name = true := by
  unfold flattenedMethods at hok
  split at hok
  · next hcontains => exact hcontains
  · cases hok

theorem closureOf_of_flattenedMethods {h : Hierarchy} {name : String} {flattened : FlattenedMethods}
    (hok : h.flattenedMethods name = .ok flattened) : h.closureOf name = .ok (h.closure name) := by
  rw [closureOf, if_pos (contains_of_flattenedMethods hok)]

theorem stray?_closure {h : Hierarchy} {name : String} {flattened : FlattenedMethods}
    (hok : h.flattenedMethods name = .ok flattened) : flattened.stray? (h.closure name) = none := by
  rw [FlattenedMethods.stray?, List.find?_eq_none]
  intro declared hdeclared
  simp [flattenedMethods_declaring_mem hok declared hdeclared]

end Hierarchy

/-- No method strays from the closure, so building an interface fails only where flattening does. -/
theorem Model.interface_eq_ok_iff {model : Model} {name : String} {interface : MessageInterface} :
    model.interface name = .ok interface ↔
      ∃ declaration flattened, model.batch.interfaces.find? (·.name == name) = some declaration ∧
        model.hierarchy.flattenedMethods name = .ok flattened ∧
        model.assemble declaration flattened = interface := by
  unfold Model.interface
  cases model.batch.interfaces.find? (·.name == name) with
  | none => simp
  | some declaration =>
    constructor
    · intro h
      obtain ⟨closure, hclosure, h⟩ := bind_eq_ok_iff.1 h
      obtain ⟨flattened, hflattened, h⟩ := bind_eq_ok_iff.1 h
      rw [Hierarchy.closureOf_of_flattenedMethods hflattened] at hclosure
      cases hclosure
      rw [Hierarchy.stray?_closure hflattened] at h
      cases h
      exact ⟨declaration, flattened, rfl, hflattened, rfl⟩
    · rintro ⟨_, flattened, ⟨⟩, hflattened, rfl⟩
      dsimp only
      rw [Hierarchy.closureOf_of_flattenedMethods hflattened, hflattened]
      simp only [bind, Except.bind, Hierarchy.stray?_closure hflattened]
      rfl

end TypedMessages

import TypedMessages.Proofs.Extension.Closure
import TypedMessages.Proofs.Extension.Cycle

/-!
# Well-formed batches

A batch is well formed if its interfaces have different names, its types have different names, every parent is declared or a logger base, and no interface is its own ancestor. A batch has no fault exactly when it is well formed. Otherwise its faults are the naming faults, one for every declaration or parent that is to blame, in the order of the declarations; or, if there are none of these, one cycle.
-/

namespace TypedMessages

/-! ### Repeated names -/

/-- The names of a list that have come before in it, once for each such place. -/
def repeatedNames (names : List String) : List String :=
  (names.zipIdx.filter fun (name, place) => name ∈ names.take place).map Prod.fst

theorem repetitions_congr {seen other : List String} (h : ∀ name, name ∈ seen ↔ name ∈ other) (names : List String) :
    repetitions seen names = repetitions other names := by
  induction names generalizing seen other with
  | nil => rfl
  | cons name names ih =>
    have hrest : ∀ next, next ∈ name :: seen ↔ next ∈ name :: other := by
      intro next
      rw [List.mem_cons, List.mem_cons, h next]
    by_cases hseen : name ∈ seen
    · rw [repetitions, repetitions, if_pos hseen, if_pos ((h name).1 hseen), ih h]
    · rw [repetitions, repetitions, if_neg hseen, if_neg fun hother => hseen ((h name).2 hother), ih hrest]

/-- Where some names were seen before the list begins, these count as repeated as well. -/
theorem repetitions_eq_filter_zipIdx (seen names : List String) :
    repetitions seen names =
      (names.zipIdx.filter fun (name, place) => name ∈ seen ∨ name ∈ names.take place).map Prod.fst := by
  induction names generalizing seen with
  | nil => rfl
  | cons first names ih =>
    -- Behind the first name every place moves up by one, and the first name joins those seen.
    have hrest : ((names.zipIdx 1).filter fun (name, place) =>
        decide (name ∈ seen ∨ name ∈ (first :: names).take place)).map Prod.fst = repetitions (first :: seen) names := by
      rw [ih, List.zipIdx_succ, List.filter_map, List.map_map]
      refine congrArg₂ List.map rfl (List.filter_congr ?_)
      rintro ⟨name, place⟩ _
      simp only [Function.comp_apply, List.take_succ_cons, List.mem_cons, decide_eq_decide]
      rw [or_left_comm, or_assoc]
    rw [List.zipIdx_cons, List.filter_cons, repetitions]
    by_cases hseen : first ∈ seen
    · have hsame : repetitions seen names = repetitions (first :: seen) names := by
        apply repetitions_congr
        intro name
        rw [List.mem_cons, or_iff_right_of_imp]
        rintro rfl
        exact hseen
      rw [if_pos hseen, if_pos (by simp [hseen]), List.map_cons, hrest, hsame]
    · rw [if_neg hseen, if_neg (by simp [hseen]), hrest]

theorem repetitions_eq_repeatedNames (names : List String) : repetitions [] names = repeatedNames names := by
  rw [repetitions_eq_filter_zipIdx, repeatedNames]
  simp only [List.not_mem_nil, false_or]

/-! ### Parents -/

theorem Hierarchy.isParent_of_mem_parents {h : Hierarchy} {name parent : String} (hparent : parent ∈ h.parents name) :
    IsParent h.declarations parent name := by
  unfold parents at hparent
  split at hparent
  · next declaration hfind =>
    obtain ⟨hmem, hname⟩ := mem_of_findInterface? hfind
    exact ⟨declaration, hmem, hname, hparent⟩
  · cases hparent

/-- Where names are declared once, the parents of a name are those that it is declared to extend. -/
theorem Hierarchy.mem_parents_iff {h : Hierarchy} (hdistinct : h.declaredNames.Nodup) {name parent : String} :
    parent ∈ h.parents name ↔ IsParent h.declarations parent name := by
  refine ⟨isParent_of_mem_parents, fun hparent => ?_⟩
  obtain ⟨declaration, hmem, hname, hmember⟩ := hparent
  have hfind : h.declaration? name = some declaration := (findInterface?_eq_some_iff hdistinct).2 ⟨hmem, hname⟩
  unfold parents
  rw [hfind]
  exact hmember

/-! ### Faults -/

/-- What a batch has to be for its hierarchy to make sense. -/
structure Batch.WellFormed (batch : Batch) : Prop extends batch.NamesResolved where
  distinctTypes : (batch.types.map (·.name)).Nodup
  acyclic : ∀ name ∈ batch.interfaceNames, ¬ Relation.TransGen (IsParent batch.interfaces) name name

/-- The faults of single declarations: each that repeats the name of an interface, each that repeats the name of a type, and each parent that is neither declared nor a logger base. -/
def Batch.declarationFaults (batch : Batch) : List BatchFault :=
  (repeatedNames batch.interfaceNames).map BatchFault.duplicateInterface ++
    (repeatedNames (batch.types.map (·.name))).map BatchFault.duplicateType ++
    batch.interfaces.flatMap fun interface =>
      (interface.parents.filter fun parent =>
        parent ∉ batch.interfaceNames ∧ ¬ batch.options.isLoggerBase parent).map
          (BatchFault.unresolvedInterface interface.name)

namespace Batch

theorem nameFaults_eq_declarationFaults (batch : Batch) : batch.nameFaults = batch.declarationFaults := by
  rw [nameFaults, declarationFaults, repetitions_eq_repeatedNames, repetitions_eq_repeatedNames, unresolvedParents,
    List.map_flatMap]
  refine congrArg _ (List.flatMap_congr fun interface _ => ?_)
  rw [List.map_map]
  refine congrArg₂ List.map rfl (List.filter_congr fun parent _ => ?_)
  simp

theorem faults_of_nameFaults_eq_nil {batch : Batch} (h : batch.nameFaults = []) :
    batch.faults = (batch.cycle?.map BatchFault.cyclicExtension).toList := by
  rw [faults, h]

theorem faults_of_nameFaults_ne_nil {batch : Batch} (h : batch.nameFaults ≠ []) :
    batch.faults = batch.nameFaults := by
  unfold faults
  split
  · next hnil => exact absurd hnil h
  · rfl

theorem nameFaults_eq_nil_iff {batch : Batch} :
    batch.nameFaults = [] ↔ batch.NamesResolved ∧ (batch.types.map (·.name)).Nodup := by
  constructor
  · intro hnone
    refine ⟨namesResolved_of_nameFaults hnone, ?_⟩
    simp only [nameFaults, List.append_eq_nil_iff, List.map_eq_nil_iff] at hnone
    obtain ⟨⟨_, htypes⟩, _⟩ := hnone
    exact (repetitions_eq_nil_iff.1 htypes).1
  · rintro ⟨hnames, htypes⟩
    have hdistinct : repetitions [] batch.interfaceNames = [] :=
      repetitions_eq_nil_iff.2 ⟨hnames.distinct, fun _ _ => List.not_mem_nil⟩
    have htypes : repetitions [] (batch.types.map (·.name)) = [] :=
      repetitions_eq_nil_iff.2 ⟨htypes, fun _ _ => List.not_mem_nil⟩
    have hparents : batch.unresolvedParents = [] := by
      apply List.flatMap_eq_nil_iff.2
      intro interface hinterface
      apply List.map_eq_nil_iff.2
      apply List.filter_eq_nil_iff.2
      intro parent hparent
      rcases hnames.parents interface hinterface parent hparent with hdeclared | hbase
      · simp [hdeclared]
      · simp [hbase]
    simp [nameFaults, hdistinct, htypes, hparents]

theorem faults_eq_nil_iff {batch : Batch} : batch.faults = [] ↔ batch.WellFormed := by
  by_cases hnames : batch.nameFaults = []
  · obtain ⟨hresolved, htypes⟩ := nameFaults_eq_nil_iff.1 hnames
    have hcycle : batch.faults = [] ↔ batch.cycle? = none := by
      rw [faults_of_nameFaults_eq_nil hnames]
      cases batch.cycle? <;> simp
    rw [hcycle, cycle?_eq_none_iff hresolved.distinct]
    exact ⟨fun hacyclic => ⟨hresolved, htypes, hacyclic⟩, fun h => h.acyclic⟩
  · rw [faults_of_nameFaults_ne_nil hnames]
    constructor
    · intro hnone
      exact absurd hnone hnames
    · intro h
      exact nameFaults_eq_nil_iff.2 ⟨h.toNamesResolved, h.distinctTypes⟩

end Batch

/-- **The faults of a batch are exactly what is wrong with it.** There are none exactly when the batch is well formed. Otherwise they are the faults of its declarations, all of them and nothing else; or there are no such faults, some interface is its own ancestor, and the only fault is a cycle. -/
theorem faults_exact (batch : Batch) :
    (batch.faults = [] ↔ batch.WellFormed) ∧
      (batch.faults = [] ∨
        (batch.declarationFaults ≠ [] ∧ batch.faults = batch.declarationFaults) ∨
        (batch.declarationFaults = [] ∧
          (∃ name ∈ batch.interfaceNames, Relation.TransGen (IsParent batch.interfaces) name name) ∧
          ∃ cycle, batch.faults = [.cyclicExtension cycle])) := by
  refine ⟨Batch.faults_eq_nil_iff, ?_⟩
  rw [← Batch.nameFaults_eq_declarationFaults]
  by_cases hnames : batch.nameFaults = []
  · cases hcycle : batch.cycle? with
    | none =>
      left
      rw [Batch.faults_of_nameFaults_eq_nil hnames, hcycle]
      rfl
    | some cycle =>
      right; right
      refine ⟨hnames, ?_, cycle, ?_⟩
      · by_contra hacyclic
        push Not at hacyclic
        have hdistinct := (Batch.nameFaults_eq_nil_iff.1 hnames).1.distinct
        rw [(Batch.cycle?_eq_none_iff hdistinct).2 hacyclic] at hcycle
        cases hcycle
      · rw [Batch.faults_of_nameFaults_eq_nil hnames, hcycle]
        rfl
  · right; left
    exact ⟨hnames, Batch.faults_of_nameFaults_ne_nil hnames⟩

end TypedMessages

import TypedMessages.Proofs.Check.Comparison
import TypedMessages.Proofs.Report.Locality
import TypedMessages.Proofs.Report.Sharding

/-!
# The order of declarations

The interfaces of a batch may be declared in any order. What comes of an interface depends on the declarations above it only, and the checks that compare interfaces find something in every order or in none. Only where they find it can change, so an interface may be allowed in one order and not in another one, but not the whole batch.
-/

namespace TypedMessages

/-- The same declarations, with the interfaces in another order. -/
structure Batch.SameButOrder (batch other : Batch) : Prop where
  options : batch.options = other.options
  types : batch.types = other.types
  interfaces : batch.interfaces.Perm other.interfaces

namespace Batch.SameButOrder

variable {batch other : Batch}

theorem symm (h : batch.SameButOrder other) : other.SameButOrder batch where
  options := h.options.symm
  types := h.types.symm
  interfaces := h.interfaces.symm

theorem interfaceNames (h : batch.SameButOrder other) : batch.interfaceNames.Perm other.interfaceNames :=
  h.interfaces.map _

theorem isParent_eq (h : batch.SameButOrder other) : IsParent batch.interfaces = IsParent other.interfaces := by
  funext parent child
  simp only [IsParent, h.interfaces.mem_iff]

theorem wellFormed (h : batch.SameButOrder other) (hbatch : batch.WellFormed) : other.WellFormed where
  distinct := h.interfaceNames.nodup_iff.1 hbatch.distinct
  parents interface hinterface parent hparent := by
    rw [← h.options, ← h.interfaceNames.mem_iff]
    exact hbatch.parents interface (h.interfaces.mem_iff.2 hinterface) parent hparent
  distinctTypes := h.types ▸ hbatch.distinctTypes
  acyclic name hname := by
    rw [← h.isParent_eq]
    exact hbatch.acyclic name (h.interfaceNames.mem_iff.2 hname)

theorem sameAbove (h : batch.SameButOrder other) (hbatch : batch.WellFormed) (name : String) :
    batch.SameAbove other name where
  options := h.options
  types := h.types
  distinct := hbatch.distinct
  othersDistinct := (h.wellFormed hbatch).distinct
  alike _ _ _ _ := h.interfaces.mem_iff

variable {order otherOrder : List String}

theorem perm_resolved (h : batch.SameButOrder other) (hbatch : batch.WellFormed)
    (horders : Catalog.OrdersAgree batch.types order otherOrder) {resolved others : List ResolvedInterface}
    (hresolved : (Session.ofBatchAlong order batch).interfaceNames.mapM (Model.ofBatchAlong order batch).resolve =
      .ok resolved)
    (hothers : (Session.ofBatchAlong otherOrder other).interfaceNames.mapM
      (Model.ofBatchAlong otherOrder other).resolve = .ok others) :
    resolved.Perm others := by
  have hresolve : (Model.ofBatchAlong order batch).resolve = (Model.ofBatchAlong otherOrder other).resolve :=
    funext fun name => (h.sameAbove hbatch name).resolve_eq horders
  have hnames : (Session.ofBatchAlong otherOrder other).interfaceNames.Perm
      (Session.ofBatchAlong order batch).interfaceNames := by
    show (other.interfaceNames.filter (!other.options.isLoggerBase ·)).Perm
      (batch.interfaceNames.filter (!batch.options.isLoggerBase ·))
    rw [h.options]
    exact h.interfaceNames.symm.filter _
  obtain ⟨moved, hmoved, hperm⟩ := List.perm_comp_forall₂ hnames (mapM_eq_ok_iff.1 hresolved)
  rw [hresolve] at hmoved
  cases hothers.symm.trans (mapM_eq_ok_iff.2 hmoved)
  exact hperm.symm

end Batch.SameButOrder

/-! ### The verdict -/

theorem BatchReport.hasErrors_eq_false_iff {report : BatchReport} : report.hasErrors = false ↔ Silent report.diagnostics := by
  simp [hasErrors, Silent]

/-- The reports together are silent if every interface is by itself and the checks that compare them are. -/
theorem Session.silent_diagnostics_iff {session : Session} {resolved : List ResolvedInterface} :
    Silent (BatchReport.diagnostics ⟨resolved.map (session.reportOf resolved)⟩) ↔
      (∀ r ∈ resolved, Silent (session.interfaceDiagnostics [r])) ∧ Silent (session.batchDiagnostics resolved) := by
  simp only [BatchReport.diagnostics, silent_flatMap, List.forall_mem_map, Session.reportOf, silent_append]
  constructor
  · intro h
    refine ⟨fun r hr => (h r hr).1, fun diagnostic hdiagnostic => ?_⟩
    obtain ⟨r, hr, howner⟩ := List.mem_map.1 (Session.owner_of_mem_runAll hdiagnostic)
    obtain ⟨_, hshard⟩ := h r hr
    apply hshard
    exact List.mem_filter.2 ⟨hdiagnostic, beq_iff_eq.2 howner.symm⟩
  · rintro ⟨halone, htogether⟩ r hr
    refine ⟨halone r hr, fun diagnostic hdiagnostic => ?_⟩
    obtain ⟨hmem, _⟩ := List.mem_filter.1 hdiagnostic
    exact htogether diagnostic hmem

/-- A batch without errors has none in another order. -/
theorem Batch.SameButOrder.hasErrors_eq_false {batch other : Batch} {order otherOrder : List String}
    (h : batch.SameButOrder other) (hbatch : batch.WellFormed)
    (horders : Catalog.OrdersAgree batch.types order otherOrder) {report otherReport : BatchReport}
    (hrun : (Session.ofBatchAlong order batch).run = .ok report)
    (hother : (Session.ofBatchAlong otherOrder other).run = .ok otherReport) (hnone : report.hasErrors = false) :
    otherReport.hasErrors = false := by
  obtain ⟨resolved, hresolved, _, hreport⟩ := Session.run_eq_ok_along order hbatch.toNamesResolved
  obtain ⟨others, hothers, _, hotherReport⟩ := Session.run_eq_ok_along otherOrder (h.wellFormed hbatch).toNamesResolved
  cases hrun.symm.trans hreport
  cases hother.symm.trans hotherReport
  have hperm := h.perm_resolved hbatch horders hresolved hothers
  have hchecks := Session.runAll_eq h.options h.types horders
  rw [BatchReport.hasErrors_eq_false_iff, Session.silent_diagnostics_iff] at hnone ⊢
  obtain ⟨halone, htogether⟩ := hnone
  constructor
  · intro resolution hresolution
    rw [Session.interfaceDiagnostics, ← hchecks]
    exact halone resolution (hperm.mem_iff.2 hresolution)
  · rw [Session.batchDiagnostics, ← hchecks]
    refine silent_flatMap.2 fun check hcheck => ?_
    have hscope : check.scope = .batch := by simpa using (List.mem_filter.1 hcheck).2
    exact Check.silent_run_of_perm hscope hperm (silent_flatMap.1 htogether check hcheck)

theorem Batch.SameButOrder.exists_reports {batch other : Batch} (order otherOrder : List String)
    (h : batch.SameButOrder other) (hbatch : batch.WellFormed) :
    ∃ report otherReport, (Session.ofBatchAlong order batch).run = .ok report ∧
      (Session.ofBatchAlong otherOrder other).run = .ok otherReport ∧
      (Catalog.OrdersAgree batch.types order otherOrder → otherReport.hasErrors = report.hasErrors) := by
  have hother := h.wellFormed hbatch
  obtain ⟨_, _, _, hrun⟩ := Session.run_eq_ok_along order hbatch.toNamesResolved
  obtain ⟨_, _, _, hotherRun⟩ := Session.run_eq_ok_along otherOrder hother.toNamesResolved
  refine ⟨_, _, hrun, hotherRun, fun horders => ?_⟩
  have hback : Catalog.OrdersAgree other.types otherOrder order := h.types ▸ horders.symm
  rw [Bool.eq_iff_iff, ← not_iff_not, Bool.not_eq_true, Bool.not_eq_true]
  exact ⟨h.symm.hasErrors_eq_false hother hback hotherRun hrun, h.hasErrors_eq_false hbatch horders hrun hotherRun⟩

/-! ### The verdict on a greeting -/

namespace Greeting

variable {order : List String} {types : List TypeDeclaration} {roots : TypeRoots} {result : String}

theorem faults_eq_nil (hdistinct : (types.map (·.name)).Nodup) : (greetingBatch types roots result).faults = [] :=
  Batch.faults_eq_nil_iff.2
    { distinct := distinct types roots result
      parents := by simp [greetingBatch, greetingBundle]
      distinctTypes := hdistinct
      acyclic := fun name _ => not_own_ancestor_of_depth (fun _ => 0) (by simp [greetingBatch, greetingBundle]) name }

def report (order : List String) (types : List TypeDeclaration) (roots : TypeRoots) (result : String) : BatchReport :=
  let session := Session.ofBatchAlong order (greetingBatch types roots result)
  ⟨[session.reportOf [resolved order types roots result] (resolved order types roots result)]⟩

theorem run_eq_ok (order : List String) (hdistinct : (types.map (·.name)).Nodup) :
    (Session.ofBatchAlong order (greetingBatch types roots result)).run = .ok (report order types roots result) := by
  have hfaults : (greetingBatch types roots result).faults = [] := faults_eq_nil hdistinct
  have hnames := Batch.namesResolved_of_faults hfaults
  have hresolved := mapM_eq_ok_iff.2 (.cons (resolve_messages order types roots result) .nil)
  exact (Session.run_of_mapM_resolve_along order hnames hresolved).2

theorem hasErrors_of_string (hresult : (Catalog.buildAlong order types roots).returnType result none = .string result) :
    (report order types roots result).hasErrors = false := by
  rw [report, resolved, hresult]
  rfl

theorem hasErrors_of_other (hresult : (Catalog.buildAlong order types roots).returnType result none = .other result) :
    (report order types roots result).hasErrors = true := by
  rw [report, resolved, hresult]
  rfl

theorem hasErrors_textRoots {sub super : String} (hname : sub ≠ super) :
    (report order types (Catalog.textRoots super) sub).hasErrors =
      !(Catalog.buildAlong order types {}).isSubtypeOf sub super := by
  have htype : (Catalog.buildAlong order types (Catalog.textRoots super)).returnType sub none =
      if (Catalog.buildAlong order types {}).isSubtypeOf sub super then .string sub else .other sub :=
    Catalog.returnType_textRoots hname
  cases hsub : (Catalog.buildAlong order types {}).isSubtypeOf sub super with
  | true =>
    rw [hsub, if_pos rfl] at htype
    exact hasErrors_of_string htype
  | false =>
    rw [hsub, if_neg Bool.false_ne_true] at htype
    exact hasErrors_of_other htype

end Greeting

/-- Orders that disagree on the types give some greeting errors in one session and none in the other. -/
theorem exists_hasErrors_ne {types : List TypeDeclaration} {order otherOrder : List String}
    (hdistinct : (types.map (·.name)).Nodup) (horders : ¬ Catalog.OrdersAgree types order otherOrder) :
    ∃ batch report otherReport, batch.types = types ∧ batch.faults = [] ∧
      (Session.ofBatchAlong order batch).run = .ok report ∧
      (Session.ofBatchAlong otherOrder batch).run = .ok otherReport ∧ otherReport.hasErrors ≠ report.hasErrors := by
  simp only [Catalog.OrdersAgree, not_forall] at horders
  obtain ⟨sub, super, hdiffer⟩ := horders
  have hname : sub ≠ super := by
    intro hsame
    rw [Catalog.isSubtypeOf_iff.2 (.inl hsame), Catalog.isSubtypeOf_iff.2 (.inl hsame)] at hdiffer
    exact hdiffer rfl
  refine ⟨greetingBatch types (Catalog.textRoots super) sub, _, _, rfl, Greeting.faults_eq_nil hdistinct,
    Greeting.run_eq_ok order hdistinct, Greeting.run_eq_ok otherOrder hdistinct, ?_⟩
  rw [Greeting.hasErrors_textRoots hname, Greeting.hasErrors_textRoots hname]
  intro hsame
  exact hdiffer (Bool.not_inj hsame.symm)

/-- **The order of declarations does not change the verdict, unless the types are visited differently.** If a batch without faults is given its interfaces in another order, it still has no faults and both have a report. Where the orders in which the two sessions visit the types agree, one of the reports has errors exactly if the other one has. Orders that disagree on types with different names judge some batch differently, even if its interfaces are left as they are. Two orders that leave out no type agree if no type is among its own supertypes. -/
theorem hasErrors_of_perm_iff_ordersAgree (types : List TypeDeclaration) (order otherOrder : List String) :
    (∀ batch permuted, batch.types = types → batch.faults = [] → permuted.Perm batch.interfaces →
      { batch with interfaces := permuted : Batch }.faults = [] ∧
        ∃ report permutedReport, (Session.ofBatchAlong order batch).run = .ok report ∧
          (Session.ofBatchAlong otherOrder { batch with interfaces := permuted }).run = .ok permutedReport ∧
          (Catalog.OrdersAgree types order otherOrder → permutedReport.hasErrors = report.hasErrors)) ∧
    ((types.map (·.name)).Nodup → ¬ Catalog.OrdersAgree types order otherOrder →
      ∃ batch report otherReport, batch.types = types ∧ batch.faults = [] ∧
        (Session.ofBatchAlong order batch).run = .ok report ∧
        (Session.ofBatchAlong otherOrder batch).run = .ok otherReport ∧ otherReport.hasErrors ≠ report.hasErrors) ∧
    (TypeTable.Acyclic (builtinTypes ++ types) → (∀ name ∈ TypeTable.names (builtinTypes ++ types), name ∈ order) →
      (∀ name ∈ TypeTable.names (builtinTypes ++ types), name ∈ otherOrder) →
        Catalog.OrdersAgree types order otherOrder) := by
  refine ⟨fun batch permuted htypes hfaults hperm => ?_, exists_hasErrors_ne, Catalog.ordersAgree_of_acyclic⟩
  subst htypes
  have hsame : batch.SameButOrder { batch with interfaces := permuted } := ⟨rfl, rfl, hperm.symm⟩
  have hbatch := Batch.faults_eq_nil_iff.1 hfaults
  exact ⟨Batch.faults_eq_nil_iff.2 (hsame.wellFormed hbatch), hsame.exists_reports order otherOrder hbatch⟩

def paddedDeclaration (name : String) (idLength : Nat) : InterfaceDeclaration :=
  { name, kind := .bundle, projectCode := "AAA", idLength }

/-- Two interfaces of one project that pad their ids to different lengths. -/
def differentLengths : Batch :=
  { interfaces := [paddedDeclaration "a.First" 4, paddedDeclaration "a.Second" 6] }

def paddedInterface (name : String) (idLength : Nat) : MessageInterface :=
  { name, projectCode := "AAA", kind := .bundle, parents := [], delegated := [], validIdRanges := [], idLength
    methods := [] }

theorem resolve_differentLengths (order : List String) :
    (Model.ofBatchAlong order differentLengths).resolve "a.First" = .ok ⟨paddedInterface "a.First" 4, []⟩ ∧
      (Model.ofBatchAlong order differentLengths).resolve "a.Second" = .ok ⟨paddedInterface "a.Second" 6, []⟩ := by
  have hfirst : (Hierarchy.ofBatch differentLengths).flattenedMethods "a.First" =
      .ok ⟨firstByKey [] (Hierarchy.methodsOf [paddedDeclaration "a.First" 4]), []⟩ :=
    Hierarchy.flattenedMethods_of_root rfl rfl rfl rfl
  have hsecond : (Hierarchy.ofBatch differentLengths).flattenedMethods "a.Second" =
      .ok ⟨firstByKey [] (Hierarchy.methodsOf [paddedDeclaration "a.Second" 6]), []⟩ :=
    Hierarchy.flattenedMethods_of_root rfl rfl rfl rfl
  constructor
  · refine Model.resolve_eq_ok_iff.2 ⟨_, Model.interface_eq_ok_iff.2 ?_, rfl⟩
    exact ⟨_, _, rfl, hfirst, rfl⟩
  · refine Model.resolve_eq_ok_iff.2 ⟨_, Model.interface_eq_ok_iff.2 ?_, rfl⟩
    exact ⟨_, _, rfl, hsecond, rfl⟩

/-- The interface that stands behind the other one is reported, and there are errors in both orders, however the types are visited. -/
theorem hasErrors_of_perm_iff_ordersAgree_differentLengths :
    differentLengths.faults = [] ∧ ∃ report permutedReport,
      (Session.ofBatchAlong (TypeTable.names builtinTypes) differentLengths).run = .ok report ∧
      (Session.ofBatchAlong (TypeTable.names builtinTypes).reverse
        { differentLengths with interfaces := differentLengths.interfaces.reverse }).run = .ok permutedReport ∧
      report.interfaces.map (fun shard => (shard.interface, shard.generationAllowed)) =
        [("a.First", true), ("a.Second", false)] ∧
      permutedReport.interfaces.map (fun shard => (shard.interface, shard.generationAllowed)) =
        [("a.Second", true), ("a.First", false)] ∧
      permutedReport.hasErrors = report.hasErrors := by
  let order := TypeTable.names builtinTypes
  let reversed : Batch := { differentLengths with interfaces := differentLengths.interfaces.reverse }
  obtain ⟨hverdict, _, hacyclic⟩ := hasErrors_of_perm_iff_ordersAgree [] order order.reverse
  have horders : Catalog.OrdersAgree [] order order.reverse :=
    hacyclic acyclic_builtinTypes (fun _ hname => hname) fun _ hname => List.mem_reverse.2 hname
  have hfaults : differentLengths.faults = [] := by cbv
  obtain ⟨hreversedFaults, report, reversedReport, hrun, hreversedRun, hsame⟩ :=
    hverdict differentLengths _ rfl hfaults (List.reverse_perm _)
  have hbatch := Batch.faults_eq_nil_iff.1 hfaults
  have hperm : differentLengths.SameButOrder reversed := ⟨rfl, rfl, (List.reverse_perm _).symm⟩
  have hresolve : (Model.ofBatchAlong order differentLengths).resolve = (Model.ofBatchAlong order.reverse reversed).resolve :=
    funext fun name => (hperm.sameAbove hbatch name).resolve_eq horders
  obtain ⟨hfirst, hsecond⟩ := resolve_differentLengths order
  have hresolved : (Session.ofBatchAlong order differentLengths).interfaceNames.mapM
      (Model.ofBatchAlong order differentLengths).resolve =
        .ok [⟨paddedInterface "a.First" 4, []⟩, ⟨paddedInterface "a.Second" 6, []⟩] :=
    mapM_eq_ok_iff.2 (.cons hfirst (.cons hsecond .nil))
  have hothers : (Session.ofBatchAlong order.reverse reversed).interfaceNames.mapM
      (Model.ofBatchAlong order.reverse reversed).resolve =
        .ok [⟨paddedInterface "a.Second" 6, []⟩, ⟨paddedInterface "a.First" 4, []⟩] := by
    rw [← hresolve]
    exact mapM_eq_ok_iff.2 (.cons hsecond (.cons hfirst .nil))
  have hnames := Batch.namesResolved_of_faults hfaults
  have hreversedNames := Batch.namesResolved_of_faults hreversedFaults
  cases hrun.symm.trans (Session.run_of_mapM_resolve_along order hnames hresolved).2
  cases hreversedRun.symm.trans (Session.run_of_mapM_resolve_along order.reverse hreversedNames hothers).2
  exact ⟨hfaults, _, _, hrun, hreversedRun, by decide +kernel, by decide +kernel, hsame horders⟩

/-- A batch of texts in a circle has an error or none, by where the circle is entered. -/
theorem hasErrors_differ_circledTexts :
    textFirst.Perm labelFirst ∧ (∀ name ∈ TypeTable.names (builtinTypes ++ circledTexts), name ∈ labelFirst) ∧
      (greetingBatch circledTexts {} "a.Text").faults = [] ∧
      ∃ report otherReport,
        (Session.ofBatchAlong labelFirst (greetingBatch circledTexts {} "a.Text")).run = .ok report ∧
        (Session.ofBatchAlong textFirst (greetingBatch circledTexts {} "a.Text")).run = .ok otherReport ∧
        report.hasErrors = true ∧ otherReport.hasErrors = false := by
  have hdistinct : (circledTexts.map (·.name)).Nodup := by decide
  exact ⟨List.reverse_perm _, fun _ hname => hname, Greeting.faults_eq_nil hdistinct, _, _,
    Greeting.run_eq_ok labelFirst hdistinct, Greeting.run_eq_ok textFirst hdistinct,
    Greeting.hasErrors_of_other Catalog.returnType_labelFirst, Greeting.hasErrors_of_string Catalog.returnType_textFirst⟩

end TypedMessages

import TypedMessages.Proofs.Check.Failures
import TypedMessages.Proofs.Report.Sharding

/-!
# Failures in reports

Every failure of a resolution is reported with the method that it is about, and a report with a failure in it does not allow generation.
-/

namespace TypedMessages

/-- Where signatures tell methods apart, what a check says when it comes to a method is what it says about it. -/
theorem Check.filter_run_resolve (context : CheckContext) (h : Hierarchy) {interface : MessageInterface}
    {method : Method} (hdistinct : (interface.methods.map Method.signature).Nodup) {check : Check} (hcheck : check ∈ failureChecks)
    (hmethod : method ∈ interface.methods) :
    (check.run context [h.resolve interface]).filter (·.subject == .method interface.name method.signature) =
      check.reportsOn interface method (h.resolveMethod interface method) := by
  have hsubjects : ((h.resolve interface).methods.map fun pair =>
      Subject.method interface.name pair.1.signature).Nodup := by
    have hsplit : ((h.resolve interface).methods.map fun pair => Subject.method interface.name pair.1.signature) =
        (interface.methods.map Method.signature).map (Subject.method interface.name) := by
      rw [h.methods_resolve, List.map_map, List.map_map]
      rfl
    rw [hsplit]
    exact hdistinct.map fun _ _ hsame => (Subject.method.inj hsame).2
  have howner : ∀ pair ∈ (h.resolve interface).methods, ∀ diagnostic ∈ check.reportsOn interface pair.1 pair.2,
      diagnostic.subject = .method interface.name pair.1.signature :=
    fun pair _ diagnostic hmem => subject_of_mem_reportsOn hmem
  have hown := filter_flatMap_of_owner _ hsubjects howner (h.mem_methods_resolve hmethod)
  rw [run_resolve_eq_flatMap context h interface hcheck]
  exact hown

/-! ### Reports of sessions -/

theorem Outcome.exists_of_mem_distribute {diagnostics : List Diagnostic} {served : List String}
    {outcomes : List Outcome} {outcome : Outcome} (h : outcome ∈ distribute diagnostics served outcomes) :
    ∃ original ∈ outcomes, outcome.resolved = original.resolved ∧
      ∀ diagnostic ∈ original.diagnostics, diagnostic ∈ outcome.diagnostics := by
  fun_induction distribute diagnostics served outcomes with
  | case1 => cases h
  | case2 served first outcomes _ ih =>
    rcases List.mem_cons.1 h with rfl | h
    · exact ⟨outcome, List.mem_cons_self, rfl, fun _ => id⟩
    · obtain ⟨original, hmem, hkept⟩ := ih h
      exact ⟨original, List.mem_cons_of_mem _ hmem, hkept⟩
  | case3 served first outcomes _ own ih =>
    rcases List.mem_cons.1 h with rfl | h
    · exact ⟨first, List.mem_cons_self, rfl, fun _ => List.mem_append_left _⟩
    · obtain ⟨original, hmem, hkept⟩ := ih h
      exact ⟨original, List.mem_cons_of_mem _ hmem, hkept⟩

theorem Session.exists_resolve_of_run {session : Session} {report : BatchReport} (hrun : session.run = .ok report)
    {shard : InterfaceReport} (hshard : shard ∈ report.interfaces) :
    ∃ name resolved, session.model.resolve name = .ok resolved ∧
      shard.descriptors = resolved.resolutions.map (·.descriptor) ∧
      ∀ diagnostic ∈ session.interfaceDiagnostics [resolved], diagnostic ∈ shard.diagnostics := by
  obtain ⟨outcomes, houtcomes, rfl⟩ := map_eq_ok_iff.1 hrun
  rw [Session.processAll_eq_mapM] at houtcomes
  obtain ⟨resolved, hresolved, rfl⟩ := map_eq_ok_iff.1 houtcomes
  obtain ⟨outcome, houtcome, rfl⟩ := List.mem_map.1 hshard
  obtain ⟨original, horiginal, hsame, hkept⟩ := Outcome.exists_of_mem_distribute houtcome
  obtain ⟨r, hr, rfl⟩ := List.mem_map.1 horiginal
  exact ⟨r.interface.name, r, Model.resolve_of_mem hresolved hr, by rw [Outcome.report, hsame]; rfl, hkept⟩

theorem generationAllowed_eq_false_of_not_isValid {batch : Batch} {report : BatchReport}
    (hrun : (Session.ofBatch batch).run = .ok report) {shard : InterfaceReport} (hshard : shard ∈ report.interfaces)
    {descriptor : Descriptor} (hdescriptor : descriptor ∈ shard.descriptors) (hinvalid : descriptor.isValid = false) :
    shard.generationAllowed = false := by
  obtain ⟨name, resolved, hresolve, hdescriptors, hkept⟩ := Session.exists_resolve_of_run hrun hshard
  obtain ⟨interface, _, rfl⟩ := Model.resolve_eq_ok_iff.1 hresolve
  rw [hdescriptors, Hierarchy.resolve, List.map_map] at hdescriptor
  obtain ⟨method, hmethod, rfl⟩ := List.mem_map.1 hdescriptor
  have hfailures : ((Model.ofBatch batch).hierarchy.resolveMethod interface method).failures ≠ [] :=
    fun hnil => absurd (Hierarchy.complete_of_failures_eq_nil hnil).1 (Bool.eq_false_iff.1 hinvalid)
  obtain ⟨check, hcheck, diagnostic, hmem, herror⟩ := Check.exists_error_of_failures_ne_nil hfailures
  have hmentioned : diagnostic ∈
      check.run (Session.ofBatch batch).context [(Model.ofBatch batch).hierarchy.resolve interface] := by
    rw [Check.run_resolve_eq_flatMap _ _ interface hcheck]
    exact List.mem_flatMap.2 ⟨_, Hierarchy.mem_methods_resolve _ hmethod, hmem⟩
  have hscope : check ∈ Check.withScope .interface (Session.ofBatch batch).checks :=
    (by decide : ∀ check ∈ Check.failureChecks, check ∈ Check.withScope .interface Check.pipeline) check hcheck
  have hreported := hkept diagnostic (List.mem_flatMap.2 ⟨check, hscope, hmentioned⟩)
  rw [InterfaceReport.generationAllowed, List.any_eq_true.2 ⟨diagnostic, hreported, herror⟩]
  rfl

/-- **Every failure is reported, and once.** Coming to a method, the checks for failures report at least as many errors as its resolution has failures, and exactly as many if the method has no constructor parameters; these errors are all about the method, and they are all that the checks say about it unless another method has its signature. So a report with a descriptor that is not valid does not allow generation. -/
theorem failures_reported_once (batch : Batch) :
    (∀ name resolved, (Model.ofBatch batch).resolve name = .ok resolved →
      (∀ check ∈ Check.failureChecks, check.run (Session.ofBatch batch).context [resolved] =
        resolved.methods.flatMap fun (method, resolution) => check.reportsOn resolved.interface method resolution) ∧
      ∀ method resolution, (method, resolution) ∈ resolved.methods →
        resolution.failures.length ≤ Check.failureErrors resolved.interface method resolution ∧
        ((∀ parameter ∈ method.parameters, parameter.role ≠ .construction) →
          Check.failureErrors resolved.interface method resolution = resolution.failures.length) ∧
        ∀ check ∈ Check.failureChecks,
          (∀ diagnostic ∈ check.reportsOn resolved.interface method resolution,
            diagnostic.subject = .method resolved.interface.name method.signature) ∧
          ((resolved.interface.methods.map Method.signature).Nodup →
            (check.run (Session.ofBatch batch).context [resolved]).filter
                (·.subject == .method resolved.interface.name method.signature) =
              check.reportsOn resolved.interface method resolution)) ∧
    ∀ report, (Session.ofBatch batch).run = .ok report → ∀ shard ∈ report.interfaces,
      ∀ descriptor ∈ shard.descriptors, descriptor.isValid = false → shard.generationAllowed = false := by
  refine ⟨fun name resolved hresolve => ?_,
    fun report hrun shard hshard descriptor => generationAllowed_eq_false_of_not_isValid hrun hshard⟩
  obtain ⟨interface, _, rfl⟩ := Model.resolve_eq_ok_iff.1 hresolve
  refine ⟨fun check hcheck => Check.run_resolve_eq_flatMap _ _ interface hcheck, fun method resolution hmem => ?_⟩
  rw [Hierarchy.methods_resolve] at hmem
  obtain ⟨method, hmethod, hpair⟩ := List.mem_map.1 hmem
  cases hpair
  exact ⟨Check.length_failures_le_failureErrors _ interface method,
    Check.failureErrors_eq_length_failures _ interface,
    fun check hcheck => ⟨fun _ => Check.subject_of_mem_reportsOn,
      fun hdistinct => Check.filter_run_resolve _ _ hdistinct hcheck hmethod⟩⟩

/-- A method without a message, and one whose id is to be inherited from nowhere. -/
def unanswered : Batch :=
  { interfaces :=
      [{ name := "a.Messages", kind := .bundle,
         methods := [{ name := "lonely" },
                     { name := "orphan", message := some { value := "Orphan", id := .inherited } }] }] }

def unansweredInterface : MessageInterface :=
  { name := "a.Messages", projectCode := "", kind := .bundle, parents := [], delegated := []
    validIdRanges := [], idLength := 0
    methods :=
      [{ declaringInterface := "a.Messages", name := "lonely", parameters := [], returnType := .void
         thrownTypes := [], message := none, logLevel := none, translations := [], formatParameterCount := 0 },
       { declaringInterface := "a.Messages", name := "orphan", parameters := [], returnType := .void
         thrownTypes := [], message := some { text := "Orphan", format := .printf, id := .inherited }
         logLevel := none, translations := [], formatParameterCount := 0 }] }

theorem interface_unanswered : (Model.ofBatch unanswered).interface "a.Messages" = .ok unansweredInterface := by
  have hwalk : (Model.ofBatch unanswered).hierarchy.walk "a.Messages" = ⟨["a.Messages"], []⟩ :=
    Hierarchy.walk_of_root (by decide) (by decide)
  simp only [Model.interface, Hierarchy.closureOf, Hierarchy.flattenedMethods, Hierarchy.closure,
    Hierarchy.delegatedOf, Hierarchy.basesOf, hwalk]
  decide +kernel

theorem failures_reported_once_unanswered :
    ∃ resolved report, (Model.ofBatch unanswered).resolve "a.Messages" = .ok resolved ∧
      (Session.ofBatch unanswered).run = .ok report ∧
      resolved.resolutions.map (·.failures) = [[.missingMessage "lonely" 0], [.missingInheritableId "orphan"]] ∧
      (∀ method resolution, (method, resolution) ∈ resolved.methods →
        Check.failureErrors resolved.interface method resolution = resolution.failures.length) ∧
      ∃ shard ∈ report.interfaces, shard.generationAllowed = false := by
  obtain ⟨honce, hallowed⟩ := failures_reported_once unanswered
  have hresolve := Model.resolve_eq_ok_iff.2 ⟨_, interface_unanswered, rfl⟩
  have hall : (Session.ofBatch unanswered).interfaceNames.mapM (Model.ofBatch unanswered).resolve =
      .ok [(Hierarchy.ofBatch unanswered).resolve unansweredInterface] := by
    have hnames : (Session.ofBatch unanswered).interfaceNames = ["a.Messages"] := by decide
    rw [hnames]
    exact mapM_eq_ok_iff.2 (.cons hresolve .nil)
  have hfaults : unanswered.faults = [] := by cbv
  have hrun := (Session.run_of_mapM_resolve (Batch.namesResolved_of_faults hfaults) hall).2
  refine ⟨_, _, hresolve, hrun, by decide +kernel, fun method resolution hmem => ?_, _, List.mem_singleton_self _, ?_⟩
  · obtain ⟨_, hexact⟩ := honce _ _ hresolve
    obtain ⟨_, hequal, _⟩ := hexact method resolution hmem
    have hmethods : ∀ method ∈ unansweredInterface.methods, method.parameters = [] := by decide
    apply hequal
    intro parameter hparameter
    rw [hmethods method (List.of_mem_zip hmem).1] at hparameter
    cases hparameter
  · exact hallowed _ hrun _ (List.mem_singleton_self _) _ (List.mem_map_of_mem List.mem_cons_self) (by decide +kernel)

end TypedMessages

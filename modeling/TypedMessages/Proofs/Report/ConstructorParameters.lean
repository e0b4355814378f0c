import TypedMessages.Proofs.Report.Slots
import TypedMessages.Proofs.Resolution.Selection
import TypedMessages.Proofs.Types.Collecting

/-!
# Parameters that constructors get

A method with parameters for a constructor is only generated if it returns an exception and has a signature for the call. All of its parameters then reach the exception if the call is made by the signature. It is not made so where the exception has a constructor that goes before, and there none of the parameters does.
-/

namespace TypedMessages

namespace Descriptor

/-- The parameters that are meant for the constructor, in their order. -/
def constructorParameters (descriptor : Descriptor) : List Parameter :=
  descriptor.parameters.filter (·.role == .construction)

def hasCause (descriptor : Descriptor) : Bool :=
  descriptor.parameters.any (·.role == .cause)

end Descriptor

theorem Method.hasCause_eq_any (method : Method) : method.hasCause = method.parameters.any (·.role == .cause) := by
  rw [hasCause, cause?, method.parametersWith_eq_filter (by decide), List.head?_filter, List.isSome_find?]

theorem Check.exists_signature_of_silent {resolved : ResolvedInterface} {method : Method}
    (h : Silent (exceptionConstructors resolved)) (hmethod : method ∈ resolved.interface.methods)
    (hparameters : method.parametersWith .construction ≠ []) :
    ∃ throwable signature, method.returnType.throwable? = some throwable ∧ throwable.signature = some signature := by
  have hsilent := silent_flatMap.1 h method hmethod
  rw [constructionProblems, List.isEmpty_eq_false_iff.2 hparameters] at hsilent
  cases hthrowable : method.returnType.throwable? with
  | none =>
    simp only [hthrowable] at hsilent
    exact absurd hsilent (not_silent_singleton rfl)
  | some throwable =>
    cases hsignature : throwable.signature with
    | none =>
      simp only [hthrowable, hsignature] at hsilent
      exact absurd hsilent (not_silent_singleton rfl)
    | some signature => exact ⟨throwable, signature, rfl, hsignature⟩

theorem construction_of_failures_eq_nil {h : Hierarchy} {interface : MessageInterface} {method : Method}
    {throwable : ThrowableType} (hfailures : (h.resolveMethod interface method).failures = [])
    (hthrowable : method.returnType.throwable? = some throwable) :
    ∃ construction, (h.resolveMethod interface method).descriptor.construction = some construction ∧
      selectConstruction method throwable = .ok construction := by
  rw [Hierarchy.failures_resolveMethod, List.append_eq_nil_iff] at hfailures
  have hconstruction : (h.resolveMethod interface method).descriptor.construction = (resolveConstruction method).1 := rfl
  rw [hconstruction]
  cases hselect : selectConstruction method throwable with
  | ok construction => simp [resolveConstruction, hthrowable, hselect]
  | error failure => simp [resolveConstruction, hthrowable, hselect] at hfailures

/-- **When constructors get their parameters.** In every report of a batch without faults that allows generation, a descriptor with parameters for a constructor is that of an exception with a signature, and it has a construction. If the exception has no constructor that goes before the signature, the construction is the call by the signature, and its arguments hold all of these parameters, each once and in the order of the declaration. If it has one, the construction takes no arguments of the method at all. -/
theorem constructorParameters_passed (batch : Batch) (hfaults : batch.faults = []) :
    ∃ report, (Session.ofBatch batch).run = .ok report ∧
      ∀ shard ∈ report.interfaces, shard.generationAllowed = true →
        ∀ descriptor ∈ shard.descriptors, descriptor.constructorParameters ≠ [] →
          ∃ throwable construction, descriptor.returnType.throwable? = some throwable ∧
            throwable.signature.isSome = true ∧ descriptor.construction = some construction ∧
            (¬ throwable.HasUsualCall descriptor.hasCause →
              ∃ arguments, construction = .custom arguments ∧
                arguments.filter (·.role == .construction) = descriptor.constructorParameters) ∧
            (throwable.HasUsualCall descriptor.hasCause → ∀ arguments, construction ≠ .custom arguments) := by
  obtain ⟨report, hrun, hall⟩ := exists_silent_of_generationAllowed hfaults
  refine ⟨report, hrun, fun shard hshard hallowed descriptor hdescriptor hparameters => ?_⟩
  obtain ⟨declaration, flattened, _, _, hdescriptors, hsilent⟩ := hall shard hshard hallowed
  have hcounts := hsilent .parameterCount (by decide)
  have hconstructors := hsilent .exceptionConstructor (by decide)
  have hresolutions := hsilent .resolution (by decide)
  simp only [Check.run, List.flatMap_singleton] at hcounts hconstructors hresolutions
  rw [hdescriptors, Hierarchy.resolve, List.map_map] at hdescriptor
  obtain ⟨method, hmethod, rfl⟩ := List.mem_map.1 hdescriptor
  have hown : method.parametersWith .construction = method.parameters.filter (·.role == .construction) :=
    method.parametersWith_eq_filter (by decide)
  obtain ⟨throwable, signature, hthrowable, hsignature⟩ :=
    Check.exists_signature_of_silent hconstructors hmethod (hown ▸ hparameters)
  have hfailures := failures_eq_nil_of_silent hcounts hconstructors hresolutions hmethod
  obtain ⟨construction, hconstruction, hselect⟩ := construction_of_failures_eq_nil hfailures hthrowable
  refine ⟨throwable, construction, hthrowable, by rw [hsignature]; rfl, hconstruction, fun husual => ?_, fun husual => ?_⟩
  · obtain ⟨arguments, harguments, hcustom⟩ :=
      eq_custom_of_not_hasUsualCall (method.hasCause_eq_any ▸ husual) hsignature hselect
    have hpassed := filter_customArguments harguments
    exact ⟨arguments, hcustom, hpassed.trans hown⟩
  · exact ne_custom_of_hasUsualCall (method.hasCause_eq_any ▸ husual) hselect

/-! ### A failure with a code -/

def codedFailure (exception : String) : MethodDeclaration :=
  { name := "coded", returnType := exception, message := some { value := "Failed with %s" },
    signature := some { messageIndex := 1, causeIndex := none },
    parameters :=
      [{ name := "code", typeName := "int", param := true }, { name := "detail", typeName := "java.lang.String" }] }

abbrev failureBatch (exception : String) : Batch :=
  stacked [] [codedFailure exception]

theorem constructorParameters_passed_failure :
    (failureBatch "java.io.UncheckedIOException").faults = [] ∧
      ∃ report, (Session.ofBatch (failureBatch "java.io.UncheckedIOException")).run = .ok report ∧
        ∃ shard ∈ report.interfaces, shard.generationAllowed = true ∧
          ∃ descriptor ∈ shard.descriptors, descriptor.constructorParameters.map (·.name) = ["code"] ∧
            ∃ arguments, descriptor.construction = some (.custom arguments) ∧
              arguments.filter (·.role == .construction) = descriptor.constructorParameters := by
  have hfaults : (failureBatch "java.io.UncheckedIOException").faults = [] := Stacked.faults_eq_nil
  obtain ⟨report, hrun, hall⟩ := constructorParameters_passed _ hfaults
  have hmem := Stacked.lowerReport_mem _ _ hrun
  obtain ⟨hallowed, descriptor, hdescriptor, hnames, husual⟩ :
      (Stacked.lowerReport [] [codedFailure "java.io.UncheckedIOException"]).generationAllowed = true ∧
        ∃ descriptor ∈ (Stacked.lowerReport [] [codedFailure "java.io.UncheckedIOException"]).descriptors,
          descriptor.constructorParameters.map (·.name) = ["code"] ∧
            ∀ throwable ∈ descriptor.returnType.throwable?, ¬ throwable.HasUsualCall descriptor.hasCause := by
    simp only [Stacked.lowerReport, Stacked.resolvedUpper, Stacked.resolvedLower, Session.ofBatch,
      Session.ofBatchAlong, Model.ofBatch, Model.ofBatchAlong, Catalog.buildAlong_eq_collectWithin]
    decide +kernel
  have hparameters : descriptor.constructorParameters ≠ [] := fun hnil => by
    rw [hnil] at hnames
    cases hnames
  obtain ⟨throwable, construction, hthrowable, _, hconstruction, hcustom, _⟩ :=
    hall _ hmem hallowed descriptor hdescriptor hparameters
  obtain ⟨arguments, rfl, harguments⟩ := hcustom (husual throwable hthrowable)
  exact ⟨hfaults, report, hrun, _, hmem, hallowed, descriptor, hdescriptor, hnames, arguments, hconstruction, harguments⟩

/-- An exception that takes a message alone is made without the code. -/
theorem constructorParameters_dropped_failure :
    (failureBatch "java.lang.IllegalStateException").faults = [] ∧
      ∃ report, (Session.ofBatch (failureBatch "java.lang.IllegalStateException")).run = .ok report ∧
        ∃ shard ∈ report.interfaces, shard.generationAllowed = true ∧ shard.diagnostics = [] ∧
          ∃ descriptor ∈ shard.descriptors, descriptor.constructorParameters.map (·.name) = ["code"] ∧
            descriptor.construction = some (.message false) := by
  have hfaults : (failureBatch "java.lang.IllegalStateException").faults = [] := Stacked.faults_eq_nil
  obtain ⟨_, _, _, hrun⟩ := Session.run_eq_ok (Batch.namesResolved_of_faults hfaults)
  refine ⟨hfaults, _, hrun, _, Stacked.lowerReport_mem _ _ hrun, ?_⟩
  simp only [Stacked.lowerReport, Stacked.resolvedUpper, Stacked.resolvedLower, Session.ofBatch,
    Session.ofBatchAlong, Model.ofBatch, Model.ofBatchAlong, Catalog.buildAlong_eq_collectWithin]
  decide +kernel

end TypedMessages

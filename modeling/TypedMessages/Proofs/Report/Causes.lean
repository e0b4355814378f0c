import TypedMessages.Proofs.Report.ConstructorParameters

/-!
# Causes that exceptions get

A cause that a method declares is passed to the constructor, or set afterwards where the constructor only takes the message or nothing. A call by a signature does neither unless the signature gives the cause a place, and nothing is reported then.
-/

namespace TypedMessages

/-- The construction gives a cause to the exception, with the constructor call or after it. -/
def Construction.Passes (cause : Parameter) : Construction → Prop
  | messageAndCause | causeAndMessage | causeOnly => True
  | message initCause | default initCause => initCause = true
  | custom arguments => cause ∈ arguments
  | messageAndAbsentCause | absentCauseAndMessage => False

/-! ### The chosen call -/

theorem Method.cause?_eq_some {method : Method} (honce : (method.parametersWith .cause).length ≤ 1) {cause : Parameter}
    (hmem : cause ∈ method.parameters) (hrole : cause.role = .cause) : method.cause? = some cause := by
  have hcause : cause ∈ method.parametersWith .cause := by
    rw [method.parametersWith_eq_filter (by decide)]
    exact List.mem_filter.2 ⟨hmem, beq_iff_eq.2 hrole⟩
  have hone : (method.parametersWith .cause).length = 1 := Nat.le_antisymm honce (List.length_pos_of_mem hcause)
  obtain ⟨only, hlist⟩ := List.length_eq_one_iff.1 hone
  rw [hlist] at hcause
  rw [cause?, hlist, List.mem_singleton.1 hcause, List.head?_cons]

/-- Of the calls that can be chosen for a method with a cause, only one by a signature can leave the cause out. -/
theorem passes_iff {method : Method} {throwable : ThrowableType} {construction : Construction} {cause : Parameter}
    (hcause : method.cause? = some cause) (hselect : selectConstruction method throwable = .ok construction) :
    construction.Passes cause ↔
      throwable.HasUsualCall true ∨
        ∀ signature, throwable.signature = some signature → signature.causeIndex.isSome = true := by
  have hhas : method.hasCause = true := by rw [Method.hasCause, hcause, Option.isSome_some]
  cases selectConstruction_eq_ok_iff.1 hselect with
  | messageAndCause _ hshape => simp [Construction.Passes, ThrowableType.HasUsualCall, hshape]
  | causeAndMessage _ _ hshape => simp [Construction.Passes, ThrowableType.HasUsualCall, hshape]
  | message _ hshape => simp [Construction.Passes, ThrowableType.HasUsualCall, hshape, hhas]
  | causeOnly _ _ hshape => simp [Construction.Passes, ThrowableType.HasUsualCall, hshape]
  | custom husual hsignature harguments =>
    rw [hhas] at husual
    simp [Construction.Passes, cause_mem_customArguments_iff harguments hcause, husual, hsignature]
  | messageAndAbsentCause husual _ hshape => exact absurd (Or.inr ⟨hhas, Or.inl hshape⟩) husual
  | absentCauseAndMessage husual _ _ hshape => exact absurd (Or.inr ⟨hhas, Or.inr (Or.inl hshape)⟩) husual
  | default _ hsignature => simp [Construction.Passes, hhas, hsignature]

/-! ### Reports -/

/-- **When exceptions get their causes.** In every report of a batch without faults that allows generation, a descriptor of an exception with a cause among its parameters has a construction. It gives the exception this cause exactly if the exception has a constructor that goes before a signature, or there is no signature, or the signature gives the cause a place. -/
theorem cause_passed_iff (batch : Batch) (hfaults : batch.faults = []) :
    ∃ report, (Session.ofBatch batch).run = .ok report ∧
      ∀ shard ∈ report.interfaces, shard.generationAllowed = true →
        ∀ descriptor ∈ shard.descriptors, ∀ throwable, descriptor.returnType.throwable? = some throwable →
          ∀ cause ∈ descriptor.parameters, cause.role = .cause →
            ∃ construction, descriptor.construction = some construction ∧
              (construction.Passes cause ↔
                throwable.HasUsualCall true ∨
                  ∀ signature, throwable.signature = some signature → signature.causeIndex.isSome = true) := by
  obtain ⟨report, hrun, hall⟩ := exists_silent_of_generationAllowed hfaults
  refine ⟨report, hrun, fun shard hshard hallowed descriptor hdescriptor throwable hthrowable cause hcause hrole => ?_⟩
  obtain ⟨declaration, flattened, _, _, hdescriptors, hsilent⟩ := hall shard hshard hallowed
  have hcounts := hsilent .parameterCount (by decide)
  have hconstructors := hsilent .exceptionConstructor (by decide)
  have hresolutions := hsilent .resolution (by decide)
  have hcauses := hsilent .cause (by decide)
  simp only [Check.run, List.flatMap_singleton] at hcounts hconstructors hresolutions hcauses
  rw [hdescriptors, Hierarchy.resolve, List.map_map] at hdescriptor
  obtain ⟨method, hmethod, rfl⟩ := List.mem_map.1 hdescriptor
  obtain ⟨construction, hconstruction, hselect⟩ := construction_of_failures_eq_nil
    (failures_eq_nil_of_silent hcounts hconstructors hresolutions hmethod) hthrowable
  have honce := Check.length_causes_of_silent hcauses hmethod
  exact ⟨construction, hconstruction, passes_iff (Method.cause?_eq_some honce hcause hrole) hselect⟩

/-! ### A failure with a reason -/

/-- A failure with a reason, made by a signature that has the message first. Its exception has none of the usual constructors. -/
def reasonedFailure (causeIndex : Option Nat) : MethodDeclaration :=
  { name := "failed", returnType := "a.Failure", message := some { value := "Failed" }
    signature := some { messageIndex := 0, causeIndex }
    parameters := [{ name := "reason", typeName := "java.lang.Exception", cause := true }] }

def reasonedBundle (causeIndex : Option Nat) : InterfaceDeclaration :=
  { name := "a.Messages", kind := .bundle, methods := [reasonedFailure causeIndex] }

def reasonedBatch (causeIndex : Option Nat) : Batch :=
  { types := [⟨"a.Failure", ["java.lang.RuntimeException"], []⟩], interfaces := [reasonedBundle causeIndex] }

namespace Reasoned

variable (causeIndex : Option Nat)

theorem faults_eq_nil : (reasonedBatch causeIndex).faults = [] := by
  cbv

theorem flattenedMethods_messages :
    (Hierarchy.ofBatch (reasonedBatch causeIndex)).flattenedMethods "a.Messages" =
      .ok ⟨[(reasonedBundle causeIndex, reasonedFailure causeIndex)], []⟩ := by
  have hroot : (Hierarchy.ofBatch (reasonedBatch causeIndex)).flattenedMethods "a.Messages" =
      .ok ⟨firstByKey [] (Hierarchy.methodsOf [reasonedBundle causeIndex]), []⟩ :=
    Hierarchy.flattenedMethods_of_root rfl rfl rfl rfl
  exact hroot

def resolved : ResolvedInterface :=
  let model := Model.ofBatch (reasonedBatch causeIndex)
  model.hierarchy.resolve
    (model.assemble (reasonedBundle causeIndex) ⟨[(reasonedBundle causeIndex, reasonedFailure causeIndex)], []⟩)

def shard : InterfaceReport :=
  (Session.ofBatch (reasonedBatch causeIndex)).reportOf [resolved causeIndex] (resolved causeIndex)

theorem run_eq_ok : (Session.ofBatch (reasonedBatch causeIndex)).run = .ok ⟨[shard causeIndex]⟩ := by
  have hresolve : (Model.ofBatch (reasonedBatch causeIndex)).resolve "a.Messages" = .ok (resolved causeIndex) := by
    refine Model.resolve_eq_ok_iff.2 ⟨_, Model.interface_eq_ok_iff.2 ?_, rfl⟩
    exact ⟨reasonedBundle causeIndex, _, rfl, flattenedMethods_messages causeIndex, rfl⟩
  have hnames := Batch.namesResolved_of_faults (faults_eq_nil causeIndex)
  have hall := mapM_eq_ok_iff.2 (.cons hresolve .nil)
  exact (Session.run_of_mapM_resolve hnames hall).2

end Reasoned

theorem cause_passed_iff_reasonedFailure :
    (reasonedBatch (some 1)).faults = [] ∧
      ∃ report, (Session.ofBatch (reasonedBatch (some 1))).run = .ok report ∧
        ∃ shard ∈ report.interfaces, shard.generationAllowed = true ∧
          ∃ descriptor ∈ shard.descriptors, ∃ cause ∈ descriptor.parameters, cause.role = .cause ∧
            ∃ construction, descriptor.construction = some construction ∧ construction.Passes cause := by
  have hfaults := Reasoned.faults_eq_nil (some 1)
  obtain ⟨report, hrun, hall⟩ := cause_passed_iff _ hfaults
  cases (Reasoned.run_eq_ok (some 1)).symm.trans hrun
  obtain ⟨hallowed, descriptor, hdescriptor, hsignature, cause, hcause, hrole⟩ :
      (Reasoned.shard (some 1)).generationAllowed = true ∧
        ∃ descriptor ∈ (Reasoned.shard (some 1)).descriptors,
          descriptor.returnType.throwable?.map (·.signature) = some (some ⟨0, some 1⟩) ∧
            ∃ cause ∈ descriptor.parameters, cause.role = .cause := by
    simp only [Reasoned.shard, Reasoned.resolved, Session.ofBatch, Session.ofBatchAlong, Model.ofBatch,
      Model.ofBatchAlong, Catalog.buildAlong_eq_collectWithin]
    decide +kernel
  obtain ⟨throwable, hthrowable, hplace⟩ := Option.map_eq_some_iff.1 hsignature
  obtain ⟨construction, hconstruction, hpasses⟩ :=
    hall _ (List.mem_singleton_self _) hallowed descriptor hdescriptor throwable hthrowable cause hcause hrole
  have hgiven : ∀ signature, throwable.signature = some signature → signature.causeIndex.isSome = true := by
    intro signature hsome
    cases hplace.symm.trans hsome
    rfl
  exact ⟨hfaults, _, hrun, _, List.mem_singleton_self _, hallowed, descriptor, hdescriptor, cause, hcause, hrole,
    construction, hconstruction, hpasses.2 (Or.inr hgiven)⟩

/-- A signature that gives the cause no place leaves it out, and no check says so. -/
theorem cause_dropped_reasonedFailure :
    (reasonedBatch none).faults = [] ∧
      ∃ report, (Session.ofBatch (reasonedBatch none)).run = .ok report ∧
        ∃ shard ∈ report.interfaces, shard.generationAllowed = true ∧ shard.diagnostics = [] ∧
          ∃ descriptor ∈ shard.descriptors, descriptor.returnType.throwable?.isSome = true ∧
            ∃ cause ∈ descriptor.parameters, cause.role = .cause ∧
              descriptor.construction = some (.custom [Parameter.messageSlot "a.Failure"]) ∧
              ¬ (Construction.custom [Parameter.messageSlot "a.Failure"]).Passes cause := by
  refine ⟨Reasoned.faults_eq_nil none, ⟨[Reasoned.shard none]⟩, Reasoned.run_eq_ok none, Reasoned.shard none,
    List.mem_singleton_self _, ?_⟩
  simp only [Reasoned.shard, Reasoned.resolved, Session.ofBatch, Session.ofBatchAlong, Model.ofBatch,
    Model.ofBatchAlong, Catalog.buildAlong_eq_collectWithin, Construction.Passes]
  decide +kernel

end TypedMessages

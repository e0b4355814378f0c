import TypedMessages.Proofs.Check.Silence
import TypedMessages.Proofs.Resolution.Completeness

/-!
# Checks that report failures

Three checks share the failures of a resolution: a missing message is reported with the numbers of format arguments, an exception without a constructor with the constructors, and every other failure with the resolutions. For a method without constructor parameters each failure makes one error of these checks, and these checks have no others. With constructor parameters the check of constructors may report those instead, but never less than there are failures.
-/

namespace TypedMessages

def ResolutionFailure.isMissingMessage : ResolutionFailure → Bool
  | missingMessage _ _ => true
  | _ => false

/-! ### What the checks say about a method -/

namespace Check

/-- The checks that report the failures of resolutions. -/
def failureChecks : List Check :=
  [parameterCount, exceptionConstructor, resolution]

def reportsOn (interface : MessageInterface) (method : Method) (resolved : Resolution) : Check → List Diagnostic
  | parameterCount =>
    (missingMessage? resolved).toList.map fun failure =>
      .ofMethod interface method (missingMessageProblem interface method failure)
  | exceptionConstructor => (constructionProblems method).map (.ofMethod interface method)
  | resolution =>
    (resolved.failures.filter isLeftToResolutions).map fun failure => .ofMethod interface method (.failure failure)
  | _ => []

theorem severity_missingMessageProblem (interface : MessageInterface) (method : Method) (failure : ResolutionFailure) :
    (missingMessageProblem interface method failure).severity = .error := by
  unfold missingMessageProblem
  cases referenceMethod? (interface.methodsNamed method.name) with
  | none => rfl
  | some reference =>
    by_cases heq : reference.formatParameterCount = method.formatParameterCount
    · simp only [if_pos heq, Problem.severity]
    · simp only [if_neg heq, Problem.severity]

theorem missingMessage?_eq_find? (resolved : Resolution) :
    missingMessage? resolved = resolved.failures.find? (·.isMissingMessage) := rfl

theorem missingMessage?_resolveMethod (h : Hierarchy) (interface : MessageInterface) (method : Method) :
    missingMessage? (h.resolveMethod interface method) =
      if (interface.effectiveMessage? method).isNone then
        some (.missingMessage method.name method.formatParameterCount)
      else none := by
  -- no construction fails for want of a message
  have hconstruction : (resolveConstruction method).2.find? (·.isMissingMessage) = none := by
    rcases resolveConstruction_failures_cases method with hfailures | ⟨_, _, hfailures⟩ | ⟨_, _, hfailures⟩ <;>
      rw [hfailures] <;> rfl
  rw [missingMessage?_eq_find?, Hierarchy.failures_resolveMethod, List.find?_append, hconstruction, Option.or_none]
  unfold Hierarchy.resolveMessage
  cases interface.effectiveMessage? method with
  | none => rfl
  | some message =>
    dsimp only
    split
    · split <;> rfl
    · rfl

section Reports

variable {h : Hierarchy} {interface : MessageInterface} {method : Method}

theorem run_resolve_eq_flatMap (context : CheckContext) (h : Hierarchy) (interface : MessageInterface) {check : Check}
    (hcheck : check ∈ failureChecks) :
    check.run context [h.resolve interface] =
      (h.resolve interface).methods.flatMap fun (method, resolved) => check.reportsOn interface method resolved := by
  simp only [failureChecks, List.mem_cons, List.not_mem_nil, or_false] at hcheck
  rcases hcheck with rfl | rfl | rfl
  · rw [run, List.flatMap_singleton]
    rfl
  · rw [run, List.flatMap_singleton, h.methods_resolve, List.flatMap_map]
    rfl
  · rw [run, List.flatMap_singleton]
    rfl

theorem subject_of_mem_reportsOn {resolved : Resolution} {check : Check} {diagnostic : Diagnostic}
    (hmem : diagnostic ∈ check.reportsOn interface method resolved) :
    diagnostic.subject = .method interface.name method.signature := by
  cases check with
  | parameterCount | exceptionConstructor | resolution =>
    obtain ⟨_, _, rfl⟩ := List.mem_map.1 hmem
    rfl
  | _ => cases hmem

theorem isError_of_mem_resolutionReports {resolved : Resolution} :
    ∀ diagnostic ∈ resolution.reportsOn interface method resolved, diagnostic.isError = true :=
  List.forall_mem_map.2 fun _ _ => rfl

/-- The check of numbers reports what a message fails in, unless that is left to the check of resolutions. -/
theorem errors_parameterCount (h : Hierarchy) (interface : MessageInterface) (method : Method) :
    (parameterCount.reportsOn interface method (h.resolveMethod interface method)).countP Diagnostic.isError =
      (h.resolveMessage interface method).2.countP (!isLeftToResolutions ·) := by
  have herrors : ∀ diagnostic ∈ parameterCount.reportsOn interface method (h.resolveMethod interface method),
      diagnostic.isError = true := by
    refine List.forall_mem_map.2 fun failure _ => ?_
    rw [Diagnostic.isError_ofMethod, severity_missingMessageProblem]
    rfl
  rw [List.countP_eq_length.2 herrors, reportsOn, List.length_map, missingMessage?_resolveMethod]
  unfold Hierarchy.resolveMessage
  cases interface.effectiveMessage? method with
  | none => rfl
  | some message =>
    simp only [Option.isNone_some, Bool.false_eq_true, if_false]
    split
    · split <;> rfl
    · rfl

theorem le_errors_exceptionConstructor (interface : MessageInterface) (method : Method) (resolved : Resolution) :
    (resolveConstruction method).2.countP (!isLeftToResolutions ·) ≤
      (exceptionConstructor.reportsOn interface method resolved).countP Diagnostic.isError := by
  rcases resolveConstruction_failures_cases method with hfailures | ⟨_, _, hfailures⟩ | ⟨_, _, hfailures⟩
  · rw [hfailures]
    exact Nat.zero_le _
  · obtain ⟨throwable, hthrowable, hselect⟩ :=
      selectConstruction_of_mem_failures (hfailures ▸ List.mem_singleton_self _)
    simp only [hfailures, reportsOn, constructionProblems, hthrowable, hselect]
    split <;> exact Nat.le_refl 1
  · rw [hfailures]
    exact Nat.zero_le _

theorem errors_exceptionConstructor (interface : MessageInterface) {method : Method} (resolved : Resolution)
    (hnone : method.parametersWith .construction = []) :
    (exceptionConstructor.reportsOn interface method resolved).countP Diagnostic.isError =
      (resolveConstruction method).2.countP (!isLeftToResolutions ·) := by
  cases hthrowable : method.returnType.throwable? with
  | none =>
    simp only [reportsOn, constructionProblems, resolveConstruction, hthrowable, hnone]
    rfl
  | some throwable =>
    simp only [reportsOn, constructionProblems, resolveConstruction, hthrowable, hnone, List.isEmpty_nil, Bool.not_true,
      Bool.false_and]
    cases hselect : selectConstruction method throwable with
    | ok construction =>
      cases hsets : construction.setsMessage with
      | true => simp only [hsets]; rfl
      | false => simp only [hsets]; rfl
    | error failure => rcases selectConstruction_error_cases hselect with rfl | ⟨reason, rfl⟩ <;> rfl

def failureErrors (interface : MessageInterface) (method : Method) (resolved : Resolution) : Nat :=
  (failureChecks.flatMap (reportsOn interface method resolved)).countP Diagnostic.isError

theorem failureErrors_resolveMethod (h : Hierarchy) (interface : MessageInterface) (method : Method) :
    failureErrors interface method (h.resolveMethod interface method) =
      (h.resolveMessage interface method).2.countP (!isLeftToResolutions ·) +
        (exceptionConstructor.reportsOn interface method (h.resolveMethod interface method)).countP Diagnostic.isError +
        (h.resolveMethod interface method).failures.countP isLeftToResolutions := by
  have hresolutions :
      (resolution.reportsOn interface method (h.resolveMethod interface method)).countP Diagnostic.isError =
        (h.resolveMethod interface method).failures.countP isLeftToResolutions := by
    rw [List.countP_eq_length.2 isError_of_mem_resolutionReports, reportsOn, List.length_map,
      List.countP_eq_length_filter]
  rw [failureErrors, failureChecks, List.flatMap_cons, List.flatMap_cons, List.flatMap_singleton, List.countP_append,
    List.countP_append, errors_parameterCount, hresolutions, Nat.add_assoc]

theorem length_failures_resolveMethod (h : Hierarchy) (interface : MessageInterface) (method : Method) :
    (h.resolveMethod interface method).failures.length =
      (h.resolveMessage interface method).2.countP (!isLeftToResolutions ·) +
        (resolveConstruction method).2.countP (!isLeftToResolutions ·) +
        (h.resolveMethod interface method).failures.countP isLeftToResolutions := by
  rw [List.length_eq_countP_add_countP isLeftToResolutions, Nat.add_comm, Hierarchy.failures_resolveMethod,
    List.countP_append (p := fun failure => ¬ isLeftToResolutions failure = true)]
  simp

theorem length_failures_le_failureErrors (h : Hierarchy) (interface : MessageInterface) (method : Method) :
    (h.resolveMethod interface method).failures.length ≤
      failureErrors interface method (h.resolveMethod interface method) := by
  have hconstructors := le_errors_exceptionConstructor interface method (h.resolveMethod interface method)
  rw [failureErrors_resolveMethod, length_failures_resolveMethod]
  omega

theorem failureErrors_eq_length_failures (h : Hierarchy) (interface : MessageInterface)
    (hroles : ∀ parameter ∈ method.parameters, parameter.role ≠ .construction) :
    failureErrors interface method (h.resolveMethod interface method) =
      (h.resolveMethod interface method).failures.length := by
  have hnone : method.parametersWith .construction = [] := by
    rw [method.parametersWith_eq_filter (by decide), List.filter_eq_nil_iff]
    exact fun parameter hparameter => by simpa using hroles parameter hparameter
  rw [failureErrors_resolveMethod, length_failures_resolveMethod, errors_exceptionConstructor interface _ hnone]

theorem exists_error_of_failures_ne_nil (hfailures : (h.resolveMethod interface method).failures ≠ []) :
    ∃ check ∈ failureChecks, ∃ diagnostic ∈ check.reportsOn interface method (h.resolveMethod interface method),
      diagnostic.isError = true := by
  have hpos := Nat.lt_of_lt_of_le (List.length_pos_iff.2 hfailures) (length_failures_le_failureErrors h interface method)
  obtain ⟨diagnostic, hdiagnostic, herror⟩ := List.countP_pos_iff.1 hpos
  obtain ⟨check, hcheck, hmem⟩ := List.mem_flatMap.1 hdiagnostic
  exact ⟨check, hcheck, diagnostic, hmem, herror⟩

end Reports

end Check

end TypedMessages

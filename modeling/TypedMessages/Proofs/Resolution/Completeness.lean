import TypedMessages.Proofs.Names.Extremes
import TypedMessages.Resolution.Basic

/-!
# Complete descriptors

What a resolution fails in and what its descriptor lacks are two sides of one thing. The message is missing, or its id still to be inherited, only together with a failure that says so, and so is the construction of an exception. A descriptor without failures lacks nothing.
-/

namespace TypedMessages

/-! ### Ids -/

theorem MessageId.declared?_ne_inherited {id declared : MessageId} (h : id.declared? = some declared) :
    declared ≠ .inherited := by
  rintro rfl
  cases id with
  | inherited | unspecified => cases h
  | absent | explicit => simp [MessageId.declared?] at h

namespace Hierarchy

variable {h : Hierarchy} {interface : MessageInterface} {method : Method}

theorem inheritedId?_ne_inherited {id : MessageId} (hid : h.inheritedId? interface method = some id) :
    id ≠ .inherited := by
  obtain ⟨⟨distance, declared⟩, hfirst, rfl⟩ := Option.map_eq_some_iff.1 hid
  obtain ⟨candidate, _, hcandidate⟩ := List.mem_filterMap.1 (mem_of_firstMinBy hfirst)
  simp only [Option.bind_eq_bind, Option.bind_eq_some_iff, Option.pure_def, Option.some.injEq, Prod.mk.injEq]
    at hcandidate
  obtain ⟨_, _, _, hdeclared, _, _, _, rfl⟩ := hcandidate
  exact MessageId.declared?_ne_inherited hdeclared

/-! ### Messages -/

theorem exists_message_of_resolveMessage (hfailures : (h.resolveMessage interface method).2 = []) :
    ∃ message id, interface.effectiveMessage? method = some message ∧
      (h.resolveMessage interface method).1 = some { message with id } ∧
      (message.id ≠ .inherited → id = message.id) ∧
      (message.id = .inherited → h.inheritedId? interface method = some id) := by
  cases heffective : interface.effectiveMessage? method with
  | none => simp [resolveMessage, heffective] at hfailures
  | some message =>
    by_cases hinherited : message.id = .inherited
    · cases hid : h.inheritedId? interface method with
      | none => simp [resolveMessage, heffective, hinherited, hid] at hfailures
      | some id =>
        refine ⟨message, id, rfl, ?_, fun hne => absurd hinherited hne, fun _ => rfl⟩
        simp only [resolveMessage, heffective, if_pos hinherited, hid]
    · refine ⟨message, message.id, rfl, ?_, fun _ => rfl, fun heq => absurd heq hinherited⟩
      simp only [resolveMessage, heffective, if_neg hinherited]

theorem message_of_resolveMessage (hfailures : (h.resolveMessage interface method).2 = []) :
    ∃ message, (h.resolveMessage interface method).1 = some message ∧ message.id ≠ .inherited := by
  obtain ⟨message, id, _, hmessage, hown, hfound⟩ := exists_message_of_resolveMessage hfailures
  refine ⟨_, hmessage, ?_⟩
  by_cases hinherited : message.id = .inherited
  · exact inheritedId?_ne_inherited (hfound hinherited)
  · rw [hown hinherited]
    exact hinherited

end Hierarchy

/-! ### Constructions -/

theorem construction_of_resolveConstruction {method : Method} (hfailures : (resolveConstruction method).2 = []) :
    (resolveConstruction method).1.isSome = method.returnType.throwable?.isSome := by
  cases hthrowable : method.returnType.throwable? with
  | none => simp [resolveConstruction, hthrowable]
  | some throwable =>
    cases hselect : selectConstruction method throwable with
    | ok construction => simp [resolveConstruction, hthrowable, hselect]
    | error failure => simp [resolveConstruction, hthrowable, hselect] at hfailures

theorem selectConstruction_error_cases {method : Method} {throwable : ThrowableType} {failure : ResolutionFailure}
    (h : selectConstruction method throwable = .error failure) :
    failure = .unconstructibleReturnType method.name throwable.name ∨
      ∃ reason, failure = .invalidConstructionSignature method.name reason := by
  unfold selectConstruction at h
  grind

theorem resolveConstruction_failures_cases (method : Method) :
    (resolveConstruction method).2 = [] ∨
      (∃ name returnType, (resolveConstruction method).2 = [.unconstructibleReturnType name returnType]) ∨
      ∃ name reason, (resolveConstruction method).2 = [.invalidConstructionSignature name reason] := by
  unfold resolveConstruction
  split
  · exact .inl rfl
  · split
    · exact .inl rfl
    · next hselect =>
      rcases selectConstruction_error_cases hselect with rfl | ⟨reason, rfl⟩
      · exact .inr (.inl ⟨_, _, rfl⟩)
      · exact .inr (.inr ⟨_, _, rfl⟩)

theorem selectConstruction_of_mem_failures {method : Method} {failure : ResolutionFailure}
    (h : failure ∈ (resolveConstruction method).2) :
    ∃ throwable, method.returnType.throwable? = some throwable ∧
      selectConstruction method throwable = .error failure := by
  unfold resolveConstruction at h
  cases hthrowable : method.returnType.throwable? with
  | none => simp [hthrowable] at h
  | some throwable =>
    refine ⟨throwable, rfl, ?_⟩
    simp only [hthrowable] at h
    split at h
    · cases h
    · next hselect => rw [hselect, List.mem_singleton.1 h]

/-! ### Descriptors -/

namespace Hierarchy

variable {h : Hierarchy} {interface : MessageInterface} {method : Method}

theorem failures_resolveMethod (h : Hierarchy) (interface : MessageInterface) (method : Method) :
    (h.resolveMethod interface method).failures =
      (h.resolveMessage interface method).2 ++ (resolveConstruction method).2 := rfl

/-- A descriptor without failures is valid and complete. -/
theorem complete_of_failures_eq_nil (hfailures : (h.resolveMethod interface method).failures = []) :
    (h.resolveMethod interface method).descriptor.isValid = true ∧
      (∃ message, (h.resolveMethod interface method).descriptor.message = some message ∧ message.id ≠ .inherited) ∧
      (h.resolveMethod interface method).descriptor.construction.isSome = method.returnType.throwable?.isSome := by
  rw [failures_resolveMethod, List.append_eq_nil_iff] at hfailures
  obtain ⟨hmessage, hconstruction⟩ := hfailures
  refine ⟨?_, message_of_resolveMessage hmessage, construction_of_resolveConstruction hconstruction⟩
  show ((h.resolveMessage interface method).2 ++ (resolveConstruction method).2).isEmpty = true
  rw [hmessage, hconstruction]
  rfl

end Hierarchy

end TypedMessages

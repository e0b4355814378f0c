import TypedMessages.Proofs.Resolution.CustomCall

/-!
# The choice of a constructor call

A signature is only looked at if the exception has no constructor that takes the message, or the cause that there is, by itself. What is chosen before and after it is given by one condition for each of the calls.
-/

namespace TypedMessages

/-- The exception has a constructor that is chosen before a signature is looked at: one that takes the message alone, or, for a method with a cause, one that takes the cause. -/
def ThrowableType.HasUsualCall (throwable : ThrowableType) (hasCause : Bool) : Prop :=
  throwable.has .string = true ∨
    (hasCause = true ∧ (throwable.has .stringThrowable = true ∨ throwable.has .throwableString = true ∨
      throwable.has .throwable = true))

instance (throwable : ThrowableType) (hasCause : Bool) : Decidable (throwable.HasUsualCall hasCause) :=
  inferInstanceAs (Decidable (_ ∨ _))

/-- The type has a constructor that takes the message as text, alone or together with a cause. -/
def ThrowableType.TakesMessage (throwable : ThrowableType) : Prop :=
  throwable.has .string = true ∨ throwable.has .stringThrowable = true ∨ throwable.has .throwableString = true

instance (throwable : ThrowableType) : Decidable throwable.TakesMessage :=
  inferInstanceAs (Decidable (_ ∨ _))

/-- The calls that are chosen, each with what has to hold for it. No two of them apply at once. -/
inductive Selects (method : Method) (throwable : ThrowableType) : Construction → Prop
  | messageAndCause (hcause : method.hasCause = true) (hshape : throwable.has .stringThrowable = true) :
    Selects method throwable .messageAndCause
  | causeAndMessage (hcause : method.hasCause = true) (hfirst : throwable.has .stringThrowable = false)
    (hshape : throwable.has .throwableString = true) : Selects method throwable .causeAndMessage
  | message (hfirst : method.hasCause = true →
      throwable.has .stringThrowable = false ∧ throwable.has .throwableString = false)
    (hshape : throwable.has .string = true) : Selects method throwable (.message method.hasCause)
  | causeOnly (hcause : method.hasCause = true) (htakes : ¬ throwable.TakesMessage)
    (hshape : throwable.has .throwable = true) : Selects method throwable .causeOnly
  | custom {signature : ConstructionSignature} {arguments : List Parameter}
    (husual : ¬ throwable.HasUsualCall method.hasCause) (hsignature : throwable.signature = some signature)
    (harguments : customArguments method throwable.name signature = .ok arguments) :
    Selects method throwable (.custom arguments)
  | messageAndAbsentCause (husual : ¬ throwable.HasUsualCall method.hasCause) (hsignature : throwable.signature = none)
    (hshape : throwable.has .stringThrowable = true) : Selects method throwable .messageAndAbsentCause
  | absentCauseAndMessage (husual : ¬ throwable.HasUsualCall method.hasCause) (hsignature : throwable.signature = none)
    (hfirst : throwable.has .stringThrowable = false) (hshape : throwable.has .throwableString = true) :
    Selects method throwable .absentCauseAndMessage
  | default (husual : ¬ throwable.HasUsualCall method.hasCause) (hsignature : throwable.signature = none)
    (htakes : ¬ throwable.TakesMessage) (hshape : throwable.has .default = true) :
    Selects method throwable (.default method.hasCause)

section Choice

variable {method : Method} {throwable : ThrowableType} {construction : Construction}

/-- Without a usual call a signature decides, and only without a signature the constructors that are left. -/
theorem selectConstruction_of_not_hasUsualCall (husual : ¬ throwable.HasUsualCall method.hasCause) :
    selectConstruction method throwable =
      match throwable.signature with
      | some signature =>
        match customArguments method throwable.name signature with
        | .ok arguments => .ok (.custom arguments)
        | .error fault => .error (.invalidConstructionSignature method.name fault.reason)
      | none =>
        if throwable.has .stringThrowable then .ok .messageAndAbsentCause
        else if throwable.has .throwableString then .ok .absentCauseAndMessage
        else if throwable.has .default then .ok (.default method.hasCause)
        else .error (.unconstructibleReturnType method.name throwable.name) := by
  have hmessage : ¬ throwable.has .string = true := fun hshape => husual (Or.inl hshape)
  have hcaused (shape : ConstructorShape)
      (hshape : shape = .stringThrowable ∨ shape = .throwableString ∨ shape = .throwable) :
      ¬ (method.hasCause && throwable.has shape) = true := by
    intro hboth
    obtain ⟨hcause, hhas⟩ := Bool.and_eq_true_iff.1 hboth
    refine husual (Or.inr ⟨hcause, ?_⟩)
    obtain rfl | rfl | rfl := hshape <;> simp [hhas]
  have hmessageAndCause := hcaused .stringThrowable (by decide)
  have hcauseAndMessage := hcaused .throwableString (by decide)
  have hcauseOnly := hcaused .throwable (by decide)
  exact (if_neg hmessageAndCause).trans
    ((if_neg hcauseAndMessage).trans ((if_neg hmessage).trans (if_neg hcauseOnly)))

theorem selectConstruction_of_selects (h : Selects method throwable construction) :
    selectConstruction method throwable = .ok construction := by
  cases h with
  | messageAndCause hcause hshape => simp [selectConstruction, hcause, hshape]
  | causeAndMessage hcause hfirst hshape => simp [selectConstruction, hcause, hfirst, hshape]
  | message hfirst hshape =>
    cases hcause : method.hasCause with
    | false => simp [selectConstruction, hcause, hshape]
    | true => simp [selectConstruction, hcause, hfirst hcause, hshape]
  | causeOnly hcause htakes hshape =>
    simp only [ThrowableType.TakesMessage, not_or, Bool.not_eq_true] at htakes
    simp [selectConstruction, hcause, htakes, hshape]
  | custom husual hsignature harguments =>
    simp [selectConstruction_of_not_hasUsualCall husual, hsignature, harguments]
  | messageAndAbsentCause husual hsignature hshape =>
    simp [selectConstruction_of_not_hasUsualCall husual, hsignature, hshape]
  | absentCauseAndMessage husual hsignature hfirst hshape =>
    simp [selectConstruction_of_not_hasUsualCall husual, hsignature, hfirst, hshape]
  | default husual hsignature htakes hshape =>
    simp only [ThrowableType.TakesMessage, not_or, Bool.not_eq_true] at htakes
    simp [selectConstruction_of_not_hasUsualCall husual, hsignature, htakes, hshape]

theorem selects_of_hasUsualCall (husual : throwable.HasUsualCall method.hasCause)
    (hselect : selectConstruction method throwable = .ok construction) : Selects method throwable construction := by
  unfold selectConstruction at hselect
  simp only [Bool.and_eq_true] at hselect
  split at hselect
  · next hboth =>
    cases hselect
    exact .messageAndCause hboth.1 hboth.2
  next hmessageFirst =>
  have hnotFirst (hcause : method.hasCause = true) : throwable.has .stringThrowable = false :=
    Bool.eq_false_iff.2 fun hshape => hmessageFirst ⟨hcause, hshape⟩
  split at hselect
  · next hboth =>
    cases hselect
    exact .causeAndMessage hboth.1 (hnotFirst hboth.1) hboth.2
  next hcauseFirst =>
  have hnotSecond (hcause : method.hasCause = true) : throwable.has .throwableString = false :=
    Bool.eq_false_iff.2 fun hshape => hcauseFirst ⟨hcause, hshape⟩
  split at hselect
  · next hshape =>
    cases hselect
    exact .message (fun hcause => ⟨hnotFirst hcause, hnotSecond hcause⟩) hshape
  next hmessage =>
  split at hselect
  · next hboth =>
    cases hselect
    refine .causeOnly hboth.1 ?_ hboth.2
    simp [ThrowableType.TakesMessage, hmessage, hnotFirst hboth.1, hnotSecond hboth.1]
  next hcause =>
  exfalso
  obtain hshape | ⟨hcaused, hshape | hshape | hshape⟩ := husual
  · exact hmessage hshape
  · exact hmessageFirst ⟨hcaused, hshape⟩
  · exact hcauseFirst ⟨hcaused, hshape⟩
  · exact hcause ⟨hcaused, hshape⟩

theorem selects_of_not_hasUsualCall (husual : ¬ throwable.HasUsualCall method.hasCause)
    (hselect : selectConstruction method throwable = .ok construction) : Selects method throwable construction := by
  rw [selectConstruction_of_not_hasUsualCall husual] at hselect
  have hmessage : throwable.has .string = false := Bool.eq_false_iff.2 fun hshape => husual (Or.inl hshape)
  split at hselect
  · next hsignature =>
    split at hselect
    · next harguments =>
      cases hselect
      exact .custom husual hsignature harguments
    · cases hselect
  next hsignature =>
  split at hselect
  · next hshape =>
    cases hselect
    exact .messageAndAbsentCause husual hsignature hshape
  next hmessageFirst =>
  split at hselect
  · next hshape =>
    cases hselect
    exact .absentCauseAndMessage husual hsignature (Bool.eq_false_iff.2 hmessageFirst) hshape
  next hcauseFirst =>
  split at hselect
  · next hshape =>
    cases hselect
    exact .default husual hsignature (by simp [ThrowableType.TakesMessage, hmessage, hmessageFirst, hcauseFirst]) hshape
  · cases hselect

theorem selectConstruction_eq_ok_iff :
    selectConstruction method throwable = .ok construction ↔ Selects method throwable construction := by
  refine ⟨fun hselect => ?_, selectConstruction_of_selects⟩
  by_cases husual : throwable.HasUsualCall method.hasCause
  · exact selects_of_hasUsualCall husual hselect
  · exact selects_of_not_hasUsualCall husual hselect

theorem ne_custom_of_hasUsualCall (husual : throwable.HasUsualCall method.hasCause)
    (hselect : selectConstruction method throwable = .ok construction) (arguments : List Parameter) :
    construction ≠ .custom arguments := by
  rintro rfl
  cases selectConstruction_eq_ok_iff.1 hselect with
  | custom hnone => exact hnone husual

theorem eq_custom_of_not_hasUsualCall (husual : ¬ throwable.HasUsualCall method.hasCause)
    {signature : ConstructionSignature} (hsignature : throwable.signature = some signature)
    (hselect : selectConstruction method throwable = .ok construction) :
    ∃ arguments, customArguments method throwable.name signature = .ok arguments ∧ construction = .custom arguments := by
  unfold ThrowableType.HasUsualCall at husual
  cases selectConstruction_eq_ok_iff.1 hselect with
  | custom _ hother harguments =>
    cases hsignature.symm.trans hother
    exact ⟨_, harguments, rfl⟩
  | _ => simp_all

end Choice

end TypedMessages

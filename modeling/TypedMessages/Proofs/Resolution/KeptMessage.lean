import TypedMessages.Proofs.Resolution.Selection

/-!
# When the message reaches the exception

A constructor can take the message alone, together with a cause, or at a place that a signature gives it. Wherever one of these applies the exception gets its message, but for one case: a constructor that takes just the cause of the method comes before the signature.
-/

namespace TypedMessages

/-- The type has a signature by which the method can make a call. -/
def ThrowableType.HasCustomCall (throwable : ThrowableType) (method : Method) : Prop :=
  ∃ signature, throwable.signature = some signature ∧
    ∃ arguments, customArguments method throwable.name signature = .ok arguments

section Choice

variable {method : Method} {throwable : ThrowableType} {construction : Construction}

theorem setsMessage_custom {returnType : String} {signature : ConstructionSignature} {arguments : List Parameter}
    (h : customArguments method returnType signature = .ok arguments) :
    (Construction.custom arguments).setsMessage = true :=
  List.any_eq_true.2 ⟨_, messageSlot_mem_customArguments h, rfl⟩

theorem eq_causeOnly_iff (hselect : selectConstruction method throwable = .ok construction) :
    construction = .causeOnly ↔
      ¬ throwable.TakesMessage ∧ method.hasCause = true ∧ throwable.has .throwable = true := by
  have husual (h : method.hasCause = true ∧ throwable.has .throwable = true) : throwable.HasUsualCall method.hasCause :=
    Or.inr ⟨h.1, Or.inr (Or.inr h.2)⟩
  cases selectConstruction_eq_ok_iff.1 hselect with
  | messageAndCause _ hshape => simp [ThrowableType.TakesMessage, hshape]
  | causeAndMessage _ _ hshape => simp [ThrowableType.TakesMessage, hshape]
  | message _ hshape => simp [ThrowableType.TakesMessage, hshape]
  | causeOnly hcause htakes hshape => simp [hcause, hshape, htakes]
  | _ hnone =>
    constructor
    · exact fun heq => by cases heq
    · exact fun h => absurd (husual h.2) hnone

theorem setsMessage_eq_false_iff (hselect : selectConstruction method throwable = .ok construction) :
    construction.setsMessage = false ↔
      ¬ throwable.TakesMessage ∧ (construction = .causeOnly ∨ ¬ throwable.HasCustomCall method) := by
  cases selectConstruction_eq_ok_iff.1 hselect with
  | messageAndCause _ hshape => simp [Construction.setsMessage, ThrowableType.TakesMessage, hshape]
  | causeAndMessage _ _ hshape => simp [Construction.setsMessage, ThrowableType.TakesMessage, hshape]
  | message _ hshape => simp [Construction.setsMessage, ThrowableType.TakesMessage, hshape]
  | causeOnly _ htakes => simp [Construction.setsMessage, htakes]
  | custom _ hsignature harguments =>
    have hcall : throwable.HasCustomCall method := ⟨_, hsignature, _, harguments⟩
    simp [setsMessage_custom harguments, hcall]
  | messageAndAbsentCause _ _ hshape => simp [Construction.setsMessage, ThrowableType.TakesMessage, hshape]
  | absentCauseAndMessage _ _ _ hshape => simp [Construction.setsMessage, ThrowableType.TakesMessage, hshape]
  | default _ hsignature htakes => simp [Construction.setsMessage, ThrowableType.HasCustomCall, hsignature, htakes]

end Choice

/-- An exception is made without its message exactly if no constructor of its type takes a message and no signature gives a call, or, although one does, the cause alone is passed. That is what happens wherever no constructor takes a message, the method has a cause and a constructor takes it. -/
theorem message_dropped_iff (method : Method) (throwable : ThrowableType) (construction : Construction)
    (hselect : selectConstruction method throwable = .ok construction) :
    (construction.setsMessage = false ↔
      ¬ throwable.TakesMessage ∧ (construction = .causeOnly ∨ ¬ throwable.HasCustomCall method)) ∧
      (construction = .causeOnly ↔
        ¬ throwable.TakesMessage ∧ method.hasCause = true ∧ throwable.has .throwable = true) :=
  ⟨setsMessage_eq_false_iff hselect, eq_causeOnly_iff hselect⟩

def failureType (signature : Option ConstructionSignature) : ThrowableType :=
  { name := "a.Failure", constructors := [.default, .throwable], signature, isChecked := false }

def failingMethod (caused : Bool) : Method :=
  Method.ofDeclaration (Catalog.build [] {}) "a.Messages"
    { name := "failed", returnType := "a.Failure", message := some { value := "Failed" }
      parameters := if caused then [{ name := "reason", typeName := "java.lang.Exception", cause := true }] else [] }

def messageThenCause : ConstructionSignature :=
  { messageIndex := 0, causeIndex := some 1 }

theorem message_dropped_iff_without_cause :
    selectConstruction (failingMethod false) (failureType none) = .ok (.default false) ∧
      ¬ (failureType none).TakesMessage ∧ ¬ (failureType none).HasCustomCall (failingMethod false) := by
  have hselect : selectConstruction (failingMethod false) (failureType none) = .ok (.default false) := by
    decide +kernel
  obtain ⟨htakes, hcustom⟩ := (message_dropped_iff _ _ _ hselect).1.1 rfl
  refine ⟨hselect, htakes, hcustom.resolve_left ?_⟩
  exact Construction.noConfusion

/-- The cause is passed alone, although the signature gives a place to the message as well. -/
theorem message_dropped_beside_signature :
    selectConstruction (failingMethod true) (failureType (some messageThenCause)) = .ok .causeOnly ∧
      Construction.causeOnly.setsMessage = false ∧
      (failureType (some messageThenCause)).HasCustomCall (failingMethod true) := by
  refine ⟨by decide +kernel, rfl, messageThenCause, rfl, ?_⟩
  exact ⟨_, rfl⟩

end TypedMessages

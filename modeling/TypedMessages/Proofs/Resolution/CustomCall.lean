import Mathlib.Data.List.Nodup
import Mathlib.Data.List.Perm.Subperm
import TypedMessages.Proofs.Method.Arguments
import TypedMessages.Resolution.Construction

/-!
# Constructor calls with parameters

A signature fixes the places of the message and of the cause among the arguments of a constructor call, and the parameters for the constructor fill the others in their order. There are exactly as many places as these arguments need, so every parameter gets one.
-/

namespace TypedMessages

/-! ### Places -/

section Places

variable {fixed : Nat → Option Parameter}

/-- The places from `position` on that are left to the parameters. -/
def freePlaces (fixed : Nat → Option Parameter) (count position : Nat) : List Nat :=
  (List.range' position count).filter fun place => (fixed place).isNone

theorem freePlaces_of_fixed {position : Nat} {parameter : Parameter} (hfixed : fixed position = some parameter)
    (count : Nat) : freePlaces fixed (count + 1) position = freePlaces fixed count (position + 1) := by
  rw [freePlaces, List.range'_succ, List.filter_cons_of_neg (by simp [hfixed])]
  rfl

theorem freePlaces_of_free {position : Nat} (hfree : fixed position = none) (count : Nat) :
    freePlaces fixed (count + 1) position = position :: freePlaces fixed count (position + 1) := by
  rw [freePlaces, List.range'_succ, List.filter_cons_of_pos (by simp [hfree])]
  rfl

theorem filter_fillPlaces {keep : Parameter → Bool}
    (hfixed : ∀ place parameter, fixed place = some parameter → keep parameter = false) (count position : Nat)
    {parameters : List Parameter} (hparameters : ∀ parameter ∈ parameters, keep parameter = true) :
    (fillPlaces fixed count position parameters).filter keep =
      parameters.take (freePlaces fixed count position).length := by
  fun_induction fillPlaces fixed count position parameters with
  | case1 position parameters => rfl
  | case2 count position parameter parameters hplace ih =>
    have hdropped : ¬ keep parameter = true := by
      rw [hfixed position parameter hplace]
      exact Bool.false_ne_true
    rw [freePlaces_of_fixed hplace, List.filter_cons_of_neg hdropped, ih hparameters]
  | case3 count position parameter parameters hplace ih =>
    obtain ⟨hfirst, hrest⟩ := List.forall_mem_cons.1 hparameters
    rw [freePlaces_of_free hplace, List.filter_cons_of_pos hfirst, ih hrest, List.length_cons, List.take_succ_cons]
  | case4 count position hplace ih =>
    rw [ih hparameters, List.take_nil, List.take_nil]

theorem length_freePlaces_add_taken (fixed : Nat → Option Parameter) (count position : Nat) :
    (freePlaces fixed count position).length +
      ((List.range' position count).filter fun place => !(fixed place).isNone).length = count := by
  have hsplit := List.length_eq_length_filter_add (l := List.range' position count) fun place => (fixed place).isNone
  rw [List.length_range'] at hsplit
  exact hsplit.symm

theorem le_length_freePlaces {places : List Nat} (hplaces : ∀ place, (fixed place).isSome = true → place ∈ places)
    (count position : Nat) : count ≤ (freePlaces fixed count position).length + places.length := by
  have hsplit := length_freePlaces_add_taken fixed count position
  have htaken : ((List.range' position count).filter fun place => !(fixed place).isNone).length ≤ places.length := by
    refine (List.subperm_of_subset ((List.nodup_range').filter _) fun place hplace => ?_).length_le
    have htaken := (List.mem_filter.1 hplace).2
    exact hplaces place (by simpa using htaken)
  omega

theorem mem_fillPlaces_of_fixed {place : Nat} {parameter : Parameter} (hfixed : fixed place = some parameter)
    {count position : Nat} (parameters : List Parameter) (hle : position ≤ place) (hlt : place < position + count) :
    parameter ∈ fillPlaces fixed count position parameters := by
  fun_induction fillPlaces fixed count position parameters with
  | case1 position parameters => omega
  | case2 count position other parameters hplace ih =>
    obtain rfl | hne := Nat.eq_or_lt_of_le hle
    · rw [Option.some.inj (hfixed.symm.trans hplace)]
      exact List.mem_cons_self
    · exact List.mem_cons_of_mem _ (ih hne (by omega))
  | case3 count position other parameters hplace ih =>
    have hne : position ≠ place := fun heq => by simp [heq, hfixed] at hplace
    exact List.mem_cons_of_mem _ (ih (by omega) (by omega))
  | case4 count position hplace ih =>
    have hne : position ≠ place := fun heq => by simp [heq, hfixed] at hplace
    exact ih (by omega) (by omega)

theorem mem_of_mem_fillPlaces {parameter : Parameter} {count position : Nat} {parameters : List Parameter}
    (h : parameter ∈ fillPlaces fixed count position parameters) :
    (∃ place, fixed place = some parameter) ∨ parameter ∈ parameters := by
  fun_induction fillPlaces fixed count position parameters with
  | case1 position parameters => cases h
  | case2 count position other parameters hplace ih =>
    obtain rfl | hrest := List.mem_cons.1 h
    · exact Or.inl ⟨position, hplace⟩
    · exact ih hrest
  | case3 count position other parameters hplace ih =>
    obtain rfl | hrest := List.mem_cons.1 h
    · exact Or.inr List.mem_cons_self
    · exact (ih hrest).imp_right (List.mem_cons_of_mem _)
  | case4 count position hplace ih => exact ih h

end Places

/-! ### Calls by a signature -/

/-- What a signature puts at a place itself: the cause, or the message. -/
def ConstructionSignature.fixedAt (signature : ConstructionSignature) (returnType : String) (cause? : Option Parameter)
    (position : Nat) : Option Parameter :=
  if signature.causeIndex = some position then cause?
  else if position = signature.messageIndex then some (Parameter.messageSlot returnType)
  else none

/-- The number of arguments of a call with some parameters: the message joins them, and the cause if it has a place. -/
def ConstructionSignature.callLength (signature : ConstructionSignature) (parameters : Nat) : Nat :=
  parameters + 1 + if signature.causeIndex.isSome then 1 else 0

/-- The places that a signature takes itself. -/
def ConstructionSignature.places (signature : ConstructionSignature) : List Nat :=
  signature.messageIndex :: signature.causeIndex.toList

theorem ConstructionSignature.length_places (signature : ConstructionSignature) (parameters : Nat) :
    parameters + signature.places.length = signature.callLength parameters := by
  rw [places, callLength]
  cases signature.causeIndex with
  | none => rfl
  | some index => rfl

section Signature

variable {method : Method} {signature : ConstructionSignature} {returnType : String}

theorem customArguments_eq_ok_iff {arguments : List Parameter} :
    customArguments method returnType signature = .ok arguments ↔
      ∃ cause?,
        signatureCause method signature (signature.callLength (method.parametersWith .construction).length) = .ok cause? ∧
        fillPlaces (signature.fixedAt returnType cause?)
          (signature.callLength (method.parametersWith .construction).length) 0
          (method.parametersWith .construction) = arguments :=
  map_eq_ok_iff

/-- The places of a signature are possible if both are among the arguments and differ, and a place for the cause needs a cause. -/
theorem signatureCause_eq_ok_iff {length : Nat} {cause? : Option Parameter} :
    signatureCause method signature length = .ok cause? ↔
      signature.messageIndex < length ∧
        (∀ index, signature.causeIndex = some index →
          index < length ∧ index ≠ signature.messageIndex ∧ method.cause?.isSome = true) ∧
        cause? = if signature.causeIndex.isSome then method.cause? else none := by
  unfold signatureCause
  cases signature.causeIndex with
  | none => grind
  | some index => cases method.cause? <;> grind

/-- A place for the cause is only given if the method has a cause. -/
theorem cause?_of_signatureCause {length : Nat} {cause? : Option Parameter}
    (h : signatureCause method signature length = .ok cause?) : ∀ cause ∈ cause?, method.cause? = some cause := by
  rw [(signatureCause_eq_ok_iff.1 h).2.2]
  split
  · exact fun cause hcause => hcause
  · exact fun cause hcause => by cases hcause

theorem role_of_cause? {cause : Parameter} (h : method.cause? = some cause) : cause.role = .cause := by
  have hmem := List.mem_of_mem_head? h
  rw [method.parametersWith_eq_filter (by decide)] at hmem
  have hrole := (List.mem_filter.1 hmem).2
  exact beq_iff_eq.1 hrole

theorem role_of_fixedAt {cause? : Option Parameter} (hcause : ∀ cause ∈ cause?, method.cause? = some cause)
    {position : Nat} {parameter : Parameter} (h : signature.fixedAt returnType cause? position = some parameter) :
    parameter.role ≠ .construction := by
  unfold ConstructionSignature.fixedAt at h
  split at h
  · rw [role_of_cause? (hcause parameter h)]
    decide
  · split at h
    · cases h
      exact ParameterRole.noConfusion
    · cases h

theorem fixedAt_messageIndex {cause? : Option Parameter} (hdiffers : signature.causeIndex ≠ some signature.messageIndex) :
    signature.fixedAt returnType cause? signature.messageIndex = some (Parameter.messageSlot returnType) := by
  rw [ConstructionSignature.fixedAt, if_neg hdiffers, if_pos rfl]

theorem fixedAt_causeIndex {cause? : Option Parameter} {index : Nat} (hindex : signature.causeIndex = some index) :
    signature.fixedAt returnType cause? index = cause? := by
  rw [ConstructionSignature.fixedAt, if_pos hindex]

theorem mem_of_isSome_fixedAt {cause? : Option Parameter} {position : Nat}
    (h : (signature.fixedAt returnType cause? position).isSome = true) : position ∈ signature.places := by
  unfold ConstructionSignature.fixedAt at h
  unfold ConstructionSignature.places
  split at h
  · next hcause => simp [hcause]
  · split at h
    · next hmessage => simp [hmessage]
    · cases h

/-- Besides the places of the message and of the cause there is one for each of the parameters. -/
theorem le_length_freePlaces_fixedAt (signature : ConstructionSignature) (returnType : String)
    (cause? : Option Parameter) (parameters position : Nat) :
    parameters ≤
      (freePlaces (signature.fixedAt returnType cause?) (signature.callLength parameters) position).length := by
  have hplaces : signature.callLength parameters ≤
      (freePlaces (signature.fixedAt returnType cause?) (signature.callLength parameters) position).length +
        signature.places.length :=
    le_length_freePlaces (fun _ => mem_of_isSome_fixedAt) _ _
  have hlength := signature.length_places parameters
  omega

/-- A call by a signature passes all parameters for the constructor, each once and in their order. -/
theorem filter_customArguments {arguments : List Parameter}
    (h : customArguments method returnType signature = .ok arguments) :
    arguments.filter (·.role == .construction) = method.parametersWith .construction := by
  obtain ⟨cause?, hcause, rfl⟩ := customArguments_eq_ok_iff.1 h
  have hparameters : ∀ parameter ∈ method.parametersWith .construction, (parameter.role == .construction) = true := by
    rw [method.parametersWith_eq_filter (by decide)]
    exact fun parameter hparameter => (List.mem_filter.1 hparameter).2
  have hfixed : ∀ place parameter, signature.fixedAt returnType cause? place = some parameter →
      (parameter.role == .construction) = false := by
    intro place parameter hplace
    have hrole := role_of_fixedAt (cause?_of_signatureCause hcause) hplace
    exact beq_false_of_ne hrole
  have henough := le_length_freePlaces_fixedAt signature returnType cause? (method.parametersWith .construction).length 0
  rw [filter_fillPlaces hfixed _ _ hparameters]
  exact List.take_of_length_le henough

theorem messageSlot_mem_customArguments {arguments : List Parameter}
    (h : customArguments method returnType signature = .ok arguments) : Parameter.messageSlot returnType ∈ arguments := by
  obtain ⟨cause?, hcause, rfl⟩ := customArguments_eq_ok_iff.1 h
  obtain ⟨hmessage, hindex, -⟩ := signatureCause_eq_ok_iff.1 hcause
  have hfixed : signature.fixedAt returnType cause? signature.messageIndex = some (Parameter.messageSlot returnType) := by
    apply fixedAt_messageIndex
    intro hsame
    obtain ⟨_, hne, _⟩ := hindex _ hsame
    exact hne rfl
  exact mem_fillPlaces_of_fixed hfixed _ (Nat.zero_le _) (by omega)

theorem cause_mem_customArguments_iff {arguments : List Parameter}
    (h : customArguments method returnType signature = .ok arguments) {cause : Parameter}
    (hcause : method.cause? = some cause) : cause ∈ arguments ↔ signature.causeIndex.isSome = true := by
  obtain ⟨cause?, hplaced, rfl⟩ := customArguments_eq_ok_iff.1 h
  obtain ⟨-, hindex, rfl⟩ := signatureCause_eq_ok_iff.1 hplaced
  constructor
  · intro hmem
    by_contra hnone
    have hrole := role_of_cause? hcause
    obtain ⟨place, hfixed⟩ | hparameter := mem_of_mem_fillPlaces hmem
    · unfold ConstructionSignature.fixedAt at hfixed
      grind [Parameter.messageSlot]
    · rw [method.parametersWith_eq_filter (by decide)] at hparameter
      have hconstruction := beq_iff_eq.1 (List.mem_filter.1 hparameter).2
      rw [hconstruction] at hrole
      cases hrole
  · intro hsome
    obtain ⟨index, hcauseIndex⟩ := Option.isSome_iff_exists.1 hsome
    obtain ⟨hinside, _⟩ := hindex index hcauseIndex
    have hfixed : signature.fixedAt returnType (if signature.causeIndex.isSome then method.cause? else none) index =
        some cause := by
      rw [fixedAt_causeIndex hcauseIndex, if_pos hsome, hcause]
    exact mem_fillPlaces_of_fixed hfixed _ (Nat.zero_le index) (by omega)

end Signature

end TypedMessages

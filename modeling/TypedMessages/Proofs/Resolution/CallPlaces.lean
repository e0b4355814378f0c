import TypedMessages.Proofs.Resolution.CustomCall

/-!
# The places of a call

A signature takes one place of a constructor call for the message and, if it says so, one for the cause, and the parameters for the constructor get the others. If the places that it takes are among those of the call and differ, exactly as many are left as there are parameters. So no place stays empty and no parameter is left over: every argument stands at the place that was counted for it, and the arguments besides the message and the cause are the parameters in the order of their declaration.
-/

namespace TypedMessages

/-! ### Filled places -/

section Places

variable {fixed : Nat → Option Parameter} {count position : Nat} {parameters : List Parameter}

theorem length_freePlaces_add_le {places : List Nat} (hdistinct : places.Nodup)
    (hplaces : ∀ place ∈ places, place ∈ List.range' position count ∧ (fixed place).isSome = true) :
    (freePlaces fixed count position).length + places.length ≤ count := by
  have hsplit := length_freePlaces_add_taken fixed count position
  have htaken : places.length ≤ ((List.range' position count).filter fun place => !(fixed place).isNone).length := by
    refine (List.subperm_of_subset hdistinct fun place hplace => ?_).length_le
    obtain ⟨hinside, hfixed⟩ := hplaces place hplace
    have htaken : (!(fixed place).isNone) = true := by simpa using hfixed
    exact List.mem_filter.2 ⟨hinside, htaken⟩
  omega

def FillsAll (fixed : Nat → Option Parameter) (count position : Nat) (parameters : List Parameter) : Prop :=
  (freePlaces fixed count position).length = parameters.length

theorem FillsAll.of_fixed {parameter : Parameter} (hall : FillsAll fixed (count + 1) position parameters)
    (hfixed : fixed position = some parameter) : FillsAll fixed count (position + 1) parameters := by
  rw [FillsAll, freePlaces_of_fixed hfixed] at hall
  exact hall

theorem FillsAll.of_free {parameter : Parameter} (hall : FillsAll fixed (count + 1) position (parameter :: parameters))
    (hfree : fixed position = none) : FillsAll fixed count (position + 1) parameters := by
  rw [FillsAll, freePlaces_of_free hfree] at hall
  exact Nat.succ.inj hall

theorem not_fillsAll_nil (hfree : fixed position = none) : ¬ FillsAll fixed (count + 1) position [] := by
  rw [FillsAll, freePlaces_of_free hfree]
  exact Nat.succ_ne_zero _

theorem length_fillPlaces (hall : FillsAll fixed count position parameters) :
    (fillPlaces fixed count position parameters).length = count := by
  fun_induction fillPlaces fixed count position parameters with
  | case1 position parameters => rfl
  | case2 count position parameter parameters hplace ih => rw [List.length_cons, ih (hall.of_fixed hplace)]
  | case3 count position parameter parameters hplace ih => rw [List.length_cons, ih (hall.of_free hplace)]
  | case4 count position hplace ih => exact absurd hall (not_fillsAll_nil hplace)

/-- What is fixed stands at its place. -/
theorem getElem?_fillPlaces (hall : FillsAll fixed count position parameters) {place : Nat} {parameter : Parameter}
    (hfixed : fixed (position + place) = some parameter) (hlt : place < count) :
    (fillPlaces fixed count position parameters)[place]? = some parameter := by
  fun_induction fillPlaces fixed count position parameters generalizing place with
  | case1 position parameters => omega
  | case2 count position first parameters hplace ih =>
    cases place with
    | zero => rw [List.getElem?_cons_zero, ← hplace, ← hfixed, Nat.add_zero]
    | succ place =>
      rw [List.getElem?_cons_succ]
      exact ih (hall.of_fixed hplace) (by rwa [Nat.add_right_comm]) (by omega)
  | case3 count position first parameters hplace ih =>
    cases place with
    | zero =>
      rw [Nat.add_zero, hplace] at hfixed
      cases hfixed
    | succ place =>
      rw [List.getElem?_cons_succ]
      exact ih (hall.of_free hplace) (by rwa [Nat.add_right_comm]) (by omega)
  | case4 count position hplace ih => exact absurd hall (not_fillsAll_nil hplace)

theorem map_filter_zipIdx_fillPlaces (hall : FillsAll fixed count position parameters) :
    (((fillPlaces fixed count position parameters).zipIdx position).filter
      fun (_, place) => (fixed place).isNone).map Prod.fst = parameters := by
  fun_induction fillPlaces fixed count position parameters with
  | case1 position parameters => exact (List.eq_nil_of_length_eq_zero hall.symm).symm
  | case2 count position parameter parameters hplace ih =>
    rw [List.zipIdx_cons, List.filter_cons_of_neg (by simp [hplace]), ih (hall.of_fixed hplace)]
  | case3 count position parameter parameters hplace ih =>
    rw [List.zipIdx_cons, List.filter_cons_of_pos (by simp [hplace]), List.map_cons, ih (hall.of_free hplace)]
  | case4 count position hplace ih => exact absurd hall (not_fillsAll_nil hplace)

end Places

/-! ### The places of a signature -/

/-- What a list of arguments holds beside some places. -/
def argumentsBeside (places : List Nat) (arguments : List Parameter) : List Parameter :=
  (arguments.zipIdx.filter fun (_, place) => place ∉ places).map Prod.fst

theorem mem_argumentsBeside {places : List Nat} {arguments : List Parameter} {place : Nat} {argument : Parameter}
    (hargument : arguments[place]? = some argument) (hbeside : place ∉ places) :
    argument ∈ argumentsBeside places arguments := by
  have hentry : (argument, place) ∈ arguments.zipIdx := List.mk_mem_zipIdx_iff_getElem?.2 hargument
  have hkept : (argument, place) ∈ arguments.zipIdx.filter fun (_, place) => place ∉ places :=
    List.mem_filter.2 ⟨hentry, by simpa using hbeside⟩
  exact List.mem_map.2 ⟨(argument, place), hkept, rfl⟩

/-- A call by a signature: the message and the first cause at their places, and the parameters for the constructor in the order of their declaration at all others. -/
structure ConstructionSignature.IsCall (signature : ConstructionSignature) (method : Method) (returnType : String)
    (arguments : List Parameter) : Prop where
  length : arguments.length =
    signature.callLength (method.parameters.filter (·.role == .construction)).length
  message : arguments[signature.messageIndex]? = some (Parameter.messageSlot returnType)
  onlyMessage : ∀ place argument, arguments[place]? = some argument → argument.role = .message →
    place = signature.messageIndex
  cause : ∀ index, signature.causeIndex = some index →
    ∃ cause, method.parameters.find? (·.role == .cause) = some cause ∧ arguments[index]? = some cause
  others : argumentsBeside signature.places arguments = method.parameters.filter (·.role == .construction)

section Signature

variable {method : Method} {signature : ConstructionSignature} {returnType : String}

theorem Method.cause?_eq_find? (method : Method) : method.cause? = method.parameters.find? (·.role == .cause) := by
  rw [cause?, method.parametersWith_eq_filter (by decide), List.head?_filter]

theorem Method.isSome_cause?_iff (method : Method) :
    method.cause?.isSome = true ↔ ∃ parameter ∈ method.parameters, parameter.role = .cause := by
  rw [method.cause?_eq_find?, List.find?_isSome]
  simp only [beq_iff_eq]

theorem isSome_of_signatureCause {length : Nat} {cause? : Option Parameter}
    (h : signatureCause method signature length = .ok cause?) (hplace : signature.causeIndex.isSome = true) :
    cause?.isSome = true := by
  obtain ⟨_, hindex, rfl⟩ := signatureCause_eq_ok_iff.1 h
  obtain ⟨index, hcauseIndex⟩ := Option.isSome_iff_exists.1 hplace
  rw [if_pos hplace]
  exact (hindex index hcauseIndex).2.2

theorem isSome_fixedAt_iff {cause? : Option Parameter} (hcause : signature.causeIndex.isSome = true → cause?.isSome = true)
    {place : Nat} : (signature.fixedAt returnType cause? place).isSome = true ↔ place ∈ signature.places := by
  refine ⟨mem_of_isSome_fixedAt, fun hplace => ?_⟩
  by_cases hindex : signature.causeIndex = some place
  · rw [fixedAt_causeIndex hindex]
    exact hcause (by rw [hindex]; rfl)
  · obtain rfl | hother := List.mem_cons.1 hplace
    · rw [fixedAt_messageIndex hindex]
      rfl
    · exact absurd (Option.mem_toList.1 hother) hindex

/-- Where the places of a signature are possible there are as many others as parameters for the constructor. -/
theorem fillsAll_fixedAt {cause? : Option Parameter} (hcause : signatureCause method signature
      (signature.callLength (method.parametersWith .construction).length) = .ok cause?) :
    FillsAll (signature.fixedAt returnType cause?) (signature.callLength (method.parametersWith .construction).length) 0
      (method.parametersWith .construction) := by
  obtain ⟨hmessage, hindex, _⟩ := signatureCause_eq_ok_iff.1 hcause
  have hdistinct : signature.places.Nodup := by
    have hmessageAlone : signature.messageIndex ∉ signature.causeIndex.toList := by
      intro hshared
      obtain ⟨_, hne, _⟩ := hindex _ (Option.mem_toList.1 hshared)
      exact hne rfl
    rw [ConstructionSignature.places, List.nodup_cons]
    refine ⟨hmessageAlone, ?_⟩
    cases signature.causeIndex with
    | none => exact List.nodup_nil
    | some index => exact List.nodup_singleton index
  have hplaces : ∀ place ∈ signature.places,
      place ∈ List.range' 0 (signature.callLength (method.parametersWith .construction).length) ∧
        (signature.fixedAt returnType cause? place).isSome = true := by
    intro place hplace
    refine ⟨?_, (isSome_fixedAt_iff (isSome_of_signatureCause hcause)).2 hplace⟩
    rw [List.mem_range'_1, Nat.zero_add]
    obtain rfl | hother := List.mem_cons.1 hplace
    · exact ⟨Nat.zero_le _, hmessage⟩
    · obtain ⟨hinside, _⟩ := hindex place (Option.mem_toList.1 hother)
      exact ⟨Nat.zero_le _, hinside⟩
  have hatMost := length_freePlaces_add_le hdistinct hplaces
  have hatLeast := le_length_freePlaces_fixedAt signature returnType cause? (method.parametersWith .construction).length 0
  have hlength := signature.length_places (method.parametersWith .construction).length
  rw [FillsAll]
  omega

theorem getElem?_messageIndex {arguments : List Parameter}
    (h : customArguments method returnType signature = .ok arguments) :
    arguments[signature.messageIndex]? = some (Parameter.messageSlot returnType) := by
  obtain ⟨cause?, hcause, rfl⟩ := customArguments_eq_ok_iff.1 h
  obtain ⟨hmessage, hindex, _⟩ := signatureCause_eq_ok_iff.1 hcause
  have hdiffers : signature.causeIndex ≠ some signature.messageIndex := by
    intro hsame
    obtain ⟨_, hne, _⟩ := hindex _ hsame
    exact hne rfl
  refine getElem?_fillPlaces (fillsAll_fixedAt hcause) ?_ hmessage
  rw [Nat.zero_add]
  exact fixedAt_messageIndex hdiffers

theorem getElem?_causeIndex {arguments : List Parameter}
    (h : customArguments method returnType signature = .ok arguments) {index : Nat}
    (hcauseIndex : signature.causeIndex = some index) :
    ∃ cause, method.cause? = some cause ∧ arguments[index]? = some cause := by
  obtain ⟨cause?, hcause, rfl⟩ := customArguments_eq_ok_iff.1 h
  obtain ⟨_, hindex, hplaced⟩ := signatureCause_eq_ok_iff.1 hcause
  obtain ⟨hinside, _, hsome⟩ := hindex index hcauseIndex
  obtain ⟨cause, hfirst⟩ := Option.isSome_iff_exists.1 hsome
  refine ⟨cause, hfirst, getElem?_fillPlaces (fillsAll_fixedAt hcause) ?_ hinside⟩
  rw [Nat.zero_add, fixedAt_causeIndex hcauseIndex, hplaced, hcauseIndex, Option.isSome_some, if_pos rfl, hfirst]

theorem argumentsBeside_places {arguments : List Parameter}
    (h : customArguments method returnType signature = .ok arguments) :
    argumentsBeside signature.places arguments = method.parametersWith .construction := by
  obtain ⟨cause?, hcause, rfl⟩ := customArguments_eq_ok_iff.1 h
  have hall : FillsAll (signature.fixedAt returnType cause?) _ 0 _ := fillsAll_fixedAt hcause
  have hfilled := map_filter_zipIdx_fillPlaces hall
  have hbeside : (fun entry : Parameter × Nat => decide (entry.2 ∉ signature.places)) =
      fun entry => (signature.fixedAt returnType cause? entry.2).isNone := by
    funext entry
    have hfixed : (signature.fixedAt returnType cause? entry.2).isSome = true ↔ entry.2 ∈ signature.places :=
      isSome_fixedAt_iff (isSome_of_signatureCause hcause)
    rw [← Option.not_isSome, Bool.eq_iff_iff, decide_eq_true_iff, Bool.not_eq_true', ← Bool.not_eq_true, hfixed]
  show (List.filter (fun entry : Parameter × Nat => decide (entry.2 ∉ signature.places)) _).map Prod.fst = _
  rw [hbeside]
  exact hfilled

theorem eq_messageIndex_of_role {arguments : List Parameter}
    (h : customArguments method returnType signature = .ok arguments) {place : Nat} {argument : Parameter}
    (hargument : arguments[place]? = some argument) (hrole : argument.role = .message) :
    place = signature.messageIndex := by
  by_contra hne
  by_cases hplace : place ∈ signature.places
  · have hindex := (List.mem_cons.1 hplace).resolve_left hne
    obtain ⟨cause, hcause, hat⟩ := getElem?_causeIndex h (Option.mem_toList.1 hindex)
    have hsame : argument = cause := Option.some.inj (hargument.symm.trans hat)
    rw [hsame, role_of_cause? hcause] at hrole
    cases hrole
  · have hparameter := mem_argumentsBeside hargument hplace
    rw [argumentsBeside_places h, method.parametersWith_eq_filter (by decide), List.mem_filter, hrole] at hparameter
    cases hparameter.2

theorem isCall_of_customArguments {arguments : List Parameter}
    (h : customArguments method returnType signature = .ok arguments) : signature.IsCall method returnType arguments where
  length := by
    obtain ⟨cause?, hcause, rfl⟩ := customArguments_eq_ok_iff.1 h
    rw [length_fillPlaces (fillsAll_fixedAt hcause), method.parametersWith_eq_filter (by decide)]
  message := getElem?_messageIndex h
  onlyMessage _ _ hargument hrole := eq_messageIndex_of_role h hargument hrole
  cause index hindex := by
    rw [← method.cause?_eq_find?]
    exact getElem?_causeIndex h hindex
  others := by rw [argumentsBeside_places h, method.parametersWith_eq_filter (by decide)]

end Signature

/-- **Constructor arguments are placed exactly.** A signature gives a call for a method exactly if the place of the message is among its arguments and the place of the cause, if there is one, is another one of them and the method has a cause. In the call every argument stands at its place, and none is lost or added. -/
theorem customArguments_placed (method : Method) (returnType : String) (signature : ConstructionSignature) :
    ((∃ arguments, customArguments method returnType signature = .ok arguments) ↔
        signature.messageIndex < signature.callLength (method.parameters.filter (·.role == .construction)).length ∧
          ∀ index, signature.causeIndex = some index →
            index < signature.callLength (method.parameters.filter (·.role == .construction)).length ∧
              index ≠ signature.messageIndex ∧ ∃ parameter ∈ method.parameters, parameter.role = .cause) ∧
      ∀ arguments, customArguments method returnType signature = .ok arguments →
        signature.IsCall method returnType arguments := by
  refine ⟨?_, fun arguments => isCall_of_customArguments⟩
  rw [← method.parametersWith_eq_filter (by decide), ← method.isSome_cause?_iff]
  constructor
  · rintro ⟨arguments, harguments⟩
    obtain ⟨cause?, hcause, _⟩ := customArguments_eq_ok_iff.1 harguments
    obtain ⟨hmessage, hindex, _⟩ := signatureCause_eq_ok_iff.1 hcause
    exact ⟨hmessage, hindex⟩
  · rintro ⟨hmessage, hindex⟩
    have hcause := signatureCause_eq_ok_iff.2 ⟨hmessage, hindex, rfl⟩
    exact ⟨_, customArguments_eq_ok_iff.2 ⟨_, hcause, rfl⟩⟩

/-- A method with two parameters for the constructor, a cause between them and another cause behind them. -/
def keyedMethod : Method :=
  Method.ofDeclaration (Catalog.build [] {}) "a.Messages"
    { name := "failed", returnType := "a.Failure", message := some { value := "Failed" }
      parameters :=
        [{ name := "code", typeName := "int", param := true },
         { name := "reason", typeName := "java.lang.Exception", cause := true },
         { name := "key", typeName := "java.lang.String", param := true },
         { name := "other", typeName := "java.lang.Exception", cause := true }] }

theorem customArguments_placed_keyedMethod :
    ∃ arguments, customArguments keyedMethod "a.Failure" { messageIndex := 1, causeIndex := some 3 } = .ok arguments ∧
      arguments.map (·.name) = ["code", "message", "key", "reason"] ∧
      ConstructionSignature.IsCall { messageIndex := 1, causeIndex := some 3 } keyedMethod "a.Failure" arguments := by
  have hplaced := customArguments_placed keyedMethod "a.Failure" { messageIndex := 1, causeIndex := some 3 }
  obtain ⟨arguments, harguments⟩ := hplaced.1.2 (by decide +kernel)
  refine ⟨arguments, harguments, ?_, hplaced.2 arguments harguments⟩
  cases harguments
  decide +kernel

end TypedMessages

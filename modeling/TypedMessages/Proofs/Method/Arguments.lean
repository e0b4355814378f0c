import TypedMessages.Check.Format
import TypedMessages.Proofs.Extension.Closure

/-!
# Complete argument lists

The number of format arguments of a method is what its format parameters supply. When the positions of a method give no diagnostic, every one of these arguments is supplied: without positional parameters because they come one for one, and otherwise because every position is claimed.
-/

namespace TypedMessages

/-- The number of format arguments is the one that the parameters supply. -/
def Method.CountsSlots (method : Method) : Prop :=
  method.formatParameterCount = totalFormatSlots method.parameters

theorem Method.countsSlots_ofDeclaration (catalog : Catalog) (declaring : String) (declaration : MethodDeclaration) :
    (Method.ofDeclaration catalog declaring declaration).CountsSlots := rfl

theorem Method.countsSlots_amongSiblings {methods : List Method} {method : Method} (h : method.CountsSlots) :
    (method.amongSiblings methods).CountsSlots := h

theorem Model.countsSlots_of_mem {model : Model} {name : String} {interface : MessageInterface}
    (h : model.interface name = .ok interface) {method : Method} (hmethod : method ∈ interface.methods) :
    method.CountsSlots := by
  obtain ⟨_, flattened, _, _, rfl⟩ := Model.interface_eq_ok_iff.1 h
  obtain ⟨single, hsingle, rfl⟩ := List.mem_map.1 hmethod
  obtain ⟨⟨declaring, declaration⟩, _, rfl⟩ := List.mem_map.1 hsingle
  exact Method.countsSlots_amongSiblings (Method.countsSlots_ofDeclaration ..)

theorem totalFormatSlots_eq_length_add_countP (parameters : List Parameter) :
    totalFormatSlots parameters =
      ((parameters.filter Parameter.isFormat).flatMap (·.positions)).length +
        (parameters.filter Parameter.isFormat).countP fun parameter => !parameter.isPositional := by
  induction parameters with
  | nil => rfl
  | cons parameter parameters ih =>
    rw [totalFormatSlots, ih, Parameter.formatSlotCount]
    cases hformat : parameter.isFormat with
    | false => simp [hformat]
    | true =>
      cases hpositional : parameter.isPositional with
      | false =>
        have hpositions : parameter.positions = [] := by simpa [Parameter.isPositional] using hpositional
        simp [hformat, hpositional, hpositions]
        omega
      | true =>
        simp [hformat, hpositional]
        omega

theorem ParameterRole.isAnsweredBy_eq_beq {query : ParameterRole} (hquery : query ≠ .any) (role : ParameterRole) :
    query.isAnsweredBy role = (role == query) := by
  cases query with
  | any => exact absurd rfl hquery
  | _ => cases role <;> rfl

theorem Method.parametersWith_eq_filter (method : Method) {role : ParameterRole} (hrole : role ≠ .any) :
    method.parametersWith role = method.parameters.filter (·.role == role) :=
  List.filter_congr fun parameter _ => ParameterRole.isAnsweredBy_eq_beq hrole parameter.role

theorem Method.formatParameters_eq_filter (method : Method) :
    method.formatParameters = method.parameters.filter Parameter.isFormat :=
  method.parametersWith_eq_filter (by decide)

theorem Method.formatParameterCount_eq {method : Method} (hcount : method.CountsSlots) :
    method.formatParameterCount = (method.formatParameters.flatMap (·.positions)).length +
      method.formatParameters.countP fun parameter => !parameter.isPositional := by
  rw [hcount, totalFormatSlots_eq_length_add_countP, method.formatParameters_eq_filter]

theorem Method.formatParameterCount_of_not_positional {method : Method} (hcount : method.CountsSlots)
    (h : method.formatParameters.any Parameter.isPositional = false) :
    method.formatParameterCount = method.formatParameters.length := by
  have hplain : ∀ parameter ∈ method.formatParameters, parameter.isPositional = false := by
    simpa using List.any_eq_false.1 h
  have hnone : method.formatParameters.flatMap (·.positions) = [] :=
    List.flatMap_eq_nil_iff.2 fun parameter hparameter => by simpa [Parameter.isPositional] using hplain parameter hparameter
  rw [formatParameterCount_eq hcount, hnone, List.length_nil, Nat.zero_add]
  exact List.countP_eq_length.2 fun parameter hparameter => by rw [hplain parameter hparameter]; rfl

namespace Check

/-! ### Where claims come from -/

theorem mem_claims_of_addClaim {count position p : Nat} {parameter : Parameter} {claims : Claims}
    (h : p ∈ (addClaim count parameter claims position).map (·.1)) : p ∈ claims.map (·.1) ∨ p = position := by
  unfold addClaim at h
  split at h
  · exact Or.inl h
  · simpa using h

theorem mem_claims_of_claimPositions {count p : Nat} {parameter : Parameter} {claims : Claims} {own positions : List Nat}
    (h : p ∈ (claimPositions count parameter claims own positions).2.map (·.1)) :
    p ∈ claims.map (·.1) ∨ p ∈ positions := by
  induction positions generalizing claims own with
  | nil => exact Or.inl h
  | cons position positions ih =>
    rcases ih h with hclaims | hpositions
    · rcases mem_claims_of_addClaim hclaims with hold | rfl
      · exact Or.inl hold
      · exact Or.inr (List.mem_cons_self ..)
    · exact Or.inr (List.mem_cons_of_mem _ hpositions)

theorem mem_claims_of_parameterPositions {count p : Nat} {claims : Claims} {parameter : Parameter}
    (h : p ∈ (parameterPositions count claims parameter).2.map (·.1)) :
    p ∈ claims.map (·.1) ∨ p ∈ parameter.positions := by
  unfold parameterPositions at h
  split at h
  · exact mem_claims_of_claimPositions h
  · exact Or.inl h

theorem mem_claims_of_allPositions {count p : Nat} {claims : Claims} {parameters : List Parameter}
    (h : p ∈ (allPositions count claims parameters).2.map (·.1)) :
    p ∈ claims.map (·.1) ∨ ∃ parameter ∈ parameters, p ∈ parameter.positions := by
  induction parameters generalizing claims with
  | nil => exact Or.inl h
  | cons parameter parameters ih =>
    rcases ih h with hclaims | ⟨other, hother, hmem⟩
    · rcases mem_claims_of_parameterPositions hclaims with hold | hposition
      · exact Or.inl hold
      · exact Or.inr ⟨parameter, List.mem_cons_self .., hposition⟩
    · exact Or.inr ⟨other, List.mem_cons_of_mem _ hother, hmem⟩

end Check

theorem isSome_lookup_iff {α β : Type} [BEq α] [LawfulBEq α] {list : List (α × β)} {key : α} :
    (list.lookup key).isSome = true ↔ key ∈ list.map (·.1) := by
  rw [List.lookup_isSome_iff, List.mem_map]
  simp only [beq_iff_eq, eq_comm (a := key)]

theorem Method.mem_positionClaims_of_getElem? {parameters : List Parameter} {parameter : Parameter} {position place : Nat}
    (hparameter : parameter ∈ parameters) (hplace : parameter.positions[place]? = some position) :
    (position, ⟨parameter, parameter.transformAt? place⟩) ∈ positionClaims parameters := by
  refine List.mem_flatMap.2 ⟨parameter, hparameter, List.mem_map.2 ⟨(position, place), ?_, rfl⟩⟩
  rw [List.mem_zipIdx_iff_getElem?, hplace]

theorem Method.mem_positionClaims {parameters : List Parameter} {parameter : Parameter} {position : Nat}
    (hparameter : parameter ∈ parameters) (hposition : position ∈ parameter.positions) :
    position ∈ (positionClaims parameters).map (·.1) := by
  obtain ⟨place, hplace⟩ := List.mem_iff_getElem?.1 hposition
  exact List.mem_map.2 ⟨_, mem_positionClaims_of_getElem? hparameter hplace, rfl⟩

/-! ### Every argument is supplied -/

theorem exists_map_some {α : Type} {options : List (Option α)} (h : ∀ option ∈ options, option.isSome = true) :
    ∃ values : List α, options = values.map some := by
  induction options with
  | nil => exact ⟨[], rfl⟩
  | cons option options ih =>
    obtain ⟨value, hvalue⟩ := Option.isSome_iff_exists.1 (h option (List.mem_cons_self ..))
    obtain ⟨values, hvalues⟩ := ih fun other hother => h other (List.mem_cons_of_mem _ hother)
    exact ⟨value :: values, by rw [hvalue, hvalues]; rfl⟩

/-- Positions give no diagnostic if no parameter has a problem with its own, and all arguments are claimed once one parameter has positions. -/
theorem Check.positionDiagnostics_eq_nil_iff {interface : MessageInterface} {method : Method} :
    Check.positionDiagnostics interface method = [] ↔
      (Check.allPositions method.formatParameterCount [] method.formatParameters).1 = [] ∧
        (method.formatParameters.any Parameter.isPositional = true →
          List.range' 1 method.formatParameterCount ⊆
            (Check.allPositions method.formatParameterCount [] method.formatParameters).2.map (·.1)) := by
  have hmissing (claims : Check.Claims) :
      ((List.range method.formatParameterCount).map (· + 1)).filter (fun position => (claims.lookup position).isNone) = [] ↔
        List.range' 1 method.formatParameterCount ⊆ claims.map (·.1) := by
    rw [List.filter_eq_nil_iff, List.range'_eq_map_range, List.subset_def]
    simp only [Nat.add_comm 1, ← isSome_lookup_iff, Bool.not_eq_true, Option.isNone_eq_false_iff]
  rw [← hmissing, Check.positionDiagnostics, List.append_eq_nil_iff, List.map_eq_nil_iff, List.map_eq_nil_iff]
  apply and_congr_right'
  split
  · next hpositional => simp [hpositional]
  · next hplain => simp [hplain]

theorem Check.claimed_of_positionDiagnostics_eq_nil {interface : MessageInterface} {method : Method}
    (h : Check.positionDiagnostics interface method = [])
    (hpositional : method.formatParameters.any Parameter.isPositional = true) :
    List.range' 1 method.formatParameterCount ⊆ method.formatParameters.flatMap (·.positions) := by
  intro position hposition
  have hclaimed := (Check.positionDiagnostics_eq_nil_iff.1 h).2 hpositional hposition
  obtain hold | hlisted := Check.mem_claims_of_allPositions hclaimed
  · cases hold
  · exact List.mem_flatMap.2 hlisted

theorem Method.exists_formatArguments {interface : MessageInterface} {method : Method} (hcount : method.CountsSlots)
    (h : Check.positionDiagnostics interface method = []) :
    ∃ arguments : List FormatArgument, method.formatArguments = arguments.map some := by
  apply exists_map_some
  intro option hoption
  unfold Method.formatArguments at hoption
  dsimp only at hoption
  split at hoption
  · next hpositional =>
    obtain ⟨index, hindex, rfl⟩ := List.mem_map.1 hoption
    have hlt := List.mem_range.1 hindex
    obtain ⟨parameter, hparameter, hposition⟩ := List.mem_flatMap.1
      (Check.claimed_of_positionDiagnostics_eq_nil h hpositional (List.mem_range'_1.2 ⟨Nat.le_add_left 1 index, by omega⟩))
    rw [isSome_lookup_iff]
    exact Method.mem_positionClaims hparameter hposition
  · next hpositional =>
    obtain ⟨index, hindex, rfl⟩ := List.mem_map.1 hoption
    have hlt := List.mem_range.1 hindex
    rw [Method.formatParameterCount_of_not_positional hcount (Bool.not_eq_true _ ▸ hpositional)] at hlt
    rw [List.getElem?_eq_getElem hlt]
    rfl

end TypedMessages

import Mathlib.Data.List.Nodup
import Mathlib.Data.List.Perm.Subperm
import TypedMessages.Proofs.Method.Arguments

/-!
# Positions of parameters

Where parameters have positions, these are all that decides which parameter supplies which argument. The number of arguments is itself the number of positions, with one more for each parameter that has none. So once every argument is claimed there is no room for anything else: every parameter has positions and no position is listed twice. Conversely such positions give no diagnostic.
-/

namespace TypedMessages

namespace Method

/-- No format parameter has positions or transforms. -/
def IsPlain (method : Method) : Prop :=
  ∀ parameter ∈ method.formatParameters, parameter.positions = [] ∧ parameter.transforms = []

/-- The positions of the format parameters are the numbers of the arguments, each listed once. -/
structure ListsPositions (method : Method) : Prop where
  positional : ∀ parameter ∈ method.formatParameters, parameter.positions ≠ []
  perm : (method.formatParameters.flatMap (·.positions)).Perm (List.range' 1 method.formatParameterCount)
  transforms : ∀ parameter ∈ method.formatParameters,
    parameter.transforms = [] ∨ parameter.transforms.length = parameter.positions.length

/-- The format parameter number `index` lists the position at a place of its positions. -/
def Lists (method : Method) (position index place : Nat) (parameter : Parameter) : Prop :=
  method.formatParameters[index]? = some parameter ∧ parameter.positions[place]? = some position

end Method

/-! ### Counting -/

theorem Parameter.isPositional_iff {parameter : Parameter} : parameter.isPositional = true ↔ parameter.positions ≠ [] := by
  simp [Parameter.isPositional]

/-- Once the positions contain all arguments, nothing else is left: there are no parameters without positions, and no position is listed twice. -/
theorem Method.listed_of_claimed {method : Method} (hcount : method.CountsSlots)
    (hclaimed : List.range' 1 method.formatParameterCount ⊆ method.formatParameters.flatMap (·.positions)) :
    (method.formatParameters.flatMap (·.positions)).Perm (List.range' 1 method.formatParameterCount) ∧
      ∀ parameter ∈ method.formatParameters, parameter.positions ≠ [] := by
  have hsubperm := List.subperm_of_subset (List.nodup_range' ..) hclaimed
  have hle := hsubperm.length_le
  have htotal := Method.formatParameterCount_eq hcount
  rw [List.length_range'] at hle
  refine ⟨(hsubperm.perm_of_length_le ?_).symm, ?_⟩
  · rw [List.length_range']
    omega
  · intro parameter hparameter
    have hnone : method.formatParameters.countP (fun parameter => !parameter.isPositional) = 0 := by omega
    simpa [Parameter.isPositional] using List.countP_eq_zero.1 hnone parameter hparameter

theorem eq_of_nodup_flatMap {α β : Type} {f : α → List β} {list : List α} (hnodup : (list.flatMap f).Nodup)
    {i j k l : Nat} {a b : α} {value : β} (hi : list[i]? = some a) (hj : list[j]? = some b)
    (hk : (f a)[k]? = some value) (hl : (f b)[l]? = some value) : i = j ∧ k = l := by
  obtain ⟨heach, hdisjoint⟩ := List.nodup_flatMap.1 hnodup
  obtain ⟨hilt, rfl⟩ := List.getElem?_eq_some_iff.1 hi
  obtain ⟨hjlt, rfl⟩ := List.getElem?_eq_some_iff.1 hj
  have hij : i = j := by
    have hleft : value ∈ f list[i] := List.mem_of_getElem? hk
    have hright : value ∈ f list[j] := List.mem_of_getElem? hl
    by_contra hne
    rcases Nat.lt_or_gt_of_ne hne with hlt | hgt
    · exact List.pairwise_iff_getElem.1 hdisjoint i j hilt hjlt hlt hleft hright
    · exact List.pairwise_iff_getElem.1 hdisjoint j i hjlt hilt hgt hright hleft
  subst hij
  have hown : (f list[i]).Nodup := heach _ (List.getElem_mem hilt)
  obtain ⟨hklt, _⟩ := List.getElem?_eq_some_iff.1 hk
  refine ⟨rfl, (List.getElem?_inj hklt hown).1 ?_⟩
  rw [hk, hl]

namespace Check

/-! ### Claims without problems -/

section Claims

variable {count : Nat} {claims : Claims} {parameter : Parameter} {parameters : List Parameter}

theorem claimPositions_of_nodup {own positions : List Nat} (hown : own ⊆ claims.map (·.1))
    (hnodup : (claims.map (·.1) ++ positions).Nodup) (hrange : ∀ position ∈ positions, position ∈ List.range' 1 count) :
    claimPositions count parameter claims own positions =
      ([], claims ++ positions.map (·, parameter.name)) := by
  induction positions generalizing claims own with
  | nil => simp [claimPositions]
  | cons position positions ih =>
    have hnew : position ∉ claims.map (·.1) := by
      intro hmem
      obtain ⟨_, _, hapart⟩ := List.nodup_append.1 hnodup
      exact hapart _ hmem _ (List.mem_cons_self ..) rfl
    have hunclaimed : claims.lookup position = none := by
      rw [← Option.not_isSome_iff_eq_none, isSome_lookup_iff]
      exact hnew
    have hinside : ¬ (position = 0 ∨ count < position) := by
      have hbounds := List.mem_range'_1.1 (hrange position (List.mem_cons_self ..))
      omega
    have hproblems : positionProblems count claims parameter own position = [] := by
      rw [positionProblems, if_neg fun hmem => hnew (hown hmem), if_neg hinside, hunclaimed]
      rfl
    have hadd : addClaim count parameter claims position = claims ++ [(position, parameter.name)] := by
      rw [addClaim, hunclaimed, if_neg (by simpa using hinside)]
    have hrest : claimPositions count parameter (claims ++ [(position, parameter.name)]) (position :: own) positions =
        ([], claims ++ [(position, parameter.name)] ++ positions.map (·, parameter.name)) := by
      apply ih
      · rw [List.map_append]
        exact List.cons_subset.2 ⟨List.mem_append_right _ (List.mem_cons_self ..),
          fun other hother => List.mem_append_left _ (hown hother)⟩
      · simpa using hnodup
      · exact fun other hother => hrange other (List.mem_cons_of_mem _ hother)
    rw [claimPositions, hproblems, hadd, hrest]
    simp

theorem parameterPositions_of_nodup (hpositional : parameter.positions ≠ [])
    (htransforms : parameter.transforms = [] ∨ parameter.transforms.length = parameter.positions.length)
    (hnodup : (claims.map (·.1) ++ parameter.positions).Nodup)
    (hrange : ∀ position ∈ parameter.positions, position ∈ List.range' 1 count) :
    parameterPositions count claims parameter = ([], claims ++ parameter.positions.map (·, parameter.name)) := by
  have hmatch : (!parameter.transforms.isEmpty && parameter.transforms.length != parameter.positions.length) = false := by
    rcases htransforms with hnone | hlength
    · simp [hnone]
    · simp [hlength]
  rw [parameterPositions, if_pos (Parameter.isPositional_iff.2 hpositional),
    claimPositions_of_nodup (List.nil_subset _) hnodup hrange]
  simp [hmatch]

/-- Format parameters that list positions within the arguments, none twice, claim them all without a problem. -/
theorem allPositions_of_nodup (hpositional : ∀ parameter ∈ parameters, parameter.positions ≠ [])
    (htransforms : ∀ parameter ∈ parameters,
      parameter.transforms = [] ∨ parameter.transforms.length = parameter.positions.length)
    (hnodup : (claims.map (·.1) ++ parameters.flatMap (·.positions)).Nodup)
    (hrange : ∀ position ∈ parameters.flatMap (·.positions), position ∈ List.range' 1 count) :
    allPositions count claims parameters =
      ([], claims ++ parameters.flatMap fun parameter => parameter.positions.map (·, parameter.name)) := by
  induction parameters generalizing claims with
  | nil => simp [allPositions]
  | cons parameter parameters ih =>
    rw [List.flatMap_cons, ← List.append_assoc] at hnodup
    have hfirst : parameterPositions count claims parameter =
        ([], claims ++ parameter.positions.map (·, parameter.name)) := by
      apply parameterPositions_of_nodup
      · exact hpositional _ (List.mem_cons_self ..)
      · exact htransforms _ (List.mem_cons_self ..)
      · exact (List.nodup_append.1 hnodup).1
      · exact fun position hposition => hrange position (List.mem_append_left _ hposition)
    have hrest : allPositions count (claims ++ parameter.positions.map (·, parameter.name)) parameters =
        ([], claims ++ parameter.positions.map (·, parameter.name) ++
          parameters.flatMap fun other => other.positions.map (·, other.name)) := by
      apply ih
      · exact fun other hother => hpositional other (List.mem_cons_of_mem _ hother)
      · exact fun other hother => htransforms other (List.mem_cons_of_mem _ hother)
      · simpa [Function.comp_def] using hnodup
      · exact fun position hposition => hrange position (List.mem_append_right _ hposition)
    rw [allPositions, hfirst]
    simp [hrest]

theorem allPositions_of_plain
    (hplain : ∀ parameter ∈ parameters, parameter.positions = [] ∧ parameter.transforms = []) :
    allPositions count claims parameters = ([], claims) := by
  induction parameters with
  | nil => rfl
  | cons parameter parameters ih =>
    obtain ⟨⟨hpositions, htransforms⟩, hrest⟩ := List.forall_mem_cons.1 hplain
    simp [allPositions, parameterPositions, Parameter.isPositional, hpositions, htransforms, ih hrest]

theorem allPositions_cons : allPositions count claims (parameter :: parameters) =
    ((parameterPositions count claims parameter).1.map (parameter, ·) ++
        (allPositions count (parameterPositions count claims parameter).2 parameters).1,
      (allPositions count (parameterPositions count claims parameter).2 parameters).2) := rfl

theorem transforms_of_parameterPositions (h : (parameterPositions count claims parameter).1 = []) :
    parameter.transforms = [] ∨ parameter.transforms.length = parameter.positions.length := by
  by_contra hneither
  obtain ⟨hsome, hlength⟩ := not_or.1 hneither
  unfold parameterPositions at h
  split at h
  · simp [hsome, hlength] at h
  · simp [hsome] at h

theorem transforms_of_allPositions (h : (allPositions count claims parameters).1 = []) :
    ∀ parameter ∈ parameters,
      parameter.transforms = [] ∨ parameter.transforms.length = parameter.positions.length := by
  induction parameters generalizing claims with
  | nil => simp
  | cons parameter parameters ih =>
    rw [allPositions_cons, List.append_eq_nil_iff, List.map_eq_nil_iff] at h
    obtain ⟨hfirst, hrest⟩ := h
    exact List.forall_mem_cons.2 ⟨transforms_of_parameterPositions hfirst, ih hrest⟩

end Claims

end Check

/-! ### Methods without diagnostics -/

section Complete

variable {interface : MessageInterface} {method : Method}

theorem Method.IsPlain.any_isPositional (h : method.IsPlain) :
    method.formatParameters.any Parameter.isPositional = false := by
  rw [List.any_eq_false]
  intro parameter hparameter
  simp [Parameter.isPositional, (h parameter hparameter).1]

theorem Method.ListsPositions.nodup (h : method.ListsPositions) :
    (method.formatParameters.flatMap (·.positions)).Nodup :=
  h.perm.nodup_iff.2 (List.nodup_range' ..)

theorem Method.IsPlain.positionDiagnostics_eq_nil (h : method.IsPlain) :
    Check.positionDiagnostics interface method = [] := by
  rw [Check.positionDiagnostics_eq_nil_iff, Check.allPositions_of_plain h, h.any_isPositional]
  simp

theorem Method.ListsPositions.positionDiagnostics_eq_nil (h : method.ListsPositions) :
    Check.positionDiagnostics interface method = [] := by
  have hall : Check.allPositions method.formatParameterCount [] method.formatParameters =
      ([], [] ++ method.formatParameters.flatMap fun parameter => parameter.positions.map (·, parameter.name)) :=
    Check.allPositions_of_nodup h.positional h.transforms h.nodup fun position hposition => h.perm.subset hposition
  rw [Check.positionDiagnostics_eq_nil_iff, hall]
  refine ⟨rfl, fun _ position hposition => ?_⟩
  simpa [List.map_flatMap, Function.comp_def] using h.perm.symm.subset hposition

theorem Method.isPlain_or_listsPositions (hcount : method.CountsSlots)
    (h : Check.positionDiagnostics interface method = []) : method.IsPlain ∨ method.ListsPositions := by
  have htransforms := Check.transforms_of_allPositions (Check.positionDiagnostics_eq_nil_iff.1 h).1
  cases hpositional : method.formatParameters.any Parameter.isPositional with
  | false =>
    refine Or.inl fun parameter hparameter => ?_
    have hpositions : parameter.positions = [] := by
      simpa [Parameter.isPositional] using List.any_eq_false.1 hpositional parameter hparameter
    refine ⟨hpositions, ?_⟩
    simpa [hpositions] using htransforms parameter hparameter
  | true =>
    have hclaimed := Check.claimed_of_positionDiagnostics_eq_nil h hpositional
    obtain ⟨hperm, hall⟩ := method.listed_of_claimed hcount hclaimed
    exact Or.inr ⟨hall, hperm, htransforms⟩

/-! ### The arguments that positions choose -/

theorem lookup_eq_some_of_mem {α β : Type} [BEq α] [LawfulBEq α] {list : List (α × β)}
    (hnodup : (list.map (·.1)).Nodup) {key : α} {value : β} (hmem : (key, value) ∈ list) :
    list.lookup key = some value := by
  obtain ⟨before, after, rfl⟩ := List.append_of_mem hmem
  refine List.lookup_eq_some_iff.2 ⟨before, after, rfl, fun pair hpair => ?_⟩
  rw [List.map_append, List.nodup_append] at hnodup
  obtain ⟨_, _, hapart⟩ := hnodup
  have hne : pair.1 ≠ key := hapart _ (List.mem_map_of_mem hpair) key (List.mem_cons_self ..)
  rw [bne_iff_ne]
  exact hne.symm

theorem Method.map_fst_positionClaims (parameters : List Parameter) :
    (positionClaims parameters).map (·.1) = parameters.flatMap (·.positions) := by
  rw [positionClaims, List.map_flatMap]
  congr 1
  funext parameter
  rw [List.map_map]
  exact List.zipIdx_map_fst 0 parameter.positions

theorem Parameter.transformAt?_eq {parameter : Parameter}
    (h : parameter.transforms = [] ∨ parameter.transforms.length = parameter.positions.length) (place : Nat) :
    parameter.transformAt? place = parameter.transforms[place]? := by
  unfold transformAt?
  split
  · rfl
  · next hlength =>
    rw [h.resolve_right hlength]
    rfl

theorem Method.length_formatArguments (method : Method) :
    method.formatArguments.length = method.formatParameterCount := by
  unfold formatArguments
  dsimp only
  split <;> simp

theorem Method.getElem?_formatArguments (hpositional : method.formatParameters.any Parameter.isPositional = true)
    {index : Nat} (hindex : index < method.formatParameterCount) :
    method.formatArguments[index]? = some ((positionClaims method.formatParameters).lookup (index + 1)) := by
  rw [formatArguments, if_pos hpositional, List.getElem?_map, List.getElem?_range hindex]
  rfl

theorem Method.IsPlain.formatArguments_eq (hcount : method.CountsSlots) (h : method.IsPlain) :
    method.formatArguments = method.formatParameters.map fun parameter => some ⟨parameter, none⟩ := by
  have hnone : ¬ method.formatParameters.any Parameter.isPositional = true := by
    rw [h.any_isPositional]
    exact Bool.false_ne_true
  rw [formatArguments, if_neg hnone, Method.formatParameterCount_of_not_positional hcount h.any_isPositional]
  apply List.ext_getElem
  · simp
  · intro index hleft hright
    simp

theorem Method.ListsPositions.getElem?_formatArguments (h : method.ListsPositions) {position index place : Nat}
    {parameter : Parameter} (hlists : method.Lists position index place parameter) :
    method.formatArguments[position - 1]? = some (some ⟨parameter, parameter.transforms[place]?⟩) := by
  have hparameter := List.mem_of_getElem? hlists.1
  have hposition := List.mem_of_getElem? hlists.2
  have hlisted : position ∈ method.formatParameters.flatMap (·.positions) :=
    List.mem_flatMap.2 ⟨parameter, hparameter, hposition⟩
  have hrange := List.mem_range'_1.1 (h.perm.subset hlisted)
  have hany : method.formatParameters.any Parameter.isPositional = true :=
    List.any_eq_true.2 ⟨parameter, hparameter, Parameter.isPositional_iff.2 (h.positional parameter hparameter)⟩
  rw [Method.getElem?_formatArguments hany (by omega), Nat.sub_add_cancel hrange.1,
    ← Parameter.transformAt?_eq (h.transforms parameter hparameter)]
  congr 1
  apply lookup_eq_some_of_mem
  · rw [map_fst_positionClaims]
    exact h.nodup
  · exact mem_positionClaims_of_getElem? hparameter hlists.2

end Complete

/-- The positions of a method give no diagnostic exactly if the format parameters have neither positions nor transforms, or all have positions which together are the numbers of the arguments, each once, and their transforms come one for each position. Then no argument is missing, so leaving out missing ones moves none to another place. Without positions the arguments are the parameters as they come. Where there are positions, each argument comes from the one parameter that lists its number, with the transform at the place where it does. -/
theorem formatArguments_complete (catalog : Catalog) (declaring : String) (declaration : MethodDeclaration)
    (interface : MessageInterface) :
    let method := Method.ofDeclaration catalog declaring declaration
    (Check.positionDiagnostics interface method = [] ↔ method.IsPlain ∨ method.ListsPositions) ∧
      (Check.positionDiagnostics interface method = [] →
        method.formatArguments.length = method.formatParameterCount ∧
        (∀ argument ∈ method.formatArguments, argument.isSome = true) ∧
        (method.formatArguments.filterMap id).map some = method.formatArguments ∧
        (method.IsPlain → method.formatArguments = method.formatParameters.map fun parameter => some ⟨parameter, none⟩) ∧
        (method.ListsPositions → ∀ position ∈ List.range' 1 method.formatParameterCount,
          ∃ index place parameter, method.Lists position index place parameter ∧
            (∀ otherIndex otherPlace other, method.Lists position otherIndex otherPlace other →
              otherIndex = index ∧ otherPlace = place ∧ other = parameter) ∧
            method.formatArguments[position - 1]? = some (some ⟨parameter, parameter.transforms[place]?⟩))) := by
  intro method
  have hcount : method.CountsSlots := Method.countsSlots_ofDeclaration ..
  refine ⟨⟨Method.isPlain_or_listsPositions hcount, ?_⟩, fun hnone =>
    ⟨method.length_formatArguments, ?_, ?_, Method.IsPlain.formatArguments_eq hcount, ?_⟩⟩
  · intro h
    exact h.elim Method.IsPlain.positionDiagnostics_eq_nil Method.ListsPositions.positionDiagnostics_eq_nil
  · obtain ⟨arguments, harguments⟩ := Method.exists_formatArguments hcount hnone
    simp [harguments]
  · obtain ⟨arguments, harguments⟩ := Method.exists_formatArguments hcount hnone
    simp [harguments]
  · intro hlists position hposition
    have hlisted := hlists.perm.symm.subset hposition
    obtain ⟨parameter, hparameter, hmem⟩ := List.mem_flatMap.1 hlisted
    obtain ⟨index, hindex⟩ := List.mem_iff_getElem?.1 hparameter
    obtain ⟨place, hplace⟩ := List.mem_iff_getElem?.1 hmem
    refine ⟨index, place, parameter, ⟨hindex, hplace⟩, fun otherIndex otherPlace other hother => ?_,
      hlists.getElem?_formatArguments ⟨hindex, hplace⟩⟩
    obtain ⟨rfl, hsame⟩ := eq_of_nodup_flatMap hlists.nodup hother.1 hindex hother.2 hplace
    have hparameters : some other = some parameter := hother.1.symm.trans hindex
    exact ⟨rfl, hsame, Option.some.inj hparameters⟩

/-- A list shown by its class and, before that, its size, around a text. The two parameters share a name. -/
def movedList : MethodDeclaration :=
  { name := "moved"
    parameters :=
      [{ name := "part", typeName := "java.util.List", positions := [3, 1], transforms := [.getClass, .size] },
        { name := "part", typeName := "java.lang.String", positions := [2] }] }

def movedBundle : InterfaceDeclaration :=
  { name := "a.Bundle", kind := .bundle, methods := [movedList] }

theorem formatArguments_complete_movedList :
    let model := Model.ofBatch { interfaces := [movedBundle] }
    let method := Method.ofDeclaration model.catalog "a.Bundle" movedList
    Check.positionDiagnostics (model.assemble movedBundle ⟨[(movedBundle, movedList)], []⟩) method = [] ∧
      method.ListsPositions ∧
      (method.formatArguments.filterMap id).map some = method.formatArguments ∧
      ∃ parameter, method.Lists 3 0 0 parameter ∧
        method.formatArguments[2]? = some (some ⟨parameter, some .getClass⟩) := by
  intro model method
  have hnone : Check.positionDiagnostics (model.assemble movedBundle ⟨[(movedBundle, movedList)], []⟩) method = [] := by
    decide +kernel
  obtain ⟨hiff, hcomplete⟩ := formatArguments_complete model.catalog "a.Bundle" movedList
    (model.assemble movedBundle ⟨[(movedBundle, movedList)], []⟩)
  have hlists : method.ListsPositions := by
    refine (hiff.1 hnone).resolve_left fun hplain => ?_
    exact absurd (hplain _ List.mem_cons_self).1 (List.cons_ne_nil _ _)
  obtain ⟨_, _, hkept, _, hargument⟩ := hcomplete hnone
  obtain ⟨index, place, parameter, hthird, honly, hget⟩ := hargument hlists 3 (by decide)
  -- The class is at the first place of the first parameter.
  obtain ⟨rfl, rfl, rfl⟩ := honly 0 0 _ ⟨rfl, rfl⟩
  exact ⟨hnone, hlists, hkept, _, hthird, hget⟩

end TypedMessages

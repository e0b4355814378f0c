import Mathlib.Data.Finset.Card
import Mathlib.Data.Finset.Dedup
import Mathlib.Data.Finset.SDiff
import TypedMessages.Proofs.Check.Comparison
import TypedMessages.Proofs.Report.Sharding

/-!
# Ids that are used once

Two checks look for ids that methods share. One compares the methods of one interface, inherited ones included, and reports every method whose id stands at an earlier one; the other compares the methods that interfaces of one project declare, and reports those whose id another interface was the first to use. The second one says nothing of repetitions within an interface, but a repetition that it passes over is one that the first reports. So if neither has anything to report, no two methods that are declared for a project have the same id.
-/

namespace TypedMessages

/-! ### Counting clashes -/

/-- Of the elements of a list, those are no clashes whose keys are met for the first time. -/
theorem length_clashes_add_card {α κ : Type} [DecidableEq κ] (key : α → κ) (seen list : List α) :
    (clashes (fun left right => key left == key right) seen list).length +
      ((list.map key).toFinset \ (seen.map key).toFinset).card = list.length := by
  induction list generalizing seen with
  | nil => simp [clashes]
  | cons a rest ih =>
    have hrest := ih (seen ++ [a])
    rw [List.map_append, List.map_singleton, List.toFinset_append, List.toFinset_cons, List.toFinset_nil,
      insert_empty_eq] at hrest
    rw [clashes, List.map_cons, List.toFinset_cons, List.length_cons]
    cases hfind : seen.find? fun b => key a == key b with
    | some first =>
      -- The key has been met, so it adds to the clashes and not to the new keys.
      have hlike := List.find?_some hfind
      have hkey : key a ∈ (seen.map key).toFinset := by
        rw [List.mem_toFinset, beq_iff_eq.1 hlike]
        exact List.mem_map_of_mem (List.mem_of_find?_eq_some hfind)
      rw [Finset.union_eq_left.2 (Finset.singleton_subset_iff.2 hkey)] at hrest
      rw [Finset.insert_sdiff_of_mem _ hkey, List.length_cons]
      omega
    | none =>
      -- The key is met for the first time, and the rest of the list counts it no more.
      have hkey : key a ∉ (seen.map key).toFinset := by
        rw [List.mem_toFinset, List.mem_map]
        rintro ⟨b, hb, heq⟩
        exact List.find?_eq_none.1 hfind b hb (beq_iff_eq.2 heq.symm)
      have hnew : insert (key a) ((rest.map key).toFinset \ (seen.map key).toFinset) =
          insert (key a) ((rest.map key).toFinset \ ((seen.map key).toFinset ∪ {key a})) := by
        ext k
        by_cases hk : k = key a <;> simp [hk]
      rw [Finset.insert_sdiff_of_notMem _ hkey, hnew, Finset.card_insert_of_notMem (by simp)]
      dsimp only
      omega

/-! ### Ids of an interface -/

def MessageInterface.ownIds (interface : MessageInterface) : List Nat :=
  interface.methods.filterMap Method.explicitId?

/-- The ids that the methods give as numbers that the interface declares itself. -/
def MessageInterface.declaredIds (interface : MessageInterface) : List Nat :=
  interface.declaredMethods.filterMap Method.explicitId?

namespace Check

theorem map_fst_explicitIds (methods : List Method) :
    (explicitIds methods).map (·.1) = methods.filterMap Method.explicitId? := by
  simp [explicitIds, List.map_filterMap, Function.comp_def]

theorem length_messageIds_add_card (resolved : ResolvedInterface) :
    (messageIds resolved).length + resolved.interface.ownIds.toFinset.card = resolved.interface.ownIds.length := by
  have hcount := length_clashes_add_card (·.1) [] (explicitIds resolved.interface.methods)
  rw [List.map_nil, List.toFinset_nil, Finset.sdiff_empty] at hcount
  rw [MessageInterface.ownIds, messageIds, List.length_map, ← map_fst_explicitIds, List.length_map]
  exact hcount

theorem nodup_ownIds_of_messageIds {resolved : ResolvedInterface} (hnone : messageIds resolved = []) :
    resolved.interface.ownIds.Nodup := by
  have hclashes := (clashes_eq_nil_iff.1 (List.map_eq_nil_iff.1 hnone)).2
  rw [MessageInterface.ownIds, ← map_fst_explicitIds, List.Nodup, List.pairwise_map]
  exact hclashes.imp fun hunlike heq => by simp [sameId, heq] at hunlike

theorem declaredIds_sublist_ownIds (interface : MessageInterface) : interface.declaredIds.Sublist interface.ownIds :=
  List.filter_sublist.filterMap _

/-! ### Ids of a project -/

theorem idsApart_iff {left right : MessageInterface} :
    IdsApart left right ↔ (sharesProject left right = true → left.name ≠ right.name →
      List.Disjoint left.declaredIds right.declaredIds) := by
  simp only [IdsApart, MessageInterface.declaredIds, ← map_fst_explicitIds, List.Disjoint, List.mem_map]
  refine imp_congr_right fun _ => imp_congr_right fun _ => ?_
  constructor
  · rintro hne id ⟨use, huse, rfl⟩ ⟨other, hother, heq⟩
    exact hne use huse other hother heq.symm
  · intro hdisjoint use huse other hother heq
    exact hdisjoint ⟨use, huse, rfl⟩ ⟨other, hother, heq.symm⟩

/-- Something is reported exactly if two interfaces of one project declare methods with the same id. -/
theorem projectIds_ne_nil_iff {batch : List ResolvedInterface} :
    projectIds batch ≠ [] ↔ ∃ left ∈ batch, ∃ right ∈ batch,
      sharesProject left.interface right.interface = true ∧ left.interface.name ≠ right.interface.name ∧
        ∃ id ∈ left.interface.declaredIds, id ∈ right.interface.declaredIds := by
  rw [ne_eq, projectIds_eq_nil_iff, pairwise_interfaces_iff IdsApart.self fun _ _ => IdsApart.symm]
  constructor
  · intro hshared
    by_contra hnone
    refine hshared fun left hleft right hright => idsApart_iff.2 fun hshares hname id hid hother => ?_
    exact hnone ⟨left, hleft, right, hright, hshares, hname, id, hid, hother⟩
  · rintro ⟨left, hleft, right, hright, hshares, hname, id, hid, hother⟩ hapart
    exact idsApart_iff.1 (hapart left hleft right hright) hshares hname hid hother

theorem nodup_declaredIds_of_eq_nil {batch : List ResolvedInterface} (hdistinct : (batch.map (·.interface.name)).Nodup)
    (hown : batch.flatMap messageIds = []) (hproject : projectIds batch = []) {code : String} (hcode : code ≠ "") :
    ((batch.filter (·.interface.projectCode == code)).flatMap (·.interface.declaredIds)).Nodup := by
  rw [projectIds_eq_nil_iff, List.pairwise_map] at hproject
  rw [List.Nodup, List.pairwise_map] at hdistinct
  refine List.nodup_flatMap.2 ⟨fun resolved hresolved => ?_, ?_⟩
  · have hnone := List.flatMap_eq_nil_iff.1 hown resolved (List.mem_filter.1 hresolved).1
    exact (nodup_ownIds_of_messageIds hnone).sublist (declaredIds_sublist_ownIds _)
  · -- Interfaces of one project have different names, so the other check has compared them.
    rw [List.pairwise_filter]
    refine (hproject.and hdistinct).imp fun {left right} ⟨hapart, hname⟩ hleft hright => ?_
    rw [beq_iff_eq] at hleft hright
    have hcode : left.interface.projectCode.isEmpty = false := by simpa [hleft] using hcode
    have hshares := sharesProject_iff.2 ⟨hcode, hleft.trans hright.symm⟩
    exact idsApart_iff.1 hapart hshares hname

/-- **No id is used twice where nothing is reported.** Of the methods of an interface, as many are reported as have ids beyond the distinct ones. For a project something is reported exactly if two of its interfaces declare methods with the same id, and what is reported are the declared methods with ids that another interface, in the order of the batch, is the first to use. If there are no reports of either kind, the ids of all methods that are declared for a project are distinct. -/
theorem ids_distinct_of_silent (context : CheckContext) (batch : List ResolvedInterface)
    (hdistinct : (batch.map (·.interface.name)).Nodup) :
    (∀ resolved ∈ batch, ((messageId.run context batch).filter (·.owner == resolved.interface.name)).length +
      resolved.interface.ownIds.toFinset.card = resolved.interface.ownIds.length) ∧
    (projectId.run context batch ≠ [] ↔ ∃ left ∈ batch, ∃ right ∈ batch,
      sharesProject left.interface right.interface = true ∧ left.interface.name ≠ right.interface.name ∧
        ∃ id ∈ left.interface.declaredIds, id ∈ right.interface.declaredIds) ∧
    (projectId.run context batch = (idUses (batch.map (·.interface))).filterMap fun use =>
      (((idUses (batch.map (·.interface))).find? use.isSame).filter (·.interface.name != use.interface.name)).map
        fun first => Diagnostic.ofMethod use.interface use.method
          (.idTaken use.interface.projectCode use.id first.interface.name first.method.signature)) ∧
    (∀ diagnostic ∈ messageId.run context batch ++ projectId.run context batch, diagnostic.isError = true) ∧
    (messageId.run context batch = [] → projectId.run context batch = [] → ∀ code, code ≠ "" →
      ((batch.filter (·.interface.projectCode == code)).flatMap (·.interface.declaredIds)).Nodup) := by
  refine ⟨fun resolved hresolved => ?_, projectIds_ne_nil_iff, projectIds_eq_filterMap batch, fun diagnostic hmem => ?_,
    fun hown hproject code hcode => nodup_declaredIds_of_eq_nil hdistinct hown hproject hcode⟩
  · have hown : (messageId.run context batch).filter (·.owner == resolved.interface.name) = messageIds resolved :=
      filter_flatMap_of_owner (fun r : ResolvedInterface => r.interface.name) hdistinct
        (fun other _ => messageIds_allAbout other) hresolved
    rw [hown, length_messageIds_add_card]
  · rcases List.mem_append.1 hmem with hmem | hmem
    · obtain ⟨_, _, hmem⟩ := List.mem_flatMap.1 hmem
      obtain ⟨_, _, rfl⟩ := List.mem_map.1 hmem
      rfl
    · exact isError_of_mem_run (show projectId.scope = .batch from rfl) hmem

def numbered (name projectCode : String) (validIdRanges : List IdRange) (ids : List Nat) : ResolvedInterface :=
  (Hierarchy.ofBatch {}).resolve
    { name, projectCode, kind := .bundle, parents := [], delegated := [], validIdRanges, idLength := 0
      methods := ids.map fun id => Method.ofDeclaration (Catalog.build [] {}) name
        { name := "told", returnType := "java.lang.String", message := some { value := "Told", id := .explicit id } } }

/-- An id twice in one interface of a project, and that of a later one as well. -/
def sharedIds : List ResolvedInterface :=
  [numbered "a.First" "APP" [] [1, 1], numbered "a.Second" "APP" [] [2, 1]]

def separateIds : List ResolvedInterface :=
  [numbered "a.First" "APP" [] [1, 2], numbered "a.Second" "LIB" [] [1], numbered "a.Third" "APP" [] [3]]

theorem ids_distinct_of_silent_sharedIds :
    let context : CheckContext := { catalog := Catalog.build [] {}, options := {} }
    ((messageId.run context sharedIds).filter (·.owner == "a.First")).length = 1 ∧ projectId.run context sharedIds ≠ [] ∧
      messageId.run context separateIds = [] ∧ projectId.run context separateIds = [] ∧
      ((separateIds.filter (·.interface.projectCode == "APP")).flatMap (·.interface.declaredIds)).Nodup := by
  intro context
  obtain ⟨hcounts, hshared, _⟩ := ids_distinct_of_silent context sharedIds (by decide +kernel)
  obtain ⟨_, _, _, _, hdistinct⟩ := ids_distinct_of_silent context separateIds (by decide +kernel)
  have hown : messageId.run context separateIds = [] := by decide +kernel
  have hproject : projectId.run context separateIds = [] := by decide +kernel
  have hcount := hcounts (numbered "a.First" "APP" [] [1, 1]) List.mem_cons_self
  refine ⟨?_, hshared.2 ?_, hown, hproject, hdistinct hown hproject "APP" (by decide)⟩
  · have hids : (numbered "a.First" "APP" [] [1, 1]).interface.ownIds = [1, 1] := by decide +kernel
    rw [hids] at hcount
    exact Nat.succ.inj hcount
  · decide +kernel

end Check

end TypedMessages

import Mathlib.Data.List.Find
import TypedMessages.Proofs.Check.Silence

/-!
# Checks that compare interfaces

The checks of batch scope go through the interfaces once and compare each with what they keep of those before it: every range of ids, but only the first length and the first use of an id in a project. Still they find nothing exactly if no interface is wrong by itself and no two of them are in conflict. So whether they find anything does not depend on the order of the interfaces, although it depends on it where they find it.
-/

namespace TypedMessages

theorem IdRange.overlaps_comm (left right : IdRange) : left.overlaps right = right.overlaps left :=
  Bool.and_comm ..

namespace Check

/-- Interfaces whose ids have one project code. -/
def sharesProject (left right : MessageInterface) : Bool :=
  !left.projectCode.isEmpty && left.projectCode == right.projectCode

theorem sharesProject_iff {left right : MessageInterface} :
    sharesProject left right = true ↔ left.projectCode.isEmpty = false ∧ left.projectCode = right.projectCode := by
  simp [sharesProject]

theorem sharesProject_comm (left right : MessageInterface) : sharesProject left right = sharesProject right left := by
  rw [Bool.eq_iff_iff, sharesProject_iff, sharesProject_iff]
  constructor
  · rintro ⟨hcode, heq⟩
    exact ⟨heq ▸ hcode, heq.symm⟩
  · rintro ⟨hcode, heq⟩
    exact ⟨heq ▸ hcode, heq.symm⟩

theorem sharesProject_trans (left middle right : MessageInterface) (h : sharesProject left middle = true)
    (h' : sharesProject middle right = true) : sharesProject left right = true := by
  obtain ⟨hcode, hleft⟩ := sharesProject_iff.1 h
  obtain ⟨_, hright⟩ := sharesProject_iff.1 h'
  exact sharesProject_iff.2 ⟨hcode, hleft.trans hright⟩

/-- What holds of an interface with itself and either way round holds of all pairs of a batch if it holds of each with those behind it. -/
theorem pairwise_interfaces_iff {relation : MessageInterface → MessageInterface → Prop}
    (hself : ∀ interface, relation interface interface)
    (hsymm : ∀ left right, relation left right → relation right left) {batch : List ResolvedInterface} :
    (batch.map (·.interface)).Pairwise relation ↔
      ∀ left ∈ batch, ∀ right ∈ batch, relation left.interface right.interface := by
  have hsymmetric : Std.Symm relation := ⟨hsymm⟩
  constructor
  · intro hpairs left hleft right hright
    have hinterface : left.interface ∈ batch.map (·.interface) := List.mem_map_of_mem hleft
    have hother : right.interface ∈ batch.map (·.interface) := List.mem_map_of_mem hright
    exact hpairs.forall_of_forall (fun _ _ => hself _) hinterface hother
  · intro hall
    exact List.pairwise_map.2 (List.pairwise_of_forall_mem_list hall)

/-! ### Ranges of ids -/

/-- The ranges of the interface are no empty ones, and its ids are inside them. -/
def RangesHold (interface : MessageInterface) : Prop :=
  (∀ range ∈ interface.validIdRanges, range.min ≤ range.max) ∧ idsOutsideRanges interface = []

/-- The claim is no other interface's of the project, or overlaps no range of the interface. -/
def ClaimKept (claim : RangeClaim) (interface : MessageInterface) : Prop :=
  sharesProject claim.1 interface = true → claim.1.name ≠ interface.name →
    ∀ range ∈ wellFormedRanges interface, claim.2.overlaps range = false

def RangesApart (left right : MessageInterface) : Prop :=
  ∀ range ∈ wellFormedRanges left, ClaimKept (left, range) right

theorem RangesApart.symm {left right : MessageInterface} (h : RangesApart left right) : RangesApart right left := by
  intro range hrange hshares hname other hother
  rw [sharesProject_comm] at hshares
  rw [IdRange.overlaps_comm]
  exact h other hother hshares hname.symm range hrange

theorem RangesApart.self (interface : MessageInterface) : RangesApart interface interface :=
  fun _ _ _ hname => absurd rfl hname

theorem overlappedClaims_eq_filter (claimed : List RangeClaim) (interface : MessageInterface) (range : IdRange) :
    overlappedClaims claimed interface range = claimed.filter fun claim =>
      claim.1.name != interface.name && sharesProject claim.1 interface && claim.2.overlaps range := by
  unfold overlappedClaims
  split
  · next hcode =>
    refine (List.filter_eq_nil_iff.2 fun claim _ => ?_).symm
    by_cases heq : claim.1.projectCode = interface.projectCode <;> simp [sharesProject, heq, hcode]
  · next hcode =>
    refine List.filter_congr fun claim _ => ?_
    by_cases heq : claim.1.projectCode = interface.projectCode
    · simp [sharesProject, heq, hcode]
    · simp [sharesProject, beq_eq_false_iff_ne.2 heq]

theorem overlappedClaims_eq_nil_iff {claimed : List RangeClaim} {interface : MessageInterface} {range : IdRange} :
    overlappedClaims claimed interface range = [] ↔
      ∀ claim ∈ claimed, sharesProject claim.1 interface = true → claim.1.name ≠ interface.name →
        claim.2.overlaps range = false := by
  simp only [overlappedClaims_eq_filter, List.filter_eq_nil_iff, Bool.and_eq_true, bne_iff_ne, not_and,
    Bool.not_eq_true, and_imp]
  exact forall₂_congr fun _ _ => imp.swap

theorem rangeProblems_eq_nil_iff {claimed : List RangeClaim} {interface : MessageInterface} {range : IdRange} :
    rangeProblems claimed interface range = [] ↔
      range.min ≤ range.max ∧ overlappedClaims claimed interface range = [] := by
  unfold rangeProblems
  split
  · next hempty => exact iff_of_false (List.cons_ne_nil _ _) fun h => absurd h.1 (Nat.not_le_of_lt hempty)
  · next hempty => rw [List.map_eq_nil_iff, and_iff_right (Nat.le_of_not_lt hempty)]

theorem interfaceRanges_eq_nil_iff {claimed : List RangeClaim} {interface : MessageInterface} :
    interfaceRanges claimed interface = [] ↔
      RangesHold interface ∧ ∀ claim ∈ claimed, ClaimKept claim interface := by
  simp only [interfaceRanges, List.append_eq_nil_iff, List.map_eq_nil_iff, List.flatMap_eq_nil_iff,
    rangeProblems_eq_nil_iff, overlappedClaims_eq_nil_iff, RangesHold, ClaimKept, wellFormedRanges, List.mem_filter,
    decide_eq_true_eq]
  constructor
  · rintro ⟨hranges, hids⟩
    refine ⟨⟨fun range hrange => (hranges range hrange).1, hids⟩, fun claim hclaim hshares hname range hrange => ?_⟩
    obtain ⟨_, hapart⟩ := hranges range hrange.1
    exact hapart claim hclaim hshares hname
  · rintro ⟨⟨hordered, hids⟩, hkept⟩
    refine ⟨fun range hrange => ?_, hids⟩
    have hwellFormed := hordered range hrange
    exact ⟨hwellFormed, fun claim hclaim hshares hname => hkept claim hclaim hshares hname range ⟨hrange, hwellFormed⟩⟩

theorem rangesAfter_eq_nil_iff {claimed : List RangeClaim} {interfaces : List MessageInterface} :
    rangesAfter claimed interfaces = [] ↔
      (∀ interface ∈ interfaces, RangesHold interface ∧ ∀ claim ∈ claimed, ClaimKept claim interface) ∧
        interfaces.Pairwise RangesApart := by
  induction interfaces generalizing claimed with
  | nil => simp [rangesAfter]
  | cons interface interfaces ih =>
    rw [rangesAfter, List.append_eq_nil_iff, interfaceRanges_eq_nil_iff, ih]
    simp only [List.forall_mem_append, List.forall_mem_map, List.forall_mem_cons, List.pairwise_cons, RangesApart]
    constructor
    · rintro ⟨hfirst, hrest, hpairs⟩
      refine ⟨⟨hfirst, fun other hother => ?_⟩, fun other hother => (hrest other hother).2.2, hpairs⟩
      obtain ⟨hhold, hkept, _⟩ := hrest other hother
      exact ⟨hhold, hkept⟩
    · rintro ⟨⟨hfirst, hrest⟩, hapart, hpairs⟩
      refine ⟨hfirst, fun other hother => ?_, hpairs⟩
      obtain ⟨hhold, hkept⟩ := hrest other hother
      exact ⟨hhold, hkept, hapart other hother⟩

theorem isError_of_mem_interfaceRanges {claimed : List RangeClaim} {interface : MessageInterface}
    {diagnostic : Diagnostic} (hmem : diagnostic ∈ interfaceRanges claimed interface) : diagnostic.isError = true := by
  rcases List.mem_append.1 hmem with hmem | hmem
  · obtain ⟨problem, hproblem, rfl⟩ := List.mem_map.1 hmem
    obtain ⟨range, _, hproblem⟩ := List.mem_flatMap.1 hproblem
    unfold rangeProblems at hproblem
    split at hproblem
    · rw [List.mem_singleton.1 hproblem]
      rfl
    · obtain ⟨_, _, rfl⟩ := List.mem_map.1 hproblem
      rfl
  · obtain ⟨_, _, rfl⟩ := List.mem_map.1 hmem
    rfl

theorem isError_of_mem_rangesAfter {claimed : List RangeClaim} {interfaces : List MessageInterface}
    {diagnostic : Diagnostic} (hmem : diagnostic ∈ rangesAfter claimed interfaces) : diagnostic.isError = true := by
  induction interfaces generalizing claimed with
  | nil => cases hmem
  | cons interface interfaces ih =>
    rcases List.mem_append.1 hmem with hfirst | hrest
    · exact isError_of_mem_interfaceRanges hfirst
    · exact ih hrest

/-! ### Lengths of ids -/

def LengthsAgree (left right : MessageInterface) : Prop :=
  sharesProject left right = true → left.idLength = right.idLength

theorem LengthsAgree.symm {left right : MessageInterface} (h : LengthsAgree left right) : LengthsAgree right left := by
  intro hshares
  rw [sharesProject_comm] at hshares
  exact (h hshares).symm

theorem lengthReference?_eq_find? {earlier : List MessageInterface}
    (hvalid : ∀ other ∈ earlier, hasValidIdLength other = true) (interface : MessageInterface) :
    lengthReference? earlier interface = earlier.find? (sharesProject interface) := by
  unfold lengthReference?
  split
  · next hcode =>
    refine (List.find?_eq_none.2 fun other _ hshares => ?_).symm
    rw [(sharesProject_iff.1 hshares).1] at hcode
    cases hcode
  · next hcode =>
    refine List.find?_congr fun other hother => ?_
    rw [hvalid other hother, Bool.true_and, sharesProject, Bool.eq_false_iff.2 hcode]
    exact Bool.beq_comm

theorem idLengthProblem?_eq_none_iff {first : Option MessageInterface} {interface : MessageInterface} :
    idLengthProblem? first interface = none ↔
      hasValidIdLength interface = true ∧ ∀ other, first = some other → other.idLength = interface.idLength := by
  unfold idLengthProblem?
  cases hvalid : hasValidIdLength interface with
  | false => simp
  | true => cases first <;> simp

theorem idLengthsAfter_eq_nil_iff {earlier interfaces : List MessageInterface}
    (hvalid : ∀ other ∈ earlier, hasValidIdLength other = true) (hearlier : earlier.Pairwise LengthsAgree) :
    idLengthsAfter earlier interfaces = [] ↔
      (∀ interface ∈ interfaces, hasValidIdLength interface = true) ∧ (earlier ++ interfaces).Pairwise LengthsAgree := by
  induction interfaces generalizing earlier with
  | nil => simp [idLengthsAfter, hearlier]
  | cons interface interfaces ih =>
    have happend : (earlier ++ [interface]).Pairwise LengthsAgree ↔
        ∀ other ∈ earlier, LengthsAgree other interface := by
      simp [List.pairwise_append, hearlier]
    have hfirst := agrees_with_first_iff sharesProject_comm sharesProject_trans hearlier interface
    rw [idLengthsAfter, List.append_eq_nil_iff, Option.toList_eq_nil_iff, Option.map_eq_none_iff,
      idLengthProblem?_eq_none_iff, lengthReference?_eq_find? hvalid, List.forall_mem_cons,
      List.append_cons earlier interface interfaces]
    have hvalidNext (hown : hasValidIdLength interface = true) :
        ∀ other ∈ earlier ++ [interface], hasValidIdLength other = true :=
      List.forall_mem_append.2 ⟨hvalid, List.forall_mem_singleton.2 hown⟩
    constructor
    · rintro ⟨⟨hown, hagree⟩, hrest⟩
      have hnext := happend.2 (hfirst.1 hagree)
      obtain ⟨hothers, hall⟩ := (ih (hvalidNext hown) hnext).1 hrest
      exact ⟨⟨hown, hothers⟩, hall⟩
    · rintro ⟨⟨hown, hothers⟩, hall⟩
      have hnext := (List.pairwise_append.1 hall).1
      have hagree := hfirst.2 (happend.1 hnext)
      have hrest := (ih (hvalidNext hown) hnext).2 ⟨hothers, hall⟩
      exact ⟨⟨hown, hagree⟩, hrest⟩

theorem severity_of_idLengthProblem? {first : Option MessageInterface} {interface : MessageInterface} {problem : Problem}
    (h : idLengthProblem? first interface = some problem) : problem.severity = .error := by
  unfold idLengthProblem? at h
  split at h
  · cases h
    rfl
  · split at h
    · cases h
    · split at h
      · cases h
      · cases h
        rfl

theorem isError_of_mem_idLengthsAfter {earlier interfaces : List MessageInterface} {diagnostic : Diagnostic}
    (hmem : diagnostic ∈ idLengthsAfter earlier interfaces) : diagnostic.isError = true := by
  induction interfaces generalizing earlier with
  | nil => cases hmem
  | cons interface interfaces ih =>
    rcases List.mem_append.1 hmem with hfirst | hrest
    · obtain ⟨problem, hproblem, rfl⟩ := Option.map_eq_some_iff.1 (Option.mem_toList.1 hfirst)
      exact beq_iff_eq.2 (severity_of_idLengthProblem? hproblem)
    · exact ih hrest

/-! ### Ids of a project -/

/-- No id is used by interfaces of one project with different names. -/
def IdsApart (left right : MessageInterface) : Prop :=
  sharesProject left right = true → left.name ≠ right.name →
    ∀ use ∈ explicitIds left.declaredMethods, ∀ other ∈ explicitIds right.declaredMethods, use.1 ≠ other.1

theorem IdsApart.symm {left right : MessageInterface} (h : IdsApart left right) : IdsApart right left := by
  intro hshares hname use huse other hother
  rw [sharesProject_comm] at hshares
  exact (h hshares hname.symm other hother use huse).symm

theorem IdsApart.self (interface : MessageInterface) : IdsApart interface interface :=
  fun _ hname => absurd rfl hname

theorem IdUse.isSame_comm (left right : IdUse) : left.isSame right = right.isSame left := by
  rw [isSame, isSame, Bool.beq_comm, Bool.beq_comm (a := left.id)]

theorem IdUse.isSame_trans (left middle right : IdUse) (h : left.isSame middle = true) (h' : middle.isSame right = true) :
    left.isSame right = true := by
  simp only [isSame, Bool.and_eq_true, beq_iff_eq] at h h' ⊢
  obtain ⟨hcode, hid⟩ := h
  obtain ⟨hcode', hid'⟩ := h'
  exact ⟨hcode.trans hcode', hid.trans hid'⟩

/-- The uses that are reported are those of ids that some other interface is the first to use. -/
theorem projectIds_eq_filterMap (batch : List ResolvedInterface) :
    projectIds batch = (idUses (batch.map (·.interface))).filterMap fun use =>
      (((idUses (batch.map (·.interface))).find? use.isSame).filter (·.interface.name != use.interface.name)).map
        fun first => Diagnostic.ofMethod use.interface use.method
          (.idTaken use.interface.projectCode use.id first.interface.name first.method.signature) := by
  have hsame (use : IdUse) : use.isSame use = true := by simp [IdUse.isSame]
  let differ (use first : IdUse) : Bool := first.interface.name != use.interface.name
  have hdiffer (use : IdUse) : differ use use = false := bne_self_eq_false _
  have hreported := filter_clashes hsame hdiffer [] (idUses (batch.map (·.interface)))
  unfold projectIds
  dsimp only [differ] at hreported ⊢
  rw [hreported, List.nil_append, List.map_filterMap]
  simp only [Option.map_map]
  rfl

theorem exists_uses_of_mem_projectIds {batch : List ResolvedInterface} {diagnostic : Diagnostic}
    (h : diagnostic ∈ projectIds batch) :
    ∃ use ∈ idUses (batch.map (·.interface)), ∃ first ∈ idUses (batch.map (·.interface)),
      use.isSame first = true ∧ first.interface.name ≠ use.interface.name ∧
        diagnostic = Diagnostic.ofMethod use.interface use.method
          (.idTaken use.interface.projectCode use.id first.interface.name first.method.signature) := by
  rw [projectIds_eq_filterMap, List.mem_filterMap] at h
  obtain ⟨use, huse, hreported⟩ := h
  obtain ⟨first, hfirst, rfl⟩ := Option.map_eq_some_iff.1 hreported
  obtain ⟨hfind, hname⟩ := Option.filter_eq_some_iff.1 hfirst
  exact ⟨use, huse, first, List.mem_of_find?_eq_some hfind, List.find?_some hfind, bne_iff_ne.1 hname, rfl⟩

theorem projectIds_eq_nil_iff {batch : List ResolvedInterface} :
    projectIds batch = [] ↔ (batch.map (·.interface)).Pairwise IdsApart := by
  have hagree : projectIds batch = [] ↔ ∀ clash ∈ clashes IdUse.isSame [] (idUses (batch.map (·.interface))),
      clash.2.interface.name = clash.1.interface.name := by
    simp only [projectIds, List.map_eq_nil_iff, List.filter_eq_nil_iff, bne_iff_ne, ne_eq, not_not]
  rw [hagree, clashes_agree_iff IdUse.isSame_comm IdUse.isSame_trans (·.interface.name) .nil, List.nil_append, idUses,
    List.pairwise_flatMap, List.pairwise_filter]
  -- the uses of one interface agree anyhow
  rw [and_iff_right fun interface _ => List.pairwise_map.2 (List.pairwise_of_forall fun _ _ _ => rfl)]
  refine List.Pairwise.iff fun left right => ?_
  simp only [List.forall_mem_map, Bool.not_eq_true', IdUse.isSame, Bool.and_eq_true, beq_iff_eq, and_imp]
  constructor
  · intro hsame hshares hname use huse other hother hid
    obtain ⟨hcode, heq⟩ := sharesProject_iff.1 hshares
    exact hname (hsame hcode (heq ▸ hcode) use huse other hother heq hid)
  · intro hapart hcode _ use huse other hother heq hid
    by_contra hname
    exact hapart (sharesProject_iff.2 ⟨hcode, heq⟩) hname use huse other hother hid

/-! ### The order of interfaces -/

section Order

variable {batch permuted : List ResolvedInterface}

theorem idRanges_eq_nil_of_perm (hperm : batch.Perm permuted) (h : idRanges batch = []) : idRanges permuted = [] := by
  have hinterfaces := hperm.map (·.interface)
  obtain ⟨halone, hpairs⟩ := rangesAfter_eq_nil_iff.1 h
  have hpermuted := (hinterfaces.pairwise_iff RangesApart.symm).1 hpairs
  refine rangesAfter_eq_nil_iff.2 ⟨fun interface hinterface => ?_, hpermuted⟩
  exact halone interface (hinterfaces.mem_iff.2 hinterface)

theorem idLengths_eq_nil_of_perm (hperm : batch.Perm permuted) (h : idLengths batch = []) :
    idLengths permuted = [] := by
  have hinterfaces := hperm.map (·.interface)
  obtain ⟨halone, hpairs⟩ := (idLengthsAfter_eq_nil_iff (List.forall_mem_nil _) .nil).1 h
  have hpermuted := (hinterfaces.pairwise_iff LengthsAgree.symm).1 hpairs
  refine (idLengthsAfter_eq_nil_iff (List.forall_mem_nil _) .nil).2 ⟨fun interface hinterface => ?_, hpermuted⟩
  exact halone interface (hinterfaces.mem_iff.2 hinterface)

theorem projectIds_eq_nil_of_perm (hperm : batch.Perm permuted) (h : projectIds batch = []) :
    projectIds permuted = [] := by
  have hinterfaces := hperm.map (·.interface)
  have hpairs := projectIds_eq_nil_iff.1 h
  have hpermuted := (hinterfaces.pairwise_iff IdsApart.symm).1 hpairs
  exact projectIds_eq_nil_iff.2 hpermuted

theorem isError_of_mem_run {context : CheckContext} {check : Check} (hscope : check.scope = .batch)
    {diagnostic : Diagnostic} (hmem : diagnostic ∈ check.run context batch) : diagnostic.isError = true := by
  cases check with
  | idRange => exact isError_of_mem_rangesAfter hmem
  | idLength => exact isError_of_mem_idLengthsAfter hmem
  | projectId =>
    obtain ⟨_, _, rfl⟩ := List.mem_map.1 hmem
    rfl
  | _ => cases hscope

theorem silent_run_of_perm {context : CheckContext} {check : Check} (hscope : check.scope = .batch)
    (hperm : batch.Perm permuted) (h : Silent (check.run context batch)) : Silent (check.run context permuted) := by
  have hnone := eq_nil_of_silent h fun _ => isError_of_mem_run hscope
  have hpermuted : check.run context permuted = [] := by
    cases check with
    | idRange => exact idRanges_eq_nil_of_perm hperm hnone
    | idLength => exact idLengths_eq_nil_of_perm hperm hnone
    | projectId => exact projectIds_eq_nil_of_perm hperm hnone
    | _ => cases hscope
  rw [hpermuted]
  exact List.forall_mem_nil _

end Order

end Check

end TypedMessages

import TypedMessages.Proofs.Check.UniqueIds

/-!
# Ranges that share out the ids

Every interface is compared with the ranges that those before it claimed, which are all their ranges but the empty ones. It gets a report for each pair of ranges of one project with an id in common, for each empty range, and for each id that its ranges leave out. Where there is nothing to report the ranges share out the ids of a project: every id is in ranges of one interface at most, and as the ids that an interface declares are in its ranges, no two interfaces with ranges use the same id.
-/

namespace TypedMessages

/-- Two ranges that are not empty overlap exactly if some id is in both. -/
theorem IdRange.overlaps_iff {left right : IdRange} (hleft : left.min ≤ left.max) (hright : right.min ≤ right.max) :
    left.overlaps right = true ↔ ∃ id, left.contains id = true ∧ right.contains id = true := by
  simp only [overlaps, contains, Bool.and_eq_true, decide_eq_true_eq]
  constructor
  · intro h
    exact ⟨Max.max left.min right.min, by omega⟩
  · rintro ⟨id, h⟩
    omega

def MessageInterface.Covers (interface : MessageInterface) (id : Nat) : Prop :=
  ∃ range ∈ interface.validIdRanges, range.contains id = true

instance (interface : MessageInterface) : DecidablePred interface.Covers := fun id =>
  inferInstanceAs (Decidable (∃ range ∈ interface.validIdRanges, range.contains id = true))

theorem MessageInterface.covers_iff_any_wellFormedRanges {interface : MessageInterface} {id : Nat} :
    interface.Covers id ↔ (Check.wellFormedRanges interface).any (·.contains id) = true := by
  simp only [Covers, Check.wellFormedRanges, List.any_filter, List.any_eq_true, Bool.and_eq_true, decide_eq_true_eq]
  refine exists_congr fun range => and_congr_right fun _ => ⟨fun hcontains => ⟨?_, hcontains⟩, And.right⟩
  simp only [IdRange.contains, Bool.and_eq_true, decide_eq_true_eq] at hcontains
  omega

namespace Check

/-! ### Claims of earlier interfaces -/

/-- The claims that a range has been compared with once all these interfaces have been gone through. -/
def claimsOf (interfaces : List MessageInterface) : List RangeClaim :=
  interfaces.flatMap fun interface => (wellFormedRanges interface).map (interface, ·)

theorem rangesAfter_append (claimed : List RangeClaim) (before rest : List MessageInterface) :
    rangesAfter claimed (before ++ rest) =
      rangesAfter claimed before ++ rangesAfter (claimed ++ claimsOf before) rest := by
  induction before generalizing claimed with
  | nil => simp [rangesAfter, claimsOf]
  | cons interface before ih =>
    have hclaims : claimsOf (interface :: before) = (wellFormedRanges interface).map (interface, ·) ++ claimsOf before :=
      List.flatMap_cons
    rw [List.cons_append, rangesAfter, ih, rangesAfter, hclaims, List.append_assoc, List.append_assoc]

section Split

variable {before after : List ResolvedInterface} {resolved : ResolvedInterface}
  (hdistinct : ((before ++ resolved :: after).map (·.interface.name)).Nodup)

include hdistinct

theorem name_not_mem_of_nodup :
    resolved.interface.name ∉ before.map (·.interface.name) ∧
      resolved.interface.name ∉ after.map (·.interface.name) := by
  rw [List.map_append, List.map_cons, List.nodup_middle, List.nodup_cons, List.mem_append, not_or] at hdistinct
  exact hdistinct.1

theorem filter_idRanges :
    (idRanges (before ++ resolved :: after)).filter (·.owner == resolved.interface.name) =
      interfaceRanges (claimsOf (before.map (·.interface))) resolved.interface := by
  obtain ⟨hbefore, hafter⟩ := name_not_mem_of_nodup hdistinct
  have hothers {claimed : List RangeClaim} {others : List ResolvedInterface}
      (hname : resolved.interface.name ∉ others.map (·.interface.name)) :
      (rangesAfter claimed (others.map (·.interface))).filter (·.owner == resolved.interface.name) = [] := by
    refine List.filter_eq_nil_iff.2 fun diagnostic hmem heq => hname ?_
    have howner := owner_of_mem_rangesAfter hmem
    rwa [List.map_map, beq_iff_eq.1 heq] at howner
  have hself : (interfaceRanges (claimsOf (before.map (·.interface))) resolved.interface).filter
      (·.owner == resolved.interface.name) = interfaceRanges (claimsOf (before.map (·.interface))) resolved.interface :=
    List.filter_eq_self.2 fun diagnostic hmem => beq_iff_eq.2 (interfaceRanges_allAbout _ _ diagnostic hmem)
  rw [idRanges, List.map_append, List.map_cons, rangesAfter_append, rangesAfter, List.nil_append, List.filter_append,
    List.filter_append, hothers hbefore, hothers hafter, hself, List.nil_append, List.append_nil]

end Split

/-! ### Pairs of ranges -/

structure Conflicts (interface : MessageInterface) (range : IdRange) (claim : RangeClaim) : Prop where
  shares : sharesProject claim.1 interface = true
  ordered : range.min ≤ range.max
  claimOrdered : claim.2.min ≤ claim.2.max
  common : ∃ id, claim.2.contains id = true ∧ range.contains id = true

theorem conflicts_iff {interface : MessageInterface} {range : IdRange} {claim : RangeClaim} :
    Conflicts interface range claim ↔ range.min ≤ range.max ∧ claim.2.min ≤ claim.2.max ∧
      sharesProject claim.1 interface = true ∧ claim.2.overlaps range = true := by
  constructor
  · intro h
    exact ⟨h.ordered, h.claimOrdered, h.shares, (IdRange.overlaps_iff h.claimOrdered h.ordered).2 h.common⟩
  · rintro ⟨hrange, hclaim, hshares, hoverlaps⟩
    exact ⟨hshares, hrange, hclaim, (IdRange.overlaps_iff hclaim hrange).1 hoverlaps⟩

instance (interface : MessageInterface) (range : IdRange) : DecidablePred (Conflicts interface range) := fun _ =>
  decidable_of_iff _ conflicts_iff.symm

def rangesOf (interfaces : List MessageInterface) : List RangeClaim :=
  interfaces.flatMap fun interface => interface.validIdRanges.map (interface, ·)

theorem claimsOf_eq_filter (interfaces : List MessageInterface) :
    claimsOf interfaces = (rangesOf interfaces).filter fun claim => claim.2.min ≤ claim.2.max := by
  simp only [claimsOf, rangesOf, wellFormedRanges, List.filter_flatMap, List.filter_map]
  rfl

variable {interface : MessageInterface} {others : List MessageInterface}

theorem overlappedClaims_claimsOf (hname : interface.name ∉ others.map (·.name)) {range : IdRange}
    (hordered : range.min ≤ range.max) :
    overlappedClaims (claimsOf others) interface range = (rangesOf others).filter (Conflicts interface range) := by
  rw [overlappedClaims_eq_filter, claimsOf_eq_filter, List.filter_filter]
  refine List.filter_congr fun claim hclaim => ?_
  have hne : claim.1.name ≠ interface.name := by
    obtain ⟨other, hother, hmem⟩ := List.mem_flatMap.1 hclaim
    obtain ⟨_, _, rfl⟩ := List.mem_map.1 hmem
    have hearlier : other.name ∈ others.map (·.name) := List.mem_map_of_mem hother
    exact fun heq => hname (heq ▸ hearlier)
  rw [Bool.eq_iff_iff]
  simp [conflicts_iff, hne, hordered, and_comm]

theorem rangeProblems_claimsOf (hname : interface.name ∉ others.map (·.name)) (range : IdRange) :
    rangeProblems (claimsOf others) interface range =
      ([range].filter fun range => range.max < range.min).map .emptyRange ++
        ((rangesOf others).filter (Conflicts interface range)).map fun claim =>
          .overlappingRange range claim.2 claim.1.name interface.projectCode := by
  by_cases hempty : range.max < range.min
  · have hnone : (rangesOf others).filter (Conflicts interface range) = [] :=
      List.filter_eq_nil_iff.2 fun claim _ hconflicts => by
        have hordered := (of_decide_eq_true hconflicts).ordered
        omega
    simp [rangeProblems, hempty, hnone]
  · rw [rangeProblems, if_neg hempty, overlappedClaims_claimsOf hname (Nat.le_of_not_lt hempty)]
    simp [hempty]

theorem flatMap_rangeProblems_perm (hname : interface.name ∉ others.map (·.name)) :
    (interface.validIdRanges.flatMap (rangeProblems (claimsOf others) interface)).Perm
      ((interface.validIdRanges.filter fun range => range.max < range.min).map .emptyRange ++
        ((interface.validIdRanges ×ˢ rangesOf others).filter fun pair => Conflicts interface pair.1 pair.2).map
          fun pair => .overlappingRange pair.1 pair.2.2 pair.2.1.name interface.projectCode) := by
  have hempty : (interface.validIdRanges.flatMap fun range =>
      ([range].filter fun range => range.max < range.min).map Problem.emptyRange) =
        (interface.validIdRanges.filter fun range => range.max < range.min).map .emptyRange := by
    rw [← List.map_flatMap, ← List.filter_flatMap, List.flatMap_singleton']
  have hpairs : (interface.validIdRanges.flatMap fun range =>
      ((rangesOf others).filter (Conflicts interface range)).map fun claim =>
        Problem.overlappingRange range claim.2 claim.1.name interface.projectCode) =
        ((interface.validIdRanges ×ˢ rangesOf others).filter fun pair => Conflicts interface pair.1 pair.2).map
          fun pair => .overlappingRange pair.1 pair.2.2 pair.2.1.name interface.projectCode := by
    simp only [SProd.sprod, List.product, List.filter_flatMap, List.map_flatMap, List.filter_map, List.map_map]
    rfl
  rw [funext (rangeProblems_claimsOf hname), ← hempty, ← hpairs]
  exact (List.flatMap_append_perm _ _ _).symm

theorem idsOutsideRanges_eq (interface : MessageInterface) :
    idsOutsideRanges interface = (explicitIds interface.declaredMethods).filter fun use =>
      interface.validIdRanges ≠ [] ∧ ¬ interface.Covers use.1 := by
  unfold idsOutsideRanges
  split
  · next hnone => simp [List.isEmpty_iff.1 hnone]
  · next hsome =>
    refine List.filter_congr fun use _ => ?_
    rw [Bool.eq_iff_iff, Bool.not_eq_true', ← Bool.not_eq_true, ← MessageInterface.covers_iff_any_wellFormedRanges,
      decide_eq_true_iff, and_iff_right (by simpa using hsome)]

/-! ### What there is to report -/

/-- What is to be said of the ranges of an interface and of the ids it declares, after some other interfaces: one report for each pair of ranges in conflict, for each empty range, and for each method with an id that the ranges leave out. -/
def rangeReports (interface : MessageInterface) (earlier : List MessageInterface) : List Diagnostic :=
  (((interface.validIdRanges ×ˢ rangesOf earlier).filter fun pair => Conflicts interface pair.1 pair.2).map fun pair =>
      Diagnostic.ofInterface interface
        (.overlappingRange pair.1 pair.2.2 pair.2.1.name interface.projectCode)) ++
    ((interface.validIdRanges.filter fun range => range.max < range.min).map fun range =>
      Diagnostic.ofInterface interface (.emptyRange range)) ++
    ((explicitIds interface.declaredMethods).filter fun use =>
        interface.validIdRanges ≠ [] ∧ ¬ interface.Covers use.1).map fun use =>
      Diagnostic.ofMethod interface use.2 (.idOutsideRanges use.1 interface.validIdRanges)

theorem interfaceRanges_perm_rangeReports (hname : interface.name ∉ others.map (·.name)) :
    (interfaceRanges (claimsOf others) interface).Perm (rangeReports interface others) := by
  have hranges := (flatMap_rangeProblems_perm hname).map (Diagnostic.ofInterface interface)
  rw [List.map_append, List.map_map, List.map_map] at hranges
  rw [interfaceRanges, rangeReports, idsOutsideRanges_eq]
  exact (hranges.trans List.perm_append_comm).append_right _

/-! ### What silence means -/

variable {batch : List ResolvedInterface}

/-- Where no range is reported, an id is in ranges of one interface of a project at most. -/
theorem eq_of_covers (hdistinct : (batch.map (·.interface.name)).Nodup) (hnone : idRanges batch = [])
    {left right : ResolvedInterface} (hleft : left ∈ batch) (hright : right ∈ batch)
    (hshares : sharesProject left.interface right.interface = true) {id : Nat} (hcovers : left.interface.Covers id)
    (hother : right.interface.Covers id) : left = right := by
  by_contra hne
  have hname : left.interface.name ≠ right.interface.name := fun heq =>
    hne (List.inj_on_of_nodup_map hdistinct hleft hright heq)
  have hapart := (pairwise_interfaces_iff RangesApart.self fun _ _ => RangesApart.symm).1
    (rangesAfter_eq_nil_iff.1 hnone).2 left hleft right hright
  simp only [MessageInterface.covers_iff_any_wellFormedRanges, List.any_eq_true] at hcovers hother
  obtain ⟨range, hrange, hin⟩ := hcovers
  obtain ⟨other, hmem, hboth⟩ := hother
  have hoverlaps := hapart range hrange hshares hname other hmem
  rw [← Bool.not_eq_true, IdRange.overlaps_iff] at hoverlaps
  · exact hoverlaps ⟨id, hin, hboth⟩
  · simpa using (List.mem_filter.1 hrange).2
  · simpa using (List.mem_filter.1 hmem).2

theorem covers_of_mem_explicitIds (hnone : idRanges batch = []) {resolved : ResolvedInterface} (hmem : resolved ∈ batch)
    (hranges : resolved.interface.validIdRanges ≠ []) {id : Nat} {method : Method}
    (hid : (id, method) ∈ explicitIds resolved.interface.declaredMethods) : resolved.interface.Covers id := by
  have hinside := ((rangesAfter_eq_nil_iff.1 hnone).1 _ (List.mem_map_of_mem hmem)).1.2
  rw [idsOutsideRanges_eq, List.filter_eq_nil_iff] at hinside
  by_contra hout
  exact hinside _ hid (decide_eq_true ⟨hranges, hout⟩)

theorem interface_eq_of_mem_idUses (hdistinct : (batch.map (·.interface.name)).Nodup) {resolved : ResolvedInterface}
    (hmem : resolved ∈ batch) {use : IdUse} (huse : use ∈ idUses (batch.map (·.interface)))
    (hname : use.interface.name = resolved.interface.name) : use.interface = resolved.interface := by
  obtain ⟨owner, howner, hinterface⟩ := List.mem_map.1 (mem_idUses_iff.1 huse).1.1
  rw [← hinterface] at hname ⊢
  rw [List.inj_on_of_nodup_map hdistinct howner hmem hname]

/-- Where neither ranges nor ids outside them are reported, interfaces that have ranges use no id together. -/
theorem idTaken_not_mem_projectIds (hdistinct : (batch.map (·.interface.name)).Nodup) (hnone : idRanges batch = [])
    {left right : ResolvedInterface} (hleft : left ∈ batch) (hright : right ∈ batch)
    (hranges : left.interface.validIdRanges ≠ []) (hothers : right.interface.validIdRanges ≠ []) (method : Method)
    (code : String) (id : Nat) (signature : String) :
    Diagnostic.ofMethod left.interface method (.idTaken code id right.interface.name signature) ∉ projectIds batch := by
  intro hreported
  obtain ⟨use, huse, first, hfirst, hsame, hname, heq⟩ := exists_uses_of_mem_projectIds hreported
  simp only [Diagnostic.ofMethod, Diagnostic.mk.injEq, Subject.method.injEq, Problem.idTaken.injEq] at heq
  obtain ⟨⟨huseName, _⟩, _, _, hfirstName, _⟩ := heq
  -- Names tell interfaces apart, so the two uses are made by these interfaces.
  rw [← huseName, ← hfirstName] at hname
  have huseOf := interface_eq_of_mem_idUses hdistinct hleft huse huseName.symm
  have hfirstOf := interface_eq_of_mem_idUses hdistinct hright hfirst hfirstName.symm
  obtain ⟨⟨_, hcode⟩, hid⟩ := mem_idUses_iff.1 huse
  obtain ⟨_, hother⟩ := mem_idUses_iff.1 hfirst
  simp only [IdUse.isSame, Bool.and_eq_true, beq_iff_eq, huseOf, hfirstOf] at hsame
  rw [huseOf] at hcode hid
  rw [hfirstOf, ← hsame.2] at hother
  have hequal := eq_of_covers hdistinct hnone hleft hright (sharesProject_iff.2 ⟨hcode, hsame.1⟩)
    (covers_of_mem_explicitIds hnone hleft hranges hid) (covers_of_mem_explicitIds hnone hright hothers hother)
  exact hname (by rw [hequal])

/-- **Ranges share out the ids.** After the interfaces before it, an interface gets one report for each pair of its ranges and theirs in one project that have an id in common, one for each empty range, and one for each method that it declares with an id that its ranges leave out, if it has any. Where there is no report, an id is in ranges of one interface of a project at most, and no id is reported as taken between two interfaces that have ranges. -/
theorem idRanges_share_out (context : CheckContext) (batch : List ResolvedInterface)
    (hdistinct : (batch.map (·.interface.name)).Nodup) :
    (∀ before resolved after, batch = before ++ resolved :: after →
      ((idRange.run context batch).filter (·.owner == resolved.interface.name)).Perm
        (rangeReports resolved.interface (before.map (·.interface)))) ∧
    (∀ diagnostic ∈ idRange.run context batch,
      diagnostic.isError = true ∧ diagnostic.owner ∈ batch.map (·.interface.name)) ∧
    (idRange.run context batch = [] →
      (∀ left ∈ batch, ∀ right ∈ batch, sharesProject left.interface right.interface = true →
        ∀ id, left.interface.Covers id → right.interface.Covers id → left = right) ∧
      ∀ left ∈ batch, ∀ right ∈ batch, left.interface.validIdRanges ≠ [] → right.interface.validIdRanges ≠ [] →
        ∀ method code id signature,
          Diagnostic.ofMethod left.interface method (.idTaken code id right.interface.name signature) ∉
            projectId.run context batch) := by
  refine ⟨?_, fun diagnostic hmem => ⟨isError_of_mem_rangesAfter hmem, owner_of_mem_run hmem⟩, fun hnone => ⟨?_, ?_⟩⟩
  · rintro before resolved after rfl
    rw [run, filter_idRanges hdistinct]
    refine interfaceRanges_perm_rangeReports ?_
    rw [List.map_map]
    exact (name_not_mem_of_nodup hdistinct).1
  · intro left hleft right hright hshares id
    exact eq_of_covers hdistinct hnone hleft hright hshares
  · intro left hleft right hright hranges hothers
    exact idTaken_not_mem_projectIds hdistinct hnone hleft hright hranges hothers

def meetingRanges : List ResolvedInterface :=
  [numbered "a.First" "APP" [⟨1, 9⟩, ⟨20, 29⟩] [], numbered "a.Second" "APP" [⟨9, 20⟩, ⟨5, 3⟩] [12, 50]]

def adjoiningRanges : List ResolvedInterface :=
  [numbered "a.First" "APP" [⟨1, 9⟩] [9], numbered "a.Second" "APP" [⟨10, 19⟩] [10],
   numbered "a.Third" "LIB" [⟨1, 19⟩] [9]]

theorem idRanges_share_out_meetingRanges :
    let context : CheckContext := { catalog := Catalog.build [] {}, options := {} }
    let second := numbered "a.Second" "APP" [⟨9, 20⟩, ⟨5, 3⟩] [12, 50]
    (∃ method ∈ second.interface.declaredMethods,
      ((idRange.run context meetingRanges).filter (·.owner == "a.Second")).Perm
      [.ofInterface second.interface (.overlappingRange ⟨9, 20⟩ ⟨1, 9⟩ "a.First" "APP"),
       .ofInterface second.interface (.overlappingRange ⟨9, 20⟩ ⟨20, 29⟩ "a.First" "APP"),
       .ofInterface second.interface (.emptyRange ⟨5, 3⟩),
       .ofMethod second.interface method (.idOutsideRanges 50 [⟨9, 20⟩, ⟨5, 3⟩])]) ∧
      idRange.run context adjoiningRanges = [] ∧
      ∀ id, (numbered "a.First" "APP" [⟨1, 9⟩] [9]).interface.Covers id →
        ¬ (numbered "a.Second" "APP" [⟨10, 19⟩] [10]).interface.Covers id := by
  intro context second
  obtain ⟨hreports, _⟩ := idRanges_share_out context meetingRanges (by decide +kernel)
  obtain ⟨_, _, hsilent⟩ := idRanges_share_out context adjoiningRanges (by decide +kernel)
  have hnone : idRange.run context adjoiningRanges = [] := by decide +kernel
  have hreported := hreports [numbered "a.First" "APP" [⟨1, 9⟩, ⟨20, 29⟩] []] second [] rfl
  refine ⟨?_, hnone, fun id hfirst hsecond => ?_⟩
  · have hmethod : ∃ method ∈ second.interface.declaredMethods, rangeReports second.interface
        ([numbered "a.First" "APP" [⟨1, 9⟩, ⟨20, 29⟩] []].map (·.interface)) =
          [.ofInterface second.interface (.overlappingRange ⟨9, 20⟩ ⟨1, 9⟩ "a.First" "APP"),
           .ofInterface second.interface (.overlappingRange ⟨9, 20⟩ ⟨20, 29⟩ "a.First" "APP"),
           .ofInterface second.interface (.emptyRange ⟨5, 3⟩),
           .ofMethod second.interface method (.idOutsideRanges 50 [⟨9, 20⟩, ⟨5, 3⟩])] := by
      decide +kernel
    obtain ⟨method, hmem, hlist⟩ := hmethod
    rw [hlist] at hreported
    exact ⟨method, hmem, hreported⟩
  · obtain ⟨hcovers, _⟩ := hsilent hnone
    have hequal := hcovers _ List.mem_cons_self _ (List.mem_cons_of_mem _ List.mem_cons_self) (by decide +kernel) id
      hfirst hsecond
    exact absurd hequal (by decide +kernel)

end Check

end TypedMessages

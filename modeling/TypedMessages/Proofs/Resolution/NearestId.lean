import TypedMessages.Proofs.Check.Silence
import TypedMessages.Proofs.Extension.Distance
import TypedMessages.Proofs.Interface.Flattening
import TypedMessages.Proofs.Resolution.Completeness

/-!
# The nearest id

An id that is to be inherited comes from the methods of the same name that declare one themselves, as far as a way up leads to them from the interface of the method. Of these the nearest gives its id, and the first of several that are equally near. Nearness is the length of a shortest way up, so it is settled by what the batch declares, and a cycle among the interfaces does no harm.
-/

namespace TypedMessages

def ResolutionFailure.isMissingInheritableId : ResolutionFailure → Bool
  | missingInheritableId _ => true
  | _ => false

/-! ### Candidates -/

/-- The candidate has the name of the method, its own message declares the id, as a number or as none, and its interface lies above that of the method, at the distance. -/
structure OffersId (interfaces : List InterfaceDeclaration) (method candidate : Method) (distance : Nat)
    (id : MessageId) : Prop where
  name : candidate.name = method.name
  own : candidate.message.map (·.id) = some id
  declared : id = .absent ∨ ∃ number, id = .explicit number
  distance : IsDistance interfaces method.declaringInterface candidate.declaringInterface distance

/-- The id is offered by the first of the nearest candidates: those before it are further away, and none after it is nearer. -/
def IsNearestId (interfaces : List InterfaceDeclaration) (methods : List Method) (method : Method) (id : MessageId) :
    Prop :=
  ∃ before candidate after distance, methods = before ++ candidate :: after ∧
    OffersId interfaces method candidate distance id ∧
    (∀ other ∈ before, ∀ further rival, OffersId interfaces method other further rival → distance < further) ∧
    ∀ other ∈ after, ∀ further rival, OffersId interfaces method other further rival → distance ≤ further

theorem MessageId.declared?_eq_some_iff {id declared : MessageId} :
    id.declared? = some declared ↔ id = declared ∧ (declared = .absent ∨ ∃ number, declared = .explicit number) := by
  cases id <;> cases declared <;> simp [MessageId.declared?]

namespace Hierarchy

variable {h : Hierarchy} {interface : MessageInterface} {method candidate : Method}

/-- What a method of an interface offers to one that inherits its id. -/
def candidateId? (h : Hierarchy) (method candidate : Method) : Option (Nat × MessageId) :=
  if candidate.name == method.name then do
    let message ← candidate.message
    let id ← message.id.declared?
    let distance ← h.distance? method.declaringInterface candidate.declaringInterface
    return (distance, id)
  else none

theorem idCandidates_eq_filterMap (h : Hierarchy) (interface : MessageInterface) (method : Method) :
    h.idCandidates interface method = interface.methods.filterMap (h.candidateId? method) := by
  rw [idCandidates, MessageInterface.methodsNamed, List.filterMap_filter]
  rfl

theorem candidateId?_eq_some_iff (hdistinct : h.declaredNames.Nodup)
    (hdeclaring : h.contains method.declaringInterface = true) {offer : Nat × MessageId} :
    h.candidateId? method candidate = some offer ↔ OffersId h.declarations method candidate offer.1 offer.2 := by
  obtain ⟨distance, id⟩ := offer
  have hoffer : h.candidateId? method candidate = some (distance, id) ↔ candidate.name = method.name ∧
      ∃ message, candidate.message = some message ∧ message.id.declared? = some id ∧
        h.distance? method.declaringInterface candidate.declaringInterface = some distance := by
    simp only [candidateId?, beq_iff_eq, Option.ite_none_right_eq_some, Option.bind_eq_bind, Option.bind_eq_some_iff,
      Option.pure_def, Option.some.injEq, Prod.mk.injEq]
    grind
  rw [hoffer, distance?_eq_some_iff hdistinct hdeclaring]
  constructor
  · rintro ⟨hname, message, hmessage, hdeclared, hdistance⟩
    obtain ⟨hid, hkind⟩ := MessageId.declared?_eq_some_iff.1 hdeclared
    exact ⟨hname, by rw [hmessage, Option.map_some, hid], hkind, hdistance⟩
  · intro hoffers
    obtain ⟨message, hmessage, hid⟩ := Option.map_eq_some_iff.1 hoffers.own
    exact ⟨hoffers.name, message, hmessage, MessageId.declared?_eq_some_iff.2 ⟨hid, hoffers.declared⟩,
      hoffers.distance⟩

theorem inheritedId?_eq_none_iff (hdistinct : h.declaredNames.Nodup)
    (hdeclaring : h.contains method.declaringInterface = true) :
    h.inheritedId? interface method = none ↔
      ∀ candidate ∈ interface.methods, ∀ distance id, ¬ OffersId h.declarations method candidate distance id := by
  rw [inheritedId?, Option.map_eq_none_iff, firstMinBy_eq_none_iff, idCandidates_eq_filterMap, List.filterMap_eq_nil_iff]
  refine forall₂_congr fun candidate _ => ?_
  rw [Option.eq_none_iff_forall_ne_some]
  constructor
  · intro hnone distance id hoffers
    have hcandidate : candidateId? h method candidate = some (distance, id) :=
      (candidateId?_eq_some_iff hdistinct hdeclaring).2 hoffers
    exact hnone (distance, id) hcandidate
  · intro hnone offer hoffer
    have hoffers := (candidateId?_eq_some_iff hdistinct hdeclaring).1 hoffer
    exact hnone offer.1 offer.2 hoffers

theorem isNearestId_of_inheritedId? (hdistinct : h.declaredNames.Nodup)
    (hdeclaring : h.contains method.declaringInterface = true) {id : MessageId}
    (hid : h.inheritedId? interface method = some id) :
    IsNearestId h.declarations interface.methods method id := by
  obtain ⟨⟨distance, id⟩, hfirst, rfl⟩ := Option.map_eq_some_iff.1 hid
  rw [idCandidates_eq_filterMap] at hfirst
  obtain ⟨before, candidate, after, hsplit, hcandidate, hbefore, hafter⟩ := exists_split_of_firstMinBy_filterMap hfirst
  have hoffer : ∀ {candidate offer}, h.candidateId? method candidate = some offer ↔
      OffersId h.declarations method candidate offer.1 offer.2 := candidateId?_eq_some_iff hdistinct hdeclaring
  refine ⟨before, candidate, after, distance, hsplit, hoffer.1 hcandidate, ?_, ?_⟩
  · intro other hother further rival hoffers
    have hcandidate : h.candidateId? method other = some (further, rival) := hoffer.2 hoffers
    exact hbefore other hother (further, rival) hcandidate
  · intro other hother further rival hoffers
    have hcandidate : h.candidateId? method other = some (further, rival) := hoffer.2 hoffers
    exact hafter other hother (further, rival) hcandidate

/-! ### What resolution does to an id -/

theorem filter_constructionFailures (method : Method) :
    (resolveConstruction method).2.filter (·.isMissingInheritableId) = [] := by
  rcases resolveConstruction_failures_cases method with hnone | ⟨_, _, hunconstructible⟩ | ⟨_, _, hinvalid⟩
  · rw [hnone, List.filter_nil]
  · rw [hunconstructible]
    rfl
  · rw [hinvalid]
    rfl

theorem filter_failures_resolveMethod (h : Hierarchy) (interface : MessageInterface) (method : Method) :
    (h.resolveMethod interface method).failures.filter (·.isMissingInheritableId) =
      (h.resolveMessage interface method).2.filter (·.isMissingInheritableId) := by
  rw [failures_resolveMethod, List.filter_append, filter_constructionFailures, List.append_nil]

theorem message_resolveMethod (h : Hierarchy) (interface : MessageInterface) (method : Method) :
    (h.resolveMethod interface method).descriptor.message = (h.resolveMessage interface method).1 := rfl

section Effective

variable {message : Message}

theorem resolveMessage_of_inheritedId?_eq_none (heffective : interface.effectiveMessage? method = some message)
    (hid : message.id = .inherited) (hnone : h.inheritedId? interface method = none) :
    h.resolveMessage interface method = (some message, [.missingInheritableId method.name]) := by
  simp only [resolveMessage, heffective, if_pos hid, hnone]

theorem resolveMessage_of_inheritedId?_eq_some (heffective : interface.effectiveMessage? method = some message)
    (hid : message.id = .inherited) {id : MessageId} (hfound : h.inheritedId? interface method = some id) :
    h.resolveMessage interface method = (some { message with id }, []) := by
  simp only [resolveMessage, heffective, if_pos hid, hfound]

theorem resolveMessage_of_not_inherited
    (hid : (interface.effectiveMessage? method).map (·.id) ≠ some .inherited) :
    (h.resolveMessage interface method).1 = interface.effectiveMessage? method ∧
      (h.resolveMessage interface method).2.filter (·.isMissingInheritableId) = [] := by
  unfold resolveMessage
  cases heffective : interface.effectiveMessage? method with
  | none => exact ⟨rfl, rfl⟩
  | some message =>
    rw [heffective, Option.map_some, ne_eq, Option.some.injEq] at hid
    simp only [if_neg hid, List.filter_nil, and_self]

end Effective

end Hierarchy

theorem Model.contains_declaringInterface {model : Model} {name : String} {interface : MessageInterface}
    (hinterface : model.interface name = .ok interface) {method : Method} (hmethod : method ∈ interface.methods) :
    model.hierarchy.contains method.declaringInterface = true := by
  obtain ⟨declaration, flattened, _, hflattened, rfl⟩ := interface_eq_ok_iff.1 hinterface
  rw [methods_assemble] at hmethod
  obtain ⟨declared, hdeclared, rfl⟩ := List.mem_map.1 hmethod
  obtain ⟨member, _, hfind, _⟩ := Hierarchy.offersMethod_of_mem hflattened hdeclared
  show model.hierarchy.contains declared.1.name = true
  rw [(mem_of_findInterface? hfind).2]
  exact Hierarchy.contains_of_declared hfind

/-- **An inherited id is the nearest one.** In an interface of a batch that declares every name once, take a method whose effective message is to inherit its id. If no method of the interface offers an id to it, the message stays as it is, and the resolution has exactly one failure about that. If one does, there is no such failure, and the message gets the id of the first of the nearest methods that offer one. In all other cases the message is the effective one, with its id. -/
theorem inheritedId_nearest (batch : Batch) (hdistinct : batch.interfaceNames.Nodup) {name : String}
    {interface : MessageInterface} (hinterface : (Model.ofBatch batch).interface name = .ok interface)
    {method : Method} {resolution : Resolution}
    (hmem : (method, resolution) ∈ ((Hierarchy.ofBatch batch).resolve interface).methods) :
    (∀ message, interface.effectiveMessage? method = some message → message.id = .inherited →
      ((∀ candidate ∈ interface.methods, ∀ distance id, ¬ OffersId batch.interfaces method candidate distance id) →
        resolution.descriptor.message = some message ∧
          resolution.failures.filter (·.isMissingInheritableId) = [.missingInheritableId method.name]) ∧
      ((∃ candidate ∈ interface.methods, ∃ distance id, OffersId batch.interfaces method candidate distance id) →
        ∃ id, IsNearestId batch.interfaces interface.methods method id ∧
          resolution.descriptor.message = some { message with id } ∧
          resolution.failures.filter (·.isMissingInheritableId) = [])) ∧
    ((interface.effectiveMessage? method).map (·.id) ≠ some .inherited →
      resolution.descriptor.message = interface.effectiveMessage? method ∧
        resolution.failures.filter (·.isMissingInheritableId) = []) := by
  rw [Hierarchy.methods_resolve] at hmem
  obtain ⟨method, hmethod, hpair⟩ := List.mem_map.1 hmem
  cases hpair
  have hdeclaring := Model.contains_declaringInterface hinterface hmethod
  have hoffered : (Hierarchy.ofBatch batch).inheritedId? interface method = none ↔
      ∀ candidate ∈ interface.methods, ∀ distance id, ¬ OffersId batch.interfaces method candidate distance id :=
    Hierarchy.inheritedId?_eq_none_iff hdistinct hdeclaring
  rw [Hierarchy.filter_failures_resolveMethod, Hierarchy.message_resolveMethod]
  refine ⟨fun message hmessage hid => ⟨fun hnone => ?_, fun hsome => ?_⟩, Hierarchy.resolveMessage_of_not_inherited⟩
  · rw [Hierarchy.resolveMessage_of_inheritedId?_eq_none hmessage hid (hoffered.2 hnone)]
    exact ⟨rfl, rfl⟩
  · cases hfound : (Hierarchy.ofBatch batch).inheritedId? interface method with
    | none =>
      obtain ⟨candidate, hcandidate, distance, id, hoffers⟩ := hsome
      exact absurd hoffers (hoffered.1 hfound candidate hcandidate distance id)
    | some id =>
      have hnearest : IsNearestId batch.interfaces interface.methods method id :=
        Hierarchy.isNearestId_of_inheritedId? (h := Hierarchy.ofBatch batch) hdistinct hdeclaring hfound
      refine ⟨id, hnearest, ?_⟩
      rw [Hierarchy.resolveMessage_of_inheritedId?_eq_some hmessage hid hfound]
      exact ⟨rfl, rfl⟩

/-! ### A loss in a circle -/

def idlessLoss : MethodDeclaration :=
  { name := "lost", message := some { value := "Lost", id := .inherited } }

def lossOf (typeName : String) (number : Nat) : MethodDeclaration :=
  { name := "lost", message := some { value := "Lost %s", id := .explicit number },
    parameters := [{ name := "what", typeName }] }

def circleLower : InterfaceDeclaration :=
  { name := "a.Lower", kind := .bundle, parents := ["a.Upper"], methods := [idlessLoss] }

def circleUpper : InterfaceDeclaration :=
  { name := "a.Upper", kind := .bundle, parents := ["a.Lower"], methods := [lossOf "int" 5, lossOf "long" 6] }

def circledLosses : Batch :=
  { interfaces := [circleLower, circleUpper] }

def circledMethods : FlattenedMethods :=
  ⟨[(circleLower, idlessLoss), (circleUpper, lossOf "int" 5), (circleUpper, lossOf "long" 6)], []⟩

theorem interface_circledLosses :
    (Model.ofBatch circledLosses).interface "a.Lower" =
      .ok ((Model.ofBatch circledLosses).assemble circleLower circledMethods) := by
  have hwalk : (Hierarchy.ofBatch circledLosses).walk "a.Lower" = ⟨["a.Lower", "a.Upper"], []⟩ := by
    have hlower : (Hierarchy.ofBatch circledLosses).parents "a.Lower" = ["a.Upper"] := rfl
    have hupper : (Hierarchy.ofBatch circledLosses).parents "a.Upper" = ["a.Lower"] := rfl
    rw [Hierarchy.walk, Hierarchy.walkFrom_enter (by decide) rfl, hlower, List.append_nil,
      Hierarchy.walkFrom_enter (by decide) rfl, hupper, List.append_nil, Hierarchy.walkFrom_known (by decide),
      Hierarchy.walkFrom_nil]
  have hclosure : ((Hierarchy.ofBatch circledLosses).closure "a.Lower").map
      (Hierarchy.ofBatch circledLosses).declaration? = [circleLower, circleUpper].map some := by
    rw [Hierarchy.closure, hwalk]
    rfl
  have hflattened : (Hierarchy.ofBatch circledLosses).flattenedMethods "a.Lower" = .ok circledMethods := by
    rw [Hierarchy.flattenedMethods_of_declarations rfl hclosure, Hierarchy.delegatedOf, Hierarchy.basesOf, hwalk]
    decide +kernel
  exact Model.interface_eq_ok_iff.2 ⟨circleLower, circledMethods, rfl, hflattened, rfl⟩

theorem isDistance_circledLosses : IsDistance circledLosses.interfaces "a.Lower" "a.Upper" 1 := by
  constructor
  · show ClimbsIn _ 1 _ _
    exact .step ⟨circleLower, List.mem_cons_self, rfl, List.mem_cons_self⟩ (.stay _)
  · intro steps hclimbs
    refine Nat.pos_of_ne_zero fun hzero => ?_
    rw [hzero] at hclimbs
    exact absurd (climbsIn_zero_iff.1 hclimbs) (by decide)

theorem inheritedId_nearest_circledLosses :
    circledLosses.interfaceNames.Nodup ∧ ∃ interface, (Model.ofBatch circledLosses).interface "a.Lower" = .ok interface ∧
      ∃ method resolution, (method, resolution) ∈ ((Hierarchy.ofBatch circledLosses).resolve interface).methods ∧
        (interface.effectiveMessage? method).map (·.id) = some .inherited ∧
        resolution.descriptor.message.map (·.id) = some (.explicit 5) := by
  have hdistinct : circledLosses.interfaceNames.Nodup := by decide
  let model := Model.ofBatch circledLosses
  let interface := model.assemble circleLower circledMethods
  let method := model.methodOf circledMethods (circleLower, idlessLoss)
  let first := model.methodOf circledMethods (circleUpper, lossOf "int" 5)
  let second := model.methodOf circledMethods (circleUpper, lossOf "long" 6)
  have hmethods : interface.methods = [method, first, second] := Model.methods_assemble ..
  have hmem : (method, model.hierarchy.resolveMethod interface method) ∈ (model.hierarchy.resolve interface).methods :=
    model.hierarchy.mem_methods_resolve (by rw [hmethods]; exact List.mem_cons_self)
  have hoffers : OffersId circledLosses.interfaces method first 1 (.explicit 5) :=
    { name := rfl, own := rfl, declared := Or.inr ⟨5, rfl⟩, distance := isDistance_circledLosses }
  have hall := (inheritedId_nearest circledLosses hdistinct interface_circledLosses hmem).1 _ rfl rfl
  obtain ⟨id, ⟨before, candidate, after, distance, hsplit, hcandidate, hbefore, _⟩, hmessage, _⟩ :=
    hall.2 ⟨first, by rw [hmethods]; decide, 1, .explicit 5, hoffers⟩
  refine ⟨hdistinct, interface, interface_circledLosses, method, _, hmem, rfl, ?_⟩
  rw [hmessage, Option.map_some]
  show some id = _
  rw [hmethods] at hsplit
  rw [← hcandidate.own]
  match before, hsplit with
  | [], hsplit =>
    -- The method itself declares no id.
    cases hsplit
    obtain hdeclared | ⟨_, hdeclared⟩ := hcandidate.declared <;> cases hcandidate.own.trans (congrArg some hdeclared)
  | [_], hsplit =>
    cases hsplit
    rfl
  | [_, _], hsplit =>
    -- The second candidate is no nearer than the first one.
    cases hsplit
    have hless := hbefore first (List.mem_cons_of_mem _ List.mem_cons_self) 1 _ hoffers
    rw [hcandidate.distance.unique isDistance_circledLosses] at hless
    exact absurd hless (Nat.lt_irrefl 1)
  | _ :: _ :: _ :: _, hsplit =>
    simp at hsplit

end TypedMessages

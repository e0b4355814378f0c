import TypedMessages.Proofs.Report.Generation
import TypedMessages.Proofs.Resolution.InheritedId

/-!
# Messages that methods share

The methods of an interface with one name and one number of format arguments share one message: in a report that allows generation exactly one of them has it as its own, and the others copy it. The copies have its text, its format and its id. Only an id that is to be inherited is searched for each method anew, from the interface that declares that method, and so methods that are declared by different interfaces can get different ids with the same text.
-/

namespace TypedMessages

/-! ### The owner of a message -/

/-- The method has a message of its own, which all methods with that name and number of format arguments take. -/
structure MessageInterface.Owns (interface : MessageInterface) (owner : Method) (name : String) (count : Nat)
    (message : Message) : Prop where
  mem : owner ∈ interface.methods
  name : owner.name = name
  count : owner.formatParameterCount = count
  message : owner.message = some message

section Owner

variable {h : Hierarchy} {interface : MessageInterface} {method : Method} {message : Message}

theorem exists_owner_of_effectiveMessage? (hmethod : method ∈ interface.methods)
    (heffective : interface.effectiveMessage? method = some message) :
    ∃ owner own inherited, interface.Owns owner method.name method.formatParameterCount own ∧
      message = { own with inherited } := by
  unfold MessageInterface.effectiveMessage? at heffective
  split at heffective
  · next own hown =>
    cases heffective
    exact ⟨method, message, message.inherited, ⟨hmethod, rfl, rfl, hown⟩, rfl⟩
  · obtain ⟨owner, howner, hmessage⟩ := Option.bind_eq_some_iff.1 heffective
    obtain ⟨own, hown, rfl⟩ := Option.map_eq_some_iff.1 hmessage
    obtain ⟨hmem, hname⟩ := List.mem_filter.1 (List.mem_of_find?_eq_some howner)
    have hcount := List.find?_some howner
    rw [Bool.and_eq_true, beq_iff_eq] at hcount
    exact ⟨owner, own, true, ⟨hmem, beq_iff_eq.1 hname, hcount.1, hown⟩, rfl⟩

theorem exists_owner_of_failures_eq_nil (hmethod : method ∈ interface.methods)
    (hfailures : (h.resolveMethod interface method).failures = []) :
    ∃ owner own id inherited, interface.Owns owner method.name method.formatParameterCount own ∧
      (h.resolveMethod interface method).descriptor.message = some { own with id, inherited } ∧
      (own.id ≠ .inherited → id = own.id) ∧
      (own.id = .inherited → h.inheritedId? interface method = some id) := by
  rw [Hierarchy.failures_resolveMethod, List.append_eq_nil_iff] at hfailures
  obtain ⟨effective, id, heffective, hmessage, hown, hfound⟩ :=
    Hierarchy.exists_message_of_resolveMessage hfailures.1
  obtain ⟨owner, own, inherited, howns, rfl⟩ := exists_owner_of_effectiveMessage? hmethod heffective
  exact ⟨owner, own, id, inherited, howns, hmessage, hown, hfound⟩

theorem MessageInterface.Owns.unique {name : String} {count : Nat} {owner other : Method} {own others : Message}
    (hsilent : Silent (Check.messageSlots (h.resolve interface))) (howner : interface.Owns owner name count own)
    (hother : interface.Owns other name count others) : owner = other ∧ own = others := by
  have hown : owner.message.isSome = true := by rw [howner.message]; rfl
  have hothers : other.message.isSome = true := by rw [hother.message]; rfl
  have hname : owner.name = other.name := howner.name.trans hother.name.symm
  have hcount : owner.formatParameterCount = other.formatParameterCount := howner.count.trans hother.count.symm
  have hsame : owner = other :=
    Check.eq_of_sameSlot_of_silent hsilent howner.mem hother.mem hown hothers hname hcount
  subst hsame
  have hmessages : some own = some others := howner.message.symm.trans hother.message
  exact ⟨rfl, Option.some.inj hmessages⟩

end Owner

/-! ### Slots of a report -/

theorem Model.exists_owner_of_descriptor {model : Model} {declaration : InterfaceDeclaration}
    {flattened : FlattenedMethods} {descriptor : Descriptor}
    (hfailures : ∀ method ∈ (model.assemble declaration flattened).methods,
      (model.hierarchy.resolveMethod (model.assemble declaration flattened) method).failures = [])
    (hmem : descriptor ∈ (model.hierarchy.resolve (model.assemble declaration flattened)).resolutions.map
      (·.descriptor)) :
    ∃ owner own id inherited,
      (model.assemble declaration flattened).Owns owner descriptor.name descriptor.formatParameterCount own ∧
      descriptor.message = some { own with id, inherited } ∧ (own.id ≠ .inherited → id = own.id) ∧
      (own.id = .inherited →
        model.hierarchy.idFound? descriptor.declaringInterface descriptor.name flattened = some id) := by
  rw [Hierarchy.resolve, List.map_map] at hmem
  obtain ⟨method, hmethod, rfl⟩ := List.mem_map.1 hmem
  obtain ⟨owner, own, id, inherited, howns, hmessage, hown, hfound⟩ :=
    exists_owner_of_failures_eq_nil hmethod (hfailures method hmethod)
  refine ⟨owner, own, id, inherited, howns, hmessage, hown, fun hid => ?_⟩
  rw [methods_assemble] at hmethod
  obtain ⟨declared, _, rfl⟩ := List.mem_map.1 hmethod
  rw [← hfound hid, inheritedId?_assemble]
  rfl

open Check ( messageAnnotation) in
/-- **One slot, one message.** In every report of a batch without faults that allows generation, the methods with one name and one number of format arguments have messages with the same text and the same format, those of the one method that owns the message. Their ids are the same as well, unless the owner's id is to be inherited and the methods are declared by different interfaces: then each has the id that is found from the interface that declares it. -/
theorem slot_message_shared (batch : Batch) (hfaults : batch.faults = []) :
    ∃ report, (Session.ofBatch batch).run = .ok report ∧
      ∀ shard ∈ report.interfaces, shard.generationAllowed = true →
        ∃ interface flattened, (Model.ofBatch batch).interface shard.interface = .ok interface ∧
          (Hierarchy.ofBatch batch).flattenedMethods shard.interface = .ok flattened ∧
          ∀ left ∈ shard.descriptors, ∀ right ∈ shard.descriptors, left.name = right.name →
            left.formatParameterCount = right.formatParameterCount →
              ∃ owner own leftMessage rightMessage,
                interface.Owns owner left.name left.formatParameterCount own ∧
                (∀ other message, interface.Owns other left.name left.formatParameterCount message → other = owner) ∧
                left.message = some leftMessage ∧ right.message = some rightMessage ∧
                leftMessage.text = own.text ∧ rightMessage.text = own.text ∧
                leftMessage.format = own.format ∧ rightMessage.format = own.format ∧
                (own.id ≠ .inherited ∨ left.declaringInterface = right.declaringInterface →
                  leftMessage.id = rightMessage.id) ∧
                (own.id = .inherited →
                  (Hierarchy.ofBatch batch).idFound? left.declaringInterface left.name flattened =
                      some leftMessage.id ∧
                    (Hierarchy.ofBatch batch).idFound? right.declaringInterface right.name flattened =
                      some rightMessage.id) := by
  obtain ⟨report, hrun, hall⟩ := exists_silent_of_generationAllowed hfaults
  refine ⟨report, hrun, fun shard hshard hallowed => ?_⟩
  obtain ⟨declaration, flattened, hflattened, hinterface, hdescriptors, hsilent⟩ := hall shard hshard hallowed
  have hcounts := hsilent .parameterCount (by decide)
  have hconstructors := hsilent .exceptionConstructor (by decide)
  have hresolutions := hsilent .resolution (by decide)
  have hslots := hsilent messageAnnotation (by decide)
  simp only [Check.run, List.flatMap_singleton] at hcounts hconstructors hresolutions hslots
  refine ⟨_, flattened, hinterface, hflattened, fun left hleft right hright hname hcount => ?_⟩
  rw [hdescriptors] at hleft hright
  obtain ⟨owner, own, leftId, _, howns, hleftMessage, hleftOwn, hleftFound⟩ := Model.exists_owner_of_descriptor
    (fun _ hmethod => failures_eq_nil_of_silent hcounts hconstructors hresolutions hmethod) hleft
  obtain ⟨_, others, rightId, _, hothers, hrightMessage, hrightOwn, hrightFound⟩ := Model.exists_owner_of_descriptor
    (fun _ hmethod => failures_eq_nil_of_silent hcounts hconstructors hresolutions hmethod) hright
  rw [← hname, ← hcount] at hothers
  obtain ⟨_, rfl⟩ := howns.unique hslots hothers
  have honly : ∀ other message, MessageInterface.Owns _ other left.name left.formatParameterCount message →
      other = owner := fun other message hother => (hother.unique hslots howns).1
  refine ⟨owner, own, _, _, howns, honly, hleftMessage, hrightMessage, rfl, rfl, rfl, rfl, fun hsame => ?_,
    fun hid => ⟨hleftFound hid, hrightFound hid⟩⟩
  show leftId = rightId
  by_cases hid : own.id = .inherited
  · have hdeclaring := hsame.resolve_left fun hne => hne hid
    have hfound := hleftFound hid
    rw [hdeclaring, hname, hrightFound hid] at hfound
    exact (Option.some.inj hfound).symm
  · rw [hleftOwn hid, hrightOwn hid]

/-! ### Two losses in one slot -/

namespace Stacked

variable (upper lower : List MethodDeclaration)

def resolvedUpper : ResolvedInterface :=
  let model := Model.ofBatch (stacked upper lower)
  model.hierarchy.resolve (model.assemble (upperInterface upper)
    ⟨firstByKey [] (Hierarchy.methodsOf [upperInterface upper]), []⟩)

def resolvedLower : ResolvedInterface :=
  let model := Model.ofBatch (stacked upper lower)
  model.hierarchy.resolve (model.assemble (lowerInterface lower)
    ⟨firstByKey [] (Hierarchy.methodsOf [lowerInterface lower, upperInterface upper]), []⟩)

def lowerReport : InterfaceReport :=
  (Session.ofBatch (stacked upper lower)).reportOf [resolvedUpper upper lower, resolvedLower upper lower]
    (resolvedLower upper lower)

theorem resolve_upper : (Model.ofBatch (stacked upper lower)).resolve "a.Upper" = .ok (resolvedUpper upper lower) := by
  refine Model.resolve_eq_ok_iff.2 ⟨_, Model.interface_eq_ok_iff.2 ?_, rfl⟩
  exact ⟨upperInterface upper, _, rfl, flattenedMethods_upper, rfl⟩

theorem resolve_lower : (Model.ofBatch (stacked upper lower)).resolve "a.Lower" = .ok (resolvedLower upper lower) := by
  refine Model.resolve_eq_ok_iff.2 ⟨_, Model.interface_eq_ok_iff.2 ?_, rfl⟩
  exact ⟨lowerInterface lower, _, rfl, flattenedMethods_lower, rfl⟩

theorem lowerReport_mem {report : BatchReport} (h : (Session.ofBatch (stacked upper lower)).run = .ok report) :
    lowerReport upper lower ∈ report.interfaces := by
  have hfaults : (stacked upper lower).faults = [] := faults_eq_nil
  obtain ⟨resolved, hresolved, _, hrun⟩ := Session.run_eq_ok (Batch.namesResolved_of_faults hfaults)
  have hboth : ["a.Upper", "a.Lower"].mapM (Model.ofBatch (stacked upper lower)).resolve =
      .ok [resolvedUpper upper lower, resolvedLower upper lower] :=
    mapM_eq_ok_iff.2 (.cons (resolve_upper upper lower) (.cons (resolve_lower upper lower) .nil))
  cases hboth.symm.trans hresolved
  rw [Except.ok.inj (h.symm.trans hrun)]
  exact List.mem_map_of_mem (List.mem_cons_of_mem _ List.mem_cons_self)

end Stacked

def lossesWith (id : MessageId) : List MethodDeclaration :=
  [{ name := "lost", returnType := "java.lang.String", message := some { value := "Lost", id := .explicit 1 } },
   { name := "lost", returnType := "java.lang.String", message := some { value := "Lost %s", id },
     parameters := [{ name := "place", typeName := "java.lang.String" }] }]

/-- Losses in a lower interface: one with an id, and one with a count, which has no message. -/
def lossesBelow : List MethodDeclaration :=
  [{ name := "lost", returnType := "java.lang.String", message := some { value := "Lost %s of %s", id := .explicit 2 },
     parameters :=
       [{ name := "part", typeName := "java.lang.String" }, { name := "whole", typeName := "java.lang.String" }] },
   { name := "lost", returnType := "java.lang.String", parameters := [{ name := "count", typeName := "int" }] }]

theorem slot_message_shared_explicitId :
    (stacked (lossesWith (.explicit 3)) lossesBelow).faults = [] ∧
      ∃ report, (Session.ofBatch (stacked (lossesWith (.explicit 3)) lossesBelow)).run = .ok report ∧
        ∃ shard ∈ report.interfaces, shard.generationAllowed = true ∧ shard.descriptors.length = 4 ∧
          ∀ left ∈ shard.descriptors, ∀ right ∈ shard.descriptors, left.name = right.name →
            left.formatParameterCount = right.formatParameterCount →
              (∃ leftMessage rightMessage, left.message = some leftMessage ∧ right.message = some rightMessage ∧
                leftMessage.text = rightMessage.text ∧ leftMessage.format = rightMessage.format) ∧
              left.message.map (·.id) = right.message.map (·.id) := by
  have hfaults : (stacked (lossesWith (.explicit 3)) lossesBelow).faults = [] := Stacked.faults_eq_nil
  obtain ⟨report, hrun, hall⟩ := slot_message_shared _ hfaults
  have hmem := Stacked.lowerReport_mem _ _ hrun
  have hallowed : (Stacked.lowerReport (lossesWith (.explicit 3)) lossesBelow).generationAllowed = true := by
    decide +kernel
  have hids : ∀ left ∈ (Stacked.lowerReport (lossesWith (.explicit 3)) lossesBelow).descriptors,
      ∀ right ∈ (Stacked.lowerReport (lossesWith (.explicit 3)) lossesBelow).descriptors, left.name = right.name →
        left.formatParameterCount = right.formatParameterCount →
          left.message.map (·.id) = right.message.map (·.id) := by
    decide +kernel
  obtain ⟨_, _, _, _, hslots⟩ := hall _ hmem hallowed
  refine ⟨hfaults, report, hrun, _, hmem, hallowed, by decide +kernel, ?_⟩
  intro left hleft right hright hname hcount
  obtain ⟨_, _, leftMessage, rightMessage, _, _, hleftMessage, hrightMessage, hleftText, hrightText, hleftFormat,
    hrightFormat, _⟩ := hslots left hleft right hright hname hcount
  have htext : leftMessage.text = rightMessage.text := hleftText.trans hrightText.symm
  have hformat : leftMessage.format = rightMessage.format := hleftFormat.trans hrightFormat.symm
  exact ⟨⟨leftMessage, rightMessage, hleftMessage, hrightMessage, htext, hformat⟩,
    hids left hleft right hright hname hcount⟩

/-- Where the id is to be inherited, the loss that copies the message finds another one than the loss that owns it. -/
theorem slot_ids_differ_inheritedId :
    (stacked (lossesWith .inherited) lossesBelow).faults = [] ∧
      ∃ report, (Session.ofBatch (stacked (lossesWith .inherited) lossesBelow)).run = .ok report ∧
        ∃ shard ∈ report.interfaces, shard.generationAllowed = true ∧
          ∃ left ∈ shard.descriptors, ∃ right ∈ shard.descriptors, left.name = right.name ∧
            left.formatParameterCount = right.formatParameterCount ∧
            left.message.map (·.id) = some (.explicit 2) ∧ right.message.map (·.id) = some (.explicit 1) := by
  have hfaults : (stacked (lossesWith .inherited) lossesBelow).faults = [] := Stacked.faults_eq_nil
  obtain ⟨_, _, _, hrun⟩ := Session.run_eq_ok (Batch.namesResolved_of_faults hfaults)
  exact ⟨hfaults, _, hrun, _, Stacked.lowerReport_mem _ _ hrun, by decide +kernel, by decide +kernel⟩

end TypedMessages

import TypedMessages.Proofs.Check.Silence
import TypedMessages.Proofs.Resolution.NearestId

/-!
# Where a message comes from

An interface marks those of its methods that take over a message when it is put together, and the message is looked for when the methods are resolved. Both go through the same methods, so they agree: a method that has a message keeps it, a marked one copies that of the first method with its name and number of format arguments, and any other one is resolved without a message and fails for want of it.
-/

namespace TypedMessages

/-- The first method of the interface with a message, among those with the name and the number of format arguments of a method. -/
structure MessageInterface.IsSource (interface : MessageInterface) (method source : Method) (own : Message) : Prop where
  name : source.name = method.name
  count : source.formatParameterCount = method.formatParameterCount
  own : source.message = some own
  first : ∃ before after, interface.methods = before ++ source :: after ∧ ∀ other ∈ before,
    other.name = method.name → other.formatParameterCount = method.formatParameterCount → other.message = none

/-- The method has no message, and neither has any of its name and number of format arguments. -/
def MessageInterface.LacksMessage (interface : MessageInterface) (method : Method) : Prop :=
  method.message = none ∧ ∀ other ∈ interface.methods, other.name = method.name →
    other.formatParameterCount = method.formatParameterCount → other.message = none

/-- How a method of an interface comes by its message, if it does. -/
inductive MessageInterface.Origin (interface : MessageInterface) (method : Method) : Option Message → Prop
  | own {message : Message} (has : method.message = some message) : Origin interface method (some message)
  | copied {source : Method} {own : Message} (lacks : method.message = none)
      (source : interface.IsSource method source own) : Origin interface method (some { own with inherited := true })
  | missing (lacks : interface.LacksMessage method) : Origin interface method none

namespace MessageInterface

variable {interface : MessageInterface} {method source : Method} {own : Message}

theorem IsSource.mem (h : interface.IsSource method source own) : source ∈ interface.methods := by
  obtain ⟨before, after, hsplit, _⟩ := h.first
  rw [hsplit]
  exact List.mem_append_right _ List.mem_cons_self

theorem IsSource.not_lacksMessage (h : interface.IsSource method source own) : ¬ interface.LacksMessage method :=
  fun hlacks => by
    have hnone := hlacks.2 source h.mem h.name h.count
    rw [h.own] at hnone
    cases hnone

theorem messageSource?_eq_find? (interface : MessageInterface) (method : Method) :
    interface.messageSource? method = interface.methods.find? fun other =>
      other.name == method.name && (other.formatParameterCount == method.formatParameterCount && other.message.isSome) := by
  simp only [messageSource?, methodsNamed, List.find?_filter, Bool.decide_and, Bool.decide_eq_true]

theorem isSource_of_messageSource? (h : interface.messageSource? method = some source)
    (hown : source.message = some own) : interface.IsSource method source own := by
  rw [messageSource?_eq_find?, List.find?_eq_some_iff_append] at h
  obtain ⟨hlike, before, after, hsplit, hbefore⟩ := h
  simp only [Bool.and_eq_true, beq_iff_eq] at hlike
  obtain ⟨hsourceName, hsourceCount, _⟩ := hlike
  refine ⟨hsourceName, hsourceCount, hown, before, after, hsplit, fun other hother hname hcount => ?_⟩
  simpa [hname, hcount] using hbefore other hother

theorem origin_effectiveMessage? (interface : MessageInterface) (method : Method) :
    interface.Origin method (interface.effectiveMessage? method) := by
  unfold effectiveMessage?
  split
  · next message hmessage => exact .own hmessage
  · next hnone =>
    cases hsource : interface.messageSource? method with
    | none =>
      refine .missing ⟨hnone, fun other hother hname hcount => ?_⟩
      rw [messageSource?_eq_find?, List.find?_eq_none] at hsource
      simpa [hname, hcount] using hsource other hother
    | some source =>
      have hlike := List.find?_some hsource
      rw [Bool.and_eq_true] at hlike
      obtain ⟨own, hown⟩ := Option.isSome_iff_exists.1 hlike.2
      simp only [Option.bind_some, hown, Option.map_some]
      exact .copied hnone (isSource_of_messageSource? hsource hown)

theorem lacksMessage_of_effectiveMessage? (h : interface.effectiveMessage? method = none) :
    interface.LacksMessage method := by
  have horigin := interface.origin_effectiveMessage? method
  rw [h] at horigin
  cases horigin with
  | missing hlacks => exact hlacks

end MessageInterface

/-! ### The marks of an interface -/

section Marks

variable {model : Model} {name : String} {interface : MessageInterface} {method : Method}

theorem Model.inheritsMessage_iff (hinterface : model.interface name = .ok interface)
    (hmethod : method ∈ interface.methods) :
    method.inheritsMessage = true ↔ method.message = none ∧ ¬ interface.LacksMessage method := by
  obtain ⟨declaration, flattened, _, _, rfl⟩ := interface_eq_ok_iff.1 hinterface
  rw [methods_assemble] at hmethod
  obtain ⟨declared, _, rfl⟩ := List.mem_map.1 hmethod
  simp +contextual [MessageInterface.LacksMessage, methods_assemble, methodOf, Method.amongSiblings, List.any_filter,
    Option.isSome_iff_ne_none]

/-- Messages are copied when methods are resolved, and not before. -/
theorem Model.inherited_eq_false (hinterface : model.interface name = .ok interface)
    (hmethod : method ∈ interface.methods) {message : Message} (hmessage : method.message = some message) :
    message.inherited = false := by
  obtain ⟨declaration, flattened, _, _, rfl⟩ := interface_eq_ok_iff.1 hinterface
  rw [methods_assemble] at hmethod
  obtain ⟨declared, _, rfl⟩ := List.mem_map.1 hmethod
  obtain ⟨_, _, rfl⟩ := Option.map_eq_some_iff.1 hmessage
  rfl

end Marks

/-! ### What resolution does to a message -/

namespace Hierarchy

theorem exists_message_eq_map (h : Hierarchy) (interface : MessageInterface) (method : Method) :
    ∃ id : Message → MessageId, (h.resolveMethod interface method).descriptor.message =
      (interface.effectiveMessage? method).map fun message => { message with id := id message } := by
  rw [message_resolveMethod]
  unfold resolveMessage
  split
  · next hnone => exact ⟨Message.id, by rw [hnone, Option.map_none]⟩
  · next message hmessage =>
    rw [hmessage]
    split
    · split
      · next id _ => exact ⟨fun _ => id, rfl⟩
      · exact ⟨Message.id, rfl⟩
    · exact ⟨Message.id, rfl⟩

theorem missingMessage_mem_failures_iff {h : Hierarchy} {interface : MessageInterface} {method : Method} {name : String}
    {count : Nat} : .missingMessage name count ∈ (h.resolveMethod interface method).failures ↔
      (name = method.name ∧ count = method.formatParameterCount) ∧ interface.effectiveMessage? method = none := by
  have hconstruction : ResolutionFailure.missingMessage name count ∉ (resolveConstruction method).2 := by
    rcases resolveConstruction_failures_cases method with hnone | ⟨_, _, hfailed⟩ | ⟨_, _, hfailed⟩
    · simp [hnone]
    · simp [hfailed]
    · simp [hfailed]
  simp only [failures_resolveMethod, List.mem_append, hconstruction, or_false]
  unfold resolveMessage
  cases interface.effectiveMessage? method with
  | none => simp
  | some message =>
    simp only [reduceCtorEq, and_false, iff_false]
    split
    · split <;> simp
    · simp

end Hierarchy

/-- **Where a message comes from.** In every interface that is put together, a method has a message of its own if its descriptor has one that is not inherited, and is marked if its descriptor has one that is; that one has the text and the format of the first message among the methods with its name and number of format arguments. A method that has neither fails for want of a message, and its descriptor has none; no other method does. -/
theorem message_origin_agrees (model : Model) (h : Hierarchy) {name : String} {interface : MessageInterface}
    {method : Method} {resolution : Resolution} (hinterface : model.interface name = .ok interface)
    (hmethod : (method, resolution) ∈ (h.resolve interface).methods) :
    (method.message.isSome = true ↔
      ∃ message, resolution.descriptor.message = some message ∧ message.inherited = false) ∧
    (method.inheritsMessage = true ↔
      ∃ message, resolution.descriptor.message = some message ∧ message.inherited = true) ∧
    (∀ message, resolution.descriptor.message = some message → message.inherited = true →
      ∃ source own, interface.IsSource method source own ∧ message.text = own.text ∧ message.format = own.format) ∧
    (.missingMessage method.name method.formatParameterCount ∈ resolution.failures ↔
      method.message = none ∧ method.inheritsMessage = false) ∧
    (∀ name count, .missingMessage name count ∈ resolution.failures →
      name = method.name ∧ count = method.formatParameterCount ∧ resolution.descriptor.message = none) := by
  rw [h.methods_resolve] at hmethod
  obtain ⟨resolved, hmem, heq⟩ := List.mem_map.1 hmethod
  obtain ⟨rfl, rfl⟩ := Prod.mk.inj heq
  obtain ⟨id, hmessage⟩ := h.exists_message_eq_map interface resolved
  have hmark := Model.inheritsMessage_iff hinterface hmem
  have horigin := interface.origin_effectiveMessage? resolved
  simp only [Hierarchy.missingMessage_mem_failures_iff, hmessage]
  generalize interface.effectiveMessage? resolved = effective at horigin
  cases horigin with
  | own has =>
    have hown := Model.inherited_eq_false hinterface hmem has
    have hunmarked : resolved.inheritsMessage = false := by simpa [has] using hmark
    simp [has, hown, hunmarked]
  | @copied source own lacks hsource =>
    have hmarked := hmark.2 ⟨lacks, hsource.not_lacksMessage⟩
    simpa [lacks, hmarked] using ⟨source, own, hsource, rfl, rfl⟩
  | missing hlacks =>
    have hunmarked : resolved.inheritsMessage = false := by simpa [hlacks] using hmark
    simp [hlacks.1, hunmarked]

def arrivals : Batch :=
  stacked
    [{ name := "arrived", returnType := "java.lang.String", message := some { value := "Arrived at %s" },
       parameters := [{ name := "place", typeName := "java.lang.String" }] }]
    [{ name := "arrived", returnType := "java.lang.String", parameters := [{ name := "gate", typeName := "int" }] },
     { name := "arrived", returnType := "java.lang.String" }]

theorem message_origin_agrees_arrivals :
    ∃ interface, (Model.ofBatch arrivals).interface "a.Lower" = .ok interface ∧ ∃ copying lacking owning,
      interface.methods = [copying, lacking, owning] ∧
      (∃ message source own,
        ((Hierarchy.ofBatch arrivals).resolveMethod interface copying).descriptor.message = some message ∧
          message.inherited = true ∧ interface.IsSource copying source own ∧ message.text = own.text) ∧
      .missingMessage lacking.name lacking.formatParameterCount ∈
        ((Hierarchy.ofBatch arrivals).resolveMethod interface lacking).failures ∧
      ∃ message, ((Hierarchy.ofBatch arrivals).resolveMethod interface owning).descriptor.message = some message ∧
        message.inherited = false := by
  let model := Model.ofBatch arrivals
  have hmarks : ∃ interface, model.interface "a.Lower" = .ok interface ∧
      interface.methods.map (fun method => (method.message.isSome, method.inheritsMessage)) =
        [(false, true), (false, false), (true, false)] := by
    refine ⟨_, Model.interface_eq_ok_iff.2 ⟨_, _, rfl, Stacked.flattenedMethods_lower, rfl⟩, ?_⟩
    decide +kernel
  obtain ⟨interface, hinterface, hmarks⟩ := hmarks
  obtain ⟨copying, rest, hfirst, hcopying, hrest⟩ := List.map_eq_cons_iff.1 hmarks
  obtain ⟨lacking, rest, rfl, hlacking, hrest⟩ := List.map_eq_cons_iff.1 hrest
  obtain ⟨owning, rest, rfl, howning, hrest⟩ := List.map_eq_cons_iff.1 hrest
  obtain rfl := List.map_eq_nil_iff.1 hrest
  simp only [Prod.mk.injEq] at hcopying hlacking howning
  have hagrees (method : Method) (hmem : method ∈ interface.methods) :=
    message_origin_agrees model model.hierarchy hinterface (model.hierarchy.mem_methods_resolve hmem)
  obtain ⟨_, hcopies, hsource, _⟩ := hagrees copying (by simp [hfirst])
  obtain ⟨_, _, _, hfails, _⟩ := hagrees lacking (by simp [hfirst])
  obtain ⟨howns, _⟩ := hagrees owning (by simp [hfirst])
  obtain ⟨message, hmessage, hinherited⟩ := hcopies.1 hcopying.2
  obtain ⟨source, own, his, htext, _⟩ := hsource message hmessage hinherited
  have hnone : lacking.message = none := by simpa using hlacking.1
  have hmissing := hfails.2 ⟨hnone, hlacking.2⟩
  have howned := howns.1 howning.1
  exact ⟨interface, hinterface, copying, lacking, owning, hfirst,
    ⟨message, source, own, hmessage, hinherited, his, htext⟩, hmissing, howned⟩

end TypedMessages

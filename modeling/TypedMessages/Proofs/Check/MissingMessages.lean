import TypedMessages.Proofs.Check.Failures
import TypedMessages.Proofs.Report.Slots
import TypedMessages.Proofs.Resolution.MessageOrigin

/-!
# Missing messages

A method that has no message and takes over none is reported once, with a method that tells why. The methods of its name vote on the number of format arguments, those with messages alone if there are any: a message for the method's own number would have been taken over, so whichever of them is elected has another one. Only where no method of the name has a message can the method's own number win, and then the message is simply missing.
-/

namespace TypedMessages

/-! ### Votes -/

def votes (methods : List Method) (count : Nat) : Nat :=
  methods.countP (·.formatParameterCount == count)

/-- The first method with the most common number of format arguments; of equally common ones that of the method met first. -/
structure IsElected (methods : List Method) (elected : Method) : Prop where
  mostCommon : ∀ other ∈ methods, votes methods other.formatParameterCount ≤ votes methods elected.formatParameterCount
  first : ∃ before after, methods = before ++ elected :: after ∧
    ∀ other ∈ before, votes methods other.formatParameterCount < votes methods elected.formatParameterCount

section Votes

variable {methods : List Method} {elected other : Method}

theorem isElected_iff_isFirstMax :
    IsElected methods elected ↔ IsFirstMax (fun method => votes methods method.formatParameterCount) methods elected := by
  constructor
  · rintro ⟨hmost, before, after, hsplit, hbefore⟩
    refine ⟨before, after, hsplit, hbefore, fun other hother => hmost other ?_⟩
    rw [hsplit]
    exact List.mem_append_right _ (List.mem_cons_of_mem _ hother)
  · intro h
    have hmost := h.le
    obtain ⟨before, after, hsplit, hbefore, _⟩ := h
    exact ⟨hmost, before, after, hsplit, hbefore⟩

theorem IsElected.mem (h : IsElected methods elected) : elected ∈ methods :=
  (isElected_iff_isFirstMax.1 h).mem

theorem IsElected.unique (h : IsElected methods elected) (h' : IsElected methods other) : elected = other :=
  (isElected_iff_isFirstMax.1 h).unique (isElected_iff_isFirstMax.1 h')

theorem exists_mostCommonCount? (hne : methods ≠ []) :
    ∃ elected, mostCommonCount? methods = some elected ∧ IsElected methods elected := by
  have hsome : mostCommonCount? methods ≠ none := fun hnone => hne (firstMaxBy_eq_none_iff.1 hnone)
  obtain ⟨elected, helected⟩ := Option.ne_none_iff_exists'.1 hsome
  exact ⟨elected, helected, isElected_iff_isFirstMax.2 (isFirstMax_of_firstMaxBy helected)⟩

theorem exists_referenceMethod?_of_annotated (h : ∃ other ∈ methods, other.message.isSome = true) :
    ∃ reference, referenceMethod? methods = some reference ∧ IsElected (methods.filter (·.message.isSome)) reference := by
  obtain ⟨other, hother, hown⟩ := h
  have hmem : other ∈ methods.filter (·.message.isSome) := List.mem_filter.2 ⟨hother, hown⟩
  obtain ⟨reference, hreference, helected⟩ := exists_mostCommonCount? (List.ne_nil_of_mem hmem)
  refine ⟨reference, ?_, helected⟩
  rw [referenceMethod?, List.isEmpty_eq_false_iff_exists_mem.2 ⟨other, hmem⟩]
  exact hreference

theorem exists_referenceMethod?_of_unannotated (hne : methods ≠ []) (h : ∀ other ∈ methods, other.message = none) :
    ∃ reference, referenceMethod? methods = some reference ∧ IsElected methods reference := by
  obtain ⟨reference, hreference, helected⟩ := exists_mostCommonCount? hne
  have hnil : methods.filter (·.message.isSome) = [] :=
    List.filter_eq_nil_iff.2 fun other hother => by rw [h other hother]; exact Bool.false_ne_true
  refine ⟨reference, ?_, helected⟩
  rw [referenceMethod?, hnil]
  exact hreference

end Votes

/-! ### Explanations -/

/-- The problem explains why a method has no message. -/
structure MessageInterface.Explains (interface : MessageInterface) (method : Method) (problem : Problem) : Prop where
  isError : problem.severity = .error
  /-- If a method of the name has a message, the number of format arguments differs from that of an elected one with a message. -/
  annotated : (∃ other ∈ interface.methodsNamed method.name, other.message.isSome = true) →
    ∃ reference, IsElected ((interface.methodsNamed method.name).filter (·.message.isSome)) reference ∧
      reference.message.isSome = true ∧ reference.formatParameterCount ≠ method.formatParameterCount ∧
      problem = .countMismatch method.formatParameterCount reference.signature reference.formatParameterCount
  /-- If none has, it may differ from that of an elected one without a message. -/
  unannotated : (∀ other ∈ interface.methodsNamed method.name, other.message = none) →
    ∀ elected, IsElected (interface.methodsNamed method.name) elected →
      elected.formatParameterCount ≠ method.formatParameterCount →
      problem = .countMismatch method.formatParameterCount elected.signature elected.formatParameterCount
  /-- The message is simply missing if the number of format arguments is the elected one. -/
  plain : problem = .failure (.missingMessage method.name method.formatParameterCount) ↔
    (∀ other ∈ interface.methodsNamed method.name, other.message = none) ∧
      ∃ elected, IsElected (interface.methodsNamed method.name) elected ∧
        elected.formatParameterCount = method.formatParameterCount

namespace Check

variable {interface : MessageInterface} {method : Method}

theorem missingMessageProblem_of_ne {reference : Method} {failure : ResolutionFailure}
    (h : referenceMethod? (interface.methodsNamed method.name) = some reference)
    (hne : reference.formatParameterCount ≠ method.formatParameterCount) :
    missingMessageProblem interface method failure =
      .countMismatch method.formatParameterCount reference.signature reference.formatParameterCount := by
  simp only [missingMessageProblem, h, if_neg hne]

theorem missingMessageProblem_of_eq {reference : Method} {failure : ResolutionFailure}
    (h : referenceMethod? (interface.methodsNamed method.name) = some reference)
    (heq : reference.formatParameterCount = method.formatParameterCount) :
    missingMessageProblem interface method failure = .failure failure := by
  simp only [missingMessageProblem, h, if_pos heq]

theorem count_ne_of_annotated {reference : Method} (hlacks : interface.LacksMessage method)
    (hreference : reference ∈ interface.methodsNamed method.name) (hannotated : reference.message.isSome = true) :
    reference.formatParameterCount ≠ method.formatParameterCount := by
  intro hcount
  obtain ⟨hmem, hname⟩ := List.mem_filter.1 hreference
  rw [hlacks.2 reference hmem (beq_iff_eq.1 hname) hcount] at hannotated
  cases hannotated

theorem explains_missingMessageProblem (hmethod : method ∈ interface.methods) (hlacks : interface.LacksMessage method) :
    interface.Explains method
      (missingMessageProblem interface method (.missingMessage method.name method.formatParameterCount)) := by
  have hself : method ∈ interface.methodsNamed method.name := List.mem_filter.2 ⟨hmethod, beq_self_eq_true _⟩
  by_cases hannotated : ∃ other ∈ interface.methodsNamed method.name, other.message.isSome = true
  · obtain ⟨reference, hreference, helected⟩ := exists_referenceMethod?_of_annotated hannotated
    obtain ⟨hnamed, hown⟩ := List.mem_filter.1 helected.mem
    have hne := count_ne_of_annotated hlacks hnamed hown
    have hnotAll : ¬ ∀ other ∈ interface.methodsNamed method.name, other.message = none := by
      intro hall
      rw [hall reference hnamed] at hown
      cases hown
    rw [missingMessageProblem_of_ne hreference hne]
    exact
      { isError := rfl
        annotated := fun _ => ⟨reference, helected, hown, hne, rfl⟩
        unannotated := fun hall => absurd hall hnotAll
        plain := iff_of_false nofun fun h => hnotAll h.1 }
  · have hall : ∀ other ∈ interface.methodsNamed method.name, other.message = none := by
      simpa [Option.isSome_iff_ne_none] using hannotated
    obtain ⟨reference, hreference, helected⟩ := exists_referenceMethod?_of_unannotated (List.ne_nil_of_mem hself) hall
    by_cases hcount : reference.formatParameterCount = method.formatParameterCount
    · rw [missingMessageProblem_of_eq hreference hcount]
      exact
        { isError := rfl
          annotated := fun h => absurd h hannotated
          unannotated := fun _ elected h hne => absurd (h.unique helected ▸ hcount) hne
          plain := iff_of_true rfl ⟨hall, reference, helected, hcount⟩ }
    · rw [missingMessageProblem_of_ne hreference hcount]
      refine
        { isError := rfl
          annotated := fun h => absurd h hannotated
          unannotated := fun _ elected h _ => by rw [h.unique helected]
          plain := iff_of_false nofun ?_ }
      rintro ⟨_, elected, h, heq⟩
      exact hcount (h.unique helected ▸ heq)

/-- The methods without a message are reported in turn, and no others. -/
theorem parameterCounts_resolve (h : Hierarchy) (interface : MessageInterface) :
    parameterCounts (h.resolve interface) =
      (interface.methods.filter fun method => (interface.effectiveMessage? method).isNone).map fun method =>
        .ofMethod interface method
          (missingMessageProblem interface method (.missingMessage method.name method.formatParameterCount)) := by
  rw [← List.filterMap_eq_map, List.filterMap_filter, List.filterMap_eq_flatMap_toList, parameterCounts,
    h.methods_resolve, List.flatMap_map]
  refine congrArg (List.flatMap · interface.methods) (funext fun method => ?_)
  dsimp only
  rw [missingMessage?_resolveMethod]
  split <;> rfl

end Check

/-- **Missing messages are explained.** For every interface that a session resolves, the check of numbers reports each method that is left without a message once, and says nothing else. What it says is an error. If a method of the name has a message, it names the first of those with the number of format arguments that is most common among them, which is another one than the method's own; if none has, all methods of the name are asked, and the message is called missing exactly if the method's own number is the most common one. -/
theorem missing_messages_explained (session : Session) {name : String} {outcome : Outcome}
    (hprocess : session.process name = .ok outcome) :
    ∃ explanation : Method → Problem,
      Check.parameterCount.run session.context [outcome.resolved] =
        (outcome.resolved.interface.methods.filter fun method =>
          (outcome.resolved.interface.effectiveMessage? method).isNone).map (fun method =>
            .ofMethod outcome.resolved.interface method (explanation method)) ∧
      ∀ method ∈ outcome.resolved.interface.methods, outcome.resolved.interface.effectiveMessage? method = none →
        outcome.resolved.interface.Explains method (explanation method) := by
  obtain ⟨resolved, hresolved, rfl⟩ := map_eq_ok_iff.1 hprocess
  obtain ⟨interface, _, rfl⟩ := Model.resolve_eq_ok_iff.1 hresolved
  refine ⟨fun method =>
    Check.missingMessageProblem interface method (.missingMessage method.name method.formatParameterCount), ?_, ?_⟩
  · rw [Check.run, List.flatMap_singleton]
    exact Check.parameterCounts_resolve _ interface
  · intro method hmethod hnone
    exact Check.explains_missingMessageProblem hmethod (MessageInterface.lacksMessage_of_effectiveMessage? hnone)

def departures : Batch :=
  stacked
    [{ name := "departed", returnType := "java.lang.String", message := some { value := "Departed: %s" },
       parameters := [{ name := "train", typeName := "java.lang.String" }] }]
    [{ name := "departed", returnType := "java.lang.String",
       parameters := [{ name := "train", typeName := "java.lang.String" }, { name := "gate", typeName := "int" }] },
     { name := "departed", returnType := "java.lang.String", message := some { value := "Departed: %s from %d after %d" },
       parameters := [{ name := "train", typeName := "java.lang.String" }, { name := "gate", typeName := "int" },
                      { name := "minutes", typeName := "int" }] },
     { name := "delayed", returnType := "java.lang.String",
       parameters := [{ name := "train", typeName := "java.lang.String" }, { name := "minutes", typeName := "int" }] },
     { name := "delayed", returnType := "java.lang.String",
       parameters := [{ name := "train", typeName := "java.lang.String" }] },
     { name := "delayed", returnType := "java.lang.String", parameters := [{ name := "minutes", typeName := "int" }] }]

/-- Of the annotated departures the one met first is named, and of the delays the first one with the more common number. -/
theorem missing_messages_explained_departures :
    ∃ outcome, (Session.ofBatch departures).process "a.Lower" = .ok outcome ∧
      ∃ lacking : List Method, ∃ explanation : Method → Problem,
        Check.parameterCount.run (Session.ofBatch departures).context [outcome.resolved] =
          lacking.map (fun method => .ofMethod outcome.resolved.interface method (explanation method)) ∧
        lacking.map (·.signature) =
          ["departed(java.lang.String, int)", "delayed(java.lang.String, int)", "delayed(java.lang.String)",
           "delayed(int)"] ∧
        lacking.map (fun method => (explanation method).text) =
          ["The number of format parameters (2) does not match departed(java.lang.String, int, int) which has 3.",
           "The number of format parameters (2) does not match delayed(java.lang.String) which has 1.",
           "All message bundles and message logger message methods must have or inherit a message. " ++
             "No message found for 'delayed' with 1 format parameter(s).",
           "All message bundles and message logger message methods must have or inherit a message. " ++
             "No message found for 'delayed' with 1 format parameter(s)."] ∧
        ∀ method ∈ lacking, outcome.resolved.interface.Explains method (explanation method) := by
  have hprocess : (Session.ofBatch departures).process "a.Lower" = .ok _ :=
    map_eq_ok_iff.2 ⟨_, Stacked.resolve_lower _ _, rfl⟩
  obtain ⟨explanation, hrun, hexplains⟩ := missing_messages_explained _ hprocess
  have htexts := congrArg (List.map Diagnostic.text) hrun
  rw [List.map_map] at htexts
  refine ⟨_, hprocess, _, explanation, hrun, ?_, htexts.symm.trans ?_, fun method hmethod => ?_⟩
  · decide +kernel
  · decide +kernel
  · obtain ⟨hmem, hnone⟩ := List.mem_filter.1 hmethod
    exact hexplains method hmem (Option.isNone_iff_eq_none.1 hnone)

end TypedMessages

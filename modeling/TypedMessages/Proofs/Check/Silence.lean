import TypedMessages.Check.Pipeline
import TypedMessages.Report.Basic
import TypedMessages.Proofs.Method.Arguments
import TypedMessages.Proofs.Names.Extremes

/-!
# What checks say by their silence

If a check has no error to report for an interface, all methods of the interface have what the check looks for. Warnings are allowed.
-/

namespace TypedMessages

/-- None of the diagnostics is an error. -/
def Silent (diagnostics : List Diagnostic) : Prop :=
  ∀ diagnostic ∈ diagnostics, diagnostic.isError = false

theorem InterfaceReport.silent_of_generationAllowed {report : InterfaceReport} (h : report.generationAllowed = true) :
    Silent report.diagnostics :=
  InterfaceReport.generationAllowed_iff.1 h

theorem silent_append {left right : List Diagnostic} : Silent (left ++ right) ↔ Silent left ∧ Silent right :=
  List.forall_mem_append

theorem silent_flatMap {α : Type} {items : List α} {f : α → List Diagnostic} :
    Silent (items.flatMap f) ↔ ∀ a ∈ items, Silent (f a) := by
  constructor
  · intro h a ha diagnostic hmem
    exact h diagnostic (List.mem_flatMap.2 ⟨a, ha, hmem⟩)
  · intro h diagnostic hmem
    obtain ⟨a, ha, hdiagnostic⟩ := List.mem_flatMap.1 hmem
    exact h a ha diagnostic hdiagnostic

theorem eq_nil_of_silent {diagnostics : List Diagnostic} (hsilent : Silent diagnostics)
    (herrors : ∀ diagnostic ∈ diagnostics, diagnostic.isError = true) : diagnostics = [] := by
  refine List.eq_nil_iff_forall_not_mem.2 fun diagnostic hmem => ?_
  have hfalse := hsilent diagnostic hmem
  rw [herrors diagnostic hmem] at hfalse
  cases hfalse

theorem eq_nil_of_silent_map {α : Type} {items : List α} {f : α → Diagnostic} (hsilent : Silent (items.map f))
    (herrors : ∀ a ∈ items, (f a).isError = true) : items = [] :=
  List.map_eq_nil_iff.1 (eq_nil_of_silent hsilent (List.forall_mem_map.2 herrors))

theorem not_silent_singleton {diagnostic : Diagnostic} (h : diagnostic.isError = true) : ¬ Silent [diagnostic] := by
  intro hsilent
  have hfalse := hsilent diagnostic (List.mem_singleton_self _)
  rw [h] at hfalse
  cases hfalse

@[simp]
theorem Diagnostic.isError_ofMethod (interface : MessageInterface) (method : Method) (problem : Problem) :
    (Diagnostic.ofMethod interface method problem).isError = (problem.severity == .error) := rfl

@[simp]
theorem Diagnostic.isError_ofParameter (interface : MessageInterface) (method : Method) (parameter : Parameter)
    (problem : Problem) :
    (Diagnostic.ofParameter interface method parameter problem).isError = (problem.severity == .error) := rfl

theorem Hierarchy.methods_resolve (h : Hierarchy) (interface : MessageInterface) :
    (h.resolve interface).methods =
      interface.methods.map fun method => (method, h.resolveMethod interface method) :=
  List.map_prod_left_eq_zip.symm

theorem Hierarchy.mem_methods_resolve (h : Hierarchy) {interface : MessageInterface} {method : Method}
    (hmethod : method ∈ interface.methods) :
    (method, h.resolveMethod interface method) ∈ (h.resolve interface).methods := by
  rw [h.methods_resolve interface]
  exact List.mem_map_of_mem hmethod

namespace Check

/-! ### Checks of results -/

theorem severity_of_mem_resultProblems {interface : MessageInterface} {method : Method} {problem : Problem}
    (h : problem ∈ resultProblems interface method) : problem.severity = .error := by
  unfold resultProblems at h
  split at h
  · split at h
    · cases h
    · rw [List.mem_singleton.1 h]; rfl
  · split at h
    · cases h
    · rw [List.mem_singleton.1 h]; rfl

theorem resultProblems_eq_nil_of_silent {resolved : ResolvedInterface} (h : Silent (returnTypes resolved))
    {method : Method} (hmethod : method ∈ resolved.interface.methods) :
    resultProblems resolved.interface method = [] := by
  have hsilent := silent_flatMap.1 h method hmethod
  refine eq_nil_of_silent_map hsilent fun problem hproblem => ?_
  rw [Diagnostic.isError_ofMethod, severity_of_mem_resultProblems hproblem]
  rfl

theorem returnType_of_silent {resolved : ResolvedInterface} (h : Silent (returnTypes resolved))
    {method : Method} (hmethod : method ∈ resolved.interface.methods) :
    if resolved.interface.isLogger && method.isLoggerMethod then method.returnType.isVoid = true
    else method.returnType.isMessageValue = true := by
  have hnone := resultProblems_eq_nil_of_silent h hmethod
  unfold resultProblems at hnone
  split at hnone
  · next hlog =>
    rw [if_pos hlog]
    split at hnone
    · assumption
    · cases hnone
  · next hlog =>
    rw [if_neg hlog]
    split at hnone
    · assumption
    · cases hnone

theorem length_causes_of_silent {resolved : ResolvedInterface} (h : Silent (causes resolved)) {method : Method}
    (hmethod : method ∈ resolved.interface.methods) : (method.parametersWith .cause).length ≤ 1 := by
  have hsilent := silent_flatMap.1 h method hmethod
  have hnone := eq_nil_of_silent_map hsilent fun _ _ => rfl
  exact List.drop_eq_nil_iff.1 hnone

/-! ### Checks of messages -/

/-- Silence about slots leaves each of them to one method with a message of its own. -/
theorem eq_of_sameSlot_of_silent {resolved : ResolvedInterface} (h : Silent (messageSlots resolved)) {left right : Method}
    (hleft : left ∈ resolved.interface.methods) (hright : right ∈ resolved.interface.methods)
    (hleftOwn : left.message.isSome = true) (hrightOwn : right.message.isSome = true)
    (hname : left.name = right.name) (hcount : left.formatParameterCount = right.formatParameterCount) :
    left = right := by
  have hnone := eq_nil_of_silent_map h fun _ _ => rfl
  have hsymm : ∀ a b, sameSlot a b = sameSlot b a := fun a b => by simp only [sameSlot, Bool.beq_comm]
  have hleftMem : left ∈ resolved.interface.methods.filter (·.message.isSome) := List.mem_filter.2 ⟨hleft, hleftOwn⟩
  have hrightMem : right ∈ resolved.interface.methods.filter (·.message.isSome) := List.mem_filter.2 ⟨hright, hrightOwn⟩
  have hsame : sameSlot left right = true := by simp [sameSlot, hname, hcount]
  exact eq_of_clashes_eq_nil hsymm hnone hleftMem hrightMem hsame

/-! ### Checks of texts -/

theorem severity_of_mem_positionProblems {count : Nat} {claims : Claims} {parameter : Parameter} {own : List Nat}
    {position : Nat} {problem : Problem} (h : problem ∈ positionProblems count claims parameter own position) :
    problem.severity = .error := by
  rcases List.mem_append.1 h with hrepeated | hplace
  · split at hrepeated
    · rw [List.mem_singleton.1 hrepeated]; rfl
    · cases hrepeated
  · split at hplace
    · rw [List.mem_singleton.1 hplace]; rfl
    · split at hplace
      · split at hplace
        · cases hplace
        · rw [List.mem_singleton.1 hplace]; rfl
      · cases hplace

theorem severity_of_mem_claimPositions {count : Nat} {claims : Claims} {parameter : Parameter} {own positions : List Nat}
    {problem : Problem} (h : problem ∈ (claimPositions count parameter claims own positions).1) :
    problem.severity = .error := by
  induction positions generalizing claims own with
  | nil => cases h
  | cons position positions ih =>
    rcases List.mem_append.1 h with hfirst | hrest
    · exact severity_of_mem_positionProblems hfirst
    · exact ih hrest

theorem severity_of_mem_parameterPositions {count : Nat} {claims : Claims} {parameter : Parameter} {problem : Problem}
    (h : problem ∈ (parameterPositions count claims parameter).1) : problem.severity = .error := by
  unfold parameterPositions at h
  split at h
  · rcases List.mem_append.1 h with hmismatch | hproblem
    · split at hmismatch
      · rw [List.mem_singleton.1 hmismatch]; rfl
      · cases hmismatch
    · exact severity_of_mem_claimPositions hproblem
  · dsimp only at h
    split at h
    · cases h
    · rw [List.mem_singleton.1 h]; rfl

theorem severity_of_mem_allPositions {count : Nat} {claims : Claims} {parameters : List Parameter}
    {pair : Parameter × Problem} (h : pair ∈ (allPositions count claims parameters).1) :
    pair.2.severity = .error := by
  induction parameters generalizing claims with
  | nil => cases h
  | cons parameter parameters ih =>
    rcases List.mem_append.1 h with hfirst | hrest
    · obtain ⟨problem, hproblem, rfl⟩ := List.mem_map.1 hfirst
      exact severity_of_mem_parameterPositions hproblem
    · exact ih hrest

theorem isError_of_mem_positionDiagnostics {interface : MessageInterface} {method : Method} {diagnostic : Diagnostic}
    (h : diagnostic ∈ positionDiagnostics interface method) : diagnostic.isError = true := by
  rcases List.mem_append.1 h with hproblem | hmissing
  · obtain ⟨pair, hpair, rfl⟩ := List.mem_map.1 hproblem
    rw [Diagnostic.isError_ofParameter, severity_of_mem_allPositions hpair]
    rfl
  · obtain ⟨position, _, rfl⟩ := List.mem_map.1 hmissing
    rfl

/-- Silence about a message text: it can be read, the positions are complete, and the arguments suit. -/
theorem messageFormat_of_silent {catalog : Catalog} {strict : Bool} {interface : MessageInterface} {method : Method}
    {message : Message} (h : Silent (messageFormat catalog strict interface method message)) :
    ∃ parts, parseFormat message.format message.text = .ok parts ∧ positionDiagnostics interface method = [] ∧
      argumentFault? message.format parts
        ((method.formatArguments.filterMap id).map (·.argumentType catalog)) = none := by
  unfold messageFormat at h
  split at h
  · exact absurd h (not_silent_singleton rfl)
  · next parts hparts =>
    refine ⟨parts, hparts, ?_⟩
    split at h
    · next hpositions =>
      refine ⟨hpositions, ?_⟩
      dsimp only at h
      split at h
      · exact absurd h (not_silent_singleton rfl)
      · assumption
    · next hpositions =>
      have hnone := eq_nil_of_silent h fun _ => isError_of_mem_positionDiagnostics
      exact absurd hnone hpositions

section Texts

variable {resolved : ResolvedInterface} {method : Method} {resolution : Resolution} {message : Message}

theorem silent_messageFormat_of_silent {catalog : Catalog} {strict : Bool}
    (h : Silent (formats catalog strict resolved)) (hmem : (method, resolution) ∈ resolved.methods)
    (hmessage : resolution.descriptor.message = some message) :
    Silent (messageFormat catalog strict resolved.interface method message) := by
  have hsilent := silent_flatMap.1 h _ hmem
  simpa only [hmessage] using hsilent

theorem translationFault?_eq_none_of_silent (h : Silent (translations resolved))
    (hmem : (method, resolution) ∈ resolved.methods) (hmessage : resolution.descriptor.message = some message)
    {translation : String × String} (htranslation : translation ∈ method.translations) :
    translationFault? message.format message.text translation.2 = none := by
  have hsilent := silent_flatMap.1 h _ hmem
  simp only [hmessage] at hsilent
  cases hfault : translationFault? message.format message.text translation.2 with
  | none => rfl
  | some fault =>
    have hreported : (Problem.translation translation.1 fault).severity ≠ .error := by
      simpa using hsilent (Diagnostic.ofMethod resolved.interface method (.translation translation.1 fault))
        (List.mem_filterMap.2 ⟨translation, htranslation, by rw [hfault]; rfl⟩)
    exact absurd rfl hreported

end Texts

end Check

end TypedMessages

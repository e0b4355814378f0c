import TypedMessages.Check.Pipeline

/-!
# What diagnostics are about

A check of interface scope treats the interfaces of a list one by one, and every diagnostic that it gives for one of them is about that one. A check of batch scope compares interfaces, but each of its diagnostics is still about one of those it was given.
-/

namespace TypedMessages

def Diagnostic.owner (diagnostic : Diagnostic) : String :=
  diagnostic.subject.owningInterface

/-- All diagnostics of a list are about the interface of that name. -/
def AllAbout (name : String) (diagnostics : List Diagnostic) : Prop :=
  ∀ diagnostic ∈ diagnostics, diagnostic.owner = name

namespace AllAbout

variable {name : String}

theorem nil : AllAbout name [] := by
  intro diagnostic hdiagnostic
  cases hdiagnostic

theorem singleton {diagnostic : Diagnostic} (h : diagnostic.owner = name) : AllAbout name [diagnostic] := by
  intro other hother
  rw [List.mem_singleton.1 hother]
  exact h

theorem append {left right : List Diagnostic} (hleft : AllAbout name left) (hright : AllAbout name right) :
    AllAbout name (left ++ right) := by
  intro diagnostic hdiagnostic
  rcases List.mem_append.1 hdiagnostic with h | h
  · exact hleft diagnostic h
  · exact hright diagnostic h

theorem map {α : Type} {items : List α} {f : α → Diagnostic} (h : ∀ a, (f a).owner = name) :
    AllAbout name (items.map f) := by
  intro diagnostic hdiagnostic
  obtain ⟨a, _, rfl⟩ := List.mem_map.1 hdiagnostic
  exact h a

theorem flatMap {α : Type} {items : List α} {f : α → List Diagnostic} (h : ∀ a, AllAbout name (f a)) :
    AllAbout name (items.flatMap f) := by
  intro diagnostic hdiagnostic
  obtain ⟨a, _, hmem⟩ := List.mem_flatMap.1 hdiagnostic
  exact h a diagnostic hmem

theorem filterMap {α : Type} {items : List α} {f : α → Option Diagnostic}
    (h : ∀ a diagnostic, f a = some diagnostic → diagnostic.owner = name) : AllAbout name (items.filterMap f) := by
  intro diagnostic hdiagnostic
  obtain ⟨a, _, hsome⟩ := List.mem_filterMap.1 hdiagnostic
  exact h a diagnostic hsome

end AllAbout

theorem mem_of_mem_clashes {α : Type} {alike : α → α → Bool} {seen list : List α} {a first : α}
    (h : (a, first) ∈ clashes alike seen list) : a ∈ list := by
  induction list generalizing seen with
  | nil => cases h
  | cons b list ih =>
    unfold clashes at h
    split at h
    · rcases List.mem_cons.1 h with heq | hrest
      · cases heq
        exact List.mem_cons_self ..
      · exact List.mem_cons_of_mem _ (ih hrest)
    · exact List.mem_cons_of_mem _ (ih h)

namespace Check

/-! ### Checks of one interface -/

theorem perMethod_allAbout (interface : MessageInterface) (problems : Method → List Problem) :
    AllAbout interface.name (perMethod interface problems) :=
  .flatMap fun _ => .map fun _ => rfl

theorem messageSlots_allAbout (resolved : ResolvedInterface) :
    AllAbout resolved.interface.name (messageSlots resolved) :=
  .map fun _ => rfl

theorem parameterCounts_allAbout (resolved : ResolvedInterface) :
    AllAbout resolved.interface.name (parameterCounts resolved) :=
  .flatMap fun _ => .map fun _ => rfl

theorem messageIds_allAbout (resolved : ResolvedInterface) : AllAbout resolved.interface.name (messageIds resolved) :=
  .map fun _ => rfl

theorem causes_allAbout (resolved : ResolvedInterface) : AllAbout resolved.interface.name (causes resolved) :=
  .flatMap fun _ => .map fun _ => rfl

theorem positionDiagnostics_allAbout (interface : MessageInterface) (method : Method) :
    AllAbout interface.name (positionDiagnostics interface method) :=
  .append (.map fun _ => rfl) (.map fun _ => rfl)

theorem referenceDiagnostics_allAbout (strict : Bool) (interface : MessageInterface) (method : Method)
    (message : Message) (parts : List Part) (arguments : List FormatArgument) :
    AllAbout interface.name (referenceDiagnostics strict interface method message parts arguments) := by
  unfold referenceDiagnostics
  split
  · dsimp only
    split
    · exact .nil
    · exact .singleton rfl
  · exact .map fun _ => rfl

theorem messageFormat_allAbout (catalog : Catalog) (strict : Bool) (interface : MessageInterface) (method : Method)
    (message : Message) : AllAbout interface.name (messageFormat catalog strict interface method message) := by
  unfold messageFormat
  split
  · exact .singleton rfl
  · split
    · dsimp only
      split
      · exact .singleton rfl
      · exact referenceDiagnostics_allAbout _ _ _ _ _ _
    · exact positionDiagnostics_allAbout interface method

theorem formats_allAbout (catalog : Catalog) (strict : Bool) (resolved : ResolvedInterface) :
    AllAbout resolved.interface.name (formats catalog strict resolved) := by
  refine .flatMap fun pair => ?_
  dsimp only
  split
  · exact .nil
  · exact messageFormat_allAbout _ _ _ _ _

theorem resolutions_allAbout (resolved : ResolvedInterface) :
    AllAbout resolved.interface.name (resolutions resolved) :=
  .flatMap fun _ => .map fun _ => rfl

theorem translations_allAbout (resolved : ResolvedInterface) :
    AllAbout resolved.interface.name (translations resolved) := by
  refine .flatMap fun pair => ?_
  dsimp only
  split
  · exact .nil
  · refine .filterMap fun _ diagnostic hdiagnostic => ?_
    obtain ⟨fault, _, rfl⟩ := Option.map_eq_some_iff.1 hdiagnostic
    rfl

variable {context : CheckContext} {check : Check}

/-- A check of interface scope gives nothing for several interfaces that it does not give for one of them alone. -/
theorem run_eq_flatMap (hscope : check.scope = .interface) (interfaces : List ResolvedInterface) :
    check.run context interfaces = interfaces.flatMap fun resolved => check.run context [resolved] := by
  cases check with
  | idRange | idLength | projectId => cases hscope
  | _ => simp only [run, List.flatMap_singleton]

theorem run_singleton_allAbout (hscope : check.scope = .interface) (resolved : ResolvedInterface) :
    AllAbout resolved.interface.name (check.run context [resolved]) := by
  cases check with
  | idRange | idLength | projectId => cases hscope
  | returnType | exceptionConstructor | thrownTypes =>
    rw [run, List.flatMap_singleton]
    exact perMethod_allAbout _ _
  | messageAnnotation => rw [run, List.flatMap_singleton]; exact messageSlots_allAbout resolved
  | parameterCount => rw [run, List.flatMap_singleton]; exact parameterCounts_allAbout resolved
  | messageId => rw [run, List.flatMap_singleton]; exact messageIds_allAbout resolved
  | cause => rw [run, List.flatMap_singleton]; exact causes_allAbout resolved
  | format => rw [run, List.flatMap_singleton]; exact formats_allAbout _ _ resolved
  | resolution => rw [run, List.flatMap_singleton]; exact resolutions_allAbout resolved
  | translation => rw [run, List.flatMap_singleton]; exact translations_allAbout resolved

/-! ### Checks of a batch -/

theorem interfaceRanges_allAbout (claimed : List RangeClaim) (interface : MessageInterface) :
    AllAbout interface.name (interfaceRanges claimed interface) :=
  .append (.map fun _ => rfl) (.map fun _ => rfl)

theorem owner_of_mem_rangesAfter {claimed : List RangeClaim} {interfaces : List MessageInterface}
    {diagnostic : Diagnostic} (h : diagnostic ∈ rangesAfter claimed interfaces) :
    diagnostic.owner ∈ interfaces.map (·.name) := by
  induction interfaces generalizing claimed with
  | nil => cases h
  | cons interface interfaces ih =>
    rcases List.mem_append.1 h with hfirst | hrest
    · rw [interfaceRanges_allAbout claimed interface diagnostic hfirst]
      exact List.mem_cons_self ..
    · exact List.mem_cons_of_mem _ (ih hrest)

theorem owner_of_mem_idLengthsAfter {earlier interfaces : List MessageInterface} {diagnostic : Diagnostic}
    (h : diagnostic ∈ idLengthsAfter earlier interfaces) : diagnostic.owner ∈ interfaces.map (·.name) := by
  induction interfaces generalizing earlier with
  | nil => cases h
  | cons interface interfaces ih =>
    rcases List.mem_append.1 h with hfirst | hrest
    · obtain ⟨problem, _, rfl⟩ := Option.map_eq_some_iff.1 (Option.mem_toList.1 hfirst)
      exact List.mem_cons_self ..
    · exact List.mem_cons_of_mem _ (ih hrest)

theorem mem_idUses_iff {interfaces : List MessageInterface} {use : IdUse} :
    use ∈ idUses interfaces ↔ (use.interface ∈ interfaces ∧ use.interface.projectCode.isEmpty = false) ∧
      (use.id, use.method) ∈ explicitIds use.interface.declaredMethods := by
  simp only [idUses, List.mem_flatMap, List.mem_map, List.mem_filter, Bool.not_eq_true']
  constructor
  · rintro ⟨interface, hinterface, pair, hpair, rfl⟩
    exact ⟨hinterface, hpair⟩
  · rintro ⟨hinterface, hpair⟩
    exact ⟨use.interface, hinterface, (use.id, use.method), hpair, rfl⟩

theorem owner_of_mem_projectIds {batch : List ResolvedInterface} {diagnostic : Diagnostic}
    (h : diagnostic ∈ projectIds batch) : diagnostic.owner ∈ batch.map (·.interface.name) := by
  obtain ⟨⟨use, first⟩, hclash, rfl⟩ := List.mem_map.1 h
  have huse := mem_of_mem_clashes (List.mem_filter.1 hclash).1
  obtain ⟨resolved, hresolved, heq⟩ := List.mem_map.1 (mem_idUses_iff.1 huse).1.1
  exact List.mem_map.2 ⟨resolved, hresolved, congrArg MessageInterface.name heq⟩

/-- Whatever its scope, a check gives diagnostics about the interfaces that it is given and no others. -/
theorem owner_of_mem_run {interfaces : List ResolvedInterface} {diagnostic : Diagnostic}
    (h : diagnostic ∈ check.run context interfaces) : diagnostic.owner ∈ interfaces.map (·.interface.name) := by
  cases hscope : check.scope with
  | interface =>
    rw [run_eq_flatMap hscope] at h
    obtain ⟨resolved, hresolved, hmem⟩ := List.mem_flatMap.1 h
    rw [run_singleton_allAbout hscope resolved diagnostic hmem]
    exact List.mem_map_of_mem hresolved
  | batch =>
    have hnames : (interfaces.map (·.interface)).map (·.name) = interfaces.map (·.interface.name) := List.map_map
    cases check with
    | idRange => rw [← hnames]; exact owner_of_mem_rangesAfter h
    | idLength => rw [← hnames]; exact owner_of_mem_idLengthsAfter h
    | projectId => exact owner_of_mem_projectIds h
    | _ => cases hscope

end Check

end TypedMessages

import TypedMessages.Proofs.Report.Slots

/-!
# Names of accessors

The accessor of a message text is named after its method, and where that name is overloaded the number of format arguments follows. Nothing stands between the two. So the accessors of two methods have one name if the methods have one slot, and in one more case: the name of one method is the overloaded name of the other with digits behind it, and the number of the other begins with these digits.
-/

namespace TypedMessages

theorem string_append_eq_append_iff {front back other rest : String} :
    front ++ back = other ++ rest ↔
      (∃ between, other = front ++ between ∧ back = between ++ rest) ∨
        ∃ between, front = other ++ between ∧ rest = between ++ back := by
  simp only [← String.toList_inj, String.toList_append, List.append_eq_append_iff]
  constructor
  · rintro (⟨between, hsplit⟩ | ⟨between, hsplit⟩)
    · exact Or.inl ⟨String.ofList between, by simpa using hsplit⟩
    · exact Or.inr ⟨String.ofList between, by simpa using hsplit⟩
  · rintro (⟨between, hsplit⟩ | ⟨between, hsplit⟩)
    · exact Or.inl ⟨between.toList, hsplit⟩
    · exact Or.inr ⟨between.toList, hsplit⟩

/-! ### Digits -/

theorem isDigit_of_mem_toString {number : Nat} : ∀ c ∈ (toString number).toList, c.isDigit = true := by
  intro c hc
  rw [Nat.toString_eq_repr, Nat.toList_repr] at hc
  exact Nat.isDigit_of_mem_toDigits (by decide) (by decide) hc

theorem toString_injective : Function.Injective (toString : Nat → String) := by
  intro number other h
  have hdigits : Nat.toDigits 10 number = Nat.toDigits 10 other := by
    rw [← Nat.toList_repr, ← Nat.toList_repr, ← Nat.toString_eq_repr, ← Nat.toString_eq_repr, h]
  rw [← @Nat.ofDigitChars_ten_toDigits number, hdigits, Nat.ofDigitChars_ten_toDigits]

namespace Descriptor

/-- The number of format arguments as it stands in the name of the accessor. -/
def accessorDigits (descriptor : Descriptor) : String :=
  if descriptor.isOverloaded then toString descriptor.formatParameterCount else ""

theorem isDigit_of_mem_accessorDigits (descriptor : Descriptor) :
    ∀ c ∈ descriptor.accessorDigits.toList, c.isDigit = true := by
  intro c hc
  unfold accessorDigits at hc
  split at hc
  · exact isDigit_of_mem_toString c hc
  · cases hc

/-- The name of the right descriptor goes on with the digits that the number of the left one begins with. -/
def RunsInto (left right : Descriptor) : Prop :=
  ∃ digits, digits ≠ "" ∧ right.name = left.name ++ digits ∧ left.accessorDigits = digits ++ right.accessorDigits

variable {left right : Descriptor}

theorem RunsInto.exists_digits (h : left.RunsInto right) :
    ∃ digits, digits ≠ "" ∧ (∀ c ∈ digits.toList, c.isDigit = true) ∧ right.name = left.name ++ digits := by
  obtain ⟨digits, hdigits, hname, hcount⟩ := h
  refine ⟨digits, hdigits, fun c hc => isDigit_of_mem_accessorDigits left c ?_, hname⟩
  rw [hcount, String.toList_append]
  exact List.mem_append_left _ hc

/-! ### Names beside each other -/

/-- The accessors of some methods are named as their overloads ask for: a number stands in the name of an accessor if another of the methods has the same name and another number. -/
structure NamedTogether (descriptors : List Descriptor) : Prop where
  accessor : ∀ descriptor ∈ descriptors,
    descriptor.messageMethodName = descriptor.name ++ descriptor.accessorDigits ++ "$str"
  overloaded : ∀ descriptor ∈ descriptors, descriptor.isOverloaded = true ↔
    ∃ other ∈ descriptors, other.name = descriptor.name ∧ other.formatParameterCount ≠ descriptor.formatParameterCount

variable {descriptors : List Descriptor} (h : NamedTogether descriptors)

include h

theorem NamedTogether.count_eq (hleft : left ∈ descriptors) (hright : right ∈ descriptors)
    (hname : left.name = right.name) (hdigits : left.accessorDigits = right.accessorDigits) :
    left.formatParameterCount = right.formatParameterCount := by
  by_contra hne
  have hleftOverloaded := (h.overloaded left hleft).2 ⟨right, hright, hname.symm, Ne.symm hne⟩
  have hrightOverloaded := (h.overloaded right hright).2 ⟨left, hleft, hname, hne⟩
  rw [accessorDigits, accessorDigits, if_pos hleftOverloaded, if_pos hrightOverloaded] at hdigits
  exact hne (toString_injective hdigits)

theorem NamedTogether.accessorDigits_eq (hleft : left ∈ descriptors) (hright : right ∈ descriptors)
    (hname : left.name = right.name) (hcount : left.formatParameterCount = right.formatParameterCount) :
    left.accessorDigits = right.accessorDigits := by
  have hoverloaded : left.isOverloaded = right.isOverloaded := by
    rw [Bool.eq_iff_iff, h.overloaded left hleft, h.overloaded right hright, hname, hcount]
  rw [accessorDigits, accessorDigits, hoverloaded, hcount]

theorem NamedTogether.messageMethodName_eq_iff (hleft : left ∈ descriptors) (hright : right ∈ descriptors) :
    left.messageMethodName = right.messageMethodName ↔
      (left.name = right.name ∧ left.formatParameterCount = right.formatParameterCount) ∨
        left.RunsInto right ∨ right.RunsInto left := by
  rw [h.accessor left hleft, h.accessor right hright, String.append_left_inj, string_append_eq_append_iff]
  constructor
  · rintro (⟨digits, hname, hdigits⟩ | ⟨digits, hname, hdigits⟩)
    · by_cases hempty : digits = ""
      · rw [hempty, String.append_empty] at hname
        rw [hempty, String.empty_append] at hdigits
        exact Or.inl ⟨hname.symm, h.count_eq hleft hright hname.symm hdigits⟩
      · exact Or.inr (Or.inl ⟨digits, hempty, hname, hdigits⟩)
    · by_cases hempty : digits = ""
      · rw [hempty, String.append_empty] at hname
        rw [hempty, String.empty_append] at hdigits
        exact Or.inl ⟨hname, h.count_eq hleft hright hname hdigits.symm⟩
      · exact Or.inr (Or.inr ⟨digits, hempty, hname, hdigits⟩)
  · rintro (⟨hname, hcount⟩ | ⟨digits, _, hsplit⟩ | ⟨digits, _, hsplit⟩)
    · have hdigits := h.accessorDigits_eq hleft hright hname hcount
      exact Or.inl ⟨"", by rw [String.append_empty, hname], by rw [String.empty_append, hdigits]⟩
    · exact Or.inl ⟨digits, hsplit⟩
    · exact Or.inr ⟨digits, hsplit⟩

theorem NamedTogether.accessors_distinct_iff :
    (∀ left ∈ descriptors, ∀ right ∈ descriptors, left.messageMethodName = right.messageMethodName →
        left.name = right.name ∧ left.formatParameterCount = right.formatParameterCount) ↔
      ∀ left ∈ descriptors, ∀ right ∈ descriptors, ¬ left.RunsInto right := by
  constructor
  · intro hdistinct left hleft right hright hruns
    have hsame := (h.messageMethodName_eq_iff hleft hright).2 (Or.inr (Or.inl hruns))
    obtain ⟨hname, _⟩ := hdistinct left hleft right hright hsame
    obtain ⟨digits, hdigits, hlonger, _⟩ := hruns
    rw [← hname, eq_comm, String.append_eq_left_iff] at hlonger
    exact hdigits hlonger
  · intro hnone left hleft right hright hsame
    rcases (h.messageMethodName_eq_iff hleft hright).1 hsame with hslot | hruns | hruns
    · exact hslot
    · exact absurd hruns (hnone left hleft right hright)
    · exact absurd hruns (hnone right hright left hleft)

end Descriptor

/-! ### The reports of a batch -/

theorem Model.isOverloaded_iff {model : Model} {declaration : InterfaceDeclaration} {flattened : FlattenedMethods}
    {method : Method} (hmethod : method ∈ (model.assemble declaration flattened).methods) :
    method.isOverloaded = true ↔ ∃ other ∈ (model.assemble declaration flattened).methods,
      other.name = method.name ∧ other.formatParameterCount ≠ method.formatParameterCount := by
  rw [methods_assemble] at hmethod
  obtain ⟨declared, _, rfl⟩ := List.mem_map.1 hmethod
  simp [methods_assemble, methodOf, Method.amongSiblings, List.any_filter]

theorem Model.namedTogether_resolve (model : Model) (declaration : InterfaceDeclaration) (flattened : FlattenedMethods) :
    Descriptor.NamedTogether ((model.hierarchy.resolve (model.assemble declaration flattened)).resolutions.map
      (·.descriptor)) := by
  rw [Hierarchy.resolve, List.map_map]
  constructor
  · intro descriptor hdescriptor
    obtain ⟨method, _, rfl⟩ := List.mem_map.1 hdescriptor
    rfl
  · intro descriptor hdescriptor
    obtain ⟨method, hmethod, rfl⟩ := List.mem_map.1 hdescriptor
    simp only [List.mem_map, exists_exists_and_eq_and]
    exact isOverloaded_iff hmethod

/-- **When accessors tell slots apart.** In every report of a batch without faults, methods with one name and one number of format arguments share one accessor. Different slots have different accessors exactly if no descriptor runs into another one, so at the least if no name is that of another method with digits behind it. -/
theorem accessors_distinct_iff_noneRunsInto (batch : Batch) (hfaults : batch.faults = []) :
    ∃ report, (Session.ofBatch batch).run = .ok report ∧
      ∀ shard ∈ report.interfaces,
        (∀ left ∈ shard.descriptors, ∀ right ∈ shard.descriptors,
          left.name = right.name ∧ left.formatParameterCount = right.formatParameterCount →
            left.messageMethodName = right.messageMethodName) ∧
        ((∀ left ∈ shard.descriptors, ∀ right ∈ shard.descriptors, left.messageMethodName = right.messageMethodName →
            left.name = right.name ∧ left.formatParameterCount = right.formatParameterCount) ↔
          ∀ left ∈ shard.descriptors, ∀ right ∈ shard.descriptors, ¬ left.RunsInto right) ∧
        ((∀ left ∈ shard.descriptors, ∀ right ∈ shard.descriptors, ∀ digits : String,
            (∀ c ∈ digits.toList, c.isDigit = true) → right.name = left.name ++ digits → digits = "") →
          ∀ left ∈ shard.descriptors, ∀ right ∈ shard.descriptors, left.messageMethodName = right.messageMethodName →
            left.name = right.name ∧ left.formatParameterCount = right.formatParameterCount) := by
  obtain ⟨resolved, hresolved, _, hrun⟩ := Session.run_eq_ok (Batch.namesResolved_of_faults hfaults)
  refine ⟨_, hrun, fun shard hshard => ?_⟩
  obtain ⟨r, hr, rfl⟩ := List.mem_map.1 hshard
  have hown := Model.resolve_of_mem hresolved hr
  obtain ⟨interface, hinterface, rfl⟩ := Model.resolve_eq_ok_iff.1 hown
  obtain ⟨declaration, flattened, _, _, rfl⟩ := Model.interface_eq_ok_iff.1 hinterface
  have hnamed := (Model.ofBatch batch).namedTogether_resolve declaration flattened
  refine ⟨fun left hleft right hright hslot => ?_, hnamed.accessors_distinct_iff, fun hnames => ?_⟩
  · exact (hnamed.messageMethodName_eq_iff hleft hright).2 (Or.inl hslot)
  · refine hnamed.accessors_distinct_iff.2 fun left hleft right hright hruns => ?_
    obtain ⟨digits, hdigits, hdecimal, hname⟩ := hruns.exists_digits
    exact hdigits (hnames left hleft right hright digits hdecimal hname)

/-! ### Entries of a log -/

def entries : List MethodDeclaration :=
  [{ name := "log", returnType := "java.lang.String", message := some { value := "Logged" } },
   { name := "log", returnType := "java.lang.String", message := some { value := "Logged %s" },
     parameters := [{ name := "what", typeName := "java.lang.String" }] }]

abbrev entryBatch (name : String) : Batch :=
  stacked entries [{ name, returnType := "java.lang.String", message := some { value := "Logged once" } }]

theorem accessors_distinct_iff_noneRunsInto_entries :
    (entryBatch "logged").faults = [] ∧ ∃ report, (Session.ofBatch (entryBatch "logged")).run = .ok report ∧
      ∃ shard ∈ report.interfaces, shard.generationAllowed = true ∧
        shard.descriptors.map (·.messageMethodName) = ["logged$str", "log0$str", "log1$str"] ∧
        ∀ left ∈ shard.descriptors, ∀ right ∈ shard.descriptors, ¬ left.RunsInto right := by
  have hfaults : (entryBatch "logged").faults = [] := Stacked.faults_eq_nil
  obtain ⟨report, hrun, hall⟩ := accessors_distinct_iff_noneRunsInto _ hfaults
  have hmem := Stacked.lowerReport_mem _ _ hrun
  obtain ⟨_, hdistinct, _⟩ := hall _ hmem
  exact ⟨hfaults, report, hrun, _, hmem, by decide +kernel, by decide +kernel, hdistinct.1 (by decide +kernel)⟩

/-- An entry whose name ends in a digit has the accessor of the overloaded entry with that many format arguments. -/
theorem accessors_clash_entries :
    (entryBatch "log1").faults = [] ∧ ∃ report, (Session.ofBatch (entryBatch "log1")).run = .ok report ∧
      ∃ shard ∈ report.interfaces, shard.generationAllowed = true ∧
        ∃ left ∈ shard.descriptors, ∃ right ∈ shard.descriptors,
          left.messageMethodName = "log1$str" ∧ right.messageMethodName = "log1$str" ∧
          left.name ≠ right.name ∧ left.formatParameterCount ≠ right.formatParameterCount := by
  have hfaults : (entryBatch "log1").faults = [] := Stacked.faults_eq_nil
  obtain ⟨_, _, _, hrun⟩ := Session.run_eq_ok (Batch.namesResolved_of_faults hfaults)
  exact ⟨hfaults, _, hrun, _, Stacked.lowerReport_mem _ _ hrun, by decide +kernel, by decide +kernel⟩

end TypedMessages

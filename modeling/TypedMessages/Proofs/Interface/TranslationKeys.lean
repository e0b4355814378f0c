import TypedMessages.Proofs.Report.Accessors

/-!
# Keys of translations

In a table of translations a method is found by its name, and where that name is overloaded by its name with a dot and the number of format arguments behind it. Whether a name is overloaded is found out for each method anew, but it is the same for all methods of the name. Since digits hold no dot, the last dot of an overloaded key is always the one in front of the number, and so the keys of overloaded methods tell slots apart whatever the names are. An overloaded key can only be taken for that of a method that is not overloaded and has the dot and the number in its name.
-/

namespace TypedMessages

/-! ### A dot in front of digits -/

theorem dot_not_mem_toString (number : Nat) : '.' ∉ (toString number).toList :=
  fun hdot => absurd (isDigit_of_mem_toString '.' hdot) (by decide)

theorem eq_empty_of_dot_append {between : String} {number other : Nat}
    (h : "." ++ toString number = between ++ ("." ++ toString other)) : between = "" := by
  have hlist := congrArg String.toList h
  simp only [String.toList_append] at hlist
  cases hbetween : between.toList with
  | nil => exact String.toList_eq_nil_iff.1 hbetween
  | cons c rest =>
    rw [hbetween] at hlist
    have hdigits : (toString number).toList = rest ++ '.' :: (toString other).toList := (List.cons.inj hlist).2
    have hdot : '.' ∈ (toString number).toList := by
      rw [hdigits]
      exact List.mem_append_right _ List.mem_cons_self
    exact absurd hdot (dot_not_mem_toString number)

/-- A name and a number with a dot between them can be told from the whole. -/
theorem append_dot_append_eq_iff {name otherName : String} {number other : Nat} :
    name ++ "." ++ toString number = otherName ++ "." ++ toString other ↔ name = otherName ∧ number = other := by
  constructor
  · intro h
    rw [String.append_assoc, String.append_assoc] at h
    have hnames : name = otherName := by
      rcases string_append_eq_append_iff.1 h with ⟨between, hsplit, hback⟩ | ⟨between, hsplit, hback⟩
      · rw [hsplit, eq_empty_of_dot_append hback, String.append_empty]
      · rw [hsplit, eq_empty_of_dot_append hback, String.append_empty]
    rw [hnames, String.append_right_inj, String.append_right_inj] at h
    exact ⟨hnames, toString_injective h⟩
  · rintro ⟨rfl, rfl⟩
    rfl

/-! ### Overloaded names -/

def MessageInterface.HasOverloads (interface : MessageInterface) (name : String) : Prop :=
  ∃ left ∈ interface.methods, ∃ right ∈ interface.methods, left.name = name ∧ right.name = name ∧
    left.formatParameterCount ≠ right.formatParameterCount

/-- The method is not overloaded, and its name is the key of the other one, which is. -/
structure Method.IsNamedAsKey (method other : Method) : Prop where
  single : method.isOverloaded = false
  overloaded : other.isOverloaded = true
  name : method.name = other.name ++ "." ++ toString other.formatParameterCount

theorem Method.IsNamedAsKey.translationKey_eq {method other : Method} (h : method.IsNamedAsKey other) :
    method.translationKey = other.translationKey := by
  rw [translationKey, translationKey, h.single, h.overloaded]
  exact h.name

theorem Method.IsNamedAsKey.dot_mem {method other : Method} (h : method.IsNamedAsKey other) :
    '.' ∈ method.name.toList := by
  rw [h.name, String.toList_append, String.toList_append]
  exact List.mem_append_left _ (List.mem_append_right _ List.mem_cons_self)

section Interface

variable {model : Model} {name : String} {interface : MessageInterface} {left right method : Method}
  (hinterface : model.interface name = .ok interface)

include hinterface

theorem isOverloaded_iff_hasOverloads (hmethod : method ∈ interface.methods) :
    method.isOverloaded = true ↔ interface.HasOverloads method.name := by
  obtain ⟨declaration, flattened, _, _, rfl⟩ := Model.interface_eq_ok_iff.1 hinterface
  rw [Model.isOverloaded_iff hmethod]
  constructor
  · rintro ⟨other, hother, hname, hcount⟩
    exact ⟨other, hother, method, hmethod, hname, rfl, hcount⟩
  · rintro ⟨left, hleft, right, hright, hleftName, hrightName, hne⟩
    by_cases hcount : left.formatParameterCount = method.formatParameterCount
    · have hrightCount : right.formatParameterCount ≠ method.formatParameterCount :=
        fun hsame => hne (hcount.trans hsame.symm)
      exact ⟨right, hright, hrightName, hrightCount⟩
    · exact ⟨left, hleft, hleftName, hcount⟩

theorem isOverloaded_eq_of_name_eq (hleft : left ∈ interface.methods) (hright : right ∈ interface.methods)
    (hname : left.name = right.name) : left.isOverloaded = right.isOverloaded := by
  rw [Bool.eq_iff_iff, isOverloaded_iff_hasOverloads hinterface hleft, isOverloaded_iff_hasOverloads hinterface hright,
    hname]

theorem count_eq_of_not_overloaded (hleft : left ∈ interface.methods) (hright : right ∈ interface.methods)
    (hname : left.name = right.name) (hsingle : left.isOverloaded = false) :
    left.formatParameterCount = right.formatParameterCount := by
  by_contra hne
  have hoverloads : interface.HasOverloads left.name := ⟨left, hleft, right, hright, rfl, hname.symm, hne⟩
  rw [← isOverloaded_iff_hasOverloads hinterface hleft, hsingle] at hoverloads
  cases hoverloads

/-! ### Keys -/

theorem translationKey_eq_iff (hleft : left ∈ interface.methods) (hright : right ∈ interface.methods) :
    left.translationKey = right.translationKey ↔
      (left.name = right.name ∧ left.formatParameterCount = right.formatParameterCount) ∨
        left.IsNamedAsKey right ∨ right.IsNamedAsKey left := by
  constructor
  · intro hkey
    unfold Method.translationKey at hkey
    cases hleftOverloaded : left.isOverloaded with
    | false =>
      cases hrightOverloaded : right.isOverloaded with
      | false =>
        rw [hleftOverloaded, hrightOverloaded] at hkey
        have hcount := count_eq_of_not_overloaded hinterface hleft hright hkey hleftOverloaded
        exact Or.inl ⟨hkey, hcount⟩
      | true =>
        rw [hleftOverloaded, hrightOverloaded] at hkey
        exact Or.inr (Or.inl ⟨hleftOverloaded, hrightOverloaded, hkey⟩)
    | true =>
      cases hrightOverloaded : right.isOverloaded with
      | false =>
        rw [hleftOverloaded, hrightOverloaded] at hkey
        exact Or.inr (Or.inr ⟨hrightOverloaded, hleftOverloaded, hkey.symm⟩)
      | true =>
        rw [if_pos hleftOverloaded, if_pos hrightOverloaded] at hkey
        exact Or.inl (append_dot_append_eq_iff.1 hkey)
  · rintro (⟨hname, hcount⟩ | hnamed | hnamed)
    · have hoverloaded := isOverloaded_eq_of_name_eq hinterface hleft hright hname
      rw [Method.translationKey, Method.translationKey, hoverloaded, hname, hcount]
    · exact hnamed.translationKey_eq
    · exact hnamed.translationKey_eq.symm

end Interface

/-- **Keys tell slots apart.** In every interface that is put together, a method is overloaded exactly if its name occurs with two different numbers of format arguments, so either all methods of a name are or none is. If there is no dot in the names, two methods have one key exactly if they have one name and one number of format arguments. -/
theorem translationKeys_distinct (model : Model) {name : String} {interface : MessageInterface}
    (hinterface : model.interface name = .ok interface) :
    (∀ method ∈ interface.methods, method.isOverloaded = true ↔ interface.HasOverloads method.name) ∧
    (∀ left ∈ interface.methods, ∀ right ∈ interface.methods, left.name = right.name →
      left.isOverloaded = right.isOverloaded) ∧
    ((∀ method ∈ interface.methods, '.' ∉ method.name.toList) →
      ∀ left ∈ interface.methods, ∀ right ∈ interface.methods, left.translationKey = right.translationKey ↔
        left.name = right.name ∧ left.formatParameterCount = right.formatParameterCount) := by
  refine ⟨fun method => isOverloaded_iff_hasOverloads hinterface,
    fun left hleft right => isOverloaded_eq_of_name_eq hinterface hleft, fun hdots left hleft right hright => ?_⟩
  rw [translationKey_eq_iff hinterface hleft hright]
  constructor
  · rintro (hslot | hnamed | hnamed)
    · exact hslot
    · exact absurd hnamed.dot_mem (hdots left hleft)
    · exact absurd hnamed.dot_mem (hdots right hright)
  · exact Or.inl

def numberedEntries : Batch :=
  stacked entries
    [{ name := "log1", returnType := "java.lang.String", message := some { value := "Logged once" } },
     { name := "log", returnType := "java.lang.String", parameters := [{ name := "code", typeName := "int" }] }]

/-- The two entries with one argument share a key, and no other two do. -/
theorem translationKeys_distinct_numberedEntries :
    ∃ interface, (Model.ofBatch numberedEntries).interface "a.Lower" = .ok interface ∧
      interface.methods.map (fun method => (method.name, method.formatParameterCount)) =
        [("log1", 0), ("log", 1), ("log", 0), ("log", 1)] ∧
      interface.methods.map (·.translationKey) = ["log1", "log.1", "log.0", "log.1"] ∧
      interface.HasOverloads "log" ∧ ¬ interface.HasOverloads "log1" ∧
      ∀ left ∈ interface.methods, ∀ right ∈ interface.methods, left.translationKey = right.translationKey ↔
        left.name = right.name ∧ left.formatParameterCount = right.formatParameterCount := by
  obtain ⟨interface, hinterface, hslots, hoverloaded, hkeys⟩ : ∃ interface,
      (Model.ofBatch numberedEntries).interface "a.Lower" = .ok interface ∧
      interface.methods.map (fun method => (method.name, method.formatParameterCount)) =
        [("log1", 0), ("log", 1), ("log", 0), ("log", 1)] ∧
      interface.methods.map (fun method => (method.name, method.isOverloaded)) =
        [("log1", false), ("log", true), ("log", true), ("log", true)] ∧
      interface.methods.map (·.translationKey) = ["log1", "log.1", "log.0", "log.1"] :=
    ⟨_, Model.interface_eq_ok_iff.2 ⟨_, _, rfl, Stacked.flattenedMethods_lower, rfl⟩, by decide +kernel,
      by decide +kernel, by decide +kernel⟩
  obtain ⟨hoverloads, _, hdistinct⟩ := translationKeys_distinct (Model.ofBatch numberedEntries) hinterface
  have hmark : ∀ mark ∈ interface.methods.map fun method => (method.name, method.isOverloaded),
      mark.2 = true ↔ interface.HasOverloads mark.1 := List.forall_mem_map.2 hoverloads
  rw [hoverloaded] at hmark
  have hdots : ∀ method ∈ interface.methods, '.' ∉ method.name.toList := by
    intro method hmethod
    have hmem := List.mem_map_of_mem (f := fun method => (method.name, method.formatParameterCount)) hmethod
    rw [hslots] at hmem
    have hnames : ∀ slot ∈ [("log1", 0), ("log", 1), ("log", 0), ("log", 1)], '.' ∉ slot.1.toList := by decide
    exact hnames _ hmem
  have hlog : true = true ↔ interface.HasOverloads "log" := hmark ("log", true) (by decide)
  have hlog1 : false = true ↔ interface.HasOverloads "log1" := hmark ("log1", false) (by decide)
  exact ⟨interface, hinterface, hslots, hkeys, hlog.1 rfl, fun h => Bool.false_ne_true (hlog1.2 h), hdistinct hdots⟩

end TypedMessages

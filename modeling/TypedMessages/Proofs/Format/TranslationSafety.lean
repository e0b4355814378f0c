import TypedMessages.Proofs.Format.Demands

/-!
# Translations and the arguments of the text

A translation that is let through should fit all arguments that the text itself fits. The comparison of shapes does not give that: of several ways in which a text shows an argument it looks at the first only, so a later one in the translation may demand what no part of the text does. What it takes is that each demand of the translation is one that the text makes of the same argument, at any place.
-/

namespace TypedMessages

/-- Every demand of a translated shape is one that the shape itself makes of the same argument. -/
def FormatShape.Covers (shape translated : FormatShape) : Prop :=
  ∀ use ∈ translated.showings, use.2.demand = [] ∨
    ∃ other ∈ shape.showings, other.1 = use.1 ∧ other.2.demand = use.2.demand

namespace FormatShape

/-! ### Shapes that agree -/

variable {left middle right shape translated : FormatShape}

theorem isSome_at?_iff {shape : FormatShape} {index : Nat} :
    (shape.at? index).isSome = true ↔ index ∈ shape.showings.map (·.1) := by
  simp only [at?, List.lookup_isSome_iff, List.mem_map, beq_iff_eq, eq_comm (a := index)]

theorem agrees_iff : left.agrees right = true ↔ left.at? = right.at? ∧ left.lineSeparators = right.lineSeparators := by
  constructor
  · intro h
    obtain ⟨hseparators, hall⟩ := Bool.and_eq_true_iff.1 h
    refine ⟨funext fun index => ?_, beq_iff_eq.1 hseparators⟩
    by_cases hshown : index ∈ (left.showings ++ right.showings).map (·.1)
    · obtain ⟨use, huse, rfl⟩ := List.mem_map.1 hshown
      have hsame := List.all_eq_true.1 hall use huse
      exact beq_iff_eq.1 hsame
    · -- neither shape shows the argument
      rw [List.map_append, List.mem_append, not_or, ← isSome_at?_iff, ← isSome_at?_iff] at hshown
      have hleft := Option.not_isSome_iff_eq_none.1 hshown.1
      have hright := Option.not_isSome_iff_eq_none.1 hshown.2
      rw [hleft, hright]
  · rintro ⟨hfirst, hseparators⟩
    simp only [agrees, hfirst, hseparators, beq_self_eq_true, Bool.true_and, List.all_eq_true, implies_true]

theorem agrees_refl (shape : FormatShape) : shape.agrees shape = true :=
  agrees_iff.2 ⟨rfl, rfl⟩

theorem agrees_symm (h : left.agrees right = true) : right.agrees left = true := by
  obtain ⟨hfirst, hseparators⟩ := agrees_iff.1 h
  exact agrees_iff.2 ⟨hfirst.symm, hseparators.symm⟩

theorem agrees_trans (h : left.agrees middle = true) (h' : middle.agrees right = true) : left.agrees right = true := by
  obtain ⟨hfirst, hseparators⟩ := agrees_iff.1 h
  obtain ⟨hnext, hothers⟩ := agrees_iff.1 h'
  exact agrees_iff.2 ⟨hfirst.trans hnext, hseparators.trans hothers⟩

/-- Shapes that agree show the same arguments. -/
theorem mem_numbers_iff_of_agrees (h : left.agrees right = true) (index : Nat) :
    index ∈ left.showings.map (·.1) ↔ index ∈ right.showings.map (·.1) := by
  rw [← isSome_at?_iff, ← isSome_at?_iff, (agrees_iff.1 h).1]

end FormatShape

theorem shapes_of_translationFault? {kind : FormatKind} {text translation : String}
    (h : translationFault? kind text translation = none) :
    ∃ parts translatedParts shape translatedShape, parseFormat kind text = .ok parts ∧
      parseFormat kind translation = .ok translatedParts ∧ formatShape kind parts = .ok shape ∧
      formatShape kind translatedParts = .ok translatedShape ∧ shape.agrees translatedShape = true := by
  unfold translationFault? at h
  split at h
  · cases h
  · next parts hparts =>
    split at h
    · cases h
    · next translatedParts htranslated =>
      split at h
      · cases h
      · cases h
      · next shape translatedShape hshape hshapeTranslated =>
        split at h
        · next hagrees =>
          exact ⟨parts, translatedParts, shape, translatedShape, hparts, htranslated, hshape, hshapeTranslated, hagrees⟩
        · cases h

/-! ### Arguments that lack something -/

/-- An argument of all categories but some. -/
def ArgumentType.without (lacking : List TypeCategory) : ArgumentType :=
  { name := "", categories := TypeCategory.all.filter (· ∉ lacking) }

theorem ArgumentType.belongsTo_without {lacking : List TypeCategory} {category : TypeCategory} :
    (without lacking).belongsTo category = true ↔ category ∉ lacking := by
  have hall : category ∈ TypeCategory.all := by cases category <;> decide
  simp [belongsTo, without, hall]

def lackingAt (place : Nat) (lacking : List TypeCategory) (count : Nat) : List ArgumentType :=
  (List.range count).map fun other => .without (if other = place then lacking else [])

theorem getElem?_lackingAt {place count other : Nat} {lacking : List TypeCategory} (h : other < count) :
    (lackingAt place lacking count)[other]? = some (.without (if other = place then lacking else [])) := by
  rw [lackingAt, List.getElem?_map, List.getElem?_range h]
  rfl

theorem exists_number_lt (showings : List (Nat × Showing)) : ∃ bound, ∀ use ∈ showings, use.1 < bound := by
  induction showings with
  | nil => exact ⟨0, fun use huse => by cases huse⟩
  | cons first showings ih =>
    obtain ⟨bound, hbound⟩ := ih
    refine ⟨max (first.1 + 1) bound, fun use huse => ?_⟩
    rcases List.mem_cons.1 huse with rfl | huse
    · omega
    · have := hbound use huse
      omega

/-! ### The exact condition -/

section Safety

variable {kind : FormatKind} {shape translated : FormatShape}

theorem fitsArguments_of_covers (hagrees : shape.agrees translated = true) (hcovers : shape.Covers translated)
    {types : List ArgumentType} (h : shape.FitsArguments kind types) : translated.FitsArguments kind types := by
  intro use huse
  -- either way the text shows the argument as well, so it is there
  rcases hcovers use huse with hany | ⟨other, hother, hnumber, hdemand⟩
  · have hshown := (FormatShape.mem_numbers_iff_of_agrees hagrees use.1).2 (List.mem_map_of_mem huse)
    obtain ⟨other, hother, hnumber⟩ := List.mem_map.1 hshown
    obtain ⟨place, argument, hplace, hargument, _⟩ := h other hother
    have haccepts : use.2.accepts argument = true := Showing.accepts_iff.2 (Or.inl hany)
    exact ⟨place, argument, hnumber ▸ hplace, hargument, haccepts⟩
  · obtain ⟨place, argument, hplace, hargument, haccepts⟩ := h other hother
    refine ⟨place, argument, hnumber ▸ hplace, hargument, ?_⟩
    rw [Showing.accepts_iff, hdemand] at haccepts
    exact Showing.accepts_iff.2 haccepts

/-- If the text does not make a demand, it fits arguments of which one does not meet it. -/
theorem fitsArguments_lackingAt (hkind : ∀ other ∈ shape.showings, other.2.kind = kind)
    (hplaces : ∀ other ∈ shape.showings, ∃ place, argumentPlace? kind other.1 = some place) {count : Nat}
    (hcount : ∀ other ∈ shape.showings, other.1 < count) {use : Nat × Showing} (huse : use.2.kind = kind) {place : Nat}
    (hplace : argumentPlace? kind use.1 = some place)
    (hnone : ∀ other ∈ shape.showings, other.1 = use.1 → other.2.demand ≠ use.2.demand) :
    shape.FitsArguments kind (lackingAt place use.2.demand count) := by
  intro other hother
  obtain ⟨otherPlace, hotherPlace⟩ := hplaces other hother
  have hlt := Nat.lt_of_le_of_lt (le_of_argumentPlace? hotherPlace) (hcount other hother)
  refine ⟨otherPlace, _, hotherPlace, getElem?_lackingAt hlt, Showing.accepts_iff.2 ?_⟩
  cases hdemand : other.2.demand with
  | nil => exact Or.inl rfl
  | cons wanted more =>
    refine Or.inr ⟨wanted, List.mem_cons_self .., ArgumentType.belongsTo_without.2 ?_⟩
    by_cases hsame : otherPlace = place
    · subst hsame
      have hne := hnone other hother (argumentPlace?_inj hotherPlace hplace)
      have hkinds : other.2.kind = use.2.kind := (hkind other hother).trans huse.symm
      have hwanted : wanted ∈ other.2.demand := by
        rw [hdemand]
        exact List.mem_cons_self ..
      rw [if_pos rfl]
      exact Showing.disjoint_demand hkinds hne wanted hwanted
    · rw [if_neg hsame]
      exact List.not_mem_nil

theorem covers_of_fitsArguments (hkind : ∀ other ∈ shape.showings, other.2.kind = kind)
    (hplaces : ∀ other ∈ shape.showings, ∃ place, argumentPlace? kind other.1 = some place)
    (htranslatedKind : ∀ use ∈ translated.showings, use.2.kind = kind)
    (htranslatedPlaces : ∀ use ∈ translated.showings, ∃ place, argumentPlace? kind use.1 = some place)
    (h : ∀ types, shape.FitsArguments kind types → translated.FitsArguments kind types) :
    shape.Covers translated := by
  intro use huse
  refine Classical.byContradiction fun hnot => ?_
  obtain ⟨hdemand, hnone⟩ := not_or.1 hnot
  obtain ⟨place, hplace⟩ := htranslatedPlaces use huse
  obtain ⟨bound, hbound⟩ := exists_number_lt shape.showings
  have hfits := h _ (fitsArguments_lackingAt hkind hplaces hbound (htranslatedKind use huse) hplace
    fun other hother hnumber heq => hnone ⟨other, hother, hnumber, heq⟩)
  obtain ⟨shownPlace, argument, hshown, hargument, haccepts⟩ := hfits use huse
  cases hplace.symm.trans hshown
  have hlt : place < bound := by
    have := (List.getElem?_eq_some_iff.1 hargument).1
    simpa [lackingAt] using this
  rw [getElem?_lackingAt hlt, if_pos rfl] at hargument
  cases hargument
  rcases Showing.accepts_iff.1 haccepts with hnil | ⟨wanted, hwanted, hbelongs⟩
  · exact hdemand hnil
  · exact ArgumentType.belongsTo_without.1 hbelongs hwanted

end Safety

/-- **When a translation is safe.** A translation that is let through fits whatever arguments the text fits exactly if each demand that it makes of an argument is one that the text makes of the same argument, not necessarily where it shows it first. -/
theorem translation_safe_iff {kind : FormatKind} {text translation : String}
    (h : translationFault? kind text translation = none) :
    ∃ parts translatedParts shape translatedShape, parseFormat kind text = .ok parts ∧
      parseFormat kind translation = .ok translatedParts ∧ formatShape kind parts = .ok shape ∧
      formatShape kind translatedParts = .ok translatedShape ∧
      ((∀ types, argumentFault? kind parts types = none → argumentFault? kind translatedParts types = none) ↔
        shape.Covers translatedShape) := by
  obtain ⟨parts, translatedParts, shape, translatedShape, hparts, htranslated, hshape, htranslatedShape, hagrees⟩ :=
    shapes_of_translationFault? h
  refine ⟨parts, translatedParts, shape, translatedShape, hparts, htranslated, hshape, htranslatedShape, ?_⟩
  simp only [argumentFault?_eq_none_iff hshape, argumentFault?_eq_none_iff htranslatedShape]
  constructor
  · have hkinds : ∀ showing ∈ shape.showings, showing.2.kind = kind := fun _ => kind_of_mem_showings hshape
    have htranslatedKinds : ∀ showing ∈ translatedShape.showings, showing.2.kind = kind :=
      fun _ => kind_of_mem_showings htranslatedShape
    apply covers_of_fitsArguments hkinds _ htranslatedKinds
    · exact fun _ => exists_argumentPlace? htranslated htranslatedShape
    · exact fun _ => exists_argumentPlace? hparts hshape
  · intro hcovers types
    exact fitsArguments_of_covers hagrees hcovers

theorem translation_safe_reordered :
    translationFault? .printf "%s took %d ms" "%2$d ms for %1$s" = none ∧
      ∃ parts translatedParts, parseFormat .printf "%s took %d ms" = .ok parts ∧
        parseFormat .printf "%2$d ms for %1$s" = .ok translatedParts ∧
        ∀ types, argumentFault? .printf parts types = none → argumentFault? .printf translatedParts types = none := by
  have hfault : translationFault? .printf "%s took %d ms" "%2$d ms for %1$s" = none := by decide +kernel
  obtain ⟨parts, translatedParts, shape, translatedShape, hparts, htranslated, hshape, htranslatedShape, hiff⟩ :=
    translation_safe_iff hfault
  refine ⟨hfault, parts, translatedParts, hparts, htranslated, hiff.2 ?_⟩
  obtain ⟨read, hread, hreadShape⟩ : ∃ parts, parseFormat .printf "%s took %d ms" = .ok parts ∧
      formatShape .printf parts = .ok ⟨[(1, .conversion .string), (2, .conversion .decimalInteger)], 0⟩ := by
    decide +kernel
  obtain ⟨readTranslated, hreadTranslated, hreadTranslatedShape⟩ : ∃ parts,
      parseFormat .printf "%2$d ms for %1$s" = .ok parts ∧
      formatShape .printf parts = .ok ⟨[(2, .conversion .decimalInteger), (1, .conversion .string)], 0⟩ := by
    decide +kernel
  cases hparts.symm.trans hread
  cases htranslated.symm.trans hreadTranslated
  cases hshape.symm.trans hreadShape
  cases htranslatedShape.symm.trans hreadTranslatedShape
  simp [FormatShape.Covers, Showing.demand, Conversion.category, ConversionCategory.demand]

/-- A translation that shows a text argument once more, as a number, is let through. -/
theorem translation_unsafe_repeated :
    translationFault? .printf "%1$s" "%1$s %1$d" = none ∧
      ∃ parts translatedParts, parseFormat .printf "%1$s" = .ok parts ∧
        parseFormat .printf "%1$s %1$d" = .ok translatedParts ∧
        argumentFault? .printf parts [{ name := "java.lang.String", categories := [] }] = none ∧
        argumentFault? .printf translatedParts [{ name := "java.lang.String", categories := [] }] ≠ none := by
  have hfault : translationFault? .printf "%1$s" "%1$s %1$d" = none := by decide +kernel
  obtain ⟨parts, hparts, hfits⟩ : ∃ parts, parseFormat .printf "%1$s" = .ok parts ∧
      argumentFault? .printf parts [{ name := "java.lang.String", categories := [] }] = none := by
    decide +kernel
  obtain ⟨translatedParts, htranslated, hfails⟩ : ∃ parts, parseFormat .printf "%1$s %1$d" = .ok parts ∧
      (argumentFault? .printf parts [{ name := "java.lang.String", categories := [] }]).isSome = true := by
    decide +kernel
  refine ⟨hfault, parts, translatedParts, hparts, htranslated, hfits, fun hnone => ?_⟩
  rw [hnone] at hfails
  cases hfails

end TypedMessages

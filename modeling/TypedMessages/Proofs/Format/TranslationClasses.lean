import TypedMessages.Proofs.Format.Numbering
import TypedMessages.Proofs.Format.References
import TypedMessages.Proofs.Format.TranslationSafety

/-!
# Texts that are translations of each other

Whether a text is let through as a translation of another is decided by their shapes alone: both have to have one, and the shapes have to agree. So it does not matter which of the two is the original, and translations of translations are translations: the texts that have a shape fall into classes, and all texts of a class refer to the same arguments. The other texts, which cannot be read or which look back where nothing precedes, are translations of nothing, not even of themselves.
-/

namespace TypedMessages

/-! ### Texts with a shape -/

/-- A text that can be read, and whose first conversion that shows an argument does not ask for the previous one. -/
def IsTranslatable (kind : FormatKind) (text : String) : Prop :=
  ∃ parts, parseFormat kind text = .ok parts ∧
    (kind = .printf → ∀ first ∈ (argumentConversions parts).head?, first.content.index ≠ .previous)

/-- The text can be read, and its parts have the shape. -/
def HasShape (kind : FormatKind) (text : String) (shape : FormatShape) : Prop :=
  ∃ parts, parseFormat kind text = .ok parts ∧ formatShape kind parts = .ok shape

section Texts

variable {kind : FormatKind} {text translation : String} {parts : List Part} {shape other : FormatShape}

theorem HasShape.unique (h : HasShape kind text shape) (h' : HasShape kind text other) : shape = other := by
  obtain ⟨parts, hparts, hshape⟩ := h
  obtain ⟨others, hothers, hother⟩ := h'
  cases hparts.symm.trans hothers
  exact Except.ok.inj (hshape.symm.trans hother)

/-- Parts have a shape unless the first conversion that shows an argument looks back. -/
theorem exists_formatShape_iff : (∃ shape, formatShape kind parts = .ok shape) ↔
    (kind = .printf → ∀ first ∈ (argumentConversions parts).head?, first.content.index ≠ .previous) := by
  cases kind with
  | printf =>
    simp only [forall_const]
    cases huses : argumentUses parts with
    | error fault =>
      obtain ⟨first, rest, hfirst, hprevious, _⟩ := argumentUses_eq_error_iff.1 huses
      simp [formatShape, huses, bind, Except.bind, hfirst, hprevious]
    | ok uses =>
      refine iff_of_true ⟨_, by rw [formatShape, huses]; rfl⟩ fun first hfirst hprevious => ?_
      obtain ⟨rest, hrest⟩ := List.head?_eq_some_iff.1 hfirst
      have herror := argumentUses_eq_error_iff.2 ⟨first, rest, hrest, hprevious, rfl⟩
      cases huses.symm.trans herror
  | messageFormat | noFormat => exact iff_of_true ⟨_, rfl⟩ (by simp)

theorem isTranslatable_iff_exists_hasShape : IsTranslatable kind text ↔ ∃ shape, HasShape kind text shape := by
  simp only [IsTranslatable, HasShape, ← exists_formatShape_iff]
  constructor
  · rintro ⟨parts, hparts, shape, hshape⟩
    exact ⟨shape, parts, hparts, hshape⟩
  · rintro ⟨shape, parts, hparts, hshape⟩
    exact ⟨parts, hparts, shape, hshape⟩

theorem translationFault?_eq_none_iff : translationFault? kind text translation = none ↔
    ∃ shape translatedShape, HasShape kind text shape ∧ HasShape kind translation translatedShape ∧
      shape.agrees translatedShape = true := by
  constructor
  · intro h
    obtain ⟨parts, translatedParts, shape, translatedShape, hparts, htranslated, hshape, htranslatedShape, hagrees⟩ :=
      shapes_of_translationFault? h
    exact ⟨shape, translatedShape, ⟨parts, hparts, hshape⟩, ⟨translatedParts, htranslated, htranslatedShape⟩, hagrees⟩
  · rintro ⟨shape, translatedShape, ⟨parts, hparts, hshape⟩, ⟨translatedParts, htranslated, htranslatedShape⟩, hagrees⟩
    simp only [translationFault?, hparts, htranslated, hshape, htranslatedShape, if_pos hagrees]

theorem translationFault?_self (h : IsTranslatable kind text) : translationFault? kind text text = none := by
  obtain ⟨shape, hshape⟩ := isTranslatable_iff_exists_hasShape.1 h
  exact translationFault?_eq_none_iff.2 ⟨shape, shape, hshape, hshape, shape.agrees_refl⟩

theorem translationFault?_symm (h : translationFault? kind text translation = none) :
    translationFault? kind translation text = none := by
  obtain ⟨shape, translatedShape, hshape, htranslatedShape, hagrees⟩ := translationFault?_eq_none_iff.1 h
  exact translationFault?_eq_none_iff.2
    ⟨translatedShape, shape, htranslatedShape, hshape, FormatShape.agrees_symm hagrees⟩

theorem translationFault?_trans {further : String} (h : translationFault? kind text translation = none)
    (h' : translationFault? kind translation further = none) : translationFault? kind text further = none := by
  obtain ⟨shape, translatedShape, hshape, htranslatedShape, hagrees⟩ := translationFault?_eq_none_iff.1 h
  obtain ⟨sameShape, furtherShape, hsameShape, hfurtherShape, hfurther⟩ := translationFault?_eq_none_iff.1 h'
  cases htranslatedShape.unique hsameShape
  exact translationFault?_eq_none_iff.2
    ⟨shape, furtherShape, hshape, hfurtherShape, FormatShape.agrees_trans hagrees hfurther⟩

theorem isTranslatable_of_translationFault? (h : translationFault? kind text translation = none) :
    IsTranslatable kind text ∧ IsTranslatable kind translation := by
  obtain ⟨shape, translatedShape, hshape, htranslatedShape, _⟩ := translationFault?_eq_none_iff.1 h
  exact ⟨isTranslatable_iff_exists_hasShape.2 ⟨shape, hshape⟩,
    isTranslatable_iff_exists_hasShape.2 ⟨translatedShape, htranslatedShape⟩⟩

/-! ### What shapes keep -/

theorem lineSeparators_of_formatShape (h : formatShape .printf parts = .ok shape) :
    shape.lineSeparators = (conversionsOf parts).countP (·.content.conversion == .lineSeparator) := by
  obtain ⟨uses, _, h⟩ := bind_eq_ok_iff.1 h
  cases h
  rfl

end Texts

theorem referencedArguments_eq_of_agrees {kind : FormatKind} {parts others : List Part} {shape other : FormatShape}
    (hshape : formatShape kind parts = .ok shape) (hother : formatShape kind others = .ok other)
    (hagrees : shape.agrees other = true) : referencedArguments kind parts = referencedArguments kind others := by
  rw [referencedArguments_eq_ascending hshape, referencedArguments_eq_ascending hother]
  refine ascending_congr fun place => ?_
  simp only [List.mem_map (f := fun number => (argumentPlace? kind number).getD 0),
    FormatShape.mem_numbers_iff_of_agrees hagrees]

/-- **Translations make classes of texts.** Among the texts that can be read and do not begin with a look back, being a translation is an equivalence, and no other text is a translation or has one. Texts of one class refer to the same arguments, so to as many, and if they are written with percent conversions they have as many line separators. -/
theorem translation_equivalence (kind : FormatKind) :
    (Equivalence fun text translation : { text : String // IsTranslatable kind text } =>
      translationFault? kind text translation = none) ∧
    (∀ text translation, translationFault? kind text translation = none →
      IsTranslatable kind text ∧ IsTranslatable kind translation) ∧
    ∀ text translation, translationFault? kind text translation = none → ∃ parts translatedParts,
      parseFormat kind text = .ok parts ∧ parseFormat kind translation = .ok translatedParts ∧
      referencedArguments kind parts = referencedArguments kind translatedParts ∧
      argumentCount kind parts = argumentCount kind translatedParts ∧
      (kind = .printf → (conversionsOf parts).countP (·.content.conversion == .lineSeparator) =
        (conversionsOf translatedParts).countP (·.content.conversion == .lineSeparator)) := by
  have hequivalence : Equivalence fun text translation : { text : String // IsTranslatable kind text } =>
      translationFault? kind text translation = none :=
    ⟨fun text => translationFault?_self text.2, translationFault?_symm, translationFault?_trans⟩
  refine ⟨hequivalence, fun text translation => isTranslatable_of_translationFault?, fun text translation h => ?_⟩
  obtain ⟨parts, translatedParts, shape, translatedShape, hparts, htranslated, hshape, htranslatedShape, hagrees⟩ :=
    shapes_of_translationFault? h
  have hreferenced := referencedArguments_eq_of_agrees hshape htranslatedShape hagrees
  obtain ⟨_, hseparators⟩ := FormatShape.agrees_iff.1 hagrees
  refine ⟨parts, translatedParts, hparts, htranslated, hreferenced, congrArg List.length hreferenced, ?_⟩
  rintro rfl
  rw [← lineSeparators_of_formatShape hshape, ← lineSeparators_of_formatShape htranslatedShape]
  exact hseparators

/-- A text and a translation that shows its arguments the other way round, one of them twice; and a text that looks back where nothing precedes. -/
theorem translation_equivalence_reordered :
    translationFault? .printf "%s took %d ms%n" "%2$d ms%n(%<x) for %1$S" = none ∧
      translationFault? .printf "%2$d ms%n(%<x) for %1$S" "%s took %d ms%n" = none ∧
      (∃ parts translatedParts, parseFormat .printf "%s took %d ms%n" = .ok parts ∧
        parseFormat .printf "%2$d ms%n(%<x) for %1$S" = .ok translatedParts ∧
        referencedArguments .printf parts = referencedArguments .printf translatedParts) ∧
      ¬ IsTranslatable .printf "%n%<s" ∧ ∀ translation, translationFault? .printf "%n%<s" translation ≠ none := by
  have hfault : translationFault? .printf "%s took %d ms%n" "%2$d ms%n(%<x) for %1$S" = none := by decide +kernel
  obtain ⟨hequivalence, hrelated, hkept⟩ := translation_equivalence .printf
  obtain ⟨htext, htranslation⟩ := hrelated _ _ hfault
  obtain ⟨parts, translatedParts, hparts, htranslated, hreferenced, _⟩ := hkept _ _ hfault
  have hreverse : translationFault? .printf "%2$d ms%n(%<x) for %1$S" "%s took %d ms%n" = none :=
    hequivalence.symm (x := ⟨_, htext⟩) (y := ⟨_, htranslation⟩) hfault
  have hback : ¬ IsTranslatable .printf "%n%<s" := by
    rintro ⟨parts, hparts, hfirst⟩
    obtain ⟨read, hread, hprevious⟩ : ∃ read, parseFormat .printf "%n%<s" = .ok read ∧
        (argumentConversions read).head?.map (·.content.index) = some .previous := by
      decide +kernel
    obtain ⟨first, hhead, hindex⟩ := Option.map_eq_some_iff.1 hprevious
    cases hparts.symm.trans hread
    exact hfirst rfl first hhead hindex
  refine ⟨hfault, hreverse, ⟨parts, translatedParts, hparts, htranslated, hreferenced⟩, hback, fun translation h => ?_⟩
  obtain ⟨hlooksBack, _⟩ := hrelated _ _ h
  exact hback hlooksBack

end TypedMessages

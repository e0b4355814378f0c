import TypedMessages.Format.Translation
import TypedMessages.Proofs.Format.Indices

/-!
# What a text demands of its arguments

The shape of a text has all that the check of its arguments looks at: which arguments the text shows, and how. A way of showing an argument demands one of some categories of it, or nothing. A text fits its arguments exactly if each of them that it shows is there and meets every demand.
-/

namespace TypedMessages

/-! ### Demands -/

/-- The categories of which an argument needs one; if there are none, any argument will do. -/
def ConversionCategory.demand : ConversionCategory → List TypeCategory
  | general | noArgument => []
  | character => [.character]
  | integral => [.integral]
  | floatingPoint => [.floatingPoint]
  | dateTime => [.temporal]

theorem ConversionCategory.accepts_iff {category : ConversionCategory} {argument : ArgumentType} :
    category.accepts argument = true ↔
      category.demand = [] ∨ ∃ wanted ∈ category.demand, argument.belongsTo wanted = true := by
  cases category <;> simp [accepts, demand]

theorem ConversionCategory.disjoint_demand {left right : ConversionCategory} (hne : left.demand ≠ right.demand) :
    ∀ wanted ∈ left.demand, wanted ∉ right.demand := by
  cases left <;> cases right <;> simp [demand] at hne ⊢

def PlaceholderType.demand : PlaceholderType → List TypeCategory
  | number | choice => [.integral, .floatingPoint]
  | date | time => [.temporal]

theorem PlaceholderType.accepts_iff {type : PlaceholderType} {argument : ArgumentType} :
    type.accepts argument = true ↔ ∃ wanted ∈ type.demand, argument.belongsTo wanted = true := by
  cases type <;> simp [accepts, demand]

theorem PlaceholderType.disjoint_demand {left right : PlaceholderType} (hne : left.demand ≠ right.demand) :
    ∀ wanted ∈ left.demand, wanted ∉ right.demand := by
  cases left <;> cases right <;> simp [demand] at hne ⊢

namespace Showing

def demand : Showing → List TypeCategory
  | conversion shown => shown.category.demand
  | placeholder none => []
  | placeholder (some type) => type.demand

def accepts (argument : ArgumentType) : Showing → Bool
  | conversion shown => shown.category.accepts argument
  | placeholder none => true
  | placeholder (some type) => type.accepts argument

theorem accepts_iff {showing : Showing} {argument : ArgumentType} :
    showing.accepts argument = true ↔
      showing.demand = [] ∨ ∃ wanted ∈ showing.demand, argument.belongsTo wanted = true := by
  cases showing with
  | conversion shown => exact ConversionCategory.accepts_iff
  | placeholder type =>
    cases type with
    | none => simp [accepts, demand]
    | some type =>
      have hsome : type.demand ≠ [] := by cases type <;> simp [PlaceholderType.demand]
      simp only [accepts, demand, PlaceholderType.accepts_iff, hsome, false_or]

def kind : Showing → FormatKind
  | conversion _ => .printf
  | placeholder _ => .messageFormat

theorem disjoint_demand {left right : Showing} (hkind : left.kind = right.kind) (hne : left.demand ≠ right.demand) :
    ∀ wanted ∈ left.demand, wanted ∉ right.demand := by
  cases left with
  | conversion left =>
    cases right with
    | conversion right => exact ConversionCategory.disjoint_demand hne
    | placeholder right => cases hkind
  | placeholder left =>
    cases right with
    | conversion right => cases hkind
    | placeholder right =>
      cases left with
      | none => simp [demand]
      | some left =>
        cases right with
        | none => simp [demand]
        | some right => exact PlaceholderType.disjoint_demand hne

end Showing

/-! ### Arguments by their numbers -/

/-- The place of an argument in a list: the numbers of conversions are counted from one, those of placeholders from zero. -/
def argumentPlace? (kind : FormatKind) (number : Nat) : Option Nat :=
  match kind, number with
  | .printf, 0 => none
  | .printf, place + 1 => some place
  | _, place => some place

theorem argumentPlace?_inj {kind : FormatKind} {left right place : Nat} (hleft : argumentPlace? kind left = some place)
    (hright : argumentPlace? kind right = some place) : left = right := by
  cases kind with
  | printf =>
    cases left with
    | zero => cases hleft
    | succ left =>
      cases right with
      | zero => cases hright
      | succ right =>
        cases hleft
        cases hright
        rfl
  | messageFormat | noFormat =>
    cases hleft
    cases hright
    rfl

theorem le_of_argumentPlace? {kind : FormatKind} {number place : Nat} (h : argumentPlace? kind number = some place) :
    place ≤ number := by
  cases kind with
  | printf =>
    cases number with
    | zero => cases h
    | succ number =>
      cases h
      exact Nat.le_succ _
  | messageFormat | noFormat =>
    cases h
    exact Nat.le_refl _

/-- The arguments that a shape shows are there and meet its demands. -/
def FormatShape.FitsArguments (kind : FormatKind) (types : List ArgumentType) (shape : FormatShape) : Prop :=
  ∀ use ∈ shape.showings, ∃ place argument, argumentPlace? kind use.1 = some place ∧
    types[place]? = some argument ∧ use.2.accepts argument = true

theorem conversionFault?_eq_none_iff {types : List ArgumentType} {use : ArgumentUse} :
    conversionFault? types use = none ↔ ∃ place argument, argumentPlace? .printf use.1 = some place ∧
      types[place]? = some argument ∧ (Showing.conversion use.2.content.conversion).accepts argument = true := by
  obtain ⟨number, specifier⟩ := use
  cases number with
  | zero => simp [conversionFault?, argumentPlace?]
  | succ place =>
    cases htype : types[place]? with
    | none => simp [conversionFault?, argumentPlace?, htype]
    | some argument => simp [conversionFault?, argumentPlace?, htype, Showing.accepts]

theorem placeholderFault?_eq_none_iff {types : List ArgumentType} {placeholder : Located Placeholder} :
    placeholderFault? types placeholder = none ↔
      ∃ place argument, argumentPlace? .messageFormat placeholder.content.index = some place ∧
        types[place]? = some argument ∧ (Showing.placeholder placeholder.content.type).accepts argument = true := by
  cases htype : types[placeholder.content.index]? with
  | none => simp [placeholderFault?, argumentPlace?, htype]
  | some argument =>
    cases hwanted : placeholder.content.type with
    | none => simp [placeholderFault?, argumentPlace?, htype, hwanted, Showing.accepts]
    | some type => simp [placeholderFault?, argumentPlace?, htype, hwanted, Showing.accepts]

/-! ### Shapes -/

section Shapes

variable {kind : FormatKind} {parts : List Part} {shape : FormatShape}

theorem formatShape_printf (h : formatShape .printf parts = .ok shape) :
    ∃ uses, argumentUses parts = .ok uses ∧
      shape.showings = uses.map fun use => (use.1, .conversion use.2.content.conversion) := by
  obtain ⟨uses, huses, h⟩ := bind_eq_ok_iff.1 h
  cases h
  exact ⟨uses, huses, rfl⟩

/-- The shape decides whether a text fits its arguments. -/
theorem argumentFault?_eq_none_iff (h : formatShape kind parts = .ok shape) {types : List ArgumentType} :
    argumentFault? kind parts types = none ↔ shape.FitsArguments kind types := by
  cases kind with
  | printf =>
    obtain ⟨uses, huses, hshowings⟩ := formatShape_printf h
    simp only [argumentFault?, huses, List.findSome?_eq_none_iff, FormatShape.FitsArguments, hshowings,
      List.forall_mem_map, conversionFault?_eq_none_iff]
  | messageFormat =>
    cases h
    simp only [argumentFault?, List.findSome?_eq_none_iff, FormatShape.FitsArguments, List.forall_mem_map,
      placeholderFault?_eq_none_iff]
  | noFormat =>
    cases h
    simp [argumentFault?, FormatShape.FitsArguments]

theorem kind_of_mem_showings (h : formatShape kind parts = .ok shape) {use : Nat × Showing}
    (huse : use ∈ shape.showings) : use.2.kind = kind := by
  cases kind with
  | printf =>
    obtain ⟨uses, _, hshowings⟩ := formatShape_printf h
    rw [hshowings] at huse
    obtain ⟨_, _, rfl⟩ := List.mem_map.1 huse
    rfl
  | messageFormat =>
    cases h
    obtain ⟨_, _, rfl⟩ := List.mem_map.1 huse
    rfl
  | noFormat =>
    cases h
    cases huse

theorem exists_argumentPlace? {text : String} (hparse : parseFormat kind text = .ok parts)
    (h : formatShape kind parts = .ok shape) {use : Nat × Showing} (huse : use ∈ shape.showings) :
    ∃ place, argumentPlace? kind use.1 = some place := by
  cases kind with
  | printf =>
    obtain ⟨uses, huses, hshowings⟩ := formatShape_printf h
    rw [hshowings] at huse
    obtain ⟨shown, hshown, rfl⟩ := List.mem_map.1 huse
    have hpos := pos_of_mem_argumentUses hparse huses shown hshown
    exact ⟨shown.1 - 1, by rw [← Nat.succ_pred_eq_of_pos hpos]; rfl⟩
  | messageFormat | noFormat => exact ⟨use.1, rfl⟩

end Shapes

end TypedMessages

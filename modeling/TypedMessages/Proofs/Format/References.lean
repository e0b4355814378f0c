import TypedMessages.Proofs.Format.Demands
import Mathlib.Data.List.Perm.Subperm

/-!
# The arguments that a text refers to

A text that fits its arguments refers to none beyond them. Since it is said only once that an argument is referred to, there are as many references as arguments exactly if no argument is left out: to count is enough.
-/

namespace TypedMessages

section Shapes

variable {kind : FormatKind} {parts : List Part} {shape : FormatShape}

/-- The arguments that a text refers to are those that its shape shows. -/
theorem referencedArguments_eq_ascending (h : formatShape kind parts = .ok shape) :
    referencedArguments kind parts =
      ascending ((shape.showings.map (·.1)).map fun number => (argumentPlace? kind number).getD 0) := by
  cases kind with
  | printf =>
    obtain ⟨uses, huses, hshowings⟩ := formatShape_printf h
    have hplace : ∀ number, (argumentPlace? .printf number).getD 0 = number - 1 := by
      intro number
      cases number with
      | zero => rfl
      | succ place => rfl
    simp only [referencedArguments, huses, hshowings, List.map_map, hplace]
    rfl
  | messageFormat =>
    cases h
    simp only [referencedArguments, List.map_map]
    rfl
  | noFormat =>
    cases h
    rfl

theorem mem_referencedArguments (h : formatShape kind parts = .ok shape) {use : Nat × Showing}
    (huse : use ∈ shape.showings) {place : Nat} (hplace : argumentPlace? kind use.1 = some place) :
    place ∈ referencedArguments kind parts := by
  rw [referencedArguments_eq_ascending h, mem_ascending]
  exact List.mem_map.2 ⟨use.1, List.mem_map_of_mem huse, by rw [hplace, Option.getD_some]⟩

end Shapes

section Fitting

variable {kind : FormatKind} {parts : List Part} {types : List ArgumentType}

theorem exists_formatShape_of_fits (h : argumentFault? kind parts types = none) :
    ∃ shape, formatShape kind parts = .ok shape := by
  cases kind with
  | printf =>
    cases huses : argumentUses parts with
    | error fault =>
      rw [argumentFault?, huses] at h
      cases h
    | ok uses =>
      rw [formatShape, huses]
      exact ⟨_, rfl⟩
  | messageFormat | noFormat => exact ⟨_, rfl⟩

end Fitting

end TypedMessages

import TypedMessages.Format.Basic
import TypedMessages.Format.Check
import TypedMessages.Proofs.Errors
import TypedMessages.Proofs.Format.Layout

/-!
# Effective numbers

An argument number that is read from a text is never zero, so neither is a number that counting or looking back makes of it: every conversion of a readable text shows an argument that is counted from one.
-/

namespace TypedMessages

/-! ### Conversions under joining -/

@[simp]
theorem conversionsOf_joinLiterals (parts : List Part) : conversionsOf (Part.joinLiterals parts) = conversionsOf parts :=
  Part.filterMap_joinLiterals (fun _ => rfl) parts

/-! ### Numbers that are read -/

theorem Specifier.readIndex_ne_zero {text rest : List Char} {index : ArgumentIndex}
    (h : readIndex text = .ok (index, rest)) : index ≠ .explicit 0 := by
  unfold readIndex at h
  split at h
  · split at h
    · cases h
      simp
    · cases h
  · cases h
    simp

theorem Specifier.index_ne_zero_of_read {text rest : List Char} {specifier : Specifier}
    (h : read text = .ok (some specifier, rest)) : specifier.index ≠ .explicit 0 := by
  rw [read] at h
  obtain ⟨⟨index, _⟩, hindex, h⟩ := bind_eq_ok_iff.1 h
  obtain ⟨⟨flags, _⟩, _, h⟩ := bind_eq_ok_iff.1 h
  obtain ⟨_, _, h⟩ := bind_eq_ok_iff.1 h
  obtain ⟨_, _, h⟩ := bind_eq_ok_iff.1 h
  obtain ⟨⟨conversion, _⟩, _, h⟩ := bind_eq_ok_iff.1 h
  cases conversion with
  | none => cases h
  | some conversion =>
    cases h
    dsimp only
    split
    · simp
    · exact readIndex_ne_zero hindex

/-- The explicit numbers of conversions are counted from one. -/
def NumbersCounted (conversions : List (Located Specifier)) : Prop :=
  ∀ located ∈ conversions, located.content.index ≠ .explicit 0

theorem Printf.numbersCounted_of_pieces {position : Nat} {text : List Char} {parts : List Part}
    (h : pieces position text = .ok parts) : NumbersCounted (conversionsOf parts) := by
  fun_induction pieces position text generalizing parts with
  | case1 =>
    cases h
    intro located hlocated
    cases hlocated
  | case2 => cases h
  | case3 position rest specifier left hread text =>
    rename_i ih
    obtain ⟨others, hothers, h⟩ := bind_eq_ok_iff.1 h
    cases specifier with
    | none =>
      cases h
      show NumbersCounted (conversionsOf others)
      exact ih hothers
    | some specifier =>
      cases h
      intro located hlocated
      rcases List.mem_cons.1 hlocated with rfl | hrest
      · exact Specifier.index_ne_zero_of_read hread
      · exact ih hothers located hrest
  | case4 position c rest hplain ih =>
    obtain ⟨others, hothers, h⟩ := bind_eq_ok_iff.1 h
    cases h
    show NumbersCounted (conversionsOf others)
    exact ih hothers

theorem Printf.numbersCounted_of_parse {text : String} {parts : List Part} (h : parse text = .ok parts) :
    NumbersCounted (conversionsOf parts) := by
  obtain ⟨read, hpieces, rfl⟩ := map_eq_ok_iff.1 h
  rw [conversionsOf_joinLiterals]
  exact numbersCounted_of_pieces hpieces

/-! ### Numbers that conversions denote -/

theorem nextIndex_pos {count next number : Nat} {previous : Option Nat} {index : ArgumentIndex}
    (hindex : index ≠ .explicit 0) (hprevious : ∀ number, previous = some number → 0 < number)
    (h : nextIndex count previous index = some (number, next)) : 0 < number := by
  cases index with
  | implicit =>
    cases h
    exact Nat.succ_pos count
  | explicit number =>
    cases h
    exact Nat.pos_of_ne_zero fun hzero => hindex (congrArg ArgumentIndex.explicit hzero)
  | previous =>
    obtain ⟨number, hsome, heq⟩ := Option.map_eq_some_iff.1 h
    cases heq
    exact hprevious number hsome

theorem pos_of_mem_resolveIndices {count : Nat} {previous : Option Nat} {conversions : List (Located Specifier)}
    {uses : List ArgumentUse} (hcounted : NumbersCounted conversions)
    (hprevious : ∀ number, previous = some number → 0 < number)
    (h : resolveIndices count previous conversions = .ok uses) : ∀ use ∈ uses, 0 < use.1 := by
  induction conversions generalizing count previous uses with
  | nil =>
    cases h
    intro use huse
    cases huse
  | cons specifier rest ih =>
    rw [resolveIndices] at h
    split at h
    · cases h
    · next number next hnext =>
      have hpos : 0 < number := nextIndex_pos (hcounted specifier (List.mem_cons_self ..)) hprevious hnext
      obtain ⟨others, hrest, rfl⟩ := map_eq_ok_iff.1 h
      intro use huse
      rcases List.mem_cons.1 huse with rfl | huse
      · exact hpos
      · have hrestCounted : NumbersCounted rest := fun located hlocated => hcounted located (List.mem_cons_of_mem _ hlocated)
        refine ih hrestCounted ?_ hrest use huse
        intro other heq
        cases heq
        exact hpos

theorem pos_of_mem_argumentUses {text : String} {parts : List Part} {uses : List ArgumentUse}
    (hparse : Printf.parse text = .ok parts) (h : argumentUses parts = .ok uses) : ∀ use ∈ uses, 0 < use.1 := by
  refine pos_of_mem_resolveIndices ?_ (fun number hnone => by cases hnone) h
  intro located hlocated
  obtain ⟨hmem, _⟩ := List.mem_filter.1 hlocated
  exact Printf.numbersCounted_of_parse hparse located hmem

end TypedMessages

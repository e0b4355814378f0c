import Mathlib.Algebra.Order.BigOperators.Group.List
import Mathlib.Algebra.Order.Group.Nat
import Mathlib.Data.List.Basic
import Mathlib.Data.List.Pairwise
import Mathlib.Order.Nat
import TypedMessages.Names.Extremes

/-!
# Which extreme is the first

The first element with the least measure comes before those that equal it and after none that does. So two lists with the same elements have the same first minimum if elements that equal each other come in the same order in both. The first element with the greatest measure is the one that its place among the others says it is.
-/

namespace TypedMessages

variable {α β γ : Type}

theorem exists_split_of_firstMinBy {measure : α → Nat} {list : List α} {least : α}
    (h : firstMinBy measure list = some least) :
    ∃ before after, list = before ++ least :: after ∧ (∀ a ∈ before, measure least < measure a) ∧
      ∀ a ∈ after, measure least ≤ measure a := by
  induction list generalizing least with
  | nil => cases h
  | cons a rest ih =>
    rw [firstMinBy] at h
    split at h
    · next hnone =>
      cases h
      rw [firstMinBy_eq_none_iff.1 hnone]
      exact ⟨[], [], rfl, List.forall_mem_nil _, List.forall_mem_nil _⟩
    · next b hrest =>
      obtain ⟨before, after, hsplit, hbefore, hafter⟩ := ih hrest
      split at h
      · next hless =>
        cases h
        refine ⟨a :: before, after, by rw [hsplit, List.cons_append], ?_, hafter⟩
        rintro c (_ | ⟨_, hc⟩)
        · exact hless
        · exact hbefore c hc
      · next hless =>
        cases h
        have hle : measure a ≤ measure b := Nat.le_of_not_lt hless
        refine ⟨[], rest, rfl, List.forall_mem_nil _, fun c hc => hle.trans ?_⟩
        rw [hsplit] at hc
        rcases List.mem_append.1 hc with hc | hc
        · exact (hbefore c hc).le
        · rcases List.mem_cons.1 hc with rfl | hc
          · exact le_rfl
          · exact hafter c hc

theorem mem_of_firstMinBy {measure : α → Nat} {list : List α} {least : α} (h : firstMinBy measure list = some least) :
    least ∈ list := by
  obtain ⟨before, after, rfl, _, _⟩ := exists_split_of_firstMinBy h
  exact List.mem_append_right _ List.mem_cons_self

theorem le_of_firstMinBy {measure : α → Nat} {list : List α} {least other : α}
    (h : firstMinBy measure list = some least) (hother : other ∈ list) : measure least ≤ measure other := by
  obtain ⟨before, after, rfl, hbefore, hafter⟩ := exists_split_of_firstMinBy h
  rcases List.mem_append.1 hother with hother | hother
  · exact (hbefore other hother).le
  · rcases List.mem_cons.1 hother with rfl | hother
    · exact le_rfl
    · exact hafter other hother

section Candidates

variable {measure : β → Nat} {candidate : α → Option β} {items : List α} {least : β}

/-- The first minimum comes from an item that stands behind greater candidates only and before no less ones. -/
theorem exists_split_of_firstMinBy_filterMap (h : firstMinBy measure (items.filterMap candidate) = some least) :
    ∃ before a after, items = before ++ a :: after ∧ candidate a = some least ∧
      (∀ b ∈ before, ∀ other, candidate b = some other → measure least < measure other) ∧
      ∀ b ∈ after, ∀ other, candidate b = some other → measure least ≤ measure other := by
  obtain ⟨before, after, hsplit, hbefore, hafter⟩ := exists_split_of_firstMinBy h
  obtain ⟨front, rest, rfl, rfl, hrest⟩ := List.filterMap_eq_append_iff.1 hsplit
  obtain ⟨skipped, a, back, rfl, hskipped, ha, rfl⟩ := List.filterMap_eq_cons_iff.1 hrest
  refine ⟨front ++ skipped, a, back, (List.append_assoc ..).symm, ha, fun b hb other hother => ?_,
    fun b hb other hother => ?_⟩
  · rcases List.mem_append.1 hb with hfront | hskip
    · have hmem : other ∈ front.filterMap candidate := List.mem_filterMap.2 ⟨b, hfront, hother⟩
      exact hbefore other hmem
    · rw [hskipped b hskip] at hother
      cases hother
  · have hmem : other ∈ back.filterMap candidate := List.mem_filterMap.2 ⟨b, hb, hother⟩
    exact hafter other hmem

variable [BEq α] [LawfulBEq α]

theorem exists_first_of_firstMinBy (h : firstMinBy measure (items.filterMap candidate) = some least) :
    ∃ a ∈ items, candidate a = some least ∧ ∀ b ∈ items, ∀ other, candidate b = some other →
      measure other = measure least → a ≠ b → items.idxOf a < items.idxOf b := by
  obtain ⟨before, a, after, rfl, ha, hbefore, _⟩ := exists_split_of_firstMinBy_filterMap h
  refine ⟨a, by simp, ha, fun b hb other hother heq hne => ?_⟩
  -- Neither the first minimum nor one that equals it stands in front.
  have hfront : ∀ c value, candidate c = some value → measure value = measure least → c ∉ before :=
    fun c value hvalue heq hmem => (hbefore c hmem value hvalue).ne' heq
  rw [List.idxOf_append_of_notMem (hfront a least ha rfl), List.idxOf_append_of_notMem (hfront b other hother heq),
    List.idxOf_cons_self, List.idxOf_cons_ne _ hne]
  omega

/-- Lists that offer the same candidates, in an order in which the equal ones with different values agree, have the same first minimum. -/
theorem firstMinBy_filterMap_congr {key : β → γ} {others : List α}
    (hsame : ∀ a value, candidate a = some value → (a ∈ items ↔ a ∈ others))
    (hordered : ∀ a ∈ items, ∀ b ∈ items, ∀ value other, candidate a = some value → candidate b = some other →
      measure value = measure other → key value ≠ key other → items.idxOf a < items.idxOf b →
      others.idxOf a < others.idxOf b) :
    (firstMinBy measure (items.filterMap candidate)).map key =
      (firstMinBy measure (others.filterMap candidate)).map key := by
  have hmem : ∀ value, value ∈ items.filterMap candidate ↔ value ∈ others.filterMap candidate := by
    intro value
    simp only [List.mem_filterMap]
    exact exists_congr fun a => and_congr_left fun hvalue => hsame a value hvalue
  cases hleft : firstMinBy measure (items.filterMap candidate) with
  | none =>
    rw [firstMinBy_eq_none_iff, List.eq_nil_iff_forall_not_mem] at hleft
    have hright : others.filterMap candidate = [] :=
      List.eq_nil_iff_forall_not_mem.2 fun value hvalue => hleft value ((hmem value).2 hvalue)
    rw [hright]
    rfl
  | some left =>
    cases hright : firstMinBy measure (others.filterMap candidate) with
    | none =>
      rw [firstMinBy_eq_none_iff, List.eq_nil_iff_forall_not_mem] at hright
      have hleftMem := (hmem left).1 (mem_of_firstMinBy hleft)
      exact absurd hleftMem (hright left)
    | some right =>
      have hleftMem := (hmem left).1 (mem_of_firstMinBy hleft)
      have hrightMem := (hmem right).2 (mem_of_firstMinBy hright)
      have heq : measure left = measure right :=
        Nat.le_antisymm (le_of_firstMinBy hleft hrightMem) (le_of_firstMinBy hright hleftMem)
      obtain ⟨a, ha, hleftOf, hafirst⟩ := exists_first_of_firstMinBy hleft
      obtain ⟨b, hb, hrightOf, hbfirst⟩ := exists_first_of_firstMinBy hright
      have ha' := (hsame a left hleftOf).1 ha
      have hb' := (hsame b right hrightOf).2 hb
      by_contra hkey
      have hkey : key left ≠ key right := fun hsame => hkey (congrArg some hsame)
      have hne : a ≠ b := by
        rintro rfl
        cases hleftOf.symm.trans hrightOf
        exact hkey rfl
      have hfirst := hafirst b hb' right hrightOf heq.symm hne
      have hsecond := hbfirst a ha' left hleftOf heq hne.symm
      exact Nat.lt_asymm hsecond (hordered a ha b hb' left right hleftOf hrightOf heq hkey hfirst)

end Candidates

/-! ### Greatest measures -/

/-- The element has the greatest measure, and those before it have less. -/
def IsFirstMax (measure : α → Nat) (list : List α) (greatest : α) : Prop :=
  ∃ before after, list = before ++ greatest :: after ∧ (∀ a ∈ before, measure a < measure greatest) ∧
    ∀ a ∈ after, measure a ≤ measure greatest

namespace IsFirstMax

variable {measure : α → Nat} {list : List α} {greatest other : α}

theorem mem (h : IsFirstMax measure list greatest) : greatest ∈ list := by
  obtain ⟨before, after, rfl, _, _⟩ := h
  exact List.mem_append_right _ List.mem_cons_self

theorem le (h : IsFirstMax measure list greatest) : ∀ a ∈ list, measure a ≤ measure greatest := by
  obtain ⟨before, after, rfl, hbefore, hafter⟩ := h
  rw [List.forall_mem_append, List.forall_mem_cons]
  exact ⟨fun a ha => (hbefore a ha).le, le_rfl, hafter⟩

theorem unique (h : IsFirstMax measure list greatest) (h' : IsFirstMax measure list other) : greatest = other := by
  have hle := h.le other h'.mem
  have hge := h'.le greatest h.mem
  obtain ⟨before, after, rfl, hbefore, _⟩ := h
  obtain ⟨front, back, hsplit, hfront, _⟩ := h'
  rcases List.append_eq_append_iff.1 hsplit with ⟨between, rfl, hbehind⟩ | ⟨between, rfl, hbehind⟩
  · rcases List.cons_eq_append_iff.1 hbehind with ⟨rfl, hother⟩ | ⟨rest, rfl, _⟩
    · exact (List.cons.inj hother).1.symm
    · exact absurd (hfront greatest (List.mem_append_right _ List.mem_cons_self)) hle.not_gt
  · rcases List.cons_eq_append_iff.1 hbehind with ⟨rfl, hother⟩ | ⟨rest, rfl, _⟩
    · exact (List.cons.inj hother).1
    · exact absurd (hbefore other (List.mem_append_right _ List.mem_cons_self)) hge.not_gt

end IsFirstMax

/-- The first greatest measure is the first least one of what measures lack of a bound. -/
theorem firstMaxBy_eq_firstMinBy {measure : α → Nat} {list : List α} {bound : Nat}
    (hbound : ∀ a ∈ list, measure a ≤ bound) : firstMaxBy measure list = firstMinBy (bound - measure ·) list := by
  induction list with
  | nil => rfl
  | cons a rest ih =>
    obtain ⟨ha, hrest⟩ := List.forall_mem_cons.1 hbound
    rw [firstMaxBy, firstMinBy, ih hrest]
    cases hleast : firstMinBy (bound - measure ·) rest with
    | none => rfl
    | some b =>
      have hb := hrest b (mem_of_firstMinBy hleast)
      have hless : measure a < measure b ↔ bound - measure b < bound - measure a := by omega
      simp only [hless]

theorem isFirstMax_of_firstMaxBy {measure : α → Nat} {list : List α} {greatest : α}
    (h : firstMaxBy measure list = some greatest) : IsFirstMax measure list greatest := by
  have hbound : ∀ a ∈ list, measure a ≤ (list.map measure).sum :=
    fun a ha => List.le_sum_of_mem (List.mem_map_of_mem ha)
  rw [firstMaxBy_eq_firstMinBy hbound] at h
  have hgreatest := hbound greatest (mem_of_firstMinBy h)
  obtain ⟨before, after, hsplit, hbefore, hafter⟩ := exists_split_of_firstMinBy h
  refine ⟨before, after, hsplit, fun a ha => ?_, fun a ha => ?_⟩
  · have hless := hbefore a ha
    omega
  · have hle := hafter a ha
    have ha := hbound a (hsplit ▸ List.mem_append_right _ (List.mem_cons_of_mem _ ha))
    omega

/-! ### Clashes -/

theorem clashes_eq_nil_iff {alike : α → α → Bool} {seen list : List α} :
    clashes alike seen list = [] ↔
      (∀ a ∈ list, ∀ b ∈ seen, alike a b = false) ∧ list.Pairwise fun first second => alike second first = false := by
  induction list generalizing seen with
  | nil => simp [clashes]
  | cons a rest ih =>
    rw [clashes]
    cases hfind : seen.find? (alike a) with
    | some first =>
      have hlike := List.find?_some hfind
      have hfirst := List.mem_of_find?_eq_some hfind
      simp only [reduceCtorEq, false_iff, not_and]
      intro hnone
      rw [hnone a List.mem_cons_self first hfirst] at hlike
      cases hlike
    | none =>
      have hnone : ∀ b ∈ seen, alike a b = false := by simpa using List.find?_eq_none.1 hfind
      simp only [ih, List.forall_mem_cons, List.forall_mem_append, List.pairwise_cons, List.mem_singleton, forall_eq]
      constructor
      · rintro ⟨hseen, hpairwise⟩
        have hrest : ∀ b ∈ rest, ∀ c ∈ seen, alike b c = false := fun b hb => (hseen b hb).1
        have hfirst : ∀ b ∈ rest, alike b a = false := fun b hb => (hseen b hb).2
        exact ⟨⟨hnone, hrest⟩, hfirst, hpairwise⟩
      · rintro ⟨⟨_, hseen⟩, hfirst, hpairwise⟩
        exact ⟨fun b hb => ⟨hseen b hb, hfirst b hb⟩, hpairwise⟩

theorem eq_of_clashes_eq_nil {alike : α → α → Bool} {list : List α} {a b : α}
    (hsymm : ∀ a b, alike a b = alike b a) (hnone : clashes alike [] list = []) (ha : a ∈ list) (hb : b ∈ list)
    (halike : alike a b = true) : a = b := by
  have hsymmetric : Std.Symm fun first second => alike second first = false := ⟨fun c d h => (hsymm c d).trans h⟩
  by_contra hne
  have hunlike := (clashes_eq_nil_iff.1 hnone).2.forall hb ha (Ne.symm hne)
  cases halike.symm.trans hunlike

/-- Where elements are alike to themselves, the clashes with some difference are the elements that differ so from the first one like them in the whole list. -/
theorem filter_clashes {alike : α → α → Bool} (halike : ∀ a, alike a a = true) {differ : α → α → Bool}
    (hdiffer : ∀ a, differ a a = false) (seen list : List α) :
    (clashes alike seen list).filter (fun clash => differ clash.1 clash.2) =
      list.filterMap fun a => (((seen ++ list).find? (alike a)).filter (differ a)).map (a, ·) := by
  induction list generalizing seen with
  | nil => rfl
  | cons a rest ih =>
    have hrest := ih (seen ++ [a])
    rw [← List.append_cons] at hrest
    rw [clashes, List.filterMap_cons, List.find?_append, ← hrest]
    cases seen.find? (alike a) with
    | some first => cases hfirst : differ a first <;> simp [Option.filter_some, hfirst]
    | none => simp [Option.filter_some, halike, hdiffer]

/-! ### First ones alike -/

section FirstAlike

variable {alike : α → α → Bool} {seen list : List α}

/-- An element agrees with the first one seen that is like it exactly if it agrees with all those seen that are. -/
theorem agrees_with_first_iff (hsymm : ∀ a b, alike a b = alike b a)
    (htrans : ∀ a b c, alike a b = true → alike b c = true → alike a c = true)
    {value : α → β} (hseen : seen.Pairwise fun b c => alike b c = true → value b = value c) (a : α) :
    (∀ first, seen.find? (alike a) = some first → value first = value a) ↔
      ∀ b ∈ seen, alike b a = true → value b = value a := by
  constructor
  · intro hfirst b hb halike
    have hback : alike a b = true := by rw [hsymm, halike]
    obtain ⟨first, hfind⟩ := Option.isSome_iff_exists.1 (List.find?_isSome.2 ⟨b, hb, hback⟩)
    have hsymmetric : Std.Symm fun b c => alike b c = true → value b = value c :=
      ⟨fun b c h hcb => (h (hsymm c b ▸ hcb)).symm⟩
    have hagree := hseen.forall_of_forall (fun _ _ _ => rfl) hb (List.mem_of_find?_eq_some hfind)
    have hbfirst : alike b first = true := htrans b a first halike (List.find?_some hfind)
    calc value b = value first := hagree hbfirst
      _ = value a := hfirst first hfind
  · intro hall first hfind
    have hlike : alike first a = true := by rw [hsymm, List.find?_some hfind]
    exact hall first (List.mem_of_find?_eq_some hfind) hlike

theorem clashes_agree_iff (hsymm : ∀ a b, alike a b = alike b a)
    (htrans : ∀ a b c, alike a b = true → alike b c = true → alike a c = true)
    (value : α → β) (hseen : seen.Pairwise fun b c => alike b c = true → value b = value c) :
    (∀ clash ∈ clashes alike seen list, value clash.2 = value clash.1) ↔
      (seen ++ list).Pairwise fun b c => alike b c = true → value b = value c := by
  induction list generalizing seen with
  | nil => simpa [clashes] using hseen
  | cons a rest ih =>
    have hclashes : (∀ clash ∈ clashes alike seen (a :: rest), value clash.2 = value clash.1) ↔
        (∀ first, seen.find? (alike a) = some first → value first = value a) ∧
          ∀ clash ∈ clashes alike (seen ++ [a]) rest, value clash.2 = value clash.1 := by
      rw [clashes]
      cases seen.find? (alike a) with
      | none => simp
      | some first => simp
    have happend : (seen ++ [a]).Pairwise (fun b c => alike b c = true → value b = value c) ↔
        ∀ b ∈ seen, alike b a = true → value b = value a := by
      simp [List.pairwise_append, hseen]
    rw [hclashes, agrees_with_first_iff hsymm htrans hseen, ← happend, List.append_cons seen a rest]
    constructor
    · rintro ⟨hnext, hrest⟩
      exact (ih hnext).1 hrest
    · intro hall
      have hnext := (List.pairwise_append.1 hall).1
      exact ⟨hnext, (ih hnext).2 hall⟩

end FirstAlike

end TypedMessages

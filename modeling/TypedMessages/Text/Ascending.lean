/-!
# Ascending lists of numbers

Sets of numbers, listed in ascending order and without repetition.
-/

namespace TypedMessages

def insertAscending (n : Nat) : List Nat → List Nat
  | [] => [n]
  | m :: rest => if n < m then n :: m :: rest else if n = m then m :: rest else m :: insertAscending n rest

/-- The numbers of a list in ascending order, each once. -/
def ascending (numbers : List Nat) : List Nat :=
  numbers.foldr insertAscending []

@[simp]
theorem mem_insertAscending {n m : Nat} {numbers : List Nat} :
    m ∈ insertAscending n numbers ↔ m = n ∨ m ∈ numbers := by
  induction numbers with
  | nil => simp [insertAscending]
  | cons k numbers ih =>
    simp only [insertAscending]
    split
    · simp
    · split
      · next heq => simp [heq]
      · simp only [List.mem_cons, ih]
        exact ⟨fun h => by rcases h with h | h | h <;> simp [h], fun h => by rcases h with h | h | h <;> simp [h]⟩

@[simp]
theorem mem_ascending {m : Nat} {numbers : List Nat} : m ∈ ascending numbers ↔ m ∈ numbers := by
  induction numbers with
  | nil => simp [ascending]
  | cons n numbers ih =>
    show m ∈ insertAscending n (ascending numbers) ↔ _
    simp [ih]

theorem pairwise_insertAscending {n : Nat} {numbers : List Nat} (h : numbers.Pairwise (· < ·)) :
    (insertAscending n numbers).Pairwise (· < ·) := by
  induction numbers with
  | nil => exact List.pairwise_singleton ..
  | cons m rest ih =>
    obtain ⟨hbelow, hrest⟩ := List.pairwise_cons.1 h
    unfold insertAscending
    split
    · next hlt =>
      refine List.pairwise_cons.2 ⟨fun k hk => ?_, h⟩
      rcases List.mem_cons.1 hk with rfl | hk
      · exact hlt
      · exact Nat.lt_trans hlt (hbelow k hk)
    · split
      · exact h
      · refine List.pairwise_cons.2 ⟨fun k hk => ?_, ih hrest⟩
        rcases mem_insertAscending.1 hk with rfl | hk
        · omega
        · exact hbelow k hk

theorem pairwise_ascending (numbers : List Nat) : (ascending numbers).Pairwise (· < ·) := by
  induction numbers with
  | nil => exact .nil
  | cons n numbers ih => exact pairwise_insertAscending ih

theorem nodup_ascending (numbers : List Nat) : (ascending numbers).Nodup :=
  (pairwise_ascending numbers).imp Nat.ne_of_lt

theorem ascending_congr {left right : List Nat} (h : ∀ n, n ∈ left ↔ n ∈ right) : ascending left = ascending right := by
  have hperm : (ascending left).Perm (ascending right) :=
    (List.perm_ext_iff_of_nodup (nodup_ascending left) (nodup_ascending right)).2 fun n => by
      rw [mem_ascending, mem_ascending, h]
  have hantisymm : ∀ n m, n ∈ ascending left → m ∈ ascending right → n < m → m < n → n = m :=
    fun n m _ _ hless hgreater => absurd hgreater (Nat.lt_asymm hless)
  exact hperm.eq_of_pairwise hantisymm (pairwise_ascending left) (pairwise_ascending right)

end TypedMessages

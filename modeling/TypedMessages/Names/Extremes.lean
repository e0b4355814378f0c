/-!
# First extremes of a list

The first element of a list with the least or the greatest measure.
-/

namespace TypedMessages

variable {α : Type}

def firstMinBy (measure : α → Nat) : List α → Option α
  | [] => none
  | a :: rest =>
    match firstMinBy measure rest with
    | none => some a
    | some b => if measure b < measure a then some b else some a

def firstMaxBy (measure : α → Nat) : List α → Option α
  | [] => none
  | a :: rest =>
    match firstMaxBy measure rest with
    | none => some a
    | some b => if measure a < measure b then some b else some a

theorem firstMinBy_eq_none_iff {measure : α → Nat} {list : List α} : firstMinBy measure list = none ↔ list = [] := by
  cases list with
  | nil => simp [firstMinBy]
  | cons a rest =>
    simp only [firstMinBy, reduceCtorEq, iff_false]
    split
    · simp
    · split <;> simp

theorem firstMaxBy_eq_none_iff {measure : α → Nat} {list : List α} : firstMaxBy measure list = none ↔ list = [] := by
  cases list with
  | nil => simp [firstMaxBy]
  | cons a rest =>
    simp only [firstMaxBy, reduceCtorEq, iff_false]
    split
    · simp
    · split <;> simp

/-- The elements of a list that are like an earlier one, each with the first such one; `seen` holds elements before the list. -/
def clashes (alike : α → α → Bool) (seen : List α) : List α → List (α × α)
  | [] => []
  | a :: rest =>
    match seen.find? (alike a) with
    | some first => (a, first) :: clashes alike (seen ++ [a]) rest
    | none => clashes alike (seen ++ [a]) rest

end TypedMessages

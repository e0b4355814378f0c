/-!
# What a walk has not reached yet

A walk over declared names ends because each step into a new one leaves fewer names unseen.
-/

namespace TypedMessages

/-- How many names of a list are not among those seen. -/
def unseen (names seen : List String) : Nat :=
  (names.filter (· ∉ seen)).length

theorem filter_unseen_of_subset {names seen more : List String} (h : ∀ name ∈ seen, name ∈ more) :
    names.filter (· ∉ more) = (names.filter (· ∉ seen)).filter (· ∉ more) := by
  rw [List.filter_filter]
  congr 1
  funext other
  by_cases hother : other ∈ more <;> by_cases hold : other ∈ seen <;> simp [hother, hold]
  exact hother (h other hold)

theorem unseen_le_of_subset {names seen more : List String} (h : ∀ name ∈ seen, name ∈ more) :
    unseen names more ≤ unseen names seen := by
  rw [unseen, unseen, filter_unseen_of_subset h]
  exact List.length_filter_le ..

theorem unseen_cons_le (names seen : List String) (name : String) :
    unseen names (name :: seen) ≤ unseen names seen :=
  unseen_le_of_subset fun _ h => List.mem_cons_of_mem _ h

theorem unseen_lt_of_subset {names seen more : List String} {name : String} (h : ∀ name ∈ seen, name ∈ more)
    (hname : name ∈ names) (hnew : name ∉ seen) (hmore : name ∈ more) : unseen names more < unseen names seen := by
  rw [unseen, unseen, filter_unseen_of_subset h]
  apply List.length_filter_lt_length_iff_exists.2
  exact ⟨name, List.mem_filter.2 ⟨hname, by simpa using hnew⟩, by simpa using hmore⟩

theorem unseen_cons_lt {names seen : List String} {name : String} (hname : name ∈ names) (hnew : name ∉ seen) :
    unseen names (name :: seen) < unseen names seen :=
  unseen_lt_of_subset (fun _ h => List.mem_cons_of_mem _ h) hname hnew (List.mem_cons_self ..)

end TypedMessages

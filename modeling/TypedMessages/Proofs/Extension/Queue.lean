import TypedMessages.Proofs.Extension.Reach

/-!
# Distances from a queue

All distances from a name can be found in one search. It takes names from a queue and looks at their parents: one that it has not met yet gets a distance one greater than that of the name, and goes to the end of the queue. While the names of one level are taken, those of the next level line up behind them. So the table that is left in the end holds the distances that are found by going up level by level.
-/

namespace TypedMessages.Hierarchy

/-- Those of some names that have not been met, each once. -/
def fresh (met names : List String) : List String :=
  (names.filter (· ∉ met)).eraseDups

section Fresh

variable {met names others : List String} {name : String}

theorem mem_fresh : name ∈ fresh met names ↔ name ∈ names ∧ name ∉ met := by
  rw [fresh, List.mem_eraseDups, List.mem_filter, decide_eq_true_eq]

theorem fresh_cons_of_mem (hmet : name ∈ met) : fresh met (name :: names) = fresh met names := by
  rw [fresh, fresh, List.filter_cons_of_neg (by simpa using hmet)]

theorem fresh_append (met names others : List String) :
    fresh met (names ++ others) = fresh met names ++ fresh (met ++ fresh met names) others := by
  have hothers : (others.filter (· ∉ met)).filter (!(names.filter (· ∉ met)).elem ·) =
      others.filter (· ∉ met ++ fresh met names) := by
    rw [List.filter_filter]
    refine List.filter_congr fun other _ => ?_
    by_cases hmet : other ∈ met
    · simp [hmet]
    · by_cases hname : other ∈ names <;> simp [hmet, hname, mem_fresh]
  rw [fresh, List.filter_append, List.eraseDups_append, List.removeAll, hothers]
  rfl

theorem fresh_singleton (hnew : name ∉ met) : fresh met [name] = [name] := by
  have hkept : [name].filter (· ∉ met) = [name] := List.filter_cons_of_pos (by simpa using hnew)
  rw [fresh, hkept]
  rfl

end Fresh

/-! ### The queue -/

/-- A search under way: the names whose parents are still to be looked at, and the distances found so far. -/
structure Search where
  queue : List String
  found : List (String × Nat)

namespace Search

def met (search : Search) : List String :=
  search.found.map Prod.fst

/-- A name that has not been met gets a distance, and its turn comes after all the others. -/
def meet (distance : Nat) (search : Search) (name : String) : Search :=
  if name ∈ search.met then search else ⟨search.queue ++ [name], search.found ++ [(name, distance)]⟩

theorem foldl_meet (distance : Nat) (search : Search) (names : List String) :
    names.foldl (meet distance) search =
      ⟨search.queue ++ fresh search.met names, search.found ++ (fresh search.met names).map (·, distance)⟩ := by
  induction names generalizing search with
  | nil => simp [fresh]
  | cons name names ih =>
    rw [List.foldl_cons, ih, meet]
    split
    · next hmet => rw [fresh_cons_of_mem hmet]
    · next hnew =>
      have hmet : met ⟨search.queue ++ [name], search.found ++ [(name, distance)]⟩ = search.met ++ [name] := by
        rw [met, List.map_append]
        rfl
      have hfresh : fresh search.met (name :: names) = name :: fresh (search.met ++ [name]) names := by
        rw [← List.singleton_append, fresh_append, fresh_singleton hnew, List.singleton_append]
      simp only [hmet, hfresh, List.append_assoc, List.singleton_append, List.map_cons]

/-- How many names a search may still look at. -/
def left (h : Hierarchy) (search : Search) : Nat :=
  unseen h.names search.met + search.queue.length

theorem left_meet_le {h : Hierarchy} {distance : Nat} {search : Search} {name : String} (hname : name ∈ h.names) :
    (search.meet distance name).left h ≤ search.left h := by
  rw [meet]
  split
  · exact Nat.le_refl _
  · next hnew =>
    have hmet : met ⟨search.queue ++ [name], search.found ++ [(name, distance)]⟩ = search.met ++ [name] := by
      rw [met, List.map_append]
      rfl
    have hfewer : unseen h.names (search.met ++ [name]) < unseen h.names search.met :=
      unseen_lt_of_subset (fun _ hold => List.mem_append_left _ hold) hname hnew (List.mem_append_right _ List.mem_cons_self)
    rw [left, left, hmet, List.length_append, List.length_singleton]
    omega

theorem left_foldl_meet_le {h : Hierarchy} {distance : Nat} {search : Search} {names : List String}
    (hnames : ∀ name ∈ names, name ∈ h.names) : (names.foldl (meet distance) search).left h ≤ search.left h := by
  induction names generalizing search with
  | nil => exact Nat.le_refl _
  | cons name names ih =>
    obtain ⟨hname, hrest⟩ := List.forall_mem_cons.1 hnames
    exact Nat.le_trans (ih hrest) (left_meet_le hname)

end Search

/-- Takes names from the queue in turn until it is empty. -/
def searchOn (h : Hierarchy) (search : Search) : List (String × Nat) :=
  match search with
  | ⟨[], found⟩ => found
  | ⟨name :: queue, found⟩ =>
    let distance := (found.lookup name).getD 0
    h.searchOn ((h.parents name).foldl (Search.meet (distance + 1)) ⟨queue, found⟩)
termination_by search.left h
decreasing_by
  have hparents : ∀ parent ∈ h.parents name, parent ∈ h.names := fun _ hparent => mem_names_of_mem_parents hparent
  refine Nat.lt_of_le_of_lt (Search.left_foldl_meet_le hparents) ?_
  exact Nat.add_lt_add_left (Nat.lt_succ_self _) _

def distancesFrom (h : Hierarchy) (source : String) : List (String × Nat) :=
  h.searchOn ⟨[source], [(source, 0)]⟩

/-! ### Level by level -/

section Levels

variable {h : Hierarchy} {search : Search} {name source target : String} {distance : Nat}
  {names met level : List String} {found : List (String × Nat)}

theorem lookup_map_eq_some (hname : name ∈ names) : (names.map (·, distance)).lookup name = some distance := by
  induction names with
  | nil => cases hname
  | cons first names ih =>
    rw [List.map_cons, List.lookup_cons]
    by_cases hfirst : name = first
    · simp [hfirst]
    · rw [beq_false_of_ne hfirst]
      exact ih ((List.mem_cons.1 hname).resolve_left hfirst)

theorem lookup_eq_none (hname : name ∉ found.map Prod.fst) : found.lookup name = none := by
  rw [List.lookup_eq_none_iff]
  intro entry hentry
  rw [bne_iff_ne]
  rintro rfl
  exact hname (List.mem_map_of_mem hentry)

theorem lookup_searchOn (hname : search.found.lookup name = some distance) :
    (h.searchOn search).lookup name = some distance := by
  fun_induction searchOn h search with
  | case1 found => exact hname
  | case2 next queue found further ih =>
    apply ih
    rw [Search.foldl_meet, List.lookup_append, hname]
    rfl

/-- The search takes all names of one level before those that were in the queue behind them. -/
theorem searchOn_append (queue : List String) (hlevel : ∀ name ∈ level, found.lookup name = some distance) :
    h.searchOn ⟨level ++ queue, found⟩ =
      h.searchOn ⟨queue ++ fresh (found.map Prod.fst) (level.flatMap h.parents),
        found ++ (fresh (found.map Prod.fst) (level.flatMap h.parents)).map (·, distance + 1)⟩ := by
  induction level generalizing queue found with
  | nil => simp [fresh]
  | cons name level ih =>
    obtain ⟨hname, hrest⟩ := List.forall_mem_cons.1 hlevel
    let next := fresh (found.map Prod.fst) (h.parents name)
    have hkept : ∀ other ∈ level, (found ++ next.map (·, distance + 1)).lookup other = some distance := by
      intro other hother
      rw [List.lookup_append, hrest other hother]
      rfl
    have hmet : (found ++ next.map (·, distance + 1)).map Prod.fst = found.map Prod.fst ++ next := by
      rw [List.map_append, List.map_map]
      exact congrArg _ (List.map_id next)
    have hfresh : fresh (found.map Prod.fst) ((name :: level).flatMap h.parents) =
        next ++ fresh (found.map Prod.fst ++ next) (level.flatMap h.parents) := by
      rw [List.flatMap_cons, fresh_append]
    calc h.searchOn ⟨name :: level ++ queue, found⟩
      _ = h.searchOn ⟨level ++ queue ++ next, found ++ next.map (·, distance + 1)⟩ := by
        rw [List.cons_append, searchOn, hname, Option.getD_some, Search.foldl_meet]
        rfl
      _ = _ := by
        rw [List.append_assoc, ih (queue ++ next) hkept, hmet, hfresh, List.map_append, List.append_assoc, List.append_assoc]

/-- From a level on, the search finds what going up level by level finds. -/
theorem lookup_searchOn_eq (hmet : found.map Prod.fst = met ++ level)
    (hlevel : ∀ name ∈ level, found.lookup name = some distance) (htarget : target ∉ met) :
    (h.searchOn ⟨level, found⟩).lookup target = (h.distanceFrom target met level).map (distance + ·) := by
  fun_induction distanceFrom h target met level generalizing found distance with
  | case1 met level hfound => exact lookup_searchOn (hlevel target hfound)
  | case2 met level hnew hnext =>
    have hlast : fresh (found.map Prod.fst) (level.flatMap h.parents) = [] := by
      rw [hmet]
      exact hnext
    have hall : h.searchOn ⟨level, found⟩ = found := by
      have hlevels := searchOn_append (h := h) [] hlevel
      rw [hlast, List.append_nil, List.append_nil, List.map_nil, List.append_nil, searchOn] at hlevels
      exact hlevels
    have hunmet : target ∉ found.map Prod.fst := by
      rw [hmet, List.mem_append, not_or]
      exact ⟨htarget, hnew⟩
    rw [hall, lookup_eq_none hunmet]
    rfl
  | case3 met level hnew name rest hnext ih =>
    have hfresh : fresh (found.map Prod.fst) (level.flatMap h.parents) = name :: rest := by
      rw [hmet]
      exact hnext
    have hmetNext : (found ++ (name :: rest).map (·, distance + 1)).map Prod.fst = (met ++ level) ++ name :: rest := by
      rw [List.map_append, List.map_map, hmet]
      exact congrArg _ (List.map_id _)
    have hlevelNext : ∀ other ∈ name :: rest,
        (found ++ (name :: rest).map (·, distance + 1)).lookup other = some (distance + 1) := by
      intro other hother
      have hunmet : other ∉ found.map Prod.fst := by
        rw [← hfresh] at hother
        exact (mem_fresh.1 hother).2
      rw [List.lookup_append, lookup_eq_none hunmet, lookup_map_eq_some hother]
      rfl
    have htargetNext : target ∉ met ++ level := by
      rw [List.mem_append, not_or]
      exact ⟨htarget, hnew⟩
    have hlevels : h.searchOn ⟨level, found⟩ =
        h.searchOn ⟨name :: rest, found ++ (name :: rest).map (·, distance + 1)⟩ := by
      have hlevels := searchOn_append (h := h) [] hlevel
      rw [hfresh, List.append_nil, List.nil_append] at hlevels
      exact hlevels
    have hfurther : (distance + 1 + ·) = (distance + ·) ∘ (· + 1) := by
      funext further
      rw [Function.comp_apply, Nat.add_right_comm, Nat.add_assoc]
    rw [hlevels, ih hmetNext hlevelNext htargetNext, Option.map_map, hfurther]

/-- **A distance is an entry of the table that the search with a queue leaves.** -/
theorem distance?_eq_lookup (hsource : h.contains source = true) :
    h.distance? source target = (h.distancesFrom source).lookup target := by
  have hstart : ∀ name ∈ [source], [(source, 0)].lookup name = some 0 := by
    intro name hname
    rw [List.mem_singleton.1 hname, List.lookup_cons_self]
  have hsearch : (h.distancesFrom source).lookup target = (h.distanceFrom target [] [source]).map (0 + ·) :=
    lookup_searchOn_eq rfl hstart List.not_mem_nil
  have hplain : (h.distanceFrom target [] [source]).map (0 + ·) = h.distanceFrom target [] [source] := by
    simp only [Nat.zero_add, Option.map_id']
  rw [hsearch, hplain, distance?, hsource, Bool.true_and]
  split
  · rfl
  · next hunknown =>
    have hparents : ∀ name, h.contains name = true → ∀ parent ∈ h.parents name, h.contains parent = true :=
      fun _ _ _ hparent => List.contains_iff_mem.2 (mem_names_of_mem_parents hparent)
    have hlevel : ∀ name ∈ [source], h.contains name = true := by
      intro name hname
      rw [List.mem_singleton.1 hname]
      exact hsource
    cases hdistance : h.distanceFrom target [] [source] with
    | none => rfl
    | some distance => exact absurd (mem_of_distanceFrom hparents hlevel hdistance) hunknown

end Levels

end TypedMessages.Hierarchy

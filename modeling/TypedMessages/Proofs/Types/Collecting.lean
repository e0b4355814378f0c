import TypedMessages.Types.Catalog

/-!
# Supertypes within a number of steps

Supertypes are collected upwards for as long as a name is not under way already. At most as many names can be under way as there are types, so the walk never goes higher than that many steps, and counting them gives the same supertypes. The counted walk recurses on the number, so that a catalog can be computed.
-/

namespace TypedMessages

namespace SupertypeMemo

/-- Collects the supertypes of types in turn, with what collects them for one. -/
def collectAllWith (collect : String → SupertypeMemo → List String × SupertypeMemo) :
    List String → SupertypeMemo → List String × SupertypeMemo
  | [], memo => ([], memo)
  | parent :: parents, memo =>
    let (above, memo) := collect parent memo
    let (others, memo) := collectAllWith collect parents memo
    (parent :: above ++ others, memo)

/-- Collects the supertypes of a type within a number of steps upwards. -/
def collectWithin (table : TypeTable) :
    Nat → List String → String → SupertypeMemo → List String × SupertypeMemo
  | 0, _, _, memo => ([], memo)
  | steps + 1, visiting, name, memo =>
    match memo.lookup name with
    | some supertypes => (supertypes, memo)
    | none =>
      if name ∈ visiting then ([], memo)
      else
        match table.find? name with
        | none => ([], (name, []) :: memo)
        | some type =>
          let (supertypes, memo) := collectAllWith (collectWithin table steps (name :: visiting)) type.supertypes memo
          (supertypes, (name, supertypes) :: memo)

theorem collect_of_undeclared {table : TypeTable} {visiting : List String} {name : String} {memo : SupertypeMemo}
    (hlookup : memo.lookup name = none) (hvisiting : name ∉ visiting) (hfind : table.find? name = none) :
    collect table visiting name memo = ([], (name, []) :: memo) := by
  rw [collect, hlookup]
  simp only [dif_neg hvisiting]
  split
  · rfl
  · next type hsome =>
    rw [hfind] at hsome
    cases hsome

theorem collect_of_declared {table : TypeTable} {visiting : List String} {name : String} {memo : SupertypeMemo}
    {type : TypeDeclaration} (hlookup : memo.lookup name = none) (hvisiting : name ∉ visiting)
    (hfind : table.find? name = some type) :
    collect table visiting name memo =
      ((collectAll table (name :: visiting) type.supertypes memo).1,
        (name, (collectAll table (name :: visiting) type.supertypes memo).1) ::
          (collectAll table (name :: visiting) type.supertypes memo).2) := by
  rw [collect, hlookup]
  simp only [dif_neg hvisiting]
  split
  · next hnone =>
    rw [hfind] at hnone
    cases hnone
  · next other hsome =>
    rw [hfind] at hsome
    cases hsome
    rfl

/-- As many steps as there are types to be seen are enough. -/
theorem collectWithin_eq (table : TypeTable) :
    (∀ visiting name memo, ∀ steps, unseen table.names visiting < steps →
      collectWithin table steps visiting name memo = collect table visiting name memo) ∧
    (∀ visiting parents memo, ∀ steps, unseen table.names visiting < steps →
      collectAllWith (collectWithin table steps visiting) parents memo = collectAll table visiting parents memo) := by
  apply collect.mutual_induct
  case case1 =>
    rintro visiting name memo supertypes hlookup (_ | steps) hsteps
    · cases hsteps
    · rw [collectWithin, collect, hlookup]
  case case2 =>
    rintro visiting name memo hlookup hvisiting (_ | steps) hsteps
    · cases hsteps
    · rw [collectWithin, collect, hlookup]
      simp only [if_pos hvisiting, dif_pos hvisiting]
  case case3 =>
    rintro visiting name memo hlookup hvisiting hfind (_ | steps) hsteps
    · cases hsteps
    · rw [collectWithin, collect_of_undeclared hlookup hvisiting hfind, hlookup]
      simp only [if_neg hvisiting, hfind]
  case case4 =>
    rintro visiting name memo hlookup hvisiting type hfind supertypes left hcollected ih (_ | steps) hsteps
    · cases hsteps
    · have hfewer := unseen_cons_lt (TypeTable.mem_names_of_find? hfind) hvisiting
      rw [collectWithin, collect_of_declared hlookup hvisiting hfind, hlookup]
      simp only [if_neg hvisiting, hfind, ih steps (by omega)]
  case case5 =>
    intro visiting memo steps hsteps
    rw [collectAllWith, collectAll]
  case case6 =>
    intro visiting memo parent parents above between hparent others left hparents ihparent ihparents steps hsteps
    rw [collectAllWith, collectAll, ihparent steps hsteps, hparent]
    simp only [ihparents steps hsteps]

end SupertypeMemo

theorem Catalog.buildAlong_eq_collectWithin (order : List String) (types : List TypeDeclaration) (roots : TypeRoots) :
    Catalog.buildAlong order types roots =
      { supertypes := order.foldl (fun memo name =>
          (SupertypeMemo.collectWithin (builtinTypes ++ types) ((builtinTypes ++ types).length + 1) [] name memo).2) []
        table := builtinTypes ++ types, roots } := by
  have hsteps : unseen (TypeTable.names (builtinTypes ++ types)) [] < (builtinTypes ++ types).length + 1 := by
    have hnames : (TypeTable.names (builtinTypes ++ types)).length = (builtinTypes ++ types).length :=
      List.length_map _
    have hunseen : unseen (TypeTable.names (builtinTypes ++ types)) [] ≤
        (TypeTable.names (builtinTypes ++ types)).length := List.length_filter_le ..
    rw [hnames] at hunseen
    exact Nat.lt_succ_of_le hunseen
  simp only [(SupertypeMemo.collectWithin_eq (builtinTypes ++ types)).1 [] _ _ _ hsteps]
  rfl

end TypedMessages

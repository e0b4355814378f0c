import Mathlib.Data.List.Basic
import Mathlib.Data.List.Induction
import Mathlib.Logic.Function.Basic
import Mathlib.Logic.Relation
import TypedMessages.Proofs.Types.Collecting

/-!
# Supertypes that can be reached

The supertypes of a type are what can be reached from it through direct supertypes. The catalog collects them with a table of what is known already and a list of the types under way, and cuts a walk short where it meets one of these. So an entry of the table never holds too much, but it can lack something if a cycle was cut while it was made. The types under way all lie below the one that is walked from: if no cycle can be reached from a type, no walk above it is ever cut, and its entry is complete, in whatever order the types are visited and whatever cycles there are elsewhere.
-/

namespace TypedMessages

namespace TypeTable

/-! ### Direct supertypes -/

/-- The direct supertypes of all names. Declarations are entered one after the other, and a later one replaces an earlier one of the same name. -/
def directlyAbove (table : TypeTable) : String → List String :=
  table.foldl (fun above type => Function.update above type.name type.supertypes) fun _ => []

/-- The second name is a direct supertype of the first one. -/
def HasSupertype (table : TypeTable) (sub super : String) : Prop :=
  super ∈ table.directlyAbove sub

instance (table : TypeTable) : DecidableRel table.HasSupertype :=
  fun sub super => inferInstanceAs (Decidable (super ∈ table.directlyAbove sub))

/-- From the name no cycle can be reached. -/
def CycleFreeAbove (table : TypeTable) (name : String) : Prop :=
  ∀ above, Relation.ReflTransGen table.HasSupertype name above → ¬ Relation.TransGen table.HasSupertype above above

/-- No type is among its own supertypes. -/
def Acyclic (table : TypeTable) : Prop :=
  ∀ name, ¬ Relation.TransGen table.HasSupertype name name

variable {table : TypeTable} {name super : String}

theorem Acyclic.cycleFreeAbove (h : table.Acyclic) (name : String) : table.CycleFreeAbove name :=
  fun above _ => h above

theorem directlyAbove_concat (table : TypeTable) (type : TypeDeclaration) :
    directlyAbove (table ++ [type]) = Function.update table.directlyAbove type.name type.supertypes := by
  rw [directlyAbove, List.foldl_append]
  rfl

theorem directlyAbove_eq (table : TypeTable) (name : String) :
    table.directlyAbove name = ((table.find? name).map (·.supertypes)).getD [] := by
  induction table using List.reverseRecOn with
  | nil => rfl
  | append_singleton table type ih =>
    rw [directlyAbove_concat, find?, List.reverse_append, List.reverse_singleton, List.singleton_append,
      List.find?_cons]
    by_cases hname : type.name = name
    · rw [← hname, Function.update_self, beq_self_eq_true]
      rfl
    · rw [Function.update_of_ne (Ne.symm hname), beq_false_of_ne hname, ih]
      rfl

theorem directlyAbove_of_undeclared (h : table.find? name = none) : table.directlyAbove name = [] := by
  rw [directlyAbove_eq, h]
  rfl

theorem directlyAbove_of_declared {type : TypeDeclaration} (h : table.find? name = some type) :
    table.directlyAbove name = type.supertypes := by
  rw [directlyAbove_eq, h]
  rfl

theorem HasSupertype.mem_names (h : table.HasSupertype name super) : name ∈ table.names := by
  cases hfind : table.find? name with
  | none =>
    rw [HasSupertype, directlyAbove_of_undeclared hfind] at h
    cases h
  | some type => exact mem_names_of_find? hfind

theorem CycleFreeAbove.of_hasSupertype (h : table.CycleFreeAbove name) (hsuper : table.HasSupertype name super) :
    table.CycleFreeAbove super :=
  fun above habove => h above (.head hsuper habove)

theorem cycleFreeAbove_of_ranked (ranked : List String)
    (hranked : ∀ name ∈ ranked, ∀ super ∈ table.directlyAbove name,
      super ∈ ranked ∧ ranked.idxOf super < ranked.idxOf name)
    (hname : name ∈ ranked) : table.CycleFreeAbove name := by
  intro above habove
  have hmem : above ∈ ranked := by
    induction habove with
    | refl => exact hname
    | tail _ hsuper ih => exact (hranked _ ih _ hsuper).1
  have hlower : ∀ top, Relation.TransGen table.HasSupertype above top →
      top ∈ ranked ∧ ranked.idxOf top < ranked.idxOf above := by
    intro top htop
    induction htop with
    | single hsuper => exact hranked above hmem _ hsuper
    | tail _ hsuper ih =>
      obtain ⟨hin, hless⟩ := hranked _ ih.1 _ hsuper
      exact ⟨hin, Nat.lt_trans hless ih.2⟩
  intro hcycle
  obtain ⟨_, hless⟩ := hlower above hcycle
  exact Nat.lt_irrefl _ hless

theorem acyclic_of_ranked (ranked : List String)
    (hranked : ∀ name ∈ ranked, ∀ super ∈ table.directlyAbove name,
      super ∈ ranked ∧ ranked.idxOf super < ranked.idxOf name)
    (hnames : ∀ name ∈ table.names, name ∈ ranked) : table.Acyclic := by
  intro name hcycle
  obtain ⟨direct, hdirect, _⟩ := Relation.TransGen.head'_iff.1 hcycle
  exact cycleFreeAbove_of_ranked ranked hranked (hnames name hdirect.mem_names) name .refl hcycle

end TypeTable

namespace SupertypeMemo

/-! ### How supertypes are collected -/

/-- The steps in which the names of a list are collected, with the types under way and the table at the start, up to all that was met and the table at the end. A name is looked up, passed over if it is under way, or entered; nothing is said of how long this goes on. -/
inductive Collects (table : TypeTable) :
    List String → List String → SupertypeMemo → List String → SupertypeMemo → Prop
  | nil {visiting memo} : Collects table visiting [] memo [] memo
  | known {visiting name names memo above others after} (hlookup : memo.lookup name = some above)
      (hnames : Collects table visiting names memo others after) :
      Collects table visiting (name :: names) memo (name :: above ++ others) after
  | underWay {visiting name names memo others after} (hlookup : memo.lookup name = none)
      (hvisiting : name ∈ visiting) (hnames : Collects table visiting names memo others after) :
      Collects table visiting (name :: names) memo (name :: others) after
  | enter {visiting name names memo above between others after} (hlookup : memo.lookup name = none)
      (hvisiting : name ∉ visiting)
      (habove : Collects table (name :: visiting) (table.directlyAbove name) memo above between)
      (hnames : Collects table visiting names ((name, above) :: between) others after) :
      Collects table visiting (name :: names) memo (name :: above ++ others) after

variable {table : TypeTable} {visiting names : List String} {memo after : SupertypeMemo} {above : List String}

/-- The steps never leave a choice. -/
theorem Collects.unique (h : Collects table visiting names memo above after) :
    ∀ {other otherAfter}, Collects table visiting names memo other otherAfter → other = above ∧ otherAfter = after := by
  induction h with
  | nil => rintro _ _ ⟨⟩; exact ⟨rfl, rfl⟩
  | known hlookup _ ih =>
    rintro _ _ (_ | ⟨hother, hnames⟩ | ⟨hother, _, _⟩ | ⟨hother, _, _, _⟩) <;> rw [hlookup] at hother <;> cases hother
    obtain ⟨rfl, rfl⟩ := ih hnames
    exact ⟨rfl, rfl⟩
  | underWay hlookup hvisiting _ ih =>
    rintro _ _ (_ | ⟨hother, _⟩ | ⟨_, _, hnames⟩ | ⟨_, hnew, _, _⟩)
    · rw [hlookup] at hother
      cases hother
    · obtain ⟨rfl, rfl⟩ := ih hnames
      exact ⟨rfl, rfl⟩
    · exact absurd hvisiting hnew
  | enter hlookup hvisiting _ _ ihabove ihnames =>
    rintro _ _ (_ | ⟨hother, _⟩ | ⟨_, hseen, _⟩ | ⟨_, _, habove, hnames⟩)
    · rw [hlookup] at hother
      cases hother
    · exact absurd hseen hvisiting
    · obtain ⟨rfl, rfl⟩ := ihabove habove
      obtain ⟨rfl, rfl⟩ := ihnames hnames
      exact ⟨rfl, rfl⟩

/-- Collecting comes to an end, whatever is declared, and takes these steps on its way. -/
theorem collects_collectAll (table : TypeTable) :
    (∀ visiting name memo, ∀ names others after,
      Collects table visiting names (collect table visiting name memo).2 others after →
      Collects table visiting (name :: names) memo (name :: (collect table visiting name memo).1 ++ others) after) ∧
    (∀ visiting names memo, Collects table visiting names memo (collectAll table visiting names memo).1
      (collectAll table visiting names memo).2) := by
  apply collect.mutual_induct
  case case1 =>
    intro visiting name memo supertypes hlookup names others after hnames
    rw [collect, hlookup] at hnames ⊢
    exact .known hlookup hnames
  case case2 =>
    intro visiting name memo hlookup hvisiting names others after hnames
    rw [collect, hlookup] at hnames ⊢
    simp only [dif_pos hvisiting] at hnames ⊢
    exact .underWay hlookup hvisiting hnames
  case case3 =>
    intro visiting name memo hlookup hvisiting hfind names others after hnames
    rw [collect_of_undeclared hlookup hvisiting hfind] at hnames ⊢
    refine .enter hlookup hvisiting ?_ hnames
    rw [TypeTable.directlyAbove_of_undeclared hfind]
    exact .nil
  case case4 =>
    intro visiting name memo hlookup hvisiting type hfind supertypes left hcollected ih names others after hnames
    rw [collect_of_declared hlookup hvisiting hfind] at hnames ⊢
    refine .enter hlookup hvisiting ?_ hnames
    rw [TypeTable.directlyAbove_of_declared hfind]
    exact ih
  case case5 =>
    intro visiting memo
    rw [collectAll]
    exact .nil
  case case6 =>
    intro visiting memo parent parents above between hparent others left hparents ihparent ihparents
    rw [collectAll, hparent]
    rw [hparent] at ihparent
    exact ihparent parents _ _ ihparents

theorem foldl_collect_eq (table : TypeTable) (order : List String) (memo : SupertypeMemo) :
    order.foldl (fun memo name => (collect table [] name memo).2) memo = (collectAll table [] order memo).2 := by
  induction order generalizing memo with
  | nil => rw [List.foldl_nil, collectAll]
  | cons name order ih => rw [List.foldl_cons, ih, collectAll]

/-! ### What the entries hold -/

/-- All that an entry holds can be reached from its name. -/
def Sound (table : TypeTable) (memo : SupertypeMemo) : Prop :=
  ∀ name above, memo.lookup name = some above → ∀ super ∈ above, Relation.TransGen table.HasSupertype name super

/-- An entry from whose name no cycle can be reached holds all that can be reached. -/
def Complete (table : TypeTable) (memo : SupertypeMemo) : Prop :=
  ∀ name above, memo.lookup name = some above → table.CycleFreeAbove name →
    ∀ super, Relation.TransGen table.HasSupertype name super → super ∈ above

theorem lookup_cons_eq_some_iff {name other : String} {entry : List String} :
    ((other, entry) :: memo).lookup name = some above ↔
      (name = other ∧ entry = above) ∨ (name ≠ other ∧ memo.lookup name = some above) := by
  rw [List.lookup_cons]
  by_cases hname : name = other
  · simp [hname]
  · simp [hname, beq_false_of_ne hname]

theorem reaches_of_mem_cons {name super : String}
    (hentry : ∀ super ∈ above, Relation.TransGen table.HasSupertype name super) (hsuper : super ∈ name :: above) :
    Relation.ReflTransGen table.HasSupertype name super := by
  rcases List.mem_cons.1 hsuper with rfl | hsuper
  · exact .refl
  · exact (hentry super hsuper).to_reflTransGen

theorem mem_cons_of_reaches {name super : String}
    (hentry : ∀ super, Relation.TransGen table.HasSupertype name super → super ∈ above)
    (hreach : Relation.ReflTransGen table.HasSupertype name super) : super ∈ name :: above := by
  rcases Relation.reflTransGen_iff_eq_or_transGen.1 hreach with rfl | hreach
  · exact List.mem_cons_self
  · exact List.mem_cons_of_mem _ (hentry super hreach)

theorem Collects.sound (h : Collects table visiting names memo above after) (hmemo : Sound table memo) :
    Sound table after ∧ ∀ super ∈ above, ∃ name ∈ names, Relation.ReflTransGen table.HasSupertype name super := by
  induction h with
  | nil => exact ⟨hmemo, List.forall_mem_nil _⟩
  | @known visiting name names memo above others after hlookup _ ih =>
    obtain ⟨hafter, hothers⟩ := ih hmemo
    have hentry := hmemo name above hlookup
    refine ⟨hafter, fun super hsuper => (List.exists_mem_cons_iff ..).2 ?_⟩
    exact (List.mem_append.1 hsuper).imp (reaches_of_mem_cons hentry) (hothers super)
  | @underWay visiting name names memo others after _ _ _ ih =>
    obtain ⟨hafter, hothers⟩ := ih hmemo
    refine ⟨hafter, fun super hsuper => (List.exists_mem_cons_iff ..).2 ?_⟩
    rcases List.mem_cons.1 hsuper with rfl | hsuper
    · exact .inl .refl
    · exact .inr (hothers super hsuper)
  | @enter visiting name names memo above between others after _ _ _ _ ihabove ihnames =>
    obtain ⟨hbetween, hmet⟩ := ihabove hmemo
    have hentry : ∀ super ∈ above, Relation.TransGen table.HasSupertype name super := by
      intro super hsuper
      obtain ⟨direct, hdirect, hreach⟩ := hmet super hsuper
      exact .head' hdirect hreach
    have hentered : Sound table ((name, above) :: between) := by
      intro other entry hother
      rcases lookup_cons_eq_some_iff.1 hother with ⟨rfl, rfl⟩ | ⟨_, hother⟩
      · exact hentry
      · exact hbetween other entry hother
    obtain ⟨hafter, hothers⟩ := ihnames hentered
    refine ⟨hafter, fun super hsuper => (List.exists_mem_cons_iff ..).2 ?_⟩
    exact (List.mem_append.1 hsuper).imp (reaches_of_mem_cons hentry) (hothers super)

/-- A walk is only cut at a type under way, and that lies below what is collected: so the cut closes a cycle. -/
theorem Collects.complete (h : Collects table visiting names memo above after) (hmemo : Complete table memo)
    (hunder : ∀ name ∈ names, ∀ low ∈ visiting, Relation.TransGen table.HasSupertype low name) :
    Complete table after ∧ ∀ name ∈ names, table.CycleFreeAbove name →
      ∀ super, Relation.ReflTransGen table.HasSupertype name super → super ∈ above := by
  induction h with
  | nil => exact ⟨hmemo, List.forall_mem_nil _⟩
  | @known visiting name names memo above others after hlookup _ ih =>
    obtain ⟨hafter, hothers⟩ := ih hmemo fun other hother => hunder other (List.mem_cons_of_mem _ hother)
    refine ⟨hafter, List.forall_mem_cons.2 ⟨fun hfree super hreach => ?_, fun other hother hfree super hreach => ?_⟩⟩
    · have hentry := hmemo name above hlookup hfree
      exact List.mem_append_left _ (mem_cons_of_reaches hentry hreach)
    · have hother := hothers other hother hfree super hreach
      exact List.mem_append_right _ hother
  | @underWay visiting name names memo others after _ hvisiting _ ih =>
    obtain ⟨hafter, hothers⟩ := ih hmemo fun other hother => hunder other (List.mem_cons_of_mem _ hother)
    have hcycle := hunder name List.mem_cons_self name hvisiting
    refine ⟨hafter, List.forall_mem_cons.2 ⟨fun hfree => ?_, fun other hother hfree super hreach => ?_⟩⟩
    · exact absurd hcycle (hfree name .refl)
    · exact List.mem_cons_of_mem _ (hothers other hother hfree super hreach)
  | @enter visiting name names memo above between others after _ _ _ _ ihabove ihnames =>
    have hlower : ∀ super ∈ table.directlyAbove name, ∀ low ∈ name :: visiting,
        Relation.TransGen table.HasSupertype low super := by
      intro super hsuper low hlow
      rcases List.mem_cons.1 hlow with rfl | hlow
      · exact .single hsuper
      · exact .tail (hunder name List.mem_cons_self low hlow) hsuper
    obtain ⟨hbetween, hmet⟩ := ihabove hmemo hlower
    have hentry : table.CycleFreeAbove name → ∀ super, Relation.TransGen table.HasSupertype name super → super ∈ above := by
      intro hfree super hreach
      obtain ⟨direct, hdirect, hreach⟩ := Relation.TransGen.head'_iff.1 hreach
      exact hmet direct hdirect (hfree.of_hasSupertype hdirect) super hreach
    have hentered : Complete table ((name, above) :: between) := by
      intro other entry hother
      rcases lookup_cons_eq_some_iff.1 hother with ⟨rfl, rfl⟩ | ⟨_, hother⟩
      · exact hentry
      · exact hbetween other entry hother
    obtain ⟨hafter, hothers⟩ := ihnames hentered fun other hother => hunder other (List.mem_cons_of_mem _ hother)
    refine ⟨hafter, List.forall_mem_cons.2 ⟨fun hfree super hreach => ?_, fun other hother hfree super hreach => ?_⟩⟩
    · exact List.mem_append_left _ (mem_cons_of_reaches (hentry hfree) hreach)
    · exact List.mem_append_right _ (hothers other hother hfree super hreach)

/-- Entries are kept, and every name that is collected has one unless it is under way. -/
theorem Collects.isSome_lookup (h : Collects table visiting names memo above after) :
    (∀ name, (memo.lookup name).isSome → (after.lookup name).isSome) ∧
    ∀ name ∈ names, name ∉ visiting → (after.lookup name).isSome := by
  induction h with
  | nil => exact ⟨fun _ hknown => hknown, List.forall_mem_nil _⟩
  | @known visiting name names memo above others after hlookup _ ih =>
    obtain ⟨hkept, hnames⟩ := ih
    have hname : (memo.lookup name).isSome := by rw [hlookup, Option.isSome_some]
    exact ⟨hkept, List.forall_mem_cons.2 ⟨fun _ => hkept name hname, hnames⟩⟩
  | underWay _ hvisiting _ ih =>
    obtain ⟨hkept, hnames⟩ := ih
    exact ⟨hkept, List.forall_mem_cons.2 ⟨fun hnew => absurd hvisiting hnew, hnames⟩⟩
  | @enter visiting name names memo above between others after _ _ _ _ ihabove ihnames =>
    have hentered : ∀ other, (between.lookup other).isSome ∨ other = name →
        (List.lookup other ((name, above) :: between)).isSome := by
      intro other hother
      rw [List.lookup_cons]
      by_cases hname : other = name
      · rw [hname, beq_self_eq_true]
        rfl
      · rw [beq_false_of_ne hname]
        exact hother.resolve_right hname
    obtain ⟨hkept, hnames⟩ := ihnames
    have hknown : ∀ other, (memo.lookup other).isSome → (after.lookup other).isSome := by
      intro other hmemo
      have hbetween := ihabove.1 other hmemo
      exact hkept other (hentered other (.inl hbetween))
    have hname : (after.lookup name).isSome := hkept name (hentered name (.inr rfl))
    exact ⟨hknown, List.forall_mem_cons.2 ⟨fun _ => hname, hnames⟩⟩

end SupertypeMemo

namespace Catalog

/-! ### The relation of subtypes -/

open TypeTable SupertypeMemo

variable {types : List TypeDeclaration} {roots : TypeRoots} {order : List String} {sub super : String}

theorem collects_buildAlong (types : List TypeDeclaration) (roots : TypeRoots) (order : List String) :
    ∃ above, Collects (builtinTypes ++ types) [] order [] above (buildAlong order types roots).supertypes := by
  have hcollects := (collects_collectAll (builtinTypes ++ types)).2 [] order []
  rw [← foldl_collect_eq] at hcollects
  exact ⟨_, hcollects⟩

theorem isSubtypeOf_iff {catalog : Catalog} :
    catalog.isSubtypeOf sub super = true ↔
      sub = super ∨ ∃ above, catalog.supertypes.lookup sub = some above ∧ super ∈ above := by
  rw [isSubtypeOf, Bool.or_eq_true, beq_iff_eq]
  cases catalog.supertypes.lookup sub with
  | none => simp
  | some above => simp

theorem reaches_of_isSubtypeOf (h : (buildAlong order types roots).isSubtypeOf sub super = true) :
    Relation.ReflTransGen (HasSupertype (builtinTypes ++ types)) sub super := by
  obtain ⟨above, hcollects⟩ := collects_buildAlong types roots order
  rcases isSubtypeOf_iff.1 h with rfl | ⟨entry, hlookup, hsuper⟩
  · exact .refl
  · have hsound := (hcollects.sound (fun _ _ hnone => nomatch hnone)).1
    have habove := hsound sub entry hlookup super hsuper
    exact habove.to_reflTransGen

theorem isSubtypeOf_of_reaches (hcovers : ∀ name ∈ names (builtinTypes ++ types), name ∈ order)
    (hfree : CycleFreeAbove (builtinTypes ++ types) sub)
    (hreach : Relation.ReflTransGen (HasSupertype (builtinTypes ++ types)) sub super) :
    (buildAlong order types roots).isSubtypeOf sub super = true := by
  rcases Relation.reflTransGen_iff_eq_or_transGen.1 hreach with rfl | hreach
  · exact isSubtypeOf_iff.2 (.inl rfl)
  obtain ⟨direct, hdirect, _⟩ := Relation.TransGen.head'_iff.1 hreach
  obtain ⟨above, hcollects⟩ := collects_buildAlong types roots order
  have hknown := hcollects.isSome_lookup.2 sub (hcovers sub hdirect.mem_names) List.not_mem_nil
  obtain ⟨entry, hlookup⟩ := Option.isSome_iff_exists.1 hknown
  have hcomplete := (hcollects.complete (fun _ _ hnone => nomatch hnone) fun _ _ => List.forall_mem_nil _).1
  have hsuper : super ∈ entry := hcomplete sub entry hlookup hfree super hreach
  exact isSubtypeOf_iff.2 (.inr ⟨entry, hlookup, hsuper⟩)

/-- **The catalog holds what can be reached, in whatever order it was built.** The steps of collecting come to an end and leave one table. A type is a subtype only of itself and of what can be reached from it through direct supertypes, and of all of that if no cycle can be reached from it, whatever cycles are declared elsewhere. -/
theorem isSubtypeOf_buildAlong_iff_reaches (types : List TypeDeclaration) (roots : TypeRoots) (order : List String) :
    (∀ memo, (∃ above, Collects (builtinTypes ++ types) [] order [] above memo) ↔
      memo = (buildAlong order types roots).supertypes) ∧
    ∀ sub super,
      ((buildAlong order types roots).isSubtypeOf sub super = true →
        sub = super ∨ Relation.TransGen (HasSupertype (builtinTypes ++ types)) sub super) ∧
      ((∀ name ∈ names (builtinTypes ++ types), name ∈ order) → CycleFreeAbove (builtinTypes ++ types) sub →
        ((buildAlong order types roots).isSubtypeOf sub super = true ↔
          sub = super ∨ Relation.TransGen (HasSupertype (builtinTypes ++ types)) sub super)) := by
  have hreaches : ∀ sub super, (buildAlong order types roots).isSubtypeOf sub super = true →
      sub = super ∨ Relation.TransGen (HasSupertype (builtinTypes ++ types)) sub super := by
    intro sub super h
    have hreach := reaches_of_isSubtypeOf h
    exact (Relation.reflTransGen_iff_eq_or_transGen.1 hreach).imp_left Eq.symm
  refine ⟨fun memo => ⟨?_, ?_⟩, fun sub super => ⟨hreaches sub super, fun hcovers hfree => ⟨hreaches sub super, ?_⟩⟩⟩
  · rintro ⟨above, hcollects⟩
    obtain ⟨_, hbuilt⟩ := collects_buildAlong types roots order
    exact (hbuilt.unique hcollects).2
  · rintro rfl
    exact collects_buildAlong types roots order
  · intro h
    have hreach := Relation.reflTransGen_iff_eq_or_transGen.2 (h.imp_left Eq.symm)
    exact isSubtypeOf_of_reaches hcovers hfree hreach

/-- Two types in a circle, and a failure that has nothing to do with them. -/
def circledTypes : List TypeDeclaration :=
  [⟨"a.Loop", ["a.Ring", "a.Failure"], []⟩, ⟨"a.Ring", ["a.Loop"], []⟩, ⟨"a.Failure", ["java.lang.RuntimeException"], []⟩]

/-- Visited from the last name to the first one, the failure gets all its supertypes, although there is a circle. -/
theorem isSubtypeOf_buildAlong_iff_reaches_circledTypes :
    Relation.TransGen (HasSupertype (builtinTypes ++ circledTypes)) "a.Loop" "a.Loop" ∧
    (buildAlong (names (builtinTypes ++ circledTypes)).reverse circledTypes {}).isSubtypeOf
      "a.Failure" "java.lang.Throwable" = true := by
  have hloop : HasSupertype (builtinTypes ++ circledTypes) "a.Loop" "a.Ring" := by decide +kernel
  have hring : HasSupertype (builtinTypes ++ circledTypes) "a.Ring" "a.Loop" := by decide +kernel
  have hfree : CycleFreeAbove (builtinTypes ++ circledTypes) "a.Failure" :=
    cycleFreeAbove_of_ranked
      ["java.lang.Object", "java.lang.Throwable", "java.lang.Exception", "java.lang.RuntimeException", "a.Failure"]
      (by decide +kernel) (by decide)
  have hunchecked : HasSupertype (builtinTypes ++ circledTypes) "a.Failure" "java.lang.RuntimeException" := by decide +kernel
  have hexception : HasSupertype (builtinTypes ++ circledTypes) "java.lang.RuntimeException" "java.lang.Exception" := by
    decide +kernel
  have hthrowable : HasSupertype (builtinTypes ++ circledTypes) "java.lang.Exception" "java.lang.Throwable" := by
    decide +kernel
  have hreach := ((Relation.TransGen.single hunchecked).tail hexception).tail hthrowable
  obtain ⟨_, hsubtypes⟩ :=
    isSubtypeOf_buildAlong_iff_reaches circledTypes {} (names (builtinTypes ++ circledTypes)).reverse
  obtain ⟨_, hiff⟩ := hsubtypes "a.Failure" "java.lang.Throwable"
  have hcovers : ∀ name ∈ names (builtinTypes ++ circledTypes), name ∈ (names (builtinTypes ++ circledTypes)).reverse :=
    fun _ hname => List.mem_reverse.2 hname
  exact ⟨.tail (.single hloop) hring, (hiff hcovers hfree).2 (.inr hreach)⟩

end Catalog

end TypedMessages

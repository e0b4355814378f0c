import Mathlib.Data.List.Chain
import Mathlib.Data.List.Nodup
import TypedMessages.Extension.Fault

/-!
# The search for a cycle

The search walks up from every declared interface and leaves a name behind when all above it has been searched. What it leaves behind leads to no cycle, wherever it is met again: it is accessible, which is the fact that carries the search over shared ancestors. What it still has on its path leads down to where it stands, so a name that is met on the path closes a cycle. Together: something is found exactly when an interface is its own ancestor.
-/

namespace TypedMessages

/-- One of the interfaces extends another, as it is declared. -/
def IsParent (interfaces : List InterfaceDeclaration) (parent child : String) : Prop :=
  ∃ interface ∈ interfaces, interface.name = child ∧ parent ∈ interface.parents

theorem findInterface?_eq_some_iff {interfaces : List InterfaceDeclaration} {name : String}
    {interface : InterfaceDeclaration} (hdistinct : (interfaces.map (·.name)).Nodup) :
    findInterface? interfaces name = some interface ↔ interface ∈ interfaces ∧ interface.name = name := by
  constructor
  · exact mem_of_findInterface?
  · rintro ⟨hmem, rfl⟩
    have hsome : (findInterface? interfaces interface.name).isSome = true := by
      rw [findInterface?, List.find?_isSome]
      exact ⟨interface, List.mem_reverse.2 hmem, by simp⟩
    obtain ⟨found, hfound⟩ := Option.isSome_iff_exists.1 hsome
    obtain ⟨hother, hname⟩ := mem_of_findInterface? hfound
    have hsame : found = interface := List.inj_on_of_nodup_map hdistinct hother hmem hname
    rw [hfound, hsame]

theorem findCycle_of_undeclared {interfaces : List InterfaceDeclaration} {path visited : List String} {name : String}
    (hpath : name ∉ path) (hvisited : name ∉ visited) (hfind : findInterface? interfaces name = none) :
    findCycle interfaces path visited name = (none, name :: visited) := by
  rw [findCycle, if_neg hpath, if_neg hvisited]
  split
  · rfl
  · next interface hsome =>
    rw [hfind] at hsome
    cases hsome

theorem findCycle_of_declared {interfaces : List InterfaceDeclaration} {path visited : List String} {name : String}
    {interface : InterfaceDeclaration} (hpath : name ∉ path) (hvisited : name ∉ visited)
    (hfind : findInterface? interfaces name = some interface) :
    findCycle interfaces path visited name =
      findCycleAmong interfaces (name :: path) (name :: visited) interface.parents := by
  rw [findCycle, if_neg hpath, if_neg hvisited]
  split
  · next hnone =>
    rw [hfind] at hnone
    cases hnone
  · next other hsome =>
    rw [hfind] at hsome
    cases hsome
    rfl

theorem not_rel_of_acc {α : Type} {r : α → α → Prop} {a : α} (h : Acc r a) : ¬ r a a := by
  induction h with
  | intro a _ ih =>
    intro hself
    exact ih a hself hself

theorem not_own_ancestor_of_depth {interfaces : List InterfaceDeclaration} (depth : String → Nat)
    (h : ∀ interface ∈ interfaces, ∀ parent ∈ interface.parents, depth parent < depth interface.name) (name : String) :
    ¬ Relation.TransGen (IsParent interfaces) name name := by
  have hstep : ∀ parent child, IsParent interfaces parent child → depth parent < depth child := by
    rintro parent child ⟨interface, hmem, rfl, hparent⟩
    exact h interface hmem parent hparent
  have hpath : ∀ ancestor child, Relation.TransGen (IsParent interfaces) ancestor child →
      depth ancestor < depth child := by
    intro ancestor child hclosure
    induction hclosure with
    | single hparent => exact hstep _ _ hparent
    | tail _ hparent ih => exact ih.trans (hstep _ _ hparent)
  intro hself
  exact Nat.lt_irrefl _ (hpath name name hself)

/-! ### Nothing found -/

section Search

variable {interfaces : List InterfaceDeclaration}

/-- What was visited and is no longer on the path leads to no cycle. -/
def Cleared (interfaces : List InterfaceDeclaration) (path visited : List String) : Prop :=
  ∀ name ∈ visited, name ∉ path → Acc (IsParent interfaces) name

theorem Cleared.enter {path visited : List String} (h : Cleared interfaces path visited) (name : String) :
    Cleared interfaces (name :: path) (name :: visited) := by
  intro other hvisited hpath
  rw [List.mem_cons, not_or] at hpath
  obtain ⟨hne, hpath⟩ := hpath
  have hbefore : other ∈ visited := (List.mem_cons.1 hvisited).resolve_left hne
  exact h other hbefore hpath

theorem Cleared.leave {path visited : List String} {name : String}
    (h : Cleared interfaces (name :: path) visited) (hname : Acc (IsParent interfaces) name) :
    Cleared interfaces path visited := by
  intro other hvisited hpath
  by_cases heq : other = name
  · rw [heq]
    exact hname
  · apply h other hvisited
    rw [List.mem_cons, not_or]
    exact ⟨heq, hpath⟩

theorem acc_of_undeclared {name : String} (hdistinct : (interfaces.map (·.name)).Nodup)
    (hfind : findInterface? interfaces name = none) : Acc (IsParent interfaces) name := by
  apply Acc.intro
  rintro parent ⟨interface, hmem, hname, _⟩
  rw [(findInterface?_eq_some_iff hdistinct).2 ⟨hmem, hname⟩] at hfind
  cases hfind

theorem acc_of_parents {name : String} {interface : InterfaceDeclaration}
    (hdistinct : (interfaces.map (·.name)).Nodup) (hfind : findInterface? interfaces name = some interface)
    (hparents : ∀ parent ∈ interface.parents, Acc (IsParent interfaces) parent) : Acc (IsParent interfaces) name := by
  apply Acc.intro
  rintro parent ⟨other, hmem, hname, hparent⟩
  have hsame := (findInterface?_eq_some_iff hdistinct).2 ⟨hmem, hname⟩
  rw [hfind] at hsame
  cases hsame
  exact hparents parent hparent

/-- A search that finds nothing clears the names that it was asked about. -/
theorem cleared_of_findCycle (hdistinct : (interfaces.map (·.name)).Nodup) :
    (∀ path visited name, ∀ left, findCycle interfaces path visited name = (none, left) →
      Cleared interfaces path visited → Acc (IsParent interfaces) name ∧ Cleared interfaces path left) ∧
    (∀ path visited names, ∀ left, findCycleAmong interfaces path visited names = (none, left) →
      Cleared interfaces path visited →
        (∀ name ∈ names, Acc (IsParent interfaces) name) ∧ Cleared interfaces path left) := by
  apply findCycle.mutual_induct
  case case1 =>
    intro path visited name hpath left hnone hcleared
    rw [findCycle, if_pos hpath] at hnone
    cases hnone
  case case2 =>
    intro path visited name hpath hvisited left hnone hcleared
    rw [findCycle, if_neg hpath, if_pos hvisited] at hnone
    cases hnone
    exact ⟨hcleared name hvisited hpath, hcleared⟩
  case case3 =>
    intro path visited name hpath hvisited hfind left hnone hcleared
    have hname := acc_of_undeclared hdistinct hfind
    rw [findCycle_of_undeclared hpath hvisited hfind] at hnone
    cases hnone
    exact ⟨hname, (hcleared.enter name).leave hname⟩
  case case4 =>
    intro path visited name hpath hvisited interface hfind ih left hnone hcleared
    rw [findCycle_of_declared hpath hvisited hfind] at hnone
    obtain ⟨hparents, hleft⟩ := ih left hnone (hcleared.enter name)
    have hname := acc_of_parents hdistinct hfind hparents
    exact ⟨hname, hleft.leave hname⟩
  case case5 =>
    intro path visited left hnone hcleared
    rw [findCycleAmong] at hnone
    cases hnone
    exact ⟨fun name hname => absurd hname List.not_mem_nil, hcleared⟩
  case case6 =>
    intro path visited name names cycle between hfound ih left hnone hcleared
    rw [findCycleAmong, hfound] at hnone
    cases hnone
  case case7 =>
    intro path visited name names between hfirst ihfirst ihrest left hnone hcleared
    rw [findCycleAmong, hfirst] at hnone
    obtain ⟨hname, hbetween⟩ := ihfirst between hfirst hcleared
    obtain ⟨hnames, hleft⟩ := ihrest left hnone hbetween
    refine ⟨?_, hleft⟩
    intro other hother
    rcases List.mem_cons.1 hother with rfl | hother
    · exact hname
    · exact hnames other hother

/-! ### Something found -/

/-- A cycle is what closes when a path upwards, on which no name stands twice, comes to a name that is on it. -/
def ClosesPath (interfaces : List InterfaceDeclaration) (cycle : List String) : Prop :=
  ∃ path name, (name :: path).IsChain (IsParent interfaces) ∧ path.Nodup ∧ name ∈ path ∧ cycle = closedPath path name

theorem ClosesPath.exists_own_ancestor {cycle : List String} (h : ClosesPath interfaces cycle) :
    ∃ name, Relation.TransGen (IsParent interfaces) name name := by
  obtain ⟨path, name, hchain, _, hname, _⟩ := h
  have hclosure : (name :: path).IsChain (Relation.TransGen (IsParent interfaces)) :=
    hchain.imp fun _ _ hstep => Relation.TransGen.single hstep
  exact ⟨name, hclosure.rel_cons hname⟩

theorem closesPath_of_findCycle (interfaces : List InterfaceDeclaration) :
    (∀ path visited name, ∀ cycle left, findCycle interfaces path visited name = (some cycle, left) →
      path.Nodup → (name :: path).IsChain (IsParent interfaces) → ClosesPath interfaces cycle) ∧
    (∀ path visited names, ∀ cycle left, findCycleAmong interfaces path visited names = (some cycle, left) →
      path.Nodup → (∀ name ∈ names, (name :: path).IsChain (IsParent interfaces)) → ClosesPath interfaces cycle) := by
  apply findCycle.mutual_induct
  case case1 =>
    intro path visited name hpath cycle left hsome hnodup hchain
    rw [findCycle, if_pos hpath] at hsome
    cases hsome
    exact ⟨path, name, hchain, hnodup, hpath, rfl⟩
  case case2 =>
    intro path visited name hpath hvisited cycle left hsome hnodup hchain
    rw [findCycle, if_neg hpath, if_pos hvisited] at hsome
    cases hsome
  case case3 =>
    intro path visited name hpath hvisited hfind cycle left hsome hnodup hchain
    rw [findCycle_of_undeclared hpath hvisited hfind] at hsome
    cases hsome
  case case4 =>
    intro path visited name hpath hvisited interface hfind ih cycle left hsome hnodup hchain
    rw [findCycle_of_declared hpath hvisited hfind] at hsome
    have hlonger : (name :: path).Nodup := List.nodup_cons.2 ⟨hpath, hnodup⟩
    apply ih cycle left hsome hlonger
    intro parent hparent
    obtain ⟨hmem, hname⟩ := mem_of_findInterface? hfind
    have hstep : IsParent interfaces parent name := ⟨interface, hmem, hname, hparent⟩
    exact hchain.cons_cons hstep
  case case5 =>
    intro path visited cycle left hsome hnodup hchains
    rw [findCycleAmong] at hsome
    cases hsome
  case case6 =>
    intro path visited name names cycle between hfound ih found left hsome hnodup hchains
    rw [findCycleAmong, hfound] at hsome
    cases hsome
    have hchain := hchains name (List.mem_cons_self ..)
    exact ih _ _ hfound hnodup hchain
  case case7 =>
    intro path visited name names between hfirst ihfirst ihrest cycle left hsome hnodup hchains
    rw [findCycleAmong, hfirst] at hsome
    have hothers : ∀ other ∈ names, (other :: path).IsChain (IsParent interfaces) :=
      fun other hother => hchains other (List.mem_cons_of_mem _ hother)
    exact ihrest cycle left hsome hnodup hothers

end Search

/-! ### The search through a batch -/

namespace Batch

theorem closesPath_of_cycle? {batch : Batch} {cycle : List String} (h : batch.cycle? = some cycle) :
    ClosesPath batch.interfaces cycle := by
  have hsearch := (closesPath_of_findCycle batch.interfaces).2 [] [] batch.interfaceNames cycle
    (findCycleAmong batch.interfaces [] [] batch.interfaceNames).2
  apply hsearch
  · rw [← h]
    rfl
  · exact List.nodup_nil
  · intro name _
    exact List.isChain_singleton name

theorem cycle?_eq_none_iff {batch : Batch} (hdistinct : batch.interfaceNames.Nodup) :
    batch.cycle? = none ↔
      ∀ name ∈ batch.interfaceNames, ¬ Relation.TransGen (IsParent batch.interfaces) name name := by
  constructor
  · intro hnone name hname
    have hsearch := (cleared_of_findCycle hdistinct).2 [] [] batch.interfaceNames
      (findCycleAmong batch.interfaces [] [] batch.interfaceNames).2
    obtain ⟨hall, _⟩ := hsearch (Prod.ext hnone rfl) fun _ hvisited => absurd hvisited List.not_mem_nil
    have hacc := (hall name hname).transGen
    exact not_rel_of_acc hacc
  · intro hacyclic
    cases hcycle : batch.cycle? with
    | none => rfl
    | some cycle =>
      obtain ⟨name, hself⟩ := (closesPath_of_cycle? hcycle).exists_own_ancestor
      obtain ⟨_, _, interface, hmem, hname, _⟩ := Relation.TransGen.tail'_iff.1 hself
      have hdeclared : name ∈ batch.interfaceNames := List.mem_map.2 ⟨interface, hmem, hname⟩
      exact absurd hself (hacyclic name hdeclared)

end Batch

end TypedMessages

import TypedMessages.Proofs.Extension.WellFormed

/-!
# The cycle that is reported

A batch whose names are in order but whose interfaces extend themselves has one fault, which names a cycle. That cycle can be walked: it begins and ends with the same interface, passes no other one twice, and every step of it is a declared extension. The walk is the part of the search path above the name that was met again, turned round, so all of this comes from what the search knows of its path.
-/

namespace TypedMessages

/-- Names that lead around a cycle of declared interfaces: each but the last one extends the next one. -/
structure Batch.IsCycle (batch : Batch) (cycle : List String) : Prop where
  two_le_length : 2 ≤ cycle.length
  closed : cycle.head? = cycle.getLast?
  distinct : cycle.dropLast.Nodup
  declared : ∀ name ∈ cycle, name ∈ batch.interfaceNames
  steps : cycle.IsChain fun child parent => IsParent batch.interfaces parent child

/-! ### Closed paths -/

theorem closedPath_eq_reverse (path : List String) (name : String) :
    closedPath path name = (name :: (path.takeWhile (· != name) ++ [name])).reverse := by
  simp [closedPath]

theorem takeWhile_append_prefix {path : List String} {name : String} (hname : name ∈ path) :
    path.takeWhile (· != name) ++ [name] <+: path := by
  induction path with
  | nil => cases hname
  | cons first path ih =>
    by_cases hfirst : first = name
    · subst hfirst
      simp
    · have hrest : name ∈ path := (List.mem_cons.1 hname).resolve_left (Ne.symm hfirst)
      simpa [hfirst] using ih hrest

theorem exists_rel_of_mem_chain {α : Type} {r : α → α → Prop} {first : α} {rest : List α}
    (hchain : (first :: rest).IsChain r) {a : α} (ha : a ∈ rest) : ∃ before, r before a := by
  induction rest generalizing first with
  | nil => cases ha
  | cons second rest ih =>
    obtain ⟨hstep, hrest⟩ := List.isChain_cons_cons.1 hchain
    by_cases hsecond : a = second
    · exact ⟨first, hsecond ▸ hstep⟩
    · have hbehind : a ∈ rest := (List.mem_cons.1 ha).resolve_left hsecond
      exact ih hrest hbehind

theorem Batch.mem_interfaceNames_of_isParent {batch : Batch} {parent child : String}
    (h : IsParent batch.interfaces parent child) : child ∈ batch.interfaceNames := by
  obtain ⟨interface, hmem, hname, _⟩ := h
  exact List.mem_map.2 ⟨interface, hmem, hname⟩

theorem ClosesPath.isCycle {batch : Batch} {cycle : List String} (h : ClosesPath batch.interfaces cycle) :
    batch.IsCycle cycle := by
  obtain ⟨path, name, hchain, hnodup, hname, rfl⟩ := h
  have hbegin := takeWhile_append_prefix hname
  have hloop : (name :: (path.takeWhile (· != name) ++ [name])).IsChain (IsParent batch.interfaces) :=
    hchain.prefix (List.prefix_cons_inj name |>.2 hbegin)
  rw [closedPath_eq_reverse]
  constructor
  case two_le_length => simp
  case closed =>
    rw [List.head?_reverse, List.getLast?_reverse, List.head?_cons, ← List.cons_append, List.getLast?_concat]
  case distinct =>
    rw [List.dropLast_reverse, List.nodup_reverse]
    exact hnodup.sublist hbegin.sublist
  case declared =>
    intro other hother
    have hbehind : other ∈ path.takeWhile (· != name) ++ [name] := by
      rcases List.mem_cons.1 (List.mem_reverse.1 hother) with rfl | hrest
      · simp
      · exact hrest
    obtain ⟨parent, hparent⟩ := exists_rel_of_mem_chain hloop hbehind
    exact Batch.mem_interfaceNames_of_isParent hparent
  case steps => exact List.isChain_reverse.2 hloop

theorem Batch.IsCycle.exists_own_ancestor {batch : Batch} {cycle : List String} (h : batch.IsCycle cycle) :
    ∃ name ∈ batch.interfaceNames, Relation.TransGen (IsParent batch.interfaces) name name := by
  obtain ⟨hlength, hclosed, _, hdeclared, hsteps⟩ := h
  cases cycle with
  | nil => cases hlength
  | cons first rest =>
    have hrest : rest ≠ [] := by
      rintro rfl
      simp at hlength
    have hback : first ∈ rest := by
      apply List.mem_of_getLast?
      rw [← List.getLast?_cons_of_ne_nil hrest, ← hclosed, List.head?_cons]
    have hup : (first :: rest).IsChain fun child ancestor => Relation.TransGen (IsParent batch.interfaces) ancestor child :=
      hsteps.imp fun _ _ hstep => Relation.TransGen.single hstep
    have : IsTrans String fun child ancestor => Relation.TransGen (IsParent batch.interfaces) ancestor child :=
      ⟨fun _ _ _ hlower hupper => hupper.trans hlower⟩
    exact ⟨first, hdeclared first (List.mem_cons_self ..), hup.rel_cons hback⟩

/-! ### The report -/

namespace Batch

theorem mem_faults_cyclicExtension_iff {batch : Batch} {cycle : List String} :
    .cyclicExtension cycle ∈ batch.faults ↔ batch.nameFaults = [] ∧ batch.cycle? = some cycle := by
  by_cases hnames : batch.nameFaults = []
  · rw [faults_of_nameFaults_eq_nil hnames]
    simp [hnames]
  · have hother : .cyclicExtension cycle ∉ batch.nameFaults := by simp [nameFaults]
    rw [faults_of_nameFaults_ne_nil hnames]
    simp [hnames, hother]

end Batch

/-- **A reported cycle is real.** The cycle that is named by a fault has at least two entries, begins and ends with the same one and has no other one twice; all of them are declared, and each but the last extends the next. It is the only fault. And where names are in order, a batch that has such a cycle has one reported. -/
theorem reported_cycle_isCycle (batch : Batch) :
    (∀ cycle, .cyclicExtension cycle ∈ batch.faults → batch.IsCycle cycle ∧ batch.faults = [.cyclicExtension cycle]) ∧
      (batch.nameFaults = [] → (∃ cycle, batch.IsCycle cycle) → ∃ cycle, .cyclicExtension cycle ∈ batch.faults) := by
  constructor
  · intro cycle hreported
    obtain ⟨hnames, hcycle⟩ := Batch.mem_faults_cyclicExtension_iff.1 hreported
    refine ⟨(Batch.closesPath_of_cycle? hcycle).isCycle, ?_⟩
    rw [Batch.faults_of_nameFaults_eq_nil hnames, hcycle]
    rfl
  · rintro hnames ⟨walked, hwalked⟩
    obtain ⟨name, hname, hself⟩ := hwalked.exists_own_ancestor
    have hdistinct := (Batch.nameFaults_eq_nil_iff.1 hnames).1.distinct
    obtain ⟨cycle, hcycle⟩ : ∃ cycle, batch.cycle? = some cycle := by
      apply Option.ne_none_iff_exists'.1
      intro hnone
      exact (Batch.cycle?_eq_none_iff hdistinct).1 hnone name hname hself
    exact ⟨cycle, Batch.mem_faults_cyclicExtension_iff.2 ⟨hnames, hcycle⟩⟩

def entangledBatch : Batch :=
  { interfaces :=
      [{ name := "a.Way", kind := .logger, parents := ["a.Leaf", "a.First"] },
        { name := "a.Leaf", kind := .logger },
        { name := "a.First", kind := .logger, parents := ["a.Leaf", "a.Second"] },
        { name := "a.Second", kind := .logger, parents := ["a.Leaf", "a.First", "a.Way"] }] }

theorem reported_cycle_isCycle_entangledBatch :
    .cyclicExtension ["a.First", "a.Second", "a.First"] ∈ entangledBatch.faults ∧
      entangledBatch.IsCycle ["a.First", "a.Second", "a.First"] ∧
      entangledBatch.faults = [.cyclicExtension ["a.First", "a.Second", "a.First"]] := by
  have hreported : .cyclicExtension ["a.First", "a.Second", "a.First"] ∈ entangledBatch.faults :=
    Batch.mem_faults_cyclicExtension_iff.2 ⟨by decide +kernel, by cbv⟩
  exact ⟨hreported, (reported_cycle_isCycle entangledBatch).1 _ hreported⟩

end TypedMessages

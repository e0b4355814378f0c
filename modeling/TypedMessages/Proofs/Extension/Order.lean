import TypedMessages.Proofs.Extension.Reach

/-!
# The order of a closure

A closure lists an interface before everything that it is the first to lead to, but not before all that it extends: an ancestor that is also named elsewhere can come first. Which of two interfaces comes first, if one extends the other, is decided by the first way up to the ancestor. From each interface it goes on to the first parent that leads there. The interfaces on this way come before the ancestor, and all others that extend it come after.
-/

namespace TypedMessages.Hierarchy

variable {h : Hierarchy} {name parent target : String}

/-! ### What leads to an ancestor -/

theorem closure_of_base (hbase : h.loggerBases.contains name = true) : h.closure name = [] := by
  rw [closure, walk, walkFrom_base List.not_mem_nil hbase, walkFrom_nil]

theorem not_base_of_leads (hleads : target ∈ h.closure name) : h.loggerBases.contains name = false := by
  cases hbase : h.loggerBases.contains name with
  | true =>
    rw [closure_of_base hbase] at hleads
    cases hleads
  | false => rfl

theorem parent_mem_closure (hname : h.loggerBases.contains name = false) (hparent : parent ∈ h.parents name)
    (hbase : h.loggerBases.contains parent = false) : parent ∈ h.closure name :=
  mem_closure_of_mem_parents (self_mem_closure hname) hparent hbase

/-- Whatever a parent leads to belongs to the closure, unless the parent is a logger base, which leads nowhere. -/
theorem closure_subset_of_parent (hname : h.loggerBases.contains name = false) (hparent : parent ∈ h.parents name) :
    h.closure parent ⊆ h.closure name := by
  intro other hother
  exact closure_subset (parent_mem_closure hname hparent (not_base_of_leads hother)) hother

theorem exists_parent_of_leads (hleads : target ∈ h.closure name) (hne : target ≠ name) :
    ∃ parent ∈ h.parents name, target ∈ h.closure parent := by
  obtain ⟨hbase, hreaches⟩ := mem_closure_iff.1 hleads
  obtain heq | ⟨parent, hstep, hrest⟩ := hreaches.cases_head
  · exact absurd heq.symm hne
  · obtain ⟨_, hparent⟩ := leadsOn_iff.1 hstep
    exact ⟨parent, hparent, mem_closure_iff.2 ⟨hbase, hrest⟩⟩

/-- No parent leads back down. -/
def Ascends (h : Hierarchy) : Prop :=
  ∀ name, ∀ parent ∈ h.parents name, name ∉ h.closure parent

theorem ascends_ofBatch {batch : Batch} (hbatch : batch.WellFormed) : (ofBatch batch).Ascends := by
  intro name parent hparent hleads
  have hsteps : ∀ above below, (ofBatch batch).LeadsOn below above → IsParent batch.interfaces above below :=
    fun _ _ hstep => isParent_of_mem_parents (leadsOn_iff.1 hstep).2
  have hback : Relation.ReflTransGen (IsParent batch.interfaces) name parent :=
    Relation.ReflTransGen.mono hsteps name parent (mem_closure_iff.1 hleads).2.swap
  have hdown : IsParent batch.interfaces parent name := isParent_of_mem_parents hparent
  have hname : name ∈ batch.interfaceNames := by
    obtain ⟨declaration, hmem, hname, _⟩ := hdown
    exact List.mem_map.2 ⟨declaration, hmem, hname⟩
  exact hbatch.acyclic name hname (.tail' hback hdown)

/-! ### The first way up -/

/-- The parent is the first one of the child that leads to the target. -/
def StepsFirst (h : Hierarchy) (target child parent : String) : Prop :=
  (h.parents child).find? (target ∈ h.closure ·) = some parent

/-- The interface lies on the way up to the target that goes on to the first parent leading there each time. -/
def OnFirstWay (h : Hierarchy) (target name member : String) : Prop :=
  Relation.ReflTransGen (h.StepsFirst target) name member

theorem StepsFirst.mem (hstep : h.StepsFirst target name parent) : parent ∈ h.parents name :=
  List.mem_of_find?_eq_some hstep

theorem StepsFirst.leads (hstep : h.StepsFirst target name parent) : target ∈ h.closure parent := by
  simpa using List.find?_some hstep

theorem exists_stepsFirst (hleads : target ∈ h.closure name) (hne : target ≠ name) :
    ∃ parent, h.StepsFirst target name parent := by
  obtain ⟨parent, hparent, hparentLeads⟩ := exists_parent_of_leads hleads hne
  apply Option.isSome_iff_exists.1
  rw [List.find?_isSome]
  exact ⟨parent, hparent, by simpa using hparentLeads⟩

theorem OnFirstWay.eq_of_target {member : String} (hascends : h.Ascends) (hway : h.OnFirstWay target target member) :
    member = target := by
  rcases Relation.ReflTransGen.cases_head hway with heq | ⟨parent, hstep, _⟩
  · exact heq.symm
  · exact absurd hstep.leads (hascends target parent hstep.mem)

theorem onFirstWay_iff_of_ne {member : String} (hstep : h.StepsFirst target name parent) (hne : member ≠ name) :
    h.OnFirstWay target name member ↔ h.OnFirstWay target parent member := by
  constructor
  · intro hway
    rcases Relation.ReflTransGen.cases_head hway with heq | ⟨other, hother, hrest⟩
    · exact absurd heq.symm hne
    · rw [Option.some.inj (Eq.trans hstep.symm hother)]
      exact hrest
  · exact Relation.ReflTransGen.head hstep

/-- A walk that goes on to the target from `next` has not met it, and what it has met of the names leading there lies below. -/
structure HeadsFor (h : Hierarchy) (target next : String) (seen : List String) : Prop where
  new : target ∉ seen
  below : ∀ below ∈ seen, target ∈ h.closure below → below ∉ h.closure next

section HeadsFor

variable {next : String} {seen : List String}

/-- Names that do not lead to the target make no difference. -/
theorem HeadsFor.pass (hheads : h.HeadsFor target next seen) (htarget : h.loggerBases.contains target = false)
    (hname : target ∉ h.closure name) : h.HeadsFor target next (name :: seen) where
  new := by
    rw [List.mem_cons, not_or]
    refine ⟨?_, hheads.new⟩
    rintro rfl
    exact hname (self_mem_closure htarget)
  below := by
    intro below hbelow hleads
    rcases List.mem_cons.1 hbelow with rfl | hbelow
    · exact absurd hleads hname
    · exact hheads.below below hbelow hleads

theorem HeadsFor.climb (hheads : h.HeadsFor target next seen) (hascends : h.Ascends)
    (hnext : h.loggerBases.contains next = false) (hstep : h.StepsFirst target next parent) (hne : target ≠ next) :
    h.HeadsFor target parent (next :: seen) where
  new := by
    rw [List.mem_cons, not_or]
    exact ⟨hne, hheads.new⟩
  below := by
    intro below hbelow hleads hback
    rcases List.mem_cons.1 hbelow with rfl | hbelow
    · exact hascends below parent hstep.mem hback
    · exact hheads.below below hbelow hleads (closure_subset_of_parent hnext hstep.mem hback)

end HeadsFor

/-! ### The first of a stack to lead there -/

section FirstLeading

variable {stack : List String}

theorem find?_cons_of_leads (hleads : target ∈ h.closure name) :
    (name :: stack).find? (target ∈ h.closure ·) = some name :=
  List.find?_cons_of_pos (by simpa using hleads)

theorem find?_cons_of_not_leads (hname : target ∉ h.closure name) :
    (name :: stack).find? (target ∈ h.closure ·) = stack.find? (target ∈ h.closure ·) :=
  List.find?_cons_of_neg (by simpa using hname)

theorem find?_parents_of_not_leads (hbase : h.loggerBases.contains name = false) (hname : target ∉ h.closure name) :
    (h.parents name).find? (target ∈ h.closure ·) = none := by
  rw [List.find?_eq_none]
  intro parent hparent hleads
  have habove : target ∈ h.closure parent := by simpa using hleads
  exact hname (closure_subset_of_parent hbase hparent habove)

end FirstLeading

theorem idxOf_cons_lt_iff {names : List String} {left right : String} (hleft : left ≠ name) (hright : right ≠ name) :
    (name :: names).idxOf left < (name :: names).idxOf right ↔ names.idxOf left < names.idxOf right := by
  rw [List.idxOf_cons_ne _ hleft.symm, List.idxOf_cons_ne _ hright.symm, Nat.succ_lt_succ_iff]

/-- Of the names that lead to the target a walk enters exactly those before it that lie on the first way from its stack. -/
theorem idxOf_walkFrom_lt_iff {seen stack : List String} {next other : String} (hascends : h.Ascends)
    (htarget : h.loggerBases.contains target = false) (hother : target ∈ h.closure other) (hne : other ≠ target)
    (hnext : stack.find? (target ∈ h.closure ·) = some next) (hheads : h.HeadsFor target next seen) :
    (h.walkFrom seen stack).members.idxOf other < (h.walkFrom seen stack).members.idxOf target ↔
      h.OnFirstWay target next other := by
  induction seen, stack using walkFrom_induction (h := h) generalizing next with
  | nil seen => cases hnext
  | known seen name stack hseen ih =>
    have hname : target ∉ h.closure name := by
      intro hleads
      rw [find?_cons_of_leads hleads] at hnext
      cases hnext
      exact hheads.below name hseen hleads (self_mem_closure (not_base_of_leads hleads))
    rw [find?_cons_of_not_leads hname] at hnext
    rw [walkFrom_known hseen]
    exact ih hnext hheads
  | base seen name stack hnew hbase ih =>
    have hname : target ∉ h.closure name := by
      rw [closure_of_base hbase]
      exact List.not_mem_nil
    rw [find?_cons_of_not_leads hname] at hnext
    rw [walkFrom_base hnew hbase]
    exact ih hnext (hheads.pass htarget hname)
  | enter seen name stack hnew hbase ih =>
    rw [walkFrom_enter hnew hbase]
    by_cases hleads : target ∈ h.closure name
    · rw [find?_cons_of_leads hleads] at hnext
      cases hnext
      by_cases htop : target = name
      · -- the walk is there, and everything else comes later
        subst htop
        have hoff : ¬ h.OnFirstWay target target other := fun hway => hne (hway.eq_of_target hascends)
        rw [List.idxOf_cons_self]
        exact iff_of_false (Nat.not_lt_zero _) hoff
      · obtain ⟨parent, hstep⟩ := exists_stepsFirst hleads htop
        by_cases hself : other = name
        · subst hself
          rw [List.idxOf_cons_self, List.idxOf_cons_ne _ (Ne.symm htop)]
          exact ⟨fun _ => .refl, fun _ => Nat.succ_pos _⟩
        · rw [idxOf_cons_lt_iff hself htop, onFirstWay_iff_of_ne hstep hself]
          refine ih ?_ (hheads.climb hascends hbase hstep htop)
          rw [List.find?_append, hstep]
          rfl
    · rw [find?_cons_of_not_leads hleads] at hnext
      have hotherName : other ≠ name := by
        rintro rfl
        exact hleads hother
      have htargetName : target ≠ name := by
        rintro rfl
        exact hleads (self_mem_closure htarget)
      rw [idxOf_cons_lt_iff hotherName htargetName]
      refine ih ?_ (hheads.pass htarget hleads)
      rw [List.find?_append, find?_parents_of_not_leads hbase hleads]
      exact hnext

theorem idxOf_closure_lt_iff {other : String} (hascends : h.Ascends) (hmember : other ∈ h.closure name)
    (hother : target ∈ h.closure other) (hne : other ≠ target) :
    (h.closure name).idxOf other < (h.closure name).idxOf target ↔ h.OnFirstWay target name other := by
  have hleads : target ∈ h.closure name := closure_subset hmember hother
  have hheads : h.HeadsFor target name [] := ⟨List.not_mem_nil, fun _ hbelow => absurd hbelow List.not_mem_nil⟩
  exact idxOf_walkFrom_lt_iff hascends (not_base_of_mem_closure hother) hother hne (find?_cons_of_leads hleads) hheads

end TypedMessages.Hierarchy

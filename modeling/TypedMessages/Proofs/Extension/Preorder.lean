import Mathlib.Logic.Relation
import TypedMessages.Proofs.Extension.WellFormed

/-!
# Walking up as a recursion

A walk keeps the names that are still to be visited on a stack and looks only when it takes one from the stack whether the name is new. A recursion would visit a name, then all above it, then the next name. Both come to the same names in the same order: what a walk does with the upper part of its stack is what the recursion does with these names, and with the lower part it goes on as if it had seen whatever the recursion has met. The recursion does not go on from logger bases, and comes to exactly what can be reached without passing one.
-/

namespace TypedMessages.Hierarchy

/-! ### The recursion -/

/-- Where a walk goes on from a name: to its parents, or nowhere from a logger base. -/
def namesAbove (h : Hierarchy) (name : String) : List String :=
  if h.loggerBases.contains name then [] else h.parents name

theorem namesAbove_of_undeclared {h : Hierarchy} {name : String} (hname : name ∉ h.declaredNames) :
    h.namesAbove name = [] := by
  unfold namesAbove parents
  split
  · rfl
  · split
    · next declaration hfind => exact absurd (mem_names_of_findInterface? hfind) hname
    · rfl

/-- The names that a recursion comes to, in the order of the first visits: each of the given names in turn and then what lies above it. Names that were met before are passed over. -/
def preorder (h : Hierarchy) (met : List String) : List String → List String
  | [] => []
  | name :: names =>
    if name ∈ met then h.preorder met names
    else
      let above := h.preorder (name :: met) (h.namesAbove name)
      name :: (above ++ h.preorder (above.reverse ++ name :: met) names)
termination_by names => (unseen h.declaredNames met, names.length)
decreasing_by
  · exact Prod.Lex.right _ (by simp)
  · by_cases hname : name ∈ h.declaredNames
    · exact Prod.Lex.left _ _ (unseen_cons_lt hname (by assumption))
    · rw [namesAbove_of_undeclared hname]
      exact Prod.Lex.right' _ (unseen_cons_le ..) (by simp)
  · exact Prod.Lex.right' _ (unseen_le_of_subset fun other hother => by simp [hother]) (by simp)

section Recursion

variable {h : Hierarchy} {name other : String} {met names : List String}

theorem preorder_nil (h : Hierarchy) (met : List String) : h.preorder met [] = [] := by
  rw [preorder]

theorem preorder_known (hname : name ∈ met) : h.preorder met (name :: names) = h.preorder met names := by
  rw [preorder, if_pos hname]

theorem preorder_new (hname : name ∉ met) :
    h.preorder met (name :: names) =
      name :: (h.preorder (name :: met) (h.namesAbove name) ++
        h.preorder ((h.preorder (name :: met) (h.namesAbove name)).reverse ++ name :: met) names) := by
  rw [preorder, if_neg hname]

/-- One step up from a name that is no logger base. -/
def LeadsOn (h : Hierarchy) (child parent : String) : Prop :=
  parent ∈ h.namesAbove child

theorem leadsOn_iff : h.LeadsOn name other ↔ h.loggerBases.contains name = false ∧ other ∈ h.parents name := by
  unfold LeadsOn namesAbove
  cases h.loggerBases.contains name with
  | true => simp
  | false => simp

/-- The recursion comes to all the names it is given that were not met before. -/
theorem mem_preorder_of_mem (hname : name ∈ names) : name ∈ met ∨ name ∈ h.preorder met names := by
  fun_induction preorder h met names with
  | case1 met => cases hname
  | case2 met first names hmet ih =>
    obtain rfl | hrest := List.mem_cons.1 hname
    · exact Or.inl hmet
    · exact ih hrest
  | case3 met first names hnew above ihabove ih =>
    obtain rfl | hrest := List.mem_cons.1 hname
    · exact Or.inr List.mem_cons_self
    · simp only [List.mem_cons, List.mem_append, List.mem_reverse] at ih ⊢
      grind

theorem mem_preorder_of_leadsOn (hchild : name ∈ h.preorder met names) (hleads : h.LeadsOn name other) :
    other ∈ met ∨ other ∈ h.preorder met names := by
  fun_induction preorder h met names with
  | case1 met => cases hchild
  | case2 met first names hmet ih => exact ih hchild
  | case3 met first names hnew above ihabove ih =>
    have hfirst : other ∈ h.namesAbove first → other ∈ first :: met ∨ other ∈ above := mem_preorder_of_mem
    simp only [List.mem_cons, List.mem_append, List.mem_reverse] at hchild hfirst ihabove ih ⊢
    unfold LeadsOn at hleads
    grind

theorem exists_reaches_of_mem_preorder (hother : other ∈ h.preorder met names) :
    ∃ name ∈ names, Relation.ReflTransGen h.LeadsOn name other := by
  fun_induction preorder h met names with
  | case1 met => cases hother
  | case2 met first names hmet ih =>
    obtain ⟨name, hname, hreaches⟩ := ih hother
    exact ⟨name, List.mem_cons_of_mem _ hname, hreaches⟩
  | case3 met first names hnew above ihabove ih =>
    rw [List.mem_cons, List.mem_append] at hother
    obtain rfl | habove | hrest := hother
    · exact ⟨other, List.mem_cons_self, .refl⟩
    · obtain ⟨parent, hparent, hreaches⟩ := ihabove habove
      exact ⟨first, List.mem_cons_self, hreaches.head hparent⟩
    · obtain ⟨name, hname, hreaches⟩ := ih hrest
      exact ⟨name, List.mem_cons_of_mem _ hname, hreaches⟩

theorem nodup_preorder (h : Hierarchy) (met names : List String) :
    (h.preorder met names).Nodup ∧ ∀ name ∈ h.preorder met names, name ∉ met := by
  fun_induction preorder h met names with
  | case1 met => exact ⟨List.nodup_nil, List.forall_mem_nil _⟩
  | case2 met first names hmet ih => exact ih
  | case3 met first names hnew above ihabove ih =>
    simp only [List.nodup_cons, List.nodup_append, List.mem_cons, List.mem_append, List.mem_reverse, not_or] at ihabove ih ⊢
    grind

theorem mem_preorder_iff : other ∈ h.preorder [] [name] ↔ Relation.ReflTransGen h.LeadsOn name other := by
  constructor
  · intro hother
    obtain ⟨start, hstart, hreaches⟩ := exists_reaches_of_mem_preorder hother
    rw [List.mem_singleton.1 hstart] at hreaches
    exact hreaches
  · intro hreaches
    induction hreaches with
    | refl => exact (mem_preorder_of_mem (List.mem_singleton_self name)).resolve_left List.not_mem_nil
    | tail _ hleads ih => exact (mem_preorder_of_leadsOn ih hleads).resolve_left List.not_mem_nil

end Recursion

/-! ### The stack -/

def Walk.followedBy (first next : Walk) : Walk :=
  ⟨first.members ++ next.members, first.bases ++ next.bases⟩

theorem Walk.followedBy_nil (walk : Walk) : walk.followedBy ⟨[], []⟩ = walk := by
  rw [followedBy, List.append_nil, List.append_nil]

def sortOut (h : Hierarchy) (visited : List String) : Walk :=
  ⟨visited.filter (!h.loggerBases.contains ·), visited.filter (h.loggerBases.contains ·)⟩

section Stack

variable {h : Hierarchy} {name : String} {seen names stack : List String}

theorem sortOut_nil (h : Hierarchy) (walk : Walk) : (h.sortOut []).followedBy walk = walk := rfl

theorem sortOut_append (h : Hierarchy) (first next : List String) (walk : Walk) :
    (h.sortOut (first ++ next)).followedBy walk = (h.sortOut first).followedBy ((h.sortOut next).followedBy walk) := by
  simp only [sortOut, Walk.followedBy, List.filter_append, List.append_assoc]

theorem walkFrom_new (hnew : name ∉ seen) :
    h.walkFrom seen (name :: stack) =
      (h.sortOut [name]).followedBy (h.walkFrom (name :: seen) (h.namesAbove name ++ stack)) := by
  unfold namesAbove sortOut
  cases hbase : h.loggerBases.contains name with
  | true =>
    rw [walkFrom_base hnew hbase]
    simp only [Walk.followedBy, List.filter_cons, hbase]
    rfl
  | false =>
    rw [walkFrom_enter hnew hbase]
    simp only [Walk.followedBy, List.filter_cons, hbase]
    rfl

/-- The upper part of the stack is visited as the recursion would, before the walk goes on with the lower part. -/
theorem walkFrom_append (h : Hierarchy) (seen names stack : List String) :
    h.walkFrom seen (names ++ stack) =
      (h.sortOut (h.preorder seen names)).followedBy
        (h.walkFrom ((h.preorder seen names).reverse ++ seen) stack) := by
  fun_induction preorder h seen names generalizing stack with
  | case1 seen => rw [sortOut_nil, List.nil_append, List.reverse_nil, List.nil_append]
  | case2 seen name names hseen ih => rw [List.cons_append, walkFrom_known hseen, ih]
  | case3 seen name names hnew above ihabove ih =>
    rw [List.cons_append, walkFrom_new hnew, ihabove, ih, ← sortOut_append, ← sortOut_append]
    simp [above]

theorem walk_eq_sortOut (h : Hierarchy) (name : String) : h.walk name = h.sortOut (h.preorder [] [name]) := by
  have happend := walkFrom_append h [] [name] []
  rw [List.append_nil, walkFrom_nil, Walk.followedBy_nil] at happend
  exact happend

end Stack

/-! ### Turn by turn -/

/-- A walk under way: the names that it has seen, its stack, and what it has found so far. -/
structure WalkState where
  seen : List String
  stack : List String
  found : Walk

def WalkState.start (name : String) : WalkState :=
  ⟨[], [name], ⟨[], []⟩⟩

/-- In one turn the walk takes a name from its stack. A name that it has seen is dropped; any other is put down as a logger base, or as a member whose parents come onto the stack. -/
inductive Turn (h : Hierarchy) : WalkState → WalkState → Prop
  | drop {seen stack : List String} {found : Walk} {name : String} (hseen : name ∈ seen) :
      Turn h ⟨seen, name :: stack, found⟩ ⟨seen, stack, found⟩
  | base {seen stack : List String} {found : Walk} {name : String} (hnew : name ∉ seen)
      (hbase : h.loggerBases.contains name = true) :
      Turn h ⟨seen, name :: stack, found⟩ ⟨name :: seen, stack, { found with bases := found.bases ++ [name] }⟩
  | enter {seen stack : List String} {found : Walk} {name : String} (hnew : name ∉ seen)
      (hbase : h.loggerBases.contains name = false) :
      Turn h ⟨seen, name :: stack, found⟩
        ⟨name :: seen, h.parents name ++ stack, { found with members := found.members ++ [name] }⟩

section Turns

variable {h : Hierarchy} {state next : WalkState}

/-- What has been found, with all that the stack still leads to. -/
def WalkState.outcome (h : Hierarchy) (state : WalkState) : Walk :=
  state.found.followedBy (h.walkFrom state.seen state.stack)

theorem Turn.outcome_eq (hturn : h.Turn state next) : state.outcome h = next.outcome h := by
  cases hturn with
  | drop hseen => rw [WalkState.outcome, walkFrom_known hseen]; rfl
  | base hnew hbase => simp [WalkState.outcome, Walk.followedBy, walkFrom_base hnew hbase]
  | enter hnew hbase => simp [WalkState.outcome, Walk.followedBy, walkFrom_enter hnew hbase]

theorem outcome_eq_of_turns (hturns : Relation.ReflTransGen h.Turn state next) : state.outcome h = next.outcome h := by
  induction hturns with
  | refl => rfl
  | tail _ hturn ih => exact ih.trans hturn.outcome_eq

/-- A walk comes to rest only with an empty stack. -/
theorem stack_eq_nil_of_rest (hrest : ∀ next, ¬ h.Turn state next) : state.stack = [] := by
  obtain ⟨seen, stack, found⟩ := state
  cases stack with
  | nil => rfl
  | cons name stack =>
    exfalso
    by_cases hseen : name ∈ seen
    · exact hrest _ (.drop hseen)
    · cases hbase : h.loggerBases.contains name with
      | true => exact hrest _ (.base hseen hbase)
      | false => exact hrest _ (.enter hseen hbase)

theorem acc_turn (h : Hierarchy) (seen stack : List String) (found : Walk) :
    Acc (fun next state => h.Turn state next) ⟨seen, stack, found⟩ := by
  induction seen, stack using walkFrom_induction (h := h) generalizing found with
  | nil seen =>
    refine ⟨_, fun next hturn => ?_⟩
    cases hturn
  | known seen name stack hseen ih =>
    refine ⟨_, fun next hturn => ?_⟩
    cases hturn with
    | drop => exact ih found
    | base hnew => exact absurd hseen hnew
    | enter hnew => exact absurd hseen hnew
  | base seen name stack hnew hbase ih =>
    refine ⟨_, fun next hturn => ?_⟩
    cases hturn with
    | drop hseen => exact absurd hseen hnew
    | base => exact ih _
    | enter _ hmember => cases hbase.symm.trans hmember
  | enter seen name stack hnew hbase ih =>
    refine ⟨_, fun next hturn => ?_⟩
    cases hturn with
    | drop hseen => exact absurd hseen hnew
    | base _ hmember => cases hbase.symm.trans hmember
    | enter => exact ih _

theorem found_of_rest {name : String} (hturns : Relation.ReflTransGen h.Turn (.start name) state)
    (hrest : ∀ next, ¬ h.Turn state next) : state.found = h.walk name := by
  have houtcome := outcome_eq_of_turns hturns
  rw [WalkState.outcome, WalkState.outcome, stack_eq_nil_of_rest hrest, walkFrom_nil, Walk.followedBy_nil] at houtcome
  exact houtcome.symm

end Turns

/-! ### What walking up comes to -/

section Reached

variable {h : Hierarchy} {name other : String}

theorem mem_closure_iff :
    other ∈ h.closure name ↔ h.loggerBases.contains other = false ∧ Relation.ReflTransGen h.LeadsOn name other := by
  rw [closure, walk_eq_sortOut, sortOut, List.mem_filter, mem_preorder_iff, Bool.not_eq_true', and_comm]

theorem mem_basesOf_iff :
    other ∈ h.basesOf name ↔ h.loggerBases.contains other = true ∧ Relation.ReflTransGen h.LeadsOn name other := by
  rw [basesOf, walk_eq_sortOut, sortOut, List.mem_filter, mem_preorder_iff, and_comm]

theorem nodup_closure (h : Hierarchy) (name : String) : (h.closure name).Nodup := by
  rw [closure, walk_eq_sortOut]
  exact (nodup_preorder h [] [name]).1.filter _

theorem nodup_basesOf (h : Hierarchy) (name : String) : (h.basesOf name).Nodup := by
  rw [basesOf, walk_eq_sortOut]
  exact (nodup_preorder h [] [name]).1.filter _

theorem head?_closure (hname : h.loggerBases.contains name = false) : (h.closure name).head? = some name := by
  rw [closure, walk, walkFrom_enter List.not_mem_nil hname, List.head?_cons]

end Reached

end TypedMessages.Hierarchy

namespace TypedMessages

def Batch.StepsUp (batch : Batch) (child parent : String) : Prop :=
  batch.options.isLoggerBase child = false ∧ IsParent batch.interfaces parent child

theorem Hierarchy.leadsOn_ofBatch {batch : Batch} (hdistinct : batch.interfaceNames.Nodup) :
    (Hierarchy.ofBatch batch).LeadsOn = batch.StepsUp := by
  ext child parent
  have hparents : parent ∈ (ofBatch batch).parents child ↔ IsParent batch.interfaces parent child :=
    mem_parents_iff (h := ofBatch batch) hdistinct
  rw [leadsOn_iff, hparents]
  rfl

/-- What an interface is resolved with: the interfaces that are no logger bases, itself first, and the logger bases, each once and as far as they are reached without passing a logger base. -/
structure Batch.ReachedFrom (batch : Batch) (name : String) (members bases : List String) : Prop where
  members_nodup : members.Nodup
  mem_members : ∀ other, other ∈ members ↔
    batch.options.isLoggerBase other = false ∧ Relation.ReflTransGen batch.StepsUp name other
  members_head : batch.options.isLoggerBase name = false → members.head? = some name
  bases_nodup : bases.Nodup
  mem_bases : ∀ other, other ∈ bases ↔
    batch.options.isLoggerBase other = true ∧ Relation.ReflTransGen batch.StepsUp name other

open Hierarchy in
/-- **Walking up visits in preorder.** In a batch that declares no interface twice, cyclic or not, a walk from any name comes to rest, whatever it meets. It has found then what the recursion comes to, in the same order, with the logger bases put apart. So the closure and the logger bases of a name are what can be reached from it without passing a logger base, each once. -/
theorem walk_preorder (batch : Batch) (hdistinct : batch.interfaceNames.Nodup) {name : String}
    (hname : (ofBatch batch).contains name = true) :
    Acc (fun next state => (ofBatch batch).Turn state next) (.start name) ∧
      (∀ last, Relation.ReflTransGen (ofBatch batch).Turn (.start name) last →
        (∀ next, ¬ (ofBatch batch).Turn last next) → last.found = (ofBatch batch).walk name) ∧
      ((ofBatch batch).walk name).members =
        ((ofBatch batch).preorder [] [name]).filter (!batch.options.isLoggerBase ·) ∧
      ((ofBatch batch).walk name).bases = ((ofBatch batch).preorder [] [name]).filter batch.options.isLoggerBase ∧
      (ofBatch batch).closureOf name = .ok ((ofBatch batch).walk name).members ∧
      (ofBatch batch).loggerBasesOf name = .ok ((ofBatch batch).walk name).bases ∧
      batch.ReachedFrom name ((ofBatch batch).walk name).members ((ofBatch batch).walk name).bases := by
  have hsorted := walk_eq_sortOut (ofBatch batch) name
  refine ⟨acc_turn _ _ _ _, fun last => found_of_rest, congrArg Walk.members hsorted, congrArg Walk.bases hsorted,
    if_pos hname, if_pos hname, ?_⟩
  exact
    { members_nodup := nodup_closure ..
      mem_members := fun other => leadsOn_ofBatch hdistinct ▸ mem_closure_iff
      members_head := fun hbase => head?_closure hbase
      bases_nodup := nodup_basesOf ..
      mem_bases := fun other => leadsOn_ofBatch hdistinct ▸ mem_basesOf_iff }

/-- Two ways up to an interface that leads back down, past a name that nothing declares. -/
def tangledBatch : Batch :=
  { interfaces :=
      [{ name := "a.Bottom", kind := .logger, parents := ["a.Left", "a.Right"] },
       { name := "a.Left", kind := .logger, parents := ["a.Base"] },
       { name := "a.Right", kind := .logger, parents := ["a.Base", "a.Unknown"] },
       { name := "a.Base", kind := .logger, parents := ["org.jboss.logging.BasicLogger", "a.Bottom"] }] }

theorem preorder_tangledBatch :
    (Hierarchy.ofBatch tangledBatch).preorder [] ["a.Bottom"] =
      ["a.Bottom", "a.Left", "a.Base", "org.jboss.logging.BasicLogger", "a.Right", "a.Unknown"] := by
  have hbottom : (Hierarchy.ofBatch tangledBatch).namesAbove "a.Bottom" = ["a.Left", "a.Right"] := by rfl
  have hleft : (Hierarchy.ofBatch tangledBatch).namesAbove "a.Left" = ["a.Base"] := by rfl
  have hright : (Hierarchy.ofBatch tangledBatch).namesAbove "a.Right" = ["a.Base", "a.Unknown"] := by rfl
  have hbase : (Hierarchy.ofBatch tangledBatch).namesAbove "a.Base" = ["org.jboss.logging.BasicLogger", "a.Bottom"] := by
    rfl
  have hlogger : (Hierarchy.ofBatch tangledBatch).namesAbove "org.jboss.logging.BasicLogger" = [] := by rfl
  have hunknown : (Hierarchy.ofBatch tangledBatch).namesAbove "a.Unknown" = [] := by rfl
  simp [Hierarchy.preorder_new, Hierarchy.preorder_known, Hierarchy.preorder_nil, hbottom, hleft, hright, hbase,
    hlogger, hunknown]

open Hierarchy in
theorem walk_preorder_tangledBatch :
    tangledBatch.interfaceNames.Nodup ∧ (ofBatch tangledBatch).contains "a.Bottom" = true ∧
      (ofBatch tangledBatch).closureOf "a.Bottom" = .ok ["a.Bottom", "a.Left", "a.Base", "a.Right", "a.Unknown"] ∧
      (ofBatch tangledBatch).loggerBasesOf "a.Bottom" = .ok ["org.jboss.logging.BasicLogger"] := by
  have hdistinct : tangledBatch.interfaceNames.Nodup := by decide
  have hname : (ofBatch tangledBatch).contains "a.Bottom" = true := by decide
  obtain ⟨_, _, hmembers, hbases, hclosure, hloggerBases, _⟩ := walk_preorder tangledBatch hdistinct hname
  rw [preorder_tangledBatch] at hmembers hbases
  rw [hclosure, hloggerBases, hmembers, hbases]
  exact ⟨hdistinct, hname, rfl, rfl⟩

end TypedMessages

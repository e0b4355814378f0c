import TypedMessages.Proofs.Extension.Order
import TypedMessages.Proofs.Interface.Flattening

/-!
# Overrides

Of the methods with one signature key flattening keeps that of the interface that comes first in the closure. An interface that redeclares a method of an ancestor comes before it if it lies on the first way up to the ancestor, and then the ancestor's method is not kept. Beside that way it comes after the ancestor, and its own method is not kept.
-/

namespace TypedMessages

namespace Hierarchy

/-- The interface itself declares a method with the key. -/
def DeclaresKey (h : Hierarchy) (key name : String) : Prop :=
  ∃ declaration, h.declaration? name = some declaration ∧ key ∈ declaration.methods.map (·.signatureKey)

end Hierarchy

/-! ### The first to declare -/

theorem find?_of_mem_firstByKey {seen : List String} {methods : List (InterfaceDeclaration × MethodDeclaration)}
    {declared : InterfaceDeclaration × MethodDeclaration} (h : declared ∈ firstByKey seen methods) :
    methods.find? (·.2.signatureKey == declared.2.signatureKey) = some declared := by
  fun_induction firstByKey seen methods with
  | case1 => cases h
  | case2 seen declaring method methods hseen ih =>
    have hne : method.signatureKey ≠ declared.2.signatureKey :=
      fun heq => key_not_mem_of_mem_firstByKey h (heq ▸ hseen)
    rw [List.find?_cons_of_neg (by simpa using hne)]
    exact ih h
  | case3 seen declaring method methods hnew ih =>
    rcases List.mem_cons.1 h with rfl | h
    · rw [List.find?_cons_of_pos (by simp)]
    · have hne : method.signatureKey ≠ declared.2.signatureKey :=
        fun heq => key_not_mem_of_mem_firstByKey h (heq ▸ List.mem_cons_self)
      rw [List.find?_cons_of_neg (by simpa using hne)]
      exact ih h

namespace Hierarchy

variable {h : Hierarchy} {name other key : String}

theorem idxOf_le_of_find? {names : List String} {declarations : List InterfaceDeclaration}
    {found : InterfaceDeclaration × MethodDeclaration} (hnames : names.map h.declaration? = declarations.map some)
    (hfound : (methodsOf declarations).find? (·.2.signatureKey == key) = some found) (hother : other ∈ names)
    (hdeclares : h.DeclaresKey key other) : names.idxOf found.1.name ≤ names.idxOf other := by
  induction names generalizing declarations with
  | nil => cases hother
  | cons name names ih =>
    cases declarations with
    | nil => cases hnames
    | cons declaration declarations =>
      obtain ⟨hfind, hrest⟩ := List.cons.inj hnames
      have hname : declaration.name = name := (mem_of_findInterface? hfind).2
      rw [methodsOf, List.flatMap_cons, List.find?_append, Option.or_eq_some_iff] at hfound
      rcases hfound with hown | ⟨hnone, hfound⟩
      · obtain ⟨method, _, rfl⟩ := List.mem_map.1 (List.mem_of_find?_eq_some hown)
        rw [hname, List.idxOf_cons_self]
        exact Nat.zero_le _
      · have hne : name ≠ other := by
          rintro rfl
          obtain ⟨declared, hdeclared, hkey⟩ := hdeclares
          cases hfind.symm.trans hdeclared
          obtain ⟨method, hmethod, rfl⟩ := List.mem_map.1 hkey
          exact List.find?_eq_none.1 hnone _ (List.mem_map_of_mem hmethod) (beq_self_eq_true _)
        have hbehind : other ∈ names := (List.mem_cons.1 hother).resolve_left hne.symm
        have hle := ih hrest hfound hbehind
        rw [List.idxOf_cons_ne _ hne]
        by_cases hself : name = found.1.name
        · rw [hself, List.idxOf_cons_self]
          exact Nat.zero_le _
        · rw [List.idxOf_cons_ne _ hself]
          exact Nat.succ_le_succ hle

/-- A kept method is declared by the first interface of the closure that declares its key. -/
theorem idxOf_kept_le {flattened : FlattenedMethods} {kept : InterfaceDeclaration × MethodDeclaration}
    (hok : h.flattenedMethods name = .ok flattened) (hkept : kept ∈ flattened.methods) (hother : other ∈ h.closure name)
    (hdeclares : h.DeclaresKey kept.2.signatureKey other) :
    (h.closure name).idxOf kept.1.name ≤ (h.closure name).idxOf other := by
  obtain ⟨declarations, hclosure, hmethods⟩ := exists_declarations_of_flattenedMethods hok
  rw [hmethods] at hkept
  exact idxOf_le_of_find? hclosure (find?_of_mem_firstByKey hkept) hother hdeclares

theorem offersMethod_of_declaresKey (hother : other ∈ h.closure name) (hdeclares : h.DeclaresKey key other) :
    ∃ declared, h.OffersMethod name declared ∧ declared.2.signatureKey = key := by
  obtain ⟨declaration, hfind, hkey⟩ := hdeclares
  obtain ⟨method, hmethod, hsame⟩ := List.mem_map.1 hkey
  exact ⟨(declaration, method), ⟨other, hother, hfind, hmethod⟩, hsame⟩

theorem exists_filter_eq_singleton {flattened : FlattenedMethods} (hok : h.flattenedMethods name = .ok flattened)
    (hother : other ∈ h.closure name) (hdeclares : h.DeclaresKey key other) :
    ∃ kept, flattened.methods.filter (·.2.signatureKey == key) = [kept] := by
  obtain ⟨declared, hoffers, rfl⟩ := offersMethod_of_declaresKey hother hdeclares
  obtain ⟨kept, hkept, hkey⟩ := exists_kept_of_offersMethod hok hoffers
  rw [← hkey]
  exact ⟨kept, filter_key_eq_singleton (nodup_signatureKeys hok) hkept⟩

theorem declared_of_leads (hleads : other ∈ h.closure name) (hne : other ≠ name) : name ∈ h.declaredNames := by
  obtain ⟨parent, hparent, _⟩ := exists_parent_of_leads hleads hne
  unfold parents at hparent
  split at hparent
  · next declaration hfind => exact mem_names_of_findInterface? hfind
  · cases hparent

end Hierarchy

open Hierarchy in
/-- **When an override wins.** If in a batch without faults an interface redeclares a method of an ancestor, every interface above which both lie is flattened to exactly one method with that key. This is not the ancestor's if the override lies on the first way up to the ancestor, and it is not the override's if it lies elsewhere. -/
theorem override_wins_on_firstWay (batch : Batch) (hfaults : batch.faults = []) {name base derived key : String}
    (hderived : derived ∈ (Hierarchy.ofBatch batch).closure name)
    (hbase : base ∈ (Hierarchy.ofBatch batch).closure derived) (hne : base ≠ derived)
    (hbaseDeclares : (Hierarchy.ofBatch batch).DeclaresKey key base)
    (hderivedDeclares : (Hierarchy.ofBatch batch).DeclaresKey key derived) :
    ∃ flattened kept, (Hierarchy.ofBatch batch).flattenedMethods name = .ok flattened ∧
      flattened.methods.filter (·.2.signatureKey == key) = [kept] ∧
      ((Hierarchy.ofBatch batch).OnFirstWay base name derived → kept.1.name ≠ base) ∧
      (¬ (Hierarchy.ofBatch batch).OnFirstWay base name derived → kept.1.name ≠ derived) := by
  have hbatch := Batch.faults_eq_nil_iff.1 hfaults
  have hmember : base ∈ (ofBatch batch).closure name := closure_subset hderived hbase
  have hname : name ∈ (ofBatch batch).declaredNames := by
    by_cases hself : derived = name
    · exact declared_of_leads hmember (hself ▸ hne)
    · exact declared_of_leads hderived hself
  have hsettled := parentsSettled_ofBatch hbatch.toNamesResolved
  obtain ⟨flattened, hok⟩ := flattenedMethods_eq_ok hsettled hname
  obtain ⟨kept, hkept⟩ := exists_filter_eq_singleton hok hmember hbaseDeclares
  obtain ⟨hmem, hkey⟩ := List.mem_filter.1 (hkept ▸ List.mem_singleton_self kept)
  rw [beq_iff_eq] at hkey
  have horder := idxOf_closure_lt_iff (ascends_ofBatch hbatch) hderived hbase hne.symm
  refine ⟨flattened, kept, hok, hkept, fun hway heq => ?_, fun hway heq => ?_⟩
  · have hle := idxOf_kept_le hok hmem hderived (hkey ▸ hderivedDeclares)
    rw [heq] at hle
    exact Nat.not_lt_of_le hle (horder.2 hway)
  · have hle := idxOf_kept_le hok hmem hmember (hkey ▸ hbaseDeclares)
    rw [heq] at hle
    rcases Nat.lt_or_eq_of_le hle with hlt | hsame
    · exact hway (horder.1 hlt)
    · exact hne ((List.idxOf_inj hderived).1 hsame).symm

/-! ### An override on the way and beside it -/

def plainLoss (text : String) : MethodDeclaration :=
  { name := "lost", returnType := "java.lang.String", message := some { value := text } }

/-- An interface, one that overrides its method, and one that extends the given ones. -/
def overridingBatch (parents : List String) : Batch :=
  { interfaces :=
      [{ name := "a.Base", kind := .bundle, methods := [plainLoss "Lost"] },
       { name := "a.Derived", kind := .bundle, parents := ["a.Base"], methods := [plainLoss "Lost again"] },
       { name := "a.Both", kind := .bundle, parents }] }

namespace Overriding

open Hierarchy

theorem faults_eq_nil {parents : List String} (hparents : ∀ parent ∈ parents, parent = "a.Base" ∨ parent = "a.Derived") :
    (overridingBatch parents).faults = [] :=
  Batch.faults_eq_nil_iff.2
    { distinct := (by decide : ["a.Base", "a.Derived", "a.Both"].Nodup)
      parents := by
        simp only [overridingBatch, Batch.interfaceNames, List.forall_mem_cons, List.map_cons, List.map_nil]
        refine ⟨by simp, by simp, fun parent hparent => Or.inl ?_, by simp⟩
        rcases hparents parent hparent with rfl | rfl <;> simp
      distinctTypes := List.nodup_nil
      acyclic := fun name _ => by
        refine not_own_ancestor_of_depth ["a.Base", "a.Derived", "a.Both"].idxOf ?_ name
        simp only [overridingBatch, List.forall_mem_cons]
        refine ⟨by simp, by simp, fun parent hparent => ?_, by simp⟩
        rcases hparents parent hparent with rfl | rfl <;> simp }

theorem base_mem_closure (parents : List String) :
    "a.Base" ∈ (ofBatch (overridingBatch parents)).closure "a.Derived" :=
  parent_mem_closure rfl List.mem_cons_self rfl

theorem declaresKey_base (parents : List String) :
    (ofBatch (overridingBatch parents)).DeclaresKey (plainLoss "Lost").signatureKey "a.Base" :=
  ⟨_, rfl, List.mem_singleton_self _⟩

theorem declaresKey_derived (parents : List String) :
    (ofBatch (overridingBatch parents)).DeclaresKey (plainLoss "Lost").signatureKey "a.Derived" :=
  ⟨_, rfl, List.mem_singleton_self _⟩

theorem walk_both :
    (ofBatch (overridingBatch ["a.Base", "a.Derived"])).walk "a.Both" = ⟨["a.Both", "a.Base", "a.Derived"], []⟩ := by
  have hboth : (ofBatch (overridingBatch ["a.Base", "a.Derived"])).parents "a.Both" = ["a.Base", "a.Derived"] := rfl
  have hbase : (ofBatch (overridingBatch ["a.Base", "a.Derived"])).parents "a.Base" = [] := rfl
  have hderived : (ofBatch (overridingBatch ["a.Base", "a.Derived"])).parents "a.Derived" = ["a.Base"] := rfl
  rw [walk, walkFrom_enter (by decide) rfl, hboth, List.cons_append, walkFrom_enter (by decide) rfl, hbase,
    List.nil_append, List.cons_append, walkFrom_enter (by decide) rfl, hderived, List.cons_append,
    walkFrom_known (by decide)]
  simp only [List.append_nil, walkFrom_nil]

end Overriding

open Hierarchy Overriding in
theorem override_wins_on_firstWay_derivedFirst :
    (overridingBatch ["a.Derived", "a.Base"]).faults = [] ∧
      ∃ flattened kept, (ofBatch (overridingBatch ["a.Derived", "a.Base"])).flattenedMethods "a.Both" = .ok flattened ∧
        flattened.methods.filter (·.2.signatureKey == (plainLoss "Lost").signatureKey) = [kept] ∧
        kept.1.name ≠ "a.Base" := by
  have hfaults : (overridingBatch ["a.Derived", "a.Base"]).faults = [] := faults_eq_nil (by simp)
  have hway : (ofBatch (overridingBatch ["a.Derived", "a.Base"])).OnFirstWay "a.Base" "a.Both" "a.Derived" :=
    .single (find?_cons_of_leads (base_mem_closure _))
  have hmember : "a.Derived" ∈ (ofBatch (overridingBatch ["a.Derived", "a.Base"])).closure "a.Both" :=
    parent_mem_closure rfl List.mem_cons_self rfl
  obtain ⟨flattened, kept, hok, hkept, hwins, _⟩ := override_wins_on_firstWay _ hfaults hmember (base_mem_closure _)
    (by decide) (declaresKey_base _) (declaresKey_derived _)
  exact ⟨hfaults, flattened, kept, hok, hkept, hwins hway⟩

open Hierarchy Overriding in
/-- Where the ancestor is named before the override, its method is kept. -/
theorem override_loses_baseFirst :
    (overridingBatch ["a.Base", "a.Derived"]).faults = [] ∧
      "a.Derived" ∈ (ofBatch (overridingBatch ["a.Base", "a.Derived"])).closure "a.Both" ∧
      "a.Base" ∈ (ofBatch (overridingBatch ["a.Base", "a.Derived"])).closure "a.Derived" ∧
      (ofBatch (overridingBatch ["a.Base", "a.Derived"])).DeclaresKey (plainLoss "Lost").signatureKey "a.Base" ∧
      (ofBatch (overridingBatch ["a.Base", "a.Derived"])).DeclaresKey (plainLoss "Lost").signatureKey "a.Derived" ∧
      ∃ flattened kept, (ofBatch (overridingBatch ["a.Base", "a.Derived"])).flattenedMethods "a.Both" = .ok flattened ∧
        flattened.methods.filter (·.2.signatureKey == (plainLoss "Lost").signatureKey) = [kept] ∧
        kept.1.name = "a.Base" := by
  have hclosure : ((ofBatch (overridingBatch ["a.Base", "a.Derived"])).closure "a.Both").map
      (ofBatch (overridingBatch ["a.Base", "a.Derived"])).declaration? =
        [{ name := "a.Both", kind := .bundle, parents := ["a.Base", "a.Derived"] },
          { name := "a.Base", kind := .bundle, methods := [plainLoss "Lost"] },
          { name := "a.Derived", kind := .bundle, parents := ["a.Base"], methods := [plainLoss "Lost again"] }].map
          some := by
    rw [Hierarchy.closure, walk_both]
    rfl
  exact ⟨faults_eq_nil (by simp), parent_mem_closure rfl (by decide) rfl, base_mem_closure _, declaresKey_base _,
    declaresKey_derived _, _, _, flattenedMethods_of_declarations rfl hclosure, by rfl, rfl⟩

end TypedMessages

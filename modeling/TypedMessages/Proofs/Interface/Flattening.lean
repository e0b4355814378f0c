import TypedMessages.Proofs.Extension.Closure
import TypedMessages.Proofs.Extension.WellFormed

/-!
# What flattening keeps

The methods that an interface is flattened to are taken from the declarations of its closure. Of the methods with one signature key exactly one is kept, and none of the keys is lost.
-/

namespace TypedMessages

/-! ### First methods by key -/

theorem filter_key_eq_singleton {α : Type} {keyOf : α → String} {items : List α} {item : α}
    (hdistinct : (items.map keyOf).Nodup) (hitem : item ∈ items) : items.filter (keyOf · == keyOf item) = [item] := by
  have hnodup : (items.filter (keyOf · == keyOf item)).Nodup := (List.Nodup.of_map keyOf hdistinct).filter _
  apply List.perm_singleton.1
  rw [List.perm_ext_iff_of_nodup hnodup (List.nodup_singleton item)]
  intro other
  rw [List.mem_filter, beq_iff_eq, List.mem_singleton]
  constructor
  · intro hother
    exact List.inj_on_of_nodup_map hdistinct hother.1 hitem hother.2
  · intro hother
    rw [hother]
    exact ⟨hitem, rfl⟩

section FirstByKey

variable {seen : List String} {methods : List (InterfaceDeclaration × MethodDeclaration)}
  {declared : InterfaceDeclaration × MethodDeclaration}

theorem key_not_mem_of_mem_firstByKey (h : declared ∈ firstByKey seen methods) : declared.2.signatureKey ∉ seen := by
  fun_induction firstByKey seen methods with
  | case1 => cases h
  | case2 seen declaring method methods hseen ih => exact ih h
  | case3 seen declaring method methods hnew ih =>
    rcases List.mem_cons.1 h with rfl | h
    · exact hnew
    · exact fun hseen => ih h (List.mem_cons_of_mem _ hseen)

theorem nodup_keys_firstByKey (seen : List String) (methods : List (InterfaceDeclaration × MethodDeclaration)) :
    ((firstByKey seen methods).map (·.2.signatureKey)).Nodup := by
  fun_induction firstByKey seen methods with
  | case1 => exact List.nodup_nil
  | case2 seen declaring method methods hseen ih => exact ih
  | case3 seen declaring method methods hnew ih =>
    rw [List.map_cons, List.nodup_cons]
    refine ⟨fun hmem => ?_, ih⟩
    obtain ⟨kept, hkept, hkey⟩ := List.mem_map.1 hmem
    apply key_not_mem_of_mem_firstByKey hkept
    rw [hkey]
    exact List.mem_cons_self

theorem exists_mem_firstByKey (h : declared ∈ methods) (hnew : declared.2.signatureKey ∉ seen) :
    ∃ kept ∈ firstByKey seen methods, kept.2.signatureKey = declared.2.signatureKey := by
  fun_induction firstByKey seen methods with
  | case1 => cases h
  | case2 seen declaring method methods hseen ih =>
    rcases List.mem_cons.1 h with rfl | h
    · exact absurd hseen hnew
    · exact ih h hnew
  | case3 seen declaring method methods _ ih =>
    by_cases hkey : declared.2.signatureKey = method.signatureKey
    · exact ⟨(declaring, method), List.mem_cons_self, hkey.symm⟩
    · rcases List.mem_cons.1 h with rfl | h
      · exact absurd rfl hkey
      · obtain ⟨kept, hkept, hsame⟩ := ih h (by simp [hkey, hnew])
        exact ⟨kept, List.mem_cons_of_mem _ hkept, hsame⟩

end FirstByKey

/-! ### Methods of a closure -/

namespace Hierarchy

theorem closureDeclarations_eq_ok_iff {h : Hierarchy} {requested : String} {names : List String}
    {declarations : List InterfaceDeclaration} :
    h.closureDeclarations requested names = .ok declarations ↔ names.map h.declaration? = declarations.map some := by
  induction names generalizing declarations with
  | nil => cases declarations <;> simp [closureDeclarations]
  | cons name names ih =>
    rw [closureDeclarations, List.map_cons]
    cases h.declaration? name with
    | none => cases declarations <;> simp
    | some declaration =>
      simp only [map_eq_ok_iff, ih]
      constructor
      · rintro ⟨rest, hrest, rfl⟩
        rw [hrest, List.map_cons]
      · intro heq
        cases declarations with
        | nil => cases heq
        | cons first rest =>
          obtain ⟨hfirst, hrest⟩ := List.cons.inj heq
          exact ⟨rest, hrest, by rw [Option.some.inj hfirst]⟩

/-- The method is declared by a member of the closure. -/
def OffersMethod (h : Hierarchy) (name : String) (declared : InterfaceDeclaration × MethodDeclaration) : Prop :=
  ∃ member ∈ h.closure name, h.declaration? member = some declared.1 ∧ declared.2 ∈ declared.1.methods

section Flattened

variable {h : Hierarchy} {name : String} {flattened : FlattenedMethods}
  {declared : InterfaceDeclaration × MethodDeclaration}

theorem offersMethod_iff {declarations : List InterfaceDeclaration}
    (hclosure : (h.closure name).map h.declaration? = declarations.map some) :
    h.OffersMethod name declared ↔ declared ∈ methodsOf declarations := by
  have hdeclaration : declared.1 ∈ declarations ↔ ∃ member ∈ h.closure name, h.declaration? member = some declared.1 := by
    rw [← List.mem_map, hclosure]
    simp
  constructor
  · rintro ⟨member, hmember, hfind, hmethod⟩
    have hin := hdeclaration.2 ⟨member, hmember, hfind⟩
    have hpair : declared ∈ declared.1.methods.map (declared.1, ·) := List.mem_map.2 ⟨declared.2, hmethod, rfl⟩
    exact List.mem_flatMap.2 ⟨declared.1, hin, hpair⟩
  · intro hmem
    obtain ⟨declaration, hin, hmethod⟩ := List.mem_flatMap.1 hmem
    obtain ⟨method, hdeclares, rfl⟩ := List.mem_map.1 hmethod
    obtain ⟨member, hmember, hfind⟩ := hdeclaration.1 hin
    exact ⟨member, hmember, hfind, hdeclares⟩

theorem exists_declarations_of_flattenedMethods (hok : h.flattenedMethods name = .ok flattened) :
    ∃ declarations, (h.closure name).map h.declaration? = declarations.map some ∧
      flattened.methods = firstByKey [] (methodsOf declarations) := by
  unfold flattenedMethods at hok
  split at hok
  · obtain ⟨declarations, hdeclarations, rfl⟩ := map_eq_ok_iff.1 hok
    exact ⟨declarations, closureDeclarations_eq_ok_iff.1 hdeclarations, rfl⟩
  · cases hok

/-- What is flattened is what comes first by its key among all that the closure offers. -/
theorem exists_methods_eq_firstByKey (hok : h.flattenedMethods name = .ok flattened) :
    ∃ methods, flattened.methods = firstByKey [] methods ∧
      ∀ declared, declared ∈ methods ↔ h.OffersMethod name declared := by
  obtain ⟨declarations, hclosure, hmethods⟩ := exists_declarations_of_flattenedMethods hok
  exact ⟨methodsOf declarations, hmethods, fun _ => (offersMethod_iff hclosure).symm⟩

theorem offersMethod_of_mem (hok : h.flattenedMethods name = .ok flattened) (hmem : declared ∈ flattened.methods) :
    h.OffersMethod name declared := by
  obtain ⟨methods, hmethods, hoffers⟩ := exists_methods_eq_firstByKey hok
  rw [hmethods] at hmem
  exact (hoffers declared).1 (mem_of_mem_firstByKey hmem)

theorem exists_kept_of_offersMethod (hok : h.flattenedMethods name = .ok flattened)
    (hoffers : h.OffersMethod name declared) :
    ∃ kept ∈ flattened.methods, kept.2.signatureKey = declared.2.signatureKey := by
  obtain ⟨methods, hmethods, hall⟩ := exists_methods_eq_firstByKey hok
  have hmem := (hall declared).2 hoffers
  rw [hmethods]
  exact exists_mem_firstByKey hmem List.not_mem_nil

theorem nodup_signatureKeys (hok : h.flattenedMethods name = .ok flattened) :
    (flattened.methods.map (·.2.signatureKey)).Nodup := by
  obtain ⟨methods, hmethods, _⟩ := exists_methods_eq_firstByKey hok
  rw [hmethods]
  exact nodup_keys_firstByKey [] methods

theorem flattenedMethods_of_declarations {declarations : List InterfaceDeclaration} (hname : h.contains name = true)
    (hclosure : (h.closure name).map h.declaration? = declarations.map some) :
    h.flattenedMethods name = .ok ⟨firstByKey [] (methodsOf declarations), h.delegatedOf name⟩ := by
  rw [flattenedMethods, if_pos hname, closureDeclarations_eq_ok_iff.2 hclosure]
  rfl

theorem flattenedMethods_of_root {declaration : InterfaceDeclaration} (hname : h.contains name = true)
    (hdeclaration : h.declaration? name = some declaration) (hparents : declaration.parents = [])
    (hbase : h.loggerBases.contains name = false) :
    h.flattenedMethods name = .ok ⟨firstByKey [] (methodsOf [declaration]), []⟩ := by
  have hwalk : h.walk name = ⟨[name], []⟩ := by
    refine walk_of_root hbase ?_
    rw [parents, hdeclaration]
    exact hparents
  have hclosure : (h.closure name).map h.declaration? = [declaration].map some := by
    rw [closure, hwalk, List.map_singleton, hdeclaration]
    rfl
  rw [flattenedMethods_of_declarations hname hclosure, delegatedOf, basesOf, hwalk]
  rfl

end Flattened

end Hierarchy

/-! ### Methods of an interface -/

namespace Model

/-- A flattened method as it stands in the interface, beside the others. -/
def methodOf (model : Model) (flattened : FlattenedMethods) (declared : InterfaceDeclaration × MethodDeclaration) :
    Method :=
  let methods := flattened.methods.map fun (declaring, method) =>
    Method.ofDeclaration model.catalog declaring.name method
  Method.amongSiblings methods (Method.ofDeclaration model.catalog declared.1.name declared.2)

theorem methods_assemble (model : Model) (declaration : InterfaceDeclaration) (flattened : FlattenedMethods) :
    (model.assemble declaration flattened).methods = flattened.methods.map (model.methodOf flattened) := by
  simp only [assemble, List.map_map]
  rfl

end Model

/-! ### Two interfaces -/

def upperInterface (methods : List MethodDeclaration) : InterfaceDeclaration :=
  { name := "a.Upper", kind := .bundle, methods }

def lowerInterface (methods : List MethodDeclaration) : InterfaceDeclaration :=
  { name := "a.Lower", kind := .bundle, parents := ["a.Upper"], methods }

def stacked (upper lower : List MethodDeclaration) : Batch :=
  { interfaces := [upperInterface upper, lowerInterface lower] }

namespace Stacked

variable {upper lower : List MethodDeclaration}

theorem faults_eq_nil : (stacked upper lower).faults = [] :=
  Batch.faults_eq_nil_iff.2
    { distinct := (by decide : ["a.Upper", "a.Lower"].Nodup)
      parents := by simp [stacked, upperInterface, lowerInterface, Batch.interfaceNames]
      distinctTypes := List.nodup_nil
      acyclic := fun name _ => not_own_ancestor_of_depth ["a.Upper", "a.Lower"].idxOf
        (by simp [stacked, upperInterface, lowerInterface]) name }

theorem walk_lower : (Hierarchy.ofBatch (stacked upper lower)).walk "a.Lower" = ⟨["a.Lower", "a.Upper"], []⟩ :=
  Hierarchy.walk_of_child rfl rfl (by decide) rfl rfl

theorem closure_lower :
    ((Hierarchy.ofBatch (stacked upper lower)).closure "a.Lower").map
      (Hierarchy.ofBatch (stacked upper lower)).declaration? =
        [lowerInterface lower, upperInterface upper].map some := by
  rw [Hierarchy.closure, walk_lower]
  rfl

theorem upper_mem_closure : "a.Upper" ∈ (Hierarchy.ofBatch (stacked upper lower)).closure "a.Lower" := by
  rw [Hierarchy.closure, walk_lower]
  decide

theorem flattenedMethods_upper :
    (Hierarchy.ofBatch (stacked upper lower)).flattenedMethods "a.Upper" =
      .ok ⟨firstByKey [] (Hierarchy.methodsOf [upperInterface upper]), []⟩ :=
  Hierarchy.flattenedMethods_of_root rfl rfl rfl rfl

theorem flattenedMethods_lower :
    (Hierarchy.ofBatch (stacked upper lower)).flattenedMethods "a.Lower" =
      .ok ⟨firstByKey [] (Hierarchy.methodsOf [lowerInterface lower, upperInterface upper]), []⟩ := by
  rw [Hierarchy.flattenedMethods_of_declarations rfl closure_lower, Hierarchy.delegatedOf, Hierarchy.basesOf, walk_lower]
  rfl

end Stacked

end TypedMessages

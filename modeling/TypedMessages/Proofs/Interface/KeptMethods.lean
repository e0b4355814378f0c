import TypedMessages.Proofs.Extension.Preorder
import TypedMessages.Proofs.Interface.Overrides

/-!
# The list of kept methods

Flattening goes through the closure of an interface, and in each of its members through the methods that the member declares. All these methods, one after the other, make one long list, and what flattening gives is read off it: from left to right it keeps the first method with each key. So the order is that of the long list, no key is kept twice, and none is lost. What is passed through is not thinned out: it is all that the logger bases declare, with whatever is repeated.
-/

namespace TypedMessages

/-! ### First of its key -/

section FirstByKey

variable {methods : List (InterfaceDeclaration × MethodDeclaration)}

theorem mem_keys_firstByKey {key : String} :
    key ∈ (firstByKey [] methods).map (·.2.signatureKey) ↔ key ∈ methods.map (·.2.signatureKey) := by
  constructor
  · intro hkey
    exact ((Hierarchy.firstByKey_sublist [] methods).map _).mem hkey
  · intro hkey
    obtain ⟨declared, hdeclared, rfl⟩ := List.mem_map.1 hkey
    obtain ⟨kept, hkept, hsame⟩ := exists_mem_firstByKey hdeclared List.not_mem_nil
    exact List.mem_map.2 ⟨kept, hkept, hsame⟩

/-- Where methods are listed member by member, what is kept stands first of its key in its member, and no member before has the key. -/
theorem exists_split_of_mem_firstByKey {members : List String}
    {methodsAt : String → List (InterfaceDeclaration × MethodDeclaration)} {kept : InterfaceDeclaration × MethodDeclaration}
    (hkept : kept ∈ firstByKey [] (members.flatMap methodsAt)) :
    ∃ before member after earlier later,
      members = before ++ member :: after ∧ methodsAt member = earlier ++ kept :: later ∧
        (∀ other ∈ before, kept.2.signatureKey ∉ (methodsAt other).map (·.2.signatureKey)) ∧
        kept.2.signatureKey ∉ earlier.map (·.2.signatureKey) := by
  have hfind := find?_of_mem_firstByKey hkept
  rw [List.find?_flatMap] at hfind
  obtain ⟨before, member, after, hmembers, hmember, hbefore⟩ := List.findSome?_eq_some_iff.1 hfind
  obtain ⟨_, earlier, later, hmethods, hearlier⟩ := List.find?_eq_some_iff_append.1 hmember
  refine ⟨before, member, after, earlier, later, hmembers, hmethods, fun other hother hkey => ?_, fun hkey => ?_⟩
  · obtain ⟨declared, hdeclared, hsame⟩ := List.mem_map.1 hkey
    have hnone := List.find?_eq_none.1 (hbefore other hother) declared hdeclared
    exact hnone (beq_iff_eq.2 hsame)
  · obtain ⟨declared, hdeclared, hsame⟩ := List.mem_map.1 hkey
    have hother := hearlier declared hdeclared
    rw [hsame, beq_self_eq_true] at hother
    exact Bool.false_ne_true hother

end FirstByKey

/-! ### The declared methods of a name -/

/-- The methods that the interface with a name declares, in their order; a name without a declaration has none. -/
def Batch.methodsDeclaredBy (batch : Batch) (name : String) : List (InterfaceDeclaration × MethodDeclaration) :=
  Hierarchy.methodsOf (batch.interfaces.filter (·.name == name))

section Declared

variable {batch : Batch} {name : String}

theorem Batch.methodsDeclaredBy_of_declared (hdistinct : batch.interfaceNames.Nodup) {declaration : InterfaceDeclaration}
    (hfind : (Hierarchy.ofBatch batch).declaration? name = some declaration) :
    batch.methodsDeclaredBy name = declaration.methods.map (declaration, ·) := by
  obtain ⟨hmem, hname⟩ := mem_of_findInterface? hfind
  rw [methodsDeclaredBy, ← hname, filter_key_eq_singleton hdistinct hmem, Hierarchy.methodsOf, List.flatMap_singleton]

theorem Batch.methodsDeclaredBy_of_undeclared (hfind : (Hierarchy.ofBatch batch).declaration? name = none) :
    batch.methodsDeclaredBy name = [] := by
  have hnone : batch.interfaces.filter (·.name == name) = [] := by
    rw [List.filter_eq_nil_iff]
    intro declaration hmem
    have hlast : declaration ∈ batch.interfaces.reverse := List.mem_reverse.2 hmem
    exact List.find?_eq_none.1 hfind declaration hlast
  rw [methodsDeclaredBy, hnone]
  rfl

namespace Hierarchy

theorem methodsOf_eq_flatMap (hdistinct : batch.interfaceNames.Nodup) {names : List String}
    {declarations : List InterfaceDeclaration}
    (hnames : names.map (ofBatch batch).declaration? = declarations.map some) :
    methodsOf declarations = names.flatMap batch.methodsDeclaredBy := by
  induction names generalizing declarations with
  | nil =>
    rw [List.map_eq_nil_iff.1 hnames.symm]
    rfl
  | cons name names ih =>
    cases declarations with
    | nil => cases hnames
    | cons declaration declarations =>
      obtain ⟨hfind, hrest⟩ := List.cons.inj hnames
      rw [List.flatMap_cons, Batch.methodsDeclaredBy_of_declared hdistinct hfind, ← ih hrest]
      rfl

theorem delegatedOf_eq_flatMap (hdistinct : batch.interfaceNames.Nodup) (name : String) :
    (ofBatch batch).delegatedOf name =
      ((ofBatch batch).basesOf name).flatMap fun base => (batch.methodsDeclaredBy base).map (·.2.signatureKey) := by
  unfold delegatedOf
  apply List.flatMap_congr
  intro base _
  cases hfind : (ofBatch batch).declaration? base with
  | none => rw [Batch.methodsDeclaredBy_of_undeclared hfind, List.map_nil]
  | some declaration =>
    rw [Batch.methodsDeclaredBy_of_declared hdistinct hfind, List.map_map]
    rfl

/-- Flattening gets through if the closure is declared, and reads what it gives off the declared methods. -/
theorem flattenedMethods_ofBatch (hdistinct : batch.interfaceNames.Nodup) (hname : (ofBatch batch).contains name = true)
    (hclosure : ∀ member ∈ (ofBatch batch).closure name, member ∈ batch.interfaceNames) :
    (ofBatch batch).flattenedMethods name =
      .ok ⟨firstByKey [] (((ofBatch batch).closure name).flatMap batch.methodsDeclaredBy),
        ((ofBatch batch).basesOf name).flatMap fun base => (batch.methodsDeclaredBy base).map (·.2.signatureKey)⟩ := by
  obtain ⟨declarations, hdeclarations⟩ := closureDeclarations_eq_ok (h := ofBatch batch) name hclosure
  have hfound := closureDeclarations_eq_ok_iff.1 hdeclarations
  rw [flattenedMethods_of_declarations hname hfound, methodsOf_eq_flatMap hdistinct hfound,
    delegatedOf_eq_flatMap hdistinct]

theorem declared_of_flattenedMethods {h : Hierarchy} {flattened : FlattenedMethods}
    (hok : h.flattenedMethods name = .ok flattened) : ∀ member ∈ h.closure name, member ∈ h.declaredNames := by
  obtain ⟨declarations, hclosure, _⟩ := exists_declarations_of_flattenedMethods hok
  intro member hmember
  have hfound : h.declaration? member ∈ declarations.map some := hclosure ▸ List.mem_map_of_mem hmember
  obtain ⟨declaration, _, hfind⟩ := List.mem_map.1 hfound
  exact mem_names_of_findInterface? hfind.symm

end Hierarchy

end Declared

/-! ### What is kept -/

/-- What an interface with the given closure and logger bases is flattened to: of the methods that the closure declares the first with each key, and the keys of all that the logger bases declare. -/
structure Batch.Flattens (batch : Batch) (members bases : List String) (flattened : FlattenedMethods) : Prop where
  keys_nodup : (flattened.methods.map (·.2.signatureKey)).Nodup
  mem_keys : ∀ key, key ∈ flattened.methods.map (·.2.signatureKey) ↔
    ∃ member ∈ members, key ∈ (batch.methodsDeclaredBy member).map (·.2.signatureKey)
  first : ∀ kept ∈ flattened.methods, ∃ before member after earlier later,
    members = before ++ member :: after ∧ batch.methodsDeclaredBy member = earlier ++ kept :: later ∧
      (∀ other ∈ before, kept.2.signatureKey ∉ (batch.methodsDeclaredBy other).map (·.2.signatureKey)) ∧
      kept.2.signatureKey ∉ earlier.map (·.2.signatureKey)
  order : flattened.methods.Sublist (members.flatMap batch.methodsDeclaredBy)
  delegated : flattened.delegated = bases.flatMap fun base => (batch.methodsDeclaredBy base).map (·.2.signatureKey)

open Hierarchy in
/-- **Flattening loses nothing and repeats nothing.** In a batch that declares no interface twice, a name of the hierarchy can be flattened exactly if its whole closure is declared. What it is flattened to has every key of the closure once, with the first method that is declared with it, in the order of the closure and of the declarations in it, and passes through all that the logger bases declare. -/
theorem flattening_exact (batch : Batch) (hdistinct : batch.interfaceNames.Nodup) (name : String) :
    ((ofBatch batch).contains name = true →
        ((∃ flattened, (ofBatch batch).flattenedMethods name = .ok flattened) ↔
          ∀ member ∈ (ofBatch batch).closure name, member ∈ batch.interfaceNames)) ∧
      ∀ flattened, (ofBatch batch).flattenedMethods name = .ok flattened →
        batch.Flattens ((ofBatch batch).closure name) ((ofBatch batch).basesOf name) flattened := by
  refine ⟨fun hname => ⟨?_, ?_⟩, ?_⟩
  · intro hflattens
    obtain ⟨flattened, hok⟩ := hflattens
    exact declared_of_flattenedMethods hok
  · intro hclosure
    exact ⟨_, flattenedMethods_ofBatch hdistinct hname hclosure⟩
  · intro flattened hok
    have heq := flattenedMethods_ofBatch hdistinct (contains_of_flattenedMethods hok) (declared_of_flattenedMethods hok)
    obtain rfl := Except.ok.inj (hok.symm.trans heq)
    exact
      { keys_nodup := nodup_keys_firstByKey ..
        mem_keys := fun key => by
          rw [mem_keys_firstByKey, List.map_flatMap, List.mem_flatMap]
        first := fun kept hkept => exists_split_of_mem_firstByKey hkept
        order := firstByKey_sublist ..
        delegated := rfl }

/-- Two ways up to an interface with a method that one of them declares twice again, and to a logger base. -/
def overlappingBatch : Batch :=
  { interfaces :=
      [{ name := "org.jboss.logging.BasicLogger", kind := .logger, methods := [{ name := "info" }] },
       { name := "a.Base", kind := .bundle, parents := ["org.jboss.logging.BasicLogger"], methods := [plainLoss "Lost"] },
       { name := "a.Left", kind := .bundle, parents := ["a.Base"],
         methods := [plainLoss "Lost to the left", plainLoss "Lost again"] },
       { name := "a.Right", kind := .bundle, parents := ["a.Base"], methods := [{ name := "found" }] },
       { name := "a.Bottom", kind := .bundle, parents := ["a.Left", "a.Right"] }] }

open Hierarchy in
theorem walk_overlappingBatch :
    (ofBatch overlappingBatch).walk "a.Bottom" =
      ⟨["a.Bottom", "a.Left", "a.Base", "a.Right"], ["org.jboss.logging.BasicLogger"]⟩ := by
  have hbottom : (ofBatch overlappingBatch).namesAbove "a.Bottom" = ["a.Left", "a.Right"] := by rfl
  have hleft : (ofBatch overlappingBatch).namesAbove "a.Left" = ["a.Base"] := by rfl
  have hright : (ofBatch overlappingBatch).namesAbove "a.Right" = ["a.Base"] := by rfl
  have hbase : (ofBatch overlappingBatch).namesAbove "a.Base" = ["org.jboss.logging.BasicLogger"] := by rfl
  have hlogger : (ofBatch overlappingBatch).namesAbove "org.jboss.logging.BasicLogger" = [] := by rfl
  have hvisited : (ofBatch overlappingBatch).preorder [] ["a.Bottom"] =
      ["a.Bottom", "a.Left", "a.Base", "org.jboss.logging.BasicLogger", "a.Right"] := by
    simp [preorder_new, preorder_known, preorder_nil, hbottom, hleft, hright, hbase, hlogger]
  rw [walk_eq_sortOut, hvisited]
  rfl

open Hierarchy in
theorem flattening_exact_overlappingBatch :
    overlappingBatch.interfaceNames.Nodup ∧ (ofBatch overlappingBatch).contains "a.Bottom" = true ∧
      ∃ flattened, (ofBatch overlappingBatch).flattenedMethods "a.Bottom" = .ok flattened ∧
        overlappingBatch.Flattens ["a.Bottom", "a.Left", "a.Base", "a.Right"] ["org.jboss.logging.BasicLogger"] flattened ∧
        flattened.delegated = ["info(): void"] := by
  have hdistinct : overlappingBatch.interfaceNames.Nodup := by decide
  have hname : (ofBatch overlappingBatch).contains "a.Bottom" = true := by decide
  obtain ⟨hiff, hexact⟩ := flattening_exact overlappingBatch hdistinct "a.Bottom"
  rw [Hierarchy.closure, basesOf, walk_overlappingBatch] at hexact
  rw [Hierarchy.closure, walk_overlappingBatch] at hiff
  obtain ⟨flattened, hok⟩ := (hiff hname).2 (by decide)
  have hflattens := hexact flattened hok
  refine ⟨hdistinct, hname, flattened, hok, hflattens, ?_⟩
  rw [hflattens.delegated]
  rfl

end TypedMessages

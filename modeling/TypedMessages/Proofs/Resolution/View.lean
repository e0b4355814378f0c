import TypedMessages.Proofs.Interface.Flattening
import TypedMessages.Proofs.Report.Completion

/-!
# Views of a method

A method is resolved once for each interface that keeps it, beside the methods that this interface keeps. A view is what an interface is flattened to together with the resolutions, so that the resolutions of one declared method by several interfaces can be compared.
-/

namespace TypedMessages

/-- What an interface is flattened to, and how it is resolved. -/
structure Model.View (model : Model) (name : String) where
  flattened : FlattenedMethods
  resolved : ResolvedInterface
  flattens : model.hierarchy.flattenedMethods name = .ok flattened
  resolves : model.resolve name = .ok resolved

namespace Model.View

variable {model : Model} {name : String}

/-- The methods as they are declared, each with its resolution. -/
def resolutions (view : model.View name) : List ((InterfaceDeclaration × MethodDeclaration) × Resolution) :=
  view.flattened.methods.zip view.resolved.resolutions

theorem exists_resolved_eq (view : model.View name) :
    ∃ declaration, view.resolved = model.hierarchy.resolve (model.assemble declaration view.flattened) := by
  obtain ⟨interface, hinterface, hresolved⟩ := resolve_eq_ok_iff.1 view.resolves
  obtain ⟨declaration, flattened, _, hflattened, rfl⟩ := interface_eq_ok_iff.1 hinterface
  cases hflattened.symm.trans view.flattens
  exact ⟨declaration, hresolved.symm⟩

theorem exists_resolutions_eq (view : model.View name) :
    ∃ declaration, view.resolutions = view.flattened.methods.map fun declared => (declared,
      model.hierarchy.resolveMethod (model.assemble declaration view.flattened)
        (model.methodOf view.flattened declared)) := by
  obtain ⟨declaration, hresolved⟩ := view.exists_resolved_eq
  refine ⟨declaration, ?_⟩
  rw [resolutions, hresolved, Hierarchy.resolve, methods_assemble, List.map_map, ← List.map_prod_left_eq_zip]
  rfl

theorem mem_resolutions {view : model.View name} {declared : InterfaceDeclaration × MethodDeclaration}
    {resolution : Resolution} (hmem : (declared, resolution) ∈ view.resolutions) :
    declared ∈ view.flattened.methods ∧ ∃ declaration, resolution = model.hierarchy.resolveMethod
      (model.assemble declaration view.flattened) (model.methodOf view.flattened declared) := by
  obtain ⟨declaration, hmap⟩ := view.exists_resolutions_eq
  rw [hmap] at hmem
  obtain ⟨_, hdeclared, heq⟩ := List.mem_map.1 hmem
  cases heq
  exact ⟨hdeclared, declaration, rfl⟩

theorem exists_mem_resolutions (view : model.View name) {declared : InterfaceDeclaration × MethodDeclaration}
    (hmem : declared ∈ view.flattened.methods) : ∃ resolution, (declared, resolution) ∈ view.resolutions := by
  obtain ⟨declaration, hmap⟩ := view.exists_resolutions_eq
  rw [hmap]
  exact ⟨_, List.mem_map_of_mem hmem⟩

theorem nonempty {batch : Batch} (h : batch.NamesResolved) (hname : name ∈ batch.interfaceNames) :
    Nonempty ((Model.ofBatch batch).View name) := by
  obtain ⟨interface, hinterface⟩ := interface_eq_ok h hname
  obtain ⟨_, flattened, _, hflattened, _⟩ := interface_eq_ok_iff.1 hinterface
  exact ⟨⟨flattened, _, hflattened, resolve_eq_ok_iff.2 ⟨interface, hinterface, rfl⟩⟩⟩

end Model.View

end TypedMessages

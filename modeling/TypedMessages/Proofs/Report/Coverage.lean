import TypedMessages.Proofs.Extension.WellFormed
import TypedMessages.Proofs.Report.Completion

/-!
# Nothing is left out of a report

A batch without faults is never abandoned: whatever its methods, formats and types are, every declared interface can be processed, and the run gives a report. The report has one part for each declared interface that is no logger base, in the order of declaration, and that part has one descriptor for each flattened method, in their order.
-/

namespace TypedMessages

/-- The descriptor is that of a method as an interface declares it, seen from the interface that is resolved. -/
structure Descriptor.Describes (catalog : Catalog) (interface : String)
    (declared : InterfaceDeclaration × MethodDeclaration) (descriptor : Descriptor) : Prop where
  interface : descriptor.interface = interface
  declaring : descriptor.declaringInterface = declared.1.name
  name : descriptor.name = declared.2.name
  parameters : descriptor.parameters = declared.2.parameters.map (Parameter.ofDeclaration catalog)
  returnType : descriptor.returnType = catalog.returnType declared.2.returnType declared.2.signature
  logLevel : descriptor.logLevel = declared.2.logLevel

/-- Neither the methods beside it nor its resolution change what a method is declared as. -/
theorem forall₂_describes_assemble (model : Model) (declaration : InterfaceDeclaration) (flattened : FlattenedMethods) :
    List.Forall₂ (Descriptor.Describes model.catalog declaration.name) flattened.methods
      ((model.hierarchy.resolve (model.assemble declaration flattened)).resolutions.map (·.descriptor)) := by
  simp only [Hierarchy.resolve, Model.assemble, List.map_map]
  rw [List.forall₂_map_right_iff, List.forall₂_same]
  intro declared _
  exact { interface := rfl, declaring := rfl, name := rfl, parameters := rfl, returnType := rfl, logLevel := rfl }

/-- An interface that can be resolved has a descriptor for each of its flattened methods. -/
theorem Model.forall₂_describes_of_resolve {model : Model} {name : String} {resolved : ResolvedInterface}
    (h : model.resolve name = .ok resolved) :
    ∃ flattened, model.hierarchy.flattenedMethods name = .ok flattened ∧
      List.Forall₂ (Descriptor.Describes model.catalog name) flattened.methods
        (resolved.resolutions.map (·.descriptor)) := by
  obtain ⟨interface, hinterface, rfl⟩ := Model.resolve_eq_ok_iff.1 h
  have hname := Model.name_of_interface hinterface
  obtain ⟨declaration, flattened, _, hflattened, rfl⟩ := Model.interface_eq_ok_iff.1 hinterface
  refine ⟨flattened, hflattened, ?_⟩
  rw [← hname]
  exact forall₂_describes_assemble model declaration flattened

theorem Session.exists_process {batch : Batch} (h : batch.NamesResolved) {name : String}
    (hname : name ∈ batch.interfaceNames) : ∃ outcome, (Session.ofBatch batch).process name = .ok outcome := by
  obtain ⟨interface, hinterface⟩ := Model.interface_eq_ok h hname
  have hresolve := Model.resolve_eq_ok_iff.2 ⟨interface, hinterface, rfl⟩
  exact ⟨_, map_eq_ok_iff.2 ⟨_, hresolve, rfl⟩⟩

/-- **A batch without faults is never abandoned.** Every interface that it declares can be processed, so no error of the engine is ever met, and the run gives a report: one part for each declared interface that is no logger base, in the order of declaration, each with one descriptor for each method that its interface is flattened to, in the order of these methods. -/
theorem run_covers_batch (batch : Batch) (hfaults : batch.faults = []) :
    (∀ name ∈ batch.interfaceNames, ∃ outcome, (Session.ofBatch batch).process name = .ok outcome) ∧
      ∃ report, (Session.ofBatch batch).run = .ok report ∧
        report.interfaces.map (·.interface) = batch.interfaceNames.filter (!batch.options.isLoggerBase ·) ∧
        (report.interfaces.map (·.interface)).Nodup ∧
        ∀ shard ∈ report.interfaces, ∃ flattened,
          (Hierarchy.ofBatch batch).flattenedMethods shard.interface = .ok flattened ∧
          List.Forall₂ (Descriptor.Describes (Model.ofBatch batch).catalog shard.interface)
            flattened.methods shard.descriptors := by
  have hresolvable := Batch.namesResolved_of_faults hfaults
  refine ⟨fun name hname => Session.exists_process hresolvable hname, ?_⟩
  obtain ⟨resolved, hresolved, hdistinct, hrun⟩ := Session.run_eq_ok hresolvable
  have hreported : (resolved.map ((Session.ofBatch batch).reportOf resolved)).map (·.interface) =
      resolved.map (·.interface.name) := List.map_map
  refine ⟨_, hrun, ?_, ?_, ?_⟩
  · rw [hreported, Model.names_of_mapM_resolve hresolved]
    rfl
  · rw [hreported]
    exact hdistinct
  · intro shard hshard
    obtain ⟨r, hr, rfl⟩ := List.mem_map.1 hshard
    exact Model.forall₂_describes_of_resolve (Model.resolve_of_mem hresolved hr)

/-- A logger base that is declared, and a logger that comes to one below it on two ways. A format cannot be read and a method has no message. -/
def diamond : Batch :=
  { interfaces :=
      [{ name := "base", kind := .logger, methods := [{ name := "flush" }] },
       { name := "a.Top", kind := .logger, parents := ["base"],
         methods := [{ name := "started", message := some { value := "%q" } }] },
       { name := "a.Left", kind := .logger, parents := ["a.Top"] },
       { name := "a.Right", kind := .logger, parents := ["a.Top"], methods := [{ name := "stopped" }] },
       { name := "a.Bottom", kind := .logger, parents := ["a.Left", "a.Right"] }]
    options := { loggerBases := ["base"] } }

theorem run_covers_batch_diamond :
    diamond.faults = [] ∧ ∃ report, (Session.ofBatch diamond).run = .ok report ∧
      report.interfaces.map (·.interface) = ["a.Top", "a.Left", "a.Right", "a.Bottom"] := by
  have hfaults : diamond.faults = [] := Batch.faults_eq_nil_iff.2
    { distinct := by decide
      parents := by decide
      distinctTypes := by decide
      acyclic := fun name _ => not_own_ancestor_of_depth diamond.interfaceNames.idxOf (by decide) name }
  obtain ⟨_, report, hrun, hnames, _⟩ := run_covers_batch diamond hfaults
  have hdeclared : diamond.interfaceNames.filter (!diamond.options.isLoggerBase ·) =
      ["a.Top", "a.Left", "a.Right", "a.Bottom"] := by decide
  exact ⟨hfaults, report, hrun, hnames.trans hdeclared⟩

end TypedMessages

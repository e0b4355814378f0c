import TypedMessages.Check.Message
import TypedMessages.Proofs.Extension.WellFormed
import TypedMessages.Proofs.Interface.Flattening
import TypedMessages.Proofs.Report.Completion

/-!
# What a signature tells apart

The signature of a method leaves out what the method returns, but methods are taken for the same only if they return the same. So two methods of an interface can have one signature, and then they differ in their result; a signature together with the result tells methods apart.
-/

namespace TypedMessages

/-- A signature key is a signature with what the method is declared to return. -/
theorem signatureKey_eq (catalog : Catalog) (declaring : String) (declaration : MethodDeclaration) :
    declaration.signatureKey =
      (Method.ofDeclaration catalog declaring declaration).signature ++ (": " ++ declaration.returnType) := by
  have htypes : (Method.ofDeclaration catalog declaring declaration).parameters.map Parameter.displayType =
      declaration.parameters.map fun parameter =>
        displayType parameter.typeName parameter.array parameter.varargs := by
    simp only [Method.ofDeclaration, List.map_map]
    rfl
  rw [MethodDeclaration.signatureKey, Method.signature, htypes]
  simp only [Method.ofDeclaration, String.append_assoc]
  rfl

/-- The name that a return type is declared with. -/
def ReturnType.declaredName (catalog : Catalog) : ReturnType → String
  | void => catalog.roots.voidType
  | string name => name
  | throwable type => type.name
  | other name => name

theorem declaredName_returnType (catalog : Catalog) (name : String) (signature : Option ConstructionSignature) :
    (catalog.returnType name signature).declaredName catalog = name := by
  unfold Catalog.returnType
  split
  · next hvoid => exact (beq_iff_eq.1 hvoid).symm
  · split
    · rfl
    · split <;> rfl

namespace Model

variable {model : Model} {name : String} {flattened : FlattenedMethods}

theorem signatureKey_eq_methodOf (model : Model) (flattened : FlattenedMethods)
    (declared : InterfaceDeclaration × MethodDeclaration) :
    declared.2.signatureKey = (model.methodOf flattened declared).signature ++
      (": " ++ (model.methodOf flattened declared).returnType.declaredName model.catalog) := by
  have hreturn : (model.methodOf flattened declared).returnType.declaredName model.catalog = declared.2.returnType :=
    declaredName_returnType ..
  rw [hreturn]
  exact signatureKey_eq model.catalog declared.1.name declared.2

theorem nodup_signatures_returnTypes (declaration : InterfaceDeclaration)
    (h : model.hierarchy.flattenedMethods name = .ok flattened) :
    ((model.assemble declaration flattened).methods.map fun method => (method.signature, method.returnType)).Nodup := by
  have hkeys := Hierarchy.nodup_signatureKeys h
  rw [methods_assemble, List.map_map]
  refine (hkeys.of_map _).map_on fun left hleft right hright hsame => ?_
  obtain ⟨hsignature, hreturn⟩ := Prod.mk.inj hsame
  refine List.inj_on_of_nodup_map hkeys hleft hright ?_
  rw [signatureKey_eq_methodOf model flattened left, hsignature, hreturn, ← signatureKey_eq_methodOf]

end Model

/-! ### One interface -/

section Interface

variable {interface : MessageInterface}
  (hpairs : (interface.methods.map fun method => (method.signature, method.returnType)).Nodup)

include hpairs

theorem nodup_signatures_iff :
    (interface.methods.map Method.signature).Nodup ↔
      ∀ left ∈ interface.methods, ∀ right ∈ interface.methods, left.signature = right.signature →
        left.returnType = right.returnType := by
  rw [List.nodup_map_iff_inj_on (hpairs.of_map _)]
  constructor
  · intro hinjective left hleft right hright hsame
    rw [hinjective left hleft right hright hsame]
  · intro hreturn left hleft right hright hsame
    exact List.inj_on_of_nodup_map hpairs hleft hright (Prod.ext hsame (hreturn left hleft right hright hsame))

theorem nodup_signatures_iff_subjects :
    (interface.methods.map Method.signature).Nodup ↔
      ∀ left ∈ interface.methods, ∀ right ∈ interface.methods, ∀ problem other : Problem,
        (Diagnostic.ofMethod interface left problem).subject = (Diagnostic.ofMethod interface right other).subject →
          left = right := by
  have hsubject : ∀ (left right : Method) (problem other : Problem),
      (Diagnostic.ofMethod interface left problem).subject = (Diagnostic.ofMethod interface right other).subject ↔
        left.signature = right.signature := by
    simp [Diagnostic.ofMethod]
  simp only [List.nodup_map_iff_inj_on (hpairs.of_map _), hsubject]
  constructor
  · exact fun hinjective left hleft right hright _ _ => hinjective left hleft right hright
  · exact fun hinjective left hleft right hright => hinjective left hleft right hright .loggerResult .loggerResult

end Interface

/-! ### The interfaces of a batch -/

/-- **When signatures tell methods apart.** In every interface that a batch without faults is processed for, no two methods have one signature and the same result. The signatures alone are distinct exactly if methods with one signature return the same, and exactly then a diagnostic about a method names that method alone. -/
theorem nodup_signatures_iff_sameResult (batch : Batch) (hfaults : batch.faults = []) {name : String}
    (hname : name ∈ (Session.ofBatch batch).interfaceNames) :
    ∃ interface, (Model.ofBatch batch).interface name = .ok interface ∧
      (interface.methods.map fun method => (method.signature, method.returnType)).Nodup ∧
      ((interface.methods.map Method.signature).Nodup ↔
        ∀ left ∈ interface.methods, ∀ right ∈ interface.methods, left.signature = right.signature →
          left.returnType = right.returnType) ∧
      ((interface.methods.map Method.signature).Nodup ↔
        ∀ left ∈ interface.methods, ∀ right ∈ interface.methods, ∀ problem other : Problem,
          (Diagnostic.ofMethod interface left problem).subject =
            (Diagnostic.ofMethod interface right other).subject → left = right) := by
  obtain ⟨interface, hinterface⟩ :=
    Model.interface_eq_ok (Batch.namesResolved_of_faults hfaults) (List.mem_filter.1 hname).1
  obtain ⟨declaration, flattened, _, hflattened, rfl⟩ := Model.interface_eq_ok_iff.1 hinterface
  have hpairs := Model.nodup_signatures_returnTypes declaration hflattened
  exact ⟨_, hinterface, hpairs, nodup_signatures_iff hpairs, nodup_signatures_iff_subjects hpairs⟩

/-- Two exceptions of one name, and one of them declared again in an interface below, with a result of its own. -/
def redeclared (result : String) : Batch :=
  stacked
    [{ name := "failed", returnType := "java.lang.Exception", message := some { value := "Failed" } },
     { name := "failed", returnType := "java.lang.Exception", message := some { value := "Failed in %s" },
       parameters := [{ name := "place", typeName := "java.lang.String" }] }]
    [{ name := "failed", returnType := result, message := some { value := "Failed again" } }]

theorem signatures_redeclared {result : String} {interface : MessageInterface}
    (h : (Model.ofBatch (redeclared result)).interface "a.Lower" = .ok interface) :
    interface.methods.map Method.signature =
      (firstByKey [] (Hierarchy.methodsOf (redeclared result).interfaces.reverse)).map fun (declaring, method) =>
        (Method.ofDeclaration (Model.ofBatch (redeclared result)).catalog declaring.name method).signature := by
  obtain ⟨declaration, flattened, _, hflattened, rfl⟩ := Model.interface_eq_ok_iff.1 h
  cases hflattened.symm.trans Stacked.flattenedMethods_lower
  rw [Model.methods_assemble, List.map_map]
  rfl

theorem nodup_signatures_iff_sameResult_redeclared :
    (redeclared "java.lang.Exception").faults = [] ∧
      "a.Lower" ∈ (Session.ofBatch (redeclared "java.lang.Exception")).interfaceNames ∧
      ∃ interface, (Model.ofBatch (redeclared "java.lang.Exception")).interface "a.Lower" = .ok interface ∧
        interface.methods.map Method.signature = ["failed()", "failed(java.lang.String)"] ∧
        ∀ left ∈ interface.methods, ∀ right ∈ interface.methods, ∀ problem other : Problem,
          (Diagnostic.ofMethod interface left problem).subject =
            (Diagnostic.ofMethod interface right other).subject → left = right := by
  have hname : "a.Lower" ∈ (Session.ofBatch (redeclared "java.lang.Exception")).interfaceNames := by decide
  obtain ⟨interface, hinterface, _, _, hsubjects⟩ := nodup_signatures_iff_sameResult _ Stacked.faults_eq_nil hname
  have hsignatures : interface.methods.map Method.signature = ["failed()", "failed(java.lang.String)"] := by
    rw [signatures_redeclared hinterface]
    decide +kernel
  refine ⟨Stacked.faults_eq_nil, hname, interface, hinterface, hsignatures, hsubjects.1 ?_⟩
  rw [hsignatures]
  decide

/-- With another result the method is there twice, under one signature. -/
theorem not_nodup_signatures_redeclared :
    (redeclared "java.lang.RuntimeException").faults = [] ∧
      "a.Lower" ∈ (Session.ofBatch (redeclared "java.lang.RuntimeException")).interfaceNames ∧
      ∃ interface, (Model.ofBatch (redeclared "java.lang.RuntimeException")).interface "a.Lower" = .ok interface ∧
        interface.methods.map Method.signature = ["failed()", "failed()", "failed(java.lang.String)"] ∧
        ¬ (interface.methods.map Method.signature).Nodup := by
  have hname : "a.Lower" ∈ (Session.ofBatch (redeclared "java.lang.RuntimeException")).interfaceNames := by decide
  obtain ⟨interface, hinterface⟩ :=
    Model.interface_eq_ok (Batch.namesResolved_of_faults Stacked.faults_eq_nil) (List.mem_filter.1 hname).1
  have hsignatures : interface.methods.map Method.signature = ["failed()", "failed()", "failed(java.lang.String)"] := by
    rw [signatures_redeclared hinterface]
    decide +kernel
  refine ⟨Stacked.faults_eq_nil, hname, interface, hinterface, hsignatures, ?_⟩
  rw [hsignatures]
  decide

end TypedMessages

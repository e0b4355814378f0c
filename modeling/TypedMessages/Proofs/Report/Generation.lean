import TypedMessages.Proofs.Check.Failures
import TypedMessages.Proofs.Interface.Flattening
import TypedMessages.Proofs.Report.Completion
import TypedMessages.Proofs.Resolution.Completeness
import TypedMessages.Proofs.Types.Collecting

/-!
# What generation can rely on

Code is generated from a report without errors. Every descriptor in such a report is complete: each part that it could lack is watched by one check, and where a check leaves a failure to another one, that one reports it.
-/

namespace TypedMessages

/-- The message of a method with everything it is shown with: it has an id of its own, it can be read, all arguments are supplied and suit it, and its translations take the same arguments. -/
structure Message.Suits (catalog : Catalog) (method : Method) (message : Message) : Prop where
  id : message.id ≠ .inherited
  text : ∃ (parts : List Part) (arguments : List FormatArgument),
    parseFormat message.format message.text = .ok parts ∧ method.formatArguments = arguments.map some ∧
    argumentFault? message.format parts (arguments.map (·.argumentType catalog)) = none
  translations : ∀ translation ∈ method.translations,
    translationFault? message.format message.text translation.2 = none

/-- What the generator relies on for a method of an interface and its descriptor. -/
structure Generatable (catalog : Catalog) (interface : MessageInterface) (method : Method) (descriptor : Descriptor) :
    Prop where
  isValid : descriptor.isValid = true
  message : ∃ message, descriptor.message = some message ∧ message.Suits catalog method
  causes : (method.parameters.filter (·.role == .cause)).length ≤ 1
  logResult : interface.kind = .logger → method.logLevel.isSome = true → method.returnType = .void
  result : ¬ (interface.kind = .logger ∧ method.logLevel.isSome = true) →
    (∃ name, method.returnType = .string name) ∨ ∃ type, method.returnType = .throwable type
  construction : descriptor.construction.isSome = true ↔ ∃ type, method.returnType = .throwable type

namespace ReturnType

theorem eq_void_of_isVoid {type : ReturnType} (h : type.isVoid = true) : type = .void := by
  cases type with
  | void => rfl
  | string | throwable | other => cases h

theorem string_or_throwable_of_isMessageValue {type : ReturnType} (h : type.isMessageValue = true) :
    (∃ name, type = .string name) ∨ ∃ thrown, type = .throwable thrown := by
  cases type with
  | string name => exact Or.inl ⟨name, rfl⟩
  | throwable thrown => exact Or.inr ⟨thrown, rfl⟩
  | void | other => cases h

theorem isSome_throwable?_iff {type : ReturnType} :
    type.throwable?.isSome = true ↔ ∃ thrown, type = .throwable thrown := by
  cases type <;> simp [throwable?]

end ReturnType

/-! ### One interface -/

section Interface

variable {h : Hierarchy} {interface : MessageInterface} {method : Method}

/-- Every failure is reported as an error by one of three checks. -/
theorem failures_eq_nil_of_silent (hcounts : Silent (Check.parameterCounts (h.resolve interface)))
    (hconstructors : Silent (Check.exceptionConstructors (h.resolve interface)))
    (hresolutions : Silent (Check.resolutions (h.resolve interface))) (hmethod : method ∈ interface.methods) :
    (h.resolveMethod interface method).failures = [] := by
  have hresolved := h.mem_methods_resolve hmethod
  by_contra hfailures
  obtain ⟨check, hcheck, diagnostic, hmem, herror⟩ := Check.exists_error_of_failures_ne_nil hfailures
  have hnone : diagnostic.isError = false := by
    simp only [Check.failureChecks, List.mem_cons, List.not_mem_nil, or_false] at hcheck
    rcases hcheck with rfl | rfl | rfl
    · exact silent_flatMap.1 hcounts _ hresolved diagnostic hmem
    · exact silent_flatMap.1 hconstructors method hmethod diagnostic hmem
    · exact silent_flatMap.1 hresolutions _ hresolved diagnostic hmem
  rw [herror] at hnone
  cases hnone

variable {session : Session}

theorem Session.silent_run {resolved : ResolvedInterface} (hsilent : Silent (session.interfaceDiagnostics [resolved]))
    {check : Check} (hcheck : check ∈ Check.withScope .interface session.checks) :
    Silent (check.run session.context [resolved]) :=
  silent_flatMap.1 hsilent check hcheck

theorem suits_of_silent {catalog : Catalog} {strict : Bool} {message : Message}
    (hformats : Silent (Check.formats catalog strict (h.resolve interface)))
    (htranslations : Silent (Check.translations (h.resolve interface))) (hmethod : method ∈ interface.methods)
    (hcount : method.CountsSlots) (hid : message.id ≠ .inherited)
    (hmessage : (h.resolveMethod interface method).descriptor.message = some message) :
    message.Suits catalog method := by
  have hresolved := h.mem_methods_resolve hmethod
  obtain ⟨parts, hparts, hpositions, hfault⟩ :=
    Check.messageFormat_of_silent (Check.silent_messageFormat_of_silent hformats hresolved hmessage)
  obtain ⟨arguments, harguments⟩ := Method.exists_formatArguments hcount hpositions
  refine ⟨hid, ⟨parts, arguments, hparts, harguments, ?_⟩, fun translation htranslation => ?_⟩
  · rw [harguments, List.filterMap_map] at hfault
    simpa using hfault
  · exact Check.translationFault?_eq_none_of_silent htranslations hresolved hmessage htranslation

theorem generatable_of_silent (hchecks : session.checks = Check.pipeline)
    (hsilent : Silent (session.interfaceDiagnostics [h.resolve interface])) (hmethod : method ∈ interface.methods)
    (hcount : method.CountsSlots) :
    Generatable session.model.catalog interface method (h.resolveMethod interface method).descriptor := by
  have hrun (check : Check) (hscope : check ∈ Check.withScope .interface Check.pipeline) :
      Silent (check.run session.context [h.resolve interface]) :=
    Session.silent_run hsilent (hchecks ▸ hscope)
  have hresults := hrun .returnType (by decide)
  have hconstructors := hrun .exceptionConstructor (by decide)
  have hcounts := hrun .parameterCount (by decide)
  have hcauses := hrun .cause (by decide)
  have hformats := hrun .format (by decide)
  have hresolutions := hrun .resolution (by decide)
  have htranslations := hrun .translation (by decide)
  simp only [Check.run, List.flatMap_singleton] at hresults hconstructors hcounts hcauses hformats hresolutions htranslations
  have hfailures := failures_eq_nil_of_silent hcounts hconstructors hresolutions hmethod
  obtain ⟨hvalid, ⟨message, hmessage, hid⟩, hconstruction⟩ := Hierarchy.complete_of_failures_eq_nil hfailures
  have hreturn := Check.returnType_of_silent hresults hmethod
  have hsuits := suits_of_silent hformats htranslations hmethod hcount hid hmessage
  refine
    { isValid := hvalid
      message := ⟨message, hmessage, hsuits⟩
      causes := ?_
      logResult := fun hkind hlevel => ?_
      result := fun hnolog => ?_
      construction := ?_ }
  · rw [← method.parametersWith_eq_filter (by decide)]
    exact Check.length_causes_of_silent hcauses hmethod
  · have hlog : (interface.isLogger && method.isLoggerMethod) = true := by
      simp [MessageInterface.isLogger, Method.isLoggerMethod, hkind, hlevel]
    have hvoid : method.returnType.isVoid = true := by simpa [Hierarchy.resolve, hlog] using hreturn
    exact ReturnType.eq_void_of_isVoid hvoid
  · have hlog : (interface.isLogger && method.isLoggerMethod) = false := by
      simpa [MessageInterface.isLogger, Method.isLoggerMethod] using hnolog
    have hvalue : method.returnType.isMessageValue = true := by simpa [Hierarchy.resolve, hlog] using hreturn
    exact ReturnType.string_or_throwable_of_isMessageValue hvalue
  · rw [hconstruction]
    exact ReturnType.isSome_throwable?_iff

end Interface

/-! ### The report of a batch -/

theorem exists_silent_of_generationAllowed {batch : Batch} (hfaults : batch.faults = []) :
    ∃ report, (Session.ofBatch batch).run = .ok report ∧
      ∀ shard ∈ report.interfaces, shard.generationAllowed = true →
        ∃ declaration flattened, (Hierarchy.ofBatch batch).flattenedMethods shard.interface = .ok flattened ∧
          (Model.ofBatch batch).interface shard.interface = .ok ((Model.ofBatch batch).assemble declaration flattened) ∧
          shard.descriptors = ((Hierarchy.ofBatch batch).resolve
            ((Model.ofBatch batch).assemble declaration flattened)).resolutions.map (·.descriptor) ∧
          ∀ check ∈ Check.withScope .interface Check.pipeline, Silent (check.run (Session.ofBatch batch).context
            [(Hierarchy.ofBatch batch).resolve ((Model.ofBatch batch).assemble declaration flattened)]) := by
  obtain ⟨resolved, hresolved, _, hrun⟩ := Session.run_eq_ok (Batch.namesResolved_of_faults hfaults)
  refine ⟨_, hrun, fun shard hshard hallowed => ?_⟩
  obtain ⟨r, hr, rfl⟩ := List.mem_map.1 hshard
  have hown := Model.resolve_of_mem hresolved hr
  obtain ⟨interface, hinterface, rfl⟩ := Model.resolve_eq_ok_iff.1 hown
  obtain ⟨declaration, flattened, _, hflattened, rfl⟩ := Model.interface_eq_ok_iff.1 hinterface
  obtain ⟨hsilent, _⟩ := silent_append.1 (InterfaceReport.silent_of_generationAllowed hallowed)
  exact ⟨declaration, flattened, hflattened, hinterface, rfl, fun check hcheck => Session.silent_run hsilent hcheck⟩

/-- **What is generated is complete.** A batch without faults has a report, and in every report of an interface that allows generation each descriptor is the one that its method is resolved to, with all that the generator relies on. -/
theorem generatable_of_generationAllowed (batch : Batch) (hfaults : batch.faults = []) :
    ∃ report, (Session.ofBatch batch).run = .ok report ∧
      ∀ shard ∈ report.interfaces, shard.generationAllowed = true →
        ∃ interface, (Model.ofBatch batch).interface shard.interface = .ok interface ∧
          shard.descriptors = interface.methods.map
            (fun method => ((Hierarchy.ofBatch batch).resolveMethod interface method).descriptor) ∧
          ∀ method ∈ interface.methods, Generatable (Model.ofBatch batch).catalog interface method
            ((Hierarchy.ofBatch batch).resolveMethod interface method).descriptor := by
  obtain ⟨resolved, hresolved, _, hrun⟩ := Session.run_eq_ok (Batch.namesResolved_of_faults hfaults)
  refine ⟨_, hrun, fun shard hshard hallowed => ?_⟩
  obtain ⟨r, hr, rfl⟩ := List.mem_map.1 hshard
  have hown := Model.resolve_of_mem hresolved hr
  obtain ⟨interface, hinterface, rfl⟩ := Model.resolve_eq_ok_iff.1 hown
  refine ⟨interface, hinterface, List.map_map, fun method hmethod => ?_⟩
  have hchecks : (Session.ofBatch batch).checks = Check.pipeline := rfl
  obtain ⟨hsilent, _⟩ := silent_append.1 (InterfaceReport.silent_of_generationAllowed hallowed)
  have hcounts := Model.countsSlots_of_mem hinterface hmethod
  exact generatable_of_silent hchecks hsilent hmethod hcounts

/-! ### A logger of transfers -/

/-- A logger that logs transfers, with a translation, and makes exceptions of those that are refused. -/
def transferLogger : InterfaceDeclaration :=
  { name := "a.Transfers", kind := .logger, projectCode := "TRF"
    methods :=
      [{ name := "done", logLevel := some .info, message := some { value := "Moved %d to %s", id := .explicit 1 }
         parameters := [{ name := "amount", typeName := "int" }, { name := "account", typeName := "java.lang.String" }]
         translations := [("de", "%2$s bekommt %1$d")] },
       { name := "refused", returnType := "java.lang.IllegalStateException"
         message := some { value := "Account {0} is locked", format := .messageFormat, id := .explicit 2 }
         parameters :=
           [{ name := "account", typeName := "java.lang.String" },
            { name := "reason", typeName := "java.lang.Exception", cause := true }] }] }

def transferBatch : Batch :=
  { interfaces := [transferLogger] }

def transferInterface : MessageInterface :=
  (Model.ofBatch transferBatch).assemble transferLogger ⟨firstByKey [] (Hierarchy.methodsOf [transferLogger]), []⟩

theorem interface_transferBatch : (Model.ofBatch transferBatch).interface "a.Transfers" = .ok transferInterface := by
  have hflattened : (Hierarchy.ofBatch transferBatch).flattenedMethods "a.Transfers" =
      .ok ⟨firstByKey [] (Hierarchy.methodsOf [transferLogger]), []⟩ :=
    Hierarchy.flattenedMethods_of_root rfl rfl rfl rfl
  exact Model.interface_eq_ok_iff.2 ⟨transferLogger, _, rfl, hflattened, rfl⟩

def transferReport : InterfaceReport :=
  let resolved := (Hierarchy.ofBatch transferBatch).resolve transferInterface
  (Session.ofBatch transferBatch).reportOf [resolved] resolved

theorem generatable_of_generationAllowed_transfers :
    transferBatch.faults = [] ∧ ∃ report, (Session.ofBatch transferBatch).run = .ok report ∧
      ∃ shard ∈ report.interfaces, shard.generationAllowed = true ∧
        shard.descriptors.map (fun descriptor => (descriptor.name, descriptor.construction)) =
          [("done", none), ("refused", some .messageAndCause)] ∧
        ∀ method ∈ transferInterface.methods, Generatable (Model.ofBatch transferBatch).catalog transferInterface method
          ((Hierarchy.ofBatch transferBatch).resolveMethod transferInterface method).descriptor := by
  have hfaults : transferBatch.faults = [] := by cbv
  obtain ⟨report, hrun, hall⟩ := generatable_of_generationAllowed transferBatch hfaults
  have hresolve := Model.resolve_eq_ok_iff.2 ⟨_, interface_transferBatch, rfl⟩
  have hnames := Batch.namesResolved_of_faults hfaults
  have hreport : (Session.ofBatch transferBatch).run = .ok ⟨[transferReport]⟩ :=
    (Session.run_of_mapM_resolve hnames (mapM_eq_ok_iff.2 (.cons hresolve .nil))).2
  cases hrun.symm.trans hreport
  obtain ⟨hallowed, hconstructions⟩ : transferReport.generationAllowed = true ∧
      transferReport.descriptors.map (fun descriptor => (descriptor.name, descriptor.construction)) =
        [("done", none), ("refused", some .messageAndCause)] := by
    simp only [transferReport, transferInterface, Session.ofBatch, Session.ofBatchAlong, Model.ofBatch,
      Model.ofBatchAlong, Catalog.buildAlong_eq_collectWithin]
    decide +kernel
  obtain ⟨interface, hinterface, _, hmethods⟩ := hall _ (List.mem_singleton_self _) hallowed
  cases interface_transferBatch.symm.trans hinterface
  exact ⟨hfaults, _, hrun, _, List.mem_singleton_self _, hallowed, hconstructions, hmethods⟩

end TypedMessages

import TypedMessages.Proofs.Errors
import TypedMessages.Proofs.Extension.Closure
import TypedMessages.Report.Session

/-!
# Runs that come to an end

A batch without faults has a report. Running it is the same as resolving all its interfaces first and making the reports afterwards: each report gets the diagnostics of its own interface, followed by those diagnostics of the whole batch that are about it.
-/

namespace TypedMessages

/-! ### Resolving a declared interface -/

theorem Model.interface_eq_ok_along {batch : Batch} (order : List String) (h : batch.NamesResolved) {name : String}
    (hname : name ∈ batch.interfaceNames) :
    ∃ interface, (Model.ofBatchAlong order batch).interface name = .ok interface := by
  obtain ⟨declaration, hmem, heq⟩ := List.mem_map.1 hname
  have hfound : (batch.interfaces.find? (·.name == name)).isSome = true := by
    rw [List.find?_isSome]
    exact ⟨declaration, hmem, by simpa using heq⟩
  obtain ⟨first, hfirst⟩ := Option.isSome_iff_exists.1 hfound
  obtain ⟨flattened, hflattened⟩ := Hierarchy.flattenedMethods_eq_ok (Hierarchy.parentsSettled_ofBatch h) hname
  exact ⟨_, Model.interface_eq_ok_iff.2 ⟨first, flattened, hfirst, hflattened, rfl⟩⟩

theorem Model.interface_eq_ok {batch : Batch} (h : batch.NamesResolved) {name : String}
    (hname : name ∈ batch.interfaceNames) : ∃ interface, (Model.ofBatch batch).interface name = .ok interface :=
  Model.interface_eq_ok_along _ h hname

theorem Model.name_of_interface {model : Model} {name : String} {interface : MessageInterface}
    (h : model.interface name = .ok interface) : interface.name = name := by
  obtain ⟨declaration, flattened, hfind, _, rfl⟩ := Model.interface_eq_ok_iff.1 h
  have hname := List.find?_some hfind
  rw [beq_iff_eq] at hname
  exact hname

theorem Model.resolve_eq_ok_iff {model : Model} {name : String} {resolved : ResolvedInterface} :
    model.resolve name = .ok resolved ↔
      ∃ interface, model.interface name = .ok interface ∧ model.hierarchy.resolve interface = resolved :=
  map_eq_ok_iff

theorem Model.name_of_resolve {model : Model} {name : String} {resolved : ResolvedInterface}
    (h : model.resolve name = .ok resolved) : resolved.interface.name = name := by
  obtain ⟨interface, hinterface, rfl⟩ := Model.resolve_eq_ok_iff.1 h
  exact Model.name_of_interface hinterface

/-! ### Resolving all names of a list -/

section Lists

variable {model : Model} {names : List String} {resolved : List ResolvedInterface}

theorem Model.exists_mapM_resolve (h : ∀ name ∈ names, ∃ interface, model.interface name = .ok interface) :
    ∃ resolved, names.mapM model.resolve = .ok resolved := by
  induction names with
  | nil => exact ⟨[], rfl⟩
  | cons name names ih =>
    obtain ⟨interface, hinterface⟩ := h name (List.mem_cons_self ..)
    obtain ⟨rest, hrest⟩ := ih fun other hother => h other (List.mem_cons_of_mem _ hother)
    have hfirst := Model.resolve_eq_ok_iff.2 ⟨interface, hinterface, rfl⟩
    have hothers := mapM_eq_ok_iff.1 hrest
    exact ⟨_, mapM_eq_ok_iff.2 (.cons hfirst hothers)⟩

theorem Model.names_of_mapM_resolve (h : names.mapM model.resolve = .ok resolved) :
    resolved.map (·.interface.name) = names := by
  have hpairs := mapM_eq_ok_iff.1 h
  clear h
  induction hpairs with
  | nil => rfl
  | cons hfirst _ ih => rw [List.map_cons, Model.name_of_resolve hfirst, ih]

theorem Model.resolve_of_mem (h : names.mapM model.resolve = .ok resolved) {r : ResolvedInterface}
    (hr : r ∈ resolved) : model.resolve r.interface.name = .ok r := by
  have hpairs := mapM_eq_ok_iff.1 h
  clear h
  induction hpairs with
  | nil => cases hr
  | cons hfirst _ ih =>
    rcases List.mem_cons.1 hr with rfl | hr
    · rw [Model.name_of_resolve hfirst]
      exact hfirst
    · exact ih hr

end Lists

/-! ### Outcomes and reports -/

namespace Session

def outcomeOf (session : Session) (resolved : ResolvedInterface) : Outcome :=
  { resolved, diagnostics := session.interfaceDiagnostics [resolved] }

def reportOf (session : Session) (all : List ResolvedInterface) (resolved : ResolvedInterface) : InterfaceReport :=
  { interface := resolved.interface.name
    kind := resolved.interface.kind
    descriptors := resolved.resolutions.map (·.descriptor)
    delegated := resolved.interface.delegated
    diagnostics := session.interfaceDiagnostics [resolved] ++
      (session.batchDiagnostics all).filter (·.subject.owningInterface == resolved.interface.name) }

theorem processAll_eq_mapM (session : Session) (names : List String) :
    session.processAll names = (names.mapM session.model.resolve).map (List.map session.outcomeOf) := by
  induction names with
  | nil => rfl
  | cons name names ih =>
    rw [processAll, ih, List.mapM_cons, process]
    cases session.model.resolve name with
    | error error => rfl
    | ok resolved =>
      cases names.mapM session.model.resolve with
      | error error => rfl
      | ok rest => rfl

end Session

/-- Outcomes with different names all get the diagnostics that are about them. -/
theorem Outcome.distribute_eq_map {diagnostics : List Diagnostic} {served : List String} {outcomes : List Outcome}
    (hdistinct : (outcomes.map Outcome.name).Nodup) (hserved : ∀ outcome ∈ outcomes, outcome.name ∉ served) :
    Outcome.distribute diagnostics served outcomes = outcomes.map fun outcome =>
      { outcome with
        diagnostics := outcome.diagnostics ++
          diagnostics.filter (·.subject.owningInterface == outcome.name) } := by
  induction outcomes generalizing served with
  | nil => rfl
  | cons outcome outcomes ih =>
    rw [List.map_cons, List.nodup_cons] at hdistinct
    obtain ⟨hfirst, hrest⟩ := hdistinct
    have hservedNext : ∀ other ∈ outcomes, other.name ∉ outcome.name :: served := by
      intro other hother
      have hne : other.name ≠ outcome.name := fun heq => hfirst (heq ▸ List.mem_map_of_mem hother)
      rw [List.mem_cons, not_or]
      exact ⟨hne, hserved other (List.mem_cons_of_mem _ hother)⟩
    rw [Outcome.distribute, if_neg (hserved outcome (List.mem_cons_self ..)), List.map_cons, ih hrest hservedNext]

theorem Session.finish_map_outcomeOf (session : Session) {resolved : List ResolvedInterface}
    (hdistinct : (resolved.map (·.interface.name)).Nodup) :
    session.finish (resolved.map session.outcomeOf) = ⟨resolved.map (session.reportOf resolved)⟩ := by
  have hall : (resolved.map session.outcomeOf).map (·.resolved) = resolved := by
    rw [List.map_map]
    exact List.map_id resolved
  have hnames : ((resolved.map session.outcomeOf).map Outcome.name).Nodup := by
    rw [List.map_map]
    exact hdistinct
  simp only [Session.finish, hall, Outcome.distribute_eq_map hnames fun _ _ => List.not_mem_nil, List.map_map]
  rfl

section Runs

variable {batch : Batch} {resolved : List ResolvedInterface}

/-- What a run reports is settled by how the interfaces are resolved. -/
theorem Session.run_of_mapM_resolve_along (order : List String) (h : batch.NamesResolved)
    (hresolved : (Session.ofBatchAlong order batch).interfaceNames.mapM (Model.ofBatchAlong order batch).resolve =
      .ok resolved) :
    (resolved.map (·.interface.name)).Nodup ∧
      (Session.ofBatchAlong order batch).run =
        .ok ⟨resolved.map ((Session.ofBatchAlong order batch).reportOf resolved)⟩ := by
  have hdistinct : (resolved.map (·.interface.name)).Nodup := by
    rw [Model.names_of_mapM_resolve hresolved]
    exact h.distinct.filter _
  have hmodel : (Session.ofBatchAlong order batch).model = Model.ofBatchAlong order batch := rfl
  have hall := (Session.ofBatchAlong order batch).processAll_eq_mapM (Session.ofBatchAlong order batch).interfaceNames
  rw [hmodel, hresolved] at hall
  refine ⟨hdistinct, ?_⟩
  rw [Session.run, hall, ← Session.finish_map_outcomeOf _ hdistinct]
  rfl

/-- All interfaces of a batch without faults can be resolved, and the batch has a report. -/
theorem Session.run_eq_ok_along (order : List String) (h : batch.NamesResolved) :
    ∃ resolved, (Session.ofBatchAlong order batch).interfaceNames.mapM (Model.ofBatchAlong order batch).resolve =
        .ok resolved ∧
      (resolved.map (·.interface.name)).Nodup ∧
      (Session.ofBatchAlong order batch).run =
        .ok ⟨resolved.map ((Session.ofBatchAlong order batch).reportOf resolved)⟩ := by
  have hdeclared : ∀ name ∈ (Session.ofBatchAlong order batch).interfaceNames,
      ∃ interface, (Model.ofBatchAlong order batch).interface name = .ok interface :=
    fun name hname => Model.interface_eq_ok_along order h (List.mem_filter.1 hname).1
  obtain ⟨resolved, hresolved⟩ := Model.exists_mapM_resolve hdeclared
  exact ⟨resolved, hresolved, Session.run_of_mapM_resolve_along order h hresolved⟩

theorem Session.run_of_mapM_resolve (h : batch.NamesResolved)
    (hresolved : (Session.ofBatch batch).interfaceNames.mapM (Model.ofBatch batch).resolve = .ok resolved) :
    (resolved.map (·.interface.name)).Nodup ∧
      (Session.ofBatch batch).run = .ok ⟨resolved.map ((Session.ofBatch batch).reportOf resolved)⟩ :=
  Session.run_of_mapM_resolve_along _ h hresolved

theorem Session.run_eq_ok (h : batch.NamesResolved) :
    ∃ resolved, (Session.ofBatch batch).interfaceNames.mapM (Model.ofBatch batch).resolve = .ok resolved ∧
      (resolved.map (·.interface.name)).Nodup ∧
      (Session.ofBatch batch).run = .ok ⟨resolved.map ((Session.ofBatch batch).reportOf resolved)⟩ :=
  Session.run_eq_ok_along _ h

end Runs

end TypedMessages

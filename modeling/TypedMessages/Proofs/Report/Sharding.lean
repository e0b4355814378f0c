import Mathlib.Data.List.Nodup
import TypedMessages.Proofs.Check.Owner
import TypedMessages.Proofs.Report.Completion

/-!
# Diagnostics in shards

A session checks most of a batch interface by interface and hands the rest of the diagnostics out by the names of the interfaces that they are about. The reports then hold exactly what all checks give for all interfaces at once: each report the part that is about its interface, in the same order, and together every diagnostic as often as it occurs.
-/

namespace TypedMessages

/-! ### Lists that are split by names -/

section Lists

variable {α β : Type} {owner : β → String} {items : List α}

/-- Where every part of a list is owned by the item that it comes from, the things owned by one item are its part. -/
theorem filter_flatMap_of_owner {γ : Type} [DecidableEq γ] {owner : β → γ} (name : α → γ) {f : α → List β}
    (hdistinct : (items.map name).Nodup) (howner : ∀ a ∈ items, ∀ b ∈ f a, owner b = name a) {a : α} (ha : a ∈ items) :
    (items.flatMap f).filter (owner · == name a) = f a := by
  induction items with
  | nil => cases ha
  | cons first items ih =>
    rw [List.map_cons, List.nodup_cons] at hdistinct
    have hother : ∀ b ∈ items, ∀ c ∈ f b, owner c = name b :=
      fun b hb => howner b (List.mem_cons_of_mem _ hb)
    have hfirst := howner first (List.mem_cons_self ..)
    rw [List.flatMap_cons, List.filter_append]
    rcases List.mem_cons.1 ha with rfl | ha
    · have hkeep : (f a).filter (owner · == name a) = f a :=
        List.filter_eq_self.2 fun b hb => by simpa using hfirst b hb
      have hdrop : (items.flatMap f).filter (owner · == name a) = [] := by
        refine List.filter_eq_nil_iff.2 fun c hc => ?_
        obtain ⟨b, hb, hmem⟩ := List.mem_flatMap.1 hc
        have hname : name b ∈ items.map name := List.mem_map_of_mem hb
        rw [hother b hb c hmem, beq_iff_eq]
        exact fun heq => hdistinct.1 (heq ▸ hname)
      rw [hkeep, hdrop, List.append_nil]
    · have hdrop : (f first).filter (owner · == name a) = [] := by
        refine List.filter_eq_nil_iff.2 fun b hb => ?_
        have hname : name a ∈ items.map name := List.mem_map_of_mem ha
        rw [hfirst b hb, beq_iff_eq]
        exact fun heq => hdistinct.1 (heq ▸ hname)
      rw [hdrop, List.nil_append]
      exact ih hdistinct.2 hother ha

theorem flatMap_filter_perm {names : List String} {list : List β} (hdistinct : names.Nodup)
    (howner : ∀ b ∈ list, owner b ∈ names) :
    (names.flatMap fun name => list.filter (owner · == name)).Perm list := by
  induction names generalizing list with
  | nil =>
    have hnone : list = [] := List.eq_nil_iff_forall_not_mem.2 fun b hb => by cases howner b hb
    rw [hnone]
    exact List.Perm.nil
  | cons name names ih =>
    rw [List.nodup_cons] at hdistinct
    -- what the other names own is what they own of the list without the first one's part
    have hothers : (names.flatMap fun other => list.filter (owner · == other)) =
        names.flatMap fun other => (list.filter (!owner · == name)).filter (owner · == other) := by
      refine List.flatMap_congr fun other hother => ?_
      rw [List.filter_filter]
      refine List.filter_congr fun b _ => ?_
      by_cases hb : owner b = other
      · have hne : other ≠ name := by
          rintro rfl
          exact hdistinct.1 hother
        simp [hb, hne]
      · simp [hb]
    have hrest : ∀ b ∈ list.filter (!owner · == name), owner b ∈ names := by
      intro b hb
      obtain ⟨hmem, hne⟩ := List.mem_filter.1 hb
      rcases List.mem_cons.1 (howner b hmem) with heq | hin
      · simp [heq] at hne
      · exact hin
    have hperm := ih hdistinct.2 hrest
    rw [List.flatMap_cons, hothers]
    exact (hperm.append_left _).trans (List.filter_append_perm _ list)

end Lists

/-! ### The reports of a session -/

namespace Session

/-- All diagnostics of the session for interfaces that are checked together. -/
def diagnosticsOf (session : Session) (interfaces : List ResolvedInterface) : List Diagnostic :=
  Check.runAll session.context session.checks interfaces

variable {session : Session} {interfaces : List ResolvedInterface}

theorem owner_of_mem_runAll {checks : List Check} {diagnostic : Diagnostic}
    (h : diagnostic ∈ Check.runAll session.context checks interfaces) :
    diagnostic.owner ∈ interfaces.map (·.interface.name) := by
  obtain ⟨check, _, hmem⟩ := List.mem_flatMap.1 h
  exact Check.owner_of_mem_run hmem

theorem filter_interfaceDiagnostics (hdistinct : (interfaces.map (·.interface.name)).Nodup) {resolved : ResolvedInterface}
    (hresolved : resolved ∈ interfaces) :
    (session.interfaceDiagnostics interfaces).filter (·.owner == resolved.interface.name) =
      session.interfaceDiagnostics [resolved] := by
  simp only [interfaceDiagnostics, Check.runAll, List.filter_flatMap]
  refine List.flatMap_congr fun check hcheck => ?_
  have hscope : check.scope = .interface := by simpa using (List.mem_filter.1 hcheck).2
  have howner : ∀ other ∈ interfaces, ∀ diagnostic ∈ check.run session.context [other],
      diagnostic.owner = other.interface.name := fun other _ => Check.run_singleton_allAbout hscope other
  rw [Check.run_eq_flatMap hscope interfaces]
  exact filter_flatMap_of_owner (fun r : ResolvedInterface => r.interface.name) hdistinct howner hresolved

/-- Where the checks of batch scope come last, a report holds what is about its interface. -/
theorem diagnostics_reportOf
    (horder : session.checks = Check.withScope .interface session.checks ++ Check.withScope .batch session.checks)
    (hdistinct : (interfaces.map (·.interface.name)).Nodup) {resolved : ResolvedInterface}
    (hresolved : resolved ∈ interfaces) :
    (session.reportOf interfaces resolved).diagnostics =
      (session.diagnosticsOf interfaces).filter (·.owner == resolved.interface.name) := by
  have hsplit : session.diagnosticsOf interfaces =
      session.interfaceDiagnostics interfaces ++ session.batchDiagnostics interfaces := by
    rw [diagnosticsOf, horder, Check.runAll, List.flatMap_append]
    rfl
  rw [hsplit, List.filter_append, filter_interfaceDiagnostics hdistinct hresolved]
  rfl

end Session

theorem Check.pipeline_eq_append :
    Check.pipeline = Check.withScope .interface Check.pipeline ++ Check.withScope .batch Check.pipeline := by
  decide

/-- **No diagnostic is lost or misplaced.** The report of a batch without faults holds for every interface the diagnostics about it that the whole pipeline gives for all interfaces at once, in the same order. Together the reports hold every diagnostic as often as it occurs, and each in one report only. -/
theorem diagnostics_sharded (batch : Batch) (hfaults : batch.faults = []) :
    ∃ (resolved : List ResolvedInterface) (report : BatchReport),
      (Session.ofBatch batch).interfaceNames.mapM (Model.ofBatch batch).resolve = .ok resolved ∧
      (Session.ofBatch batch).run = .ok report ∧
      report.interfaces.map (·.interface) = (Session.ofBatch batch).interfaceNames ∧
      (∀ shard ∈ report.interfaces, shard.diagnostics =
        (Check.runAll (Session.ofBatch batch).context Check.pipeline resolved).filter
          (·.subject.owningInterface == shard.interface)) ∧
      report.diagnostics.Perm (Check.runAll (Session.ofBatch batch).context Check.pipeline resolved) ∧
      ∀ diagnostic ∈ Check.runAll (Session.ofBatch batch).context Check.pipeline resolved,
        ∃! shard, shard ∈ report.interfaces ∧ diagnostic ∈ shard.diagnostics := by
  obtain ⟨resolved, hresolved, hdistinct, hrun⟩ := Session.run_eq_ok (Batch.namesResolved_of_faults hfaults)
  have hnames := Model.names_of_mapM_resolve hresolved
  have hshard : ∀ r ∈ resolved, ((Session.ofBatch batch).reportOf resolved r).diagnostics =
      ((Session.ofBatch batch).diagnosticsOf resolved).filter (·.owner == r.interface.name) :=
    fun r hr => Session.diagnostics_reportOf Check.pipeline_eq_append hdistinct hr
  have howner : ∀ diagnostic ∈ (Session.ofBatch batch).diagnosticsOf resolved,
      diagnostic.owner ∈ resolved.map (·.interface.name) := fun _ => Session.owner_of_mem_runAll
  refine ⟨resolved, _, hresolved, hrun, ?_, ?_, ?_, ?_⟩
  · rw [← hnames, List.map_map]
    rfl
  · intro shard hmem
    obtain ⟨r, hr, rfl⟩ := List.mem_map.1 hmem
    exact hshard r hr
  · have hall : BatchReport.diagnostics ⟨resolved.map ((Session.ofBatch batch).reportOf resolved)⟩ =
        (resolved.map (·.interface.name)).flatMap fun name =>
          ((Session.ofBatch batch).diagnosticsOf resolved).filter (·.owner == name) := by
      rw [BatchReport.diagnostics, List.flatMap_map, List.flatMap_map]
      exact List.flatMap_congr hshard
    rw [hall]
    exact flatMap_filter_perm hdistinct howner
  · intro diagnostic hdiagnostic
    obtain ⟨r, hr, heq⟩ := List.mem_map.1 (howner diagnostic hdiagnostic)
    refine ⟨(Session.ofBatch batch).reportOf resolved r, ⟨List.mem_map_of_mem hr, ?_⟩, ?_⟩
    · rw [hshard r hr]
      exact List.mem_filter.2 ⟨hdiagnostic, by simp [heq]⟩
    · rintro shard ⟨hshards, hmem⟩
      obtain ⟨other, hother, rfl⟩ := List.mem_map.1 hshards
      rw [hshard other hother] at hmem
      have howned : diagnostic.owner = other.interface.name := by simpa using (List.mem_filter.1 hmem).2
      have hsame : other = r := List.inj_on_of_nodup_map hdistinct hother hr (howned.symm.trans heq.symm)
      rw [hsame]

/-- A logger and one that extends it, with messages of the same id. -/
def sharedId : Batch :=
  { interfaces :=
      [{ name := "a.Logger", kind := .logger, projectCode := "AAA",
         methods := [{ name := "started", message := some { value := "Started", id := .explicit 1 },
                       logLevel := some .info }] },
       { name := "a.Other", kind := .logger, projectCode := "AAA", parents := ["a.Logger"],
         methods := [{ name := "stopped", message := some { value := "Stopped", id := .explicit 1 },
                       logLevel := some .info }] }] }

theorem diagnostics_sharded_sharedId :
    sharedId.faults = [] ∧ ∃ (resolved : List ResolvedInterface) (report : BatchReport),
      (Session.ofBatch sharedId).interfaceNames.mapM (Model.ofBatch sharedId).resolve = .ok resolved ∧
      (Session.ofBatch sharedId).run = .ok report ∧
      report.diagnostics.Perm (Check.runAll (Session.ofBatch sharedId).context Check.pipeline resolved) := by
  have hfaults : sharedId.faults = [] := by cbv
  obtain ⟨resolved, report, hresolved, hrun, _, _, hperm, _⟩ := diagnostics_sharded sharedId hfaults
  exact ⟨hfaults, resolved, report, hresolved, hrun, hperm⟩

end TypedMessages

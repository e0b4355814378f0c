import TypedMessages.Proofs.Report.Completion
import TypedMessages.Report.Steady

/-!
# Interleavings

Whatever the schedule, no more tasks hold a permit than there are, and the collector comes to no other result than the one of processing the interfaces in turn. The invariant has one part for the pool and one for the collector: a task that is processed has the result of its own interface, and what is collected is what processing gives for the names of the tasks collected so far. No schedule leads into a dead end, since as long as a task is not done some move brings one further.
-/

namespace TypedMessages

/-! ### Moves of one task -/

/-- How the state of a task changes in one move; `free` says whether a permit is left. -/
inductive TaskState.Step (session : Session) (name : String) (free : Prop) : TaskState → TaskState → Prop
  | acquire (hfree : free) : Step session name free .waiting .running
  | process : Step session name free .running (.processed (session.process name))
  | release (result : Except EngineError Outcome) : Step session name free (.processed result) (.done result)

namespace Pool

variable {session : Session}

theorem exists_setState {pool : Pool} {i : Nat} {name : String} {old : TaskState}
    (h : pool.tasks[i]? = some ⟨name, old⟩) (new : TaskState) :
    ∃ before after, pool.tasks = before ++ ⟨name, old⟩ :: after ∧
      pool.setState i new = ⟨pool.permits, before ++ ⟨name, new⟩ :: after⟩ := by
  obtain ⟨hlt, hget⟩ := List.getElem?_eq_some_iff.1 h
  obtain ⟨before, task, after, hsplit, hlength, hmodify⟩ :=
    List.exists_of_modify (fun task : Task => { task with state := new }) hlt
  have htask : task = ⟨name, old⟩ := by
    rw [← hget]
    simp [hsplit, ← hlength]
  subst htask
  exact ⟨before, after, hsplit, by rw [setState, hmodify]⟩

/-- A move changes nothing, or it takes one task one step further. -/
theorem step_cases (session : Session) (pool : Pool) (move : Move) :
    pool.step session move = pool ∨ ∃ before name old new after,
      TaskState.Step session name (pool.held < pool.permits) old new ∧
      pool.tasks = before ++ ⟨name, old⟩ :: after ∧
      pool.step session move = ⟨pool.permits, before ++ ⟨name, new⟩ :: after⟩ := by
  cases move with
  | acquire i =>
    simp only [step]
    split
    · next name hget =>
      split
      · next hfree =>
        obtain ⟨before, after, htasks, hset⟩ := exists_setState hget .running
        exact Or.inr ⟨before, name, _, _, after, .acquire hfree, htasks, hset⟩
      · exact Or.inl rfl
    · exact Or.inl rfl
  | process i =>
    simp only [step]
    split
    · next name hget =>
      obtain ⟨before, after, htasks, hset⟩ := exists_setState hget (.processed (session.process name))
      exact Or.inr ⟨before, name, _, _, after, .process, htasks, hset⟩
    · exact Or.inl rfl
  | release i =>
    simp only [step]
    split
    · next name result hget =>
      obtain ⟨before, after, htasks, hset⟩ := exists_setState hget (.done result)
      exact Or.inr ⟨before, name, _, _, after, .release result, htasks, hset⟩
    · exact Or.inl rfl

theorem exists_move {pool : Pool} {before after : List Task} {name : String} {old new : TaskState}
    (hstep : TaskState.Step session name (pool.held < pool.permits) old new)
    (htasks : pool.tasks = before ++ ⟨name, old⟩ :: after) :
    ∃ move, pool.step session move = ⟨pool.permits, before ++ ⟨name, new⟩ :: after⟩ := by
  have hget : pool.tasks[before.length]? = some ⟨name, old⟩ := by
    rw [htasks, List.getElem?_append_right (Nat.le_refl _), Nat.sub_self, List.getElem?_cons_zero]
  have hset (state : TaskState) :
      pool.setState before.length state = ⟨pool.permits, before ++ ⟨name, state⟩ :: after⟩ := by
    rw [setState, htasks, List.modify_eq_take_drop, List.take_left, List.drop_left]
    rfl
  cases hstep with
  | acquire hfree => exact ⟨.acquire before.length, by simp only [step, hget, if_pos hfree, hset]⟩
  | process => exact ⟨.process before.length, by simp only [step, hget, hset]⟩
  | release result => exact ⟨.release before.length, by simp only [step, hget, hset]⟩

end Pool

/-! ### The invariant of the pool -/

/-- A task that has a result has that of its own interface. -/
def Task.Faithful (session : Session) (task : Task) : Prop :=
  match task.state with
  | .waiting | .running => True
  | .processed result | .done result => result = session.process task.name

theorem Task.Faithful.step {session : Session} {name : String} {free : Prop} {old new : TaskState}
    (hstep : TaskState.Step session name free old new) (hold : (Task.mk name old).Faithful session) :
    (Task.mk name new).Faithful session := by
  cases hstep with
  | acquire => trivial
  | process => rfl
  | release => exact hold

/-- What holds of the tasks of some names in every state of a pool. -/
structure Pool.Sound (session : Session) (limit : Nat) (names : List String) (pool : Pool) : Prop where
  permits : pool.permits = max 1 limit
  held : pool.held ≤ pool.permits
  names : pool.tasks.map (·.name) = names
  faithful : ∀ task ∈ pool.tasks, task.Faithful session

namespace Pool

variable {session : Session} {limit : Nat} {names : List String}

theorem sound_start (session : Session) (limit : Nat) (names : List String) :
    (start limit names).Sound session limit names where
  permits := rfl
  held := by
    have hnone : (start limit names).held = 0 := by
      rw [held, List.countP_eq_zero]
      intro task htask
      obtain ⟨name, _, rfl⟩ := List.mem_map.1 htask
      exact Bool.false_ne_true
    omega
  names := by
    rw [start, List.map_map]
    exact List.map_id names
  faithful := by
    intro task htask
    obtain ⟨name, _, rfl⟩ := List.mem_map.1 htask
    trivial

theorem held_step {permits : Nat} {before after : List Task} {name : String} {old new : TaskState}
    (hstep : TaskState.Step session name (held ⟨permits, before ++ ⟨name, old⟩ :: after⟩ < permits) old new)
    (hheld : held ⟨permits, before ++ ⟨name, old⟩ :: after⟩ ≤ permits) :
    held ⟨permits, before ++ ⟨name, new⟩ :: after⟩ ≤ permits := by
  simp only [held, List.countP_append, List.countP_cons] at hstep hheld ⊢
  cases hstep with
  | acquire hfree =>
    change before.countP Task.holdsPermit + (after.countP Task.holdsPermit + 0) < permits at hfree
    change before.countP Task.holdsPermit + (after.countP Task.holdsPermit + 1) ≤ permits
    omega
  | process => exact hheld
  | release =>
    change before.countP Task.holdsPermit + (after.countP Task.holdsPermit + 1) ≤ permits at hheld
    change before.countP Task.holdsPermit + (after.countP Task.holdsPermit + 0) ≤ permits
    omega

theorem Sound.step {pool : Pool} (h : pool.Sound session limit names) (move : Move) :
    (pool.step session move).Sound session limit names := by
  rcases step_cases session pool move with hsame | ⟨before, name, old, new, after, hstep, htasks, hnext⟩
  · rw [hsame]
    exact h
  · obtain ⟨permits, tasks⟩ := pool
    subst htasks
    rw [hnext]
    refine ⟨h.permits, held_step hstep h.held, ?_, fun task htask => ?_⟩
    · rw [← h.names]
      simp
    · rcases List.mem_append.1 htask with hbefore | hrest
      · exact h.faithful task (List.mem_append_left _ hbefore)
      · rcases List.mem_cons.1 hrest with rfl | hafter
        · have hold := h.faithful ⟨name, old⟩ (List.mem_append_right _ (List.mem_cons_self ..))
          exact Task.Faithful.step hstep hold
        · exact h.faithful task (List.mem_append_right _ (List.mem_cons_of_mem _ hafter))

end Pool

/-! ### The invariant of the collector -/

namespace Session

theorem length_of_processAll {session : Session} {names : List String} {outcomes : List Outcome}
    (h : session.processAll names = .ok outcomes) : outcomes.length = names.length := by
  rw [processAll_eq_mapM] at h
  obtain ⟨resolved, hresolved, rfl⟩ := map_eq_ok_iff.1 h
  rw [List.length_map]
  exact (mapM_eq_ok_iff.1 hresolved).length_eq.symm

/-- Where the first names are processed without an error the others are processed after them. -/
theorem processAll_append {session : Session} {first second : List String} {outcomes : List Outcome}
    (h : session.processAll first = .ok outcomes) :
    session.processAll (first ++ second) = (session.processAll second).map (outcomes ++ ·) := by
  induction first generalizing outcomes with
  | nil =>
    cases h
    cases hsecond : session.processAll second <;> simp [Except.map, hsecond]
  | cons name names ih =>
    rw [processAll] at h
    rw [List.cons_append, processAll]
    cases hname : session.process name with
    | error error => simp [hname] at h
    | ok outcome =>
      rw [hname] at h
      obtain ⟨others, hothers, rfl⟩ := map_eq_ok_iff.1 h
      simp only [ih hothers]
      cases session.processAll second <;> rfl

end Session

/-- What is collected is what processing gives for the first names; the result is that of processing all. -/
def Collector.Faithful (session : Session) : Collector → Prop
  | awaiting outcomes => session.processAll (session.interfaceNames.take outcomes.length) = .ok outcomes
  | finished result => result = session.run

theorem Collector.Faithful.step {session : Session} {limit : Nat} {pool : Pool} {collector : Collector}
    (hpool : pool.Sound session limit session.interfaceNames) (h : collector.Faithful session) :
    (collector.step session pool.tasks).Faithful session := by
  cases collector with
  | finished result => exact h
  | awaiting outcomes =>
    have hnames : session.interfaceNames[outcomes.length]? = (pool.tasks[outcomes.length]?).map (·.name) := by
      rw [← hpool.names, List.getElem?_map]
    simp only [Collector.step]
    split
    · next hnone =>
      -- no task is left, so the outcomes are those of all names
      have hlength : session.interfaceNames.length ≤ outcomes.length :=
        List.getElem?_eq_none_iff.1 (by rw [hnames, hnone]; rfl)
      have hall : session.processAll session.interfaceNames = .ok outcomes := by
        rw [← List.take_of_length_le hlength]
        exact h
      show _ = session.run
      rw [Session.run, hall]
      rfl
    · next name outcome hget =>
      have hprocess : .ok outcome = session.process name := hpool.faithful _ (List.mem_of_getElem? hget)
      rw [hget] at hnames
      have htake : session.interfaceNames.take (outcomes ++ [outcome]).length =
          session.interfaceNames.take outcomes.length ++ [name] := by
        rw [List.length_append, List.length_singleton, List.take_add_one, hnames]
        rfl
      show session.processAll _ = _
      rw [htake, Session.processAll_append h, Session.processAll, ← hprocess]
      rfl
    · next name error hget =>
      have hprocess : .error error = session.process name := hpool.faithful _ (List.mem_of_getElem? hget)
      rw [hget] at hnames
      obtain ⟨hlt, hname⟩ : ∃ hlt, session.interfaceNames.get ⟨outcomes.length, hlt⟩ = name :=
        List.getElem?_eq_some_iff.1 hnames
      have hsplit : session.interfaceNames =
          session.interfaceNames.take outcomes.length ++ name :: session.interfaceNames.drop (outcomes.length + 1) := by
        rw [← hname, List.get_eq_getElem, List.getElem_cons_drop, List.take_append_drop]
      show _ = session.run
      rw [Session.run, hsplit, Session.processAll_append h, Session.processAll, ← hprocess]
      rfl
    · exact h

/-! ### Runs -/

structure Runner.Sound (session : Session) (limit : Nat) (runner : Runner) : Prop where
  pool : runner.pool.Sound session limit session.interfaceNames
  collector : runner.collector.Faithful session

namespace Runner

variable {session : Session} {limit : Nat}

theorem sound_start (session : Session) (limit : Nat) : (start session limit).Sound session limit where
  pool := Pool.sound_start session limit session.interfaceNames
  collector := rfl

theorem Sound.step {runner : Runner} (h : runner.Sound session limit) (turn : Turn) :
    (runner.step session turn).Sound session limit := by
  cases turn with
  | move move => exact ⟨h.pool.step move, h.collector⟩
  | collect => exact ⟨h.pool, h.collector.step h.pool⟩

theorem Sound.follow {runner : Runner} (h : runner.Sound session limit) (turns : List Turn) :
    (runner.follow session turns).Sound session limit := by
  induction turns generalizing runner with
  | nil => exact h
  | cons turn turns ih => exact ih (h.step turn)

end Runner

/-- **The schedule does not matter.** After every sequence of turns no more tasks hold a permit than the limit allows, one if it is zero, and if the collector has come to a result it is that of processing the interfaces in turn: the same report, or the same error. -/
theorem schedule_independent (session : Session) (limit : Nat) (schedule : List Turn) :
    ((Runner.start session limit).follow session schedule).pool.held ≤ max 1 limit ∧
      ∀ result, ((Runner.start session limit).follow session schedule).collector.result? = some result →
        result = session.run := by
  have hsound := (Runner.sound_start session limit).follow schedule
  have hheld := hsound.pool.held
  rw [hsound.pool.permits] at hheld
  refine ⟨hheld, fun result hresult => ?_⟩
  have hfaithful := hsound.collector
  cases hcollector : ((Runner.start session limit).follow session schedule).collector with
  | awaiting outcomes => simp [hcollector, Collector.result?] at hresult
  | finished final =>
    rw [hcollector] at hresult hfaithful
    cases hresult
    exact hfaithful

/-- Two loggers, of which the second cannot be resolved. -/
def missingParent : Batch :=
  { interfaces :=
      [{ name := "a.First", kind := .logger },
       { name := "a.Second", kind := .logger, parents := ["a.Missing"] }] }

theorem schedule_independent_missingParent :
    ((Runner.start (Session.ofBatch missingParent) 0).follow (Session.ofBatch missingParent)
      (steadySchedule 1 2)).pool.held ≤ 1 ∧
      ∃ result, ((Runner.start (Session.ofBatch missingParent) 0).follow (Session.ofBatch missingParent)
        (steadySchedule 1 2)).collector.result? = some result ∧ result = (Session.ofBatch missingParent).run := by
  obtain ⟨hheld, hresult⟩ := schedule_independent (Session.ofBatch missingParent) 0 (steadySchedule 1 2)
  have hcount : (Session.ofBatch missingParent).interfaceNames.length = 2 := by decide
  have hfinished := (Session.ofBatch missingParent).result?_steadySchedule 0
  rw [hcount] at hfinished
  exact ⟨hheld, _, hfinished, hresult _ hfinished⟩

/-- Running at the same time gives what processing the interfaces in turn gives. -/
theorem Session.runConcurrently_eq_run (session : Session) (limit : Nat) : session.runConcurrently limit = session.run :=
  Option.get_of_eq_some _ (session.result?_steadySchedule limit)

/-! ### No dead ends -/

/-- The number of moves that a task still has to make. -/
def TaskState.remaining : TaskState → Nat
  | waiting => 3
  | running => 2
  | processed _ => 1
  | done _ => 0

def remainingMoves : List Task → Nat
  | [] => 0
  | task :: tasks => task.state.remaining + remainingMoves tasks

theorem remainingMoves_append (left right : List Task) :
    remainingMoves (left ++ right) = remainingMoves left + remainingMoves right := by
  induction left with
  | nil => exact (Nat.zero_add _).symm
  | cons task tasks ih => rw [List.cons_append, remainingMoves, ih, remainingMoves, Nat.add_assoc]

theorem TaskState.Step.remaining_lt {session : Session} {name : String} {free : Prop} {old new : TaskState}
    (hstep : TaskState.Step session name free old new) : new.remaining < old.remaining := by
  cases hstep with
  | acquire | process | release => exact Nat.lt_succ_self _

namespace Pool

variable {session : Session} {limit : Nat} {names : List String}

/-- While a task is not done some task can move: if none that waits gets a permit, one of those that hold the permits can. -/
theorem exists_step (session : Session) {pool : Pool} (hpermits : 0 < pool.permits) {task : Task}
    (htask : task ∈ pool.tasks) (hrest : 0 < task.state.remaining) :
    ∃ name old new, ⟨name, old⟩ ∈ pool.tasks ∧ TaskState.Step session name (pool.held < pool.permits) old new := by
  have hholder {other : Task} (hother : other ∈ pool.tasks) (hholds : other.holdsPermit = true) :
      ∃ name old new, ⟨name, old⟩ ∈ pool.tasks ∧ TaskState.Step session name (pool.held < pool.permits) old new := by
    obtain ⟨name, state⟩ := other
    cases state with
    | waiting | done => cases hholds
    | running => exact ⟨name, _, _, hother, .process⟩
    | processed result => exact ⟨name, _, _, hother, .release result⟩
  by_cases hfree : pool.held < pool.permits
  · obtain ⟨name, state⟩ := task
    cases state with
    | waiting => exact ⟨name, _, _, htask, .acquire hfree⟩
    | running | processed => exact hholder htask rfl
    | done => cases hrest
  · have hheld : 0 < pool.tasks.countP Task.holdsPermit := by
      rw [held] at hfree
      omega
    obtain ⟨other, hother, hholds⟩ := List.countP_pos_iff.1 hheld
    exact hholder hother hholds

theorem exists_move_remaining_lt (session : Session) {pool : Pool} (hpermits : 0 < pool.permits) {task : Task}
    (htask : task ∈ pool.tasks) (hrest : 0 < task.state.remaining) :
    ∃ move, remainingMoves (pool.step session move).tasks < remainingMoves pool.tasks := by
  obtain ⟨name, old, new, hmem, hstep⟩ := exists_step session hpermits htask hrest
  obtain ⟨before, after, htasks⟩ := List.append_of_mem hmem
  obtain ⟨move, hmove⟩ := exists_move hstep htasks
  refine ⟨move, ?_⟩
  have hlt := hstep.remaining_lt
  rw [hmove, htasks, remainingMoves_append, remainingMoves_append, remainingMoves, remainingMoves]
  dsimp only
  omega

theorem exists_follow_done {pool : Pool} (h : pool.Sound session limit names) :
    ∃ moves, (pool.follow session moves).Sound session limit names ∧
      ∀ task ∈ (pool.follow session moves).tasks, task.state.remaining = 0 := by
  induction hn : remainingMoves pool.tasks using Nat.strongRecOn generalizing pool with
  | ind n ih =>
    by_cases hrest : ∃ task ∈ pool.tasks, 0 < task.state.remaining
    · obtain ⟨task, htask, hpos⟩ := hrest
      have hpermits : 0 < pool.permits := by
        rw [h.permits]
        omega
      obtain ⟨move, hlt⟩ := exists_move_remaining_lt session hpermits htask hpos
      obtain ⟨moves, hsound, hall⟩ := ih _ (hn ▸ hlt) (h.step move) rfl
      exact ⟨move :: moves, hsound, hall⟩
    · refine ⟨[], h, fun task htask => ?_⟩
      exact Nat.eq_zero_of_not_pos fun hpos => hrest ⟨task, htask, hpos⟩

theorem tasks_of_done {pool : Pool} (h : pool.Sound session limit names)
    (hdone : ∀ task ∈ pool.tasks, task.state.remaining = 0) :
    pool.tasks = names.map fun name => ⟨name, .done (session.process name)⟩ := by
  have htasks : ∀ task ∈ pool.tasks, task = ⟨task.name, .done (session.process task.name)⟩ := by
    intro task htask
    have hfaithful := h.faithful task htask
    have hzero := hdone task htask
    obtain ⟨name, state⟩ := task
    cases state with
    | waiting | running | processed => cases hzero
    | done result =>
      have hresult : result = session.process name := hfaithful
      rw [hresult]
  rw [← h.names, List.map_map]
  conv_lhs => rw [← List.map_id pool.tasks]
  exact List.map_congr_left htasks

end Pool

theorem Runner.exists_finished {session : Session} {limit : Nat} {runner : Runner} (h : runner.Sound session limit) :
    ∃ turns, (runner.follow session turns).collector.result? = some session.run := by
  obtain ⟨pool, collector⟩ := runner
  cases collector with
  | finished result =>
    refine ⟨[], ?_⟩
    rw [← show result = session.run from h.collector]
    rfl
  | awaiting outcomes =>
    obtain ⟨moves, hsound, hdone⟩ := Pool.exists_follow_done h.pool
    let gathered := session.interfaceNames.take outcomes.length
    let rest := session.interfaceNames.drop outcomes.length
    let turns : List Turn := moves.map .move ++ List.replicate (rest.length + 1) .collect
    have hcollector : ((mk pool (.awaiting outcomes)).follow session turns).collector =
        .finished ((session.processAll rest).map fun others => session.finish (outcomes ++ others)) := by
      have htasks : (pool.follow session moves).tasks =
          (gathered ++ rest).map fun name => ⟨name, .done (session.process name)⟩ := by
        rw [List.take_append_drop]
        exact Pool.tasks_of_done hsound hdone
      have hpool : pool.follow session moves = ⟨_, _⟩ := congrArg (Pool.mk _) htasks
      rw [follow_append, follow_moves, hpool]
      exact follow_collect gathered rest (Session.length_of_processAll h.collector)
    have hfaithful := (h.follow turns).collector
    rw [hcollector] at hfaithful
    refine ⟨turns, ?_⟩
    rw [hcollector, show _ = session.run from hfaithful]
    rfl

end TypedMessages

import TypedMessages.Report.Schedule

/-!
# The steady schedule

A schedule that always comes to an end: as many tasks as there are permits begin, and whenever the oldest one is done the next one begins; then the results are collected. After every round the tasks stand in three stretches, those that are done before those that are running before those that wait, so there is always a permit for the next one, and after the last round all tasks are done.
-/

namespace TypedMessages

/-- The moves that keep a number of tasks busy: as soon as the oldest of them is done the next one begins. -/
def steadyMoves (window tasks : Nat) : List Move :=
  (List.range window).map .acquire ++
    (List.range tasks).flatMap fun i => [.process i, .release i, .acquire (i + window)]

def steadySchedule (window tasks : Nat) : List Turn :=
  (steadyMoves window tasks).map .move ++ List.replicate (tasks + 1) .collect

namespace Pool

/-! ### Tasks in the order of their places -/

/-- The tasks of some names, each in the state that its place gives. -/
def arranged (state : Nat → String → TaskState) (names : List String) : List Task :=
  names.mapIdx fun place name => { name, state := state place name }

theorem getElem?_arranged {state : Nat → String → TaskState} {names : List String} {i : Nat} :
    (arranged state names)[i]? = names[i]?.map fun name => { name, state := state i name } := by
  simp [arranged]

theorem modify_arranged {state : Nat → String → TaskState} {names : List String} {i : Nat} {new : TaskState} :
    (arranged state names).modify i (fun task => { task with state := new }) =
      arranged (fun place name => if place = i then new else state place name) names := by
  apply List.ext_getElem?
  intro j
  rw [List.getElem?_modify, getElem?_arranged, getElem?_arranged]
  by_cases h : i = j
  · subst h; cases names[i]? <;> simp
  · cases names[j]? <;> simp [h, Ne.symm h]

theorem arranged_congr {left right : Nat → String → TaskState} {names : List String}
    (h : ∀ place name, place < names.length → left place name = right place name) :
    arranged left names = arranged right names := by
  apply List.ext_getElem?
  intro j
  rw [getElem?_arranged, getElem?_arranged]
  by_cases hj : j < names.length
  · rw [List.getElem?_eq_getElem hj]
    exact congrArg some (congrArg (Task.mk _) (h j _ hj))
  · rw [List.getElem?_eq_none (Nat.le_of_not_lt hj)]
    rfl

theorem arranged_eq_map {state : Nat → String → TaskState} {new : String → TaskState} {names : List String}
    (h : ∀ place name, place < names.length → state place name = new name) :
    arranged state names = names.map fun name => ⟨name, new name⟩ := by
  apply List.ext_getElem?
  intro place
  rw [getElem?_arranged, List.getElem?_map]
  by_cases hplace : place < names.length
  · rw [List.getElem?_eq_getElem hplace]
    exact congrArg some (congrArg (Task.mk _) (h place _ hplace))
  · rw [List.getElem?_eq_none (Nat.le_of_not_lt hplace)]
    rfl

theorem countP_arranged_le {state : Nat → String → TaskState} {lo hi : Nat}
    (hstate : ∀ place name, (Task.mk name (state place name)).holdsPermit = true → lo ≤ place ∧ place < hi)
    (names : List String) : (arranged state names).countP Task.holdsPermit ≤ hi - lo := by
  suffices h : ∀ (names : List String) (k : Nat),
      (names.mapIdx fun place name => ({ name, state := state (k + place) name } : Task)).countP Task.holdsPermit ≤
        hi - max lo k by
    have := h names 0
    simp only [Nat.zero_add, Nat.max_zero] at this
    exact this
  intro names
  induction names with
  | nil => intro k; exact Nat.zero_le _
  | cons name names ih =>
    intro k
    rw [List.mapIdx_cons, List.countP_cons]
    have hrest := ih (k + 1)
    simp only [Nat.add_assoc, Nat.add_comm 1] at hrest
    simp only [Nat.add_zero]
    by_cases hholds : (Task.mk name (state k name)).holdsPermit = true
    · have := hstate k name hholds
      rw [if_pos hholds]
      omega
    · rw [if_neg hholds]
      omega

/-! ### The stages of the schedule -/

/-- The states of tasks of which the first `done` are done and those up to `begun` have begun. -/
def stage (session : Session) (done begun place : Nat) (name : String) : TaskState :=
  if place < done then .done (session.process name) else if place < begun then .running else .waiting

theorem stage_holdsPermit {session : Session} {done begun place : Nat} {name : String}
    (h : (Task.mk name (stage session done begun place name)).holdsPermit = true) : done ≤ place ∧ place < begun := by
  unfold stage at h
  split at h
  · cases h
  · split at h
    · omega
    · cases h

theorem step_acquire_stage {session : Session} {permits done begun : Nat} {names : List String}
    (horder : done ≤ begun) (hpermits : begun < done + permits) :
    step session ⟨permits, arranged (stage session done begun) names⟩ (.acquire begun) =
      ⟨permits, arranged (stage session done (begun + 1)) names⟩ := by
  by_cases hbegun : begun < names.length
  · have hget : (arranged (stage session done begun) names)[begun]? = some ⟨names[begun], .waiting⟩ := by
      rw [getElem?_arranged, List.getElem?_eq_getElem hbegun]
      simp only [Option.map_some, stage, if_neg (Nat.not_lt.2 horder), if_neg (Nat.lt_irrefl begun)]
    have hheld : held ⟨permits, arranged (stage session done begun) names⟩ < permits := by
      have hholds : ∀ place name, (Task.mk name (stage session done begun place name)).holdsPermit = true →
          done ≤ place ∧ place < begun := fun _ _ => stage_holdsPermit
      have := countP_arranged_le hholds names
      simp only [Pool.held]
      omega
    simp only [Pool.step, hget, if_pos hheld, Pool.setState, modify_arranged]
    congr 1
    apply arranged_congr
    intro place name _
    simp only [stage]
    grind
  · have hget : (arranged (stage session done begun) names)[begun]? = none := by
      rw [getElem?_arranged, List.getElem?_eq_none (Nat.le_of_not_lt hbegun)]
      rfl
    simp only [Pool.step, hget]
    congr 1
    apply arranged_congr
    intro place name hplace
    simp only [stage]
    grind

theorem step_process_stage {session : Session} {permits done begun : Nat} {names : List String}
    (horder : done < begun) (hdone : done < names.length) :
    step session ⟨permits, arranged (stage session done begun) names⟩ (.process done) =
      ⟨permits, arranged (fun place name => if place = done then .processed (session.process names[done])
        else stage session done begun place name) names⟩ := by
  have hget : (arranged (stage session done begun) names)[done]? = some ⟨names[done], .running⟩ := by
    rw [getElem?_arranged, List.getElem?_eq_getElem hdone]
    simp only [Option.map_some, stage, if_neg (Nat.lt_irrefl done), if_pos horder]
  simp only [Pool.step, hget, Pool.setState, modify_arranged]

theorem step_release_stage {session : Session} {permits done begun : Nat} {names : List String}
    (hdone : done < names.length) :
    step session ⟨permits, arranged (fun place name => if place = done then .processed (session.process names[done])
        else stage session done begun place name) names⟩ (.release done) =
      ⟨permits, arranged (stage session (done + 1) begun) names⟩ := by
  have hget : (arranged (fun place name => if place = done then .processed (session.process names[done])
      else stage session done begun place name) names)[done]? =
        some ⟨names[done], .processed (session.process names[done])⟩ := by
    rw [getElem?_arranged, List.getElem?_eq_getElem hdone, Option.map_some, if_pos rfl]
  simp only [Pool.step, hget, Pool.setState, modify_arranged]
  congr 1
  apply List.ext_getElem?
  intro place
  rw [getElem?_arranged, getElem?_arranged]
  by_cases hplace : place = done
  · subst hplace
    rw [List.getElem?_eq_getElem hdone]
    simp [stage]
  · simp only [if_neg hplace]
    have : stage session done begun place = stage session (done + 1) begun place := by
      funext name
      simp only [stage]
      grind
    rw [this]

theorem follow_append {session : Session} {pool : Pool} {first second : List Move} :
    pool.follow session (first ++ second) = (pool.follow session first).follow session second :=
  List.foldl_append

theorem follow_acquire {session : Session} {permits : Nat} {names : List String} :
    ∀ begun ≤ permits, (mk permits (arranged (stage session 0 0) names)).follow session
      ((List.range begun).map .acquire) = ⟨permits, arranged (stage session 0 begun) names⟩
  | 0, _ => rfl
  | begun + 1, h => by
    rw [List.range_succ, List.map_append, follow_append, follow_acquire begun (by omega)]
    exact step_acquire_stage (Nat.zero_le _) (by omega)

theorem follow_rounds {session : Session} {permits window : Nat} {names : List String} (hwindow : 0 < window)
    (hpermits : window ≤ permits) :
    ∀ done ≤ names.length, (mk permits (arranged (stage session 0 window) names)).follow session
      ((List.range done).flatMap fun i => [.process i, .release i, .acquire (i + window)]) =
        ⟨permits, arranged (stage session done (done + window)) names⟩
  | 0, _ => by simp [follow]
  | done + 1, h => by
    rw [List.range_succ, List.flatMap_append, follow_append, follow_rounds hwindow hpermits done (by omega)]
    show step session (step session (step session _ (.process done)) (.release done)) (.acquire (done + window)) = _
    rw [step_process_stage (by omega) (by omega), step_release_stage (by omega),
      step_acquire_stage (by omega) (by omega), Nat.add_right_comm done window 1]

theorem follow_steadyMoves {session : Session} {limit : Nat} {names : List String} :
    (start limit names).follow session (steadyMoves (min (max 1 limit) names.length) names.length) =
      ⟨max 1 limit, names.map fun name => ⟨name, .done (session.process name)⟩⟩ := by
  have hstart : start limit names = ⟨max 1 limit, arranged (stage session 0 0) names⟩ := by
    have hwaiting : arranged (stage session 0 0) names = names.map fun name => ⟨name, .waiting⟩ :=
      arranged_eq_map fun place name _ => by simp only [stage, if_neg (Nat.not_lt_zero place)]
    rw [hwaiting]
    rfl
  rw [hstart, steadyMoves, follow_append, follow_acquire _ (Nat.min_le_left _ _)]
  cases names with
  | nil => rfl
  | cons name names =>
    rw [follow_rounds (by simp only [List.length_cons]; omega) (Nat.min_le_left _ _) _ (Nat.le_refl _)]
    congr 1
    exact arranged_eq_map fun place name hplace => by simp only [stage, if_pos hplace]

end Pool

namespace Runner

theorem follow_append {session : Session} {runner : Runner} {first second : List Turn} :
    runner.follow session (first ++ second) = (runner.follow session first).follow session second :=
  List.foldl_append

theorem follow_moves {session : Session} (moves : List Move) (runner : Runner) :
    runner.follow session (moves.map .move) = { runner with pool := runner.pool.follow session moves } := by
  induction moves generalizing runner with
  | nil => rfl
  | cons move moves ih => exact ih (runner.step session (.move move))

theorem follow_collect_finished {session : Session} {pool : Pool} {result : Except EngineError BatchReport} (count : Nat) :
    (mk pool (.finished result)).follow session (List.replicate count .collect) = ⟨pool, .finished result⟩ := by
  induction count with
  | zero => rfl
  | succ count ih => exact ih

/-- With all tasks done the collector gathers the outcomes of the names that are left, up to the first error. -/
theorem follow_collect {session : Session} {permits : Nat} (gathered names : List String) {outcomes : List Outcome}
    (hlength : outcomes.length = gathered.length) :
    ((mk ⟨permits, (gathered ++ names).map fun name => ⟨name, .done (session.process name)⟩⟩
      (.awaiting outcomes)).follow session (List.replicate (names.length + 1) .collect)).collector =
        .finished ((session.processAll names).map fun others => session.finish (outcomes ++ others)) := by
  induction names generalizing gathered outcomes with
  | nil =>
    have hnext : (gathered.map fun name => Task.mk name (.done (session.process name)))[outcomes.length]? = none := by
      simp [hlength]
    rw [List.length_nil, List.replicate_one, follow, List.foldl_cons, List.foldl_nil, List.append_nil]
    simp only [step, Collector.step, hnext, Session.processAll, Except.map, List.append_nil]
  | cons name names ih =>
    have hnext : ((gathered ++ name :: names).map fun name => Task.mk name (.done (session.process name)))[outcomes.length]? =
        some ⟨name, .done (session.process name)⟩ := by
      simp [hlength]
    rw [List.length_cons, List.replicate_succ, follow, List.foldl_cons]
    simp only [step, Collector.step, hnext, Session.processAll]
    cases session.process name with
    | error error => exact congrArg Runner.collector (follow_collect_finished _)
    | ok outcome =>
      have hrest := ih (gathered ++ [name]) (show (outcomes ++ [outcome]).length = _ by simp [hlength])
      rw [List.append_assoc, List.singleton_append] at hrest
      refine hrest.trans ?_
      cases session.processAll names with
      | error error => rfl
      | ok others => simp [Except.map]

end Runner

namespace Session

theorem result?_steadySchedule (session : Session) (limit : Nat) :
    ((Runner.start session limit).follow session
      (steadySchedule (min (max 1 limit) session.interfaceNames.length) session.interfaceNames.length)).collector.result? =
        some session.run := by
  rw [steadySchedule, Runner.follow_append, Runner.follow_moves, Runner.start, Pool.follow_steadyMoves]
  exact congrArg Collector.result? (Runner.follow_collect [] session.interfaceNames rfl)

/-- Processes the interfaces of the batch at the same time, but no more of them than the limit allows, or one by one if the limit is zero. -/
def runConcurrently (session : Session) (limit : Nat) : Except EngineError BatchReport :=
  let count := session.interfaceNames.length
  let runner := (Runner.start session limit).follow session (steadySchedule (min (max 1 limit) count) count)
  runner.collector.result?.get (Option.isSome_iff_exists.2 ⟨_, result?_steadySchedule session limit⟩)

end Session

end TypedMessages

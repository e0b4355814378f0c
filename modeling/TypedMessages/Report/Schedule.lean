import TypedMessages.Report.Session

/-!
# Running at the same time

Interfaces can be processed at the same time, up to a limit. Every interface is a task that waits for a permit, processes the interface while it holds the permit, and gives it back before its result can be seen. A collector awaits the tasks in their order and gathers their outcomes, up to the first task that failed. Which of them moves next is open: a schedule is any sequence of turns, and a turn that is not possible changes nothing.
-/

namespace TypedMessages

inductive TaskState
  | waiting
  | running
  /-- The interface is processed, but the permit is not given back yet. -/
  | processed (result : Except EngineError Outcome)
  | done (result : Except EngineError Outcome)

structure Task where
  name : String
  state : TaskState

namespace Task

def holdsPermit (task : Task) : Bool :=
  match task.state with
  | .running | .processed _ => true
  | .waiting | .done _ => false

end Task

/-- Tasks that share a number of permits. -/
structure Pool where
  permits : Nat
  tasks : List Task

/-- A task, given by its place, takes a permit, processes its interface, or gives the permit back. -/
inductive Move
  | acquire (task : Nat)
  | process (task : Nat)
  | release (task : Nat)
  deriving DecidableEq, Repr

namespace Pool

/-- Nothing has begun yet. There is at least one permit. -/
def start (limit : Nat) (names : List String) : Pool :=
  { permits := max 1 limit, tasks := names.map fun name => { name, state := .waiting } }

def held (pool : Pool) : Nat :=
  pool.tasks.countP Task.holdsPermit

def setState (pool : Pool) (task : Nat) (state : TaskState) : Pool :=
  { pool with tasks := pool.tasks.modify task fun task => { task with state } }

def step (session : Session) (pool : Pool) : Move → Pool
  | .acquire i =>
    match pool.tasks[i]? with
    | some ⟨_, .waiting⟩ => if pool.held < pool.permits then pool.setState i .running else pool
    | _ => pool
  | .process i =>
    match pool.tasks[i]? with
    | some ⟨name, .running⟩ => pool.setState i (.processed (session.process name))
    | _ => pool
  | .release i =>
    match pool.tasks[i]? with
    | some ⟨_, .processed result⟩ => pool.setState i (.done result)
    | _ => pool

def follow (session : Session) (pool : Pool) (moves : List Move) : Pool :=
  moves.foldl (step session) pool

end Pool

/-- What awaits the tasks in their order: it has gathered the outcomes of the first ones, or has come to a result. -/
inductive Collector
  | awaiting (outcomes : List Outcome)
  | finished (result : Except EngineError BatchReport)

namespace Collector

/-- The collector looks at the next task. It takes over its outcome or its error if the task is done, and makes the report if there is no next task. -/
def step (session : Session) (tasks : List Task) : Collector → Collector
  | awaiting outcomes =>
    match tasks[outcomes.length]? with
    | none => finished (.ok (session.finish outcomes))
    | some ⟨_, .done (.ok outcome)⟩ => awaiting (outcomes ++ [outcome])
    | some ⟨_, .done (.error error)⟩ => finished (.error error)
    | some _ => awaiting outcomes
  | finished result => finished result

def result? : Collector → Option (Except EngineError BatchReport)
  | awaiting _ => none
  | finished result => some result

end Collector

structure Runner where
  pool : Pool
  collector : Collector

inductive Turn
  | move (move : Move)
  | collect
  deriving DecidableEq, Repr

namespace Runner

def start (session : Session) (limit : Nat) : Runner :=
  { pool := Pool.start limit session.interfaceNames, collector := .awaiting [] }

def step (session : Session) (runner : Runner) : Turn → Runner
  | .move move => { runner with pool := runner.pool.step session move }
  | .collect => { runner with collector := runner.collector.step session runner.pool.tasks }

def follow (session : Session) (runner : Runner) (turns : List Turn) : Runner :=
  turns.foldl (step session) runner

end Runner

end TypedMessages

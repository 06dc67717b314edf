import DatabaseLogon.Action

namespace DatabaseLogon

/-!
# Tasks that are waited for

A task runs beside the caller who waits for it, and the caller waits only for some time. Whether
the task ends in time, is late or is never begun is up to the runtime and the clock, so it is a
parameter here.

* `Fate` — what becomes of a task; `Fate.runs` tells whether it runs at all.
* `Waited` — what the caller gets to know of it.
* `Action.beside` — what the caller does while the task is still running.
* `Task.await` — waiting for a task.
-/

/-- What becomes of a task that is waited for. -/
inductive Fate where
  /-- It ends in time. -/
  | finished
  /-- Time is up before it ends. It runs to its end all the same, and so many entries of its trace
      come before what the caller does next. -/
  | late (entries : Nat)
  /-- Time is up before it begins, and it never does. -/
  | starved
  /-- It is cancelled before it begins. The runtime gives the reason. -/
  | cancelled (reason : String)
  deriving DecidableEq, Repr

/-- Does the task run? Then it runs to its end. -/
def Fate.runs : Fate → Bool
  | .finished | .late _ => true
  | .starved | .cancelled _ => false

/-- What a caller who waits for a task gets to know of it. -/
inductive Waited (α : Type) where
  | ended (result : α)
  /-- There is no result, because the task was not run. -/
  | unjoined (reason : String)
  | timedOut

variable {σ α β : Type}

/-- Do something while a task runs to its end. It falls behind so many entries of the trace of the
    task. What is done is not to call the library, so that it may fall anywhere. -/
def Action.beside (task : Action σ Unit) (entries : Nat) (m : Action σ α) : Action σ α := fun w =>
  let background := task.run w
  let done := m.run background.world
  { done with
    trace := background.trace.take entries ++ done.trace ++ background.trace.drop entries }

@[simp] theorem Action.run_beside (task : Action σ Unit) (entries : Nat) (m : Action σ α)
    (w : World σ) :
    (task.beside entries m).run w =
      { value := (m.run (task.run w).world).value
        world := (m.run (task.run w).world).world
        trace := (task.run w).trace.take entries ++ (m.run (task.run w).world).trace
          ++ (task.run w).trace.drop entries } := rfl

/-- Wait for a task, and go on with what is known of it. What a task yields when nobody waits for it
    any more is dropped in the task. -/
def Task.await (task : Action σ α) (drop : α → Action σ Unit) (next : Waited α → Action σ β) :
    Fate → Action σ β
  | .finished => do next (.ended (← task))
  | .late entries => Action.beside (task >>= drop) entries (next .timedOut)
  | .starved => next .timedOut
  | .cancelled reason => next (.unjoined reason)

end DatabaseLogon

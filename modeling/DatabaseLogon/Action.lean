import DatabaseLogon.Client.Call
import DatabaseLogon.Event

namespace DatabaseLogon

/-!
# Actions on a client library

* `ClientLibrary` — a client library: a type of states and how each state answers a call. Nothing is
  assumed of the answers.
* `Action` — a computation that calls the library and logs events. Its `Outcome` has the trace of
  all that happened, in order, besides the value and the world afterwards.
* `World` — the library's state and the count of attempts to open a connection, which numbers the
  connections.
-/

/-- A client library with states of type `σ`. -/
class ClientLibrary (σ : Type) where
  /-- The answer to a call, and the state after it. -/
  answer : Call → σ → Reply × σ

/-- One thing that happened. -/
inductive Entry where
  /-- The library was called and replied. -/
  | called (call : Call) (reply : Reply)
  | logged (event : Event)
  deriving DecidableEq

/-- All that happened, oldest first. -/
abbrev Trace := List Entry

namespace Trace

/-- The calls of the library and its replies. -/
def calls (t : Trace) : List (Call × Reply) :=
  t.filterMap fun
    | .called call reply => some (call, reply)
    | .logged _ => none

/-- The events that were logged. -/
def events (t : Trace) : List Event :=
  t.filterMap fun
    | .called .. => none
    | .logged event => some event

@[simp] theorem calls_nil : calls [] = [] := rfl

@[simp] theorem calls_append (s t : Trace) : calls (s ++ t) = calls s ++ calls t :=
  List.filterMap_append

@[simp] theorem events_nil : events [] = [] := rfl

@[simp] theorem events_append (s t : Trace) : events (s ++ t) = events s ++ events t :=
  List.filterMap_append

end Trace

/-- What actions change. -/
structure World (σ : Type) where
  /-- The state of the client library. -/
  library : σ
  /-- How many attempts to open a connection there were. The count begins again at zero when it is
      full. -/
  attempts : UInt32
  deriving DecidableEq

/-- What comes of an action. -/
structure Outcome (σ α : Type) where
  value : α
  world : World σ
  /-- What happened during the action. -/
  trace : Trace

/-- A computation that calls a client library and logs events. -/
def Action (σ α : Type) : Type :=
  World σ → Outcome σ α

namespace Action

variable {σ α β γ : Type}

/-- Run an action. -/
def run (m : Action σ α) (w : World σ) : Outcome σ α :=
  m w

/-- An action that does nothing. -/
protected def pure (a : α) : Action σ α := fun w =>
  { value := a, world := w, trace := [] }

/-- One action and then another, in the world that the first one leaves. -/
protected def bind (m : Action σ α) (f : α → Action σ β) : Action σ β := fun w =>
  let first := m.run w
  let second := (f first.value).run first.world
  { second with trace := first.trace ++ second.trace }

instance : Monad (Action σ) where
  pure := Action.pure
  bind := Action.bind

@[simp] theorem run_pure (a : α) (w : World σ) :
    (pure a : Action σ α).run w = { value := a, world := w, trace := [] } := rfl

@[simp] theorem run_bind (m : Action σ α) (f : α → Action σ β) (w : World σ) :
    (m >>= f).run w =
      { value := ((f (m.run w).value).run (m.run w).world).value
        world := ((f (m.run w).value).run (m.run w).world).world
        trace := (m.run w).trace ++ ((f (m.run w).value).run (m.run w).world).trace } := rfl

/-- Actions that run alike are the same. -/
theorem ext {m n : Action σ α} (h : ∀ w, m.run w = n.run w) : m = n :=
  funext h

theorem bind_pure (m : Action σ α) : (m >>= fun a => pure a) = m :=
  ext fun w => by simp

theorem bind_assoc (m : Action σ α) (f : α → Action σ β) (g : β → Action σ γ) :
    (m >>= f >>= g) = (m >>= fun a => f a >>= g) :=
  ext fun w => by simp

instance : LawfulMonad (Action σ) :=
  LawfulMonad.mk' (Action σ) (fun m => bind_pure m) (fun _ _ => rfl) (fun m f g => bind_assoc m f g)

@[simp] theorem run_map (f : α → β) (m : Action σ α) (w : World σ) :
    (f <$> m).run w =
      { value := f (m.run w).value, world := (m.run w).world, trace := (m.run w).trace } := by
  rw [map_eq_pure_bind, run_bind]
  simp

/-! ### Elementary actions -/

/-- Call the library. -/
def call [ClientLibrary σ] (c : Call) : Action σ Reply := fun w =>
  let answered := ClientLibrary.answer c w.library
  { value := answered.1
    world := { w with library := answered.2 }
    trace := [.called c answered.1] }

/-- Log an event. -/
def log (e : Event) : Action σ Unit := fun w =>
  { value := (), world := w, trace := [.logged e] }

/-- The number of the next connection, which is used up. -/
def takeNumber : Action σ UInt32 := fun w =>
  { value := w.attempts, world := { w with attempts := w.attempts + 1 }, trace := [] }

/-- Change the library from outside. -/
def modifyLibrary (f : σ → σ) : Action σ Unit := fun w =>
  { value := (), world := { w with library := f w.library }, trace := [] }

/-- An action with what happened during it as part of its value. -/
def observed (m : Action σ α) : Action σ (α × Trace) := fun w =>
  { value := ((m.run w).value, (m.run w).trace)
    world := (m.run w).world
    trace := (m.run w).trace }

@[simp] theorem run_call [ClientLibrary σ] (c : Call) (w : World σ) :
    (call c).run w =
      { value := (ClientLibrary.answer c w.library).1
        world := { w with library := (ClientLibrary.answer c w.library).2 }
        trace := [.called c (ClientLibrary.answer c w.library).1] } := rfl

@[simp] theorem run_log (e : Event) (w : World σ) :
    (log e).run w = { value := (), world := w, trace := [.logged e] } := rfl

@[simp] theorem run_takeNumber (w : World σ) :
    takeNumber.run w =
      { value := w.attempts, world := { w with attempts := w.attempts + 1 }, trace := [] } := rfl

@[simp] theorem run_modifyLibrary (f : σ → σ) (w : World σ) :
    (modifyLibrary f).run w =
      { value := (), world := { w with library := f w.library }, trace := [] } := rfl

@[simp] theorem run_observed (m : Action σ α) (w : World σ) :
    (observed m).run w =
      { value := ((m.run w).value, (m.run w).trace)
        world := (m.run w).world
        trace := (m.run w).trace } := rfl

end Action

end DatabaseLogon

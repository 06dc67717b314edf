import DatabaseLogon.Client.Operations

namespace DatabaseLogon

/-!
# Owning native resources

A connection owns its resources as a list, the newest first, and gives them back in this order.

* `Resource.release` — giving one resource back.
* `releaseFrom`, `releaseAll` — giving back one after the other, whatever fails on the way, until
  none is left.
* `Climb` — an action that acquires resources and may fail; what it owns survives the failure.
* `Climb.outcome` — what comes of such an action; `outcome_bind` says that a sequence stops at the
  first failure.
-/

variable {σ : Type} [ClientLibrary σ]

/-! ### Giving back -/

/-- Give a resource back. For a handle that cannot be freed no record is read, because it may be the
    error handle itself. -/
def Resource.release (r : Resource) : Action σ (Except Error Unit) := do
  Action.log (.releasing r)
  match r with
  | .handle h kind => return (← Client.free h kind).mapError .native
  | .attachment server error => Client.reported error (Client.detach server error)
  | .session service error user =>
    Client.reported error (Client.endSession service error user)
  | .logon service error => Client.reported error (Client.logoff service error)

/-- The result of what may have failed. -/
def resultOf : Option Error → Except Error Unit
  | some e => .error e
  | none => .ok ()

/-- Take the newest resource and give it back, as long as there is one. The result is the first
    failure, which is `failed?` if something failed before; with it comes what is owned then. -/
def releaseFrom (failed? : Option Error) (held : List Resource) :
    Action σ (Except Error Unit × List Resource) :=
  match held with
  | [] => return (resultOf failed?, held)
  | r :: rest => do
    match ← r.release with
    | .ok () => releaseFrom failed? rest
    | .error e =>
      Action.log (.releaseFailed r e)
      releaseFrom (failed?.or (some e)) rest

/-- Give resources back, the newest first. All are released even if some fail; the first failure is
    the result. -/
def releaseAll (held : List Resource) : Action σ (Except Error Unit × List Resource) :=
  releaseFrom none held

/-! ### Acquiring -/

/-- An action that acquires resources, the newest first, and may fail. -/
abbrev Climb (σ : Type) := ExceptT Error (StateT (List Resource) (Action σ))

namespace Climb

variable {σ α β : Type}

/-- What comes of an action that begins with some resources. -/
def outcome (m : Climb σ α) (held : List Resource) (w : World σ) :
    Outcome σ (Except Error α × List Resource) :=
  Action.run (StateT.run (ExceptT.run m) held) w

/-- Run an action without resources, and tell its result and what it owns in the end. -/
def start (m : Climb σ α) : Action σ (Except Error α × List Resource) :=
  fun w => m.outcome [] w

/-- A step that acquires nothing. -/
def attempt (m : Action σ (Except Error α)) : Climb σ α :=
  ExceptT.mk (StateT.lift m)

/-- Log an event. -/
def log (e : Event) : Climb σ Unit :=
  attempt (do Action.log e; return .ok ())

/-- Own a resource from now on. -/
def own (r : Resource) : Climb σ Unit := do
  let held ← get
  log (.resourceAcquired r (held.length + 1))
  set (r :: held)

/-- Allocate a handle for the connection with this number, and own it. -/
def allocate [ClientLibrary σ] (id : UInt32) (environment : Handle) (kind : HandleKind) :
    Climb σ Handle := do
  let h ← attempt (do
    match ← Client.allocate environment kind with
    | .ok h => return .ok h
    | .error status =>
      Action.log (.allocationFailed kind status)
      return .error (.handleAlloc kind))
  own (.handle h kind)
  log (.acquired id kind)
  return h

@[simp] theorem outcome_pure (a : α) (held : List Resource) (w : World σ) :
    (pure a : Climb σ α).outcome held w = { value := (.ok a, held), world := w, trace := [] } := rfl

/-- A sequence stops where its first part fails, and keeps what that part owns. -/
theorem outcome_bind (m : Climb σ α) (f : α → Climb σ β) (held : List Resource) (w : World σ) :
    (m >>= f).outcome held w =
      match (m.outcome held w).value with
      | (.ok a, after) =>
        { value := ((f a).outcome after (m.outcome held w).world).value
          world := ((f a).outcome after (m.outcome held w).world).world
          trace := (m.outcome held w).trace
            ++ ((f a).outcome after (m.outcome held w).world).trace }
      | (.error e, after) =>
        { value := (.error e, after)
          world := (m.outcome held w).world
          trace := (m.outcome held w).trace } := by
  simp only [outcome, ExceptT.run_bind, StateT.run_bind, Action.run_bind]
  generalize Action.run (StateT.run (ExceptT.run m) held) w = r
  obtain ⟨⟨v, h⟩, w', t⟩ := r
  cases v <;> simp

@[simp] theorem outcome_attempt (m : Action σ (Except Error α)) (held : List Resource)
    (w : World σ) :
    (attempt m).outcome held w =
      { value := ((m.run w).value, held), world := (m.run w).world, trace := (m.run w).trace } := by
  simp [outcome, attempt]

@[simp] theorem outcome_log (e : Event) (held : List Resource) (w : World σ) :
    (log e).outcome held w = { value := (.ok (), held), world := w, trace := [.logged e] } := by
  simp [log]

@[simp] theorem outcome_own (r : Resource) (held : List Resource) (w : World σ) :
    (own r).outcome held w =
      { value := (.ok (), r :: held)
        world := w
        trace := [.logged (.resourceAcquired r (held.length + 1))] } := rfl

end Climb

end DatabaseLogon

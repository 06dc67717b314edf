import DatabaseLogon.Client.Operations
import DatabaseLogon.Proofs.CallLog
import DatabaseLogon.Task

namespace DatabaseLogon

/-!
# Attempts

Almost everything that is done with the client library is an attempt: one call, and if it fails
perhaps one more at once, which reads the diagnostic or frees the environment that came with the
failure. This module says so once for each operation; later proofs take their operations apart with
`cases` on an `Attempt`.

* `World.reply`, `World.after` — the reply to a call and the world behind it.
* `Action.Quiet` — an action that calls nothing.
* `Makes` — an operation that makes one call, and succeeds exactly if the call does.
* `Aftermath` — what follows a failed call at once.
* `Client.verdict` — the error that a failed status means.
* `Attempt` — what comes of an attempt.
-/

variable {σ α β ε ε' : Type}

/-! ### Actions without calls -/

/-- An action makes no call and leaves the world alone; its value is `a`. It may log. -/
structure Action.Quiet (m : Action σ α) (a : α) : Prop where
  value : ∀ w, (m.run w).value = a
  world : ∀ w, (m.run w).world = w
  calls : ∀ w, (m.run w).trace.calls = []

namespace Action.Quiet

theorem pure (a : α) : (Pure.pure a : Action σ α).Quiet a :=
  ⟨fun _ => rfl, fun _ => rfl, fun _ => rfl⟩

theorem log (e : Event) : (Action.log e : Action σ Unit).Quiet () :=
  ⟨fun _ => rfl, fun _ => rfl, fun _ => rfl⟩

theorem bind {m : Action σ α} {f : α → Action σ β} {a : α} {b : β} (hm : m.Quiet a)
    (hf : (f a).Quiet b) : (m >>= f).Quiet b where
  value w := by rw [run_bind]; simp only [hm.value, hf.value]
  world w := by rw [run_bind]; simp only [hm.value, hm.world, hf.world]
  calls w := by
    rw [run_bind]
    simp only [Trace.calls_append, hm.value, hm.calls, hf.calls, List.append_nil]

/-- To log an event on the way to a value. -/
theorem logged (e : Event) (a : α) : (do Action.log e; return a : Action σ α).Quiet a :=
  (log e).bind (f := fun _ => Pure.pure a) (pure a)

/-- Done beside a task, it changes nothing but where in the trace it is logged. -/
theorem beside {m : Action σ α} {a : α} (hm : m.Quiet a) (task : Action σ Unit) (entries : Nat)
    (w : World σ) :
    let o := (task.beside entries m).run w
    o.value = a ∧ o.world = (task.run w).world ∧ o.trace.calls = (task.run w).trace.calls := by
  refine ⟨hm.value _, hm.world _, ?_⟩
  rw [run_beside, Trace.calls_append, Trace.calls_append, hm.calls, List.append_nil,
    ← Trace.calls_append, List.take_append_drop]

end Action.Quiet

/-! ### Checks of a status -/

namespace Client

theorem isSuccess_status (r : Reply) : r.status.isSuccess = decide (r.code = 0) := by
  simp [Status.isSuccess, Reply.status, Status.success]

theorem isSuccessOrInfo_status (r : Reply) :
    r.status.isSuccessOrInfo = (decide (r.code = 0) || decide (r.code = 1)) := by
  simp [Status.isSuccessOrInfo, Reply.status, Status.success, Status.successWithInfo]

/-- A remark is only logged. -/
theorem quiet_checkWithInfo (r : Reply) :
    (checkWithInfo r : Action σ _).Quiet
      (if r.code = 0 ∨ r.code = 1 then .ok () else .error r.status) := by
  have value : (if r.code = 0 ∨ r.code = 1 then Except.ok () else .error r.status)
      = if r.status.isSuccessOrInfo then .ok () else .error r.status := by
    simp [isSuccessOrInfo_status]
  rw [value]
  unfold checkWithInfo
  by_cases h : r.status = .successWithInfo
  · simp only [h, if_true]
    exact (Action.Quiet.log _).bind (.pure _)
  · simp only [h, if_false]
    exact .pure _

end Client

/-! ### Operations that make one call -/

section Operations

variable [ClientLibrary σ]

/-- The reply that a call would get. -/
def World.reply (w : World σ) (c : Call) : Reply :=
  (ClientLibrary.answer c w.library).1

/-- The world after a call. -/
def World.after (w : World σ) (c : Call) : World σ :=
  { w with library := (ClientLibrary.answer c w.library).2 }

/-- The status with which an operation fails: the one that its call returned, or, where a handle is
    missing, the one for handles that are invalid. -/
def Call.failure (c : Call) (r : Reply) : Status :=
  if c.accepts r.code then .invalidHandle else r.status

/-- An operation fails with the status for errors exactly if that is what its call returned. -/
theorem Call.failure_eq_error_iff (c : Call) (r : Reply) : c.failure r = .error ↔ r.code = -1 := by
  by_cases h : c.accepts r.code
  · -- a code that means success is not the one for errors
    have code : r.code ≠ -1 := by
      intro failed
      rw [failed, c.not_accepts_error] at h
      cases h
    rw [failure, if_pos h]
    exact iff_of_false (by decide) code
  · rw [failure, if_neg h, Reply.status, Status.error, Status.mk.injEq]

/-- An operation makes one call, and succeeds exactly if the call does. -/
structure Makes (m : Action σ (Except Status α)) (c : Call) (yields : Reply → α → Prop) : Prop where
  calls : ∀ w, (m.run w).trace.calls = [(c, w.reply c)]
  world : ∀ w, (m.run w).world = w.after c
  value : ∀ w, (∃ a, (m.run w).value = .ok a ∧ c.succeeds (w.reply c) ∧ yields (w.reply c) a) ∨
    (m.run w).value = .error (c.failure (w.reply c)) ∧ ¬ c.succeeds (w.reply c)

namespace Makes

variable {c : Call}

/-- After the call an operation only looks at the reply. -/
theorem of_quiet {f : Reply → Action σ (Except Status α)} {v : Reply → Except Status α}
    {yields : Reply → α → Prop} (quiet : ∀ r, (f r).Quiet (v r))
    (value : ∀ r, (∃ a, v r = .ok a ∧ c.succeeds r ∧ yields r a) ∨
      v r = .error (c.failure r) ∧ ¬ c.succeeds r) :
    Makes (Action.call c >>= f) c yields where
  calls w := by
    rw [Action.run_bind, Trace.calls_append, (quiet _).calls, List.append_nil]
    rfl
  world w := by
    rw [Action.run_bind]
    exact (quiet _).world _
  value w := by
    rw [Action.run_bind]
    simp only [(quiet _).value]
    exact value (w.reply c)

/-- A call that writes no handle is judged by its return code. -/
theorem of_code {f : Reply → Action σ (Except Status Unit)}
    (quiet : ∀ r, (f r).Quiet (if c.accepts r.code then .ok () else .error r.status))
    (writes : c.entryPoint.producesHandle = false) :
    Makes (Action.call c >>= f) c (fun _ _ => True) := by
  apply of_quiet quiet
  intro r
  by_cases h : c.accepts r.code
  · have succeeds : c.succeeds r := by simp [Call.succeeds, h, writes]
    exact .inl ⟨(), if_pos h, succeeds, trivial⟩
  · have fails : ¬ c.succeeds r := by simp [Call.succeeds, h]
    exact .inr ⟨by simp [h, Call.failure], fails⟩

/-- A call that writes a handle is judged by its return code and by the handle. -/
theorem of_handle {f : Reply → Action σ (Except Status Handle)}
    (quiet : ∀ r, (f r).Quiet (if c.accepts r.code then Client.produced r else .error r.status))
    (writes : c.entryPoint.producesHandle = true) :
    Makes (Action.call c >>= f) c (fun r h => r.handle = some h) := by
  apply of_quiet quiet
  intro r
  by_cases h : c.accepts r.code
  · cases hr : r.handle with
    | some handle =>
      have succeeds : c.succeeds r := by simp [Call.succeeds, h, hr]
      exact .inl ⟨handle, by simp [h, Client.produced, hr], succeeds, rfl⟩
    | none =>
      -- the code means success, but the handle that should come with it is missing
      have fails : ¬ c.succeeds r := by simp [Call.succeeds, writes, hr]
      exact .inr ⟨by simp [h, Client.produced, hr, Call.failure], fails⟩
  · have fails : ¬ c.succeeds r := by simp [Call.succeeds, h]
    exact .inr ⟨by simp [h, Call.failure], fails⟩

end Makes

namespace Client

/-- A call that writes no handle and succeeds on 0 only: freeing a handle, attaching and detaching,
    setting an attribute, ending a session, logging off, and all that concerns transactions. -/
theorem makes_check {c : Call} (accepts : ∀ code, c.accepts code = decide (code = 0))
    (writes : c.entryPoint.producesHandle = false) :
    Makes (do return check (← Action.call c) : Action σ _) c (fun _ _ => True) := by
  apply Makes.of_code _ writes
  intro r
  rw [accepts, ← isSuccess_status]
  exact .pure (check r)

theorem makes_beginSession (service error session : Handle) (credential : Credential)
    (mode : PrivilegedMode) :
    Makes (beginSession service error session credential mode : Action σ _)
      (.sessionBegin service error session credential mode) (fun _ _ => True) := by
  apply Makes.of_code _ rfl
  intro r
  simpa [Call.accepts, Call.entryPoint] using quiet_checkWithInfo r

theorem makes_allocate (environment : Handle) (kind : HandleKind) :
    Makes (allocate environment kind : Action σ _) (.handleAlloc environment kind)
      (fun r h => r.handle = some h) := by
  apply Makes.of_handle _ rfl
  intro r
  by_cases h : r.code = 0
  · simpa [Call.accepts, Call.entryPoint, check, isSuccess_status, h] using .pure (produced r)
  · simpa [Call.accepts, Call.entryPoint, check, isSuccess_status, h] using .pure _

theorem makes_logon (environment error : Handle) (username password link : String) :
    Makes (logon environment error username password link : Action σ _)
      (.logon environment error username password link) (fun r h => r.handle = some h) := by
  refine Makes.of_handle (fun r => (quiet_checkWithInfo r).bind ?_) rfl
  by_cases h : r.code = 0 ∨ r.code = 1
  · simpa [Call.accepts, Call.entryPoint, h] using .pure (produced r)
  · simpa [Call.accepts, Call.entryPoint, h] using .pure _

end Client

/-! ### Attempts -/

/-- What follows a failed call at once, in the world `w` behind it: nothing, the reading of the
    diagnostic that the call left, or the freeing of what the failure left behind. -/
inductive Aftermath (c : Call) (r : Reply) (w : World σ) : CallLog → World σ → Prop
  | nothing (leaves : c.leaves? r = none) (owes : c.owes? r = none) : Aftermath c r w [] w
  | reading (error : Handle) (owes : c.owes? r = some error) (leaves : c.leaves? r = none) :
    Aftermath c r w [(.errorGet error, w.reply (.errorGet error))] (w.after (.errorGet error))
  | discarding (h : Handle) (leaves : c.leaves? r = some (.handle h .environment)) :
    Aftermath c r w [(.handleFree h .environment, w.reply (.handleFree h .environment))]
      (w.after (.handleFree h .environment))

/-- What comes of an attempt to make a call. What a success yields goes by the reply, what a failure
    is blamed on by the reply and by what followed it. -/
inductive Attempt (c : Call) (yields : Reply → α → Prop) (blames : Reply → CallLog → ε → Prop)
    (w : World σ) (o : Outcome σ (Except ε α)) : Prop
  | success (a : α) (value : o.value = .ok a) (succeeds : c.succeeds (w.reply c))
    (yields : yields (w.reply c) a) (calls : o.trace.calls = [(c, w.reply c)])
    (world : o.world = w.after c)
  | failure (e : ε) (rest : CallLog) (value : o.value = .error e)
    (fails : ¬ c.succeeds (w.reply c)) (calls : o.trace.calls = (c, w.reply c) :: rest)
    (aftermath : Aftermath c (w.reply c) (w.after c) rest o.world)
    (blame : blames (w.reply c) rest e)

namespace Attempt

variable {c : Call} {yields : Reply → α → Prop} {blames : Reply → CallLog → ε → Prop}
  {blames' : Reply → CallLog → ε' → Prop} {w : World σ}

/-- An attempt begins with its call. -/
theorem begins {o : Outcome σ (Except ε α)} (h : Attempt c yields blames w o) :
    ∃ rest, o.trace.calls = (c, w.reply c) :: rest := by
  cases h with
  | success a value succeeds yields calls world => exact ⟨[], calls⟩
  | failure e rest value fails calls aftermath blame => exact ⟨rest, calls⟩

/-- A call, and then nothing on success or the aftermath of a failure. -/
theorem of_call {f : Reply → Action σ (Except ε α)}
    (h : (∃ a, (f (w.reply c)).Quiet (.ok a) ∧ c.succeeds (w.reply c) ∧ yields (w.reply c) a) ∨
      ∃ e, ((f (w.reply c)).run (w.after c)).value = .error e ∧ ¬ c.succeeds (w.reply c) ∧
        Aftermath c (w.reply c) (w.after c) ((f (w.reply c)).run (w.after c)).trace.calls
          ((f (w.reply c)).run (w.after c)).world ∧
        blames (w.reply c) ((f (w.reply c)).run (w.after c)).trace.calls e) :
    Attempt c yields blames w ((Action.call c >>= f).run w) := by
  have calls : ((Action.call c >>= f).run w).trace.calls
      = (c, w.reply c) :: ((f (w.reply c)).run (w.after c)).trace.calls := rfl
  rcases h with ⟨a, quiet, succeeds, ha⟩ | ⟨e, value, fails, aftermath, blame⟩
  · exact .success a (quiet.value _) succeeds ha (by rw [calls, quiet.calls]) (quiet.world _)
  · exact .failure e _ value fails calls aftermath blame

/-- What is logged or said about the value afterwards makes no difference. -/
theorem bind_quiet {m : Action σ (Except ε α)} {g : Except ε α → Action σ (Except ε' α)}
    (hm : Attempt c yields blames w (m.run w)) (ok : ∀ a, (g (.ok a)).Quiet (.ok a))
    (error : ∀ e rest, blames (w.reply c) rest e →
      ∃ e', (g (.error e)).Quiet (.error e') ∧ blames' (w.reply c) rest e') :
    Attempt c yields blames' w ((m >>= g).run w) := by
  rw [Action.run_bind]
  cases hm with
  | success a value succeeds ha calls world =>
    rw [value]
    refine .success a ((ok a).value _) succeeds ha ?_ (((ok a).world _).trans world)
    rw [Trace.calls_append, (ok a).calls, List.append_nil, calls]
  | failure e rest value fails calls aftermath blame =>
    rw [value]
    obtain ⟨e', quiet, blame'⟩ := error e rest blame
    refine .failure e' rest (quiet.value _) fails ?_ (by rwa [quiet.world]) blame'
    rw [Trace.calls_append, quiet.calls, List.append_nil, calls]

/-- What is logged before makes no difference. -/
theorem after_log {m : Action σ (Except ε α)} (e : Event)
    (hm : Attempt c yields blames w (m.run w)) :
    Attempt c yields blames w ((Action.log e >>= fun _ => m).run w) := by
  rw [Action.run_bind, Action.run_log]
  cases hm with
  | success a value succeeds ha calls world =>
    exact .success a value succeeds ha calls world
  | failure e' rest value fails calls aftermath blame =>
    exact .failure e' rest value fails calls aftermath blame

end Attempt

/-- An operation that makes one call without an error handle is an attempt without reading. Its
    failure is the status. -/
theorem Makes.attempt {m : Action σ (Except Status α)} {c : Call} {yields : Reply → α → Prop}
    (hm : Makes m c yields) (leaves : ∀ r, c.leaves? r = none) (silent : c.error? = none)
    (w : World σ) :
    Attempt c yields (fun r rest status => rest = [] ∧ status = c.failure r) w (m.run w) := by
  rcases hm.value w with ⟨a, value, succeeds, ha⟩ | ⟨value, fails⟩
  · exact .success a value succeeds ha (hm.calls w) (hm.world w)
  · have owes := Call.owes?_eq_none_of_error? silent (w.reply c)
    exact .failure _ [] value fails (hm.calls w) (hm.world w ▸ .nothing (leaves _) owes)
      ⟨rfl, rfl⟩

namespace Client

/-- The error that a failed status means, where `rest` is what was read because of it: the record,
    if there is one, and else the status itself. -/
def verdict (status : Status) (rest : CallLog) : Error :=
  match rest.head?.bind fun e => recordOf e.2 with
  | some record => .oracle record
  | none => .native status

/-- What was read is a record if the reading succeeded without a remark. -/
theorem verdict_cons (status : Status) (e : Call × Reply) (rest : CallLog) :
    verdict status (e :: rest) =
      if e.2.code = 0 then .oracle (Diagnostic.ofText e.2.errorCode (bufferText e.2.errorText))
      else .native status := by
  by_cases h : e.2.code = 0 <;> simp [verdict, recordOf, isSuccess_status, h]

/-- The status for errors has the diagnostic read, which is the error if it can be read. -/
theorem run_errorOf_error (error : Handle) (w : World σ) :
    (errorOf error .error).run w =
      { value := verdict .error [(.errorGet error, w.reply (.errorGet error))]
        world := w.after (.errorGet error)
        trace := [.called (.errorGet error) (w.reply (.errorGet error))] } := by
  simp only [errorOf, readDiagnostic, if_true, Action.run_bind, Action.run_call, Action.run_pure,
    World.reply, verdict, List.head?_cons, Option.bind_some]
  cases recordOf (ClientLibrary.answer (.errorGet error) w.library).1 <;> rfl

/-- Any other status is the error itself. -/
theorem run_errorOf_of_ne {status : Status} (h : status ≠ .error) (error : Handle)
    (w : World σ) :
    (errorOf error status).run w = { value := .native status, world := w, trace := [] } := by
  rw [errorOf, if_neg h]
  rfl

/-- An error is found by reading the diagnostic that the failed call left, if it left one. -/
theorem aftermath_errorOf {c : Call} {r : Reply} {error : Handle} (passed : c.error? = some error)
    (leaves : c.leaves? r = none) (w : World σ) :
    Aftermath c r w ((errorOf error (c.failure r)).run w).trace.calls
        ((errorOf error (c.failure r)).run w).world ∧
      ((errorOf error (c.failure r)).run w).value
        = verdict (c.failure r) ((errorOf error (c.failure r)).run w).trace.calls := by
  by_cases failed : r.code = -1
  · have owes : c.owes? r = some error := by rw [Call.owes?, if_pos failed, passed]
    rw [(c.failure_eq_error_iff r).mpr failed, run_errorOf_error]
    exact ⟨.reading error owes leaves, rfl⟩
  · have owes : c.owes? r = none := by rw [Call.owes?, if_neg failed]
    rw [run_errorOf_of_ne (mt (c.failure_eq_error_iff r).mp failed)]
    exact ⟨.nothing leaves owes, rfl⟩

theorem run_reported_of_ok {m : Action σ (Except Status α)} {w : World σ} {a : α}
    (value : (m.run w).value = .ok a) (error : Handle) :
    (reported error m).run w =
      { value := .ok a, world := (m.run w).world, trace := (m.run w).trace } := by
  simp only [reported, Action.run_bind, value, Action.run_pure, List.append_nil]

theorem run_reported_of_error {m : Action σ (Except Status α)} {w : World σ} {status : Status}
    (value : (m.run w).value = .error status) (error : Handle) :
    (reported error m).run w =
      { value := .error ((errorOf error status).run (m.run w).world).value
        world := ((errorOf error status).run (m.run w).world).world
        trace := (m.run w).trace ++ ((errorOf error status).run (m.run w).world).trace } := by
  simp only [reported, Action.run_bind, value, Action.run_pure, List.append_nil]

/-- An operation whose failures are reported is an attempt. -/
theorem attempt_reported {m : Action σ (Except Status α)} {c : Call} {yields : Reply → α → Prop}
    (hm : Makes m c yields) (error : Handle) (passed : c.error? = some error)
    (leaves : ∀ r, c.leaves? r = none) (w : World σ) :
    Attempt c yields (fun r rest e => e = verdict (c.failure r) rest) w
      ((reported error m).run w) := by
  rcases hm.value w with ⟨a, value, succeeds, ha⟩ | ⟨value, fails⟩
  · rw [run_reported_of_ok value]
    exact .success a rfl succeeds ha (hm.calls w) (hm.world w)
  · rw [run_reported_of_error value]
    have calls (trace : Trace) :
        ((m.run w).trace ++ trace).calls = (c, w.reply c) :: trace.calls := by
      rw [Trace.calls_append, hm.calls]
      rfl
    obtain ⟨aftermath, blame⟩ := aftermath_errorOf passed (leaves (w.reply c)) (m.run w).world
    rw [hm.world] at aftermath blame
    refine .failure _ _ rfl fails (calls _) ?_ ?_
    · rw [hm.world]
      exact aftermath
    · rw [hm.world]
      exact blame

/-- Freeing an environment that nobody owns is one call, whatever comes of it. -/
theorem run_discardEnvironment (h : Handle) (w : World σ) :
    ((discardEnvironment h).run w).trace.calls
        = [(.handleFree h .environment, w.reply (.handleFree h .environment))] ∧
      ((discardEnvironment h).run w).world = w.after (.handleFree h .environment) := by
  have freed : Makes (free h .environment : Action σ _) (.handleFree h .environment)
      (fun _ _ => True) := makes_check (fun _ => rfl) rfl
  simp only [discardEnvironment, Action.run_bind, Trace.calls_append, freed.calls, freed.world]
  rcases freed.value w with ⟨a, value, -⟩ | ⟨value, -⟩ <;> rw [value] <;> exact ⟨rfl, rfl⟩

/-- What is done with the reply when an environment is created. -/
def judgeEnvironment (r : Reply) : Action σ (Except Status Handle) := do
  match ← checkWithInfo r with
  | .ok () => return produced r
  | .error status =>
    match r.handle with
    | some orphan => discardEnvironment orphan
    | none => pure ()
    return .error status

theorem createEnvironment_eq (mode : Nat) :
    (createEnvironment mode : Action σ _) = Action.call (.envCreate mode) >>= judgeEnvironment :=
  rfl

/-- With a return code that means success nothing is freed. -/
theorem quiet_judgeEnvironment {r : Reply} (h : r.code = 0 ∨ r.code = 1) :
    (judgeEnvironment r : Action σ _).Quiet (produced r) := by
  have looked := quiet_checkWithInfo (σ := σ) r
  rw [if_pos h] at looked
  exact looked.bind (.pure _)

/-- With any other return code the environment that was written, if there is one, is freed. -/
theorem aftermath_judgeEnvironment {r : Reply} (h : ¬ (r.code = 0 ∨ r.code = 1)) (mode : Nat)
    (w : World σ) :
    ((judgeEnvironment r).run w).value = .error r.status ∧
      Aftermath (.envCreate mode) r w ((judgeEnvironment r).run w).trace.calls
        ((judgeEnvironment r).run w).world := by
  have looked := quiet_checkWithInfo (σ := σ) r
  rw [if_neg h] at looked
  -- whatever handle was written is left behind, since the code means failure
  have leaves : (Call.envCreate mode).leaves? r = r.handle.map (.handle · .environment) := by
    simpa [Call.leaves?, Call.accepts, Call.entryPoint] using fun h' => absurd h' h
  cases handle : r.handle with
  | none =>
    have quiet : (judgeEnvironment r : Action σ _).Quiet (.error r.status) := by
      unfold judgeEnvironment
      simp only [handle]
      exact looked.bind (.pure _)
    rw [quiet.calls, quiet.world]
    exact ⟨quiet.value w, .nothing (by simp [leaves, handle]) (Call.owes?_eq_none_of_error? rfl r)⟩
  | some orphan =>
    have freed := run_discardEnvironment orphan w
    simp only [judgeEnvironment, Action.run_bind, looked.value, looked.world, looked.calls, handle,
      Action.run_pure, Trace.calls_append, List.nil_append, freed, List.append_nil]
    exact ⟨trivial, .discarding orphan (by simp [leaves, handle])⟩

/-- Creating an environment is an attempt, which frees an environment that came with a failure. Its
    failure is the status. -/
theorem attempt_createEnvironment (mode : Nat) (w : World σ) :
    Attempt (.envCreate mode) (fun r h => r.handle = some h)
      (fun r _ status => status = (Call.envCreate mode).failure r) w
      ((createEnvironment mode).run w) := by
  rw [createEnvironment_eq]
  apply Attempt.of_call
  generalize w.reply (.envCreate mode) = r
  have accepts : (Call.envCreate mode).accepts r.code = decide (r.code = 0 ∨ r.code = 1) := by
    simp [Call.accepts, Call.entryPoint]
  by_cases accepted : r.code = 0 ∨ r.code = 1
  · have quiet := quiet_judgeEnvironment (σ := σ) accepted
    cases handle : r.handle with
    | some h =>
      rw [produced, handle] at quiet
      exact .inl ⟨h, quiet, by simp [Call.succeeds, accepts, accepted, handle], rfl⟩
    | none =>
      rw [produced, handle] at quiet
      have fails : ¬ (Call.envCreate mode).succeeds r := by
        simp [Call.succeeds, Call.entryPoint, EntryPoint.producesHandle, handle]
      refine .inr ⟨_, quiet.value _, fails, ?_, by simp [Call.failure, accepts, accepted]⟩
      rw [quiet.calls, quiet.world]
      -- the failure is found by the handle that is missing, so there is nothing to free
      exact .nothing (by simp [Call.leaves?, accepts, accepted])
        (Call.owes?_eq_none_of_error? rfl r)
  · obtain ⟨value, aftermath⟩ := aftermath_judgeEnvironment accepted mode (w.after _)
    exact .inr ⟨_, value, by simp [Call.succeeds, accepts, accepted], aftermath,
      by simp [Call.failure, accepts, accepted]⟩

end Client

end Operations

end DatabaseLogon

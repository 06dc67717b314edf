import DatabaseLogon.Proofs.Holdings

namespace DatabaseLogon

/-!
# Closing and letting go

To give resources back is one release for each of them, whatever fails, and the first failure is the
one that is reported. To close a connection is to do this, and to let go of it without closing it is
the same again but for the report.

* `Return` — how one release went: the reply to its call and what was read because of it.
* `Return.Happens`, `Return.Happen` — one release in a world, and releases one after the other.
* `Resource.run_release` — what a release is, events included.
* `Released` — what comes of giving resources back, told by the releases.
* `releaseAll_reports` — so it is for all resources, and closing an open connection is this.
* `Connection.closeTimes` — closing again and again.
* `Connection.release_eq_close` — letting go of a connection is closing it.
-/

variable {σ : Type} [ClientLibrary σ]

/-! ### One release -/

/-- How it went to give one resource back. -/
structure Return where
  resource : Resource
  /-- The reply to the call that gave it back. -/
  reply : Reply
  /-- What was read because the call failed, if anything was. -/
  reading : CallLog

namespace Return

/-- The error that a failed release means: the record that was read, or else the status. -/
def error (x : Return) : Error :=
  Client.verdict x.reply.status x.reading

/-- The result of releases: that of the first one that failed, whatever comes behind it. -/
def result : List Return → Except Error Unit
  | [] => .ok ()
  | x :: rest => if x.reply.code = 0 then result rest else .error x.error

/-- A release is logged, and then come its calls. -/
def attempt (x : Return) : Trace :=
  .logged (.releasing x.resource) :: .called x.resource.giveBack x.reply ::
    x.reading.map fun e => .called e.1 e.2

/-- All that happens in a release. A failure is logged behind the calls. -/
def trace (x : Return) : Trace :=
  x.attempt ++ if x.reply.code = 0 then [] else [.logged (.releaseFailed x.resource x.error)]

/-- What is logged in a release. -/
def events (x : Return) : List Event :=
  .releasing x.resource ::
    if x.reply.code = 0 then [] else [.releaseFailed x.resource x.error]

/-- A resource is given back in a world: the library replies to the call, and if that leaves a
    diagnostic, replies to the reading of it. -/
inductive Happens (w : World σ) : Return → World σ → Prop
  | silent {r : Resource} (owes : r.giveBack.owes? (w.reply r.giveBack) = none) :
    Happens w ⟨r, w.reply r.giveBack, []⟩ (w.after r.giveBack)
  | read {r : Resource} {error : Handle}
    (owes : r.giveBack.owes? (w.reply r.giveBack) = some error) :
    Happens w
      ⟨r, w.reply r.giveBack, [(.errorGet error, (w.after r.giveBack).reply (.errorGet error))]⟩
      ((w.after r.giveBack).after (.errorGet error))

/-- Resources are given back one after the other, each in the world that the one before leaves. -/
inductive Happen : World σ → List Return → World σ → Prop
  | nil (w : World σ) : Happen w [] w
  | cons {w w' w'' : World σ} {x : Return} {rest : List Return} (first : x.Happens w w')
    (others : Happen w' rest w'') : Happen w (x :: rest) w''

theorem events_trace (x : Return) : x.trace.events = x.events := by
  have calls (log : CallLog) : Trace.events (log.map fun e => .called e.1 e.2) = [] := by
    rw [Trace.events, List.filterMap_map]
    exact List.filterMap_eq_nil_iff.mpr fun e _ => rfl
  rw [trace, attempt, events, Trace.events_append]
  show (_ :: Trace.events (x.reading.map _)) ++ _ = _
  rw [calls]
  by_cases ok : x.reply.code = 0
  · rw [if_pos ok, if_pos ok]
    rfl
  · rw [if_neg ok, if_neg ok]
    rfl

theorem events_flatMap_trace (returns : List Return) :
    Trace.events (returns.flatMap trace) = returns.flatMap events := by
  induction returns with
  | nil => rfl
  | cons x rest ih =>
    rw [List.flatMap_cons, List.flatMap_cons, Trace.events_append, events_trace, ih]

/-- The release is logged as a trace, and a failure as a warning. -/
theorem level_events (x : Return) :
    x.events.map Event.level = .trace :: if x.reply.code = 0 then [] else [.warn] := by
  rw [events]
  by_cases ok : x.reply.code = 0
  · rw [if_pos ok, if_pos ok]
    rfl
  · rw [if_neg ok, if_neg ok]
    rfl

/-- Exactly the diagnostic that the call left is read. -/
theorem Happens.reading_eq {w w' : World σ} {x : Return} (h : x.Happens w w') :
    x.reading.map Prod.fst = (x.resource.giveBack.owes? x.reply).toList.map .errorGet := by
  cases h with
  | silent owes => rw [owes]; rfl
  | read owes => rw [owes]; rfl

theorem Happen.reading_eq {w w' : World σ} {returns : List Return} (h : Happen w returns w') :
    ∀ x ∈ returns,
      x.reading.map Prod.fst = (x.resource.giveBack.owes? x.reply).toList.map .errorGet := by
  induction h with
  | nil w => exact fun x hx => by cases hx
  | cons first others ih =>
    intro x hx
    rcases List.mem_cons.mp hx with rfl | hx
    · exact first.reading_eq
    · exact ih x hx

end Return

theorem Client.check_of_ok {reply : Reply} (ok : reply.code = 0) : check reply = .ok () := by
  rw [check, isSuccess_status, ok]
  rfl

theorem Client.check_of_error {reply : Reply} (failed : reply.code ≠ 0) :
    check reply = .error reply.status := by
  rw [check, isSuccess_status, if_neg (by simpa using failed)]

namespace Resource

/-- To release a handle is to look at the return code of the call. -/
theorem release_of_silent {r : Resource} (silent : r.giveBack.error? = none) :
    (r.release : Action σ _) = (do
      Action.log (.releasing r)
      return (Client.check (← Action.call r.giveBack)).mapError .native) := by
  cases r with
  | handle h kind => rfl
  | attachment | session | logon => cases silent

/-- To release anything else is to ask the error handle as well. -/
theorem release_of_error? {r : Resource} {error : Handle}
    (passed : r.giveBack.error? = some error) :
    (r.release : Action σ _) = (do
      Action.log (.releasing r)
      Client.reported error (do return Client.check (← Action.call r.giveBack))) := by
  cases r with
  | handle h kind => cases passed
  | attachment | session | logon =>
    cases passed
    rfl

/-- **What a release is**: it is logged, the call is made, and what it left to be read is read. -/
theorem run_release (r : Resource) (w : World σ) :
    ∃ x after, Return.Happens w x after ∧ x.resource = r ∧
      r.release.run w = { value := Return.result [x], world := after, trace := x.attempt } := by
  cases passed : r.giveBack.error? with
  | none =>
    have owes := Call.owes?_eq_none_of_error? passed (w.reply r.giveBack)
    refine ⟨_, _, .silent owes, rfl, ?_⟩
    rw [release_of_silent passed, Return.result]
    show Outcome.mk ((Client.check (w.reply r.giveBack)).mapError Error.native) _ _ = _
    by_cases ok : (w.reply r.giveBack).code = 0
    · rw [Client.check_of_ok ok, if_pos ok]
      rfl
    · rw [Client.check_of_error ok, if_neg ok]
      rfl
  | some error =>
    have made : ((do return Client.check (← Action.call r.giveBack) : Action σ _).run w).value
        = Client.check (w.reply r.giveBack) := rfl
    rw [release_of_error? passed, Action.run_bind, Action.run_log]
    by_cases ok : (w.reply r.giveBack).code = 0
    · have owes : r.giveBack.owes? (w.reply r.giveBack) = none := if_neg (by omega)
      rw [Client.check_of_ok ok] at made
      refine ⟨_, _, .silent owes, rfl, ?_⟩
      rw [Client.run_reported_of_ok made, Return.result, if_pos ok]
      rfl
    · rw [Client.check_of_error ok] at made
      rw [Client.run_reported_of_error made]
      -- only the code for errors has a diagnostic read
      by_cases failed : (w.reply r.giveBack).code = -1
      · have owes := Call.owes?_eq_some_iff.mpr ⟨failed, passed⟩
        have status : (w.reply r.giveBack).status = .error := by
          rw [Reply.status, failed]
          rfl
        refine ⟨_, _, .read owes, rfl, ?_⟩
        rw [Return.result, if_neg ok, Return.error, status, Client.run_errorOf_error]
        rfl
      · have owes : r.giveBack.owes? (w.reply r.giveBack) = none := if_neg failed
        have status : (w.reply r.giveBack).status ≠ .error := by
          rw [Reply.status, Status.error, ne_eq, Status.mk.injEq]
          exact failed
        refine ⟨_, _, .silent owes, rfl, ?_⟩
        rw [Return.result, if_neg ok, Client.run_errorOf_of_ne status]
        rfl

end Resource

/-! ### All releases -/

/-- To give resources back is one release for each, in their order, and nothing is left of them. -/
theorem run_releaseAll (held : List Resource) (w : World σ) :
    ∃ returns after, Return.Happen w returns after ∧ returns.map Return.resource = held ∧
      (releaseAll held).run w =
        { value := (Return.result returns, []), world := after
          trace := returns.flatMap Return.trace } := by
  induction held generalizing w with
  | nil => exact ⟨[], w, .nil w, rfl, rfl⟩
  | cons r rest ih =>
    obtain ⟨x, w', first, rfl, released⟩ := r.run_release w
    obtain ⟨returns, after, others, complete, run⟩ := ih w'
    refine ⟨x :: returns, after, .cons first others, congrArg _ complete, ?_⟩
    rw [releaseAll, releaseFrom, Action.run_bind, released, List.flatMap_cons, Return.trace]
    by_cases ok : x.reply.code = 0
    · simp only [Return.result, if_pos ok, run_releaseFrom, run, List.append_nil, Option.elim]
    · -- the failure is logged, and of what comes behind it only the result is dropped
      simp only [Return.result, if_neg ok, run_releaseFrom, run, Action.run_bind, Action.run_log,
        List.append_assoc]
      rfl

namespace Return

/-- The result is a success exactly if every release succeeded. -/
theorem result_eq_ok_iff {returns : List Return} :
    result returns = .ok () ↔ ∀ x ∈ returns, x.reply.code = 0 := by
  induction returns with
  | nil => simp [result]
  | cons x rest ih =>
    rw [result, List.forall_mem_cons]
    by_cases ok : x.reply.code = 0
    · rw [if_pos ok, ih, and_iff_right ok]
    · rw [if_neg ok]
      exact iff_of_false (fun h => by cases h) fun h => ok h.1

/-- Otherwise it is the error of the first release that failed, whatever comes behind. -/
theorem result_eq_error_iff {returns : List Return} {e : Error} :
    result returns = .error e ↔
      ∃ before x after, returns = before ++ x :: after ∧ (∀ y ∈ before, y.reply.code = 0) ∧
        x.reply.code ≠ 0 ∧ e = x.error := by
  induction returns with
  | nil => simp [result]
  | cons first rest ih =>
    rw [result]
    by_cases ok : first.reply.code = 0
    · rw [if_pos ok, ih]
      constructor
      · rintro ⟨before, x, after, rfl, succeed, failed⟩
        exact ⟨first :: before, x, after, rfl, List.forall_mem_cons.mpr ⟨ok, succeed⟩, failed⟩
      · rintro ⟨before, x, after, same, succeed, failed⟩
        cases before with
        | nil =>
          obtain ⟨rfl, -⟩ := List.cons.inj same
          exact absurd ok failed.1
        | cons y before =>
          obtain ⟨rfl, rfl⟩ := List.cons.inj same
          exact ⟨before, x, after, rfl, fun y hy => succeed y (List.mem_cons_of_mem _ hy), failed⟩
    · rw [if_neg ok]
      constructor
      · intro h
        exact ⟨[], first, rest, rfl, by simp, ok, (Except.error.inj h).symm⟩
      · rintro ⟨before, x, after, same, succeed, -, rfl⟩
        cases before with
        | nil =>
          obtain ⟨rfl, -⟩ := List.cons.inj same
          rfl
        | cons y before =>
          obtain ⟨rfl, -⟩ := List.cons.inj same
          exact absurd (succeed first List.mem_cons_self) ok

end Return

/-- What comes of giving resources back, told by how it went for each of them. -/
structure Released (held : List Resource) (w : World σ) (returns : List Return)
    (o : Outcome σ (Except Error Unit × List Resource)) : Prop where
  /-- There is one release for each resource, in their order. -/
  complete : returns.map Return.resource = held
  /-- Nothing is left of them. -/
  left : o.value.2 = []
  /-- The replies are those of the library, each in the world that the one before leaves. -/
  happen : Return.Happen w returns o.world
  /-- Nothing else happens. -/
  trace : o.trace = returns.flatMap Return.trace
  /-- Each release is logged as a trace, and a failure behind it as a warning. -/
  events : o.trace.events = returns.flatMap Return.events
  levels : o.trace.events.map Event.level = returns.flatMap fun x =>
    .trace :: if x.reply.code = 0 then [] else [.warn]
  /-- No other resource is given back, and none of these twice. -/
  released : CallLog.released o.trace.calls = held
  /-- A diagnostic is read exactly where a call left one, -/
  reading : ∀ x ∈ returns,
    x.reading.map Prod.fst = (x.resource.giveBack.owes? x.reply).toList.map .errorGet
  /-- and never for a handle, of which the status is the error. -/
  handles : ∀ x ∈ returns, ∀ h kind, x.resource = .handle h kind →
    x.reading = [] ∧ x.error = .native x.reply.status
  succeeded : o.value.1 = .ok () ↔ ∀ x ∈ returns, x.reply.code = 0
  /-- The first failure is reported. -/
  failed : ∀ e, o.value.1 = .error e ↔
    ∃ before x after, returns = before ++ x :: after ∧ (∀ y ∈ before, y.reply.code = 0) ∧
      x.reply.code ≠ 0 ∧ e = x.error

theorem exists_released (held : List Resource) (w : World σ) :
    ∃ returns, Released held w returns ((releaseAll held).run w) := by
  obtain ⟨returns, after, happen, complete, run⟩ := run_releaseAll held w
  have released := (releaseAll_released held w).1
  rw [run] at released
  rw [run]
  refine ⟨returns, complete, rfl, happen, rfl, Return.events_flatMap_trace returns, ?levels,
    released, happen.reading_eq, ?handles, Return.result_eq_ok_iff,
    fun e => Return.result_eq_error_iff⟩
  case levels =>
    rw [Return.events_flatMap_trace, List.map_flatMap]
    exact congrArg returns.flatMap (funext Return.level_events)
  intro x hx h kind same
  have silent : x.resource.giveBack.owes? x.reply = none := by
    rw [same]
    exact Call.owes?_eq_none_of_error? rfl _
  have nothing := happen.reading_eq x hx
  rw [silent] at nothing
  have unread : x.reading = [] := List.map_eq_nil_iff.mp nothing
  rw [Return.error, unread]
  exact ⟨rfl, rfl⟩

/-! ### Closing -/

namespace Connection

/-- To close an open connection is to give back what it owns. -/
theorem run_close_of_open {c : Connection} (opened : c.closed = false) (w : World σ) :
    c.close.run w =
      { value := (((releaseAll c.held).run w).value.1,
          { c with held := [], inTransaction := false, closed := true })
        world := ((releaseAll c.held).run w).world
        trace := .logged (.closing c.id) :: ((releaseAll c.held).run w).trace } := by
  unfold close
  rw [if_neg (by rw [opened]; decide)]
  simp only [Action.run_bind, Action.run_log, Action.run_pure, List.append_nil,
    List.singleton_append, releaseAll_left]

/-- To close a closed connection is to do nothing. -/
theorem run_close_of_closed {c : Connection} (closed : c.closed = true) (w : World σ) :
    c.close.run w = { value := (.ok (), c), world := w, trace := [] } := by
  unfold close
  rw [if_pos closed]
  rfl

end Connection

/-- **Giving resources back is complete and reports the first failure**, for every stack of
    resources and however the library answers, and leaves the stack empty. To close an open
    connection is this, whatever comes of it. -/
theorem releaseAll_reports :
    (∀ (held : List Resource) (w : World σ),
      ∃ returns, Released held w returns ((releaseAll held).run w)) ∧
    ∀ (c : Connection) (w : World σ),
      c.close.run w =
        if c.closed then { value := (.ok (), c), world := w, trace := [] }
        else
          { value := (((releaseAll c.held).run w).value.1,
              { c with held := [], inTransaction := false, closed := true })
            world := ((releaseAll c.held).run w).world
            trace := .logged (.closing c.id) :: ((releaseAll c.held).run w).trace } := by
  refine ⟨exists_released, fun c w => ?_⟩
  by_cases closed : c.closed
  · rw [if_pos closed]
    exact c.run_close_of_closed closed w
  · rw [if_neg closed]
    exact c.run_close_of_open (Bool.eq_false_iff.mpr closed) w

/-! ### Letting go -/

namespace Connection

/-- To close a connection again and again. -/
def closeTimes (c : Connection) : Nat → Action σ (List (Except Error Unit) × Connection)
  | 0 => return ([], c)
  | n + 1 => do
    let (result, after) ← c.close
    let (results, last) ← closeTimes after n
    return (result :: results, last)

/-- To let go of a connection that owns nothing is to do nothing. -/
theorem run_release_of_held {c : Connection} (nothing : c.held = []) (w : World σ) :
    c.release.run w = { value := (), world := w, trace := [] } := by
  rw [release, nothing]
  rfl

/-- To close a closed connection again and again is to do nothing. -/
theorem run_closeTimes {c : Connection} (closed : c.closed = true) (n : Nat) (w : World σ) :
    (c.closeTimes n).run w =
      { value := (List.replicate n (.ok ()), c), world := w, trace := [] } := by
  induction n with
  | zero => rfl
  | succ n ih =>
    rw [closeTimes, Action.run_bind, run_close_of_closed closed]
    simp only [Action.run_bind, ih, Action.run_pure, List.append_nil, List.replicate_succ]

/-- A connection that was closed is closed and owns nothing, whatever came of it. -/
theorem Laddered.after_close {c : Connection} (laddered : c.Laddered) (w : World σ) :
    (c.close.run w).value.2.closed = true ∧ (c.close.run w).value.2.held = [] := by
  by_cases closed : c.closed
  · rw [run_close_of_closed closed]
    exact ⟨closed, (laddered.closed closed).1⟩
  · rw [run_close_of_open (Bool.eq_false_iff.mpr closed)]
    exact ⟨rfl, rfl⟩

/-- **To let go of a connection is to close it**: the calls are the same, and so is the world
    afterwards. What is left then makes no call any more, neither when it is let go of nor when it
    is closed, which succeeds however often it is done. -/
theorem release_eq_close {c : Connection} (reachable : c.Reachable σ) (w : World σ) :
    let closed := c.close.run w
    let rest := closed.value.2
    let dropped := rest.release.run closed.world
    (c.release.run w).trace.calls = closed.trace.calls ++ dropped.trace.calls ∧
      (c.release.run w).world = dropped.world ∧
      (∀ w' : World σ, rest.release.run w' = { value := (), world := w', trace := [] }) ∧
      ∀ (n : Nat) (w' : World σ), (rest.closeTimes n).run w' =
        { value := (List.replicate n (.ok ()), rest), world := w', trace := [] } := by
  intro closed rest dropped
  obtain ⟨isClosed, nothing⟩ := reachable.laddered.after_close w
  have silent (w' : World σ) : rest.release.run w' = { value := (), world := w', trace := [] } :=
    run_release_of_held nothing w'
  have again (n : Nat) (w' : World σ) := rest.run_closeTimes isClosed n w'
  have same : (c.release.run w).trace.calls = closed.trace.calls ∧
      (c.release.run w).world = closed.world := by
    by_cases before : c.closed
    · have closed_eq : closed = _ := run_close_of_closed before w
      rw [closed_eq, run_release_of_held (reachable.laddered.closed before).1]
      exact ⟨rfl, rfl⟩
    · have closed_eq : closed = _ := run_close_of_open (Bool.eq_false_iff.mpr before) w
      rw [closed_eq, run_release]
      exact ⟨rfl, rfl⟩
  have dropped_eq : dropped = _ := silent closed.world
  rw [dropped_eq]
  exact ⟨same.1.trans (List.append_nil _).symm, same.2, silent, again⟩

/-- A connection in a transaction, of which neither the session can be ended nor the server handle
    be freed. -/
theorem release_eq_close_failing :
    let rules : List Script.Rule :=
      [⟨.sessionEnd, none, -1, none, none⟩,
        ⟨.handleFree, some HandleKind.server.code, 3, none, none⟩]
    let w : World Script := ⟨{ Script.empty with rules }, 0⟩
    ∃ c : Connection, c.Reachable Script ∧ c.inTransaction = true ∧
      (c.close.run w).value.1.toBool = false ∧ (c.release.run w).trace.calls.length = 8 ∧
      (c.release.run w).trace.calls = (c.close.run w).trace.calls := by
  intro rules w
  have look : (((Driver.standard.openDsn .empty).run ⟨Script.empty, 0⟩).value.toOption.map
      fun c =>
        let begun := (c.begin.run w).value.2
        (begun.inTransaction, (begun.close.run w).value.1.toBool,
          (begun.release.run w).trace.calls.length)) = some (true, false, 8) := by
    decide +kernel
  cases opened : ((Driver.standard.openDsn .empty).run ⟨Script.empty, 0⟩).value with
  | error e =>
    rw [opened] at look
    cases look
  | ok c =>
    rw [opened] at look
    obtain ⟨begun, rest⟩ := Prod.mk.inj (Option.some.inj look)
    obtain ⟨failed, count⟩ := Prod.mk.inj rest
    have reachable := (Reachable.opened opened).performed .begin w
    obtain ⟨calls, -, silent, -⟩ := release_eq_close reachable w
    rw [silent] at calls
    exact ⟨_, reachable, begun, failed, count, calls.trans (List.append_nil _)⟩

end Connection

end DatabaseLogon

import DatabaseLogon.Proofs.Closing
import DatabaseLogon.Proofs.History
import DatabaseLogon.Proofs.Sequence
import Mathlib.Control.Monad.Basic

namespace DatabaseLogon

/-!
# The service of a connection

While a connection is open, each operation but closing asks the client library for one thing at
most, and its result goes by the answer. Once closing was tried, there is nothing more to ask.

* `Operation.request?` — what an operation asks for, with all arguments.
* `Served` — how the library serves it: what is called, what is read because the call failed, and
  what the result is.
* `Connection.served_perform` — every operation on an open connection is served so.
* `Connection.Performed` — what every operation on any connection is, so that proofs about all of
  them can go by cases.
* `Connection.Final` — nothing can be done with a connection any more.
* `Connection.served_until_closed` — connections serve until they are closed, which is final.
-/

/-- What an operation asks of the client library. The usual isolation needs no call to begin a
    transaction, and to close a connection is to give back what it owns. -/
def Operation.request? (service error : Argument) (mode : TransactionMode) :
    Operation → Option (EntryPoint × List Argument)
  | .ping => some (.ping, [service, error, .number 0])
  | .begin =>
    if mode = .readWrite then none
    else some (.transStart, [service, error, .number 0, .number mode.code])
  | .commit => some (.transCommit, [service, error, .number 0])
  | .rollback => some (.transRollback, [service, error, .number 0])
  | .close => none

variable {σ : Type}

/-- What needs an open connection is done with an open connection. -/
theorem Connection.whenOpen_of_open {c : Connection} (opened : c.closed = false)
    (m : Action σ (Except Error Unit × Connection)) : c.whenOpen m = m := by
  rw [whenOpen, opened]
  rfl

variable [ClientLibrary σ]

/-! ### One call -/

/-- How an operation is served by one call, or by none: the calls that are made, the result and the
    world behind them. Only the return code for errors has the diagnostic read. -/
inductive Served (error : Handle) (w : World σ) :
    Option Call → CallLog → Except Error Unit → World σ → Prop
  | uncalled : Served error w none [] (.ok ()) w
  | succeeded {call : Call} (code : (w.reply call).code = 0) :
    Served error w (some call) [(call, w.reply call)] (.ok ()) (w.after call)
  | told {call : Call} {answer : Reply} (code : (w.reply call).code = -1)
    (answered : (w.after call).reply (.errorGet error) = answer) (read : answer.code = 0) :
    Served error w (some call) [(call, w.reply call), (.errorGet error, answer)]
      (.error (.oracle
        (Diagnostic.ofText answer.errorCode (Client.bufferText answer.errorText))))
      ((w.after call).after (.errorGet error))
  | untold {call : Call} {answer : Reply} (code : (w.reply call).code = -1)
    (answered : (w.after call).reply (.errorGet error) = answer) (unread : answer.code ≠ 0) :
    Served error w (some call) [(call, w.reply call), (.errorGet error, answer)]
      (.error (.native (w.reply call).status)) ((w.after call).after (.errorGet error))
  | refused {call : Call} (fails : (w.reply call).code ≠ 0) (other : (w.reply call).code ≠ -1) :
    Served error w (some call) [(call, w.reply call)] (.error (.native (w.reply call).status))
      (w.after call)

/-- An operation succeeds exactly if the library answered its call with success, or if there was no
    call. -/
theorem Served.ok_iff {error : Handle} {w after : World σ} {call? : Option Call} {log : CallLog}
    {result : Except Error Unit} (served : Served error w call? log result after) :
    result = .ok () ↔ ∀ call ∈ call?, (w.reply call).code = 0 := by
  cases served with
  | uncalled => simp
  | succeeded code => simpa using code
  | told code answered read => simp [code]
  | untold code answered unread => simp [code]
  | refused fails other => simp [fails]

/-- To make a call and report its failure is to be served by it. -/
theorem served_reported (error : Handle) (call : Call) (w : World σ) :
    let o := (Client.reported error (do return Client.check (← Action.call call))).run w
    Served error w (some call) o.trace.calls o.value o.world := by
  have made : (do return Client.check (← Action.call call) : Action σ _).run w =
      { value := Client.check (w.reply call), world := w.after call
        trace := [.called call (w.reply call)] } := rfl
  by_cases ok : (w.reply call).code = 0
  · rw [Client.check_of_ok ok] at made
    rw [Client.run_reported_of_ok (congrArg Outcome.value made), made]
    exact .succeeded ok
  · rw [Client.check_of_error ok] at made
    rw [Client.run_reported_of_error (congrArg Outcome.value made), made]
    by_cases failed : (w.reply call).code = -1
    · -- this code promises a diagnostic, which may be there or not
      have status : (w.reply call).status = .error := congrArg Status.mk failed
      rw [status, Client.run_errorOf_error, Client.verdict_cons, ← status]
      generalize answered : (w.after call).reply (.errorGet error) = answer
      by_cases read : answer.code = 0
      · simp only [if_pos read]
        exact .told failed answered read
      · simp only [if_neg read]
        exact .untold failed answered read
    · have status : (w.reply call).status ≠ .error := fun same => failed (Status.mk.inj same)
      rw [Client.run_errorOf_of_ne status]
      exact .refused ok failed

/-! ### Operations -/

namespace Connection

variable {first c : Connection} {deeds : List Deed}

/-- **Every operation on an open connection but closing is one request at most**, which passes the
    service and the error handle of the connection and is served as `Served` says. -/
theorem served_perform (opened : c.closed = false) {op : Operation} (stays : op ≠ .close)
    (w : World σ) :
    ∃ call? : Option Call,
      call?.map Call.wire = op.request? (.number c.logon.service.token) (.number c.error.token)
        c.settings.transactionMode ∧
      (∀ call ∈ call?, call.Serves c.logon.service c.error) ∧
      Served c.error w call? ((c.perform op).run w).trace.calls ((c.perform op).run w).value.1
        ((c.perform op).run w).world := by
  -- whatever becomes of the result, it is that of the call
  have served (call : Call) (after : Connection) :
      let o := ((Client.reported c.error (do return Client.check (← Action.call call))) >>=
        fun result => pure (result, after) : Action σ (Except Error Unit × Connection)).run w
      Served c.error w (some call) o.trace.calls o.value.1 o.world := by
    have one := served_reported c.error call w
    simp only [Action.run_bind, Action.run_pure, List.append_nil] at one ⊢
    exact one
  cases op with
  | ping =>
    refine ⟨some (.ping c.logon.service c.error), rfl, by simpa using .ping, ?_⟩
    rw [perform, ping, whenOpen_of_open opened]
    exact served _ c
  | begin =>
    rw [perform, begin, whenOpen_of_open opened]
    by_cases usual : c.settings.transactionMode = .readWrite
    · simp only [usual, if_true, pure_bind]
      exact ⟨none, rfl, by simp, .uncalled⟩
    · refine ⟨some (.transStart c.logon.service c.error transactionTimeout
        c.settings.transactionMode), (if_neg usual).symm, by simpa using .start _ _, ?_⟩
      have one := served_reported c.error
        (.transStart c.logon.service c.error transactionTimeout c.settings.transactionMode) w
      simp only [if_neg usual, Action.run_bind, Client.startTransaction] at one ⊢
      generalize Action.run (Client.reported c.error _) w = started at one ⊢
      obtain ⟨result, w', seen⟩ := started
      -- the event that a transaction begins is no call
      cases result with
      | error e =>
        show Served c.error w _ (Trace.calls (seen ++ [])) _ _
        rw [List.append_nil]
        exact one
      | ok _ =>
        show Served c.error w _ (Trace.calls (seen ++ [.logged _])) _ _
        rw [Trace.calls_append, show Trace.calls [.logged _] = [] from rfl, List.append_nil]
        exact one
  | commit =>
    refine ⟨some (.transCommit c.logon.service c.error), rfl, by simpa using .commit, ?_⟩
    rw [perform, commit, whenOpen_of_open (c := { c with inTransaction := false }) opened]
    exact served _ _
  | rollback =>
    refine ⟨some (.transRollback c.logon.service c.error), rfl, by simpa using .rollback, ?_⟩
    rw [perform, rollback, whenOpen_of_open (c := { c with inTransaction := false }) opened]
    exact served _ _
  | close => exact absurd rfl stays

/-- What an operation on a connection is, whatever else there is about the connection. -/
inductive Performed (c : Connection) (op : Operation) (w : World σ)
    (o : Outcome σ (Except Error Unit × Connection)) : Prop
  /-- The connection is closed, so nothing is done. -/
  | refused (run : o =
      { value := (op.resultWhenClosed, c.next op op.resultWhenClosed), world := w, trace := [] })
  /-- All that the connection owns is given back. -/
  | releasing (closing : op = .close) (calls : o.trace.calls =
      ((releaseAll c.held).run w).trace.calls)
    (value : o.value.1 = ((releaseAll c.held).run w).value.1)
  /-- The operation is one request at most. -/
  | served (call? : Option Call) (serves : ∀ call ∈ call?, call.Serves c.logon.service c.error)
    (served : Served c.error w call? o.trace.calls o.value.1 o.world)

theorem performed (c : Connection) (op : Operation) (w : World σ) :
    Performed c op w ((c.perform op).run w) := by
  by_cases closed : c.closed
  · exact .refused (run_perform_closed closed op w)
  · replace closed := Bool.eq_false_iff.mpr closed
    by_cases closing : op = .close
    · subst closing
      have run : (c.perform .close).run w = _ := run_close_of_open closed w
      rw [run]
      exact .releasing rfl rfl rfl
    · obtain ⟨call?, -, serves, served⟩ := c.served_perform closed closing w
      exact .served call? serves served

/-- Nothing can be done with a connection any more, and nothing will change about it. -/
structure Final (σ : Type) [ClientLibrary σ] (c : Connection) : Prop where
  /-- No operation does anything, or leaves a trace. -/
  idles : ∀ (op : Operation) (w : World σ),
    (c.perform op).run w = { value := (op.resultWhenClosed, c), world := w, trace := [] }
  /-- Whatever more is done with it, it stays as it is. -/
  stays : ∀ more last, c.History σ more last → last = c
  /-- It owns nothing that could be given back. -/
  letGo : ∀ w : World σ, c.release.run w = { value := (), world := w, trace := [] }

theorem Laddered.final (laddered : c.Laddered) (closed : c.closed = true) : c.Final σ where
  idles := run_perform_of_closed closed (laddered.closed closed).2
  stays _ _ future := future.eq_of_closed closed (laddered.closed closed).2
  letGo := run_release_of_held (laddered.closed closed).1

/-! ### Steps of a session -/

/-- The end of a transaction on a connection that was closed meanwhile does nothing. -/
theorem Final.run_ending (final : c.Final Script) (ending : Ending) (w : World Script) :
    (ending.perform c).run w =
      { value := (if ending = .drop then .ok () else .error .connectionClosed, c), world := w
        trace := [] } := by
  cases ending with
  | commit => exact final.idles .commit w
  | rollback => exact final.idles .rollback w
  | drop => rfl

/-- A step with such a connection makes no call. A transaction does not even begin. -/
theorem Final.run_step (final : c.Final Script) (step : ConnectionStep) (w : World Script) :
    ((step.perform c).run w).trace = [] ∧ ((step.perform c).run w).value.2 = c := by
  cases step with
  | operate op =>
    rw [ConnectionStep.perform, Action.run_bind, Action.run_observed, final.idles op w]
    exact ⟨rfl, rfl⟩
  | transaction steps ending =>
    have refused : c.begin.run w = _ := final.idles .begin w
    rw [ConnectionStep.perform, Action.run_bind, Action.run_observed, refused]
    exact ⟨rfl, rfl⟩
  | prepare sql | info | adjust change =>
    rw [ConnectionStep.perform]
    exact ⟨rfl, rfl⟩

/-- Nor do steps one after the other. -/
theorem Final.run_steps (final : c.Final Script) (steps : List ConnectionStep) (w : World Script) :
    ((ConnectionStep.performAll c steps).run w).trace = [] ∧
      ((ConnectionStep.performAll c steps).run w).value.2 = c := by
  induction steps generalizing w with
  | nil =>
    rw [ConnectionStep.performAll]
    exact ⟨rfl, rfl⟩
  | cons step steps ih =>
    obtain ⟨silent, same⟩ := final.run_step step w
    simp only [ConnectionStep.performAll, Action.run_bind, Action.run_pure, silent, same,
      List.nil_append, List.append_nil]
    exact ih _

/-! ### The life of a connection -/

/-- **A connection serves until it is closed, and that is final.** While nobody has tried to close
    it, every other operation is one request at most, on the service and the error handle that it
    got when it opened and with the isolation of its connection string, and succeeds exactly if the
    library says so. Once closing was tried, with or without success, nothing is called and nothing
    changes any more, inside a transaction that is still around as well. -/
theorem served_until_closed :
    (∀ {σ : Type} [ClientLibrary σ] {d : Driver} {dsn : Dsn} {w₀ : World σ} {first : Connection},
      ((d.openDsn dsn).run w₀).value = .ok first → ∀ deeds c, first.History σ deeds c →
        (c.closed = true ↔ ∃ result, .operated .close result ∈ deeds) ∧
        (c.closed = false → ∀ op ≠ .close, ∀ w : World σ, ∃ call? : Option Call,
          call?.map Call.wire = op.request? (.number first.logon.service.token)
            (.number first.error.token) dsn.transactionMode ∧
          Served first.error w call? ((c.perform op).run w).trace.calls
            ((c.perform op).run w).value.1 ((c.perform op).run w).world ∧
          (((c.perform op).run w).value.1 = .ok () ↔
            ∀ call ∈ call?, (w.reply call).code = 0)) ∧
        (c.closed = true → c.Final σ)) ∧
    ∀ c : Connection, c.Reachable Script → c.closed = true → ∀ w : World Script,
      (∀ steps : List ConnectionStep, ((ConnectionStep.performAll c steps).run w).trace = [] ∧
        ((ConnectionStep.performAll c steps).run w).value.2 = c) ∧
      ∀ ending : Ending, (ending.perform c).run w =
        { value := (if ending = .drop then .ok () else .error .connectionClosed, c), world := w
          trace := [] } := by
  constructor
  · intro σ _ d dsn w₀ first opened deeds c past
    have later := past.later (Driver.laddered_of_openDsn opened)
    obtain ⟨fresh, -, told⟩ := Driver.fresh_of_openDsn opened
    refine ⟨past.closed_iff fresh, fun serving op stays w => ?_, later.laddered.final⟩
    obtain ⟨call?, asked, -, served⟩ := c.served_perform serving stays w
    -- the handles and the isolation are those that the connection got when it opened
    have service : c.logon = first.logon := by rw [later.same]
    have error : c.error = first.error := by rw [later.same]
    have settings : c.settings = first.settings := by rw [later.same]
    rw [service, error, settings, told] at asked
    rw [error] at served
    exact ⟨call?, asked, served, served.ok_iff⟩
  · intro c reachable closed w
    have final : c.Final Script := reachable.laddered.final closed
    exact ⟨fun steps => final.run_steps steps w, fun ending => final.run_ending ending w⟩

/-- A connection on which no serializable transaction can be started and of which the session cannot
    be ended. -/
theorem served_until_closed_serializable :
    let dsn : Dsn := { Dsn.empty with transactionMode := .serializable }
    let w : World Script :=
      ⟨{ rules := [⟨.transStart, none, -1, none, none⟩, ⟨.sessionEnd, none, -2, none, none⟩]
         records := [⟨0, 8177, [110, 111]⟩]
         issued := 0 }, 0⟩
    ∃ first, ((Driver.standard.openDsn dsn).run ⟨Script.empty, 0⟩).value = .ok first ∧
      ((first.perform .begin).run w).value.1 = .error (.oracle ⟨8177, "no"⟩) ∧
      (∃ call : Call,
        call.wire = (.transStart, [.number first.logon.service.token, .number first.error.token,
          .number 0, .number 0x400]) ∧
        Served first.error w (some call) ((first.perform .begin).run w).trace.calls
          ((first.perform .begin).run w).value.1 ((first.perform .begin).run w).world) ∧
      ((first.perform .close).run w).value.1 = .error (.native .invalidHandle) ∧
      ((first.perform .close).run w).value.2.Final Script := by
  intro dsn w
  have look : (((Driver.standard.openDsn dsn).run ⟨Script.empty, 0⟩).value.toOption.map fun c =>
      (c.closed, ((c.perform .begin).run w).value.1, ((c.perform .close).run w).value.1)) =
      some (false, .error (.oracle ⟨8177, "no"⟩), .error (.native .invalidHandle)) := by
    decide +kernel
  cases opened : ((Driver.standard.openDsn dsn).run ⟨Script.empty, 0⟩).value with
  | error e =>
    rw [opened] at look
    cases look
  | ok first =>
    rw [opened] at look
    obtain ⟨fresh, results⟩ := Prod.mk.inj (Option.some.inj look)
    obtain ⟨begun, closing⟩ := Prod.mk.inj results
    obtain ⟨-, serving, -⟩ := served_until_closed.1 opened [] first .fresh
    obtain ⟨call?, asked, served, -⟩ := serving fresh .begin (by decide) w
    have closed := (served_until_closed.1 opened _ _ (History.fresh.operated .close w)).2.2
      (first.closed_of_close w)
    obtain ⟨call, rfl, wired⟩ := Option.map_eq_some_iff.mp asked
    exact ⟨first, rfl, begun, ⟨call, wired, served⟩, closing, closed⟩

end Connection

end DatabaseLogon

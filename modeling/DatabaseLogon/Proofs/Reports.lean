import DatabaseLogon.Proofs.Buffer
import DatabaseLogon.Proofs.Causes
import DatabaseLogon.Proofs.NativeText

namespace DatabaseLogon

/-!
# Errors of the database come through unchanged

When a call fails with the code for errors, its diagnostic is read, and the record in it is the
error that the caller gets. What the caller is shown is what the database said.

* `Reported` — the first call of a log that failed so has its diagnostic read, and this is the
  result; with rules to tell it of a log from its front.
* `Driver.reported_openDsn`, `Connection.reported_perform` — opening a connection, and every
  operation on one.
* `Reply.Tells` — the answer to a reading says a record in a text.
* `Surfaces` — a record that is read because of the first failure is the result.
* `Diagnostic.comes_through` — records come through unchanged, and what else a text may lose.
-/

variable {σ α : Type} {e : Call × Reply} {log after : CallLog} {result : Except Error α}

/-! ### The first failure -/

/-- The first call of a log that failed, if it did so with the code for errors and there is an error
    handle, has its diagnostic read at once, and this is the result. -/
def Reported (log : CallLog) (result : Except Error α) : Prop :=
  ∀ before c r behind error, log = before ++ (c, r) :: behind →
    (∀ e ∈ before, e.1.succeeds e.2) → c.error? = some error → r.code = -1 →
    ∃ answer after, behind = (.errorGet error, answer) :: after ∧
      result = .error (Client.verdict .error [(.errorGet error, answer)])

namespace Reported

theorem nil : Reported [] result := by
  intro before c r behind error same
  simp at same

/-- A call that returned another code has no say. -/
theorem cons (other : e.2.code ≠ -1) (rest : Reported log result) :
    Reported (e :: log) result := by
  intro before c r behind error same succeed passed failed
  cases before with
  | nil =>
    obtain ⟨rfl, -⟩ := List.cons.inj same
    exact absurd failed other
  | cons first before =>
    obtain ⟨-, rfl⟩ := List.cons.inj same
    exact rest before c r behind error rfl (fun e he => succeed e (List.mem_cons_of_mem _ he))
      passed failed

/-- Nor do calls that succeeded. -/
theorem append (succeed : ∀ e ∈ log, e.1.succeeds e.2) (rest : Reported after result) :
    Reported (log ++ after) result := by
  induction log with
  | nil => exact rest
  | cons e log ih =>
    obtain ⟨first, others⟩ := List.forall_mem_cons.mp succeed
    refine cons ?_ (ih others)
    intro failed
    rw [Call.succeeds, failed, e.1.not_accepts_error] at first
    cases first

/-- Behind a first failure that left nothing to be read all is possible. -/
theorem unread (fails : ¬ e.1.succeeds e.2) (owes : e.1.owes? e.2 = none) :
    Reported (e :: after) result := by
  intro before c r behind error same succeed passed failed
  cases before with
  | nil =>
    obtain ⟨rfl, -⟩ := List.cons.inj same
    rw [Call.owes?_eq_some_iff.mpr ⟨failed, passed⟩] at owes
    cases owes
  | cons first before =>
    obtain ⟨rfl, -⟩ := List.cons.inj same
    exact absurd (succeed e List.mem_cons_self) fails

/-- The first failure has its diagnostic read. -/
theorem reading {error : Handle} {answer : Reply} (owes : e.1.owes? e.2 = some error)
    (same : result = .error (Client.verdict .error [(.errorGet error, answer)])) :
    Reported (e :: (.errorGet error, answer) :: after) result := by
  obtain ⟨code, passed⟩ := Call.owes?_eq_some_iff.mp owes
  intro before c r behind error' split succeed passed' failed
  cases before with
  | nil =>
    obtain ⟨rfl, rfl⟩ := List.cons.inj split
    obtain rfl := Option.some.inj (passed.symm.trans passed')
    exact ⟨answer, after, rfl, same⟩
  | cons first before =>
    obtain ⟨rfl, -⟩ := List.cons.inj split
    have succeeded := succeed e List.mem_cons_self
    rw [Call.succeeds, code, e.1.not_accepts_error] at succeeded
    cases succeeded

end Reported

variable [ClientLibrary σ]

/-! ### Opening a connection -/

namespace Driver

/-- **Opening a connection** reports the first failure. -/
theorem reported_openDsn (d : Driver) (dsn : Dsn) (w : World σ) :
    Reported ((d.openDsn dsn).run w).trace.calls ((d.openDsn dsn).run w).value := by
  cases d.opening dsn (fun _ => ⟨1, Nat.one_pos⟩) w with
  | success c last log value ascent calls =>
    rw [calls, ← List.append_nil log]
    exact .append ascent.succeed .nil
  | failure e log failed rest unwinding value ascent calls orphans reverse descends aftermath
      unread blame =>
    obtain ⟨succeed, fails⟩ := ascent.slips
    rw [calls, value, blame]
    refine .append succeed ?_
    cases aftermath with
    | nothing leaves owes => exact .unread fails owes
    | reading error owes leaves =>
      obtain ⟨code, passed⟩ := Call.owes?_eq_some_iff.mp owes
      have status := (failed.1.failure_eq_error_iff failed.2).mpr code
      refine .reading owes ?_
      rw [Call.blame_of_error? passed, status]
    | discarding h leaves =>
      exact .unread fails
        (Call.owes?_eq_none_of_error? (Call.error?_eq_none_of_leaves? leaves) _)

theorem reported_openText (d : Driver) (text : String) (w : World σ) :
    Reported ((d.openText text).run w).trace.calls ((d.openText text).run w).value := by
  unfold openText
  cases Dsn.parse text with
  | ok dsn => exact d.reported_openDsn dsn w
  | error e => exact .nil

end Driver

/-! ### Operations -/

/-- A resource that is given back with another code than that of success is not given back. -/
theorem Resource.not_succeeds_giveBack {r : Resource} {reply : Reply} (failed : reply.code ≠ 0) :
    ¬ r.giveBack.succeeds reply := by
  have accepts : r.giveBack.accepts reply.code = false := by
    cases r <;> simpa [Resource.giveBack, Call.accepts, Call.entryPoint] using failed
  rw [Call.succeeds, accepts]
  simp

/-- The calls of a release are that which gives the resource back and the reading because of it. -/
theorem Return.calls_trace (x : Return) :
    x.trace.calls = (x.resource.giveBack, x.reply) :: x.reading := by
  have called (log : CallLog) : Trace.calls (log.map fun e => .called e.1 e.2) = log := by
    rw [Trace.calls, List.filterMap_map]
    exact List.filterMap_some
  rw [trace, attempt, Trace.calls_append]
  show _ :: Trace.calls (x.reading.map _) ++ _ = _
  rw [called]
  split <;> simp [Trace.calls]

/-- Giving resources back reports the first failure. -/
theorem Return.Happen.reported {w w' : World σ} {returns : List Return}
    (happen : Return.Happen w returns w') :
    Reported (Trace.calls (returns.flatMap Return.trace)) (Return.result returns) := by
  induction happen with
  | nil w => exact .nil
  | @cons w w' w'' x rest first others ih =>
    rw [List.flatMap_cons, Trace.calls_append, Return.calls_trace, Return.result, List.cons_append]
    cases first with
    | @silent r owes =>
      by_cases ok : (w.reply r.giveBack).code = 0
      · rw [if_pos ok]
        exact .cons (by rw [ok]; decide) ih
      · exact .unread (Resource.not_succeeds_giveBack ok) owes
    | @read r error owes =>
      obtain ⟨code, -⟩ := Call.owes?_eq_some_iff.mp owes
      have status : (w.reply r.giveBack).status = .error := congrArg Status.mk code
      have failed : (w.reply r.giveBack).code ≠ 0 := by rw [code]; decide
      rw [if_neg failed, Return.error, status]
      exact .reading owes rfl

/-- What serves a connection reports the failure of the call. -/
theorem Served.reported {service error : Handle} {w after : World σ} {call? : Option Call}
    {log : CallLog} {result : Except Error Unit} (served : Served error w call? log result after)
    (serves : ∀ call ∈ call?, call.Serves service error) : Reported log result := by
  have passed {call : Call} (h : call ∈ call?) : call.error? = some error := by
    cases serves call h <;> rfl
  cases served with
  | uncalled => exact .nil
  | succeeded code => exact .cons (by rw [code]; decide) .nil
  | refused fails other => exact .cons other .nil
  | told code answered read =>
    refine .reading (Call.owes?_eq_some_iff.mpr ⟨code, passed rfl⟩) ?_
    rw [Client.verdict_cons, if_pos read]
  | @untold call answer code answered unread =>
    refine .reading (Call.owes?_eq_some_iff.mpr ⟨code, passed rfl⟩) ?_
    have status : (w.reply call).status = .error := congrArg Status.mk code
    rw [Client.verdict_cons, if_neg unread, status]

namespace Connection

/-- **Every operation** reports the first failure, on whatever connection. -/
theorem reported_perform (c : Connection) (op : Operation) (w : World σ) :
    Reported ((c.perform op).run w).trace.calls ((c.perform op).run w).value.1 := by
  cases c.performed op w with
  | refused run =>
    rw [run]
    exact .nil
  | releasing closing calls value =>
    obtain ⟨returns, after, happen, -, run⟩ := run_releaseAll c.held w
    rw [calls, value, run]
    exact happen.reported
  | served call? serves served => exact served.reported serves

end Connection

/-! ### Records -/

/-- The answer to a reading says a record in a text. -/
structure Reply.Tells (answer : Reply) (d : Diagnostic) (text : List Char) : Prop where
  read : answer.code = 0
  code : answer.errorCode = d.code
  text : answer.errorText = Utf8.encode text

/-- A record is the result if it is read because of the first failure. -/
def Surfaces (d : Diagnostic) (text : List Char) (log : CallLog) (result : Except Error α) : Prop :=
  ∀ before c r behind error, log = before ++ (c, r) :: behind →
    (∀ e ∈ before, e.1.succeeds e.2) → c.error? = some error → r.code = -1 →
    ∃ answer after, behind = (.errorGet error, answer) :: after ∧
      (answer.Tells d text → result = .error (.oracle d))

namespace Diagnostic

variable {d : Diagnostic} {line : String} {ends : List Char}

/-- A line ends without NUL. -/
theorem Line.noNul (h : d.Line line) (plain : d.Plain)
    (lineEnds : ∀ c ∈ ends, c = '\n' ∨ c = '\r') :
    '\x00' ∉ line.toList ++ ends := by
  obtain ⟨number, padded, rfl⟩ := h
  intro nul
  simp only [String.toList_append, List.mem_append] at nul
  rcases nul with (((marker | number') | colon) | message) | ends'
  · revert marker
    decide
  · rcases padded.forall_mem _ number' with absurd | absurd <;> cases absurd
  · revert colon
    decide
  · exact plain.noNul message
  · rcases lineEnds _ ends' with absurd | absurd <;> cases absurd

/-- An answer that says a record in its line means this record. -/
theorem Line.verdict (h : d.Line line) (plain : d.Plain)
    (lineEnds : ∀ c ∈ ends, c = '\n' ∨ c = '\r')
    (fits : (Utf8.encode (line.toList ++ ends)).length ≤ diagnosticBufferSize) {answer : Reply}
    (tells : answer.Tells d (line.toList ++ ends)) (status : Status) (c : Call) (rest : CallLog) :
    Client.verdict status ((c, answer) :: rest) = .oracle d := by
  rw [Client.verdict_cons, if_pos tells.read, tells.code, tells.text,
    Client.bufferText_encode fits (h.noNul plain lineEnds), ofText_line h plain lineEnds]

/-- So a record that is read because of the first failure is the result. -/
theorem Line.surfaces (h : d.Line line) (plain : d.Plain)
    (lineEnds : ∀ c ∈ ends, c = '\n' ∨ c = '\r')
    (fits : (Utf8.encode (line.toList ++ ends)).length ≤ diagnosticBufferSize)
    (reported : Reported log result) : Surfaces d (line.toList ++ ends) log result := by
  intro before c r behind error same succeed passed failed
  obtain ⟨answer, after, rfl, told⟩ := reported before c r behind error same succeed passed failed
  refine ⟨answer, after, rfl, fun tells => ?_⟩
  rw [told, h.verdict plain lineEnds fits tells]

/-- **Records come through unchanged.** The library says a record in a line, whatever its number and
    whatever else its message holds, and line ends behind it. The line is read as the record, and is
    what is shown of it. If it fits into the buffer, the record is the error of every operation that
    it is read for: of a single call, and of opening a connection and working with it as well, where
    the first failure has its record read. Of any other text, a message may only lose the blanks and
    line ends around it and a part that begins like a number and ends at the first colon. -/
theorem comes_through :
    (∀ (d : Diagnostic) (line : String) (ends : List Char), d.Plain → d.Line line →
      (∀ c ∈ ends, c = '\n' ∨ c = '\r') →
      (Error.oracle d).message = line ∧ ofText d.code (line.toList ++ ends) = d ∧
        ofText d.code line.toList = d ∧
        ((Utf8.encode (line.toList ++ ends)).length ≤ 3072 →
          ∀ {σ : Type} [ClientLibrary σ] (w : World σ),
            (∀ {α : Type} (m : Action σ (Except Status α)) (error : Handle),
              (m.run w).value = .error .error →
              ((m.run w).world.reply (.errorGet error)).Tells d (line.toList ++ ends) →
              ((Client.reported error m).run w).value = .error (.oracle d)) ∧
            (∀ driver dsn, Surfaces d (line.toList ++ ends)
              ((Driver.openDsn driver dsn).run w).trace.calls
              ((Driver.openDsn driver dsn).run w).value) ∧
            (∀ driver text, Surfaces d (line.toList ++ ends)
              ((Driver.openText driver text).run w).trace.calls
              ((Driver.openText driver text).run w).value) ∧
            ∀ (c : Connection) (op : Operation), Surfaces d (line.toList ++ ends)
              ((c.perform op).run w).trace.calls ((c.perform op).run w).value.1)) ∧
    ∀ (code : Int) (text : List Char),
      (∃ lead blanks ends, text = lead ++ trimmed text ++ blanks ++ ends ∧
        (∀ c ∈ lead, Text.isBlank c = true) ∧ (∀ c ∈ blanks, Text.isBlank c = true) ∧
        (∀ c ∈ ends, isLineEnd c = true) ∧
        (∀ c ∈ (lead ++ trimmed text ++ blanks).getLast?, isLineEnd c = false) ∧
        (∀ c ∈ (trimmed text).head?, Text.isBlank c = false) ∧
        ∀ c ∈ (trimmed text).getLast?, Text.isBlank c = false) ∧
      ((∃ number, Text.ColonCut (trimmed text) number (ofText code text).message.toList ∧
          marker <+: number) ∨
        ((ofText code text).message.toList = trimmed text ∧
          ∀ number rest, Text.ColonCut (trimmed text) number rest → ¬ marker <+: number)) := by
  refine ⟨fun d line ends plain h lineEnds => ⟨message_eq_iff_line.mpr h,
    ofText_line h plain lineEnds, ?alone, fun fits σ _ w => ⟨?call, ?opened, ?read, ?performed⟩⟩,
    fun code text => ⟨trimmed_spec text, ?message⟩⟩
  case alone =>
    have nothing : ∀ c ∈ ([] : List Char), c = '\n' ∨ c = '\r' := by simp
    have bare := ofText_line h plain nothing
    rwa [List.append_nil] at bare
  case call =>
    intro α m error failed tells
    rw [Client.run_reported_of_error failed, Client.run_errorOf_error]
    exact congrArg Except.error (h.verdict plain lineEnds fits tells ..)
  case opened =>
    exact fun driver dsn => h.surfaces plain lineEnds fits (driver.reported_openDsn dsn w)
  case read =>
    exact fun driver text => h.surfaces plain lineEnds fits (driver.reported_openText text w)
  case performed => exact fun c op => h.surfaces plain lineEnds fits (c.reported_perform op w)
  case message =>
    have left : withoutNumber (trimmed text) = (ofText code text).message.toList := by
      rw [ofText, String.toList_ofList]
    exact withoutNumber_eq_iff.mp left

/-- A number below zero, and a message that begins with blanks and with another number. -/
theorem comes_through_stacked :
    let d : Diagnostic := ⟨-7, "  ORA-06512: at line 1: x"⟩
    let line := "ORA--0007:   ORA-06512: at line 1: x"
    let w : World Script :=
      ⟨{ rules := [⟨.ping, none, -1, none, none⟩]
         records := [⟨0, -7, Utf8.encode (line.toList ++ ['\r', '\n'])⟩]
         issued := 0 }, 0⟩
    ∃ first, ((Driver.standard.openDsn .empty).run ⟨Script.empty, 0⟩).value = .ok first ∧
      ((first.perform .ping).run w).value.1 = .error (.oracle d) ∧
      (Error.oracle d).message = line := by
  intro d line w
  have last : d.message.toList.getLast? = some 'x' := by decide
  have plain : d.Plain :=
    { nonempty := by decide
      noNul := by decide
      ends := by
        intro c hc
        rw [last] at hc
        cases hc
        rfl }
  have said : d.Line line := ⟨"-0007", Decimal.padded_iff.mpr (by decide), by decide⟩
  have lineEnds : ∀ c ∈ ['\r', '\n'], c = '\n' ∨ c = '\r' := by simp
  obtain ⟨shown, -, -, through⟩ := comes_through.1 d line ['\r', '\n'] plain said lineEnds
  obtain ⟨-, -, -, performed⟩ := through (by decide) w
  have look : (((Driver.standard.openDsn .empty).run ⟨Script.empty, 0⟩).value.toOption.map
      Connection.closed) = some false := by
    decide +kernel
  cases opened : ((Driver.standard.openDsn .empty).run ⟨Script.empty, 0⟩).value with
  | error e =>
    rw [opened] at look
    cases look
  | ok first =>
    rw [opened] at look
    have fresh := Option.some.inj look
    have calls : ((first.perform .ping).run w).trace.calls =
        [] ++ (.ping first.logon.service first.error, Reply.plain (-1)) ::
          [(.errorGet first.error,
            ⟨0, none, -7, Utf8.encode (line.toList ++ ['\r', '\n'])⟩)] := by
      rw [Connection.perform, Connection.ping, Connection.whenOpen_of_open fresh]
      rfl
    obtain ⟨answer, after, answered, told⟩ :=
      performed first .ping _ _ _ _ _ calls (by simp) rfl rfl
    have same := (Prod.mk.inj (List.cons.inj answered).1).2
    have tells : answer.Tells d (line.toList ++ ['\r', '\n']) := by
      rw [← same]
      exact ⟨rfl, rfl, rfl⟩
    exact ⟨first, rfl, told tells, shown⟩

end Diagnostic

end DatabaseLogon

import DatabaseLogon.Proofs.Course

namespace DatabaseLogon

/-!
# Diagnostics

A diagnostic is read at once after the call that left it, from the error handle that this call was
given, and nowhere else. So no diagnostic is ever taken for that of another call, in however many
connections and whatever fails meanwhile.

* `CallLog.Paired` — each call asks for what the call before it owes.
* `CallLog.Diagnosed` — the same of each place in the log; `Paired.diagnosed` derives it.
* `Consumes` — how a queue of diagnostics is used up by the calls of a log.
* `Session.run_diagnosed` — in a whole session diagnostics are read where they belong, and the queue
  of the script is used up in order.
-/

/-! ### Reading what is owed -/

namespace CallLog

/-- Each call asks for the diagnostic that the call before it owes, and for none if it owes none.
    The first call asks for none, and the last one owes none. -/
def Paired (log : CallLog) : Prop :=
  log.map (fun e => e.1.asks?) ++ [none] = none :: log.map fun e => e.1.owes? e.2

/-- In a log diagnostics are read exactly when and where they belong. -/
structure Diagnosed (log : CallLog) : Prop where
  /-- A call with an error handle that returned the code for errors is followed at once by one
      reading from this handle, and not by a second one. -/
  read : ∀ {i : Nat} {c : Call} {r : Reply} {error : Handle}, log[i]? = some (c, r) →
    c.error? = some error → r.code = -1 →
    (∃ answer, log[i + 1]? = some (.errorGet error, answer)) ∧
      ∀ again answer, log[i + 2]? ≠ some (.errorGet again, answer)
  /-- There is no reading but after such a call. -/
  belongs : ∀ {i : Nat} {error : Handle} {answer : Reply},
    log[i]? = some (.errorGet error, answer) →
    ∃ j c r, i = j + 1 ∧ log[j]? = some (c, r) ∧ c.error? = some error ∧ r.code = -1

namespace Paired

theorem nil : Paired [] := rfl

theorem append {a b : CallLog} (ha : a.Paired) (hb : b.Paired) : Paired (a ++ b) := by
  rw [Paired, List.map_append, List.append_assoc, hb, List.append_cons, ha, List.map_append]
  rfl

/-- A call that reads nothing and succeeds. -/
theorem success {c : Call} {r : Reply} (asks : c.asks? = none) (succeeds : c.succeeds r) :
    Paired [(c, r)] := by
  show [c.asks?, none] = [none, c.owes? r]
  rw [asks, Call.owes?_eq_none_of_succeeds succeeds]

/-- A call that reads nothing and fails, with its aftermath. -/
theorem failure {σ : Type} [ClientLibrary σ] {c : Call} {r : Reply} {w w' : World σ}
    {rest : CallLog} (asks : c.asks? = none) (aftermath : Aftermath c r w rest w') :
    Paired ((c, r) :: rest) := by
  cases aftermath with
  | nothing leaves owes =>
    show [c.asks?, none] = [none, c.owes? r]
    rw [asks, owes]
  | reading error owes leaves =>
    -- the reading asks for what the call owes, and owes nothing itself
    show [c.asks?, some error, none] = [none, c.owes? r, (Call.errorGet error).owes? _]
    rw [asks, owes, Call.owes?_eq_none_of_error? rfl]
  | discarding h leaves =>
    -- only the creation of an environment leaves a handle behind, and it has no error handle
    have silent := Call.error?_eq_none_of_leaves? leaves
    show [c.asks?, none, none] = [none, c.owes? r, (Call.handleFree h .environment).owes? _]
    rw [asks, Call.owes?_eq_none_of_error? silent, Call.owes?_eq_none_of_error? rfl]

variable {log : CallLog}

/-- Nothing is asked for at first. -/
theorem asks_first (h : log.Paired) : log[0]?.bind (fun e => e.1.asks?) = none := by
  cases log with
  | nil => rfl
  | cons e rest => exact (List.cons.inj h).1

/-- What a call asks for is what the call before it owes. -/
theorem asks_next (h : log.Paired) (i : Nat) :
    log[i + 1]?.bind (fun e => e.1.asks?) = log[i]?.bind fun e => e.1.owes? e.2 := by
  have place := congrArg (fun asked => asked[i + 1]?.bind id) h
  rw [List.getElem?_cons_succ, List.getElem?_map, Option.bind_map] at place
  refine Eq.trans ?_ place
  by_cases inside : i + 1 < log.length
  · rw [List.getElem?_append_left (by simpa using inside), List.getElem?_map, Option.bind_map]
    rfl
  · -- behind the last call nothing is asked for either
    rw [List.getElem?_eq_none (Nat.not_lt.mp inside),
      List.getElem?_append_right (by simpa using inside)]
    cases i + 1 - (log.map fun e => e.1.asks?).length <;> rfl

/-- Where each call asks for what the call before it owes, diagnostics are read where they
    belong. -/
theorem diagnosed (h : log.Paired) : log.Diagnosed where
  read := by
    intro i c r error here passed failed
    have next := h.asks_next i
    rw [here, Option.bind_some, Call.owes?_eq_some_iff.mpr ⟨failed, passed⟩] at next
    obtain ⟨⟨c', answer⟩, there, asks⟩ := Option.bind_eq_some_iff.mp next
    have reading : c' = .errorGet error := by
      cases c' with
      | errorGet error' => exact congrArg Call.errorGet (Option.some.inj asks)
      | _ => cases asks
    subst reading
    refine ⟨⟨answer, there⟩, ?_⟩
    -- the reading owes nothing, so it is not followed by another one
    intro again answer' second
    have last := h.asks_next (i + 1)
    rw [there, second, Option.bind_some, Option.bind_some,
      Call.owes?_eq_none_of_error? rfl] at last
    cases last
  belongs := by
    intro i error answer here
    cases i with
    | zero =>
      have first := h.asks_first
      rw [here] at first
      cases first
    | succ j =>
      have next := h.asks_next j
      rw [here] at next
      obtain ⟨⟨c, r⟩, there, owes⟩ := Option.bind_eq_some_iff.mp next.symm
      obtain ⟨failed, passed⟩ := Call.owes?_eq_some_iff.mp owes
      exact ⟨j, c, r, rfl, there, passed, failed⟩

end Paired

end CallLog

/-! ### The queue of diagnostics -/

/-- The reply to the call that reads a diagnostic. -/
def Script.Record.reply (r : Script.Record) : Reply where
  code := r.status
  handle := none
  errorCode := r.code
  errorText := r.text

/-- The diagnostics that a change of the script adds to the queue. -/
def Adjustment.records : Adjustment → List Script.Record
  | .queue records => records
  | .fail _ | .heal => []

/-- How a queue of diagnostics is used up by calls, where changes of the script may add others
    behind. Each reading takes the first one as long as there is one, and other calls take none. -/
inductive Consumes : List Script.Record → CallLog → List Adjustment → List Script.Record → Prop
  | done (queue : List Script.Record) : Consumes queue [] [] queue
  | passing {queue last : List Script.Record} {e : Call × Reply} {log : CallLog}
    {changes : List Adjustment} (asks : e.1.asks? = none)
    (rest : Consumes queue log changes last) : Consumes queue (e :: log) changes last
  | taking {record : Script.Record} {queue last : List Script.Record} {error : Handle}
    {log : CallLog} {changes : List Adjustment} (rest : Consumes queue log changes last) :
    Consumes (record :: queue) ((.errorGet error, record.reply) :: log) changes last
  | missing {last : List Script.Record} {error : Handle} {log : CallLog}
    {changes : List Adjustment} (rest : Consumes [] log changes last) :
    Consumes [] ((.errorGet error, .plain 100) :: log) changes last
  | changing {queue last : List Script.Record} {change : Adjustment} {log : CallLog}
    {changes : List Adjustment} (rest : Consumes (queue ++ change.records) log changes last) :
    Consumes queue log (change :: changes) last

namespace Consumes

theorem append {queue mid last : List Script.Record} {a b : CallLog}
    {changes changes' : List Adjustment} (first : Consumes queue a changes mid)
    (second : Consumes mid b changes' last) :
    Consumes queue (a ++ b) (changes ++ changes') last := by
  induction first with
  | done queue => exact second
  | passing asks rest ih => exact .passing asks (ih second)
  | taking rest ih => exact .taking (ih second)
  | missing rest ih => exact .missing (ih second)
  | changing rest ih => exact .changing (ih second)

/-- A scripted library answers every call by its queue. -/
theorem answer (c : Call) (w : World Script) :
    Consumes w.library.records [(c, w.reply c)] [] (w.after c).library.records := by
  by_cases reading : c.asks? = none
  · have kept : (w.after c).library.records = w.library.records := by
      have followed : (w.library.follow c).2.records = w.library.records := by
        simp only [Script.follow]
        split <;> rfl
      cases c with
      | errorGet error => cases reading
      | _ => exact followed
    rw [kept]
    exact .passing reading (.done _)
  · cases c with
    | errorGet error =>
      show Consumes w.library.records [(_, w.library.readRecord.1)] []
        w.library.readRecord.2.records
      unfold Script.readRecord
      cases queue : w.library.records with
      | nil =>
        rw [queue]
        exact .missing (.done _)
      | cons record records => exact .taking (.done _)
    | _ => exact absurd rfl reading

/-- A change of the script adds its diagnostics behind. -/
theorem adjust (change : Adjustment) (s : Script) :
    Consumes s.records [] [change] (s.adjust change).records := by
  have added : (s.adjust change).records = s.records ++ change.records := by
    cases change with
    | queue records => rfl
    | fail rules => exact (List.append_nil _).symm
    | heal => exact (List.append_nil _).symm
  rw [added]
  exact .changing (.done _)

end Consumes

/-! ### Sessions -/

/-- In every session calls ask for what the calls before them owe. -/
theorem course_paired : Course fun _ log _ _ => log.Paired where
  calls :=
    { nil := fun _ _ => .nil
      append := .append
      success := .success
      failure := fun asks _ aftermath => .failure asks aftermath }
  adjust _ _ := .nil
  append := .append

/-- In every session the queue of the script is used up by the calls. -/
theorem course_consuming :
    Course fun w log changes w' => Consumes w.library.records log changes w'.library.records where
  calls := .of_calls (fun _ _ => .done _) .append fun w c => .answer c w
  adjust w change := .adjust change w.library
  append := .append

/-- **In a whole session** each call with an error handle that returned the code for errors is
    followed at once by one reading from this handle, and there are no other readings. So the
    diagnostics in the queue, and those that are added meanwhile, are used up in order, one for each
    such call while there are any. -/
theorem Session.run_diagnosed (driver : Driver) (steps : List Step) (w : World Script) :
    CallLog.Diagnosed (((fresh driver).run steps).run w).trace.calls ∧
      Consumes w.library.records (((fresh driver).run steps).run w).trace.calls
        (Step.changesAll steps (((fresh driver).run steps).run w).value.answers)
        (((fresh driver).run steps).run w).world.library.records := by
  obtain ⟨-, -, paired⟩ := proceeds_run course_paired driver steps w
  obtain ⟨changes, made, consumes⟩ := proceeds_run course_consuming driver steps w
  rw [← made]
  exact ⟨paired.diagnosed, consumes⟩

end DatabaseLogon

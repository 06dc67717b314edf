import DatabaseLogon.Proofs.Unwinding

namespace DatabaseLogon

/-!
# What all actions have in common

Everything that is done with a connection consists of attempts, one after the other. So a relation
between worlds and the calls in between holds of every action once it holds of attempts and can be
put together.

* `Evolution` — such a relation.
* `Action.Evolves` — an action goes by a relation; with its rules.
* `Call.Serves` — the calls that serve an open connection.
* `Driver.evolves_openDsn`, `Connection.evolves_perform`, `Connection.evolves_release` — opening a
  connection, every operation on it and letting go of it.
* `Driver.evolves_connect` — opening a connection in a task, whatever becomes of the task.
-/

variable {σ α β ε : Type}

/-! ### What a caller is told -/

/-- What the caller gets to know of a task that yields `a` when it is run. -/
def Fate.waited {α : Type} (a : α) : Fate → Waited α
  | .finished => .ended a
  | .late _ | .starved => .timedOut
  | .cancelled reason => .unjoined reason

/-- What a driver tells of an attempt that it waited for. -/
def Driver.told (d : Driver) : Waited (Except Error Connection) → Except Error Connection
  | .ended result => result
  | .unjoined reason => .error (.internal ("connect task failed: " ++ reason))
  | .timedOut => .error (.connectionTimeout d.connectTimeout)

/-- To tell it calls nothing. -/
theorem Driver.quiet_settle (d : Driver) (waited : Waited (Except Error Connection)) :
    (d.settle waited : Action σ _).Quiet (d.told waited) := by
  cases waited with
  | ended result => exact .pure result
  | unjoined reason => exact .pure _
  | timedOut => exact .logged _ _

/-! ### Relations -/

variable [ClientLibrary σ]

/-- A relation between a world, the calls that are made in it and the world behind them. It holds of
    every attempt, of which none begins with the reading of a diagnostic, and when one thing is done
    after another. -/
structure Evolution (E : World σ → CallLog → World σ → Prop) : Prop where
  /-- Without a call at most the count of attempts to open a connection changes. -/
  nil : ∀ w n, E w [] { w with attempts := n }
  append : ∀ {w w' w'' a b}, E w a w' → E w' b w'' → E w (a ++ b) w''
  success : ∀ {w : World σ} {c : Call}, c.asks? = none → c.succeeds (w.reply c) →
    E w [(c, w.reply c)] (w.after c)
  failure : ∀ {w w' : World σ} {c : Call} {rest : CallLog}, c.asks? = none →
    ¬ c.succeeds (w.reply c) → Aftermath c (w.reply c) (w.after c) rest w' →
    E w ((c, w.reply c) :: rest) w'

/-- A relation that holds of every single call, of whatever success, holds of attempts. -/
theorem Evolution.of_calls {E : World σ → CallLog → World σ → Prop}
    (nil : ∀ w n, E w [] { w with attempts := n })
    (append : ∀ {w w' w'' a b}, E w a w' → E w' b w'' → E w (a ++ b) w'')
    (call : ∀ w c, E w [(c, w.reply c)] (w.after c)) : Evolution E where
  nil := nil
  append := append
  success _ _ := call _ _
  failure := by
    intro w w' c rest asks fails aftermath
    have called := call w c
    cases aftermath with
    | nothing leaves owes => exact called
    | reading error owes leaves => exact append called (call _ _)
    | discarding h leaves => exact append called (call _ _)

/-- An action goes by a relation between worlds and the calls in between. -/
def Action.Evolves (E : World σ → CallLog → World σ → Prop) (m : Action σ α) : Prop :=
  ∀ w, E w (m.run w).trace.calls (m.run w).world

variable {E : World σ → CallLog → World σ → Prop}

namespace Action.Evolves

theorem of_quiet (hE : Evolution E) {m : Action σ α} {a : α} (hm : m.Quiet a) : m.Evolves E := by
  intro w
  rw [hm.calls, hm.world]
  exact hE.nil w w.attempts

theorem pure (hE : Evolution E) (a : α) : (Pure.pure a : Action σ α).Evolves E :=
  of_quiet hE (.pure a)

theorem log (hE : Evolution E) (e : Event) : (Action.log e : Action σ Unit).Evolves E :=
  of_quiet hE (.log e)

theorem bind (hE : Evolution E) {m : Action σ α} {f : α → Action σ β} (hm : m.Evolves E)
    (hf : ∀ a, (f a).Evolves E) : (m >>= f).Evolves E := by
  intro w
  rw [run_bind, Trace.calls_append]
  exact hE.append (hm w) (hf _ _)

theorem of_attempt (hE : Evolution E) {m : Action σ (Except ε α)} {c : Call}
    {yields : Reply → α → Prop} {blames : Reply → CallLog → ε → Prop} (asks : c.asks? = none)
    (hm : ∀ w, Attempt c yields blames w (m.run w)) : m.Evolves E := by
  intro w
  cases hm w with
  | success a value succeeds yields calls world =>
    rw [calls, world]
    exact hE.success asks succeeds
  | failure e rest value fails calls aftermath blame =>
    rw [calls]
    exact hE.failure asks fails aftermath

end Action.Evolves

open DatabaseLogon.Action (Evolves)

/-! ### Giving back -/

theorem evolves_releaseAll (hE : Evolution E) (held : List Resource) :
    (releaseAll held).Evolves E := by
  induction held with
  | nil => exact .pure hE _
  | cons r rest ih =>
    intro w
    obtain ⟨world, calls⟩ := run_releaseAll_cons r rest w
    have released : r.release.Evolves E := .of_attempt hE r.asks?_giveBack r.attempt_release
    rw [world, calls]
    exact hE.append (released w) (ih _)

/-! ### Opening a connection -/

open Logon in
/-- A climb goes by every relation that attempts go by, for each of its rungs is an attempt. -/
theorem evolves_climb (hE : Evolution E) (id : UInt32) (dsn : Dsn) (rs : List Rung) (hs : Handles)
    (held : List Resource) (w : World σ) :
    E w ((climb id dsn rs hs).outcome held w).trace.calls
      ((climb id dsn rs hs).outcome held w).world := by
  induction rs generalizing hs held w with
  | nil => exact hE.nil w w.attempts
  | cons r rs ih =>
    have asks := Call.asks?_eq_none_of_climbs (r.climbs dsn hs)
    rw [climb, Climb.outcome_bind]
    cases r.rungDone id dsn hs held w with
    | failure e rest value fails calls aftermath blame =>
      rw [value]
      show E w ((r.perform id dsn hs).outcome held w).trace.calls _
      rw [calls]
      exact hE.failure asks fails aftermath
    | success known value succeeds written calls world =>
      have first := hE.success asks succeeds
      rw [← calls, ← world] at first
      rw [value]
      show E w (((r.perform id dsn hs).outcome held w).trace ++ _).calls _
      rw [Trace.calls_append]
      exact hE.append first (ih _ _ _)

namespace Driver

theorem evolves_openDsn (hE : Evolution E) (d : Driver) (dsn : Dsn) :
    (d.openDsn dsn).Evolves E := by
  intro w
  have numbered := hE.nil w (w.attempts + 1)
  have climbed := hE.append numbered
    (evolves_climb hE w.attempts dsn (Logon.rungs d.protocol dsn) (fun _ => ⟨1, Nat.one_pos⟩) []
      { w with attempts := w.attempts + 1 })
  rcases d.run_openDsn dsn (fun _ => ⟨1, Nat.one_pos⟩) w rfl with
    ⟨last, held, -, -, world, calls⟩ | ⟨e, held, -, -, world, calls⟩
  · rw [world, calls]
    exact climbed
  · -- what the failed climb owns is given back behind it
    rw [world, calls]
    exact hE.append climbed (evolves_releaseAll hE held _)

end Driver

/-! ### Working with a connection -/

/-- The calls that serve an open connection. -/
inductive Call.Serves (service error : Handle) : Call → Prop
  | start (timeout : Nat) (mode : TransactionMode) :
    Serves service error (.transStart service error timeout mode)
  | commit : Serves service error (.transCommit service error)
  | rollback : Serves service error (.transRollback service error)
  | ping : Serves service error (.ping service error)

theorem Call.Serves.asks? {service error : Handle} {c : Call} (h : c.Serves service error) :
    c.asks? = none := by
  cases h <;> rfl

/-- To make such a call and report its failure is an attempt. -/
theorem Call.Serves.attempt {service error : Handle} {c : Call} (h : c.Serves service error)
    (w : World σ) :
    Attempt c (fun _ _ => True) (fun r rest e => e = Client.verdict (c.failure r) rest) w
      ((Client.reported error (do return Client.check (← Action.call c))).run w) := by
  cases h <;>
    exact Client.attempt_reported (Client.makes_check (fun _ => rfl) rfl) error rfl
      (fun _ => rfl) w

namespace Connection

variable (c : Connection)

theorem evolves_whenOpen (hE : Evolution E) {m : Action σ (Except Error Unit × Connection)}
    (hm : m.Evolves E) : (c.whenOpen m).Evolves E := by
  unfold whenOpen
  by_cases h : c.closed
  · rw [if_pos h]
    exact .pure hE _
  · rw [if_neg h]
    exact hm

/-- Every operation is one attempt at most, but for closing, which gives everything back. -/
theorem evolves_perform (hE : Evolution E) (op : Operation) : (c.perform op).Evolves E := by
  have serve {call : Call} (serves : call.Serves c.logon.service c.error) :
      (Client.reported c.error (do return Client.check (← Action.call call))).Evolves E :=
    .of_attempt hE serves.asks? serves.attempt
  cases op with
  | ping => exact evolves_whenOpen c hE (.bind hE (serve .ping) fun _ => .pure hE _)
  | begin =>
    apply evolves_whenOpen c hE
    -- ordinary transactions begin by themselves, so there is no call
    by_cases usual : c.settings.transactionMode = .readWrite
    · simp only [usual, if_true, pure_bind]
      exact .bind hE (.log hE _) fun _ => .pure hE _
    · simp only [usual, if_false]
      refine .bind hE (serve (.start transactionTimeout _)) ?_
      rintro (e | _)
      · exact .pure hE _
      · exact .bind hE (.log hE _) fun _ => .pure hE _
  | commit => exact evolves_whenOpen _ hE (.bind hE (serve .commit) fun _ => .pure hE _)
  | rollback => exact evolves_whenOpen _ hE (.bind hE (serve .rollback) fun _ => .pure hE _)
  | close =>
    show c.close.Evolves E
    unfold close
    by_cases h : c.closed
    · rw [if_pos h]
      exact .pure hE _
    · rw [if_neg h]
      exact .bind hE (.log hE _) fun _ =>
        .bind hE (evolves_releaseAll hE c.held) fun _ => .pure hE _

theorem evolves_release (hE : Evolution E) : (c.release).Evolves E :=
  .bind hE (evolves_releaseAll hE c.held) fun _ => .pure hE _

end Connection

/-! ### Waiting for a connection -/

namespace Driver

variable (d : Driver)

theorem connect_of_ok {text : String} {dsn : Dsn} (parsed : Dsn.parse text = .ok dsn)
    (fate : Fate) :
    (d.connect text fate : Action σ _) = Task.await (d.openDsn dsn) discard d.settle fate := by
  rw [connect, parsed]

/-- A connection string that cannot be read is refused at once, whatever would become of a task. -/
theorem connect_of_error {text : String} {e : Error} (refused : Dsn.parse text = .error e)
    (fate : Fate) : (d.connect text fate : Action σ _) = pure (.error e) := by
  rw [connect, refused]

/-- The result is what the driver tells of the task. -/
theorem value_connect {text : String} {dsn : Dsn} (parsed : Dsn.parse text = .ok dsn) (fate : Fate)
    (w : World σ) :
    ((d.connect text fate).run w).value = d.told (fate.waited ((d.openDsn dsn).run w).value) := by
  rw [d.connect_of_ok parsed]
  cases fate with
  | finished =>
    rw [Task.await, Action.run_bind, (d.quiet_settle _).value]
    rfl
  | late entries => exact ((d.quiet_settle .timedOut).beside _ entries w).1
  | starved => exact (d.quiet_settle .timedOut).value w
  | cancelled reason => exact (d.quiet_settle (.unjoined reason)).value w

/-- A connection that a task yields is one that opened, and the task ended in time. -/
theorem openDsn_of_connect {d : Driver} {text : String} {fate : Fate} {w : World σ} {c : Connection}
    (h : ((d.connect text fate).run w).value = .ok c) :
    fate = .finished ∧ ∃ dsn, Dsn.parse text = .ok dsn ∧ ((d.openDsn dsn).run w).value = .ok c := by
  cases parsed : Dsn.parse text with
  | error e =>
    rw [d.connect_of_error parsed] at h
    cases h
  | ok dsn =>
    rw [d.value_connect parsed] at h
    cases fate with
    | finished => exact ⟨rfl, dsn, rfl, h⟩
    | late entries | starved | cancelled reason => cases h

theorem evolves_discard (hE : Evolution E) (result : Except Error Connection) :
    (discard result).Evolves E := by
  cases result with
  | ok c => exact c.evolves_release hE
  | error e => exact .pure hE ()

/-- An attempt in a task goes by every relation that attempts go by, be it in time, late or not run
    at all. -/
theorem evolves_connect (hE : Evolution E) (text : String) (fate : Fate) :
    (d.connect text fate).Evolves E := by
  have settles (waited : Waited (Except Error Connection)) : (d.settle waited).Evolves E :=
    .of_quiet hE (d.quiet_settle waited)
  cases parsed : Dsn.parse text with
  | error e =>
    rw [d.connect_of_error parsed]
    exact .pure hE _
  | ok dsn =>
    rw [d.connect_of_ok parsed]
    cases fate with
    | finished => exact .bind hE (d.evolves_openDsn hE dsn) fun result => settles (.ended result)
    | starved => exact settles .timedOut
    | cancelled reason => exact settles (.unjoined reason)
    | late entries =>
      have task : (d.openDsn dsn >>= discard).Evolves E :=
        .bind hE (d.evolves_openDsn hE dsn) (evolves_discard hE)
      intro w
      obtain ⟨-, world, calls⟩ := (d.quiet_settle .timedOut).beside (d.openDsn dsn >>= discard)
        entries w
      rw [Task.await, calls, world]
      exact task w

end Driver

end DatabaseLogon

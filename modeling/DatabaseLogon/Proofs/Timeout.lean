import DatabaseLogon.Proofs.Evolution
import DatabaseLogon.Session.Run

namespace DatabaseLogon

/-!
# Attempts in a task

An attempt to open a connection that is waited for in a task is the attempt itself if it ends in
time. If it is late it runs to its end all the same, and what it yields then is let go of, so it
leaves nothing behind but the number that it used up. If it is not run at all it does nothing.

* `Driver.attempts_openDsn` — no call counts as an attempt to open a connection; an opening counts
  once.
* `Driver.letGo` — letting go of whatever an attempt yielded.
* `Driver.openDsn_letGo_released` — then everything that was acquired has been given back.
* `Driver.connect_finished`, `Driver.run_connect_late`, `Driver.run_connect_of_not_runs` — an
  attempt in time, one that is late and one that is not run.
* `Driver.connect_settles` — connecting is opening, or else opening and letting go.
-/

/-! ### Filling a slot -/

/-- An attempt to open a connection that fails leaves all slots alone. -/
theorem Session.run_openInto_of_error {s : Session} {slot : Nat}
    {m : Action Script (Except Error Connection)} {w : World Script} {e : Error}
    (failed : (m.run w).value = .error e) :
    (s.openInto slot m).run w =
      { value := (.opened (.error e) (m.run w).trace, s)
        world := (m.run w).world
        trace := (m.run w).trace } := by
  simp only [openInto, Action.run_bind, Action.run_observed, failed, Action.run_pure,
    List.append_nil]

variable {σ : Type} [ClientLibrary σ]

/-! ### The count of attempts -/

/-- What follows a failed call is no attempt to open a connection. -/
theorem Aftermath.attempts_eq {c : Call} {r : Reply} {w w' : World σ} {rest : CallLog}
    (h : Aftermath c r w rest w') : w'.attempts = w.attempts := by
  cases h <;> rfl

theorem Attempt.attempts_eq {α ε : Type} {c : Call} {yields : Reply → α → Prop}
    {blames : Reply → CallLog → ε → Prop} {w : World σ} {o : Outcome σ (Except ε α)}
    (h : Attempt c yields blames w o) : o.world.attempts = w.attempts := by
  cases h with
  | success a value succeeds yields calls world =>
    rw [world]
    rfl
  | failure e rest value fails calls aftermath blame => exact aftermath.attempts_eq

theorem attempts_releaseAll (held : List Resource) (w : World σ) :
    ((releaseAll held).run w).world.attempts = w.attempts := by
  induction held generalizing w with
  | nil => rfl
  | cons r rest ih => rw [(run_releaseAll_cons r rest w).1, ih, (r.attempt_release w).attempts_eq]

open Logon in
theorem attempts_climb (id : UInt32) (dsn : Dsn) (rs : List Rung) (hs : Handles)
    (held : List Resource) (w : World σ) :
    ((climb id dsn rs hs).outcome held w).world.attempts = w.attempts := by
  induction rs generalizing hs held w with
  | nil => rfl
  | cons r rs ih =>
    rw [climb, Climb.outcome_bind]
    cases r.rungDone id dsn hs held w with
    | failure e rest value fails calls aftermath blame =>
      rw [value]
      exact aftermath.attempts_eq
    | success known value succeeds written calls world =>
      rw [value]
      dsimp only
      rw [ih, world]
      rfl

namespace Driver

/-- An attempt to open a connection uses up one number, whatever comes of it. -/
theorem attempts_openDsn (d : Driver) (dsn : Dsn) (w : World σ) :
    ((d.openDsn dsn).run w).world.attempts = w.attempts + 1 := by
  have climbed := attempts_climb w.attempts dsn (Logon.rungs d.protocol dsn)
    (fun _ => ⟨1, Nat.one_pos⟩) [] { w with attempts := w.attempts + 1 }
  rcases d.run_openDsn dsn (fun _ => ⟨1, Nat.one_pos⟩) w rfl with
    ⟨last, held, -, -, world, -⟩ | ⟨e, held, -, -, world, -⟩
  · rw [world, climbed]
  · rw [world, attempts_releaseAll, climbed]

/-! ### Letting go of what was opened -/

/-- What comes of letting go of whatever an attempt to open a connection yielded. -/
def letGo (o : Outcome σ (Except Error Connection)) : Outcome σ Unit :=
  (discard o.value).run o.world

theorem attempts_letGo (o : Outcome σ (Except Error Connection)) :
    (letGo o).world.attempts = o.world.attempts := by
  unfold letGo
  cases o.value with
  | ok c =>
    show (c.release.run o.world).world.attempts = _
    rw [c.run_release, attempts_releaseAll]
  | error e => rfl

/-- **Whatever an attempt acquired has been given back** when what it yielded is let go of: first
    an environment that came with a failure, and then all that was acquired, the newest first. -/
theorem openDsn_letGo_released (d : Driver) (dsn : Dsn) (w : World σ) :
    let opened := (d.openDsn dsn).run w
    let log := opened.trace.calls ++ (letGo opened).trace.calls
    CallLog.released log = CallLog.orphaned log ++ (CallLog.acquired log).reverse := by
  intro opened log
  cases d.opening dsn (fun _ => ⟨1, Nat.one_pos⟩) w with
  | success c last up value ascent calls =>
    obtain ⟨last', -, owned⟩ := ascent_of_openDsn (fun _ => ⟨1, Nat.one_pos⟩) value
    have held : c.held = (CallLog.acquired up).reverse := by
      rw [owned, calls]
      rfl
    have down : (letGo opened).trace.calls
        = ((releaseAll c.held).run opened.world).trace.calls := by
      have value' : opened.value = .ok c := value
      rw [letGo, value']
      exact congrArg (·.trace.calls) (c.run_release opened.world)
    obtain ⟨released, descends⟩ := releaseAll_released c.held opened.world
    obtain ⟨acquired, orphaned, split⟩ := CallLog.acquired_split ascent.climbs descends
    have log_eq : log = up ++ ((releaseAll c.held).run opened.world).trace.calls := by
      rw [← down, ← calls]
    rw [log_eq, acquired, orphaned, split, released, held, CallLog.orphaned_eq_nil ascent.succeed,
      List.nil_append]
  | failure e up failed rest unwinding value ascent calls orphans reverse descends =>
    have down : (letGo opened).trace.calls = [] := by
      have value' : opened.value = .error e := value
      rw [letGo, value']
      rfl
    obtain ⟨succeed, fails⟩ := ascent.slips
    obtain ⟨acquired, orphaned, split⟩ := CallLog.acquired_split ascent.climbs descends
    have log_eq : log = (up ++ [failed]) ++ (rest ++ unwinding) := by
      rw [List.append_assoc, List.singleton_append, ← calls, ← List.append_nil opened.trace.calls,
        ← down]
    have gained : CallLog.acquired (up ++ [failed]) = CallLog.acquired up := by
      rw [CallLog.acquired_append, CallLog.acquired_singleton,
        Call.acquires?_eq_none_of_not_succeeds fails]
      exact List.append_nil _
    rw [log_eq, acquired, orphaned, split, gained, CallLog.released_append, orphans, reverse,
      CallLog.orphaned_append, CallLog.orphaned_eq_nil succeed, CallLog.orphaned_singleton,
      List.nil_append]

/-! ### Connecting -/

/-- In time, an attempt in a task is the attempt. -/
theorem connect_finished (d : Driver) (text : String) :
    (d.connect text .finished : Action σ _) = d.openText text := by
  cases parsed : Dsn.parse text with
  | error e => rw [d.connect_of_error parsed, openText, parsed]
  | ok dsn =>
    rw [d.connect_of_ok parsed, openText, parsed]
    exact Action.bind_pure (d.openDsn dsn)

/-- A task that is late tells how long it was waited for, and what it leaves is what its attempt
    leaves when what that yielded is let go of. The warning falls somewhere in between. -/
theorem run_connect_late (d : Driver) {text : String} {dsn : Dsn}
    (parsed : Dsn.parse text = .ok dsn) (entries : Nat) (w : World σ) :
    let opened := (d.openDsn dsn).run w
    (d.connect text (.late entries)).run w =
      { value := .error (.connectionTimeout d.connectTimeout)
        world := (letGo opened).world
        trace := (opened.trace ++ (letGo opened).trace).take entries
          ++ .logged (.connectTimedOut d.connectTimeout)
          :: (opened.trace ++ (letGo opened).trace).drop entries } := by
  intro opened
  -- what the caller does meanwhile calls nothing, so the world is the one that the task leaves
  have told (w : World σ) : (d.settle .timedOut).run w =
      { value := .error (.connectionTimeout d.connectTimeout), world := w
        trace := [.logged (.connectTimedOut d.connectTimeout)] } := rfl
  rw [d.connect_of_ok parsed, Task.await, Action.run_beside, told, Action.run_bind,
    List.append_assoc, List.singleton_append]
  rfl

theorem calls_connect_late (d : Driver) {text : String} {dsn : Dsn}
    (parsed : Dsn.parse text = .ok dsn) (entries : Nat) (w : World σ) :
    ((d.connect text (.late entries)).run w).trace.calls
      = ((d.openDsn dsn).run w).trace.calls ++ (letGo ((d.openDsn dsn).run w)).trace.calls := by
  obtain ⟨-, -, calls⟩ := (d.quiet_settle .timedOut).beside (d.openDsn dsn >>= discard) entries w
  rw [d.connect_of_ok parsed, Task.await, calls, Action.run_bind, Trace.calls_append]
  rfl

/-- A task that is not run leaves the world alone and calls nothing. -/
theorem run_connect_of_not_runs (d : Driver) {text : String} {dsn : Dsn}
    (parsed : Dsn.parse text = .ok dsn) (w : World σ) :
    (d.connect text .starved).run w =
      { value := .error (.connectionTimeout d.connectTimeout), world := w
        trace := [.logged (.connectTimedOut d.connectTimeout)] } ∧
    ∀ reason, (d.connect text (.cancelled reason)).run w =
      { value := .error (.internal ("connect task failed: " ++ reason)), world := w
        trace := [] } := by
  constructor
  · rw [d.connect_of_ok parsed]
    rfl
  · intro reason
    rw [d.connect_of_ok parsed]
    rfl

/-- A late attempt changes no slot, and releases nothing that is in one. -/
theorem slots_connect_late (d : Driver) (slots : Slots) (slot : Nat) (text : String)
    (entries : Nat) (w : World Script) :
    let performed := (Session.perform ⟨d, slots⟩ (.connect slot text (.late entries))).run w
    performed.value.2 = ⟨d, slots⟩ ∧
      performed.trace = ((d.connect text (.late entries)).run w).trace := by
  -- a slot is filled by a connection only, and nobody is given one here
  have fails : ∃ e, ((d.connect text (.late entries)).run w).value = .error e := by
    cases parsed : Dsn.parse text with
    | ok dsn => exact ⟨_, congrArg Outcome.value (d.run_connect_late parsed entries w)⟩
    | error e =>
      rw [d.connect_of_error parsed]
      exact ⟨e, rfl⟩
  obtain ⟨e, failed⟩ := fails
  rw [Session.perform, Session.run_openInto_of_error failed]
  exact ⟨rfl, rfl⟩

/-- **Connecting is opening, or else opening and letting go.** An attempt that ends in time is the
    same as opening. An attempt that is late fails with the time that was allowed, and leaves the
    slots alone. What happens in it is opening and, if that yields a connection, letting go of it,
    so that everything it acquired has been given back; only the warning that time is up falls
    somewhere in between. It uses up one number as opening does. An attempt that is not run does
    nothing at all, and a connection string that cannot be read is refused without a call. -/
theorem connect_settles (d : Driver) (text : String) (w : World σ) :
    (d.connect text .finished).run w = (d.openText text).run w ∧
    (∀ (slots : Slots) (slot entries : Nat) (w : World Script),
      let performed := (Session.perform ⟨d, slots⟩ (.connect slot text (.late entries))).run w
      performed.value.2 = ⟨d, slots⟩ ∧
        performed.trace = ((d.connect text (.late entries)).run w).trace) ∧
    match Dsn.parse text with
    | .error e => ∀ fate,
      (d.connect text fate).run w = { value := .error e, world := w, trace := [] }
    | .ok dsn =>
      let opened := (d.openDsn dsn).run w
      let dropped := letGo opened
      opened.world.attempts = w.attempts + 1 ∧
      (∀ entries,
        let late := (d.connect text (.late entries)).run w
        late.value = .error (.connectionTimeout d.connectTimeout) ∧
        late.trace = (opened.trace ++ dropped.trace).take entries
          ++ .logged (.connectTimedOut d.connectTimeout)
          :: (opened.trace ++ dropped.trace).drop entries ∧
        late.trace.calls = opened.trace.calls ++ dropped.trace.calls ∧
        CallLog.released late.trace.calls
          = CallLog.orphaned late.trace.calls ++ (CallLog.acquired late.trace.calls).reverse ∧
        late.world = dropped.world ∧ late.world.attempts = w.attempts + 1) ∧
      (d.connect text .starved).run w =
        { value := .error (.connectionTimeout d.connectTimeout), world := w
          trace := [.logged (.connectTimedOut d.connectTimeout)] } ∧
      ∀ reason, (d.connect text (.cancelled reason)).run w =
        { value := .error (.internal ("connect task failed: " ++ reason)), world := w
          trace := [] } := by
  refine ⟨by rw [connect_finished], fun slots slot entries w =>
    d.slots_connect_late slots slot text entries w, ?_⟩
  split
  next e refused =>
    intro fate
    rw [d.connect_of_error refused]
    rfl
  next dsn parsed =>
    intro opened dropped
    refine ⟨d.attempts_openDsn dsn w, fun entries => ?_, d.run_connect_of_not_runs parsed w⟩
    intro late
    have run : late = _ := d.run_connect_late parsed entries w
    have calls : late.trace.calls = opened.trace.calls ++ dropped.trace.calls :=
      d.calls_connect_late parsed entries w
    refine ⟨by rw [run], by rw [run], calls, ?released, by rw [run], ?attempts⟩
    case released =>
      rw [calls]
      exact d.openDsn_letGo_released dsn w
    case attempts =>
      rw [run]
      exact (attempts_letGo opened).trans (d.attempts_openDsn dsn w)

end Driver

end DatabaseLogon

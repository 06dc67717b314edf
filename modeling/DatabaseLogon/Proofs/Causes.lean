import DatabaseLogon.Dsn.Builder
import DatabaseLogon.Proofs.Closing
import DatabaseLogon.Proofs.FirstFailure
import DatabaseLogon.Proofs.History
import DatabaseLogon.Proofs.Service
import DatabaseLogon.Proofs.Timeout

namespace DatabaseLogon

/-!
# What errors are about

An error of configuration says that the connection string is to blame, and then nothing was done
with it. Every other error comes from an attempt that was made, or was to be made in a task that was
never run. So callers can tell a connection string that is wrong from a database that is down.

* `Error.OfString`, `Error.OfOpening`, `Error.OfService` — the errors of connection strings, of
  attempts to open a connection and of operations on one. Only the first are of configuration.
* `Dsn.ofString_of_parse`, `Dsn.Builder.ofString_of_build` — where the first come from.
* `Driver.ofOpening_of_openDsn`, `Connection.ofService_of_perform` — where the others do.
* `Driver.Separated` — an attempt that failed without having been made, or that was made.
* `configuration_iff_untouched` — every attempt that failed is one or the other.
-/

/-! ### Groups of errors -/

namespace Error

/-- The errors of a connection string. -/
inductive OfString : Error → Prop
  | text (text : String) : OfString (.invalidConnectionString text)
  | parameter (name value : String) : OfString (.invalidParameter name value)

/-- The errors of an attempt to open a connection. -/
inductive OfOpening : Error → Prop
  | environment : OfOpening .environmentCreate
  | allocation (kind : HandleKind) : OfOpening (.handleAlloc kind)
  | record (record : Diagnostic) : OfOpening (.oracle record)
  | status (status : Status) : OfOpening (.native status)

/-- The errors of an operation on a connection. -/
inductive OfService : Error → Prop
  | closed : OfService .connectionClosed
  | record (record : Diagnostic) : OfService (.oracle record)
  | status (status : Status) : OfService (.native status)

variable {e : Error}

/-- The errors of connection strings are those of configuration. -/
theorem isConfiguration_iff : e.isConfiguration = true ↔ e.OfString := by
  constructor
  · intro blames
    cases e with
    | invalidConnectionString text => exact .text text
    | invalidParameter name value => exact .parameter name value
    | _ => cases blames
  · rintro (_ | _) <;> rfl

theorem OfOpening.isConfiguration (h : e.OfOpening) : e.isConfiguration = false := by
  cases h <;> rfl

theorem OfService.isConfiguration (h : e.OfService) : e.isConfiguration = false := by
  cases h <;> rfl

end Error

/-! ### Connection strings -/

namespace Dsn

/-- What reports a fault is an error of connection strings. -/
theorem ofString_of_mapError {α : Type} {x : Except Fault α} {e : Error}
    (h : x.mapError Fault.toError = .error e) : e.OfString := by
  cases x with
  | ok a => cases h
  | error fault =>
    obtain rfl := Except.error.inj h
    exact Error.isConfiguration_iff.mp fault.isConfiguration_toError

theorem ofString_of_parse {text : String} {e : Error} (h : parse text = .error e) : e.OfString :=
  ofString_of_mapError h

theorem Builder.ofString_of_build {b : Builder} {e : Error} (h : b.build = .error e) : e.OfString :=
  ofString_of_mapError h

end Dsn

variable {σ : Type}

/-! ### Attempts that failed -/

/-- How an attempt by a connection string failed with an error: it was not made, or it was made and
    the error is one that `others` allows. -/
structure Driver.Separated (text : String) (w : World σ) (others : Error → Prop)
    (o : Outcome σ (Except Error Connection)) (e : Error) : Prop where
  /-- The connection string is to blame exactly if it cannot be read, -/
  unread : e.isConfiguration = true ↔ ∃ fault, Dsn.parse text = .error fault
  /-- exactly if nothing was called -/
  uncalled : e.isConfiguration = true ↔ o.trace.calls = []
  /-- and exactly if the attempt was not counted. -/
  uncounted : e.isConfiguration = true ↔ o.world.attempts = w.attempts
  /-- Then the error is that of the connection string, and nothing happened at all. -/
  untouched : e.isConfiguration = true → Dsn.parse text = .error e ∧
    o = { value := .error e, world := w, trace := [] }
  others : e.isConfiguration = false → others e

namespace Driver.Separated

variable {text : String} {dsn : Dsn} {w : World σ} {others : Error → Prop}
  {o : Outcome σ (Except Error Connection)} {e : Error}

/-- The attempt was not made. -/
theorem of_unread (refused : Dsn.parse text = .error e)
    (same : o = { value := .error e, world := w, trace := [] }) :
    Separated text w others o e := by
  have blames := Error.isConfiguration_iff.mpr (Dsn.ofString_of_parse refused)
  subst same
  exact
    { unread := iff_of_true blames ⟨e, refused⟩
      uncalled := iff_of_true blames rfl
      uncounted := iff_of_true blames rfl
      untouched := fun _ => ⟨refused, rfl⟩
      others := fun spared => by rw [spared] at blames; cases blames }

/-- The attempt was made. -/
theorem of_read (parsed : Dsn.parse text = .ok dsn) (called : o.trace.calls ≠ [])
    (counted : o.world.attempts = w.attempts + 1) (spared : e.isConfiguration = false)
    (other : others e) : Separated text w others o e := by
  have innocent : ¬ e.isConfiguration = true := Bool.eq_false_iff.mp spared
  exact
    { unread := iff_of_false innocent fun ⟨fault, refused⟩ => by
        rw [parsed] at refused
        cases refused
      uncalled := iff_of_false innocent called
      uncounted := iff_of_false innocent (by rw [counted]; grind)
      untouched := fun blames => absurd blames innocent
      others := fun _ => other }

end Driver.Separated

variable [ClientLibrary σ]

/-! ### Native calls -/

/-- A failed status means the record that was read, or itself. -/
theorem Client.verdict_cases (status : Status) (rest : CallLog) :
    (∃ record, verdict status rest = .oracle record) ∨ verdict status rest = .native status := by
  unfold verdict
  cases rest.head?.bind fun e => recordOf e.2 with
  | some record => exact .inl ⟨record, rfl⟩
  | none => exact .inr rfl

/-- The failure of a step means an error of opening. -/
theorem Call.Explains.ofOpening {c : Call} {r : Reply} {after : CallLog} {e : Error}
    (h : c.Explains r after e) : e.OfOpening := by
  cases h with
  | environment => exact .environment
  | allocation => exact .allocation _
  | record => exact .record _
  | unreadable => exact .status _
  | unread => exact .status _

/-- So the step that decides an attempt does. -/
theorem Decided.ofOpening {log : CallLog} {e : Error} (h : Decided log e) : e.OfOpening := by
  obtain ⟨before, c, r, after, -, -, -, explains⟩ := h
  exact explains.ofOpening

/-- What goes wrong while an operation is served is an error of service. -/
theorem Served.ofService {error : Handle} {w after : World σ} {call? : Option Call} {log : CallLog}
    {e : Error} (served : Served error w call? log (.error e) after) : e.OfService := by
  cases served with
  | told => exact .record _
  | untold => exact .status _
  | refused => exact .status _

namespace Connection

variable {c : Connection}

/-- To close a connection fails with an error of service. -/
theorem ofService_of_releaseAll {held : List Resource} {w : World σ} {e : Error}
    (h : ((releaseAll held).run w).value.1 = .error e) : e.OfService := by
  obtain ⟨returns, released⟩ := exists_released held w
  obtain ⟨before, x, after, -, -, -, rfl⟩ := (released.failed e).mp h
  rcases Client.verdict_cases x.reply.status x.reading with ⟨record, same⟩ | same
  · rw [Return.error, same]
    exact .record record
  · rw [Return.error, same]
    exact .status _

/-- **Operations fail with errors of service**, on whatever connection. -/
theorem ofService_of_perform {op : Operation} {w : World σ} {e : Error}
    (h : ((c.perform op).run w).value.1 = .error e) : e.OfService := by
  cases c.performed op w with
  | refused run =>
    rw [run] at h
    cases op <;> cases h
    all_goals exact .closed
  | releasing closing calls value => exact ofService_of_releaseAll (value.symm.trans h)
  | served call? serves served =>
    rw [h] at served
    exact served.ofService

end Connection

/-! ### Attempts to open a connection -/

/-- What an attempt in a task can fail with. The caller of one that is late only learns how long it
    was waited for, and of one that is not run that, or why. -/
def Fate.Yields (after : Duration) : Fate → Error → Prop
  | .finished, e => e.OfOpening
  | .late _, e | .starved, e => e = .connectionTimeout after
  | .cancelled reason, e => e = .internal ("connect task failed: " ++ reason)

theorem Fate.Yields.isConfiguration {after : Duration} {fate : Fate} {e : Error}
    (h : fate.Yields after e) : e.isConfiguration = false := by
  cases fate with
  | finished => exact Error.OfOpening.isConfiguration h
  | late entries | starved | cancelled reason =>
    rw [h]
    rfl

namespace Driver

variable {d : Driver} {dsn : Dsn} {w : World σ} {e : Error}

/-- An attempt fails with an error of opening. -/
theorem ofOpening_of_openDsn (h : ((d.openDsn dsn).run w).value = .error e) : e.OfOpening :=
  (decided_of_error h).ofOpening

/-- No attempt ends before its first call. -/
theorem calls_openDsn_ne_nil (d : Driver) (dsn : Dsn) (w : World σ) :
    ((d.openDsn dsn).run w).trace.calls ≠ [] := by
  cases d.opening dsn (fun _ => ⟨1, Nat.one_pos⟩) w with
  | success c last log value ascent calls =>
    -- all rungs were climbed, and the first two of them are the same for both protocols
    rw [calls]
    refine List.ne_nil_of_length_pos ?_
    rw [ascent.length_eq]
    exact Nat.succ_pos _
  | failure e log failed rest unwinding value ascent calls =>
    rw [calls]
    exact List.append_ne_nil_of_right_ne_nil _ (List.cons_ne_nil _ _)

/-- **Every attempt that failed** was not made or was made, in a task too unless it was never run. -/
theorem separated_connect {text : String} {fate : Fate}
    (runs : fate.runs = true ∨ ∃ fault, Dsn.parse text = .error fault)
    (failed : ((d.connect text fate).run w).value = .error e) :
    Separated text w (fate.Yields d.connectTimeout) ((d.connect text fate).run w) e := by
  cases parsed : Dsn.parse text with
  | error fault =>
    rw [d.connect_of_error parsed] at failed ⊢
    obtain rfl := Except.error.inj failed
    exact .of_unread parsed rfl
  | ok dsn =>
    have other : fate.Yields d.connectTimeout e ∧
        ((d.connect text fate).run w).trace.calls ≠ [] ∧
        ((d.connect text fate).run w).world.attempts = w.attempts + 1 := by
      cases fate with
      | finished =>
        have opening : (d.connect text .finished : Action σ _) = d.openDsn dsn := by
          rw [connect_finished, openText, parsed]
        rw [opening] at failed ⊢
        exact ⟨ofOpening_of_openDsn failed, d.calls_openDsn_ne_nil dsn w,
          d.attempts_openDsn dsn w⟩
      | late entries =>
        -- the calls of the task begin with those of the attempt, and letting go is no attempt
        rw [d.calls_connect_late parsed]
        rw [d.run_connect_late parsed] at failed ⊢
        exact ⟨(Except.error.inj failed).symm,
          List.append_ne_nil_of_left_ne_nil (d.calls_openDsn_ne_nil dsn w) _,
          (attempts_letGo _).trans (d.attempts_openDsn dsn w)⟩
      | starved | cancelled reason =>
        rcases runs with runs | ⟨fault, refused⟩
        · cases runs
        · rw [parsed] at refused
          cases refused
    obtain ⟨other, called, counted⟩ := other
    exact .of_read parsed called counted other.isConfiguration other

/-- An attempt in a task that was not run did nothing, and its error does not blame the connection
    string. -/
theorem idle_connect {text : String} {fate : Fate} (idle : fate.runs = false)
    (parsed : Dsn.parse text = .ok dsn) (failed : ((d.connect text fate).run w).value = .error e) :
    fate.Yields d.connectTimeout e ∧ e.isConfiguration = false ∧
      ((d.connect text fate).run w).trace.calls = [] ∧ ((d.connect text fate).run w).world = w := by
  obtain ⟨starved, cancelled⟩ := d.run_connect_of_not_runs parsed w
  have yields : fate.Yields d.connectTimeout e := by
    cases fate with
    | starved =>
      rw [starved] at failed
      exact (Except.error.inj failed).symm
    | cancelled reason =>
      rw [cancelled] at failed
      exact (Except.error.inj failed).symm
    | finished | late entries => cases idle
  refine ⟨yields, yields.isConfiguration, ?_⟩
  cases fate with
  | starved =>
    rw [starved]
    exact ⟨rfl, rfl⟩
  | cancelled reason =>
    rw [cancelled]
    exact ⟨rfl, rfl⟩
  | finished | late entries => cases idle

end Driver

/-- **Errors of configuration and native calls exclude each other.** An attempt to open a connection
    that fails was either not made, because the connection string cannot be read, or made, and its
    error says which by itself. This is so for attempts in a task as well, unless there was a task
    and it was not run; then nothing was done, and the error is of another kind. All errors of
    connection strings and of names that are built are of configuration, and none of the errors of
    operations is. -/
theorem configuration_iff_untouched :
    (∀ {σ : Type} [ClientLibrary σ] (d : Driver) (text : String) (w : World σ) (e : Error),
      (((d.openText text).run w).value = .error e →
        Driver.Separated text w Error.OfOpening ((d.openText text).run w) e) ∧
      (∀ fate : Fate, fate.runs = true ∨ (∃ fault, Dsn.parse text = .error fault) →
        ((d.connect text fate).run w).value = .error e →
        Driver.Separated text w (fate.Yields d.connectTimeout)
          ((d.connect text fate).run w) e) ∧
      ∀ (fate : Fate) (dsn : Dsn), fate.runs = false → Dsn.parse text = .ok dsn →
        ((d.connect text fate).run w).value = .error e →
        fate.Yields d.connectTimeout e ∧ e.isConfiguration = false ∧
          ((d.connect text fate).run w).trace.calls = [] ∧
          ((d.connect text fate).run w).world = w) ∧
    (∀ text e, Dsn.parse text = .error e → e.OfString ∧ e.isConfiguration = true) ∧
    (∀ (b : Dsn.Builder) e, b.build = .error e → e.OfString ∧ e.isConfiguration = true) ∧
    ∀ {σ : Type} [ClientLibrary σ] (c : Connection) (op : Operation) (w : World σ) (e : Error),
      ((c.perform op).run w).value.1 = .error e → e.OfService ∧ e.isConfiguration = false := by
  refine ⟨fun d text w e => ⟨?opened, fun fate runs failed => Driver.separated_connect runs failed,
    fun fate dsn idle parsed failed => Driver.idle_connect idle parsed failed⟩,
    fun text e refused => ?parsed, fun b e refused => ?built, fun c op w e failed => ?performed⟩
  case opened =>
    intro failed
    rw [← d.connect_finished] at failed ⊢
    exact Driver.separated_connect (.inl rfl) failed
  case parsed =>
    have blames := Dsn.ofString_of_parse refused
    exact ⟨blames, Error.isConfiguration_iff.mpr blames⟩
  case built =>
    have blames := Dsn.Builder.ofString_of_build refused
    exact ⟨blames, Error.isConfiguration_iff.mpr blames⟩
  case performed =>
    have spared := Connection.ofService_of_perform failed
    exact ⟨spared, spared.isConfiguration⟩

/-- One connection string has an isolation that does not exist. The other one is right, but nobody
    listens at the server, whether the attempt is waited for or not; and if the task is cancelled,
    nobody is asked. -/
theorem configuration_iff_untouched_refused :
    let w : World Script :=
      ⟨{ rules := [⟨.serverAttach, none, -1, none, none⟩], records := [⟨0, 12541, [110, 111]⟩]
         issued := 0 }, 7⟩
    let wrong := (Driver.standard.openText "scott/tiger@db?isolation=SNAPSHOT").run w
    let down := (Driver.standard.openText "scott/tiger@db").run w
    let late := (Driver.standard.connect "scott/tiger@db" (.late 3)).run w
    let cancelled := (Driver.standard.connect "scott/tiger@db" (.cancelled "task 1")).run w
    wrong = { value := .error (.invalidParameter "isolation" "SNAPSHOT"), world := w
              trace := [] } ∧
      down.value = .error (.oracle ⟨12541, "no"⟩) ∧ down.trace.calls ≠ [] ∧
      down.world.attempts ≠ 7 ∧
      late.value = .error (.connectionTimeout (.ofSeconds 10 0)) ∧ late.trace.calls ≠ [] ∧
      cancelled.value = .error (.internal "connect task failed: task 1") ∧
      cancelled.trace.calls = [] ∧ cancelled.world = w := by
  intro w wrong down late cancelled
  have isolation : wrong.value = .error (.invalidParameter "isolation" "SNAPSHOT") := by
    decide +kernel
  have listener : down.value = .error (.oracle ⟨12541, "no"⟩) := by
    decide +kernel
  have timeout : late.value = .error (.connectionTimeout (.ofSeconds 10 0)) := by
    decide +kernel
  have joined : cancelled.value = .error (.internal "connect task failed: task 1") := by
    decide +kernel
  have readable : (Dsn.parse "scott/tiger@db").toBool = true := by decide +kernel
  have refused := (configuration_iff_untouched.1 _ _ w _).1 isolation
  have failed := (configuration_iff_untouched.1 _ _ w _).1 listener
  have waited := (configuration_iff_untouched.1 _ _ w _).2.1 (.late 3) (.inl rfl) timeout
  have made {e : Error} (spared : e.isConfiguration = false) : ¬ e.isConfiguration = true :=
    Bool.eq_false_iff.mp spared
  have idle : cancelled.trace.calls = [] ∧ cancelled.world = w := by
    cases parsed : Dsn.parse "scott/tiger@db" with
    | error fault =>
      rw [parsed] at readable
      cases readable
    | ok dsn =>
      exact ((configuration_iff_untouched.1 _ _ w _).2.2 (.cancelled "task 1") dsn rfl parsed
        joined).2.2
  exact ⟨(refused.untouched rfl).2, listener, mt failed.uncalled.mpr (made rfl),
    mt failed.uncounted.mpr (made rfl), timeout, mt waited.uncalled.mpr (made rfl), joined, idle⟩

end DatabaseLogon

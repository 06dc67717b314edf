import DatabaseLogon.Driver
import DatabaseLogon.Proofs.Ascent

namespace DatabaseLogon

/-!
# Unwinding

An attempt to open a connection that fails gives back what it acquired, the newest first and with
the handles it was acquired with, whatever the client library answers meanwhile.

* `run_releaseFrom`, `releaseAll_left` — what failed before only changes the result of giving
  resources back, and nothing is left of them.
* `releaseAll_released` — giving all resources back is one such call for each, in their order.
* `Opening` — what comes of an attempt; `Driver.opening` proves it of every attempt.
* `Unwound` — the calls of an attempt that failed.
* `Driver.openDsn_unwinds` — every failed attempt is unwound, a successful one gives nothing back.
-/

variable {σ : Type} [ClientLibrary σ]

/-! ### Giving resources back -/

namespace Resource

/-- Giving a resource back is an attempt. Its failure is the error that the status means; for a
    handle nothing is read. -/
theorem attempt_release (r : Resource) (w : World σ) :
    Attempt r.giveBack (fun _ _ => True)
      (fun reply rest e => e = Client.verdict (r.giveBack.failure reply) rest) w
      (r.release.run w) := by
  cases r with
  | handle h kind =>
    have made := (Client.makes_check (σ := σ) (c := .handleFree h kind) (fun _ => rfl) rfl).attempt
      (fun _ => rfl) rfl w
    refine .after_log _ (made.bind_quiet (fun _ => .pure _) ?_)
    rintro status rest ⟨rfl, rfl⟩
    exact ⟨.native _, .pure _, rfl⟩
  | attachment server error =>
    have made := Client.attempt_reported
      (Client.makes_check (σ := σ) (c := .serverDetach server error) (fun _ => rfl) rfl) error
      rfl (fun _ => rfl) w
    exact .after_log _ made
  | session service error user =>
    have made := Client.attempt_reported
      (Client.makes_check (σ := σ) (c := .sessionEnd service error user) (fun _ => rfl) rfl) error
      rfl (fun _ => rfl) w
    exact .after_log _ made
  | logon service error =>
    have made := Client.attempt_reported
      (Client.makes_check (σ := σ) (c := .logoff service error) (fun _ => rfl) rfl) error
      rfl (fun _ => rfl) w
    exact .after_log _ made

end Resource

/-- What failed before is the result of giving resources back, and makes no other difference.
    Nothing is left of them. -/
theorem run_releaseFrom (failed? : Option Error) (held : List Resource) (w : World σ) :
    (releaseFrom failed? held).run w =
      { value := (failed?.elim ((releaseAll held).run w).value.1 .error, [])
        world := ((releaseAll held).run w).world
        trace := ((releaseAll held).run w).trace } := by
  induction held generalizing failed? w with
  | nil => cases failed? <;> rfl
  | cons r rest ih =>
    simp only [releaseAll, releaseFrom, Action.run_bind]
    cases (r.release.run w).value with
    | ok _ =>
      have later := ih failed? (r.release.run w).world
      rw [later]
      rfl
    | error e =>
      -- this failure is the first one exactly if nothing failed before
      have later (first? : Option Error) := ih first? (r.release.run w).world
      simp only [Action.run_bind, Action.run_log, later]
      cases failed? <;> rfl

/-- Nothing is left of what is given back, whatever fails. -/
theorem releaseAll_left (held : List Resource) (w : World σ) :
    ((releaseAll held).run w).value.2 = [] := by
  rw [releaseAll, run_releaseFrom]

/-- A failure to give something back does not stop what comes behind it. -/
theorem run_releaseAll_cons (r : Resource) (rest : List Resource) (w : World σ) :
    ((releaseAll (r :: rest)).run w).world
        = ((releaseAll rest).run (r.release.run w).world).world ∧
      ((releaseAll (r :: rest)).run w).trace.calls
        = (r.release.run w).trace.calls
          ++ ((releaseAll rest).run (r.release.run w).world).trace.calls := by
  rw [releaseAll, releaseFrom, Action.run_bind]
  cases (r.release.run w).value with
  | ok _ => exact ⟨rfl, Trace.calls_append _ _⟩
  | error e =>
    -- the failure is only logged
    simp only [Action.run_bind, Action.run_log, run_releaseFrom, Trace.calls_append, true_and]
    rfl

/-- The aftermath of a call gives back what the failure left behind, and else only reads. -/
theorem Aftermath.released {c : Call} {r : Reply} {w w' : World σ} {rest : CallLog}
    (h : Aftermath c r w rest w') : rest.released = (c.leaves? r).toList := by
  cases h with
  | nothing leaves owes => rw [leaves]; rfl
  | reading error owes leaves => rw [leaves]; rfl
  | discarding h leaves => rw [leaves]; rfl

/-- No call of an aftermath climbs. -/
theorem Aftermath.descends {c : Call} {r : Reply} {w w' : World σ} {rest : CallLog}
    (h : Aftermath c r w rest w') : ∀ e ∈ rest, e.1.descends := by
  cases h with
  | nothing leaves owes => simp
  | reading error owes leaves => simp [Call.descends, Call.reads, Call.entryPoint]
  | discarding h leaves => simp [Call.descends, Call.releases?]

/-- One call gives a resource back; a diagnostic may be read then. -/
theorem Resource.release_released (r : Resource) (w : World σ) :
    CallLog.released (r.release.run w).trace.calls = [r] ∧
      ∀ e ∈ (r.release.run w).trace.calls, e.1.descends := by
  cases r.attempt_release w with
  | success a value succeeds yields calls world =>
    rw [calls]
    simp [CallLog.released]
  | failure e rest value fails calls aftermath blame =>
    rw [calls, CallLog.released_cons, aftermath.released]
    simpa using aftermath.descends

/-- **Giving all resources back** is one call for each, in their order, whatever fails; apart from
    that only diagnostics are read. -/
theorem releaseAll_released (held : List Resource) (w : World σ) :
    CallLog.released ((releaseAll held).run w).trace.calls = held ∧
      ∀ e ∈ ((releaseAll held).run w).trace.calls, e.1.descends := by
  induction held generalizing w with
  | nil => exact ⟨rfl, List.forall_mem_nil _⟩
  | cons r rest ih =>
    obtain ⟨first, descends⟩ := r.release_released w
    obtain ⟨others, descend⟩ := ih (r.release.run w).world
    rw [(run_releaseAll_cons r rest w).2]
    constructor
    · rw [CallLog.released_append, first, others]
      rfl
    · intro e he
      rcases List.mem_append.mp he with he | he
      · exact descends e he
      · exact descend e he

/-- To give resources back does not begin with the reading of a diagnostic. -/
theorem releaseAll_unread (held : List Resource) (w : World σ) :
    ∀ first ∈ ((releaseAll held).run w).trace.calls.head?, first.1.asks? = none := by
  cases held with
  | nil => exact fun _ h => by cases h
  | cons r rest =>
    intro first h
    obtain ⟨others, calls⟩ := (r.attempt_release w).begins
    rw [(run_releaseAll_cons r rest w).2, calls] at h
    obtain rfl := Option.some.inj h
    exact r.asks?_giveBack

/-- To let go of a connection is to give back what it holds. -/
theorem Connection.run_release (c : Connection) (w : World σ) :
    c.release.run w =
      { value := ()
        world := ((releaseAll c.held).run w).world
        trace := ((releaseAll c.held).run w).trace } := by
  rw [release, Action.run_bind, Action.run_pure, List.append_nil]

/-! ### Attempts to open a connection -/

open Logon

/-- The connection that an attempt yields when the climb ended with these handles. -/
def Driver.connection (d : Driver) (dsn : Dsn) (id : UInt32) (hs : Handles)
    (held : List Resource) : Connection where
  id := id
  held := held
  environment := hs .environment
  error := hs .error
  logon := ofHandles hs d.protocol
  settings := dsn.toSettings
  inTransaction := false
  closed := false

/-- To open a connection is to climb, and after a failure to give back what the climb owns. -/
theorem Driver.run_openDsn (d : Driver) (dsn : Dsn) (hs : Handles) (w : World σ)
    {o : Outcome σ (Except Error Handles × List Resource)}
    (ho : o = (climb w.attempts dsn (rungs d.protocol dsn) hs).outcome []
      { w with attempts := w.attempts + 1 }) :
    (∃ last held, o.value = (.ok last, held) ∧
      ((d.openDsn dsn).run w).value = .ok (d.connection dsn w.attempts last held) ∧
      ((d.openDsn dsn).run w).world = o.world ∧
      ((d.openDsn dsn).run w).trace.calls = o.trace.calls) ∨
    ∃ e held, o.value = (.error e, held) ∧
      ((d.openDsn dsn).run w).value = .error e ∧
      ((d.openDsn dsn).run w).world = ((releaseAll held).run o.world).world ∧
      ((d.openDsn dsn).run w).trace.calls
        = o.trace.calls ++ ((releaseAll held).run o.world).trace.calls := by
  have ladder :
      ((ladder w.attempts d.protocol dsn).start).run { w with attempts := w.attempts + 1 }
        = (climb w.attempts dsn (rungs d.protocol dsn) hs
            >>= fun hs => return yield d.protocol hs).outcome []
          { w with attempts := w.attempts + 1 } := by
    rw [ladder_eq_climb w.attempts d.protocol dsn hs]
    rfl
  rw [Climb.outcome_bind, ← ho] at ladder
  obtain ⟨⟨value, held⟩, world, trace⟩ := o
  simp only [Driver.openDsn, Action.run_bind, Action.run_takeNumber, ladder]
  cases value with
  | ok last =>
    refine .inl ⟨last, held, rfl, rfl, rfl, ?_⟩
    simp only [Climb.outcome_pure, yield, Trace.calls_append, Trace.calls_nil, List.append_nil]
    rw [List.nil_append, (Action.Quiet.logged _ _).calls, List.append_nil]
  | error e =>
    refine .inr ⟨e, held, rfl, rfl, rfl, ?_⟩
    simp only [Action.run_bind, Action.run_pure, Trace.calls_append, List.append_nil,
      List.nil_append]

/-- A connection that opens comes from a climb to the top, and owns what was acquired on the way. -/
theorem Driver.ascent_of_openDsn {d : Driver} {dsn : Dsn} {w : World σ} {c : Connection}
    (hs : Handles) (h : ((d.openDsn dsn).run w).value = .ok c) :
    ∃ last, Ascent dsn (rungs d.protocol dsn) hs ((d.openDsn dsn).run w).trace.calls (some last) ∧
      c = d.connection dsn w.attempts last
        (CallLog.acquired ((d.openDsn dsn).run w).trace.calls).reverse := by
  have climbed := climb_outcome w.attempts dsn (rungs d.protocol dsn) hs []
    { w with attempts := w.attempts + 1 }
  rcases d.run_openDsn dsn hs w rfl with
    ⟨last, held, ended, value, -, calls⟩ | ⟨e, held, -, value, -, -⟩
  · cases climbed with
    | slip e log failed rest w' ascent value' calls' aftermath blame =>
      rw [ended] at value'
      cases value'
    | top last' log ascent value' calls' =>
      rw [ended, List.append_nil] at value'
      cases value'
      rw [calls, calls']
      exact ⟨last, ascent, Except.ok.inj (h.symm.trans value)⟩
  · rw [value] at h
    cases h

/-- What comes of an attempt to open a connection. If it succeeds, the log is that of the climb. If
    it fails, the failed call is followed by its aftermath, which the failure is blamed on, and then
    all that was acquired is given back. -/
inductive Opening (protocol : Protocol) (dsn : Dsn) (hs : Handles)
    (o : Outcome σ (Except Error Connection)) : Prop
  | success (c : Connection) (last : Handles) (log : CallLog) (value : o.value = .ok c)
    (ascent : Ascent dsn (rungs protocol dsn) hs log (some last)) (calls : o.trace.calls = log)
  | failure (e : Error) (log : CallLog) (failed : Call × Reply) (rest unwinding : CallLog)
    (value : o.value = .error e)
    (ascent : Ascent dsn (rungs protocol dsn) hs (log ++ [failed]) none)
    (calls : o.trace.calls = log ++ failed :: (rest ++ unwinding))
    (orphans : rest.released = (failed.1.leaves? failed.2).toList)
    (reverse : unwinding.released = log.acquired.reverse)
    (descends : ∀ e ∈ rest ++ unwinding, e.1.descends) {before after : World σ}
    (aftermath : Aftermath failed.1 failed.2 before rest after)
    (unread : ∀ first ∈ unwinding.head?, first.1.asks? = none)
    (blame : e = failed.1.blame failed.2 rest)

/-- Every attempt to open a connection is as it should be. -/
theorem Driver.opening (d : Driver) (dsn : Dsn) (hs : Handles) (w : World σ) :
    Opening d.protocol dsn hs ((d.openDsn dsn).run w) := by
  have climbed := climb_outcome w.attempts dsn (rungs d.protocol dsn) hs []
    { w with attempts := w.attempts + 1 }
  rcases d.run_openDsn dsn hs w rfl with
    ⟨last, held, ended, value, -, calls⟩ | ⟨e, held, ended, value, -, calls⟩
  · cases climbed with
    | top last' log ascent value' calls' =>
      exact .success _ last' log value ascent (calls.trans calls')
    | slip e log failed rest w' ascent value' calls' aftermath =>
      rw [ended] at value'
      cases value'
  · cases climbed with
    | top last' log ascent value' calls' =>
      rw [ended] at value'
      cases value'
    | slip e' log failed rest w' ascent value' calls' aftermath blame =>
      -- what is given back is what the climb owns, which is what it acquired
      have owned : held = log.acquired.reverse := by
        rw [ended] at value'
        simpa using congrArg Prod.snd value'
      rw [calls', List.append_assoc, List.cons_append] at calls
      obtain ⟨released, descends⟩ := releaseAll_released held
        ((climb w.attempts dsn (rungs d.protocol dsn) hs).outcome []
          { w with attempts := w.attempts + 1 }).world
      have same : e = e' := by
        rw [ended] at value'
        exact Except.error.inj (congrArg Prod.fst value')
      refine .failure e log failed rest _ value ascent calls aftermath.released
        (released.trans owned) ?_ aftermath (releaseAll_unread held _) (same.trans blame)
      intro e he
      rcases List.mem_append.mp he with he | he
      · exact aftermath.descends e he
      · exact descends e he

/-- The calls of an attempt that failed: the climb up to the call that failed, the aftermath of this
    call, and the way back. Acquisitions stand in the first part only, and everything that was
    acquired is given back in the last one, in reverse. -/
inductive Unwound : CallLog → Prop
  | intro (log : CallLog) (failed : Call × Reply) (rest unwinding : CallLog)
    (succeed : ∀ e ∈ log, e.1.succeeds e.2) (fails : ¬ failed.1.succeeds failed.2)
    (climbs : ∀ e ∈ log ++ [failed], e.1.descends = false)
    (descends : ∀ e ∈ rest ++ unwinding, e.1.descends)
    (orphans : rest.released = (failed.1.leaves? failed.2).toList)
    (reverse : unwinding.released = log.acquired.reverse) :
    Unwound (log ++ failed :: (rest ++ unwinding))

/-- **A failed attempt unwinds exactly what it acquired**, the newest first, whatever the client
    library answers. A successful attempt gives nothing back. -/
theorem Driver.openDsn_unwinds (d : Driver) (dsn : Dsn) (w : World σ) :
    match ((d.openDsn dsn).run w).value with
    | .ok _ => CallLog.released ((d.openDsn dsn).run w).trace.calls = []
    | .error _ => Unwound ((d.openDsn dsn).run w).trace.calls := by
  cases d.opening dsn (fun _ => ⟨1, Nat.one_pos⟩) w with
  | success c last log value ascent calls =>
    rw [value, calls]
    exact (CallLog.climbing_eq_self ascent.climbs).2
  | failure e log failed rest unwinding value ascent calls orphans reverse descends =>
    rw [value, calls]
    obtain ⟨succeed, fails⟩ := ascent.slips
    exact .intro log failed rest unwinding succeed fails ascent.climbs descends orphans reverse

end DatabaseLogon

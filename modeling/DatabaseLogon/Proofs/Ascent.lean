import DatabaseLogon.Proofs.Attempt
import DatabaseLogon.Proofs.Rungs

namespace DatabaseLogon

/-!
# Climbing

What one rung of a logon does, and what a whole climb does. A rung makes its call; if that succeeds
the resource that the call acquired is owned and the handle that it wrote is known, and if it fails
nothing is owned in addition and only the aftermath of the call follows.

* `Climb.Gains` — a climb without calls.
* `Call.blame` — the error that a failed step means.
* `Logon.RungDone` — what comes of a rung; `rungDone` proves it of all of them.
* `Logon.Ascent` — the calls of a climb, as a relation between the rungs, the log and the handles
  in the end.
* `Logon.climb_outcome` — a climb is an ascent, and owns what was acquired in it.
-/

variable {σ α β : Type}

/-! ### Climbs without calls -/

/-- A climb makes no call. Its value is `a`, and it owns `rs` in addition. -/
structure Climb.Gains (m : Climb σ α) (a : α) (rs : List Resource) : Prop where
  value : ∀ held w, (m.outcome held w).value = (.ok a, rs ++ held)
  world : ∀ held w, (m.outcome held w).world = w
  calls : ∀ held w, (m.outcome held w).trace.calls = []

namespace Climb.Gains

theorem pure (a : α) : (Pure.pure a : Climb σ α).Gains a [] :=
  ⟨fun _ _ => rfl, fun _ _ => rfl, fun _ _ => rfl⟩

theorem log (e : Event) : (Climb.log e : Climb σ Unit).Gains () [] :=
  ⟨fun _ _ => rfl, fun _ _ => rfl, fun _ _ => rfl⟩

theorem own (r : Resource) : (Climb.own r : Climb σ Unit).Gains () [r] :=
  ⟨fun _ _ => rfl, fun _ _ => rfl, fun _ _ => rfl⟩

theorem bind {m : Climb σ α} {f : α → Climb σ β} {a : α} {b : β} {rs rs' : List Resource}
    (hm : m.Gains a rs) (hf : (f a).Gains b rs') : (m >>= f).Gains b (rs' ++ rs) where
  value held w := by simp only [outcome_bind, hm.value, hf.value, List.append_assoc]
  world held w := by simp only [outcome_bind, hm.value, hm.world, hf.world]
  calls held w := by
    simp only [outcome_bind, hm.value, Trace.calls_append, hm.calls, hf.calls, List.append_nil]

/-- To own a resource and say so. -/
theorem owned (r : Resource) (e : Event) (b : β) :
    (do Climb.own r; Climb.log e; return b : Climb σ β).Gains b [r] := by
  have logged := (log (σ := σ) e).bind (f := fun _ => Pure.pure b) (pure b)
  exact (own r).bind (f := fun _ => Climb.log e >>= fun _ => Pure.pure b) logged

end Climb.Gains

/-! ### One rung -/

/-- The error that the failure of a step of a logon means, where `rest` is what was read because of
    it. Without an environment or a handle there is nobody to ask. -/
def Call.blame (c : Call) (r : Reply) (rest : CallLog) : Error :=
  match c with
  | .envCreate _ => .environmentCreate
  | .handleAlloc _ kind => .handleAlloc kind
  | _ => Client.verdict (c.failure r) rest

namespace Logon

section Rungs

variable [ClientLibrary σ]

/-- What comes of a rung: its call succeeds, and the resource that it acquired is owned; or it
    fails, and nothing new is owned. -/
inductive RungDone (c : Call) (yields : Reply → α → Prop) (held : List Resource) (w : World σ)
    (o : Outcome σ (Except Error α × List Resource)) : Prop
  | success (a : α) (value : o.value = (.ok a, (c.acquires? (w.reply c)).toList ++ held))
    (succeeds : c.succeeds (w.reply c)) (yields : yields (w.reply c) a)
    (calls : o.trace.calls = [(c, w.reply c)]) (world : o.world = w.after c)
  | failure (e : Error) (rest : CallLog) (value : o.value = (.error e, held))
    (fails : ¬ c.succeeds (w.reply c)) (calls : o.trace.calls = (c, w.reply c) :: rest)
    (aftermath : Aftermath c (w.reply c) (w.after c) rest o.world)
    (blame : e = c.blame (w.reply c) rest)

/-- An attempt, and on success a climb without calls that owns what the call was there for. -/
theorem RungDone.of_attempt {c : Call} {yields : Reply → α → Prop} {yields' : Reply → β → Prop}
    {m : Action σ (Except Error α)} {k : α → Climb σ β} {w : World σ}
    (hm : Attempt c yields (fun r rest e => e = c.blame r rest) w (m.run w))
    (hk : ∀ a, yields (w.reply c) a → ∃ b, yields' (w.reply c) b ∧
      (k a).Gains b (c.resource? (w.reply c).handle).toList) (held : List Resource) :
    RungDone c yields' held w ((Climb.attempt m >>= k).outcome held w) := by
  cases hm with
  | success a value succeeds ha calls world =>
    obtain ⟨b, hb, gains⟩ := hk a ha
    refine .success b ?_ succeeds hb ?_ ?_
    · simp only [Climb.outcome_bind, Climb.outcome_attempt, value, gains.value,
        Call.acquires?_of_succeeds succeeds]
    · simp only [Climb.outcome_bind, Climb.outcome_attempt, value, gains.calls,
        Trace.calls_append, calls, List.append_nil]
    · simp only [Climb.outcome_bind, Climb.outcome_attempt, value, gains.world, world]
  | failure e rest value fails calls aftermath blame =>
    refine .failure e rest ?_ fails ?_ ?_ blame <;>
      simp only [Climb.outcome_bind, Climb.outcome_attempt, value]
    · exact calls
    · exact aftermath

/-- What is logged before makes no difference. -/
theorem RungDone.after_log {c : Call} {yields : Reply → α → Prop} {m : Climb σ α}
    {held : List Resource} {w : World σ} (e : Event)
    (hm : RungDone c yields held w (m.outcome held w)) :
    RungDone c yields held w ((Climb.log e >>= fun _ => m).outcome held w) := by
  rw [Climb.outcome_bind, Climb.outcome_log]
  cases hm with
  | success a value succeeds ha calls world => exact .success a value succeeds ha calls world
  | failure e' rest value fails calls aftermath blame =>
    exact .failure e' rest value fails calls aftermath blame

namespace Rung

/-- The rung that logs on in one step, with the warnings that may stand before it. -/
theorem logonDone (id : UInt32) (dsn : Dsn) (hs : Handles) (held : List Resource) (w : World σ) :
    RungDone (logon.call dsn hs) (fun reply hs' => hs' = logon.next hs reply.handle) held w
      ((logon.perform id dsn hs).outcome held w) := by
  have made := Client.attempt_reported
    (Client.makes_logon (σ := σ) (hs .environment) (hs .error) dsn.username dsn.password
      dsn.connect)
    (hs .error) rfl (fun _ => rfl) w
  have silent : RungDone (logon.call dsn hs) (fun reply hs' => hs' = logon.next hs reply.handle)
      held w (Climb.outcome (do
        let service ← Climb.attempt
          (Client.reported (hs .error) (Client.logon (hs .environment) (hs .error) dsn.username
            dsn.password dsn.connect))
        Climb.own (.logon service (hs .error))
        Climb.log (.loggedOn id)
        return Function.update hs .serviceContext service) held w) := by
    refine .of_attempt made (fun h written => ⟨Function.update hs .serviceContext h, ?_, ?_⟩) held
    · simp only [next, writes?, written]
    · rw [written]
      exact .owned _ _ _
  -- each of the two warnings may stand before the call
  by_cases mode : dsn.privilegedMode = .default <;> by_cases external : dsn.externalAuth <;>
    simp only [perform, byCall, mode, external, bind_assoc, pure_bind, ne_eq, not_true,
      not_false_eq_true, if_true, if_false, Bool.false_eq_true, service]
  · exact silent.after_log _
  · exact silent
  · exact (silent.after_log _).after_log _
  · exact silent.after_log _

/-- **Every rung is done as its call says.** The handles known afterwards are those known before
    and the one that the call wrote. -/
theorem rungDone (id : UInt32) (dsn : Dsn) (hs : Handles) (r : Rung) (held : List Resource)
    (w : World σ) :
    RungDone (r.call dsn hs) (fun reply hs' => hs' = r.next hs reply.handle) held w
      ((r.perform id dsn hs).outcome held w) := by
  cases r with
  | environment =>
    have made := Client.attempt_createEnvironment environmentMode w
    simp only [perform, openEnvironment, bind_assoc, pure_bind]
    -- a failure is logged before it is reported, which makes no difference
    refine .of_attempt
      (made.bind_quiet (fun _ => .pure _) fun _ _ _ => ⟨.environmentCreate, .logged _ _, rfl⟩)
      (fun h written => ⟨Function.update hs .environment h, ?_, ?_⟩) held
    · simp only [next, writes?, written]
    · rw [written]
      exact .owned _ _ _
  | allocate kind =>
    have made := (Client.makes_allocate (hs .environment) kind).attempt (fun _ => rfl) rfl w
    simp only [perform, Climb.allocate, bind_assoc, pure_bind]
    refine .of_attempt
      (made.bind_quiet (fun _ => .pure _) fun _ _ _ => ⟨.handleAlloc kind, .logged _ _, rfl⟩)
      (fun h written => ⟨Function.update hs kind h, ?_, ?_⟩) held
    · simp only [next, writes?, written]
    · rw [written]
      exact .owned _ _ _
  | attach =>
    have made := Client.attempt_reported
      (Client.makes_check (σ := σ) (c := attach.call dsn hs) (fun _ => rfl) rfl) (hs .error)
      rfl (fun _ => rfl) w
    simp only [perform, attachServer, bind_assoc]
    exact .of_attempt made (fun _ _ => ⟨hs, rfl, .owned _ _ _⟩) held
  | link which kind =>
    have made := Client.attempt_reported
      (Client.makes_check (σ := σ) (c := (link which kind).call dsn hs) (fun _ => rfl) rfl)
      (hs .error) rfl (fun _ => rfl) w
    exact .of_attempt made (fun _ _ => ⟨hs, rfl, .pure _⟩) held
  | tell which text =>
    have made := Client.attempt_reported
      (Client.makes_check (σ := σ) (c := (tell which text).call dsn hs) (fun _ => rfl) rfl)
      (hs .error) rfl (fun _ => rfl) w
    exact .of_attempt made (fun _ _ => ⟨hs, rfl, .pure _⟩) held
  | begin credential =>
    have made := Client.attempt_reported
      (Client.makes_beginSession (σ := σ) (hs .serviceContext) (hs .error) (hs .session) credential
        dsn.privilegedMode)
      (hs .error) rfl (fun _ => rfl) w
    exact .of_attempt made (fun _ _ => ⟨hs, rfl, .owned _ _ _⟩) held
  | logon => exact logonDone id dsn hs held w

end Rung

/-! ### A whole climb -/

/-- The calls of a climb. They are those of the rungs, each with the handles known by then; the
    climb ends at the top, with the handles known there, or at the first call that fails. -/
inductive Ascent (dsn : Dsn) : List Rung → Handles → CallLog → Option Handles → Prop
  | top (hs : Handles) : Ascent dsn [] hs [] (some hs)
  | step {r : Rung} {rs : List Rung} {hs : Handles} {reply : Reply} {log : CallLog}
    {last : Option Handles} (succeeds : (r.call dsn hs).succeeds reply)
    (above : Ascent dsn rs (r.next hs reply.handle) log last) :
    Ascent dsn (r :: rs) hs ((r.call dsn hs, reply) :: log) last
  | slip {r : Rung} {rs : List Rung} {hs : Handles} {reply : Reply}
    (fails : ¬ (r.call dsn hs).succeeds reply) :
    Ascent dsn (r :: rs) hs [(r.call dsn hs, reply)] none

/-- What comes of a climb. What was acquired on the way is owned in the end, the newest first, also
    if the climb fails; only the aftermath of the failed call follows then, which is what the
    failure is blamed on. -/
inductive Climbed (dsn : Dsn) (rs : List Rung) (hs : Handles) (held : List Resource)
    (o : Outcome σ (Except Error Handles × List Resource)) : Prop
  | top (last : Handles) (log : CallLog) (ascent : Ascent dsn rs hs log (some last))
    (value : o.value = (.ok last, log.acquired.reverse ++ held)) (calls : o.trace.calls = log)
  | slip (e : Error) (log : CallLog) (failed : Call × Reply) (rest : CallLog) (w : World σ)
    (ascent : Ascent dsn rs hs (log ++ [failed]) none)
    (value : o.value = (.error e, log.acquired.reverse ++ held))
    (calls : o.trace.calls = log ++ failed :: rest)
    (aftermath : Aftermath failed.1 failed.2 w rest o.world)
    (blame : e = failed.1.blame failed.2 rest)

/-- **A climb is an ascent.** -/
theorem climb_outcome (id : UInt32) (dsn : Dsn) (rs : List Rung) (hs : Handles)
    (held : List Resource) (w : World σ) :
    Climbed dsn rs hs held ((climb id dsn rs hs).outcome held w) := by
  induction rs generalizing hs held w with
  | nil => exact .top hs [] (.top hs) rfl rfl
  | cons r rs ih =>
    rw [climb, Climb.outcome_bind]
    cases r.rungDone id dsn hs held w with
    | failure e rest value fails calls aftermath blame =>
      rw [value]
      exact .slip e [] (r.call dsn hs, w.reply (r.call dsn hs)) rest _ (.slip fails) rfl calls
        aftermath blame
    | success known value succeeds written calls world =>
      rw [value]
      subst written
      -- the resource of this rung lies below those of the rungs above
      have owned (log : CallLog) : (CallLog.acquired ((r.call dsn hs, w.reply (r.call dsn hs))
            :: log)).reverse ++ held
          = log.acquired.reverse ++ (((r.call dsn hs).acquires?
              (w.reply (r.call dsn hs))).toList ++ held) := by
        rw [CallLog.acquired_cons, List.reverse_append, List.append_assoc]
        cases (r.call dsn hs).acquires? (w.reply (r.call dsn hs)) <;> rfl
      rcases ih (r.next hs (w.reply (r.call dsn hs)).handle)
          (((r.call dsn hs).acquires? (w.reply (r.call dsn hs))).toList ++ held)
          ((r.perform id dsn hs).outcome held w).world with
        ⟨last, log, ascent, value', calls'⟩ |
        ⟨e, log, failed, rest, w', ascent, value', calls', aftermath, blame⟩
      · refine .top last _ (.step succeeds ascent) ?_ ?_
        · rw [owned]
          exact value'
        · rw [Trace.calls_append, calls, calls']
          rfl
      · refine .slip e (_ :: log) failed rest w' (.step succeeds ascent) ?_ ?_ aftermath blame
        · rw [owned]
          exact value'
        · rw [Trace.calls_append, calls, calls']
          rfl

end Rungs

/-! ### What an ascent tells -/

namespace Ascent

variable {dsn : Dsn} {rs : List Rung} {hs last : Handles} {log : CallLog}

/-- No rung gives anything back or reads a diagnostic. -/
theorem climbs {top : Option Handles} (h : Ascent dsn rs hs log top) :
    ∀ e ∈ log, e.1.descends = false := by
  induction h with
  | top hs => simp
  | step succeeds above ih => simpa using ⟨Rung.climbs _ _ _, fun a b h => ih (a, b) h⟩
  | slip fails => simpa using Rung.climbs _ _ _

/-- On the way to the top every call succeeds. -/
theorem succeed (h : Ascent dsn rs hs log (some last)) : ∀ e ∈ log, e.1.succeeds e.2 := by
  generalize htop : some last = top at h
  induction h with
  | top hs => simp
  | step succeeds above ih => simpa using ⟨succeeds, fun a b h => ih htop (a, b) h⟩
  | slip fails => cases htop

/-- On the way to a slip every call but the last succeeds. -/
theorem slips {failed : Call × Reply} (h : Ascent dsn rs hs (log ++ [failed]) none) :
    (∀ e ∈ log, e.1.succeeds e.2) ∧ ¬ failed.1.succeeds failed.2 := by
  induction log generalizing rs hs with
  | nil =>
    cases h with
    | slip fails => exact ⟨by simp, fails⟩
    | step succeeds above => cases above
  | cons e log ih =>
    rw [List.cons_append] at h
    -- a slip ends the log, but at least the failed call is still to come
    generalize hrest : log ++ [failed] = rest at h
    have hne : rest ≠ [] := by simp [← hrest]
    cases h with
    | slip fails => exact absurd rfl hne
    | step succeeds above =>
      subst hrest
      obtain ⟨below, fails⟩ := ih above
      exact ⟨by simpa using ⟨succeeds, fun a b h => below (a, b) h⟩, fails⟩

end Ascent

end Logon

end DatabaseLogon

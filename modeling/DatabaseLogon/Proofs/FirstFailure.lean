import DatabaseLogon.Client.Script
import DatabaseLogon.Proofs.Unwinding
import Mathlib.Control.Monad.Basic

namespace DatabaseLogon

/-!
# The first failure decides

The error of a failed attempt to open a connection is that of the step that failed. What comes
behind, when everything is given back, calls the same library and may fail and read diagnostics
itself, but has no say in it.

* `Call.Explains` — the error that the failure of a step means, by its reply and by what is read
  because of it.
* `Decided` — the error of a failed attempt, by the log.
* `CallLog.decisive` — the calls of a log that decide: the steps, and the reading after the last.
* `ClientLibrary.Answers` — a library answers the calls of a log as they were answered there.
* `Driver.openDsn_decided` — every failed attempt is decided by its first failure, and attempts with
  the same decisive calls end alike.
-/

variable {σ σ' : Type} [ClientLibrary σ] [ClientLibrary σ']

/-! ### The error of a step -/

/-- The error that the failure of a step means, by the reply to its call and what was called after
    it. Without an environment or a handle there is nobody to ask. Else the status for errors has
    the diagnostic read, and any other status is the error itself. -/
inductive Call.Explains (c : Call) (r : Reply) : CallLog → Error → Prop
  | environment {after : CallLog} (mode : Nat) (step : c = .envCreate mode) :
    Explains c r after .environmentCreate
  | allocation {after : CallLog} (parent : Handle) (kind : HandleKind)
    (step : c = .handleAlloc parent kind) : Explains c r after (.handleAlloc kind)
  | record {after : CallLog} (error : Handle) (answer : Reply) (step : c.error? = some error)
    (status : c.failure r = .error) (readable : answer.code = 0) :
    Explains c r ((.errorGet error, answer) :: after)
      (.oracle (Diagnostic.ofText answer.errorCode (Client.bufferText answer.errorText)))
  | unreadable {after : CallLog} (error : Handle) (answer : Reply) (step : c.error? = some error)
    (status : c.failure r = .error) (unreadable : answer.code ≠ 0) :
    Explains c r ((.errorGet error, answer) :: after) (.native .error)
  | unread {after : CallLog} (error : Handle) (step : c.error? = some error)
    (status : c.failure r ≠ .error) (unread : ∀ first ∈ after.head?, first.1.asks? = none) :
    Explains c r after (.native (c.failure r))

namespace Call

variable {c : Call} {r : Reply} {w w₁ : World σ} {rest : CallLog}

/-- A step with an error handle is blamed by its status and by what was read. -/
theorem blame_of_error? {error : Handle} (passed : c.error? = some error) :
    c.blame r rest = Client.verdict (c.failure r) rest := by
  cases c with
  | envCreate | handleAlloc => cases passed
  | _ => rfl

/-- What a failed step is blamed on is what its failure means. -/
theorem explains_blame {unwinding : CallLog} (climbs : c.descends = false)
    (aftermath : Aftermath c r w rest w₁)
    (unread : ∀ first ∈ unwinding.head?, first.1.asks? = none) :
    c.Explains r (rest ++ unwinding) (c.blame r rest) := by
  cases passed : c.error? with
  | none =>
    cases c with
    | envCreate mode => exact .environment mode rfl
    | handleAlloc parent kind => exact .allocation parent kind rfl
    | handleFree | errorGet => cases climbs
    | _ => cases passed
  | some error =>
    rw [blame_of_error? passed]
    cases aftermath with
    | nothing leaves owes =>
      have status : c.failure r ≠ .error := by
        intro failed
        have owed := owes?_eq_some_iff.mpr ⟨(c.failure_eq_error_iff r).mp failed, passed⟩
        rw [owes] at owed
        cases owed
      exact .unread error passed status unread
    | reading error' owes leaves =>
      obtain ⟨failed, passed'⟩ := owes?_eq_some_iff.mp owes
      have status := (c.failure_eq_error_iff r).mpr failed
      rw [status, List.singleton_append, Client.verdict_cons]
      by_cases readable : (w.reply (.errorGet error')).code = 0
      · rw [if_pos readable]
        exact .record error' _ passed' status readable
      · rw [if_neg readable]
        exact .unreadable error' _ passed' status readable
    | discarding h leaves =>
      rw [error?_eq_none_of_leaves? leaves] at passed
      cases passed

end Call

/-- The error of a failed attempt, by the log: one step fails after others that succeeded, before
    anything is given back or read, and its failure means the error. -/
inductive Decided : CallLog → Error → Prop
  | intro {e : Error} (before : CallLog) (c : Call) (r : Reply) (after : CallLog)
    (climbs : ∀ entry ∈ before ++ [(c, r)], entry.1.descends = false)
    (succeed : ∀ entry ∈ before, entry.1.succeeds entry.2) (fails : ¬ c.succeeds r)
    (explains : c.Explains r after e) : Decided (before ++ (c, r) :: after) e

namespace Driver

/-- Every failed attempt is decided by the step that failed. -/
theorem decided_of_error {d : Driver} {dsn : Dsn} {w : World σ} {e : Error}
    (h : ((d.openDsn dsn).run w).value = .error e) :
    Decided ((d.openDsn dsn).run w).trace.calls e := by
  cases d.opening dsn (fun _ => ⟨1, Nat.one_pos⟩) w with
  | success c last log value ascent calls =>
    rw [value] at h
    cases h
  | failure e' log failed rest unwinding value ascent calls orphans reverse descends aftermath
      unread blame =>
    obtain rfl : e' = e := Except.error.inj (value.symm.trans h)
    have climbs := ascent.climbs
    obtain ⟨succeed, fails⟩ := ascent.slips
    rw [calls, blame]
    have last : failed.1.descends = false :=
      climbs failed (List.mem_append_right _ List.mem_cons_self)
    exact .intro log failed.1 failed.2 _ climbs succeed fails
      (Call.explains_blame last aftermath unread)

end Driver

/-! ### Calls that decide -/

/-- The calls of a log that decide: the steps up to the first call that gives something back or
    reads a diagnostic, and this call if it reads. -/
def CallLog.decisive : CallLog → CallLog
  | [] => []
  | e :: log =>
    if e.1.descends then
      if e.1.asks?.isSome then [e] else []
    else e :: decisive log

/-- A library answers the calls of a log, one after the other, as they were answered there. -/
def ClientLibrary.Answers (s : σ) : CallLog → Prop
  | [] => True
  | (c, r) :: log => (ClientLibrary.answer c s).1 = r ∧ Answers (ClientLibrary.answer c s).2 log

instance decidableAnswers (s : σ) : (log : CallLog) → Decidable (ClientLibrary.Answers s log)
  | [] => inferInstanceAs (Decidable True)
  | (c, r) :: log =>
    have := decidableAnswers (ClientLibrary.answer c s).2 log
    inferInstanceAs (Decidable ((ClientLibrary.answer c s).1 = r ∧ _))

namespace CallLog

variable {e : Call × Reply} {log : CallLog}

theorem decisive_cons_of_climbs (h : e.1.descends = false) :
    decisive (e :: log) = e :: decisive log := by
  rw [decisive, if_neg (by simp [h])]

theorem decisive_cons_of_descends (h : e.1.descends) :
    decisive (e :: log) = if e.1.asks?.isSome then [e] else [] := by
  rw [decisive, if_pos h]

/-- The way back has no say, unless it begins with a reading. -/
theorem decisive_append (a : CallLog) {b : CallLog} (descends : ∀ e ∈ b, e.1.descends)
    (unread : ∀ first ∈ b.head?, first.1.asks? = none) : decisive (a ++ b) = decisive a := by
  induction a with
  | nil =>
    cases b with
    | nil => rfl
    | cons e log =>
      rw [List.nil_append, decisive_cons_of_descends (descends e List.mem_cons_self),
        unread e rfl]
      rfl
  | cons e log ih => rw [List.cons_append, decisive, decisive, ih]

end CallLog

/-- What follows a failed call at once leads to the same blame, if what is read is the same. -/
theorem Aftermath.blame_eq {c : Call} {r : Reply} {w w₁ : World σ} {w' w₁' : World σ'}
    {rest rest' : CallLog} (first : Aftermath c r w rest w₁) (second : Aftermath c r w' rest' w₁')
    (alike : ClientLibrary.Answers w'.library rest.decisive) :
    c.blame r rest' = c.blame r rest := by
  cases first with
  | nothing leaves owes =>
    cases second with
    | nothing => rfl
    | reading error owes' leaves' => rw [owes] at owes'; cases owes'
    | discarding h leaves' => rw [leaves] at leaves'; cases leaves'
  | reading error owes leaves =>
    cases second with
    | nothing leaves' owes' => rw [owes] at owes'; cases owes'
    | reading error' owes' leaves' =>
      rw [owes] at owes'
      cases owes'
      have same : w'.reply (.errorGet error) = w.reply (.errorGet error) := alike.1
      rw [same]
    | discarding h leaves' => rw [leaves] at leaves'; cases leaves'
  | discarding h leaves =>
    -- only the creation of an environment leaves something behind, for which nothing is read
    cases c with
    | envCreate mode => rfl
    | _ => cases leaves

open Logon in
/-- **Climbs whose decisive calls are answered alike** have the same result, and own the same. -/
theorem climb_alike (id : UInt32) (dsn : Dsn) (rs : List Rung) (hs : Handles)
    (held : List Resource) (w : World σ) (w' : World σ')
    (alike : ClientLibrary.Answers w'.library
      (CallLog.decisive ((climb id dsn rs hs).outcome held w).trace.calls)) :
    ((climb id dsn rs hs).outcome held w').value = ((climb id dsn rs hs).outcome held w).value := by
  induction rs generalizing hs held w w' with
  | nil => rfl
  | cons r rs ih =>
    rw [climb, climb, Climb.outcome_bind, Climb.outcome_bind]
    rw [climb, Climb.outcome_bind] at alike
    cases r.rungDone id dsn hs held w with
    | failure e rest value fails calls aftermath blame =>
      rw [value] at alike ⊢
      replace alike : ClientLibrary.Answers w'.library
          (CallLog.decisive ((r.perform id dsn hs).outcome held w).trace.calls) := alike
      rw [calls, CallLog.decisive_cons_of_climbs (r.climbs dsn hs)] at alike
      obtain ⟨same, alike⟩ := alike
      replace same : w'.reply (r.call dsn hs) = w.reply (r.call dsn hs) := same
      cases r.rungDone id dsn hs held w' with
      | success known value' succeeds written calls' world' =>
        rw [same] at succeeds
        exact absurd succeeds fails
      | failure e' rest' value' fails' calls' aftermath' blame' =>
        rw [same] at aftermath' blame'
        have decided : e' = e := by
          rw [blame, blame']
          exact aftermath.blame_eq aftermath' alike
        rw [value', decided]
    | success known value succeeds written calls world =>
      rw [value] at alike ⊢
      replace alike : ClientLibrary.Answers w'.library
          (CallLog.decisive (((r.perform id dsn hs).outcome held w).trace ++ _).calls) := alike
      rw [Trace.calls_append, calls, List.cons_append, List.nil_append,
        CallLog.decisive_cons_of_climbs (r.climbs dsn hs)] at alike
      obtain ⟨same, alike⟩ := alike
      replace same : w'.reply (r.call dsn hs) = w.reply (r.call dsn hs) := same
      cases r.rungDone id dsn hs held w' with
      | failure e' rest' value' fails' calls' aftermath' blame' =>
        rw [same] at fails'
        exact absurd succeeds fails'
      | success known' value' succeeds' written' calls' world' =>
        rw [same, ← written] at written'
        subst written'
        rw [value', same, world']
        exact ih _ _ _ _ alike

namespace Driver

open Logon

/-- The result of an attempt is that of the climb. -/
theorem value_openDsn (d : Driver) (dsn : Dsn) (hs : Handles) (s : σ) (n : UInt32)
    {p : Except Error Handles × List Resource}
    (climbed : ((climb n dsn (rungs d.protocol dsn) hs).outcome [] ⟨s, n + 1⟩).value = p) :
    ((d.openDsn dsn).run ⟨s, n⟩).value
      = p.1.map fun last => d.connection dsn n last p.2 := by
  subst climbed
  rcases d.run_openDsn dsn hs ⟨s, n⟩ rfl with
    ⟨last, held, ended, value, -, -⟩ | ⟨e, held, ended, value, -, -⟩ <;>
  · rw [ended]
    exact value

/-- The calls that decide an attempt are those that decide the climb. -/
theorem decisive_openDsn (d : Driver) (dsn : Dsn) (hs : Handles) (s : σ) (n : UInt32) :
    CallLog.decisive ((d.openDsn dsn).run ⟨s, n⟩).trace.calls
      = CallLog.decisive
        ((climb n dsn (rungs d.protocol dsn) hs).outcome [] ⟨s, n + 1⟩).trace.calls := by
  rcases d.run_openDsn dsn hs ⟨s, n⟩ rfl with ⟨_, _, -, -, -, calls⟩ | ⟨_, held, -, -, -, calls⟩
  · rw [calls]
  · rw [calls]
    exact CallLog.decisive_append _ (releaseAll_released held _).2 (releaseAll_unread held _)

/-- Attempts whose decisive calls are answered alike have the same result. -/
theorem openDsn_alike {d : Driver} {dsn : Dsn} {s : σ} {s' : σ'} {n : UInt32}
    (alike : ClientLibrary.Answers s'
      (CallLog.decisive ((d.openDsn dsn).run ⟨s, n⟩).trace.calls)) :
    ((d.openDsn dsn).run ⟨s', n⟩).value = ((d.openDsn dsn).run ⟨s, n⟩).value := by
  rw [d.decisive_openDsn dsn fun _ => ⟨1, Nat.one_pos⟩] at alike
  have same := climb_alike n dsn (rungs d.protocol dsn) _ [] ⟨s, n + 1⟩ ⟨s', n + 1⟩ alike
  rw [d.value_openDsn dsn _ s n rfl, d.value_openDsn dsn _ s' n same]

/-- **The first failure decides** the error of an attempt to open a connection. Two libraries that
    answer the calls up to there and the reading at once behind it alike give the same result,
    whatever they answer when everything is given back. -/
theorem openDsn_decided (d : Driver) (dsn : Dsn) (s : σ) (n : UInt32) :
    (∀ e, ((d.openDsn dsn).run ⟨s, n⟩).value = .error e →
      Decided ((d.openDsn dsn).run ⟨s, n⟩).trace.calls e) ∧
    ∀ s' : σ', ClientLibrary.Answers s'
        (CallLog.decisive ((d.openDsn dsn).run ⟨s, n⟩).trace.calls) →
      ((d.openDsn dsn).run ⟨s', n⟩).value = ((d.openDsn dsn).run ⟨s, n⟩).value := by
  constructor
  · intro e failed
    exact decided_of_error failed
  · intro s' alike
    exact openDsn_alike alike

/-- A session is refused with a diagnostic. Where the way back fails too and leaves diagnostics
    behind, the error is the same. -/
theorem openDsn_decided_refused :
    let refused : Script :=
      { rules := [⟨.sessionBegin, none, -1, none, none⟩], records := [⟨0, 1017, [110, 111]⟩]
        issued := 0 }
    let broken : Script :=
      { rules := [⟨.serverDetach, none, -1, none, none⟩, ⟨.sessionBegin, none, -1, none, none⟩]
        records := [⟨0, 1017, [110, 111]⟩, ⟨0, 3113, []⟩]
        issued := 0 }
    let e : Error := .oracle { code := 1017, message := "no" }
    ((standard.openDsn .empty).run ⟨refused, 0⟩).value = .error e ∧
      Decided ((standard.openDsn .empty).run ⟨refused, 0⟩).trace.calls e ∧
      ((standard.openDsn .empty).run ⟨refused, 0⟩).trace.calls
        ≠ ((standard.openDsn .empty).run ⟨broken, 0⟩).trace.calls ∧
      ((standard.openDsn .empty).run ⟨broken, 0⟩).value = .error e := by
  intro refused broken e
  have failed : ((standard.openDsn .empty).run ⟨refused, 0⟩).value = .error e := by
    decide +kernel
  have differ : ((standard.openDsn .empty).run ⟨refused, 0⟩).trace.calls
      ≠ ((standard.openDsn .empty).run ⟨broken, 0⟩).trace.calls := by decide +kernel
  have alike : ClientLibrary.Answers broken
      (CallLog.decisive ((standard.openDsn .empty).run ⟨refused, 0⟩).trace.calls) := by
    decide +kernel
  obtain ⟨decided, same⟩ := @openDsn_decided Script Script _ _ standard .empty refused 0
  exact ⟨failed, decided e failed, differ, (same broken alike).trans failed⟩

end Driver

end DatabaseLogon

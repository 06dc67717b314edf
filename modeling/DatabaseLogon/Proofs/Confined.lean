import DatabaseLogon.Proofs.Holdings

namespace DatabaseLogon

/-!
# What is done with a connection is done with its own handles

A connection has the handles that its logon yielded, for as long as it lives. Whatever is done with
it, and whatever the client library answers, no call passes any other handle.

* `CallLog.Within` — every call of a log passes only certain handles.
* `Action.Confined` — so does an action, whatever the library answers; with its rules.
* `Connection.handles` — the handles of a connection: those that its ladder owns.
* `Connection.Later` — a connection after something was done with it, which keeps its number, its
  handles and its settings.
* `Connection.Laddered.confined_perform`, `Connection.Laddered.confined_release`,
  `ConnectionStep.confined_perform` — every operation, the release and every step of a session with
  a connection are confined to its handles.
-/

variable {σ α β ε : Type}

/-- Every call passes only these handles. -/
def CallLog.Within (hs : List Handle) (log : CallLog) : Prop :=
  ∀ e ∈ log, e.1.handles ⊆ hs

namespace CallLog.Within

variable {hs : List Handle} {a b : CallLog}

theorem nil : Within hs [] :=
  List.forall_mem_nil _

theorem append (ha : Within hs a) (hb : Within hs b) : Within hs (a ++ b) :=
  List.forall_mem_append.mpr ⟨ha, hb⟩

end CallLog.Within

/-- Behind a call that left nothing behind no handles are passed but those of the call. -/
theorem Aftermath.within [ClientLibrary σ] {c : Call} {r : Reply} {w w' : World σ} {rest : CallLog}
    (h : Aftermath c r w rest w') (leaves : c.leaves? r = none) :
    CallLog.Within c.handles rest := by
  cases h with
  | nothing _ _ => exact .nil
  | reading error owes _ =>
    have passed := Call.mem_handles_of_error? (Call.owes?_eq_some_iff.mp owes).2
    exact List.forall_mem_singleton.mpr fun h hh => List.mem_singleton.mp hh ▸ passed
  | discarding h left =>
    rw [leaves] at left
    cases left

/-- Whatever the library answers, an action passes only these handles to it, and its value is as
    told. -/
def Action.Confined (hs : List Handle) (m : Action σ α) (post : α → Prop) : Prop :=
  ∀ w, CallLog.Within hs (m.run w).trace.calls ∧ post (m.run w).value

namespace Action.Confined

variable {hs : List Handle}

theorem pure {a : α} {post : α → Prop} (h : post a) :
    Confined hs (Pure.pure a : Action σ α) post :=
  fun _ => ⟨.nil, h⟩

theorem log (e : Event) : Confined hs (Action.log e : Action σ Unit) fun _ => True :=
  fun _ => ⟨.nil, trivial⟩

/-- To change the library from outside is no call. -/
theorem modifyLibrary (f : σ → σ) :
    Confined hs (Action.modifyLibrary f : Action σ Unit) fun _ => True :=
  fun _ => ⟨.nil, trivial⟩

theorem bind {m : Action σ α} {f : α → Action σ β} {mid : α → Prop} {post : β → Prop}
    (hm : Confined hs m mid) (hf : ∀ a, mid a → Confined hs (f a) post) :
    Confined hs (m >>= f) post := by
  intro w
  obtain ⟨first, hmid⟩ := hm w
  obtain ⟨second, hpost⟩ := hf _ hmid (m.run w).world
  rw [run_bind, Trace.calls_append]
  exact ⟨first.append second, hpost⟩

/-- What is observed of an action makes no difference. -/
theorem observed {m : Action σ α} {post : α → Prop} (hm : Confined hs m post) :
    Confined hs (Action.observed m) fun a => post a.1 :=
  fun w => hm w

/-- An attempt of a call that leaves nothing behind passes the handles of this call. -/
theorem of_attempt [ClientLibrary σ] {m : Action σ (Except ε α)} {c : Call}
    {yields : Reply → α → Prop} {blames : Reply → CallLog → ε → Prop}
    (hm : ∀ w, Attempt c yields blames w (m.run w)) (handles : c.handles ⊆ hs)
    (leaves : ∀ r, c.leaves? r = none) : Confined hs m fun _ => True := by
  intro w
  refine ⟨?_, trivial⟩
  cases hm w with
  | success a value succeeds yields calls world =>
    rw [calls]
    exact List.forall_mem_singleton.mpr handles
  | failure e rest value fails calls aftermath blame =>
    rw [calls]
    refine List.forall_mem_cons.mpr ⟨handles, fun e he => ?_⟩
    exact List.Subset.trans (aftermath.within (leaves _) e he) handles

end Action.Confined

open DatabaseLogon.Action (Confined)

/-! ### The handles of a connection -/

namespace Connection

variable {c after last : Connection}

/-- The handles of a connection. -/
def handles (c : Connection) : List Handle :=
  [c.environment, c.error, c.logon.service] ++ c.logon.server?.toList ++ c.logon.session?.toList

/-- What a ladder holds is given back with the handles of the connection. -/
theorem handles_giveBack {r : Resource} (hr : r ∈ c.ladder) : r.giveBack.handles ⊆ c.handles := by
  revert r
  unfold ladder handles
  cases c.logon <;>
    simp [Resource.giveBack, Call.handles, Logon.service, Logon.server?, Logon.session?]

/-- A connection after something was done with it. What it owns, its transaction and whether it is
    closed may have changed, and nothing else. -/
structure Later (c after : Connection) : Prop where
  same : after =
    { c with held := after.held, inTransaction := after.inTransaction, closed := after.closed }
  laddered : after.Laddered

theorem Laddered.later (h : c.Laddered) : c.Later c :=
  ⟨rfl, h⟩

theorem Later.trans (h : c.Later after) (h' : after.Later last) : c.Later last where
  same := by
    rw [h'.same, h.same]
  laddered := h'.laddered

theorem Later.handles (h : c.Later after) : after.handles = c.handles := by
  rw [h.same]
  rfl

/-- Whatever its result, an operation leaves the connection as `Later` says. -/
theorem Laddered.later_next (h : c.Laddered) (op : Operation) (result : Except Error Unit) :
    c.Later (c.next op result) where
  same := by
    cases op <;> rw [Connection.next] <;> first | rfl | split <;> rfl
  laddered := h.next op result

end Connection

/-! ### What is done with a connection -/

theorem Connection.confined_whenOpen {c : Connection} {hs : List Handle}
    {m : Action σ (Except Error Unit × Connection)}
    (hm : Confined hs m fun _ => True) : Confined hs (c.whenOpen m) fun _ => True := by
  unfold whenOpen
  by_cases h : c.closed
  · rw [if_pos h]
    exact .pure trivial
  · rw [if_neg h]
    exact hm

variable [ClientLibrary σ]

/-- Giving resources back passes the handles that each of them takes. -/
theorem confined_releaseAll {hs : List Handle} {held : List Resource}
    (own : ∀ r ∈ held, r.giveBack.handles ⊆ hs) :
    Confined hs (releaseAll held : Action σ _) fun _ => True := by
  induction held with
  | nil => exact .pure trivial
  | cons r rest ih =>
    obtain ⟨first, others⟩ := List.forall_mem_cons.mp own
    intro w
    have released : Confined hs (r.release : Action σ (Except Error Unit)) fun _ => True :=
      .of_attempt r.attempt_release first r.leaves?_giveBack
    rw [(run_releaseAll_cons r rest w).2]
    exact ⟨(released w).1.append (ih others _).1, trivial⟩

namespace Connection

variable {c : Connection}

/-- A native call that serves a connection passes its handles. -/
theorem confined_call (c : Connection) {call : Call}
    (serves : call.Serves c.logon.service c.error) :
    Confined c.handles
      (Client.reported c.error (do return Client.check (← Action.call call)) :
        Action σ (Except Error Unit)) fun _ => True := by
  refine .of_attempt serves.attempt ?_ ?_
  · cases serves <;> simp [Call.handles, handles]
  · intro r
    cases serves <;> rfl

/-- To release a connection takes no other handles than its own. -/
theorem Laddered.confined_releaseAll (h : c.Laddered) :
    Confined c.handles (releaseAll c.held : Action σ _) fun _ => True := by
  apply DatabaseLogon.confined_releaseAll
  intro r hr
  by_cases closed : c.closed
  · rw [(h.closed closed).1] at hr
    cases hr
  · rw [h.opened (Bool.eq_false_iff.mpr closed), List.mem_reverse] at hr
    exact handles_giveBack hr

theorem Laddered.confined_release (h : c.Laddered) :
    Confined c.handles (c.release : Action σ Unit) fun _ => True :=
  .bind h.confined_releaseAll fun _ _ => .pure trivial

/-- **Every operation on a connection passes its own handles only**, and the connection keeps
    them. -/
theorem Laddered.confined_perform (h : c.Laddered) (op : Operation) :
    Confined c.handles (c.perform op : Action σ (Except Error Unit × Connection)) fun p =>
      c.Later p.2 := by
  have calls : Confined c.handles (c.perform op : Action σ (Except Error Unit × Connection))
      fun _ => True := by
    cases op with
    | ping => exact confined_whenOpen (.bind (c.confined_call .ping) fun _ _ => .pure trivial)
    | begin =>
      apply confined_whenOpen
      -- ordinary transactions begin by themselves, so there is no call
      by_cases usual : c.settings.transactionMode = .readWrite
      · simp only [usual, if_true, pure_bind]
        exact .bind (.log _) fun _ _ => .pure trivial
      · simp only [usual, if_false]
        refine .bind (c.confined_call (.start transactionTimeout _)) ?_
        rintro (e | _) -
        · exact .pure trivial
        · exact .bind (.log _) fun _ _ => .pure trivial
    | commit => exact confined_whenOpen (.bind (c.confined_call .commit) fun _ _ => .pure trivial)
    | rollback =>
      exact confined_whenOpen (.bind (c.confined_call .rollback) fun _ _ => .pure trivial)
    | close =>
      show Confined c.handles c.close _
      unfold close
      by_cases closed : c.closed
      · rw [if_pos closed]
        exact .pure trivial
      · rw [if_neg closed]
        exact .bind (.log _) fun _ _ => .bind h.confined_releaseAll fun _ _ => .pure trivial
  intro w
  refine ⟨(calls w).1, ?_⟩
  show c.Later ((c.perform op).run w).value.2
  rw [c.perform_after op w]
  exact h.later_next op _

end Connection

/-! ### Steps of a session -/

theorem Ending.confined_perform {c : Connection} (h : c.Laddered) (ending : Ending) :
    Confined c.handles (ending.perform c) fun p => c.Later p.2 := by
  cases ending with
  | commit => exact h.confined_perform .commit
  | rollback => exact h.confined_perform .rollback
  | drop => exact .pure h.later

mutual

/-- **Every step with a connection passes its own handles only**, those of a transaction
    included. -/
theorem ConnectionStep.confined_perform {c : Connection} (h : c.Laddered) :
    (step : ConnectionStep) → Confined c.handles (step.perform c) fun p => c.Later p.2
  | .operate op => by
    rw [ConnectionStep.perform]
    refine .bind (h.confined_perform op).observed ?_
    rintro ⟨⟨result, after⟩, seen⟩ later
    exact .pure later
  | .prepare sql => by
    rw [ConnectionStep.perform]
    exact .pure h.later
  | .info => by
    rw [ConnectionStep.perform]
    exact .pure h.later
  | .adjust change => by
    rw [ConnectionStep.perform]
    exact .bind (.modifyLibrary _) fun _ _ => .pure h.later
  | .transaction steps ending => by
    rw [ConnectionStep.perform]
    refine .bind (h.confined_perform .begin).observed ?_
    rintro ⟨⟨result, begun⟩, beginSeen⟩ began
    cases result with
    | error e => exact .pure began
    | ok _ =>
      -- the handles of the connection are those that it has inside the transaction
      have inside := ConnectionStep.confined_performAll began.laddered steps
      rw [began.handles] at inside
      refine .bind inside ?_
      rintro ⟨answers, worked⟩ later
      have later := began.trans later
      have ended := ending.confined_perform later.laddered
      rw [later.handles] at ended
      refine .bind ended.observed ?_
      rintro ⟨⟨result, after⟩, endSeen⟩ last
      exact .pure (later.trans last)

/-- Steps with a connection pass its own handles only. -/
theorem ConnectionStep.confined_performAll {c : Connection} (h : c.Laddered) :
    (steps : List ConnectionStep) →
      Confined c.handles (ConnectionStep.performAll c steps) fun p => c.Later p.2
  | [] => by
    rw [ConnectionStep.performAll]
    exact .pure h.later
  | step :: steps => by
    rw [ConnectionStep.performAll]
    refine .bind (ConnectionStep.confined_perform h step) ?_
    rintro ⟨answer, after⟩ later
    have rest := ConnectionStep.confined_performAll later.laddered steps
    rw [later.handles] at rest
    refine .bind rest ?_
    rintro ⟨answers, last⟩ last'
    exact .pure (later.trans last')

end

end DatabaseLogon

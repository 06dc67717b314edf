import DatabaseLogon.Proofs.Evolution
import DatabaseLogon.Proofs.Standing
import DatabaseLogon.Session.Run

namespace DatabaseLogon

/-!
# Sessions keep the books

* `Connection.keeps_perform`, `ConnectionStep.keeps_perform` — working with a sound connection.
* `Slots.held` — what the connections in all slots own.
* `Session.Kept` — the invariant of a session: that is what is live, and the connections are sound.
* `Session.keeps_perform`, `Session.keeps_performAll` — every step keeps the books, and so do all
  steps.
* `Session.run_orderly_settled` — the log of a session is orderly, and in the end it is settled.
-/

/-! ### Working with one connection -/

/-- What is live is what a sound connection owns, and what others own. -/
def Connection.Kept (others : List Resource) (c : Connection) (live : List Resource) : Prop :=
  c.Sound ∧ live = c.held ++ others

namespace Connection

variable {c : Connection}

theorem Sound.setTransaction (sound : c.Sound) (b : Bool) :
    { c with inTransaction := b }.Sound :=
  ⟨sound.grounded, sound.usable⟩

/-- Something that needs an open connection keeps the books if it does so on an open one. -/
theorem keeps_whenOpen {m : Action Script (Except Error Unit × Connection)}
    {others : List Resource} (sound : c.Sound)
    (hm : c.closed = false → Keeps m (c.held ++ others) fun p => Kept others p.2) :
    Keeps (c.whenOpen m) (c.held ++ others) fun p => Kept others p.2 := by
  unfold whenOpen
  by_cases h : c.closed
  · rw [if_pos h]
    exact .pure ⟨sound, rfl⟩
  · rw [if_neg h]
    exact hm (Bool.eq_false_iff.mpr h)

/-- A native call that serves an open connection leaves what is live as it is. -/
theorem keeps_call (sound : c.Sound) (opened : c.closed = false) (others : List Resource)
    {call : Call} (serves : call.Serves c.logon.service c.error) :
    Keeps (Client.reported c.error (do return Client.check (← Action.call call)))
      (c.held ++ others) fun _ live => live = c.held ++ others := by
  have releases : call.releases? = none := by
    cases serves <;> rfl
  have acquires : ∀ h, call.resource? h = none := by
    intro h
    cases serves <;> rfl
  have handles : ∀ h ∈ call.handles, h ∈ owned (c.held ++ others) := by
    intro h hh
    obtain ⟨error, service⟩ := sound.usable opened
    have passed : h = c.logon.service ∨ h = c.error := by
      cases serves <;> simpa [Call.handles] using hh
    rw [owned_append]
    apply List.mem_append_left
    rcases passed with rfl | rfl
    · exact service
    · exact error
  exact .of_attempt serves.attempt handles releases acquires

theorem keeps_ping (sound : c.Sound) (others : List Resource) :
    Keeps c.ping (c.held ++ others) fun p => Kept others p.2 := by
  apply keeps_whenOpen sound
  intro opened
  refine .bind (keeps_call sound opened others .ping) ?_
  rintro result live rfl
  exact .pure ⟨sound, rfl⟩

theorem keeps_begin (sound : c.Sound) (others : List Resource) :
    Keeps c.begin (c.held ++ others) fun p => Kept others p.2 := by
  apply keeps_whenOpen sound
  intro opened
  -- ordinary transactions begin by themselves, so there is no call
  by_cases usual : c.settings.transactionMode = .readWrite
  · simp only [usual, if_true, pure_bind]
    exact .of_quiet (.logged _ _) ⟨sound.setTransaction true, rfl⟩
  · simp only [usual, if_false]
    refine .bind (keeps_call sound opened others (.start transactionTimeout _)) ?_
    rintro (e | _) live rfl
    · exact .pure ⟨sound.setTransaction false, rfl⟩
    · exact .of_quiet (.logged _ _) ⟨sound.setTransaction true, rfl⟩

theorem keeps_commit (sound : c.Sound) (others : List Resource) :
    Keeps c.commit (c.held ++ others) fun p => Kept others p.2 := by
  have sound := sound.setTransaction false
  apply keeps_whenOpen sound
  intro opened
  refine .bind (keeps_call sound opened others .commit) ?_
  rintro result live rfl
  exact .pure ⟨sound, rfl⟩

theorem keeps_rollback (sound : c.Sound) (others : List Resource) :
    Keeps c.rollback (c.held ++ others) fun p => Kept others p.2 := by
  have sound := sound.setTransaction false
  apply keeps_whenOpen sound
  intro opened
  refine .bind (keeps_call sound opened others .rollback) ?_
  rintro result live rfl
  exact .pure ⟨sound, rfl⟩

theorem keeps_close (sound : c.Sound) (others : List Resource) :
    Keeps c.close (c.held ++ others) fun p => Kept others p.2 := by
  unfold close
  by_cases h : c.closed
  · rw [if_pos h]
    exact .pure ⟨sound, rfl⟩
  · rw [if_neg h]
    refine .bind (.log _) ?_
    rintro _ live rfl
    refine .bind (keeps_releaseAll sound.grounded others) ?_
    rintro ⟨result, held⟩ live ⟨rfl, rfl⟩
    exact .pure ⟨⟨trivial, by simp⟩, rfl⟩

/-- Every operation on a sound connection keeps the books and the connection sound. -/
theorem keeps_perform (sound : c.Sound) (op : Operation) (others : List Resource) :
    Keeps (c.perform op) (c.held ++ others) fun p => Kept others p.2 := by
  cases op with
  | ping => exact keeps_ping sound others
  | begin => exact keeps_begin sound others
  | commit => exact keeps_commit sound others
  | rollback => exact keeps_rollback sound others
  | close => exact keeps_close sound others

/-- Letting go of a sound connection leaves nothing of it live. -/
theorem Sound.keeps_release (sound : c.Sound) (others : List Resource) :
    Keeps c.release (c.held ++ others) fun _ live => live = others := by
  refine .bind (keeps_releaseAll sound.grounded others) ?_
  rintro ⟨result, held⟩ live ⟨-, rfl⟩
  exact .pure rfl

end Connection

theorem Ending.keeps_perform {c : Connection} (sound : c.Sound) (ending : Ending)
    (others : List Resource) :
    Keeps (ending.perform c) (c.held ++ others) fun p => Connection.Kept others p.2 := by
  cases ending with
  | commit => exact Connection.keeps_commit sound others
  | rollback => exact Connection.keeps_rollback sound others
  | drop => exact .pure ⟨sound, rfl⟩

mutual

/-- Every step with a sound connection keeps the books and the connection sound. -/
theorem ConnectionStep.keeps_perform {c : Connection} (sound : c.Sound) (others : List Resource) :
    (step : ConnectionStep) →
      Keeps (step.perform c) (c.held ++ others) fun p => Connection.Kept others p.2
  | .operate op => by
    rw [ConnectionStep.perform]
    refine .bind (Connection.keeps_perform sound op others).observed ?_
    rintro ⟨⟨result, after⟩, seen⟩ live kept
    exact .pure kept
  | .prepare sql => by
    rw [ConnectionStep.perform]
    exact .pure ⟨sound, rfl⟩
  | .info => by
    rw [ConnectionStep.perform]
    exact .pure ⟨sound, rfl⟩
  | .adjust change => by
    rw [ConnectionStep.perform]
    refine .bind (.adjust change) ?_
    rintro _ live rfl
    exact .pure ⟨sound, rfl⟩
  | .transaction steps ending => by
    rw [ConnectionStep.perform]
    refine .bind (Connection.keeps_begin sound others).observed ?_
    rintro ⟨⟨result, begun⟩, beginSeen⟩ live ⟨sound, rfl⟩
    cases result with
    | error e => exact .pure ⟨sound, rfl⟩
    | ok _ =>
      -- the steps inside and the ending work on the connection that the one before left
      refine .bind (ConnectionStep.keeps_performAll sound others steps) ?_
      rintro ⟨inside, worked⟩ live ⟨sound, rfl⟩
      refine .bind (ending.keeps_perform sound others).observed ?_
      rintro ⟨⟨result, after⟩, endSeen⟩ live kept
      exact .pure kept

/-- Steps with a sound connection keep the books and the connection sound. -/
theorem ConnectionStep.keeps_performAll {c : Connection} (sound : c.Sound)
    (others : List Resource) :
    (steps : List ConnectionStep) →
      Keeps (ConnectionStep.performAll c steps) (c.held ++ others) fun p =>
        Connection.Kept others p.2
  | [] => by
    rw [ConnectionStep.performAll]
    exact .pure ⟨sound, rfl⟩
  | step :: steps => by
    rw [ConnectionStep.performAll]
    refine .bind (ConnectionStep.keeps_perform sound others step) ?_
    rintro ⟨answer, after⟩ live ⟨sound, rfl⟩
    refine .bind (ConnectionStep.keeps_performAll sound others steps) ?_
    rintro ⟨answers, last⟩ live kept
    exact .pure kept

end

/-! ### Slots -/

namespace Slots

variable {s : Slots} {slot : Nat} {c : Connection}

/-- What the connections in all slots own. -/
def held (s : Slots) : List Resource :=
  s.flatMap fun e => e.2.held

/-- The slots are in order, and their connections are sound. -/
structure Sound (s : Slots) : Prop where
  sorted : s.Pairwise fun a b => a.1 < b.1
  sound : ∀ e ∈ s, e.2.Sound

theorem Sound.tail {e : Nat × Connection} (h : Slots.Sound (e :: s)) : s.Sound where
  sorted := (List.pairwise_cons.mp h.sorted).2
  sound e' he' := h.sound e' (List.mem_cons_of_mem _ he')

theorem held_cons (e : Nat × Connection) (rest : Slots) :
    held (e :: rest) = e.2.held ++ rest.held :=
  List.flatMap_cons

theorem Sound.put (h : s.Sound) (hc : c.Sound) : Sound (put slot c s) where
  sorted := by
    induction s with
    | nil => exact List.pairwise_singleton _ _
    | cons first rest ih =>
      obtain ⟨above, sorted⟩ := List.pairwise_cons.mp h.sorted
      rw [Slots.put]
      split
      next before =>
        have least : ∀ e ∈ first :: rest, slot < e.1 := by
          intro e he
          rcases List.mem_cons.mp he with rfl | he
          · exact before
          · exact Nat.lt_trans before (above e he)
        exact List.pairwise_cons.mpr ⟨least, h.sorted⟩
      next notBefore =>
        split
        next same =>
          subst same
          exact List.pairwise_cons.mpr ⟨above, sorted⟩
        next other =>
          have least : ∀ e ∈ Slots.put slot c rest, first.1 < e.1 := by
            intro e he
            rcases mem_put he with rfl | he
            · show first.1 < slot
              omega
            · exact above e he
          exact List.pairwise_cons.mpr ⟨least, ih h.tail⟩
  sound e he := by
    rcases mem_put he with rfl | he
    · exact hc
    · exact h.sound e he

theorem Sound.erase (h : s.Sound) (slot : Nat) : Sound (s.erase slot) where
  sorted := h.sorted.filter _
  sound e he := h.sound e (List.mem_filter.mp he).1

/-- A slot that is not there need not be emptied. -/
theorem erase_eq_self (h : ∀ e ∈ s, e.1 ≠ slot) : s.erase slot = s :=
  List.filter_eq_self.mpr fun e he => by simpa using h e he

/-- To empty the first slot is to leave it out, for the slots are in order. -/
theorem Sound.erase_cons_self {e : Nat × Connection} (h : Slots.Sound (e :: s)) :
    Slots.erase (e :: s) e.1 = s := by
  obtain ⟨above, -⟩ := List.pairwise_cons.mp h.sorted
  rw [Slots.erase, List.filter_cons_of_neg (by simp)]
  exact erase_eq_self fun e' he' => Nat.ne_of_gt (above e' he')

theorem erase_cons_of_ne {e : Nat × Connection} (h : slot ≠ e.1) (s : Slots) :
    Slots.erase (e :: s) slot = e :: s.erase slot :=
  List.filter_cons_of_pos (by simpa using Ne.symm h)

theorem erase_of_get?_eq_none (h : s.get? slot = none) : s.erase slot = s := by
  apply erase_eq_self
  intro e he same
  induction s with
  | nil => cases he
  | cons first rest ih =>
    rw [get?_cons] at h
    split at h
    · cases h
    next other =>
      rcases List.mem_cons.mp he with rfl | he
      · exact other same.symm
      · exact ih h he

/-- What is owned is owned by the connection in a slot or by the others. -/
theorem held_of_get? (h : s.Sound) (hc : s.get? slot = some c) :
    (held s).Perm (c.held ++ held (s.erase slot)) := by
  induction s with
  | nil => cases hc
  | cons first rest ih =>
    rw [get?_cons] at hc
    split at hc
    next same =>
      cases hc
      rw [same, h.erase_cons_self, held_cons]
    next other =>
      rw [erase_cons_of_ne other, held_cons, held_cons]
      refine ((ih h.tail hc).append_left _).trans ?_
      exact List.perm_append_comm_assoc _ _ _

/-- To fill a slot is to replace what its connection owned. -/
theorem held_put (h : s.Sound) (slot : Nat) (c : Connection) :
    (held (put slot c s)).Perm (c.held ++ held (s.erase slot)) := by
  induction s with
  | nil => exact .refl _
  | cons first rest ih =>
    obtain ⟨above, -⟩ := List.pairwise_cons.mp h.sorted
    rw [put]
    split
    next before =>
      rw [erase_eq_self, held_cons]
      intro e he
      rcases List.mem_cons.mp he with rfl | he
      · exact Nat.ne_of_gt before
      · exact Nat.ne_of_gt (Nat.lt_trans before (above e he))
    next notBefore =>
      split
      next same => rw [same, h.erase_cons_self, held_cons]
      next other =>
        -- what the first connection owns is moved behind what the new one owns
        rw [erase_cons_of_ne other, held_cons, held_cons]
        refine ((ih h.tail).append_left _).trans ?_
        exact List.perm_append_comm_assoc _ _ _

end Slots

/-! ### Sessions -/

/-- What is live is what the connections of a session own, and these are sound. -/
def Session.Kept (s : Session) (live : List Resource) : Prop :=
  s.slots.Sound ∧ live.Perm s.slots.held

namespace Driver

theorem keeps_openText (d : Driver) (text : String) (others : List Resource) :
    Keeps (d.openText text) others (Opened others) := by
  unfold openText
  cases Dsn.parse text with
  | ok dsn => exact d.keeps_openDsn dsn others
  | error e => exact .pure rfl

/-- A connection that comes too late is released. -/
theorem keeps_late (d : Driver) (dsn : Dsn) (others : List Resource) :
    Keeps (d.openDsn dsn >>= discard) others fun _ live => live = others := by
  refine .bind (d.keeps_openDsn dsn _) ?_
  rintro (e | c) live opened
  · exact .pure opened
  · obtain ⟨sound, rfl⟩ := opened
    exact sound.keeps_release _

/-- An attempt in a task keeps the books, whatever becomes of the task. -/
theorem keeps_connect (d : Driver) (text : String) (fate : Fate) (others : List Resource) :
    Keeps (d.connect text fate) others (Opened others) := by
  cases parsed : Dsn.parse text with
  | error e =>
    rw [d.connect_of_error parsed]
    exact .pure rfl
  | ok dsn =>
    rw [d.connect_of_ok parsed]
    cases fate with
    | finished =>
      refine .bind (d.keeps_openDsn dsn others) ?_
      intro result live opened
      exact .of_quiet (d.quiet_settle (.ended result)) opened
    | late entries =>
      intro past w ledger
      obtain ⟨live, ⟨value, rfl⟩, ledger'⟩ :=
        (d.keeps_late dsn others).beside (d.quiet_settle .timedOut) entries past w ledger
      rw [Task.await, value]
      exact ⟨_, rfl, ledger'⟩
    | starved => exact .of_quiet (d.quiet_settle .timedOut) rfl
    | cancelled reason => exact .of_quiet (d.quiet_settle (.unjoined reason)) rfl

end Driver

namespace Session

/-- A connection that opens for a slot takes the place of the one that was there, which is
    released. -/
theorem keeps_replace {s : Session} (sound : s.slots.Sound) (slot : Nat)
    {m : Action Script (Except Error Connection)} (hm : ∀ others, Keeps m others (Opened others)) :
    Keeps (do
        let result ← m
        match result, s.slots.get? slot with
        | .ok _, some replaced => replaced.release
        | _, _ => pure ()
        return result)
      s.slots.held fun result live =>
        match result with
        | .ok c => c.Sound ∧ live.Perm (c.held ++ (s.slots.erase slot).held)
        | .error _ => live = s.slots.held := by
  refine .bind (hm _) ?_
  rintro (e | c) live opened
  · exact .pure opened
  · obtain ⟨hc, rfl⟩ := opened
    cases there : s.slots.get? slot with
    | none =>
      rw [Slots.erase_of_get?_eq_none there]
      exact .pure ⟨hc, .refl _⟩
    | some old =>
      have hold := sound.sound _ (Slots.mem_of_get? there)
      -- the old connection is released first, so what it owns is put in front
      have perm := ((Slots.held_of_get? sound there).append_left c.held).trans
        (List.perm_append_comm_assoc _ _ _)
      refine .of_perm perm (.bind (hold.keeps_release _) ?_)
      rintro _ live rfl
      exact .pure ⟨hc, .refl _⟩

/-- Filling a slot with a connection that opens keeps the books. -/
theorem keeps_openInto {s : Session} (sound : s.slots.Sound) (slot : Nat)
    {m : Action Script (Except Error Connection)} (hm : ∀ others, Keeps m others (Opened others)) :
    Keeps (s.openInto slot m) s.slots.held fun p => Kept p.2 := by
  refine .bind (keeps_replace sound slot hm).observed ?_
  rintro ⟨e | c, seen⟩ live opened
  · rw [show live = s.slots.held from opened]
    exact .pure ⟨sound, .refl _⟩
  · obtain ⟨hc, perm⟩ := opened
    exact .pure ⟨sound.put hc, perm.trans (Slots.held_put sound slot c).symm⟩

/-- Every step keeps the books, and the connections sound. -/
theorem keeps_perform {s : Session} (sound : s.slots.Sound) (step : Step) :
    Keeps (s.perform step) s.slots.held fun p => Kept p.2 := by
  cases step with
  | openText slot text => exact keeps_openInto sound slot (s.driver.keeps_openText text)
  | openBuilt slot changes =>
    apply keeps_openInto sound slot
    intro others
    cases (Dsn.Builder.empty.setAll changes).build with
    | ok dsn => exact s.driver.keeps_openDsn dsn others
    | error e => exact .pure rfl
  | connect slot text fate =>
    exact keeps_openInto sound slot (s.driver.keeps_connect text fate)
  | drop slot =>
    rw [perform]
    cases hc : s.slots.get? slot with
    | none => exact .pure ⟨sound, .refl _⟩
    | some c =>
      have hsound := sound.sound _ (Slots.mem_of_get? hc)
      refine .of_perm (Slots.held_of_get? sound hc) (.bind (hsound.keeps_release _).observed ?_)
      rintro ⟨_, seen⟩ live rfl
      exact .pure ⟨sound.erase slot, .refl _⟩
  | useProtocol protocol => exact .pure ⟨sound, .refl _⟩
  | useTimeout after => exact .pure ⟨sound, .refl _⟩
  | adjust change =>
    rw [perform]
    refine .bind (.adjust change) ?_
    rintro _ live rfl
    exact .pure ⟨sound, .refl _⟩
  | on slot step =>
    rw [perform]
    cases hc : s.slots.get? slot with
    | none => exact .pure ⟨sound, .refl _⟩
    | some c =>
      have hsound := sound.sound _ (Slots.mem_of_get? hc)
      refine .of_perm (Slots.held_of_get? sound hc)
        (.bind (ConnectionStep.keeps_perform hsound _ step) ?_)
      rintro ⟨answer, after⟩ live ⟨kept, rfl⟩
      exact .pure ⟨sound.put kept, (Slots.held_put sound slot after).symm⟩

/-- Steps in order keep the books, and the connections sound. -/
theorem keeps_performAll {s : Session} (sound : s.slots.Sound) (steps : List Step) :
    Keeps (s.performAll steps) s.slots.held fun p => Kept p.2 := by
  induction steps generalizing s with
  | nil => exact .pure ⟨sound, .refl _⟩
  | cons step steps ih =>
    rw [performAll]
    refine .bind (keeps_perform sound step) ?_
    rintro ⟨answer, after⟩ live ⟨sound', perm⟩
    refine .of_perm perm (.bind (ih sound') ?_)
    rintro ⟨answers, last⟩ live kept
    exact .pure kept

/-- Releasing all connections leaves nothing live. -/
theorem keeps_releaseSlots {s : Slots} (sound : s.Sound) :
    Keeps (releaseSlots s) s.held fun _ live => live = [] := by
  induction s with
  | nil => exact .pure rfl
  | cons e rest ih =>
    obtain ⟨slot, c⟩ := e
    rw [releaseSlots]
    refine .bind (((sound.sound _ List.mem_cons_self).keeps_release _)) ?_
    rintro _ live rfl
    exact ih sound.tail

/-- A session with sound connections keeps the books, and leaves nothing live. -/
theorem keeps_run {s : Session} (sound : s.slots.Sound) (steps : List Step) :
    Keeps (s.run steps) s.slots.held fun _ live => live = [] := by
  refine .bind (keeps_performAll sound steps) ?_
  rintro ⟨answers, last⟩ live ⟨sound', perm⟩
  refine .of_perm perm (.bind (keeps_releaseSlots sound').observed ?_)
  rintro ⟨_, seen⟩ live rfl
  exact .pure rfl

/-- **Every session is orderly and settled.** Whatever the script and the steps, no call passes a
    handle that was not produced before or that is retired already, and when all connections are
    released, everything that was acquired was given back exactly once. -/
theorem run_orderly_settled (driver : Driver) (steps : List Step) (w : World Script) :
    Orderly (((fresh driver).run steps).run w).trace.calls ∧
      Settled (((fresh driver).run steps).run w).trace.calls := by
  have sound : Slots.Sound [] := ⟨.nil, by simp⟩
  obtain ⟨live, rfl, ledger⟩ := keeps_run (s := fresh driver) sound steps [] w (.nil _)
  exact ⟨ledger.orderly, ledger.settled⟩

end Session

end DatabaseLogon

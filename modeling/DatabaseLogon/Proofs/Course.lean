import DatabaseLogon.Proofs.Evolution
import DatabaseLogon.Session.Run

namespace DatabaseLogon

/-!
# The course of a session

A session is put together from openings, operations, releases and changes of the script. This module
has the induction over the steps of a session, nested transactions included, once and for all: what
holds of attempts and of changes, and when one thing follows another, holds of sessions.

* `Connection.Reachable` — the connections that there can be.
* `Answer.connections` — the connections that an answer shows.
* `Step.changes` — the changes of the script that were made in a step.
* `Course` — a relation between worlds, the calls and the changes in between.
* `Proceeds` — an action goes by a course; with its rules.
* `Session.proceeds_performAll`, `Session.proceeds_run` — every session goes by every course, and
  shows only connections that are reachable.
-/

/-- A connection that a driver opened, and with which something may have been done since. -/
inductive Connection.Reachable (σ : Type) [ClientLibrary σ] : Connection → Prop
  | opened {d : Driver} {dsn : Dsn} {w : World σ} {c : Connection}
    (h : ((d.openDsn dsn).run w).value = .ok c) : Reachable σ c
  | performed {c : Connection} (h : Reachable σ c) (op : Operation) (w : World σ) :
    Reachable σ ((c.perform op).run w).value.2

/-! ### What answers tell -/

mutual

/-- The connections that an answer shows, each as it was after something was done with it. -/
def Answer.connections : Answer → List Connection
  | .opened (.ok c) _ => [c]
  | .opened (.error _) _ | .dropped .. | .configured _ | .adjusted | .noConnection => []
  | .operated _ after _ => [after]
  | .prepared _ after => [after]
  | .informed about => [about]
  | .transacted begun _ inside _ _ after =>
    begun.connection :: (Answer.connectionsAll inside ++ [after])

/-- The connections that answers show. -/
def Answer.connectionsAll : List Answer → List Connection
  | [] => []
  | answer :: answers => answer.connections ++ Answer.connectionsAll answers

end

mutual

/-- The changes of the script that were made in a step with a connection, given its answer. Inside a
    transaction that did not begin none were made. -/
def ConnectionStep.changes : ConnectionStep → Answer → List Adjustment
  | .adjust change, .adjusted => [change]
  | .transaction steps _, .transacted _ _ inside _ _ _ => ConnectionStep.changesAll steps inside
  | _, _ => []

/-- The changes of the script that were made in steps with a connection. -/
def ConnectionStep.changesAll : List ConnectionStep → List Answer → List Adjustment
  | step :: steps, answer :: answers =>
    step.changes answer ++ ConnectionStep.changesAll steps answers
  | _, _ => []

end

/-- No change is made in an empty slot. -/
theorem ConnectionStep.changes_noConnection (step : ConnectionStep) :
    step.changes .noConnection = [] := by
  cases step <;> rfl

/-- The changes of the script that were made in a step, given its answer. -/
def Step.changes : Step → Answer → List Adjustment
  | .adjust change, _ => [change]
  | .on _ step, answer => step.changes answer
  | _, _ => []

/-- The changes of the script that were made in steps. -/
def Step.changesAll : List Step → List Answer → List Adjustment
  | step :: steps, answer :: answers => step.changes answer ++ Step.changesAll steps answers
  | _, _ => []

/-! ### Courses -/

/-- A relation between a world, the calls and the changes of the script that are made, and the world
    behind them. It holds of every attempt and every change, and when one thing follows another. -/
structure Course (E : World Script → CallLog → List Adjustment → World Script → Prop) : Prop where
  calls : Evolution fun w log w' => E w log [] w'
  adjust : ∀ w change, E w [] [change] { w with library := w.library.adjust change }
  append : ∀ {w w' w'' a b changes changes'}, E w a changes w' → E w' b changes' w'' →
    E w (a ++ b) (changes ++ changes') w''

/-- An action goes by a course. The changes that it makes stand in the relation `post` to its
    value. -/
def Proceeds {α : Type} (E : World Script → CallLog → List Adjustment → World Script → Prop)
    (m : Action Script α) (post : α → List Adjustment → Prop) : Prop :=
  ∀ w, ∃ changes, post (m.run w).value changes ∧
    E w (m.run w).trace.calls changes (m.run w).world

variable {α β : Type} {E : World Script → CallLog → List Adjustment → World Script → Prop}

namespace Proceeds

/-- What consists of attempts makes no changes. -/
theorem of_evolves {m : Action Script α} {post : α → List Adjustment → Prop}
    (hm : m.Evolves fun w log w' => E w log [] w') (h : ∀ w, post (m.run w).value []) :
    Proceeds E m post :=
  fun w => ⟨[], h w, hm w⟩

theorem pure (hE : Course E) {a : α} {post : α → List Adjustment → Prop} (h : post a []) :
    Proceeds E (Pure.pure a) post :=
  of_evolves (.pure hE.calls a) fun _ => h

/-- One action after another makes the changes of both. -/
theorem bind (hE : Course E) {m : Action Script α} {f : α → Action Script β}
    {mid : α → List Adjustment → Prop} {post : β → List Adjustment → Prop}
    (hm : Proceeds E m mid)
    (hf : ∀ a changes, mid a changes →
      Proceeds E (f a) fun b changes' => post b (changes ++ changes')) :
    Proceeds E (m >>= f) post := by
  intro w
  obtain ⟨changes, hmid, first⟩ := hm w
  obtain ⟨changes', hpost, second⟩ := hf _ changes hmid (m.run w).world
  rw [Action.run_bind, Trace.calls_append]
  exact ⟨changes ++ changes', hpost, hE.append first second⟩

/-- What is observed of an action makes no difference. -/
theorem observed {m : Action Script α} {post : α → List Adjustment → Prop}
    (hm : Proceeds E m post) :
    Proceeds E (Action.observed m) fun a changes => post a.1 changes :=
  fun w => hm w

theorem adjust (hE : Course E) (change : Adjustment) :
    Proceeds E (Action.modifyLibrary (·.adjust change)) fun _ changes => changes = [change] :=
  fun w => ⟨[change], rfl, hE.adjust w change⟩

end Proceeds

/-! ### Working with one connection -/

/-- What comes of a step with a connection: the changes are those of the step, the answer shows
    connections that are reachable, and so is the connection afterwards. -/
structure ConnectionStep.Done (changes expected : List Adjustment) (shown : List Connection)
    (after : Connection) : Prop where
  changes : changes = expected
  shown : ∀ c ∈ shown, c.Reachable Script
  after : after.Reachable Script

namespace Connection.Reachable

variable {c : Connection}

/-- To do something with a reachable connection changes nothing in the script. -/
theorem proceeds_perform (hE : Course E) (reachable : c.Reachable Script) (op : Operation) :
    Proceeds E (c.perform op) fun p changes => changes = [] ∧ p.2.Reachable Script :=
  .of_evolves (c.evolves_perform hE.calls op) fun w => ⟨rfl, reachable.performed op w⟩

theorem proceeds_end (hE : Course E) (reachable : c.Reachable Script) (ending : Ending) :
    Proceeds E (ending.perform c) fun p changes => changes = [] ∧ p.2.Reachable Script := by
  cases ending with
  | commit => exact reachable.proceeds_perform hE .commit
  | rollback => exact reachable.proceeds_perform hE .rollback
  | drop => exact .pure hE ⟨rfl, reachable⟩

/-- A step that only looks at a connection. -/
theorem done_of_shown (reachable : c.Reachable Script) :
    ConnectionStep.Done [] [] [c] c where
  changes := rfl
  shown _ hd := List.mem_singleton.mp hd ▸ reachable
  after := reachable

end Connection.Reachable

mutual

/-- **Every step with a reachable connection** goes by every course. -/
theorem ConnectionStep.proceeds_perform (hE : Course E) {c : Connection}
    (reachable : c.Reachable Script) : (step : ConnectionStep) →
      Proceeds E (step.perform c) fun p changes =>
        Done changes (step.changes p.1) p.1.connections p.2
  | .operate op => by
    rw [ConnectionStep.perform]
    refine .bind hE (reachable.proceeds_perform hE op).observed ?_
    rintro ⟨⟨result, after⟩, seen⟩ changes ⟨rfl, reachable'⟩
    exact .pure hE reachable'.done_of_shown
  | .prepare sql => by
    rw [ConnectionStep.perform]
    exact .pure hE reachable.done_of_shown
  | .info => by
    rw [ConnectionStep.perform]
    exact .pure hE reachable.done_of_shown
  | .adjust change => by
    rw [ConnectionStep.perform]
    refine .bind hE (.adjust hE change) ?_
    rintro _ changes rfl
    exact .pure hE ⟨rfl, List.forall_mem_nil _, reachable⟩
  | .transaction steps ending => by
    rw [ConnectionStep.perform]
    refine .bind hE (reachable.proceeds_perform hE .begin).observed ?_
    rintro ⟨⟨result, begun⟩, beginSeen⟩ changes ⟨rfl, began⟩
    cases result with
    | error e => exact .pure hE began.done_of_shown
    | ok _ =>
      -- only the steps inside make changes
      refine .bind hE (ConnectionStep.proceeds_performAll hE began steps) ?_
      rintro ⟨inside, worked⟩ changes done
      refine .bind hE (done.after.proceeds_end hE ending).observed ?_
      rintro ⟨⟨result, after⟩, endSeen⟩ changes' ⟨rfl, ended⟩
      refine .pure hE ⟨?_, ?_, ended⟩
      · rw [List.append_nil, List.append_nil]
        exact done.changes
      · intro d hd
        rcases List.mem_cons.mp hd with rfl | hd
        · exact began
        · rcases List.mem_append.mp hd with hd | hd
          · exact done.shown d hd
          · exact List.mem_singleton.mp hd ▸ ended

/-- Steps with a reachable connection go by every course. -/
theorem ConnectionStep.proceeds_performAll (hE : Course E) {c : Connection}
    (reachable : c.Reachable Script) : (steps : List ConnectionStep) →
      Proceeds E (ConnectionStep.performAll c steps) fun p changes =>
        Done changes (ConnectionStep.changesAll steps p.1) (Answer.connectionsAll p.1) p.2
  | [] => by
    rw [ConnectionStep.performAll]
    exact .pure hE ⟨rfl, List.forall_mem_nil _, reachable⟩
  | step :: steps => by
    rw [ConnectionStep.performAll]
    refine .bind hE (ConnectionStep.proceeds_perform hE reachable step) ?_
    rintro ⟨answer, after⟩ changes first
    refine .bind hE (ConnectionStep.proceeds_performAll hE first.after steps) ?_
    rintro ⟨answers, last⟩ changes' rest
    refine .pure hE ⟨?_, ?_, rest.after⟩
    · rw [List.append_nil, first.changes, rest.changes]
      rfl
    · intro d hd
      exact (List.mem_append.mp hd).elim (first.shown d) (rest.shown d)

end

/-! ### Sessions -/

/-- The connections that answers show and those in the slots, which are all connections that there
    are in a session at any time. -/
def Session.connections (p : List Answer × Session) : List Connection :=
  Answer.connectionsAll p.1 ++ p.2.slots.map Prod.snd

/-- What comes of a step of a session: the changes are those of the step, the answer shows
    connections that are reachable, and so are those in the slots. -/
structure Step.Done (changes expected : List Adjustment) (shown : List Connection)
    (after : Slots) : Prop where
  changes : changes = expected
  shown : ∀ c ∈ shown, c.Reachable Script
  after : ∀ e ∈ after, e.2.Reachable Script

/-- What comes of opening a connection: no changes, and a connection that is reachable, or none. -/
def Opens (result : Except Error Connection) (changes : List Adjustment) : Prop :=
  changes = [] ∧ ∀ c, result = .ok c → c.Reachable Script

theorem opens_error (e : Error) : Opens (.error e) [] :=
  ⟨rfl, fun _ h => by cases h⟩

namespace Driver

theorem proceeds_openDsn (hE : Course E) (d : Driver) (dsn : Dsn) :
    Proceeds E (d.openDsn dsn) Opens :=
  .of_evolves (d.evolves_openDsn hE.calls dsn) fun _ => ⟨rfl, fun _ h => .opened h⟩

theorem proceeds_openText (hE : Course E) (d : Driver) (text : String) :
    Proceeds E (d.openText text) Opens := by
  unfold openText
  cases Dsn.parse text with
  | ok dsn => exact d.proceeds_openDsn hE dsn
  | error e => exact .pure hE (opens_error e)

theorem proceeds_connect (hE : Course E) (d : Driver) (text : String) (fate : Fate) :
    Proceeds E (d.connect text fate) Opens := by
  refine .of_evolves (d.evolves_connect hE.calls text fate) fun w => ⟨rfl, fun c h => ?_⟩
  obtain ⟨-, dsn, -, opened⟩ := openDsn_of_connect h
  exact .opened opened

end Driver

namespace Session

variable {s : Session}

/-- Opening a connection for a slot goes by every course, the release of the one that was there
    included. -/
theorem proceeds_openInto (hE : Course E) (hs : ∀ e ∈ s.slots, e.2.Reachable Script) (slot : Nat)
    {m : Action Script (Except Error Connection)} (hm : Proceeds E m Opens) :
    Proceeds E (s.openInto slot m) fun p changes =>
      Step.Done changes [] p.1.connections p.2.slots := by
  unfold openInto
  refine .bind hE (@Proceeds.observed _ E _ Opens ?_) ?_
  · -- the connection that was there is released if the new one opened
    refine .bind hE hm ?_
    rintro (e | c) changes ⟨rfl, reachable⟩
    · exact .pure hE (opens_error e)
    · cases s.slots.get? slot with
      | none => exact .pure hE ⟨rfl, reachable⟩
      | some old =>
        refine .of_evolves ?_ fun w => ⟨rfl, reachable⟩
        exact .bind hE.calls (old.evolves_release hE.calls) fun _ => .pure hE.calls _
  · rintro ⟨result, seen⟩ changes ⟨rfl, reachable⟩
    cases result with
    | error e => exact .pure hE ⟨rfl, List.forall_mem_nil _, hs⟩
    | ok c =>
      have opened := reachable c rfl
      refine .pure hE ⟨rfl, ?_, ?_⟩
      · intro d hd
        exact List.mem_singleton.mp hd ▸ opened
      · intro e he
        rcases Slots.mem_put he with rfl | he
        · exact opened
        · exact hs e he

/-- Every step of a session goes by every course. -/
theorem proceeds_perform (hE : Course E) (hs : ∀ e ∈ s.slots, e.2.Reachable Script)
    (step : Step) :
    Proceeds E (s.perform step) fun p changes =>
      Step.Done changes (step.changes p.1) p.1.connections p.2.slots := by
  cases step with
  | openText slot text => exact proceeds_openInto hE hs slot (s.driver.proceeds_openText hE text)
  | openBuilt slot changes =>
    apply proceeds_openInto hE hs slot
    cases (Dsn.Builder.empty.setAll changes).build with
    | ok dsn => exact s.driver.proceeds_openDsn hE dsn
    | error e => exact .pure hE (opens_error e)
  | connect slot text fate =>
    exact proceeds_openInto hE hs slot (s.driver.proceeds_connect hE text fate)
  | drop slot =>
    rw [perform]
    cases s.slots.get? slot with
    | none => exact .pure hE ⟨rfl, List.forall_mem_nil _, hs⟩
    | some c =>
      have released : Proceeds E c.release fun _ changes => changes = [] :=
        .of_evolves (c.evolves_release hE.calls) fun _ => rfl
      refine .bind hE released.observed ?_
      rintro ⟨_, seen⟩ changes rfl
      refine .pure hE ⟨rfl, List.forall_mem_nil _, ?_⟩
      intro e he
      exact hs e (List.mem_filter.mp he).1
  | useProtocol protocol => exact .pure hE ⟨rfl, List.forall_mem_nil _, hs⟩
  | useTimeout after => exact .pure hE ⟨rfl, List.forall_mem_nil _, hs⟩
  | adjust change =>
    rw [perform]
    refine .bind hE (.adjust hE change) ?_
    rintro _ changes rfl
    exact .pure hE ⟨rfl, List.forall_mem_nil _, hs⟩
  | on slot step =>
    rw [perform]
    cases hc : s.slots.get? slot with
    | none => exact .pure hE ⟨step.changes_noConnection.symm, List.forall_mem_nil _, hs⟩
    | some c =>
      have reachable := hs _ (Slots.mem_of_get? hc)
      refine .bind hE (ConnectionStep.proceeds_perform hE reachable step) ?_
      rintro ⟨answer, after⟩ changes done
      refine .pure hE ⟨?_, done.shown, ?_⟩
      · rw [List.append_nil]
        exact done.changes
      · intro e he
        rcases Slots.mem_put he with rfl | he
        · exact done.after
        · exact hs e he

/-- **Steps of a session** go by every course, and show only connections that are reachable. -/
theorem proceeds_performAll (hE : Course E) (hs : ∀ e ∈ s.slots, e.2.Reachable Script)
    (steps : List Step) :
    Proceeds E (s.performAll steps) fun p changes =>
      Step.Done changes (Step.changesAll steps p.1) (Answer.connectionsAll p.1) p.2.slots := by
  induction steps generalizing s with
  | nil => exact .pure hE ⟨rfl, List.forall_mem_nil _, hs⟩
  | cons step steps ih =>
    rw [performAll]
    refine .bind hE (proceeds_perform hE hs step) ?_
    rintro ⟨answer, after⟩ changes first
    refine .bind hE (ih first.after) ?_
    rintro ⟨answers, last⟩ changes' rest
    refine .pure hE ⟨?_, ?_, rest.after⟩
    · rw [List.append_nil, first.changes, rest.changes]
      rfl
    · intro d hd
      exact (List.mem_append.mp hd).elim (first.shown d) (rest.shown d)

theorem evolves_releaseSlots {E : World Script → CallLog → World Script → Prop} (hE : Evolution E)
    (s : Slots) : (releaseSlots s).Evolves E := by
  induction s with
  | nil => exact .pure hE _
  | cons e rest ih => exact .bind hE (e.2.evolves_release hE) fun _ => ih

/-- A whole session goes by every course. -/
theorem proceeds_run (hE : Course E) (driver : Driver) (steps : List Step) :
    Proceeds E ((fresh driver).run steps) fun report changes =>
      changes = Step.changesAll steps report.answers := by
  have performed : Proceeds E ((fresh driver).performAll steps) _ :=
    proceeds_performAll hE (List.forall_mem_nil _) steps
  refine .bind hE performed ?_
  rintro ⟨answers, last⟩ changes done
  have released : Proceeds E (releaseSlots last.slots) fun _ changes => changes = [] :=
    .of_evolves (evolves_releaseSlots hE.calls last.slots) fun _ => rfl
  refine .bind hE released.observed ?_
  rintro ⟨_, seen⟩ changes' rfl
  refine .pure hE ?_
  rw [List.append_nil, List.append_nil]
  exact done.changes

end Session

end DatabaseLogon

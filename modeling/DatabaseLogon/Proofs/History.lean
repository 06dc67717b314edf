import DatabaseLogon.Proofs.Confined

namespace DatabaseLogon

/-!
# The history of a connection

What was done with a connection since it opened, and what came of each of these deeds. The library
may answer anything to any of them, so a history is told without the worlds in between.

* `Deed` — something that was done with a connection, with its result.
* `Connection.History` — one connection comes from another by deeds.
* `ConnectionStep.deeds` — the deeds in a step of a session, those inside transactions included;
  `ConnectionStep.history_performAll` says that they are its history.
* `Connection.run_perform_closed`, `History.eq_of_closed` — nothing can be done with a closed
  connection, and it stays as it is.
-/

/-- Something that was done with a connection. -/
inductive Deed where
  /-- An operation was performed, directly or because a transaction began or ended. -/
  | operated (op : Operation) (result : Except Error Unit)
  /-- A statement was made ready. -/
  | prepared (sql : String)
  /-- A transaction was let go of, neither committed nor rolled back. -/
  | letGo

/-- A connection that opens is not closed, has no transaction and has the settings of its connection
    string. -/
theorem Driver.fresh_of_openDsn {σ : Type} [ClientLibrary σ] {d : Driver} {dsn : Dsn} {w : World σ}
    {c : Connection} (opened : ((d.openDsn dsn).run w).value = .ok c) :
    c.closed = false ∧ c.inTransaction = false ∧ c.settings = dsn.toSettings := by
  obtain ⟨last, -, born⟩ := ascent_of_openDsn (fun _ => ⟨1, Nat.one_pos⟩) opened
  rw [born]
  exact ⟨rfl, rfl, rfl⟩

namespace Connection

variable (σ : Type) [ClientLibrary σ]

/-- The first connection becomes the second one by some deeds, each in a world of its own. -/
inductive History (first : Connection) : List Deed → Connection → Prop
  | fresh : History first [] first
  | operated {deeds : List Deed} {c : Connection} (past : History first deeds c) (op : Operation)
    (w : World σ) :
    History first (deeds ++ [.operated op ((c.perform op).run w).value.1])
      ((c.perform op).run w).value.2
  | prepared {deeds : List Deed} {c : Connection} (past : History first deeds c) (sql : String) :
    History first (deeds ++ [.prepared sql]) c
  | letGo {deeds : List Deed} {c : Connection} (past : History first deeds c) :
    History first (deeds ++ [.letGo]) c

namespace History

variable {σ} {first c last : Connection} {deeds more : List Deed}

/-- A history goes on. -/
theorem trans (past : first.History σ deeds c) (future : c.History σ more last) :
    first.History σ (deeds ++ more) last := by
  induction future with
  | fresh => rwa [List.append_nil]
  | operated _ op w ih =>
    rw [← List.append_assoc]
    exact ih.operated op w
  | prepared _ sql ih =>
    rw [← List.append_assoc]
    exact ih.prepared sql
  | letGo _ ih =>
    rw [← List.append_assoc]
    exact ih.letGo

/-- A connection keeps its number, its handles and its settings through all of its history. -/
theorem later (past : first.History σ deeds c) (laddered : first.Laddered) : first.Later c := by
  induction past with
  | fresh => exact laddered.later
  | @operated deeds c past op w ih =>
    rw [c.perform_after op w]
    exact ih.trans (ih.laddered.later_next op _)
  | prepared _ sql ih => exact ih
  | letGo _ ih => exact ih

end History

variable {σ}

/-- The connections that there can be are those with a history since they were opened. -/
theorem reachable_iff_history {c : Connection} :
    c.Reachable σ ↔ ∃ (d : Driver) (dsn : Dsn) (w : World σ) (first : Connection)
      (deeds : List Deed),
      ((d.openDsn dsn).run w).value = .ok first ∧ first.History σ deeds c := by
  constructor
  · intro reachable
    induction reachable with
    | opened h => exact ⟨_, _, _, _, [], h, .fresh⟩
    | performed h op w ih =>
      obtain ⟨d, dsn, w₀, first, deeds, opened, past⟩ := ih
      exact ⟨d, dsn, w₀, first, _, opened, past.operated op w⟩
  · rintro ⟨d, dsn, w, first, deeds, opened, past⟩
    induction past with
    | fresh => exact .opened opened
    | operated _ op w ih => exact ih.performed op w
    | prepared _ sql ih => exact ih
    | letGo _ ih => exact ih

end Connection

/-! ### Histories in a session -/

/-- What was done to end a transaction. -/
def Ending.deed (ending : Ending) (result : Except Error Unit) : Deed :=
  match ending with
  | .commit => .operated .commit result
  | .rollback => .operated .rollback result
  | .drop => .letGo

mutual

/-- What was done with the connection in a step, given the answer. A transaction that did not begin
    is an attempt to begin one. -/
def ConnectionStep.deeds : ConnectionStep → Answer → List Deed
  | .operate op, .operated result _ _ => [.operated op result]
  | .prepare sql, .prepared _ _ => [.prepared sql]
  | .transaction _ _, .operated result _ _ => [.operated .begin result]
  | .transaction steps ending, .transacted _ _ inside result _ _ =>
    .operated .begin (.ok ()) :: (ConnectionStep.deedsAll steps inside ++ [ending.deed result])
  | _, _ => []

/-- What was done with the connection in some steps. -/
def ConnectionStep.deedsAll : List ConnectionStep → List Answer → List Deed
  | step :: steps, answer :: answers =>
    step.deeds answer ++ ConnectionStep.deedsAll steps answers
  | _, _ => []

end

theorem Ending.history_perform (c : Connection) (ending : Ending) (w : World Script) :
    c.History Script [ending.deed ((ending.perform c).run w).value.1]
      ((ending.perform c).run w).value.2 := by
  cases ending with
  | commit => exact Connection.History.fresh.operated .commit w
  | rollback => exact Connection.History.fresh.operated .rollback w
  | drop => exact Connection.History.fresh.letGo

mutual

/-- The deeds of a step are its history. -/
theorem ConnectionStep.history_perform (c : Connection) : (step : ConnectionStep) →
    (w : World Script) →
    c.History Script (step.deeds ((step.perform c).run w).value.1) ((step.perform c).run w).value.2
  | .operate op, w => by
    rw [ConnectionStep.perform]
    exact Connection.History.fresh.operated op w
  | .prepare sql, w => by
    rw [ConnectionStep.perform]
    exact Connection.History.fresh.prepared sql
  | .info, w => by
    rw [ConnectionStep.perform]
    exact .fresh
  | .adjust change, w => by
    rw [ConnectionStep.perform]
    exact .fresh
  | .transaction steps ending, w => by
    rw [ConnectionStep.perform, Action.run_bind, Action.run_observed]
    have began : c.History Script [.operated .begin (c.begin.run w).value.1]
        (c.begin.run w).value.2 := Connection.History.fresh.operated .begin w
    generalize c.begin.run w = begun at began ⊢
    obtain ⟨⟨result, now⟩, w', seen⟩ := begun
    cases result with
    | error e => exact began
    | ok _ =>
      -- what is done inside comes between the beginning and the end
      have inside := ConnectionStep.history_performAll now steps w'
      simp only [Action.run_bind, Action.run_observed, Action.run_pure]
      generalize (ConnectionStep.performAll now steps).run w' = worked at inside ⊢
      obtain ⟨⟨answers, last⟩, w'', seen'⟩ := worked
      exact (began.trans inside).trans (ending.history_perform last w'')

/-- The deeds of steps are their history. -/
theorem ConnectionStep.history_performAll (c : Connection) : (steps : List ConnectionStep) →
    (w : World Script) →
    c.History Script
      (ConnectionStep.deedsAll steps ((ConnectionStep.performAll c steps).run w).value.1)
      ((ConnectionStep.performAll c steps).run w).value.2
  | [], w => by
    rw [ConnectionStep.performAll]
    exact .fresh
  | step :: steps, w => by
    rw [ConnectionStep.performAll]
    have first := ConnectionStep.history_perform c step w
    simp only [Action.run_bind, Action.run_pure]
    generalize (step.perform c).run w = performed at first ⊢
    obtain ⟨⟨answer, after⟩, w', seen⟩ := performed
    exact first.trans (ConnectionStep.history_performAll after steps w')

end

/-! ### After the end -/

/-- The result of an operation on a closed connection. Closing it again succeeds. -/
def Operation.resultWhenClosed : Operation → Except Error Unit
  | .close => .ok ()
  | .ping | .begin | .commit | .rollback => .error .connectionClosed

namespace Connection

variable {σ : Type} [ClientLibrary σ] {first c last : Connection} {deeds more : List Deed}

/-- An operation on a closed connection is refused without a call. At most the mark of a transaction
    is cleared. -/
theorem run_perform_closed (closed : c.closed = true) (op : Operation) (w : World σ) :
    (c.perform op).run w =
      { value := (op.resultWhenClosed, c.next op op.resultWhenClosed), world := w
        trace := [] } := by
  have refused (now : Connection) (same : now.closed = true)
      (m : Action σ (Except Error Unit × Connection)) :
      (now.whenOpen m).run w =
        { value := (.error .connectionClosed, now), world := w, trace := [] } := by
    rw [whenOpen, if_pos same]
    rfl
  cases op with
  | ping => exact refused c closed _
  | begin =>
    rw [next, if_pos closed]
    exact refused c closed _
  | commit | rollback => exact refused { c with inTransaction := false } closed _
  | close =>
    show c.close.run w = _
    rw [close, if_pos closed, next, if_pos closed]
    rfl

/-- There is no such mark on a closed connection, so an operation does nothing at all. -/
theorem run_perform_of_closed (closed : c.closed = true) (idle : c.inTransaction = false)
    (op : Operation) (w : World σ) :
    (c.perform op).run w = { value := (op.resultWhenClosed, c), world := w, trace := [] } := by
  have cleared : { c with inTransaction := false } = c := by
    rw [← idle]
  have same : c.next op op.resultWhenClosed = c := by
    cases op with
    | ping => rfl
    | begin | close => rw [next, if_pos closed]
    | commit | rollback => exact cleared
  rw [run_perform_closed closed, same]

/-- To close a connection leaves it closed, whatever the result. -/
theorem closed_of_close (c : Connection) (w : World σ) :
    ((c.perform .close).run w).value.2.closed = true := by
  rw [c.perform_after .close w, next]
  by_cases closed : c.closed
  · rw [if_pos closed]
    exact closed
  · rw [if_neg closed]

/-- Apart from closing, no operation changes whether a connection is closed. -/
theorem closed_of_perform {op : Operation} (stays : op ≠ .close) (w : World σ) :
    ((c.perform op).run w).value.2.closed = c.closed := by
  rw [c.perform_after op w]
  cases op with
  | ping | commit | rollback => rfl
  | begin =>
    rw [next]
    split <;> rfl
  | close => exact absurd rfl stays

namespace History

/-- A connection is closed exactly if it was closed some time since it opened. -/
theorem closed_iff (past : first.History σ deeds c) (opened : first.closed = false) :
    c.closed = true ↔ ∃ result, .operated .close result ∈ deeds := by
  induction past with
  | fresh => simp [opened]
  | @operated deeds c past op w ih =>
    by_cases closing : op = .close
    · subst closing
      exact iff_of_true (c.closed_of_close w) ⟨((c.perform .close).run w).value.1, by simp⟩
    · rw [closed_of_perform closing, ih]
      simp [Ne.symm closing]
  | prepared past sql ih => simpa using ih
  | letGo past ih => simpa using ih

/-- A closed connection stays as it is, whatever is done with it. -/
theorem eq_of_closed (future : c.History σ more last) (closed : c.closed = true)
    (idle : c.inTransaction = false) : last = c := by
  induction future with
  | fresh => rfl
  | @operated more last future op w ih =>
    rw [ih, run_perform_of_closed closed idle]
  | prepared future sql ih => exact ih
  | letGo future ih => exact ih

end History

end Connection

end DatabaseLogon

import DatabaseLogon.Proofs.History

namespace DatabaseLogon

/-!
# Transactions

A connection says of itself whether a transaction is open. This module has what it says in terms of
its history: a transaction is open if one has begun and nothing behind the last one that began ended
it. Letting go of a transaction, asking the server whether it answers and making a statement ready
have no part in it.

* `Deed.begins`, `Deed.ends` — the deeds that matter.
* `Underway` — by its deeds, is a transaction open? `underway_concat_iff` is the rule for one more
  deed.
* `Connection.Laddered.inTransaction_perform`, `Connection.History.inTransaction_iff` — one
  operation, and a whole history.
* `Connection.inTransaction_iff_underway` — what connections say, those with transactions inside
  transactions included.
-/

/-! ### What deeds tell -/

/-- Did a transaction begin? -/
def Deed.begins : Deed → Bool
  | .operated .begin (.ok _) => true
  | _ => false

/-- Is there no transaction behind this deed? A commit, a rollback and a closing end it even if they
    fail, and so does the failure to begin another one. -/
def Deed.ends : Deed → Bool
  | .operated .begin (.error _) => true
  | .operated .commit _ | .operated .rollback _ | .operated .close _ => true
  | _ => false

/-- A transaction has begun, and nothing behind the last one that began ended it. -/
def Underway (deeds : List Deed) : Prop :=
  ∃ before beginning after, deeds = before ++ beginning :: after ∧ beginning.begins = true ∧
    ∀ deed ∈ after, deed.begins = false ∧ deed.ends = false

theorem not_underway_nil : ¬ Underway [] := by
  rintro ⟨before, beginning, after, absurd, -⟩
  cases before <;> cases absurd

/-- The last deed decides, unless it neither begins nor ends a transaction. -/
theorem underway_concat_iff (deeds : List Deed) (last : Deed) :
    Underway (deeds ++ [last]) ↔
      last.begins = true ∨ (Underway deeds ∧ last.ends = false) := by
  constructor
  · rintro ⟨before, beginning, after, same, begins, quiet⟩
    rcases List.eq_nil_or_concat after with rfl | ⟨others, x, rfl⟩
    · obtain ⟨-, there⟩ := List.append_inj' same rfl
      obtain rfl := List.singleton_inj.mp there
      exact .inl begins
    · rw [List.concat_eq_append, ← List.cons_append, ← List.append_assoc] at same
      obtain ⟨rfl, there⟩ := List.append_inj' same rfl
      obtain rfl := List.singleton_inj.mp there
      have quiet' : ∀ deed ∈ others, deed.begins = false ∧ deed.ends = false :=
        fun deed hdeed => quiet deed (by simp [hdeed])
      exact .inr ⟨⟨before, beginning, others, rfl, begins, quiet'⟩, (quiet last (by simp)).2⟩
  · intro h
    by_cases begins : last.begins
    · exact ⟨deeds, last, [], rfl, begins, by simp⟩
    · rcases h with h | ⟨⟨before, beginning, after, rfl, began, quiet⟩, stays⟩
      · exact absurd h begins
      · refine ⟨before, beginning, after ++ [last], by simp, began, ?_⟩
        intro deed hdeed
        rcases List.mem_append.mp hdeed with hdeed | hdeed
        · exact quiet deed hdeed
        · obtain rfl := List.mem_singleton.mp hdeed
          exact ⟨Bool.eq_false_iff.mpr begins, stays⟩

/-! ### What connections say -/

namespace Connection

variable {σ : Type} [ClientLibrary σ] {first c : Connection} {deeds : List Deed}

/-- **One operation** leaves a transaction open exactly if it began one, or if one was open and the
    operation did not end it. -/
theorem Laddered.inTransaction_perform (laddered : c.Laddered) (op : Operation) (w : World σ) :
    ((c.perform op).run w).value.2.inTransaction = true ↔
      (Deed.operated op ((c.perform op).run w).value.1).begins = true ∨
        (c.inTransaction = true ∧
          (Deed.operated op ((c.perform op).run w).value.1).ends = false) := by
  by_cases closed : c.closed
  · -- a closed connection has no transaction and cannot begin one
    have idle := (laddered.closed closed).2
    rw [run_perform_of_closed closed idle]
    cases op <;> simp [idle, Deed.begins, Operation.resultWhenClosed]
  · rw [c.perform_after op w]
    generalize ((c.perform op).run w).value.1 = result
    cases op with
    | ping => simp [Connection.next, Deed.begins, Deed.ends]
    | begin =>
      cases result <;> simp [Connection.next, closed, Except.toBool, Deed.begins, Deed.ends]
    | commit | rollback | close => simp [Connection.next, closed, Deed.begins, Deed.ends]

/-- **A transaction is open** exactly if it is underway by the history. -/
theorem History.inTransaction_iff (past : first.History σ deeds c) (laddered : first.Laddered)
    (idle : first.inTransaction = false) : c.inTransaction = true ↔ Underway deeds := by
  induction past with
  | fresh => simp [idle, not_underway_nil]
  | @operated deeds c past op w ih =>
    rw [(past.later laddered).laddered.inTransaction_perform op w, underway_concat_iff, ih]
  | prepared past sql ih => simpa [underway_concat_iff, Deed.begins, Deed.ends] using ih
  | letGo past ih => simpa [underway_concat_iff, Deed.begins, Deed.ends] using ih

/-- **A connection is in a transaction exactly if one is underway** by what was done since it
    opened, whatever the library answered and however transactions were nested. A closed one never
    is. To ask whether the server answers, to let go of a transaction and to make a statement ready
    leave the connection as it is. -/
theorem inTransaction_iff_underway :
    (∀ {σ : Type} [ClientLibrary σ] {d : Driver} {dsn : Dsn} {w : World σ} {first : Connection},
      ((d.openDsn dsn).run w).value = .ok first → ∀ deeds c, first.History σ deeds c →
        (c.inTransaction = true ↔ Underway deeds) ∧
          (c.closed = true → c.inTransaction = false)) ∧
    (∀ {d : Driver} {dsn : Dsn} {w : World Script} {first : Connection},
      ((d.openDsn dsn).run w).value = .ok first →
      ∀ (steps : List ConnectionStep) (w' : World Script),
        let performed := ((ConnectionStep.performAll first steps).run w').value
        performed.2.inTransaction = true ↔
          Underway (ConnectionStep.deedsAll steps performed.1)) ∧
    (∀ {σ : Type} [ClientLibrary σ] (c : Connection) (w : World σ),
      ((c.perform .ping).run w).value.2 = c) ∧
    ∀ (c : Connection) (w : World Script),
      (Ending.drop.perform c).run w = { value := (.ok (), c), world := w, trace := [] } ∧
        ∀ sql, (((ConnectionStep.prepare sql).perform c).run w).value.2 = c := by
  have told {σ : Type} [ClientLibrary σ] {d : Driver} {dsn : Dsn} {w : World σ}
      {first c : Connection} {deeds : List Deed}
      (opened : ((d.openDsn dsn).run w).value = .ok first)
      (past : first.History σ deeds c) :
      (c.inTransaction = true ↔ Underway deeds) ∧
        (c.closed = true → c.inTransaction = false) := by
    have laddered := Driver.laddered_of_openDsn opened
    obtain ⟨-, idle, -⟩ := Driver.fresh_of_openDsn opened
    exact ⟨past.inTransaction_iff laddered idle,
      fun closed => ((past.later laddered).laddered.closed closed).2⟩
  refine ⟨fun opened deeds c past => told opened past, ?_, ?_, ?_⟩
  · intro d dsn w first opened steps w'
    exact (told opened (ConnectionStep.history_performAll first steps w')).1
  · intro σ _ c w
    rw [c.perform_after .ping w]
    rfl
  · intro c w
    refine ⟨rfl, fun sql => ?_⟩
    rw [ConnectionStep.perform]
    rfl

/-- Transactions inside a transaction. The first one inside is committed, the second one is let go
    of together with the one around it, and then the server does not answer. -/
theorem inTransaction_iff_underway_nested :
    let steps : List ConnectionStep :=
      [.transaction [.transaction [] .commit, .prepare "?", .transaction [] .drop] .drop,
        .operate .ping]
    let w : World Script := ⟨{ Script.empty with rules := [⟨.ping, none, -1, none, none⟩] }, 0⟩
    ∃ first, ((Driver.standard.openDsn .empty).run ⟨Script.empty, 0⟩).value = .ok first ∧
      let performed := ((ConnectionStep.performAll first steps).run w).value
      performed.2.inTransaction = true ∧
        Underway (ConnectionStep.deedsAll steps performed.1) := by
  intro steps w
  have look : (((Driver.standard.openDsn .empty).run ⟨Script.empty, 0⟩).value.toOption.map
      fun c => ((ConnectionStep.performAll c steps).run w).value.2.inTransaction) = some true := by
    decide +kernel
  cases opened : ((Driver.standard.openDsn .empty).run ⟨Script.empty, 0⟩).value with
  | error e =>
    rw [opened] at look
    cases look
  | ok first =>
    rw [opened] at look
    have open_ := Option.some.inj look
    exact ⟨first, rfl, open_, (inTransaction_iff_underway.2.1 opened steps w).mp open_⟩

end Connection

end DatabaseLogon

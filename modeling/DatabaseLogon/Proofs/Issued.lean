import DatabaseLogon.Proofs.Holdings
import DatabaseLogon.Proofs.Sessions
import Mathlib.Data.List.Pairwise

namespace DatabaseLogon

/-!
# What becomes of the handles that are issued

A handle that the client library writes belongs to a connection, which gives it back, or it is an
environment that came with a failure, which is freed at once. There is one gap. An allocation and a
logon that fail by their return code may have written a handle all the same. Nobody looks at it, so
it is never given back.

* `Call.givesBack`, `Call.loses` — the calls that give a handle back, and those that lose the one
  that they wrote.
* `CallLog.Returned` — every handle that was written has been given back exactly once, but for those
  that are kept and those that were lost.
* `Ledger.returned` — it follows from the books, for the handles that are issued are distinct
  (`course_issuing`).
* `Session.handles_returned` — it holds at every moment of a session; in the end nothing is kept.
-/

namespace Call

/-- Does a call give this handle back? Handles are freed, and service contexts from a logon are
    logged off. -/
def givesBack (h : Handle) (c : Call) : Bool :=
  c.frees h || c.logsOff h

/-- Does a call lose the handle that it wrote, if it wrote any? An allocation does, and a logon, if
    the return code means failure. -/
def loses (c : Call) (r : Reply) : Bool :=
  match c with
  | .handleAlloc .. | .logon .. => !c.accepts r.code
  | _ => false

end Call

/-- Of the handles that were written in a log exactly the lost ones and those in `kept` have not
    been given back, and all others have been exactly once. -/
def CallLog.Returned (log : CallLog) (kept : List Handle) : Prop :=
  ∀ e ∈ log, e.1.entryPoint.producesHandle → ∀ h, e.2.handle = some h →
    log.countP (fun later => later.1.givesBack h) = if e.1.loses e.2 ∨ h ∈ kept then 0 else 1

/-! ### Handles that are issued -/

/-- The handles that the calls of a log wrote, in order. -/
def CallLog.written (log : CallLog) : List Handle :=
  log.filterMap fun e => e.2.handle

theorem CallLog.written_singleton (e : Call × Reply) : written [e] = e.2.handle.toList := by
  show List.filterMap (fun e => e.2.handle) [e] = _
  cases h : e.2.handle <;> simp [h]

/-- The handles that calls write are those that the library issues meanwhile, in order. -/
def Issuing (w : World Script) (log : CallLog) (w' : World Script) : Prop :=
  ∃ n, w'.library.issued = w.library.issued + n ∧
    log.written = (List.range' w.library.issued n).map Script.handle

namespace Issuing

variable {w w' w'' : World Script} {a b : CallLog}

/-- Without a call no handle is issued. -/
theorem nil (same : w'.library.issued = w.library.issued) : Issuing w [] w' :=
  ⟨0, same, rfl⟩

theorem append (first : Issuing w a w') (second : Issuing w' b w'') : Issuing w (a ++ b) w'' := by
  obtain ⟨m, issued, written⟩ := first
  obtain ⟨n, issued', written'⟩ := second
  refine ⟨m + n, by rw [issued', issued, Nat.add_assoc], ?_⟩
  rw [issued] at written'
  show List.filterMap _ (a ++ b) = _
  rw [List.filterMap_append, ← List.range'_append_1, List.map_append, ← written, ← written']
  rfl

theorem call (w : World Script) (c : Call) : Issuing w [(c, w.reply c)] (w.after c) := by
  have written : CallLog.written [(c, w.reply c)] = (Script.answer c w.library).1.handle.toList :=
    CallLog.written_singleton _
  rcases Script.answer_cases c w.library with ⟨handle, issued⟩ | ⟨handle, issued⟩
  · rw [handle] at written
    exact ⟨0, issued, written⟩
  · rw [handle] at written
    exact ⟨1, issued, written⟩

/-- No handle is written twice. -/
theorem nodup (h : Issuing w a w') : a.written.Nodup := by
  obtain ⟨n, -, written⟩ := h
  rw [written]
  exact List.Nodup.map (fun _ _ => Script.handle_injective) List.nodup_range'

end Issuing

theorem course_issuing : Course fun w log _ w' => Issuing w log w' where
  calls := .of_calls (fun _ _ => .nil rfl) .append .call
  adjust _ change := .nil (by cases change <;> rfl)
  append := .append

/-- Two calls that wrote the same handle are the same one. -/
theorem CallLog.eq_of_written {log : CallLog} (distinct : log.written.Nodup) {e e' : Call × Reply}
    {h : Handle} (he : e ∈ log) (he' : e' ∈ log) (written : e.2.handle = some h)
    (written' : e'.2.handle = some h) : e = e' := by
  have pairs : log.Pairwise fun e e' => ∀ h, e.2.handle = some h → e'.2.handle ≠ some h := by
    refine (List.pairwise_filterMap.mp distinct).imp ?_
    intro e e' differ h written written'
    exact differ h written h written' rfl
  have symm : Std.Symm fun e e' : Call × Reply =>
      ∀ h, e.2.handle = some h → e'.2.handle ≠ some h :=
    ⟨fun e e' differ h written' written => differ h written written'⟩
  apply Decidable.byContradiction
  intro other
  exact pairs.forall he he' other h written written'

/-! ### Handles that are given back -/

namespace Call

variable {c : Call} {r : Reply} {res : Resource} {h : Handle}

/-- A handle that was written and not lost is that of a resource, which the call acquired or left
    behind. -/
theorem exists_of_not_loses (produces : c.entryPoint.producesHandle) (written : r.handle = some h)
    (kept : ¬ c.loses r) :
    ∃ res, (c.acquires? r = some res ∨ c.leaves? r = some res) ∧ res.title = .owned h := by
  cases c with
  | envCreate mode =>
    -- a code that means success makes it a resource that is acquired, another one an orphan
    by_cases accepted : (envCreate mode).accepts r.code
    · exact ⟨.handle h .environment,
        .inl (by simp [acquires?, succeeds, accepted, written, resource?]), rfl⟩
    · exact ⟨.handle h .environment, .inr (by simp [leaves?, accepted, written]), rfl⟩
  | handleAlloc parent kind =>
    have accepted : (handleAlloc parent kind).accepts r.code := by simpa [loses] using kept
    exact ⟨.handle h kind, .inl (by simp [acquires?, succeeds, accepted, written, resource?]), rfl⟩
  | logon environment error username password link =>
    have accepted : (logon environment error username password link).accepts r.code := by
      simpa [loses] using kept
    exact ⟨.logon h error, .inl (by simp [acquires?, succeeds, accepted, written, resource?]), rfl⟩
  | _ => cases produces

/-- The handle of a resource that a call acquired or left behind was written and not lost. -/
theorem written_of_title (gained : c.acquires? r = some res ∨ c.leaves? r = some res)
    (title : res.title = .owned h) : r.handle = some h ∧ ¬ c.loses r := by
  rcases gained with acquires | leaves
  · obtain ⟨kind, produced⟩ := Ledger.produces?_of_acquires? acquires title
    obtain ⟨succeeds, -, written⟩ := written_of_produces? produced
    rw [Call.succeeds, Bool.and_eq_true] at succeeds
    have accepted := succeeds.1
    refine ⟨written, ?_⟩
    cases c <;> simp [loses, accepted]
  · cases c with
    | envCreate mode =>
      rw [leaves?] at leaves
      split at leaves
      · cases leaves
      · obtain ⟨h', written, rfl⟩ := Option.map_eq_some_iff.mp leaves
        cases title
        exact ⟨written, by simp [loses]⟩
    | _ => cases leaves

end Call

namespace CallLog

variable {log : CallLog} {h : Handle}

/-- The calls that give a handle back are counted by the resources that own it. -/
theorem countP_givesBack (log : CallLog) (h : Handle) :
    log.countP (fun e => e.1.givesBack h) = (owned log.released).count h := by
  induction log with
  | nil => rfl
  | cons e log ih =>
    have first : (owned e.1.releases?.toList).count h = if e.1.givesBack h then 1 else 0 := by
      obtain ⟨c, r⟩ := e
      cases c with
      | handleFree h' kind =>
        show [h'].count h = if (decide (h' = h) || false) then 1 else 0
        rw [List.count_singleton, Bool.or_false]
        rfl
      | logoff h' error =>
        show [h'].count h = if (false || decide (h' = h)) then 1 else 0
        rw [List.count_singleton, Bool.false_or]
        rfl
      | _ => rfl
    rw [List.countP_cons, ih, released_cons, owned_append, List.count_append, first, Nat.add_comm]

/-- What was acquired or left behind owns exactly the handles that were written and not lost. -/
theorem mem_owned_iff (distinct : log.written.Nodup) {e : Call × Reply} (he : e ∈ log)
    (produces : e.1.entryPoint.producesHandle) (written : e.2.handle = some h) :
    h ∈ owned (log.acquired ++ log.orphaned) ↔ ¬ e.1.loses e.2 := by
  constructor
  · intro mem
    obtain ⟨res, gained, title⟩ := mem_owned.mp mem
    have source : ∃ e' ∈ log, e'.1.acquires? e'.2 = some res ∨ e'.1.leaves? e'.2 = some res := by
      rcases List.mem_append.mp gained with gained | gained
      · obtain ⟨e', he', acquires⟩ := List.mem_filterMap.mp gained
        exact ⟨e', he', .inl acquires⟩
      · obtain ⟨e', he', leaves⟩ := List.mem_filterMap.mp gained
        exact ⟨e', he', .inr leaves⟩
    obtain ⟨e', he', gained⟩ := source
    obtain ⟨written', kept⟩ := Call.written_of_title gained title
    rwa [eq_of_written distinct he he' written written']
  · intro kept
    obtain ⟨res, gained, title⟩ := Call.exists_of_not_loses produces written kept
    refine mem_owned.mpr ⟨res, List.mem_append.mpr (gained.imp ?_ ?_), title⟩
    · exact fun acquires => List.mem_filterMap.mpr ⟨e, he, acquires⟩
    · exact fun leaves => List.mem_filterMap.mpr ⟨e, he, leaves⟩

end CallLog

/-- Where every title occurs once, every handle is owned once. -/
theorem nodup_owned {rs : List Resource} (distinct : (rs.map Resource.title).Nodup) :
    (owned rs).Nodup := by
  refine List.pairwise_filterMap.mpr ((List.pairwise_map.mp distinct).imp ?_)
  intro res res' differ h owner h' owner' same
  apply differ
  cases title : res.title with
  | bound kind h =>
    rw [title] at owner
    cases owner
  | owned h =>
    cases title' : res'.title with
    | bound kind h =>
      rw [title'] at owner'
      cases owner'
    | owned h' =>
      rw [title] at owner
      rw [title'] at owner'
      rw [Option.some.inj owner, Option.some.inj owner', same]

/-- **What the books say of handles.** Those that are owned by something live are kept, and the
    others have been given back, unless they were lost. -/
theorem Ledger.returned {past : CallLog} {issued : Nat} {live : List Resource}
    (ledger : Ledger past issued live) (distinct : past.written.Nodup) :
    past.Returned (owned live) := by
  intro e he produces h written
  have balance : (owned (past.acquired ++ past.orphaned)).Perm
      (owned live ++ owned past.released) := by
    rw [← owned_append]
    exact ledger.balance.filterMap _
  have once : (owned live ++ owned past.released).Nodup := by
    rw [← owned_append]
    exact nodup_owned ledger.nodup_titles
  -- a handle that was not lost is owned by something live or by something that was given back
  have mem : h ∈ owned live ++ owned past.released ↔ ¬ e.1.loses e.2 := by
    rw [← balance.mem_iff, CallLog.mem_owned_iff distinct he produces written]
  have total : (owned live).count h + (owned past.released).count h
      = if h ∈ owned live ++ owned past.released then 1 else 0 := by
    rw [← List.count_append, once.count]
  have kept : (owned live).count h = if h ∈ owned live then 1 else 0 :=
    (List.nodup_append.mp once).1.count
  rw [CallLog.countP_givesBack]
  by_cases lost : e.1.loses e.2
  · rw [if_neg fun owned => mem.mp owned lost] at total
    rw [if_pos (.inl lost)]
    omega
  · rw [if_pos (mem.mpr lost)] at total
    by_cases live : h ∈ owned live
    · rw [if_pos live] at kept
      rw [if_pos (.inr live)]
      omega
    · rw [if_neg live] at kept
      rw [if_neg (not_or.mpr ⟨lost, live⟩)]
      omega

/-! ### Sessions -/

namespace Slots

/-- The connections that are open. -/
def opened (s : Slots) : Slots :=
  s.filter fun e => !e.2.closed

/-- If the closed connections own nothing, everything is owned by open ones. -/
theorem held_opened {s : Slots} (h : ∀ e ∈ s, e.2.closed → e.2.held = []) :
    s.opened.held = s.held := by
  induction s with
  | nil => rfl
  | cons e rest ih =>
    have others := ih fun e' he' => h e' (List.mem_cons_of_mem _ he')
    rw [held_cons]
    by_cases closed : e.2.closed
    · rw [h e List.mem_cons_self closed, opened, List.filter_cons_of_neg (by simp [closed])]
      exact others
    · rw [opened, List.filter_cons_of_pos (by simp [closed]), held_cons, ← others]
      rfl

end Slots

namespace Session

/-- **At every moment of a session** the handles that open connections own are kept, those that an
    allocation or a logon wrote along with its failure are lost, and all others have been given back
    exactly once. When all connections are dropped no handle is kept. A moment inside a transaction
    is one behind the transaction, if it is let go of there. -/
theorem handles_returned (driver : Driver) (steps : List Step) (w : World Script) :
    CallLog.Returned (((fresh driver).performAll steps).run w).trace.calls
        (owned (((fresh driver).performAll steps).run w).value.2.slots.opened.held) ∧
      CallLog.Returned (((fresh driver).run steps).run w).trace.calls [] := by
  have sound : Slots.Sound [] := ⟨.nil, List.forall_mem_nil _⟩
  constructor
  · obtain ⟨changes, done, issuing⟩ :=
      proceeds_performAll (s := fresh driver) course_issuing (List.forall_mem_nil _) steps w
    obtain ⟨live, ⟨-, perm⟩, ledger⟩ :=
      keeps_performAll (s := fresh driver) sound steps [] w (.nil _)
    rw [Slots.held_opened fun e he closed => ((done.after e he).laddered.closed closed).1]
    exact (ledger.perm perm).returned issuing.nodup
  · obtain ⟨-, -, issuing⟩ := proceeds_run course_issuing driver steps w
    obtain ⟨live, rfl, ledger⟩ := keeps_run (s := fresh driver) sound steps [] w (.nil _)
    exact ledger.returned issuing.nodup

/-- An error handle that is written with a remark is lost: the connection does not open, and the
    handle is never given back. -/
theorem handle_lost :
    let script : Script :=
      { rules := [⟨.handleAlloc, some 2, 1, none, none⟩], records := [], issued := 0 }
    let steps := [.openBuilt 0 [.username "scott", .password "tiger", .connect "db"]]
    let calls := (((fresh .standard).run steps).run ⟨script, 0⟩).trace.calls
    calls.map (fun e => (e.1, e.2.handle)) =
        [(.envCreate 1, some (Script.handle 0)),
          (.handleAlloc (Script.handle 0) .error, some (Script.handle 1)),
          (.handleFree (Script.handle 0) .environment, none)] ∧
      calls.countP (fun e => e.1.givesBack (Script.handle 1)) = 0 := by
  decide +kernel

end Session

end DatabaseLogon

import DatabaseLogon.Proofs.Ledger
import DatabaseLogon.Proofs.Unwinding
import DatabaseLogon.Session.Step

namespace DatabaseLogon

/-!
# Actions that keep the books

The ledger is kept along with every action on a scripted library.

* `Script.issued_le_answer`, `Script.eq_handle_of_answer` — the handles that a scripted library
  issues are new.
* `Ledger.fail`, `Attempt.ledger` — what an attempt does to the books.
* `Grounded` — what resources need to be given back is owned by themselves or by older ones.
* `Keeps` — an action keeps the books, and what is live afterwards is as told; with its rules.
* `keeps_releaseAll` — giving all back leaves nothing of it live.
-/

/-! ### What a scripted library issues -/

namespace Script

theorem handle_injective {m n : Nat} (h : handle m = handle n) : m = n := by
  have tokens := congrArg Handle.token h
  simp only [handle] at tokens
  omega

/-- An answer writes no handle, or it writes the next one to be issued. -/
theorem answer_cases (c : Call) (s : Script) :
    ((answer c s).1.handle = none ∧ (answer c s).2.issued = s.issued) ∨
      (answer c s).1.handle = some (handle s.issued) ∧ (answer c s).2.issued = s.issued + 1 := by
  have follows : ((s.follow c).1.handle = none ∧ (s.follow c).2.issued = s.issued) ∨
      (s.follow c).1.handle = some (handle s.issued) ∧ (s.follow c).2.issued = s.issued + 1 := by
    unfold follow
    dsimp only
    split
    · exact .inr ⟨rfl, rfl⟩
    · exact .inl ⟨rfl, rfl⟩
  cases c with
  | errorGet error =>
    show (s.readRecord.1.handle = none ∧ s.readRecord.2.issued = s.issued) ∨ _
    unfold readRecord
    cases s.records <;> exact .inl ⟨rfl, rfl⟩
  | _ => exact follows

/-- The number of handles issued never falls. -/
theorem issued_le_answer (c : Call) (s : Script) : s.issued ≤ (answer c s).2.issued := by
  rcases answer_cases c s with ⟨-, issued⟩ | ⟨-, issued⟩ <;> omega

/-- A handle in an answer is the next one to be issued. -/
theorem eq_handle_of_answer {c : Call} {s : Script} {h : Handle}
    (written : (answer c s).1.handle = some h) :
    h = handle s.issued ∧ (answer c s).2.issued = s.issued + 1 := by
  rcases answer_cases c s with ⟨none, -⟩ | ⟨next, issued⟩
  · rw [none] at written
    cases written
  · rw [next] at written
    exact ⟨(Option.some.inj written).symm, issued⟩

end Script

section Worlds

variable {w w' : World Script} {c : Call} {past rest : CallLog} {live live' : List Resource}

theorem World.issued_le_after (w : World Script) (c : Call) :
    w.library.issued ≤ (w.after c).library.issued :=
  Script.issued_le_answer c w.library

/-- A handle in a reply has no title yet, and counts as issued afterwards. -/
theorem Ledger.fresh (ledger : Ledger past w.library.issued live) {h : Handle}
    (written : (w.reply c).handle = some h) {t : Title} (about : t.handle = h) :
    t ∉ past.titles ∧ ∃ n < (w.after c).library.issued, t.handle = Script.handle n := by
  obtain ⟨next, issued⟩ := Script.eq_handle_of_answer written
  refine ⟨fun mem => ?_, w.library.issued, ?_, about.trans next⟩
  -- a title on record is about an older handle
  · obtain ⟨n, hn, eq⟩ := ledger.issued t mem
    rw [about, next] at eq
    exact absurd (Script.handle_injective eq) (Nat.ne_of_gt hn)
  · show w.library.issued < (Script.answer c w.library).2.issued
    omega

/-! ### Attempts and the books -/

/-- The aftermath of a call that left nothing behind only uses its error handle. -/
theorem Ledger.aftermath {r : Reply} (ledger : Ledger past w.library.issued live)
    (error : ∀ h ∈ c.error?, h ∈ owned live) (leaves : c.leaves? r = none)
    (aftermath : Aftermath c r w rest w') : Ledger (past ++ rest) w'.library.issued live := by
  cases aftermath with
  | nothing _ _ =>
    rw [List.append_nil]
    exact ledger
  | reading h owes _ =>
    refine ledger.pass ?_ rfl (Call.acquires?_eq_none_of_descends rfl _) rfl (w.issued_le_after _)
    intro h' hh'
    rw [List.mem_singleton.mp hh']
    exact error h ((Call.owes?_eq_some_iff.mp owes).2)
  | discarding h left =>
    rw [leaves] at left
    cases left

/-- A call that fails leaves what is live as it is, and so does its aftermath. -/
theorem Ledger.fail (ledger : Ledger past w.library.issued live)
    (handles : ∀ h ∈ c.handles, h ∈ owned live) (releases : c.releases? = none)
    (fails : ¬ c.succeeds (w.reply c))
    (aftermath : Aftermath c (w.reply c) (w.after c) rest w') :
    Ledger (past ++ (c, w.reply c) :: rest) w'.library.issued live := by
  -- either the failure leaves nothing behind, and the aftermath is a reading at most, or it leaves
  -- an environment behind, and the aftermath frees it
  cases leaves : c.leaves? (w.reply c) with
  | none =>
    have passed := ledger.pass handles releases (Call.acquires?_eq_none_of_not_succeeds fails)
      leaves (w.issued_le_after c)
    have after := passed.aftermath (fun h hh => handles h (Call.mem_handles_of_error? hh)) leaves
      aftermath
    rwa [List.append_assoc] at after
  | some res =>
    cases aftermath with
    | nothing none _ => rw [leaves] at none; cases none
    | reading _ _ none => rw [leaves] at none; cases none
    | discarding h left =>
      obtain ⟨fresh, n, hn, eq⟩ := ledger.fresh (Call.handle_of_leaves? left) (t := .owned h) rfl
      have le := World.issued_le_after (w.after c) (.handleFree h .environment)
      exact ledger.discard left fresh ⟨n, Nat.lt_of_lt_of_le hn le, eq⟩
        (Nat.le_trans (w.issued_le_after c) le)

end Worlds

/-! ### Actions that keep the books -/

variable {α β : Type} {live : List Resource}

/-- From books in which `live` is live, an action leads to books in which something is live that
    stands in the relation `post` to the value of the action. -/
def Keeps (m : Action Script α) (live : List Resource) (post : α → List Resource → Prop) : Prop :=
  ∀ (past : CallLog) (w : World Script), Ledger past w.library.issued live →
    ∃ live', post (m.run w).value live' ∧
      Ledger (past ++ (m.run w).trace.calls) (m.run w).world.library.issued live'

namespace Keeps

/-- An action without calls leaves the books as they are. -/
theorem of_quiet {m : Action Script α} {a : α} {post : α → List Resource → Prop} (hm : m.Quiet a)
    (h : post a live) : Keeps m live post := by
  intro past w ledger
  rw [hm.value, hm.calls, hm.world, List.append_nil]
  exact ⟨live, h, ledger⟩

theorem pure {a : α} {post : α → List Resource → Prop} (h : post a live) :
    Keeps (Pure.pure a) live post :=
  of_quiet (.pure a) h

theorem log (e : Event) : Keeps (Action.log e) live fun _ live' => live' = live :=
  of_quiet (.log e) rfl

/-- One action after another: what is live in between is passed on. -/
theorem bind {m : Action Script α} {f : α → Action Script β} {mid : α → List Resource → Prop}
    {post : β → List Resource → Prop} (hm : Keeps m live mid)
    (hf : ∀ a live', mid a live' → Keeps (f a) live' post) : Keeps (m >>= f) live post := by
  intro past w ledger
  obtain ⟨live', hmid, ledger'⟩ := hm past w ledger
  obtain ⟨live'', hpost, ledger''⟩ := hf _ live' hmid _ _ ledger'
  rw [Action.run_bind]
  refine ⟨live'', hpost, ?_⟩
  rw [Trace.calls_append, ← List.append_assoc]
  exact ledger''

/-- The order of what is live does not matter. -/
theorem of_perm {m : Action Script α} {live' : List Resource} {post : α → List Resource → Prop}
    (h : live.Perm live') (hm : Keeps m live' post) : Keeps m live post := by
  intro past w ledger
  exact hm past w (ledger.perm h)

/-- What is observed of an action makes no difference. -/
theorem observed {m : Action Script α} {post : α → List Resource → Prop} (hm : Keeps m live post) :
    Keeps (Action.observed m) live fun a live' => post a.1 live' := by
  intro past w ledger
  exact hm past w ledger

/-- What is done beside a task without a call leaves the books to the task. -/
theorem beside {task : Action Script Unit} {m : Action Script α} {a : α}
    {post : List Resource → Prop} (kept : Keeps task live fun _ live' => post live')
    (quiet : m.Quiet a) (entries : Nat) :
    Keeps (task.beside entries m) live fun b live' => b = a ∧ post live' := by
  intro past w ledger
  obtain ⟨value, world, calls⟩ := quiet.beside task entries w
  obtain ⟨live', hpost, ledger'⟩ := kept past w ledger
  rw [value, world, calls]
  exact ⟨live', ⟨rfl, hpost⟩, ledger'⟩

/-- A change of the script issues no handle. -/
theorem adjust (change : Adjustment) :
    Keeps (Action.modifyLibrary (·.adjust change)) live fun _ live' => live' = live := by
  intro past w ledger
  refine ⟨live, rfl, ?_⟩
  have issued : (w.library.adjust change).issued = w.library.issued := by
    cases change <;> rfl
  rw [Action.run_modifyLibrary, Trace.calls_nil, List.append_nil]
  show Ledger past (w.library.adjust change).issued live
  rw [issued]
  exact ledger

/-- An attempt of a call that is there neither to acquire nor to give back. -/
theorem of_attempt {ε : Type} {m : Action Script (Except ε α)} {c : Call}
    {yields : Reply → α → Prop} {blames : Reply → CallLog → ε → Prop}
    (hm : ∀ w, Attempt c yields blames w (m.run w))
    (handles : ∀ h ∈ c.handles, h ∈ owned live) (releases : c.releases? = none)
    (acquires : ∀ h, c.resource? h = none) : Keeps m live fun _ live' => live' = live := by
  intro past w ledger
  refine ⟨live, rfl, ?_⟩
  cases hm w with
  | success a value succeeds yields calls world =>
    rw [calls, world]
    refine ledger.pass handles releases ?_ (Call.leaves?_eq_none_of_succeeds succeeds)
      (w.issued_le_after c)
    rw [Call.acquires?_of_succeeds succeeds, acquires]
  | failure e rest value fails calls aftermath blame =>
    rw [calls]
    exact ledger.fail handles releases fails aftermath

end Keeps

/-! ### Giving back -/

/-- What it takes to give resources back, the newest first: the handles that this passes are owned
    by the resource itself or by older ones, its error handle by older ones. -/
def Grounded : List Resource → Prop
  | [] => True
  | r :: rest =>
    (∀ h ∈ r.giveBack.handles, h ∈ owned (r :: rest)) ∧
      (∀ error ∈ r.giveBack.error?, error ∈ owned rest) ∧ Grounded rest

/-- Giving the newest resource back leaves the others live. -/
theorem keeps_release {r : Resource} {rest : List Resource} (grounded : Grounded (r :: rest))
    (others : List Resource) :
    Keeps r.release (r :: rest ++ others) fun _ live' => live' = rest ++ others := by
  intro past w ledger
  obtain ⟨handles, error, -⟩ := grounded
  have given : Ledger (past ++ [(r.giveBack, w.reply r.giveBack)])
      (w.after r.giveBack).library.issued (rest ++ others) := by
    -- the resource counts as given back whatever the library answers
    refine ledger.giveBack (fun h hh => ?_) (w.issued_le_after _)
    show h ∈ owned (r :: rest ++ others)
    rw [owned_append]
    exact List.mem_append_left _ (handles h hh)
  refine ⟨rest ++ others, rfl, ?_⟩
  cases r.attempt_release w with
  | success a value succeeds yields calls world =>
    rw [calls, world]
    exact given
  | failure e reading value fails calls aftermath blame =>
    -- to read the diagnostic takes an error handle that is still live
    have after := given.aftermath (fun h hh => ?_) (Resource.leaves?_giveBack _ _) aftermath
    · rw [calls]
      rwa [List.append_assoc] at after
    · rw [owned_append]
      exact List.mem_append_left _ (error h hh)

/-- Giving everything back leaves nothing of it owned, and nothing of it live. -/
theorem keeps_releaseAll {held : List Resource} (grounded : Grounded held)
    (others : List Resource) :
    Keeps (releaseAll held) (held ++ others) fun p live' => p.2 = [] ∧ live' = others := by
  induction held with
  | nil => exact .pure ⟨rfl, rfl⟩
  | cons r rest ih =>
    intro past w ledger
    obtain ⟨live', rfl, released⟩ := keeps_release grounded others past w ledger
    obtain ⟨live', ⟨-, rfl⟩, finished⟩ := ih grounded.2.2 _ _ released
    obtain ⟨world, calls⟩ := run_releaseAll_cons r rest w
    rw [world, calls, ← List.append_assoc]
    exact ⟨_, ⟨releaseAll_left _ _, rfl⟩, finished⟩

end DatabaseLogon

import DatabaseLogon.Proofs.Confined
import DatabaseLogon.Proofs.Issued
import DatabaseLogon.Proofs.Timeout

namespace DatabaseLogon

/-!
# Connections do not interfere

All connections of a session share one library. Still, what is done with one of them leaves the
others alone: no handle belongs to two of them, no call passes a handle of another one, and the
slots of the others stay as they are.

* `IssuedMeanwhile` — the handles that are issued between two worlds.
* `OpensApart` — opening passes only handles that were written meanwhile, and if it yields a
  connection, only those of the connection.
* `Slots.Apart` — the invariant of the slots: their handles were issued, and none of them belongs to
  two connections.
* `Session.Turn` — all that a step of a session can do to slots and handles; `Session.turn_perform`
  proves it of every step, and `Session.Turn.apart` that it preserves the invariant.
* `Step.Frame` — what a step leaves alone.
* `Session.connections_apart` — **so it is of every step, whatever was done before.**
-/

/-! ### Handles that are issued meanwhile -/

/-- A handle that was issued between two worlds. -/
def IssuedMeanwhile (w w' : World Script) (h : Handle) : Prop :=
  ∃ n, w.library.issued ≤ n ∧ n < w'.library.issued ∧ h = Script.handle n

theorem IssuedMeanwhile.mono {w w' w'' : World Script} {h : Handle}
    (issued : IssuedMeanwhile w w' h) (le : w'.library.issued ≤ w''.library.issued) :
    IssuedMeanwhile w w'' h := by
  obtain ⟨n, low, high, eq⟩ := issued
  exact ⟨n, low, Nat.lt_of_lt_of_le high le, eq⟩

namespace Issuing

variable {w w' : World Script} {log : CallLog}

theorem le (h : Issuing w log w') : w.library.issued ≤ w'.library.issued := by
  obtain ⟨n, issued, -⟩ := h
  omega

/-- What a log wrote was issued meanwhile. -/
theorem issuedMeanwhile (issuing : Issuing w log w') {h : Handle} (mem : h ∈ log.written) :
    IssuedMeanwhile w w' h := by
  obtain ⟨n, issued, written⟩ := issuing
  rw [written] at mem
  obtain ⟨k, hk, rfl⟩ := List.mem_map.mp mem
  obtain ⟨low, high⟩ := List.mem_range'_1.mp hk
  exact ⟨k, low, by omega, rfl⟩

end Issuing

namespace CallLog

variable {log : CallLog} {h : Handle}

theorem mem_written {e : Call × Reply} (he : e ∈ log) (written : e.2.handle = some h) :
    h ∈ log.written :=
  List.mem_filterMap.mpr ⟨e, he, written⟩

/-- To produce a handle is to acquire a resource that owns it. -/
theorem mem_owned_of_produced (produced : log.Produced h) : h ∈ owned log.acquired := by
  obtain ⟨⟨c, r⟩, he, kind, produces⟩ := produced
  obtain ⟨succeeds, writes, written⟩ := Call.written_of_produces? produces
  have acquires : ∃ res, c.acquires? r = some res ∧ res.title = .owned h := by
    rw [Call.acquires?_of_succeeds succeeds, written]
    cases c <;> cases writes <;> exact ⟨_, rfl, rfl⟩
  obtain ⟨res, acquires, title⟩ := acquires
  exact mem_owned.mpr ⟨res, List.mem_filterMap.mpr ⟨_, he, acquires⟩, title⟩

/-- What is owned by something that was acquired was written. -/
theorem written_of_mem_owned (mem : h ∈ owned log.acquired) : h ∈ log.written := by
  obtain ⟨res, gained, title⟩ := mem_owned.mp mem
  obtain ⟨e, he, acquires⟩ := List.mem_filterMap.mp gained
  exact mem_written he (Call.written_of_title (.inl acquires) title).1

/-- What a call of an orderly log passes was produced in the log, or came with a failure. -/
theorem passed_of_orderly (orderly : Orderly log) {e : Call × Reply} (he : e ∈ log)
    (hh : h ∈ e.1.handles) :
    log.Produced h ∨ ∃ e' ∈ log, e'.1.leaves? e'.2 = some (.handle h .environment) := by
  obtain ⟨before, after, rfl⟩ := List.append_of_mem he
  rcases (orderly before e after rfl).produced h hh with ⟨e', he', produces⟩ | ⟨-, e', he', left⟩
  · exact .inl ⟨e', List.mem_append_left _ he', produces⟩
  · exact .inr ⟨e', List.mem_append_left _ (List.mem_of_getLast? he'), left⟩

/-- An orderly log passes only handles that it wrote itself. -/
theorem within_written (orderly : Orderly log) : Within log.written log := by
  intro e he h hh
  rcases passed_of_orderly orderly he hh with produced | ⟨e', he', left⟩
  · exact written_of_mem_owned (mem_owned_of_produced produced)
  · exact mem_written he' (Call.handle_of_leaves? left)

/-- If every call succeeds, it passes only handles of what it acquired. -/
theorem within_acquired (orderly : Orderly log) (succeed : ∀ e ∈ log, e.1.succeeds e.2) :
    Within (owned log.acquired) log := by
  intro e he h hh
  rcases passed_of_orderly orderly he hh with produced | ⟨e', he', left⟩
  · exact mem_owned_of_produced produced
  · rw [Call.leaves?_eq_none_of_succeeds (succeed e' he')] at left
    cases left

end CallLog

/-! ### Opening a connection -/

/-- The handles of a connection are those that its ladder owns. -/
theorem Connection.mem_handles_iff {c : Connection} {h : Handle} :
    h ∈ c.handles ↔ h ∈ owned c.ladder := by
  rw [handles, ladder]
  cases c.logon with
  | session service server user =>
    -- the server handle is allocated before the service context
    show h ∈ [c.environment, c.error, service, server, user] ↔
      h ∈ [c.environment, c.error, server, service, user]
    exact (List.Perm.cons _ (.cons _ (.swap server service _))).mem_iff
  | direct service => exact Iff.rfl

/-- What comes of opening a connection, as far as handles are concerned. -/
structure OpensApart (w : World Script) (o : Outcome Script (Except Error Connection)) : Prop where
  issuing : Issuing w o.trace.calls o.world
  /-- No handle is passed that was there before. -/
  fresh : CallLog.Within (CallLog.written o.trace.calls) o.trace.calls
  /-- A connection that opens has handles that were not there before, and no others are passed. -/
  own : ∀ c, o.value = .ok c →
    c.handles ⊆ CallLog.written o.trace.calls ∧ CallLog.Within c.handles o.trace.calls

namespace OpensApart

/-- Books that are empty at first show that an action passes no handles but those it writes. -/
theorem fresh_of_keeps {α : Type} {m : Action Script α} {post : α → List Resource → Prop}
    (hm : Keeps m [] post) (w : World Script) :
    CallLog.Within (CallLog.written (m.run w).trace.calls) (m.run w).trace.calls := by
  obtain ⟨live, -, ledger⟩ := hm [] w (.nil _)
  exact CallLog.within_written ledger.orderly

theorem error (e : Error) (w : World Script) :
    OpensApart w ((return .error e : Action Script (Except Error Connection)).run w) where
  issuing := .nil rfl
  fresh := .nil
  own c h := by cases h

variable (d : Driver) (w : World Script)

theorem openDsn (dsn : Dsn) : OpensApart w ((d.openDsn dsn).run w) where
  issuing := d.evolves_openDsn course_issuing.calls dsn w
  fresh := fresh_of_keeps (d.keeps_openDsn dsn []) w
  own c h := by
    obtain ⟨live, -, ledger⟩ := d.keeps_openDsn dsn [] [] w (.nil _)
    obtain ⟨last, ascent, -⟩ := Driver.ascent_of_openDsn (fun _ => ⟨1, Nat.one_pos⟩) h
    have acquired := Driver.acquired_of_openDsn h
    constructor
    · intro h hh
      rw [Connection.mem_handles_iff, ← acquired] at hh
      exact CallLog.written_of_mem_owned hh
    · intro e he h hh
      rw [Connection.mem_handles_iff, ← acquired]
      exact CallLog.within_acquired ledger.orderly ascent.succeed e he hh

theorem openText (text : String) : OpensApart w ((d.openText text).run w) := by
  unfold Driver.openText
  cases Dsn.parse text with
  | ok dsn => exact openDsn d w dsn
  | error e => exact error e w

theorem connect (text : String) (fate : Fate) : OpensApart w ((d.connect text fate).run w) where
  issuing := d.evolves_connect course_issuing.calls text fate w
  fresh := fresh_of_keeps (d.keeps_connect text fate []) w
  own c opened := by
    obtain ⟨rfl, -⟩ := Driver.openDsn_of_connect opened
    rw [Driver.connect_finished] at opened ⊢
    exact (openText d w text).own c opened

end OpensApart

/-! ### Slots -/

/-- The handles of all connections were issued, and none of them belongs to two connections. -/
structure Slots.Apart (s : Slots) (issued : Nat) : Prop where
  issued : ∀ i c, s.get? i = some c → ∀ h ∈ c.handles, ∃ n < issued, h = Script.handle n
  disjoint : ∀ i j c d, i ≠ j → s.get? i = some c → s.get? j = some d →
    c.handles.Disjoint d.handles

namespace Slots.Apart

variable {s : Slots} {issued issued' slot : Nat} {c after : Connection} {w w' : World Script}

theorem nil (issued : Nat) : Slots.Apart [] issued where
  issued i c there := by cases there
  disjoint i j c d _ there := by cases there

/-- Handles that are issued later do no harm. -/
theorem mono (h : s.Apart issued) (le : issued ≤ issued') : s.Apart issued' where
  issued i c there hd mem := by
    obtain ⟨n, lt, eq⟩ := h.issued i c there hd mem
    exact ⟨n, Nat.lt_of_lt_of_le lt le, eq⟩
  disjoint := h.disjoint

/-- Handles that are issued meanwhile belong to nobody. -/
theorem disjoint_of_issuedMeanwhile (h : s.Apart w.library.issued) {hs : List Handle}
    (meanwhile : ∀ hd ∈ hs, IssuedMeanwhile w w' hd) {i : Nat} (there : s.get? i = some c) :
    hs.Disjoint c.handles := by
  intro hd mem mem'
  obtain ⟨n, le, -, eq⟩ := meanwhile hd mem
  obtain ⟨m, lt, eq'⟩ := h.issued i c there hd mem'
  have same : n = m := Script.handle_injective (eq.symm.trans eq')
  omega

theorem erase (h : s.Apart issued) (slot : Nat) : Slots.Apart (s.erase slot) issued := by
  have before : ∀ i c, Slots.get? (s.erase slot) i = some c → s.get? i = some c := by
    intro i c there
    by_cases same : i = slot
    · rw [same, get?_erase_self] at there
      cases there
    · rwa [get?_erase_of_ne same] at there
  refine ⟨fun i c there => h.issued i c (before i c there), ?_⟩
  intro i j c d other hc hd
  exact h.disjoint i j c d other (before i c hc) (before j d hd)

/-- A slot may be filled with a connection whose handles belong to no other slot. -/
theorem put (h : s.Apart issued) (known : ∀ hd ∈ c.handles, ∃ n < issued, hd = Script.handle n)
    (disjoint : ∀ i d, i ≠ slot → s.get? i = some d → c.handles.Disjoint d.handles) :
    Slots.Apart (Slots.put slot c s) issued where
  issued i d there := by
    by_cases same : i = slot
    · rw [same, get?_put_self] at there
      cases there
      exact known
    · rw [get?_put_of_ne same] at there
      exact h.issued i d there
  disjoint i j d d' other hd hd' := by
    by_cases same : i = slot
    · subst same
      rw [get?_put_self] at hd
      rw [get?_put_of_ne (Ne.symm other)] at hd'
      cases hd
      exact disjoint j d' (Ne.symm other) hd'
    · rw [get?_put_of_ne same] at hd
      by_cases same' : j = slot
      · subst same'
        rw [get?_put_self] at hd'
        cases hd'
        intro h mem mem'
        exact disjoint i d other hd mem' mem
      · rw [get?_put_of_ne same'] at hd'
        exact h.disjoint i j d d' other hd hd'

/-- Something was done with the connection in a slot. -/
theorem put_later (h : s.Apart issued) (there : s.get? slot = some c) (later : c.Later after) :
    Slots.Apart (Slots.put slot after s) issued := by
  apply h.put
  · rw [later.handles]
    exact h.issued slot c there
  · intro i d other hd
    rw [later.handles]
    exact h.disjoint slot i c d (Ne.symm other) there hd

end Slots.Apart

/-! ### Steps of a session -/

/-- The slot for which a step opens a connection. -/
def Step.opens? : Step → Option Nat
  | .openText slot _ => some slot
  | .openBuilt slot _ => some slot
  | .connect slot _ _ => some slot
  | .drop _ | .useProtocol _ | .useTimeout _ | .adjust _ | .on _ _ => none

/-- The slot that a step is about. -/
def Step.slot? : Step → Option Nat
  | .drop slot => some slot
  | .on slot _ => some slot
  | step => step.opens?

theorem Step.slot?_of_opens {step : Step} {slot : Nat} (h : step.opens? = some slot) :
    step.slot? = some slot := by
  cases step <;> first | exact h | cases h

theorem Step.ne_of_slot? {step : Step} {slot i : Nat} (h : step.slot? = some slot)
    (other : step.slot? ≠ some i) : i ≠ slot := by
  rintro rfl
  exact other h

namespace Session

/-- All that a step of a session can do to slots and handles. -/
inductive Turn (s : Session) (w : World Script) :
    Step → Outcome Script (Answer × Session) → Prop
  /-- There is nothing to be done with a connection. -/
  | idle {step : Step} {o : Outcome Script (Answer × Session)} (unopened : step.opens? = none)
    (empty : ∀ slot, step.slot? = some slot → s.slots.get? slot = none)
    (slots : o.value.2.slots = s.slots) (calls : o.trace.calls = []) : Turn s w step o
  | worked {slot : Nat} {inner : ConnectionStep} {c after : Connection}
    {o : Outcome Script (Answer × Session)} (there : s.slots.get? slot = some c)
    (later : c.Later after) (slots : o.value.2.slots = s.slots.put slot after)
    (calls : CallLog.Within c.handles o.trace.calls) : Turn s w (.on slot inner) o
  | dropped {slot : Nat} {c : Connection} {o : Outcome Script (Answer × Session)}
    (there : s.slots.get? slot = some c) (slots : o.value.2.slots = s.slots.erase slot)
    (calls : CallLog.Within c.handles o.trace.calls) : Turn s w (.drop slot) o
  /-- No connection opens. -/
  | refused {step : Step} {slot : Nat} {e : Error} {seen : Trace}
    {o : Outcome Script (Answer × Session)} (opens : step.opens? = some slot)
    (value : o.value = (.opened (.error e) seen, s))
    (calls : ∀ e ∈ o.trace.calls, ∀ h ∈ e.1.handles, IssuedMeanwhile w o.world h) : Turn s w step o
  /-- A connection opens, and then the one that was there is released. -/
  | opened {step : Step} {slot : Nat} {c : Connection} {seen : Trace}
    {o : Outcome Script (Answer × Session)} (opens : step.opens? = some slot)
    (answer : o.value.1 = .opened (.ok c) seen) (slots : o.value.2.slots = s.slots.put slot c)
    (fresh : ∀ h ∈ c.handles, IssuedMeanwhile w o.world h)
    (calls : ∀ e ∈ o.trace.calls, e.1.handles ⊆ c.handles ∨
      ∃ old, s.slots.get? slot = some old ∧ e.1.handles ⊆ old.handles) : Turn s w step o

variable {s : Session} {w : World Script} {step : Step} {slot : Nat}

/-- Release the connection in a slot, whose place another one takes. -/
def releaseReplaced (s : Session) (slot : Nat) : Action Script Unit :=
  match s.slots.get? slot with
  | some old => old.release
  | none => return ()

section

variable {m : Action Script (Except Error Connection)}

theorem run_openInto_of_ok {c : Connection} (opened : (m.run w).value = .ok c) :
    let replaced := (s.releaseReplaced slot).run (m.run w).world
    (s.openInto slot m).run w =
      { value := (.opened (.ok c) ((m.run w).trace ++ replaced.trace),
          { s with slots := s.slots.put slot c })
        world := replaced.world
        trace := (m.run w).trace ++ replaced.trace } := by
  rw [releaseReplaced]
  cases there : s.slots.get? slot <;>
    simp only [openInto, Action.run_bind, Action.run_observed, opened, there, Action.run_pure,
      List.append_nil]

/-- Opening a connection for a slot. -/
theorem turn_openInto (hs : ∀ e ∈ s.slots, e.2.Reachable Script) (opens : step.opens? = some slot)
    (apart : OpensApart w (m.run w)) : Turn s w step ((s.openInto slot m).run w) := by
  cases value : (m.run w).value with
  | error e =>
    rw [run_openInto_of_error value]
    refine .refused opens rfl ?_
    intro e he h hh
    exact apart.issuing.issuedMeanwhile (apart.fresh e he hh)
  | ok c =>
    obtain ⟨written, own⟩ := apart.own c value
    have replaced : (s.releaseReplaced slot).Evolves Issuing ∧
        ∀ w', ∀ e ∈ ((s.releaseReplaced slot).run w').trace.calls,
          ∃ old, s.slots.get? slot = some old ∧ e.1.handles ⊆ old.handles := by
      rw [releaseReplaced]
      cases there : s.slots.get? slot with
      | none => exact ⟨.pure course_issuing.calls (), fun _ => List.forall_mem_nil _⟩
      | some old =>
        have laddered := (hs _ (Slots.mem_of_get? there)).laddered
        refine ⟨old.evolves_release course_issuing.calls, fun w' e he => ⟨old, rfl, ?_⟩⟩
        exact (laddered.confined_release w').1 e he
    rw [run_openInto_of_ok value]
    refine .opened opens rfl rfl ?_ ?_
    · intro h hh
      exact (apart.issuing.issuedMeanwhile (written hh)).mono (replaced.1 _).le
    · intro e he
      rw [Trace.calls_append] at he
      rcases List.mem_append.mp he with he | he
      · exact .inl (own e he)
      · exact .inr (replaced.2 _ e he)

end

/-- **Every step of a session is such a turn.** -/
theorem turn_perform (hs : ∀ e ∈ s.slots, e.2.Reachable Script) (step : Step) (w : World Script) :
    Turn s w step ((s.perform step).run w) := by
  cases step with
  | openText slot text => exact turn_openInto hs rfl (.openText s.driver w text)
  | openBuilt slot changes =>
    apply turn_openInto hs rfl
    cases (Dsn.Builder.empty.setAll changes).build with
    | ok dsn => exact .openDsn s.driver w dsn
    | error e => exact .error e w
  | connect slot text fate => exact turn_openInto hs rfl (.connect s.driver w text fate)
  | drop slot =>
    rw [perform]
    cases there : s.slots.get? slot with
    | none => exact .idle rfl (by rintro i ⟨⟩; exact there) rfl rfl
    | some c =>
      have laddered := (hs _ (Slots.mem_of_get? there)).laddered
      refine .dropped there rfl ?_
      simp only [Action.run_bind, Action.run_observed, Action.run_pure, List.append_nil]
      exact (laddered.confined_release w).1
  | useProtocol protocol => exact .idle rfl (by rintro i ⟨⟩) rfl rfl
  | useTimeout after => exact .idle rfl (by rintro i ⟨⟩) rfl rfl
  | adjust change => exact .idle rfl (by rintro i ⟨⟩) rfl rfl
  | on slot inner =>
    rw [perform]
    cases there : s.slots.get? slot with
    | none => exact .idle rfl (by rintro i ⟨⟩; exact there) rfl rfl
    | some c =>
      have laddered := (hs _ (Slots.mem_of_get? there)).laddered
      obtain ⟨calls, later⟩ := ConnectionStep.confined_perform laddered inner w
      refine .worked there later rfl ?_
      simp only [Action.run_bind, Action.run_pure, List.append_nil]
      exact calls

/-- A turn preserves the invariant of the slots. -/
theorem Turn.apart {o : Outcome Script (Answer × Session)} (turn : Turn s w step o)
    (h : s.slots.Apart w.library.issued) (le : w.library.issued ≤ o.world.library.issued) :
    o.value.2.slots.Apart o.world.library.issued := by
  cases turn with
  | idle unopened empty slots calls =>
    rw [slots]
    exact h.mono le
  | worked there later slots calls =>
    rw [slots]
    exact (h.put_later there later).mono le
  | dropped there slots calls =>
    rw [slots]
    exact (h.erase _).mono le
  | refused opens value calls =>
    rw [value]
    exact h.mono le
  | opened opens answer slots fresh calls =>
    rw [slots]
    apply (h.mono le).put
    · intro hd mem
      obtain ⟨n, -, lt, eq⟩ := fresh hd mem
      exact ⟨n, lt, eq⟩
    · intro i d _ there
      exact h.disjoint_of_issuedMeanwhile fresh there

/-- All steps preserve the invariant of the slots. -/
theorem apart_performAll (hs : ∀ e ∈ s.slots, e.2.Reachable Script) (steps : List Step)
    (h : s.slots.Apart w.library.issued) :
    ((s.performAll steps).run w).value.2.slots.Apart
      ((s.performAll steps).run w).world.library.issued := by
  induction steps generalizing s w with
  | nil => exact h
  | cons step steps ih =>
    obtain ⟨changes, done, issuing⟩ := proceeds_perform course_issuing hs step w
    have first := (turn_perform hs step w).apart h issuing.le
    simp only [performAll, Action.run_bind, Action.run_pure]
    exact ih done.after first

end Session

/-! ### What a step leaves alone -/

/-- No call passes any of these handles. -/
def CallLog.Spares (hs : List Handle) (log : CallLog) : Prop :=
  ∀ e ∈ log, e.1.handles.Disjoint hs

/-- What a step of a session leaves alone, and what it does to the connection that it is about. -/
structure Step.Frame (s : Session) (step : Step) (o : Outcome Script (Answer × Session)) :
    Prop where
  /-- The other slots are as they were, -/
  others : ∀ i, step.slot? ≠ some i → o.value.2.slots.get? i = s.slots.get? i
  /-- and no call passes a handle of a connection in them. -/
  spared : ∀ i c, step.slot? ≠ some i → s.slots.get? i = some c →
    CallLog.Spares c.handles o.trace.calls
  /-- What is done with a connection passes its handles only, and leaves it its number, its handles
      and its settings. -/
  worked : ∀ slot inner c, step = .on slot inner → s.slots.get? slot = some c →
    CallLog.Within c.handles o.trace.calls ∧
      ∃ after, o.value.2.slots.get? slot = some after ∧ c.Later after
  /-- To drop a connection passes its handles only, and empties its slot. -/
  dropped : ∀ slot c, step = .drop slot → s.slots.get? slot = some c →
    CallLog.Within c.handles o.trace.calls ∧ o.value.2.slots.get? slot = none
  /-- An attempt to open a connection that fails changes nothing, and passes no handle of any
      connection. One that opens passes its own handles, and behind it the one whose place it takes
      passes its own. -/
  opens : ∀ slot, step.opens? = some slot →
    (∃ e seen, o.value = (.opened (.error e) seen, s) ∧
      ∀ i c, s.slots.get? i = some c → CallLog.Spares c.handles o.trace.calls) ∨
    ∃ c seen, o.value.1 = .opened (.ok c) seen ∧ o.value.2.slots.get? slot = some c ∧
      ∀ e ∈ o.trace.calls, e.1.handles ⊆ c.handles ∨
        ∃ old, s.slots.get? slot = some old ∧ e.1.handles ⊆ old.handles

namespace Session

variable {s : Session} {w : World Script} {step : Step}

/-- The connections in other slots stay as they are. -/
theorem Turn.others {o : Outcome Script (Answer × Session)} (turn : Turn s w step o) {i : Nat}
    (other : step.slot? ≠ some i) : o.value.2.slots.get? i = s.slots.get? i := by
  cases turn with
  | idle unopened empty slots calls => rw [slots]
  | worked there later slots calls => rw [slots, Slots.get?_put_of_ne (Step.ne_of_slot? rfl other)]
  | dropped there slots calls => rw [slots, Slots.get?_erase_of_ne (Step.ne_of_slot? rfl other)]
  | refused opens value calls => rw [value]
  | opened opens answer slots fresh calls =>
    rw [slots, Slots.get?_put_of_ne (Step.ne_of_slot? (Step.slot?_of_opens opens) other)]

/-- No call passes a handle of a connection in another slot: what it passes belongs to the
    connection in its own slot, or was not there before. -/
theorem Turn.spared {o : Outcome Script (Answer × Session)} (turn : Turn s w step o)
    (h : s.slots.Apart w.library.issued) {i : Nat} {d : Connection} (other : step.slot? ≠ some i)
    (hd : s.slots.get? i = some d) : CallLog.Spares d.handles o.trace.calls := by
  have spares {slot : Nat} {c : Connection} (about : step.slot? = some slot)
      (hc : s.slots.get? slot = some c) {hs : List Handle} (own : hs ⊆ c.handles) :
      hs.Disjoint d.handles :=
    List.disjoint_of_subset_left own
      (h.disjoint slot i c d (Step.ne_of_slot? about other).symm hc hd)
  cases turn with
  | idle unopened empty slots calls =>
    rw [calls]
    exact List.forall_mem_nil _
  | worked there later slots calls => exact fun e he => spares rfl there (calls e he)
  | dropped there slots calls => exact fun e he => spares rfl there (calls e he)
  | refused opens value calls =>
    exact fun e he => h.disjoint_of_issuedMeanwhile (calls e he) hd
  | opened opens answer slots fresh calls =>
    intro e he
    rcases calls e he with own | ⟨old, there, own⟩
    · exact List.disjoint_of_subset_left own (h.disjoint_of_issuedMeanwhile fresh hd)
    · exact spares (Step.slot?_of_opens opens) there own

theorem Turn.frame {o : Outcome Script (Answer × Session)} (turn : Turn s w step o)
    (h : s.slots.Apart w.library.issued) : Step.Frame s step o where
  others _ other := turn.others other
  spared _ _ other there := turn.spared h other there
  worked slot inner c same there := by
    subst same
    cases turn with
    | idle unopened empty slots calls =>
      rw [empty slot rfl] at there
      cases there
    | worked there' later slots calls =>
      cases there'.symm.trans there
      refine ⟨calls, _, ?_, later⟩
      rw [slots, Slots.get?_put_self]
    | refused opens value calls => cases opens
    | opened opens answer slots fresh calls => cases opens
  dropped slot c same there := by
    subst same
    cases turn with
    | idle unopened empty slots calls =>
      rw [empty slot rfl] at there
      cases there
    | dropped there' slots calls =>
      cases there'.symm.trans there
      refine ⟨calls, ?_⟩
      rw [slots, Slots.get?_erase_self]
    | refused opens value calls => cases opens
    | opened opens answer slots fresh calls => cases opens
  opens slot opens := by
    cases turn with
    | idle unopened empty slots calls =>
      rw [unopened] at opens
      cases opens
    | worked there later slots calls => cases opens
    | dropped there slots calls => cases opens
    | refused opens' value calls =>
      exact .inl ⟨_, _, value, fun i c there e he =>
        h.disjoint_of_issuedMeanwhile (calls e he) there⟩
    | opened opens' answer slots fresh calls =>
      obtain rfl := Option.some.inj (opens'.symm.trans opens)
      refine .inr ⟨_, _, answer, ?_, calls⟩
      rw [slots, Slots.get?_put_self]

/-- **The connections of a session do not interfere**, whatever steps were done before and whatever
    the library answers. No handle belongs to two connections, and none of a connection that any
    driver opens then, be it too late or for a slot that is taken, belongs to one that was there. A
    step leaves alone what it is not about. And whatever is done with a connection that there can
    be, in a transaction too, passes its own handles only. -/
theorem connections_apart (driver : Driver) (steps : List Step) (w : World Script) :
    let reached := ((fresh driver).performAll steps).run w
    let s := reached.value.2
    (∀ i j c d, i ≠ j → s.slots.get? i = some c → s.slots.get? j = some d →
      c.handles.Disjoint d.handles) ∧
    (∀ (other : Driver) (dsn : Dsn) (c : Connection),
      ((other.openDsn dsn).run reached.world).value = .ok c →
      ∀ i d, s.slots.get? i = some d → c.handles.Disjoint d.handles) ∧
    (∀ step, Step.Frame s step ((s.perform step).run reached.world)) ∧
    ∀ c : Connection, c.Reachable Script → ∀ w' : World Script,
      (∀ op, CallLog.Within c.handles ((c.perform op).run w').trace.calls ∧
        c.Later ((c.perform op).run w').value.2) ∧
      CallLog.Within c.handles (c.release.run w').trace.calls := by
  intro reached s
  obtain ⟨changes, done, -⟩ :=
    proceeds_performAll (s := fresh driver) course_trivial (List.forall_mem_nil _) steps w
  have apart : s.slots.Apart reached.world.library.issued :=
    apart_performAll (List.forall_mem_nil _) steps (.nil _)
  refine ⟨apart.disjoint, ?_, ?_, ?_⟩
  · intro other dsn c opened i d there
    have opens := OpensApart.openDsn other reached.world dsn
    have meanwhile : ∀ h ∈ c.handles, IssuedMeanwhile reached.world _ h :=
      fun h hh => opens.issuing.issuedMeanwhile ((opens.own c opened).1 hh)
    exact apart.disjoint_of_issuedMeanwhile meanwhile there
  · intro step
    exact (turn_perform done.after step reached.world).frame apart
  · intro c reachable w'
    exact ⟨fun op => reachable.laddered.confined_perform op w',
      (reachable.laddered.confined_release w').1⟩

/-- A connection by a session and one by a direct logon, of which the first has its place taken
    while the library frees no handle. -/
theorem connections_apart_replaced :
    let unfreed : Script.Rule := ⟨.handleFree, none, -1, none, none⟩
    let steps : List Step :=
      [.openBuilt 0 [], .useProtocol .direct, .openBuilt 1 [], .adjust (.fail [unfreed])]
    let reached := ((fresh .standard).performAll steps).run ⟨.empty, 0⟩
    let s := reached.value.2
    let o := (s.perform (.openBuilt 0 [])).run reached.world
    ∃ c d, s.slots.get? 0 = some c ∧ s.slots.get? 1 = some d ∧ c.handles.Disjoint d.handles ∧
      o.value.2.slots.get? 1 = some d ∧ CallLog.Spares d.handles o.trace.calls := by
  intro unfreed steps reached s o
  have filled : (s.slots.get? 0).isSome ∧ (s.slots.get? 1).isSome := by decide +kernel
  obtain ⟨c, hc⟩ := Option.isSome_iff_exists.mp filled.1
  obtain ⟨d, hd⟩ := Option.isSome_iff_exists.mp filled.2
  obtain ⟨disjoint, -, frame, -⟩ := connections_apart .standard steps ⟨.empty, 0⟩
  have apart : c.handles.Disjoint d.handles := disjoint 0 1 c d (by decide) hc hd
  have replaced : Step.Frame s (.openBuilt 0 []) o := frame _
  clear_value o s
  have other : Step.slot? (.openBuilt 0 []) ≠ some 1 := by decide
  exact ⟨c, d, hc, hd, apart, (replaced.others 1 other).trans hd, replaced.spared 1 d other hd⟩

end Session

end DatabaseLogon

import DatabaseLogon.Proofs.Keeps

namespace DatabaseLogon

open Logon

/-!
# Opening connections keeps the books

* `Rung.handles_call`, `Rung.acquired_call` — what the call of a rung passes and acquires, in terms
  of the handles known by then.
* `Standing` — the invariant of a climb, which every rung preserves (`Standing.rise`).
* `climb_keeps` — a climb keeps the books; what it owns can be given back.
* `Connection.Sound` — a connection that can be used and released.
* `Opened` — what is live behind an attempt to open a connection.
* `keeps_openDsn` — opening a connection keeps the books, and yields a sound connection.
-/

/-! ### What a rung passes and acquires -/

namespace Logon.Rung

variable {dsn : Dsn} {hs : Handles} {r : Rung} {reply : Reply} {res : Resource}

/-- A rung passes handles of the kinds that it reads. -/
theorem handles_call {h : Handle} (mem : h ∈ (r.call dsn hs).handles) :
    ∃ kind ∈ r.reads, h = hs kind := by
  cases r <;> simp_all [call, Call.handles, AttributeValue.handles, reads]

/-- What a rung acquires owns the handle that it makes known, or puts a handle to use. -/
theorem acquired_call (resource : (r.call dsn hs).resource? reply.handle = some res) :
    (∃ kind h, r.writes? = some kind ∧ r.binds? = none ∧ reply.handle = some h ∧
      res.title = .owned h) ∨
    ∃ kind ∈ r.reads, r.writes? = none ∧ r.binds? = some kind ∧
      res.title = .bound kind (hs kind) := by
  cases r with
  | environment | allocate kind | logon =>
    cases written : reply.handle <;> rw [written] at resource <;> cases resource
    exact .inl ⟨_, _, rfl, rfl, rfl, rfl⟩
  | attach =>
    cases resource
    exact .inr ⟨.server, by simp [reads], rfl, rfl, rfl⟩
  | begin credential =>
    cases resource
    exact .inr ⟨.session, by simp [reads], rfl, rfl, rfl⟩
  | link which kind => cases resource
  | tell which text => cases resource

/-- A rung that succeeds and acquires nothing makes no handle known and puts none to use. -/
theorem acquires_nothing (succeeds : (r.call dsn hs).succeeds reply)
    (nothing : (r.call dsn hs).resource? reply.handle = none) :
    r.writes? = none ∧ r.binds? = none := by
  rw [Call.succeeds, Bool.and_eq_true] at succeeds
  cases r with
  | environment | allocate kind | logon =>
    obtain ⟨h, written⟩ := Option.isSome_iff_exists.mp succeeds.2
    rw [written] at nothing
    cases nothing
  | attach => cases nothing
  | begin credential => cases nothing
  | link which kind => exact ⟨rfl, rfl⟩
  | tell which text => exact ⟨rfl, rfl⟩

/-- What a rung acquires can be given back with its own handle and those that the rung knows. -/
theorem grounded_call (resource : (r.call dsn hs).resource? reply.handle = some res) :
    (∀ h ∈ res.giveBack.handles, res.title = .owned h ∨ ∃ kind ∈ r.reads, h = hs kind) ∧
      ∀ error ∈ res.giveBack.error?, ∃ kind ∈ r.reads, error = hs kind := by
  cases r with
  | environment | allocate kind | logon =>
    cases written : reply.handle <;> rw [written] at resource <;> cases resource
    simp [Resource.giveBack, Call.handles, Call.error?, Resource.title, reads]
  | attach =>
    cases resource
    simp [Resource.giveBack, Call.handles, Call.error?, reads]
  | begin credential =>
    cases resource
    simp [Resource.giveBack, Call.handles, Call.error?, reads]
  | link which kind => cases resource
  | tell which text => cases resource

end Logon.Rung

/-! ### The invariant of a climb -/

/-- How a climb stands: the handles that are known are owned, those that are still to be put to use
    have not been, and what is held can be given back. -/
structure Standing (known bound : List HandleKind) (hs : Handles) (held : List Resource)
    (past : CallLog) : Prop where
  holds : ∀ kind ∈ known, hs kind ∈ owned held
  unused : ∀ kind ∈ known, kind ∉ bound → .bound kind (hs kind) ∉ past.titles
  grounded : Grounded held

namespace Standing

variable {dsn : Dsn} {known bound : List HandleKind} {hs : Handles} {held : List Resource}
  {past : CallLog} {r : Rung}

/-- A rung passes handles that are owned. -/
theorem handles (dsn : Dsn) (standing : Standing known bound hs held past)
    (reads : ∀ kind ∈ r.reads, kind ∈ known) (others : List Resource) :
    ∀ h ∈ (r.call dsn hs).handles, h ∈ owned (held ++ others) := by
  intro h hh
  obtain ⟨kind, hkind, rfl⟩ := Rung.handles_call hh
  rw [owned_append]
  exact List.mem_append_left _ (standing.holds kind (reads kind hkind))

/-- What a rung acquires can be given back before what is held. -/
theorem grounded_cons (standing : Standing known bound hs held past)
    (reads : ∀ kind ∈ r.reads, kind ∈ known) {reply : Reply} {res : Resource}
    (resource : (r.call dsn hs).resource? reply.handle = some res) : Grounded (res :: held) := by
  obtain ⟨handles, error⟩ := Rung.grounded_call resource
  have older {h : Handle} (hh : ∃ kind ∈ r.reads, h = hs kind) : h ∈ owned held := by
    obtain ⟨kind, hkind, rfl⟩ := hh
    exact standing.holds kind (reads kind hkind)
  have passed : ∀ h ∈ res.giveBack.handles, h ∈ owned (res :: held) := by
    intro h hh
    rw [← List.singleton_append, owned_append, List.mem_append]
    rcases handles h hh with own | known
    · exact .inl (mem_owned.mpr ⟨res, List.mem_singleton_self _, own⟩)
    · exact .inr (older known)
  exact ⟨passed, fun h hh => older (error h hh), standing.grounded⟩

/-- A rung that acquires nothing leaves the invariant as it is. -/
theorem pass (standing : Standing known bound hs held past) {e : Call × Reply}
    (titles : CallLog.titles [e] = []) : Standing known bound hs held (past ++ [e]) where
  holds := standing.holds
  unused kind hkind free mem := by
    rw [CallLog.mem_titles_append, titles] at mem
    exact standing.unused kind hkind free (mem.resolve_left (by simp))
  grounded := standing.grounded

/-- A rung that makes a new handle known preserves the invariant. -/
theorem produce (standing : Standing known bound hs held past) {e : Call × Reply} {h : Handle}
    {kind : HandleKind} {res : Resource} {hs' : Handles} (title : res.title = .owned h)
    (titles : CallLog.titles [e] = [res.title]) (grounded : Grounded (res :: held))
    (now : hs' kind = h) (before : ∀ kind ∈ known, hs' kind = hs kind)
    (fresh : .bound kind h ∉ past.titles) :
    Standing (kind :: known) bound hs' (res :: held) (past ++ [e]) where
  holds kind' hkind := by
    rcases List.mem_cons.mp hkind with rfl | hkind
    · rw [now]
      exact mem_owned.mpr ⟨res, List.mem_cons_self, title⟩
    · rw [before kind' hkind, ← List.singleton_append, owned_append]
      exact List.mem_append_right _ (standing.holds kind' hkind)
  unused kind' hkind free mem := by
    rw [CallLog.mem_titles_append, titles, title] at mem
    rcases List.mem_cons.mp hkind with rfl | hkind
    · rw [now] at mem
      exact fresh (mem.resolve_left (by simp))
    · rw [before kind' hkind] at mem
      exact standing.unused kind' hkind free (mem.resolve_left (by simp))
  grounded := grounded

/-- A rung that puts a handle to use preserves the invariant. -/
theorem use (standing : Standing known bound hs held past) {e : Call × Reply} {kind : HandleKind}
    {res : Resource} (title : res.title = .bound kind (hs kind))
    (titles : CallLog.titles [e] = [res.title]) (grounded : Grounded (res :: held)) :
    Standing known (kind :: bound) hs (res :: held) (past ++ [e]) where
  holds kind' hkind := by
    rw [← List.singleton_append, owned_append]
    exact List.mem_append_right _ (standing.holds kind' hkind)
  unused kind' hkind free mem := by
    rw [CallLog.mem_titles_append, titles, title] at mem
    rcases mem with mem | mem
    · cases List.mem_singleton.mp mem
      exact free List.mem_cons_self
    · exact standing.unused kind' hkind (fun bound => free (List.mem_cons_of_mem _ bound)) mem
  grounded := grounded

/-- A rung whose call succeeds preserves the invariant, and keeps the books. -/
theorem rise (standing : Standing known bound hs held past) (others : List Resource)
    {w : World Script} (ledger : Ledger past w.library.issued (held ++ others))
    (reads : ∀ kind ∈ r.reads, kind ∈ known) (writes : ∀ kind ∈ r.writes?, kind ∉ known)
    (binds : ∀ kind ∈ r.binds?, kind ∉ bound) {reply : Reply}
    (replied : w.reply (r.call dsn hs) = reply) (succeeds : (r.call dsn hs).succeeds reply) :
    Standing (r.writes?.toList ++ known) (r.binds?.toList ++ bound) (r.next hs reply.handle)
        (((r.call dsn hs).acquires? reply).toList ++ held) (past ++ [(r.call dsn hs, reply)]) ∧
      Ledger (past ++ [(r.call dsn hs, reply)]) (w.after (r.call dsn hs)).library.issued
        (((r.call dsn hs).acquires? reply).toList ++ held ++ others) := by
  have handles := standing.handles dsn reads others
  have le := w.issued_le_after (r.call dsn hs)
  have acquires := Call.acquires?_of_succeeds succeeds
  -- a rung acquires nothing, or the owner of the handle that it makes known, or the use of one
  cases resource : (r.call dsn hs).resource? reply.handle with
  | none =>
    obtain ⟨hwrites, hbinds⟩ := Rung.acquires_nothing succeeds resource
    have leaves := Call.leaves?_eq_none_of_succeeds succeeds
    have releases := Call.releases?_eq_none_of_climbs (Rung.climbs dsn hs r)
    have same : r.next hs reply.handle = hs := Rung.next_eq_self hwrites
    rw [resource] at acquires
    rw [acquires, same, hwrites, hbinds]
    exact ⟨standing.pass (CallLog.titles_of_passes acquires leaves),
      ledger.pass handles releases acquires leaves le⟩
  | some res =>
    have grounded := standing.grounded_cons reads resource
    rw [resource] at acquires
    have titles := CallLog.titles_of_acquires acquires
    rw [acquires]
    rcases Rung.acquired_call resource with
      ⟨kind, h, hwrites, hbinds, written, title⟩ | ⟨kind, hreads, hwrites, hbinds, title⟩
    · have fresh {t : Title} (about : t.handle = h) :=
        ledger.fresh (replied ▸ written : (w.reply (r.call dsn hs)).handle = some h) about
      obtain ⟨new, issued⟩ := fresh (t := res.title) (by rw [title]; rfl)
      have now : r.next hs reply.handle kind = h := by simp [Rung.next, hwrites, written]
      have before : ∀ kind' ∈ known, r.next hs reply.handle kind' = hs kind' :=
        fun kind' hkind => Rung.next_of_ne fun same => writes kind' same hkind
      rw [hwrites, hbinds]
      exact ⟨standing.produce title titles grounded now before (fresh rfl).1,
        ledger.acquire handles acquires new issued le⟩
    · have same : r.next hs reply.handle = hs := Rung.next_eq_self hwrites
      have new : res.title ∉ past.titles :=
        title ▸ standing.unused kind (reads kind hreads) (binds kind hbinds)
      have live : hs kind ∈ owned (held ++ others) := by
        rw [owned_append]
        exact List.mem_append_left _ (standing.holds kind (reads kind hreads))
      obtain ⟨n, hn, eq⟩ := ledger.issued_of_owned live
      have issued : res.title.handle = Script.handle n := by rw [title]; exact eq
      rw [hwrites, hbinds, same]
      exact ⟨standing.use title titles grounded,
        ledger.acquire handles acquires new ⟨n, Nat.lt_of_lt_of_le hn le, issued⟩ le⟩

end Standing

/-! ### A whole climb -/

/-- The handles that are known when rungs have been climbed. -/
def Logon.knownAfter (known : List HandleKind) (rs : List Rung) : List HandleKind :=
  rs.foldl (fun known r => r.writes?.toList ++ known) known

/-- **A climb keeps the books.** What it owns in the end can be given back, and if it reached the
    top, all handles that its rungs made known are owned. -/
theorem climb_keeps (id : UInt32) (dsn : Dsn) (others : List Resource) {rs : List Rung}
    {known bound : List HandleKind} {hs : Handles} {held : List Resource} {past : CallLog}
    {w : World Script} (scope : InScope known bound rs)
    (standing : Standing known bound hs held past)
    (ledger : Ledger past w.library.issued (held ++ others))
    {o : Outcome Script (Except Error Handles × List Resource)}
    (ho : o = (climb id dsn rs hs).outcome held w) :
    Ledger (past ++ o.trace.calls) o.world.library.issued (o.value.2 ++ others) ∧
      Grounded o.value.2 ∧
      ∀ last, o.value.1 = .ok last → ∀ kind ∈ knownAfter known rs, last kind ∈ owned o.value.2 := by
  induction rs generalizing known bound hs held past w o with
  | nil =>
    subst ho
    rw [climb, Climb.outcome_pure, Trace.calls_nil, List.append_nil]
    refine ⟨ledger, standing.grounded, ?_⟩
    intro last top kind hkind
    cases top
    exact standing.holds kind hkind
  | cons r rs ih =>
    obtain ⟨reads, writes, binds, scope⟩ := scope
    subst ho
    rw [climb, Climb.outcome_bind]
    cases r.rungDone id dsn hs held w with
    | failure e rest value fails calls aftermath blame =>
      rw [value]
      have releases := Call.releases?_eq_none_of_climbs (Rung.climbs dsn hs r)
      have failed := ledger.fail (standing.handles dsn reads others) releases fails aftermath
      refine ⟨?_, standing.grounded, ?_⟩
      · rw [calls]
        exact failed
      · intro last top
        cases top
    | success next value succeeds written calls world =>
      rw [value, world]
      obtain ⟨standing', ledger'⟩ := standing.rise others ledger reads writes binds rfl succeeds
      subst written
      obtain ⟨ledger'', rest⟩ := ih scope standing' ledger' rfl
      refine ⟨?_, rest⟩
      rw [Trace.calls_append, calls, ← List.append_assoc]
      exact ledger''

/-- In the end the handles are known that every operation of a connection passes. -/
theorem Logon.mem_knownAfter_rungs (protocol : Protocol) (dsn : Dsn) :
    .error ∈ knownAfter [] (rungs protocol dsn) ∧
      .serviceContext ∈ knownAfter [] (rungs protocol dsn) := by
  cases protocol with
  | session =>
    by_cases h : dsn.externalAuth <;>
      simp [knownAfter, rungs, protocolRungs, credentialRungs, h, Rung.writes?]
  | direct => simp [knownAfter, rungs, protocolRungs, Rung.writes?]

/-! ### Opening a connection -/

/-- A connection that can be used and released: what it owns can be given back, and while it is open
    the handles that its operations pass are owned. -/
structure Connection.Sound (c : Connection) : Prop where
  grounded : Grounded c.held
  usable : c.closed = false → c.error ∈ owned c.held ∧ c.logon.service ∈ owned c.held

/-- A connection from a climb that reached the top is sound. -/
theorem Driver.sound_connection (d : Driver) (dsn : Dsn) (id : UInt32) {hs : Handles}
    {held : List Resource} (grounded : Grounded held)
    (holds : ∀ kind ∈ knownAfter [] (rungs d.protocol dsn), hs kind ∈ owned held) :
    (d.connection dsn id hs held).Sound where
  grounded := grounded
  usable _ := by
    obtain ⟨error, service⟩ := mem_knownAfter_rungs d.protocol dsn
    have logon : (d.connection dsn id hs held).logon.service = hs .serviceContext := by
      rw [connection]
      cases d.protocol <;> rfl
    rw [logon]
    exact ⟨holds _ error, holds _ service⟩

/-- What is live behind an attempt to open a connection: what a sound connection owns, or nothing in
    addition. -/
def Opened (others : List Resource) (result : Except Error Connection) (live : List Resource) :
    Prop :=
  match result with
  | .ok c => c.Sound ∧ live = c.held ++ others
  | .error _ => live = others

/-- **Opening a connection keeps the books.** A connection that was opened is sound and what it owns
    is live; a failed attempt leaves nothing. -/
theorem Driver.keeps_openDsn (d : Driver) (dsn : Dsn) (others : List Resource) :
    Keeps (d.openDsn dsn) others (Opened others) := by
  intro past w ledger
  have start : Standing [] [] (fun _ => ⟨1, Nat.one_pos⟩) [] past :=
    ⟨by simp, by simp, trivial⟩
  obtain ⟨climbed, grounded, top⟩ := climb_keeps w.attempts dsn others
    (inScope_rungs d.protocol dsn) start (w := { w with attempts := w.attempts + 1 }) ledger rfl
  rcases d.run_openDsn dsn (fun _ => ⟨1, Nat.one_pos⟩) w rfl with
    ⟨last, held, ended, value, world, calls⟩ | ⟨e, held, ended, value, world, calls⟩
  · rw [value, world, calls]
    rw [ended] at climbed grounded top
    exact ⟨_, ⟨d.sound_connection dsn w.attempts grounded (top last rfl), rfl⟩, climbed⟩
  · rw [value, world, calls]
    rw [ended] at climbed grounded
    obtain ⟨live, ⟨-, rfl⟩, released⟩ := keeps_releaseAll grounded others _ _ climbed
    rw [← List.append_assoc]
    exact ⟨_, rfl, released⟩

end DatabaseLogon

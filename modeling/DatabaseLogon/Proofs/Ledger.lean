import DatabaseLogon.Client.Script
import DatabaseLogon.Proofs.CallLog
import Mathlib.Data.List.Nodup

namespace DatabaseLogon

/-!
# Keeping account of resources

Two properties of a whole log, and the invariant from which both follow.

* `Orderly` — every call passes only handles that were produced before and are not retired yet, and
  frees a handle as what it was allocated as.
* `Settled` — everything that was acquired was given back exactly once.
* `Ledger` — the invariant: it relates the log so far to the resources that are live. There is one
  law for each thing that may happen next: `Ledger.pass`, `Ledger.acquire`, `Ledger.giveBack` and
  `Ledger.discard`.
* `Ledger.settled` — when nothing is live any more, everything is settled.
-/

namespace Call

/-- Does a call free this handle? -/
def frees (h : Handle) : Call → Bool
  | .handleFree h' _ => h' = h
  | _ => false

/-- Does a call log this service context off? -/
def logsOff (service : Handle) : Call → Bool
  | .logoff service' _ => service' = service
  | _ => false

/-- Does a call detach this server? -/
def detaches (server : Handle) : Call → Bool
  | .serverDetach server' _ => server' = server
  | _ => false

/-- Does a call end this session? -/
def ends (user : Handle) : Call → Bool
  | .sessionEnd _ _ user' => user' = user
  | _ => false

end Call

/-! ### Orderly logs -/

namespace CallLog

/-- A handle was produced by a call of the log that succeeded. -/
def Produced (log : CallLog) (h : Handle) : Prop :=
  ∃ e ∈ log, ∃ kind, e.1.produces? e.2 = some (h, kind)

/-- A handle came with the failure of the last call of the log. -/
def Orphan (log : CallLog) (h : Handle) : Prop :=
  ∃ e ∈ log.getLast?, e.1.leaves? e.2 = some (.handle h .environment)

/-- A handle was freed or logged off in the log. -/
def Retired (log : CallLog) (h : Handle) : Prop :=
  ∃ e ∈ log, e.1.frees h ∨ e.1.logsOff h

end CallLog

/-- A call may follow a log: the handles that it passes are there, unless it frees the handle that
    came with a failure just before; none of them is retired; and what it gives back was acquired
    with the same handles and, if it is a handle, as a handle of the same kind. -/
structure Admissible (past : CallLog) (c : Call) : Prop where
  produced : ∀ h ∈ c.handles,
    past.Produced h ∨ c = .handleFree h .environment ∧ past.Orphan h
  current : ∀ h ∈ c.handles, ¬ past.Retired h
  owed : ∀ r, c.releases? = some r → r ∈ past.acquired ++ past.orphaned

/-- Every call of a log is admissible behind the calls before it. -/
def Orderly (log : CallLog) : Prop :=
  ∀ before e after, log = before ++ e :: after → Admissible before e.1

theorem Orderly.nil : Orderly [] := by
  intro before e after h
  simp at h

/-- A log grows orderly by a call that is admissible. -/
theorem Orderly.concat {log : CallLog} (h : Orderly log) {e : Call × Reply}
    (he : Admissible log e.1) : Orderly (log ++ [e]) := by
  intro before e' after heq
  -- the call in question is the new one, or it lies in the log as it was
  rcases List.eq_nil_or_concat after with rfl | ⟨after', last, rfl⟩
  · obtain ⟨rfl, hlast⟩ := List.append_inj' heq rfl
    cases hlast
    exact he
  · rw [List.concat_eq_append, ← List.cons_append, ← List.append_assoc] at heq
    obtain ⟨rfl, -⟩ := List.append_inj' heq rfl
    exact h before e' after' rfl

/-! ### Settled logs -/

/-- Everything that was acquired in a log, or came with a failure, was given back in it, with the
    same handles, and exactly once: handles were freed, service contexts from a logon were logged
    off, servers were detached and sessions were ended. -/
structure Settled (log : CallLog) : Prop where
  givenBack : ∀ r ∈ log.acquired ++ log.orphaned, r.giveBack ∈ log.map Prod.fst
  freed : ∀ h kind, .handle h kind ∈ log.acquired ++ log.orphaned →
    log.countP (fun e => e.1.frees h) = 1
  loggedOff : ∀ service error, .logon service error ∈ log.acquired →
    log.countP (fun e => e.1.logsOff service) = 1
  detached : ∀ server error, .attachment server error ∈ log.acquired →
    log.countP (fun e => e.1.detaches server) = 1
  ended : ∀ service error user, .session service error user ∈ log.acquired →
    log.countP (fun e => e.1.ends user) = 1

/-! ### The invariant -/

/-- What is acquired at most once: to own a handle, and to put a handle of some kind to use. -/
inductive Title where
  | owned (h : Handle)
  | bound (kind : HandleKind) (h : Handle)
  deriving DecidableEq

/-- The handle that a title is about. -/
def Title.handle : Title → Handle
  | owned h => h
  | bound _ h => h

/-- What a resource stands for. -/
def Resource.title : Resource → Title
  | .handle h _ => .owned h
  | .attachment server _ => .bound .server server
  | .session _ _ user => .bound .session user
  | .logon service _ => .owned service

/-- The handles that resources own. -/
def owned (rs : List Resource) : List Handle :=
  rs.filterMap fun r =>
    match r.title with
    | .owned h => some h
    | .bound .. => none

theorem mem_owned {rs : List Resource} {h : Handle} :
    h ∈ owned rs ↔ ∃ r ∈ rs, r.title = .owned h := by
  rw [owned, List.mem_filterMap]
  apply exists_congr
  intro r
  apply and_congr_right
  intro _
  cases r.title <;> simp

theorem owned_append (a b : List Resource) : owned (a ++ b) = owned a ++ owned b :=
  List.filterMap_append

/-- The titles that were acquired in a log, or came with failures. -/
def CallLog.titles (log : CallLog) : List Title :=
  (log.acquired ++ log.orphaned).map Resource.title

theorem CallLog.titles_append (a b : CallLog) : (titles (a ++ b)).Perm (titles b ++ titles a) := by
  rw [titles, titles, titles, ← List.map_append]
  apply List.Perm.map
  apply List.perm_iff_count.mpr
  intro res
  simp only [acquired_append, orphaned_append, List.count_append]
  omega

theorem CallLog.mem_titles_append {a b : CallLog} {t : Title} :
    t ∈ titles (a ++ b) ↔ t ∈ titles b ∨ t ∈ titles a := by
  rw [(titles_append a b).mem_iff, List.mem_append]

/-- A call that acquires something has its title. -/
theorem CallLog.titles_of_acquires {c : Call} {r : Reply} {res : Resource}
    (acquires : c.acquires? r = some res) : titles [(c, r)] = [res.title] := by
  have leaves := Call.leaves?_eq_none_of_succeeds (Call.succeeds_of_acquires? acquires)
  simp [titles, acquired, orphaned, acquires, leaves]

/-- A call that acquires nothing and leaves nothing behind has no title. -/
theorem CallLog.titles_of_passes {c : Call} {r : Reply} (acquires : c.acquires? r = none)
    (leaves : c.leaves? r = none) : titles [(c, r)] = [] := by
  simp [titles, acquired, orphaned, acquires, leaves]

/-- The books after a log. What was acquired or came with a failure is live or was given back; what
    is live was acquired. No title was acquired twice, and all of them are about handles that were
    issued. -/
structure Ledger (past : CallLog) (issued : Nat) (live : List Resource) : Prop where
  orderly : Orderly past
  balance : (past.acquired ++ past.orphaned).Perm (live ++ past.released)
  acquired : ∀ r ∈ live, r ∈ past.acquired
  distinct : past.titles.Nodup
  issued : ∀ t ∈ past.titles, ∃ n < issued, t.handle = Script.handle n

namespace Ledger

variable {past : CallLog} {issued issued' : Nat} {live live' : List Resource} {c : Call} {r : Reply}

/-- Before the first call the books are empty. -/
theorem nil (issued : Nat) : Ledger [] issued [] where
  orderly := .nil
  balance := .refl _
  acquired := by simp
  distinct := .nil
  issued := by simp [CallLog.titles]

/-- The order of what is live does not matter. -/
theorem perm (ledger : Ledger past issued live) (h : live.Perm live') :
    Ledger past issued live' where
  orderly := ledger.orderly
  balance := ledger.balance.trans (h.append_right _)
  acquired r hr := ledger.acquired r (h.mem_iff.mpr hr)
  distinct := ledger.distinct
  issued := ledger.issued

/-- What is live and what was given back have different titles. -/
theorem nodup_titles (ledger : Ledger past issued live) :
    ((live ++ past.released).map Resource.title).Nodup :=
  (ledger.balance.map Resource.title).nodup_iff.mp ledger.distinct

/-- What was given back had a title. -/
theorem title_mem_of_released (ledger : Ledger past issued live) {res : Resource}
    (given : res ∈ past.released) : res.title ∈ past.titles :=
  List.mem_map_of_mem (ledger.balance.mem_iff.mpr (List.mem_append_right live given))

/-- Every retirement of a handle gives back a resource that owns it. -/
theorem exists_released_of_retired {h : Handle} (retired : past.Retired h) :
    ∃ res ∈ past.released, res.title = .owned h := by
  obtain ⟨e, he, gone⟩ := retired
  have given : ∃ res, e.1.releases? = some res ∧ res.title = .owned h := by
    cases hc : e.1 <;> simp_all [Call.frees, Call.logsOff, Call.releases?, Resource.title]
  obtain ⟨res, hres, title⟩ := given
  exact ⟨res, List.mem_filterMap.mpr ⟨e, he, hres⟩, title⟩

/-- To acquire a resource that owns a handle is to produce the handle. -/
theorem produces?_of_acquires? {res : Resource} {h : Handle} (acquires : c.acquires? r = some res)
    (title : res.title = .owned h) : ∃ kind, c.produces? r = some (h, kind) := by
  by_cases succeeds : c.succeeds r
  · rw [Call.acquires?_of_succeeds succeeds] at acquires
    cases c <;> cases hr : r.handle <;> rw [hr] at acquires <;> cases acquires <;> cases title <;>
      exact ⟨_, by rw [Call.produces?, if_pos succeeds, hr]; rfl⟩
  · rw [Call.acquires?_eq_none_of_not_succeeds succeeds] at acquires
    cases acquires

/-- A handle that is owned by something live was produced and is not retired. -/
theorem current (ledger : Ledger past issued live) {h : Handle} (hh : h ∈ owned live) :
    past.Produced h ∧ ¬ past.Retired h := by
  obtain ⟨res, hres, title⟩ := mem_owned.mp hh
  constructor
  · obtain ⟨e, he, acquires⟩ := List.mem_filterMap.mp (ledger.acquired res hres)
    exact ⟨e, he, produces?_of_acquires? acquires title⟩
  · intro retired
    obtain ⟨res', given, title'⟩ := exists_released_of_retired retired
    have titles := ledger.nodup_titles
    rw [List.map_append, List.nodup_append] at titles
    exact titles.2.2 _ (List.mem_map_of_mem hres) _ (List.mem_map_of_mem given)
      (title.trans title'.symm)

/-- A handle that is owned by something live was issued. -/
theorem issued_of_owned (ledger : Ledger past issued live) {h : Handle} (hh : h ∈ owned live) :
    ∃ n < issued, h = Script.handle n := by
  obtain ⟨res, hres, title⟩ := mem_owned.mp hh
  have mem : Title.owned h ∈ past.titles :=
    title ▸ List.mem_map_of_mem (List.mem_append_left _ (ledger.acquired res hres))
  exact ledger.issued _ mem

/-- A call that passes live handles and gives back something live, if anything, is admissible. -/
theorem admissible (ledger : Ledger past issued live) (handles : ∀ h ∈ c.handles, h ∈ owned live)
    (owed : ∀ res, c.releases? = some res → res ∈ live) : Admissible past c where
  produced h hh := .inl (ledger.current (handles h hh)).1
  current h hh := (ledger.current (handles h hh)).2
  owed res hres := List.mem_append_left _ (ledger.acquired res (owed res hres))

/-! ### What may happen next -/

/-- The books grow by calls whose titles are new. -/
theorem grow (ledger : Ledger past issued live) {new : CallLog} (orderly : Orderly (past ++ new))
    (le : issued ≤ issued') (distinct : new.titles.Nodup)
    (fresh : ∀ t ∈ new.titles, t ∉ past.titles ∧ ∃ n < issued', t.handle = Script.handle n)
    (balance : (live ++ (new.acquired ++ new.orphaned)).Perm (live' ++ new.released))
    (acquired : ∀ res ∈ live', res ∈ live ∨ res ∈ new.acquired) :
    Ledger (past ++ new) issued' live' where
  orderly := orderly
  balance := by
    apply List.perm_iff_count.mpr
    intro res
    have before := ledger.balance.count_eq res
    have now := balance.count_eq res
    simp only [CallLog.acquired_append, CallLog.orphaned_append, CallLog.released_append,
      List.count_append] at before now ⊢
    omega
  acquired res hres := by
    rw [CallLog.acquired_append, List.mem_append]
    exact (acquired res hres).imp (ledger.acquired res) id
  distinct := by
    rw [(CallLog.titles_append past new).nodup_iff, List.nodup_append]
    refine ⟨distinct, ledger.distinct, ?_⟩
    rintro t ht t' ht' rfl
    exact (fresh t ht).1 ht'
  issued t ht := by
    rcases List.mem_append.mp ((CallLog.titles_append past new).mem_iff.mp ht) with ht | ht
    · exact (fresh t ht).2
    · obtain ⟨n, hn, eq⟩ := ledger.issued t ht
      exact ⟨n, Nat.lt_of_lt_of_le hn le, eq⟩

/-- A call that only uses what is live. -/
theorem pass (ledger : Ledger past issued live) (handles : ∀ h ∈ c.handles, h ∈ owned live)
    (releases : c.releases? = none) (acquires : c.acquires? r = none) (leaves : c.leaves? r = none)
    (le : issued ≤ issued') : Ledger (past ++ [(c, r)]) issued' live := by
  have orderly := ledger.orderly.concat (e := (c, r))
    (ledger.admissible handles (by simp [releases]))
  have titles := CallLog.titles_of_passes acquires leaves
  refine ledger.grow orderly le (by simp [titles]) (by simp [titles]) ?_ (fun _ hres => .inl hres)
  rw [CallLog.acquired_singleton, CallLog.orphaned_singleton, CallLog.released_singleton, acquires,
    leaves, releases]
  exact .refl _

/-- A call that acquires something new. -/
theorem acquire (ledger : Ledger past issued live) {res : Resource}
    (handles : ∀ h ∈ c.handles, h ∈ owned live) (acquires : c.acquires? r = some res)
    (fresh : res.title ∉ past.titles) (known : ∃ n < issued', res.title.handle = Script.handle n)
    (le : issued ≤ issued') : Ledger (past ++ [(c, r)]) issued' (res :: live) := by
  have releases : c.releases? = none := by
    apply Call.releases?_eq_none_of_climbs
    rw [Bool.eq_false_iff]
    intro descends
    rw [Call.acquires?_eq_none_of_descends descends] at acquires
    cases acquires
  have leaves := Call.leaves?_eq_none_of_succeeds (Call.succeeds_of_acquires? acquires)
  have orderly := ledger.orderly.concat (e := (c, r))
    (ledger.admissible handles (by simp [releases]))
  have titles := CallLog.titles_of_acquires acquires
  refine ledger.grow orderly le ?_ ?_ ?_ ?_
  · rw [titles]
    exact List.nodup_singleton _
  · rw [titles]
    intro t ht
    rw [List.mem_singleton.mp ht]
    exact ⟨fresh, known⟩
  · rw [CallLog.acquired_singleton, CallLog.orphaned_singleton, CallLog.released_singleton,
      acquires, leaves, releases]
    show (live ++ [res]).Perm (res :: live ++ [])
    rw [List.append_nil]
    exact List.perm_append_singleton _ _
  · rw [CallLog.acquired_singleton, acquires]
    intro res' hres'
    rcases List.mem_cons.mp hres' with rfl | mem
    · exact .inr (List.mem_singleton_self _)
    · exact .inl mem

/-- Something live is given back. -/
theorem giveBack {res : Resource} (ledger : Ledger past issued (res :: live))
    (handles : ∀ h ∈ res.giveBack.handles, h ∈ owned (res :: live)) (le : issued ≤ issued') :
    Ledger (past ++ [(res.giveBack, r)]) issued' live := by
  have orderly := ledger.orderly.concat (e := (res.giveBack, r))
    (ledger.admissible handles (by simp))
  have acquires : res.giveBack.acquires? r = none :=
    Call.acquires?_eq_none_of_descends (Resource.descends_giveBack res) r
  have leaves : res.giveBack.leaves? r = none := Resource.leaves?_giveBack res r
  have titles : CallLog.titles [(res.giveBack, r)] = [] := CallLog.titles_of_passes acquires leaves
  refine ledger.grow orderly le (by simp [titles]) (by simp [titles]) ?_
    (fun _ hres => .inl (List.mem_cons_of_mem _ hres))
  rw [CallLog.acquired_singleton, CallLog.orphaned_singleton, CallLog.released_singleton, acquires,
    leaves, Resource.releases?_giveBack]
  show (res :: live ++ []).Perm (live ++ [res])
  rw [List.append_nil]
  exact (List.perm_append_singleton _ _).symm

/-- The handle that came with a failure may be freed right behind it. -/
theorem admissible_discard (ledger : Ledger past issued live) {h : Handle}
    (leaves : c.leaves? r = some (.handle h .environment)) (fresh : .owned h ∉ past.titles) :
    Admissible (past ++ [(c, r)]) (.handleFree h .environment) := by
  constructor
  · intro h' hh'
    rw [List.mem_singleton.mp hh']
    exact .inr ⟨rfl, (c, r), by simp, leaves⟩
  · intro h' hh' retired
    -- whatever was given back before had a title, and that of this handle is fresh
    obtain ⟨res, given, title⟩ := exists_released_of_retired retired
    rw [CallLog.released_append, CallLog.released_singleton,
      (Call.nothing_of_leaves? leaves).2.1, Option.toList_none, List.append_nil] at given
    rw [List.mem_singleton.mp hh'] at title
    exact fresh (title ▸ ledger.title_mem_of_released given)
  · intro res hres
    cases hres
    exact List.mem_append_right _ (List.mem_filterMap.mpr ⟨(c, r), by simp, leaves⟩)

/-- A handle that came with a failure is freed at once. -/
theorem discard (ledger : Ledger past issued live) {h : Handle} {r' : Reply}
    (leaves : c.leaves? r = some (.handle h .environment)) (fresh : .owned h ∉ past.titles)
    (known : ∃ n < issued', h = Script.handle n) (le : issued ≤ issued') :
    Ledger (past ++ [(c, r), (.handleFree h .environment, r')]) issued' live := by
  obtain ⟨acquires, releases, handles⟩ := Call.nothing_of_leaves? leaves
  have acquires' : (Call.handleFree h .environment).acquires? r' = none :=
    Call.acquires?_eq_none_of_descends rfl r'
  have leaves' : (Call.handleFree h .environment).leaves? r' = none := rfl
  have releases' : (Call.handleFree h .environment).releases? = some (.handle h .environment) := rfl
  have orphaned : CallLog.orphaned [(c, r), (.handleFree h .environment, r')]
      = [.handle h .environment] := by
    simp [CallLog.orphaned, leaves, leaves']
  have acquired : CallLog.acquired [(c, r), (.handleFree h .environment, r')] = [] := by
    simp [CallLog.acquired, acquires, acquires']
  have titles : CallLog.titles [(c, r), (.handleFree h .environment, r')] = [.owned h] := by
    simp [CallLog.titles, acquired, orphaned, Resource.title]
  have first := ledger.orderly.concat (e := (c, r))
    (ledger.admissible (by simp [handles]) (by simp [releases]))
  have orderly := first.concat (e := (.handleFree h .environment, r'))
    (ledger.admissible_discard leaves fresh)
  rw [List.append_assoc] at orderly
  refine ledger.grow orderly le ?_ ?_ ?_ (fun _ hres => .inl hres)
  · rw [titles]
    exact List.nodup_singleton _
  · rw [titles]
    intro t ht
    rw [List.mem_singleton.mp ht]
    exact ⟨fresh, known⟩
  · rw [acquired, orphaned]
    simp [CallLog.released, releases, releases']

/-! ### When nothing is live -/

/-- Of what was given back with a title there is one only. -/
theorem countP_eq_one (ledger : Ledger past issued []) {res : Resource}
    (mem : res ∈ past.acquired ++ past.orphaned) (p : Call → Bool) (self : p res.giveBack)
    (only : ∀ c, p c → ∃ res', c.releases? = some res' ∧ res'.title = res.title) :
    past.countP (fun e => p e.1) = 1 := by
  have given : res ∈ past.released := ledger.balance.mem_iff.mp mem
  -- every call that `p` accepts gives something back, so the resources may be counted instead
  have counted :
      past.countP (fun e => p e.1) = past.released.countP (fun res => p res.giveBack) := by
    rw [CallLog.released, List.countP_filterMap]
    apply List.countP_congr
    intro e _
    cases hres : e.1.releases? with
    | some res' =>
      rw [Resource.eq_giveBack_of_releases? hres]
      rfl
    | none =>
      refine iff_of_false (fun hp => ?_) (by simp)
      obtain ⟨res', hres', -⟩ := only _ hp
      rw [hres] at hres'
      cases hres'
  have titles : (past.released.map Resource.title).Nodup := by
    simpa using ledger.nodup_titles
  -- and among these no other one has the title of `res`
  have unique : ∀ res' ∈ past.released, p res'.giveBack ↔ (res' == res) := by
    intro res' given'
    rw [beq_iff_eq]
    refine ⟨fun hp => ?_, fun eq => eq ▸ self⟩
    obtain ⟨res'', releases, title⟩ := only _ hp
    rw [Resource.releases?_giveBack, Option.some.injEq] at releases
    subst releases
    exact List.inj_on_of_nodup_map titles given' given title
  rw [counted, List.countP_congr unique]
  exact List.count_eq_one_of_mem (List.Nodup.of_map _ titles) given

/-- **When nothing is live any more, everything is settled.** -/
theorem settled (ledger : Ledger past issued []) : Settled past where
  givenBack res mem := by
    have given : res ∈ past.released := ledger.balance.mem_iff.mp mem
    obtain ⟨e, he, releases⟩ := List.mem_filterMap.mp given
    exact Resource.eq_giveBack_of_releases? releases ▸ List.mem_map_of_mem he
  freed h kind mem := by
    refine ledger.countP_eq_one mem (Call.frees h) (by simp [Resource.giveBack, Call.frees]) ?_
    intro c hc
    cases c <;> simp_all [Call.frees, Call.releases?, Resource.title]
  loggedOff service error mem := by
    refine ledger.countP_eq_one (List.mem_append_left _ mem) (Call.logsOff service)
      (by simp [Resource.giveBack, Call.logsOff]) ?_
    intro c hc
    cases c <;> simp_all [Call.logsOff, Call.releases?, Resource.title]
  detached server error mem := by
    refine ledger.countP_eq_one (List.mem_append_left _ mem) (Call.detaches server)
      (by simp [Resource.giveBack, Call.detaches]) ?_
    intro c hc
    cases c <;> simp_all [Call.detaches, Call.releases?, Resource.title]
  ended service error user mem := by
    refine ledger.countP_eq_one (List.mem_append_left _ mem) (Call.ends user)
      (by simp [Resource.giveBack, Call.ends]) ?_
    intro c hc
    cases c <;> simp_all [Call.ends, Call.releases?, Resource.title]

end Ledger

end DatabaseLogon

import DatabaseLogon.Action
import DatabaseLogon.Resource

namespace DatabaseLogon

/-!
# What a log of calls tells about resources

A call log is what the client library sees: the calls in order, each with its reply. From the log
alone one can tell which resources were acquired and which were given back, with the handles that
the library itself issued or received.

* `Call.handles` — the handles that a call passes to the library.
* `Call.succeeds` — the rule of success of a call.
* `Call.owes?`, `Call.asks?` — the error handle whose diagnostic a failed call leaves to be read,
  and the one whose diagnostic a call reads.
* `Call.acquires?`, `Call.leaves?`, `Call.releases?` — the resource that a call acquires, that a
  failed one leaves behind, that a call gives back.
* `Resource.giveBack` — the call that gives a resource back.
* `CallLog.acquired`, `CallLog.orphaned`, `CallLog.released` — the same for a whole log, in order.
* `CallLog.climbing` — the log without the calls that give something back or read a diagnostic.
* `CallLog.acquired_split` — where a way up is followed by a way down, the one acquires and the
  other releases.
-/

/-- Calls with their replies, oldest first. -/
abbrev CallLog := List (Call × Reply)

/-- The handles in the value of an attribute. -/
def AttributeValue.handles : AttributeValue → List Handle
  | .handle h => [h]
  | .text _ => []

namespace Call

/-- The handles that a call passes to the library. -/
def handles : Call → List Handle
  | .envCreate _ => []
  | .handleAlloc parent _ => [parent]
  | .handleFree h _ => [h]
  | .serverAttach server error _ => [server, error]
  | .serverDetach server error => [server, error]
  | .attrSet target _ _ value error => target :: (value.handles ++ [error])
  | .sessionBegin service error session _ _ => [service, error, session]
  | .sessionEnd service error session => [service, error, session]
  | .logon environment error _ _ _ => [environment, error]
  | .logoff service error => [service, error]
  | .transStart service error _ _ => [service, error]
  | .transCommit service error => [service, error]
  | .transRollback service error => [service, error]
  | .ping service error => [service, error]
  | .errorGet error => [error]

/-- The error handle that a call passes, about which a diagnostic may be read if it fails. -/
def error? : Call → Option Handle
  | .serverAttach _ error _ | .serverDetach _ error | .attrSet _ _ _ _ error
  | .sessionBegin _ error _ _ _ | .sessionEnd _ error _ | .logon _ error _ _ _ | .logoff _ error
  | .transStart _ error _ _ | .transCommit _ error | .transRollback _ error | .ping _ error =>
    some error
  | .envCreate _ | .handleAlloc .. | .handleFree .. | .errorGet _ => none

/-- The error handle is one of the handles that a call passes. -/
theorem mem_handles_of_error? {c : Call} {error : Handle} (h : c.error? = some error) :
    error ∈ c.handles := by
  cases c <;> simp_all [error?, handles]

/-- The error handle that holds a diagnostic to be read after a call: the one that the call passed,
    if it returned the code for errors. -/
def owes? (c : Call) (r : Reply) : Option Handle :=
  if r.code = -1 then c.error? else none

theorem owes?_eq_some_iff {c : Call} {r : Reply} {error : Handle} :
    c.owes? r = some error ↔ r.code = -1 ∧ c.error? = some error := by
  rw [owes?, Option.ite_none_right_eq_some]

theorem owes?_eq_none_of_error? {c : Call} (h : c.error? = none) (r : Reply) :
    c.owes? r = none := by
  rw [owes?, h, ite_self]

/-- The error handle whose diagnostic a call reads. -/
def asks? : Call → Option Handle
  | .errorGet error => some error
  | _ => none

/-- Does a return code mean success? Creating an environment, beginning a session and logging on
    may come with a remark. -/
def accepts (c : Call) (code : Int) : Bool :=
  match c.entryPoint with
  | .envCreate | .sessionBegin | .logon => code = 0 || code = 1
  | _ => code = 0

/-- Did a call succeed? One that should produce a handle must have written it. -/
def succeeds (c : Call) (r : Reply) : Bool :=
  c.accepts r.code && (!c.entryPoint.producesHandle || r.handle.isSome)

/-- The code for errors means success of no call. -/
theorem not_accepts_error (c : Call) : c.accepts (-1) = false := by
  rw [accepts]
  cases c <;> rfl

/-- A call that succeeds leaves no diagnostic to be read. -/
theorem owes?_eq_none_of_succeeds {c : Call} {r : Reply} (h : c.succeeds r) :
    c.owes? r = none := by
  rw [owes?, if_neg]
  intro failed
  rw [succeeds, failed, not_accepts_error] at h
  cases h

/-- The kind of the handle that a call produces. -/
def writes? : Call → Option HandleKind
  | .envCreate _ => some .environment
  | .handleAlloc _ kind => some kind
  | .logon .. => some .serviceContext
  | _ => none

/-- The handle that a call produced, with its kind. -/
def produces? (c : Call) (r : Reply) : Option (Handle × HandleKind) :=
  if c.succeeds r then c.writes?.bind fun kind => r.handle.map (·, kind) else none

/-- A call that produced a handle succeeded, and wrote it as one of its kind. -/
theorem written_of_produces? {c : Call} {r : Reply} {h : Handle} {kind : HandleKind}
    (produced : c.produces? r = some (h, kind)) :
    c.succeeds r ∧ c.writes? = some kind ∧ r.handle = some h := by
  rw [produces?] at produced
  split at produced
  · obtain ⟨kind', hkind, paired⟩ := Option.bind_eq_some_iff.mp produced
    obtain ⟨h', hh, same⟩ := Option.map_eq_some_iff.mp paired
    cases same
    exact ⟨‹_›, hkind, hh⟩
  · cases produced

/-- The resource that a call is there to acquire, given the handle that it wrote. -/
def resource? : Call → Option Handle → Option Resource
  | .envCreate _, some h => some (.handle h .environment)
  | .handleAlloc _ kind, some h => some (.handle h kind)
  | .serverAttach server error _, _ => some (.attachment server error)
  | .sessionBegin service error session _ _, _ => some (.session service error session)
  | .logon _ error _ _ _, some h => some (.logon h error)
  | _, _ => none

/-- The resource that a call acquired. -/
def acquires? (c : Call) (r : Reply) : Option Resource :=
  if c.succeeds r then c.resource? r.handle else none

/-- The resource that a failed call left behind, which nobody owns: an environment that came with
    the failure to create it. -/
def leaves? (c : Call) (r : Reply) : Option Resource :=
  match c with
  | .envCreate _ => if c.accepts r.code then none else r.handle.map (.handle · .environment)
  | _ => none

/-- What a failed call left behind is the handle that it wrote. -/
theorem handle_of_leaves? {c : Call} {r : Reply} {h : Handle} {kind : HandleKind}
    (leaves : c.leaves? r = some (.handle h kind)) : r.handle = some h := by
  -- only the creation of an environment leaves anything behind
  cases c with
  | envCreate mode =>
    rw [leaves?] at leaves
    split at leaves
    · cases leaves
    · obtain ⟨h', written, eq⟩ := Option.map_eq_some_iff.mp leaves
      cases eq
      exact written
  | _ => cases leaves

/-- The resource that a call gives back. -/
def releases? : Call → Option Resource
  | .handleFree h kind => some (.handle h kind)
  | .serverDetach server error => some (.attachment server error)
  | .sessionEnd service error session => some (.session service error session)
  | .logoff service error => some (.logon service error)
  | _ => none

/-- Does a call read a diagnostic? -/
def reads (c : Call) : Bool :=
  c.entryPoint = .errorGet

/-- Does a call give something back or read a diagnostic? -/
def descends (c : Call) : Bool :=
  c.releases?.isSome || c.reads

theorem releases?_eq_none_of_climbs {c : Call} (h : c.descends = false) : c.releases? = none := by
  rw [descends, Bool.or_eq_false_iff] at h
  exact Option.isNone_iff_eq_none.mp (Option.isSome_eq_false_iff.mp h.1)

theorem asks?_eq_none_of_climbs {c : Call} (h : c.descends = false) : c.asks? = none := by
  cases c with
  | errorGet error => cases h
  | _ => rfl

/-- What descends acquires nothing. -/
theorem acquires?_eq_none_of_descends {c : Call} (h : c.descends) (r : Reply) :
    c.acquires? r = none := by
  -- the calls that give back or read are none of those that are there for a resource
  have nothing : c.resource? r.handle = none := by
    cases c <;> first | rfl | cases h
  rw [acquires?, nothing, ite_self]

/-- What descends leaves nothing behind. -/
theorem leaves?_eq_none_of_descends {c : Call} (h : c.descends) (r : Reply) :
    c.leaves? r = none := by
  cases c <;> first | rfl | cases h

theorem leaves?_eq_none_of_succeeds {c : Call} {r : Reply} (h : c.succeeds r) :
    c.leaves? r = none := by
  simp only [succeeds, Bool.and_eq_true] at h
  cases c <;> simp [leaves?, h.1]

theorem acquires?_eq_none_of_not_succeeds {c : Call} {r : Reply} (h : ¬ c.succeeds r) :
    c.acquires? r = none := by
  simp [acquires?, h]

theorem succeeds_of_acquires? {c : Call} {r : Reply} {res : Resource}
    (h : c.acquires? r = some res) : c.succeeds r := by
  apply Decidable.byContradiction
  intro fails
  rw [acquires?_eq_none_of_not_succeeds fails] at h
  cases h

theorem acquires?_of_succeeds {c : Call} {r : Reply} (h : c.succeeds r) :
    c.acquires? r = c.resource? r.handle := by
  simp [acquires?, h]

/-- Only the creation of an environment leaves anything behind; it passes no handle. -/
theorem nothing_of_leaves? {c : Call} {r : Reply} {res : Resource}
    (leaves : c.leaves? r = some res) :
    c.acquires? r = none ∧ c.releases? = none ∧ c.handles = [] := by
  cases c with
  | envCreate mode =>
    have fails : ¬ (envCreate mode).succeeds r := by
      intro succeeds
      rw [leaves?_eq_none_of_succeeds succeeds] at leaves
      cases leaves
    exact ⟨acquires?_eq_none_of_not_succeeds fails, rfl, rfl⟩
  | _ => cases leaves

/-- So it passes no error handle either. -/
theorem error?_eq_none_of_leaves? {c : Call} {r : Reply} {res : Resource}
    (leaves : c.leaves? r = some res) : c.error? = none := by
  apply Option.eq_none_iff_forall_ne_some.mpr
  intro error passed
  have mem := mem_handles_of_error? passed
  rw [(nothing_of_leaves? leaves).2.2] at mem
  cases mem

end Call

namespace Resource

/-- The call that gives a resource back. -/
def giveBack : Resource → Call
  | .handle h kind => .handleFree h kind
  | .attachment server error => .serverDetach server error
  | .session service error user => .sessionEnd service error user
  | .logon service error => .logoff service error

@[simp] theorem releases?_giveBack (r : Resource) : r.giveBack.releases? = some r := by
  cases r <;> rfl

/-- A call that gives a resource back is the one for this resource. -/
theorem eq_giveBack_of_releases? {c : Call} {r : Resource} (h : c.releases? = some r) :
    c = r.giveBack := by
  cases c <;> cases h <;> rfl

@[simp] theorem leaves?_giveBack (r : Resource) (reply : Reply) :
    r.giveBack.leaves? reply = none := by
  cases r <;> rfl

@[simp] theorem descends_giveBack (r : Resource) : r.giveBack.descends := by
  cases r <;> rfl

/-- To give something back reads nothing. -/
theorem asks?_giveBack (r : Resource) : r.giveBack.asks? = none := by
  cases r <;> rfl

end Resource

namespace CallLog

/-- The resources that were acquired, in order. -/
def acquired (log : CallLog) : List Resource :=
  log.filterMap fun e => e.1.acquires? e.2

/-- The resources that failed calls left behind, in order. -/
def orphaned (log : CallLog) : List Resource :=
  log.filterMap fun e => e.1.leaves? e.2

/-- The resources that were given back, in order, whether the library agreed or not. -/
def released (log : CallLog) : List Resource :=
  log.filterMap fun e => e.1.releases?

/-- The calls that neither give something back nor read a diagnostic. -/
def climbing (log : CallLog) : CallLog :=
  log.filter fun e => !e.1.descends

@[simp] theorem acquired_nil : acquired [] = [] := rfl

@[simp] theorem acquired_append (a b : CallLog) : acquired (a ++ b) = acquired a ++ acquired b :=
  List.filterMap_append

theorem acquired_cons (e : Call × Reply) (log : CallLog) :
    acquired (e :: log) = (e.1.acquires? e.2).toList ++ acquired log := by
  cases h : e.1.acquires? e.2 <;> simp [acquired, h]

theorem acquired_singleton (e : Call × Reply) : acquired [e] = (e.1.acquires? e.2).toList := by
  rw [acquired_cons, acquired_nil, List.append_nil]

@[simp] theorem orphaned_nil : orphaned [] = [] := rfl

@[simp] theorem orphaned_append (a b : CallLog) : orphaned (a ++ b) = orphaned a ++ orphaned b :=
  List.filterMap_append

theorem orphaned_singleton (e : Call × Reply) : orphaned [e] = (e.1.leaves? e.2).toList := by
  show List.filterMap (fun e => e.1.leaves? e.2) [e] = _
  cases h : e.1.leaves? e.2 <;> simp [h]

@[simp] theorem released_nil : released [] = [] := rfl

@[simp] theorem released_append (a b : CallLog) : released (a ++ b) = released a ++ released b :=
  List.filterMap_append

theorem released_cons (e : Call × Reply) (log : CallLog) :
    released (e :: log) = e.1.releases?.toList ++ released log := by
  cases h : e.1.releases? <;> simp [released, h]

theorem released_singleton (e : Call × Reply) : released [e] = e.1.releases?.toList := by
  rw [released_cons, released_nil, List.append_nil]

@[simp] theorem climbing_append (a b : CallLog) : climbing (a ++ b) = climbing a ++ climbing b :=
  List.filter_append a b

/-- A log of nothing but calls that climb is left as it is, and gives nothing back. -/
theorem climbing_eq_self {log : CallLog} (h : ∀ e ∈ log, e.1.descends = false) :
    climbing log = log ∧ released log = [] := by
  constructor
  · apply List.filter_eq_self.mpr
    intro e he
    show (!e.1.descends) = true
    rw [h e he]
    rfl
  · apply List.filterMap_eq_nil_iff.mpr
    intro e he
    exact Call.releases?_eq_none_of_climbs (h e he)

/-- A log of nothing but calls that descend is left out, and acquires nothing. -/
theorem climbing_eq_nil {log : CallLog} (h : ∀ e ∈ log, e.1.descends) :
    climbing log = [] ∧ acquired log = [] := by
  constructor
  · apply List.filter_eq_nil_iff.mpr
    intro e he
    simp [h e he]
  · apply List.filterMap_eq_nil_iff.mpr
    intro e he
    exact Call.acquires?_eq_none_of_descends (h e he) e.2

/-- Calls that succeed leave nothing behind. -/
theorem orphaned_eq_nil {log : CallLog} (succeed : ∀ e ∈ log, e.1.succeeds e.2) :
    orphaned log = [] :=
  List.filterMap_eq_nil_iff.mpr fun e he => Call.leaves?_eq_none_of_succeeds (succeed e he)

/-- Of a way up and a way down the one acquires and leaves behind, and the other releases. -/
theorem acquired_split {up down : CallLog} (climbs : ∀ e ∈ up, e.1.descends = false)
    (descends : ∀ e ∈ down, e.1.descends) :
    acquired (up ++ down) = acquired up ∧ orphaned (up ++ down) = orphaned up ∧
      released (up ++ down) = released down := by
  have leaves : orphaned down = [] := List.filterMap_eq_nil_iff.mpr fun e he =>
    Call.leaves?_eq_none_of_descends (descends e he) e.2
  rw [acquired_append, orphaned_append, released_append, (climbing_eq_nil descends).2, leaves,
    (climbing_eq_self climbs).2, List.append_nil, List.append_nil, List.nil_append]
  exact ⟨rfl, rfl, rfl⟩

end CallLog

end DatabaseLogon

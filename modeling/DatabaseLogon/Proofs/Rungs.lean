import DatabaseLogon.Logon
import DatabaseLogon.Proofs.CallLog
import Mathlib.Logic.Function.Basic

namespace DatabaseLogon.Logon

/-!
# The ladder as a list of rungs

A logon is a straight line: each of its steps makes one native call, and the handles that a call
passes were produced by earlier ones. Here the line is written down as data, so that what holds of
every step can be proved by induction on the list.

* `Rung` — a step; `Rung.call` — the call that it makes, given the handles so far.
* `rungs` — the steps of a protocol.
* `climb` — doing steps in order.
* `ladder_eq_climb` — a logon is climbing its rungs.
-/

/-- The handles of a connection by their kind. -/
abbrev Handles := HandleKind → Handle

/-- The logon that has these handles. -/
def ofHandles (hs : Handles) : Protocol → Logon
  | .session => .session (hs .serviceContext) (hs .server) (hs .session)
  | .direct => .direct (hs .serviceContext)

/-- What a logon yields when it has these handles. -/
def yield (protocol : Protocol) (hs : Handles) : Handle × Handle × Logon :=
  (hs .environment, hs .error, ofHandles hs protocol)

/-- A step of a logon. -/
inductive Rung where
  | environment
  | allocate (kind : HandleKind)
  | attach
  /-- Set a handle as an attribute of the service context. -/
  | link (which : Attribute) (kind : HandleKind)
  /-- Set a text as an attribute of the session. -/
  | tell (which : Attribute) (text : String)
  | begin (credential : Credential)
  | logon
  deriving DecidableEq

namespace Rung

/-- The call that a step makes. -/
def call (dsn : Dsn) (hs : Handles) : Rung → Call
  | environment => .envCreate environmentMode
  | allocate kind => .handleAlloc (hs .environment) kind
  | attach =>
    .serverAttach (hs .server) (hs .error) (if dsn.externalAuth then none else some dsn.connect)
  | link which kind =>
    .attrSet (hs .serviceContext) .serviceContext which (.handle (hs kind)) (hs .error)
  | tell which text => .attrSet (hs .session) .session which (.text text) (hs .error)
  | begin credential =>
    .sessionBegin (hs .serviceContext) (hs .error) (hs .session) credential dsn.privilegedMode
  | logon => .logon (hs .environment) (hs .error) dsn.username dsn.password dsn.connect

/-- The kind of the handle that a step produces. -/
def writes? : Rung → Option HandleKind
  | environment => some .environment
  | allocate kind => some kind
  | logon => some .serviceContext
  | attach | link .. | tell .. | begin _ => none

/-- The handles after a step, given the handle that its call wrote. -/
def next (hs : Handles) (written : Option Handle) (r : Rung) : Handles :=
  match r.writes?, written with
  | some kind, some h => Function.update hs kind h
  | _, _ => hs

/-- The kinds of the handles that the call of a step passes. -/
def reads : Rung → List HandleKind
  | environment => []
  | allocate _ => [.environment]
  | attach => [.server, .error]
  | link _ kind => [.serviceContext, kind, .error]
  | tell .. => [.session, .error]
  | begin _ => [.serviceContext, .error, .session]
  | logon => [.environment, .error]

/-- The kind of the handle that a step puts to use, which may be done once. -/
def binds? : Rung → Option HandleKind
  | attach => some .server
  | begin _ => some .session
  | environment | allocate _ | link .. | tell .. | logon => none

/-- No step gives anything back or reads a diagnostic. -/
theorem climbs (dsn : Dsn) (hs : Handles) (r : Rung) : (r.call dsn hs).descends = false := by
  cases r <;> rfl

/-- The call of a step depends on these handles only. -/
theorem call_congr (dsn : Dsn) {hs hs' : Handles} {r : Rung}
    (h : ∀ kind ∈ r.reads, hs kind = hs' kind) : r.call dsn hs = r.call dsn hs' := by
  cases r <;> simp_all [call, reads]

/-- A step leaves the handles of other kinds alone. -/
theorem next_of_ne {hs : Handles} {written : Option Handle} {r : Rung} {kind : HandleKind}
    (h : r.writes? ≠ some kind) : r.next hs written kind = hs kind := by
  unfold next
  cases hr : r.writes? with
  | none => rfl
  | some kind' =>
    cases written with
    | none => rfl
    | some h' =>
      have ne : kind ≠ kind' := by
        intro e
        apply h
        rw [hr, e]
      exact Function.update_of_ne ne h' hs

/-- A step that writes no handle leaves all handles alone. -/
theorem next_eq_self {hs : Handles} {written : Option Handle} {r : Rung} (h : r.writes? = none) :
    r.next hs written = hs := by
  funext kind
  apply next_of_ne
  rw [h]
  exact (Option.some_ne_none kind).symm

/-- What the call of a step produces is the handle that the step makes known. -/
theorem written_of_produces? {dsn : Dsn} {hs : Handles} {r : Rung} {reply : Reply} {h : Handle}
    {kind : HandleKind} (produced : (r.call dsn hs).produces? reply = some (h, kind)) :
    r.writes? = some kind ∧ reply.handle = some h := by
  have writes : (r.call dsn hs).writes? = r.writes? := by
    cases r <;> rfl
  obtain ⟨-, hkind, hh⟩ := Call.written_of_produces? produced
  exact ⟨writes ▸ hkind, hh⟩

variable {σ : Type} [ClientLibrary σ]

/-- Do a step for the connection with this number. -/
def perform (id : UInt32) (dsn : Dsn) (hs : Handles) : Rung → Climb σ Handles
  | environment => do
    let h ← openEnvironment id
    return Function.update hs .environment h
  | allocate kind => do
    let h ← Climb.allocate id (hs .environment) kind
    return Function.update hs kind h
  | attach => do
    attachServer id (hs .server) (hs .error) dsn
    return hs
  | link which kind => do
    Logon.link (hs .serviceContext) (hs .error) which (hs kind)
    return hs
  | tell which text => do
    Climb.attempt
      (Client.reported (hs .error)
        (Client.setAttribute (hs .session) .session which (.text text) (hs .error)))
    return hs
  | begin credential => do
    Climb.attempt
      (Client.reported (hs .error)
        (Client.beginSession (hs .serviceContext) (hs .error) (hs .session) credential
          dsn.privilegedMode))
    Climb.own (.session (hs .serviceContext) (hs .error) (hs .session))
    Climb.log (.sessionBegun id credential dsn.privilegedMode)
    return hs
  | logon => do
    let logon ← byCall id (hs .environment) (hs .error) dsn
    return Function.update hs .serviceContext logon.service

end Rung

/-- The steps that tell who logs on; an outside authority needs none. -/
def credentialRungs (dsn : Dsn) : List Rung :=
  if dsn.externalAuth then []
  else [.tell .username dsn.username, .tell .password dsn.password]

/-- How the session proves who it is. -/
def credential (dsn : Dsn) : Credential :=
  if dsn.externalAuth then .external else .rdbms

/-- The steps of a logon behind those that both protocols share. -/
def protocolRungs (dsn : Dsn) : Protocol → List Rung
  | .session =>
    [.allocate .server, .attach, .allocate .serviceContext, .link .server .server,
      .allocate .session] ++ credentialRungs dsn
      ++ [.begin (credential dsn), .link .session .session]
  | .direct => [.logon]

/-- The steps of a logon. -/
def rungs (protocol : Protocol) (dsn : Dsn) : List Rung :=
  [.environment, .allocate .error] ++ protocolRungs dsn protocol

/-- Each step passes only handles that are known by then, no handle is produced twice, and none is
    put to use twice. -/
def InScope (known bound : List HandleKind) : List Rung → Prop
  | [] => True
  | r :: rs =>
    (∀ kind ∈ r.reads, kind ∈ known) ∧ (∀ kind ∈ r.writes?, kind ∉ known)
      ∧ (∀ kind ∈ r.binds?, kind ∉ bound)
      ∧ InScope (r.writes?.toList ++ known) (r.binds?.toList ++ bound) rs

/-- The handles of a logon are in scope, whatever the protocol. -/
theorem inScope_rungs (protocol : Protocol) (dsn : Dsn) : InScope [] [] (rungs protocol dsn) := by
  cases protocol with
  | session =>
    by_cases h : dsn.externalAuth <;>
      simp [rungs, protocolRungs, credentialRungs, h, InScope, Rung.reads, Rung.writes?,
        Rung.binds?]
  | direct => simp [rungs, protocolRungs, InScope, Rung.reads, Rung.writes?, Rung.binds?]

variable {σ : Type} [ClientLibrary σ]

/-- Do steps in order for the connection with this number. -/
def climb (id : UInt32) (dsn : Dsn) : List Rung → Handles → Climb σ Handles
  | [], hs => pure hs
  | r :: rs, hs => do climb id dsn rs (← r.perform id dsn hs)

theorem climb_append (id : UInt32) (dsn : Dsn) (rs rs' : List Rung) (hs : Handles) :
    (climb id dsn (rs ++ rs') hs : Climb σ Handles) = climb id dsn rs hs >>= climb id dsn rs' := by
  induction rs generalizing hs with
  | nil => simp [climb]
  | cons r rs ih => simp [climb, ih]

/-- Telling who logs on is a matter of the rungs for it, which produce no handle. -/
theorem giveCredentials_bind {α : Type} (id : UInt32) (dsn : Dsn) (hs : Handles)
    (f : Handles → Credential → Climb σ α) :
    (giveCredentials (hs .session) (hs .error) dsn >>= f hs)
      = climb id dsn (credentialRungs dsn) hs >>= fun hs => f hs (credential dsn) := by
  unfold giveCredentials credentialRungs credential
  by_cases h : dsn.externalAuth
  · simp [h, climb]
  · simp [h, climb, Rung.perform]

theorem bySession_eq (id : UInt32) (dsn : Dsn) (hs : Handles) :
    (do return (hs .environment, hs .error, ← bySession id (hs .environment) (hs .error) dsn) :
        Climb σ (Handle × Handle × Logon))
      = climb id dsn (protocolRungs dsn .session) hs >>= fun hs => return yield .session hs := by
  simp only [bySession, protocolRungs, climb_append, climb, Rung.perform, bind_assoc, pure_bind,
    Function.update_self, ne_eq, reduceCtorEq, not_false_eq_true, Function.update_of_ne]
  -- up to here both sides make the same calls; the credentials are a branch of their own
  refine bind_congr fun server => bind_congr fun _ => bind_congr fun service =>
    bind_congr fun _ => bind_congr fun session => ?_
  let known := Function.update (Function.update (Function.update hs .server server)
    .serviceContext service) .session session
  exact giveCredentials_bind id dsn known fun hs credential => do
    Climb.attempt
      (Client.reported (hs .error)
        (Client.beginSession (hs .serviceContext) (hs .error) (hs .session) credential
          dsn.privilegedMode))
    Climb.own (.session (hs .serviceContext) (hs .error) (hs .session))
    Climb.log (.sessionBegun id credential dsn.privilegedMode)
    link (hs .serviceContext) (hs .error) .session (hs .session)
    return yield .session hs

theorem byCall_eq (id : UInt32) (dsn : Dsn) (hs : Handles) :
    (do return (hs .environment, hs .error, ← byCall id (hs .environment) (hs .error) dsn) :
        Climb σ (Handle × Handle × Logon))
      = climb id dsn (protocolRungs dsn .direct) hs >>= fun hs => return yield .direct hs := by
  -- the two warnings are only logged, and stand on both sides
  by_cases mode : dsn.privilegedMode = .default <;> by_cases external : dsn.externalAuth <;>
    simp [byCall, mode, external, protocolRungs, climb, Rung.perform, yield, ofHandles, service]

/-- A logon is climbing its rungs, whatever handles stand in for those that are not there yet. -/
theorem ladder_eq_climb (id : UInt32) (protocol : Protocol) (dsn : Dsn) (hs : Handles) :
    (ladder id protocol dsn : Climb σ (Handle × Handle × Logon))
      = climb id dsn (rungs protocol dsn) hs >>= fun hs => return yield protocol hs := by
  simp only [ladder, rungs, climb_append, climb, Rung.perform, bind_assoc, pure_bind,
    Function.update_self]
  refine bind_congr fun environment => bind_congr fun error => ?_
  let known := Function.update (Function.update hs .environment environment) .error error
  cases protocol with
  | session => exact bySession_eq id dsn known
  | direct => exact byCall_eq id dsn known

end DatabaseLogon.Logon

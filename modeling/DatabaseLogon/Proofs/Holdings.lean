import DatabaseLogon.Proofs.Course
import DatabaseLogon.Proofs.Sequence

namespace DatabaseLogon

open Logon

/-!
# What a connection owns

An open connection owns exactly what its logon acquired, in terms of its own handles, and a closed
one owns nothing, whatever failed in the meantime.

* `Connection.ladder` — all that a logon acquires, with the handles of the connection.
* `Connection.Laddered` — the invariant of a connection.
* `Ascent.acquired_eq` — what a climb to the top acquired, in terms of the handles in the end.
* `Driver.protocol_of_openDsn` — a connection is of the protocol of the driver that opened it.
* `Connection.next`, `Connection.perform_after` — the connection after an operation, which depends
  on the operation and its result only.
* `Connection.Reachable.laddered` — the invariant holds of every connection that there can be.
* `Session.connections_laddered` — and so of all connections in a session, at any time.
-/

namespace Connection

/-- What the logon of a connection acquired, oldest first, with the handles that the connection
    has. -/
def ladder (c : Connection) : List Resource :=
  [.handle c.environment .environment, .handle c.error .error] ++
    match c.logon with
    | .session service server user =>
      [.handle server .server, .attachment server c.error, .handle service .serviceContext,
        .handle user .session, .session service c.error user]
    | .direct service => [.logon service c.error]

/-- How many resources belong to a connection of a protocol. -/
def rungCount : Protocol → Nat
  | .session => 7
  | .direct => 3

/-- An open connection owns its ladder, the newest resource first. A closed connection owns nothing
    and has no transaction. -/
structure Laddered (c : Connection) : Prop where
  opened : c.closed = false → c.held = c.ladder.reverse
  closed : c.closed = true → c.held = [] ∧ c.inTransaction = false

theorem length_ladder (c : Connection) : c.ladder.length = rungCount c.logon.protocol := by
  rw [ladder]
  cases c.logon <;> rfl

/-- The number of resources tells whether a connection is open, and by which protocol it logged
    on. -/
theorem Laddered.length_held {c : Connection} (h : c.Laddered) :
    c.held.length = if c.closed then 0 else rungCount c.logon.protocol := by
  by_cases closed : c.closed
  · rw [if_pos closed, (h.closed closed).1]
    rfl
  · have opened : c.closed = false := Bool.eq_false_iff.mpr closed
    rw [if_neg closed, h.opened opened, List.length_reverse, length_ladder]

end Connection

/-! ### Opening -/

namespace Logon.Rung

/-- The resource that a rung is there to acquire, given the handles behind it. -/
def gain (hs : Handles) : Rung → Option Resource
  | environment => some (.handle (hs .environment) .environment)
  | allocate kind => some (.handle (hs kind) kind)
  | attach => some (.attachment (hs .server) (hs .error))
  | begin _ => some (.session (hs .serviceContext) (hs .error) (hs .session))
  | logon => some (.logon (hs .serviceContext) (hs .error))
  | link .. | tell .. => none

/-- The resource depends on the handles that the rung passes or makes known only. -/
theorem gain_congr {hs hs' : Handles} {r : Rung}
    (h : ∀ kind ∈ r.writes?.toList ++ r.reads, hs kind = hs' kind) : r.gain hs = r.gain hs' := by
  cases r <;> simp_all [gain, writes?, reads]

/-- A rung that succeeds acquires its resource. -/
theorem acquires?_call {dsn : Dsn} {hs : Handles} {r : Rung} {reply : Reply}
    (succeeds : (r.call dsn hs).succeeds reply) :
    (r.call dsn hs).acquires? reply = r.gain (r.next hs reply.handle) := by
  rw [Call.acquires?_of_succeeds succeeds]
  rw [Call.succeeds, Bool.and_eq_true] at succeeds
  cases r with
  | environment | allocate kind | logon =>
    -- these must have written a handle
    obtain ⟨h, written⟩ := Option.isSome_iff_exists.mp succeeds.2
    rw [written]
    simp [call, Call.resource?, gain, next, writes?]
  | attach | begin credential | link which kind | tell which text => rfl

end Logon.Rung

/-- What a climb to the top acquired is what its rungs are there for, in terms of the handles in the
    end; for handles that are known do not change any more. -/
theorem Logon.Ascent.acquired_eq {dsn : Dsn} {rs : List Rung} {hs last : Handles} {log : CallLog}
    (h : Ascent dsn rs hs log (some last)) {known bound : List HandleKind}
    (scope : InScope known bound rs) :
    (∀ kind ∈ known, last kind = hs kind) ∧ log.acquired = rs.filterMap (Rung.gain last) := by
  generalize htop : some last = top at h
  induction h generalizing known bound with
  | top hs =>
    cases htop
    exact ⟨fun _ _ => rfl, rfl⟩
  | slip fails => cases htop
  | @step r rs hs reply log top succeeds above ih =>
    obtain ⟨reads, writes, -, scope⟩ := scope
    obtain ⟨agrees, acquired⟩ := ih scope htop
    have old : ∀ kind ∈ known, last kind = hs kind := by
      intro kind hkind
      rw [agrees kind (List.mem_append_right _ hkind)]
      exact Rung.next_of_ne fun written => writes kind written hkind
    have same : r.gain (r.next hs reply.handle) = r.gain last := by
      apply Rung.gain_congr
      intro kind hkind
      refine (agrees kind ?_).symm
      exact (List.mem_append.mp hkind).elim (List.mem_append_left _)
        fun read => List.mem_append_right _ (reads kind read)
    refine ⟨old, ?_⟩
    rw [CallLog.acquired_cons, Rung.acquires?_call succeeds, same, acquired]
    cases gained : r.gain last <;> simp [gained]

namespace Driver

/-- The rungs of a logon are there for the ladder of the connection. -/
theorem gain_rungs (d : Driver) (dsn : Dsn) (id : UInt32) (hs : Handles) (held : List Resource) :
    (rungs d.protocol dsn).filterMap (Rung.gain hs) = (d.connection dsn id hs held).ladder := by
  rw [Connection.ladder, connection]
  cases d.protocol with
  | session =>
    by_cases h : dsn.externalAuth <;>
      simp only [rungs, protocolRungs, credentialRungs, h, if_true] <;> rfl
  | direct => rfl

section

variable {σ : Type} [ClientLibrary σ] {d : Driver} {dsn : Dsn} {w : World σ} {c : Connection}

/-- What was acquired when a connection opened is its ladder. -/
theorem acquired_of_openDsn (h : ((d.openDsn dsn).run w).value = .ok c) :
    CallLog.acquired ((d.openDsn dsn).run w).trace.calls = c.ladder := by
  obtain ⟨last, ascent, opened⟩ := Driver.ascent_of_openDsn (fun _ => ⟨1, Nat.one_pos⟩) h
  obtain ⟨-, acquired⟩ := ascent.acquired_eq (inScope_rungs d.protocol dsn)
  rw [d.gain_rungs dsn w.attempts last
    (CallLog.acquired ((d.openDsn dsn).run w).trace.calls).reverse, ← opened] at acquired
  exact acquired

/-- A connection that opens owns its ladder. -/
theorem laddered_of_openDsn (h : ((d.openDsn dsn).run w).value = .ok c) : c.Laddered := by
  obtain ⟨last, -, opened⟩ := Driver.ascent_of_openDsn (fun _ => ⟨1, Nat.one_pos⟩) h
  have held : c.held = c.ladder.reverse := by
    rw [← acquired_of_openDsn h, opened]
    rfl
  exact ⟨fun _ => held, fun closed => by rw [opened] at closed; cases closed⟩

/-- **A connection is of the protocol of its driver,** with the name's settings, and it has a server
    and a session handle exactly if the protocol is the one that makes them. -/
theorem protocol_of_openDsn (h : ((d.openDsn dsn).run w).value = .ok c) :
    c.logon.protocol = d.protocol ∧ c.settings = dsn.toSettings ∧
      (c.logon.server?.isSome ↔ d.protocol = .session) ∧
      (c.logon.session?.isSome ↔ d.protocol = .session) := by
  obtain ⟨last, -, opened⟩ := Driver.ascent_of_openDsn (fun _ => ⟨1, Nat.one_pos⟩) h
  have logon : c.logon = ofHandles last d.protocol := by rw [opened, connection]
  have settings : c.settings = dsn.toSettings := by rw [opened, connection]
  rw [logon, settings]
  cases d.protocol <;> simp [ofHandles, Logon.protocol, server?, session?]

end

end Driver

/-! ### Operations -/

namespace Connection

/-- The connection after an operation with this result. -/
def next (c : Connection) (op : Operation) (result : Except Error Unit) : Connection :=
  match op with
  | .ping => c
  | .begin => if c.closed then c else { c with inTransaction := result.toBool }
  | .commit | .rollback => { c with inTransaction := false }
  | .close => if c.closed then c else { c with held := [], inTransaction := false, closed := true }

variable {σ : Type}

theorem whenOpen_after {c : Connection} {m : Action σ (Except Error Unit × Connection)}
    {w : World σ} {after : Connection} (h : (m.run w).value.2 = after) :
    ((c.whenOpen m).run w).value.2 = if c.closed then c else after := by
  unfold whenOpen
  by_cases closed : c.closed
  · rw [if_pos closed, if_pos closed]
    rfl
  · rw [if_neg closed, if_neg closed]
    exact h

variable [ClientLibrary σ]

theorem begin_after (c : Connection) (w : World σ) :
    (c.begin.run w).value.2 = c.next .begin (c.begin.run w).value.1 := by
  unfold begin whenOpen next
  by_cases closed : c.closed
  · simp only [closed, if_true]
    rfl
  · by_cases usual : c.settings.transactionMode = .readWrite
    · simp only [closed, if_false, usual, if_true, pure_bind, Bool.false_eq_true]
      rfl
    · simp only [closed, if_false, usual, Action.run_bind, Bool.false_eq_true]
      cases ((Client.reported c.error (Client.startTransaction c.logon.service c.error
        transactionTimeout c.settings.transactionMode)).run w).value <;> rfl

/-- **What an operation does to a connection** depends on its result only. -/
theorem perform_after (c : Connection) (op : Operation) (w : World σ) :
    ((c.perform op).run w).value.2 = c.next op ((c.perform op).run w).value.1 := by
  cases op with
  | ping => exact (whenOpen_after rfl).trans (ite_self c)
  | begin => exact c.begin_after w
  | commit => exact (whenOpen_after rfl).trans (ite_self _)
  | rollback => exact (whenOpen_after rfl).trans (ite_self _)
  | close =>
    show (c.close.run w).value.2 = if c.closed then c else _
    unfold close
    by_cases closed : c.closed
    · rw [if_pos closed, if_pos closed]
      rfl
    · rw [if_neg closed, if_neg closed]
      show { c with held := ((releaseAll c.held).run w).value.2, inTransaction := false
                    closed := true } = _
      rw [releaseAll_left]

/-- Every operation preserves the invariant, whatever its result. -/
theorem Laddered.next {c : Connection} (h : c.Laddered) (op : Operation)
    (result : Except Error Unit) : (c.next op result).Laddered := by
  have flagged (b : Bool) (hb : c.closed = true → b = false) :
      { c with inTransaction := b }.Laddered :=
    ⟨h.opened, fun closed => ⟨(h.closed closed).1, hb closed⟩⟩
  cases op with
  | ping => exact h
  | begin =>
    rw [Connection.next]
    by_cases closed : c.closed
    · rw [if_pos closed]
      exact h
    · rw [if_neg closed]
      exact flagged _ fun closed' => absurd closed' closed
  | commit => exact flagged false fun _ => rfl
  | rollback => exact flagged false fun _ => rfl
  | close =>
    rw [Connection.next]
    by_cases closed : c.closed
    · rw [if_pos closed]
      exact h
    · rw [if_neg closed]
      exact ⟨nofun, fun _ => ⟨rfl, rfl⟩⟩

/-- **The invariant holds of every connection** that was opened, whatever was done with it since and
    whatever failed. -/
theorem Reachable.laddered {c : Connection} (h : c.Reachable σ) : c.Laddered := by
  induction h with
  | opened h => exact Driver.laddered_of_openDsn h
  | @performed c h op w ih =>
    rw [c.perform_after op w]
    exact ih.next op _

end Connection

/-! ### Sessions -/

namespace Session

/-- A course that says nothing. -/
theorem course_trivial : Course fun _ _ _ _ => True where
  calls := .of_calls (fun _ _ => trivial) (fun _ _ => trivial) fun _ _ => trivial
  adjust _ _ := trivial
  append _ _ := trivial

/-- Every connection that an answer shows or that stands in a slot is reachable. -/
theorem reachable_of_mem_connections (driver : Driver) (steps : List Step) (w : World Script) :
    ∀ c ∈ connections (((fresh driver).performAll steps).run w).value, c.Reachable Script := by
  obtain ⟨changes, done, -⟩ :=
    proceeds_performAll (s := fresh driver) course_trivial (List.forall_mem_nil _) steps w
  intro c hc
  rcases List.mem_append.mp hc with hc | hc
  · exact done.shown c hc
  · obtain ⟨e, he, rfl⟩ := List.mem_map.mp hc
    exact done.after e he

/-- **Every connection in a session, at any time,** owns its ladder if it is open and nothing if it
    is closed. There are only connections that are reachable in a session: those that the answers
    show, inside transactions too, and those that stand in slots when some steps have been done. And
    all that are reachable are as told, also those that nobody gets to see. -/
theorem connections_laddered (driver : Driver) (steps : List Step) (w : World Script) :
    (∀ c ∈ connections (((fresh driver).performAll steps).run w).value, c.Reachable Script) ∧
    ∀ c : Connection, c.Reachable Script →
      c.Laddered ∧
        c.held.length = if c.closed then 0 else Connection.rungCount c.logon.protocol := by
  constructor
  · exact reachable_of_mem_connections driver steps w
  · intro c reachable
    exact ⟨reachable.laddered, reachable.laddered.length_held⟩

/-- A transaction that has just begun, and in which the connection is closed then. -/
theorem connections_laddered_transaction :
    let steps := [.openBuilt 0 [], .on 0 (.transaction [.operate .close] .drop)]
    let seen := connections (((fresh .standard).performAll steps).run ⟨.empty, 0⟩).value
    ∃ c ∈ seen, c.inTransaction = true ∧ c.held = c.ladder.reverse ∧ c.held.length = 7 := by
  intro steps seen
  have look : seen[1]?.map (fun c => (c.closed, c.inTransaction, c.logon.protocol))
      = some (false, true, .session) := by decide +kernel
  obtain ⟨c, there, state⟩ := Option.map_eq_some_iff.mp look
  obtain ⟨opened, rest⟩ := Prod.mk.inj state
  obtain ⟨begun, protocol⟩ := Prod.mk.inj rest
  have mem : c ∈ seen := List.mem_of_getElem? there
  obtain ⟨reach, invariant⟩ := connections_laddered .standard steps ⟨.empty, 0⟩
  obtain ⟨laddered, count⟩ := invariant c (reach c mem)
  refine ⟨c, mem, begun, laddered.opened opened, ?_⟩
  rw [count, opened, protocol]
  rfl

end Session

end DatabaseLogon

import DatabaseLogon.Session.Slots
import DatabaseLogon.Session.Step

namespace DatabaseLogon

/-!
# Sessions with a scripted library

A session opens connections with a driver, keeps them in slots, works with them and changes the
script of the client library meanwhile.

* `Answer` — what is seen of a step.
* `ConnectionStep.perform`, `Session.perform` — doing a step.
* `Session.run` — all steps, and at the end the release of all connections that are left.
-/

/-! ### Answers -/

/-- What is seen of a step, with the connection after it and what happened meanwhile. -/
inductive Answer where
  /-- A connection was opened, or not. -/
  | opened (result : Except Error Connection) (seen : Trace)
  /-- A connection was dropped; or there was none. -/
  | dropped (existed : Bool) (seen : Trace)
  | configured (driver : Driver)
  | adjusted
  /-- The slot is empty. -/
  | noConnection
  | operated (result : Except Error Unit) (after : Connection) (seen : Trace)
  | prepared (result : Prepared) (after : Connection)
  | informed (about : Connection)
  /-- A transaction that began: the transaction at first, the answers inside, its end. -/
  | transacted (begun : Transaction) (beginSeen : Trace) (inside : List Answer)
      (result : Except Error Unit) (endSeen : Trace) (after : Connection)

/-! ### Working with one connection -/

/-- End a transaction. -/
def Ending.perform (ending : Ending) (c : Connection) :
    Action Script (Except Error Unit × Connection) :=
  match ending with
  | .commit => c.commit
  | .rollback => c.rollback
  | .drop => return (.ok (), c)

mutual

/-- Do one step with a connection. -/
def ConnectionStep.perform (c : Connection) :
    ConnectionStep → Action Script (Answer × Connection)
  | .operate op => do
    let ((result, after), seen) ← Action.observed (c.perform op)
    return (.operated result after seen, after)
  | .prepare sql => return (.prepared (c.prepare sql) c, c)
  | .info => return (.informed c, c)
  | .adjust change => do
    Action.modifyLibrary (·.adjust change)
    return (.adjusted, c)
  | .transaction steps ending => do
    let ((result, begun), beginSeen) ← Action.observed c.begin
    match result with
    | .error e => return (.operated (.error e) begun beginSeen, begun)
    | .ok () =>
      let (inside, worked) ← ConnectionStep.performAll begun steps
      let ((result, after), endSeen) ← Action.observed (ending.perform worked)
      return (.transacted ⟨begun⟩ beginSeen inside result endSeen after, after)

/-- Do steps with a connection, in order. -/
def ConnectionStep.performAll (c : Connection) :
    List ConnectionStep → Action Script (List Answer × Connection)
  | [] => return ([], c)
  | step :: steps => do
    let (answer, after) ← ConnectionStep.perform c step
    let (answers, last) ← ConnectionStep.performAll after steps
    return (answer :: answers, last)

end

/-! ### Sessions -/

/-- The state of a session besides the client library. -/
structure Session where
  driver : Driver
  slots : Slots
  deriving DecidableEq

namespace Session

/-- A session without connections. -/
def fresh (driver : Driver) : Session where
  driver := driver
  slots := []

/-- Open a connection for a slot. The connection that was there is released after the new one is
    open; if opening fails it stays. -/
def openInto (s : Session) (slot : Nat) (m : Action Script (Except Error Connection)) :
    Action Script (Answer × Session) := do
  let (result, seen) ← Action.observed do
    let result ← m
    match result, s.slots.get? slot with
    | .ok _, some replaced => replaced.release
    | _, _ => pure ()
    return result
  match result with
  | .ok c => return (.opened (.ok c) seen, { s with slots := s.slots.put slot c })
  | .error e => return (.opened (.error e) seen, s)

/-- Do one step. -/
def perform (s : Session) : Step → Action Script (Answer × Session)
  | .openText slot text => s.openInto slot (s.driver.openText text)
  | .openBuilt slot changes =>
    s.openInto slot
      (match (Dsn.Builder.empty.setAll changes).build with
      | .ok dsn => s.driver.openDsn dsn
      | .error e => return .error e)
  | .connect slot text fate => s.openInto slot (s.driver.connect text fate)
  | .drop slot =>
    match s.slots.get? slot with
    | some c => do
      let ((), seen) ← Action.observed c.release
      return (.dropped true seen, { s with slots := s.slots.erase slot })
    | none => return (.dropped false [], s)
  | .useProtocol protocol =>
    let driver := { s.driver with protocol }
    return (.configured driver, { s with driver })
  | .useTimeout after =>
    let driver := { s.driver with connectTimeout := after }
    return (.configured driver, { s with driver })
  | .adjust change => do
    Action.modifyLibrary (·.adjust change)
    return (.adjusted, s)
  | .on slot step =>
    match s.slots.get? slot with
    | some c => do
      let (answer, after) ← step.perform c
      return (answer, { s with slots := s.slots.put slot after })
    | none => return (.noConnection, s)

/-- Do steps in order. -/
def performAll (s : Session) : List Step → Action Script (List Answer × Session)
  | [] => return ([], s)
  | step :: steps => do
    let (answer, after) ← s.perform step
    let (answers, last) ← after.performAll steps
    return (answer :: answers, last)

/-- Release the connections of all slots, in the order of the slots. -/
def releaseSlots : Slots → Action Script Unit
  | [] => return ()
  | (_, c) :: rest => do
    c.release
    releaseSlots rest

/-- What is seen of a session. -/
structure Report where
  /-- The driver at the end. -/
  driver : Driver
  answers : List Answer
  /-- What happened when the connections that were left were released. -/
  seen : Trace

/-- Do steps in a session, and then release all connections. -/
def run (s : Session) (steps : List Step) : Action Script Report := do
  let (answers, last) ← s.performAll steps
  let ((), seen) ← Action.observed (releaseSlots last.slots)
  return { driver := last.driver, answers, seen }

/-! ### Numbers of connections -/

/-- The number of the first connection that opened, from which numbers are shown. -/
def firstNumber (answers : List Answer) : UInt32 :=
  (answers.findSome? fun
    | .opened (.ok c) _ => some c.id
    | _ => none).getD 0

end Session

/-- The connection as it is shown where numbers count from `first`. -/
def Connection.countedFrom (first : UInt32) (c : Connection) : Connection :=
  { c with id := c.id - first }

end DatabaseLogon

import CqlMapper.Record
import CqlMapper.Schema.Entity
import CqlMapper.Session.Clock
import CqlMapper.Session.Log
import CqlMapper.Store.Backend
import CqlMapper.WriteError

/-!
What the writes of an application act on: its entities, the store, the wall clock, and the notices
that interceptors, listeners and the log leave behind.
-/

namespace CqlMapper

/-- The place of an entity shared between the application and its writes. -/
abbrev EntityRef := Nat

structure EntityCell where
  record : Record
  /-- Whether a holder of the entity's lock has failed, so that nobody can take it again. -/
  poisoned : Bool

inductive Notice where
  | intercepted (label entity : String) (event : Event)
  | heard (listener : Listener) (outcome : Outcome)
  | logged (entry : LogEntry)

structure World where
  cells : List EntityCell
  backend : Backend
  wall : WallClock
  /-- Whether statements ask for traces and traces are logged. -/
  tracing : Bool
  notices : List Notice

namespace World

def cell? (world : World) (entity : EntityRef) : Option EntityCell :=
  world.cells[entity]?

def addRecord (world : World) (record : Record) : EntityRef × World :=
  (world.cells.length, { world with cells := world.cells ++ [⟨record, false⟩] })

def lock (world : World) (entity : EntityRef) : Except WriteError Record :=
  match world.cell? entity with
  | some cell => if cell.poisoned then .error .lockPoisoned else .ok cell.record
  | none => .error .lockPoisoned

def putRecord (world : World) (entity : EntityRef) (record : Record) : World :=
  { world with cells := world.cells.modify entity fun cell => { cell with record := record } }

def poison (world : World) (entity : EntityRef) : World :=
  { world with cells := world.cells.modify entity fun cell => { cell with poisoned := true } }

def note (world : World) (notices : List Notice) : World :=
  { world with notices := world.notices ++ notices }

def log (world : World) (entries : List LogEntry) : World :=
  world.note (entries.map .logged)

def submit (world : World) (submission : Submission) : Except StoreError ResultSet × World :=
  let (answer, backend) := world.backend.submit submission
  (answer, { world with backend := backend })

def logInfo (world : World) (result : ResultSet) : World :=
  if world.tracing then world.log (result.info.flatMap LogEntry.ofInfo) else world

def notify (world : World) (listener : Option Listener) (outcome : Outcome) : World :=
  match listener with
  | none => world
  | some listener =>
    if listener.hears outcome then world.note [.heard listener outcome] else world

end World

namespace EntitySchema

def interceptorsFor (schema : EntitySchema) (event : Event) : List Interceptor :=
  schema.interceptors.filter fun interceptor => event ∈ interceptor.events

def intercept (schema : EntitySchema) (event : Event) (record : Record) : Record :=
  (schema.interceptorsFor event).foldl
    (fun record interceptor => record.setAll (interceptor.react record.values)) record

def interceptNotices (schema : EntitySchema) (event : Event) (entity : String) : List Notice :=
  (schema.interceptorsFor event).map fun interceptor =>
    .intercepted interceptor.label entity event

end EntitySchema

structure Callback where
  entity : EntityRef
  schema : EntitySchema
  event : Event

/-- Runs the interceptors. After a post event the values they set belong to the clean state. -/
def Callback.run (callback : Callback) (world : World) : Except WriteError Unit × World :=
  match world.lock callback.entity with
  | .error error => (.error error, world)
  | .ok record =>
    let seen := callback.schema.intercept callback.event record
    let left := if callback.event.isPost then seen.markClean else seen
    (.ok (), (world.putRecord callback.entity left).note
      (callback.schema.interceptNotices callback.event record.entity))

def Callback.runAll : List Callback → World → Except WriteError Unit × World
  | [], world => (.ok (), world)
  | callback :: rest, world =>
    match callback.run world with
    | (.ok (), world) => runAll rest world
    | (.error error, world) => (.error error, world)

end CqlMapper

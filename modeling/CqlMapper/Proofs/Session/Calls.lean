import CqlMapper.Session.Workbench

/-!
Runs of an application: the writes and the calls on batches that it makes one after the other,
each on whatever records it has by then.
-/

namespace CqlMapper

inductive Call where
  /-- What happens around the calls: to the records, the clock and the store's answers. -/
  | surroundings (records : Keyed NamedRecord) (cells : List EntityCell) (wall : WallClock)
      (tracing : Bool) (answers : List (Except StoreError ResultSet))
  | write (kind : WriteKind) (name : String) (options : WriteOptions)
  | removeById (entity : String) (key : List FieldValue) (options : WriteOptions)
  | writeAsync (kind : WriteKind) (name : String) (options : WriteOptions)
  | runTasks (wanted : Option Nat)
  | startBatch (name : String) (ordered unlogged : Bool) (level serialLevel : Option Level)
  | restart (name : String) (level serialLevel : Option Level)
  | clean (name : String)
  | perform (name : String) (operation : BatchOperation)
  | flush (name : String)
  | flushAsync (name : String)
  | drop (name : String)

namespace Call

def make : Call → Bench Unit
  | .surroundings records cells wall tracing answers =>
    modify fun bench => { bench with
      records := records
      world := { bench.world with
        cells := cells
        wall := wall
        tracing := tracing
        backend := { bench.world.backend with
          store := { bench.world.backend.store with answers := answers } } } }
  | .write kind name options => do let _ ← Workbench.write kind name options
  | .removeById entity key options => do let _ ← Workbench.removeById entity key options
  | .writeAsync kind name options => do let _ ← Workbench.writeAsync kind name options
  | .runTasks wanted => do let _ ← Workbench.runTasks wanted
  | .startBatch name ordered unlogged level serialLevel =>
    Workbench.startBatch name ordered unlogged level serialLevel
  | .restart name level serialLevel =>
    Workbench.changeBatch name fun batch => batch.restart level serialLevel
  | .clean name => Workbench.changeBatch name Batch.clean
  | .perform name operation => do let _ ← Workbench.perform name operation
  | .flush name => do let _ ← Workbench.flushBatch name
  | .flushAsync name => do let _ ← Workbench.flushBatchAsync name
  | .drop name => do let _ ← Workbench.dropBatch name

end Call

namespace Workbench

/-- A call on a name that is not there does nothing. -/
def after (bench : Workbench) (call : Call) : Workbench :=
  ((call.make bench).map (·.2)).getD bench

def run (bench : Workbench) (calls : List Call) : Workbench :=
  calls.foldl after bench

def withRecord (bench : Workbench) (name : String)
    (call : EntityRef → Tasks → World → Tasks × World) : Workbench :=
  match bench.records.get? name with
  | none => bench
  | some named =>
    let (tasks, world) := call named.entity bench.tasks bench.world
    { bench with tasks := tasks, world := world }

def withBatch (bench : Workbench) (name : String)
    (call : Batch → Tasks → World → Batch × Tasks × World) : Workbench :=
  match bench.batches.get? name with
  | none => bench
  | some batch =>
    let (batch, tasks, world) := call batch bench.tasks bench.world
    { bench with batches := bench.batches.put name batch, tasks := tasks, world := world }

variable {bench : Workbench} {name : String}

theorem entity_eq (bench : Workbench) (name : String) :
    entity name bench = (bench.records.get? name).map fun named => (named.entity, bench) := by
  change Option.bind (Option.bind (bench.records.get? name) fun named => some (named, bench))
    (fun found => some (found.1.entity, found.2)) = _
  cases bench.records.get? name <;> rfl

theorem batch_eq (bench : Workbench) (name : String) :
    batch name bench = (bench.batches.get? name).map fun batch => (batch, bench) := by
  change Option.bind (bench.batches.get? name) _ = _
  cases bench.batches.get? name <;> rfl

theorem after_write (kind : WriteKind) (options : WriteOptions) :
    bench.after (.write kind name options) = bench.withRecord name fun entity tasks world =>
      (tasks, (bench.manager.write kind entity options world).2) := by
  change Option.getD (Option.map _ (Option.bind (Option.bind (entity name bench) _) _)) bench = _
  rw [entity_eq, withRecord]
  cases bench.records.get? name <;> rfl

theorem after_writeAsync (kind : WriteKind) (options : WriteOptions) :
    bench.after (.writeAsync kind name options) = bench.withRecord name fun entity tasks world =>
      (bench.manager.writeAsync kind entity options tasks world).2 := by
  change Option.getD (Option.map _ (Option.bind (Option.bind (entity name bench) _) _)) bench = _
  rw [entity_eq, withRecord]
  cases bench.records.get? name <;> rfl

theorem after_restart (level serialLevel : Option Level) :
    bench.after (.restart name level serialLevel) = bench.withBatch name fun batch tasks world =>
      (batch.restart level serialLevel, tasks, world) := by
  change Option.getD (Option.map _ (Option.bind (batch name bench) _)) bench = _
  rw [batch_eq, withBatch]
  cases bench.batches.get? name <;> rfl

theorem after_clean :
    bench.after (.clean name) = bench.withBatch name fun batch tasks world =>
      (batch.clean, tasks, world) := by
  change Option.getD (Option.map _ (Option.bind (batch name bench) _)) bench = _
  rw [batch_eq, withBatch]
  cases bench.batches.get? name <;> rfl

theorem after_perform (operation : BatchOperation) :
    bench.after (.perform name operation) = bench.withBatch name fun batch tasks world =>
      ((batch.perform operation world).2.1, tasks, (batch.perform operation world).2.2) := by
  change Option.getD (Option.map _ (Option.bind (Option.bind (batch name bench) _) _)) bench = _
  rw [batch_eq, withBatch]
  cases bench.batches.get? name <;> rfl

theorem after_flush :
    bench.after (.flush name) = bench.withBatch name fun batch tasks world =>
      ((batch.flush world).2.1, tasks, (batch.flush world).2.2) := by
  change Option.getD (Option.map _ (Option.bind (Option.bind (batch name bench) _) _)) bench = _
  rw [batch_eq, withBatch]
  cases bench.batches.get? name <;> rfl

theorem after_flushAsync :
    bench.after (.flushAsync name) = bench.withBatch name fun batch tasks world =>
      (batch.flushAsync tasks world).2 := by
  change Option.getD (Option.map _ (Option.bind (Option.bind (batch name bench) _) _)) bench = _
  rw [batch_eq, withBatch]
  cases bench.batches.get? name <;> rfl

end Workbench

end CqlMapper

import CqlMapper.Proofs.Session.Preparing

/-!
Two ways to remove an entity: by the record that holds it, or by the values of its key. Without
interceptors they come to the same. Both look for the same faults in the same order and queue the
same statements; only a record that is removed is clean afterwards.
-/

namespace CqlMapper

namespace EntitySchema

variable {schema : EntitySchema}

def keyValues (schema : EntitySchema) (fields : Fields) : List FieldValue :=
  schema.primaryKey.map fun property => (fields property.name).getD .null

theorem encodeKey_getD (property : Property) (value : Option FieldValue) :
    encodeKey property (some (value.getD .null)) = encodeKey property value := by
  cases value <;> rfl

/-- A component that is absent is missed just as one that is null. -/
theorem keyFrom_keyValues (schema : EntitySchema) (fields : Fields) :
    schema.keyFrom (schema.keyValues fields) = schema.keyOf fields := by
  have counted : (schema.keyValues fields).length = schema.primaryKey.length :=
    List.length_map _
  unfold keyFrom keyOf
  rw [if_pos counted, keyValues, ← List.map_prod_left_eq_zip, List.mapM_map]
  exact congrArg schema.primaryKey.mapM (funext fun property => encodeKey_getD property _)

end EntitySchema

namespace EntityManager

/-- Removals that queue the same statements in the same queues, or fail with the same error and
queue nothing. Each is what a preparation returns, with the context and the world it leaves. -/
inductive RemovesAlike (manager : EntityManager) (schema : EntitySchema) (entity : EntityRef)
    (record : Record) (options : WriteOptions) (context : FlushContext) (world : World) :
    Except WriteError Unit × FlushContext × World →
    Except WriteError Unit × FlushContext × World → Prop
  | queued {asked : WriteOptions} {key : List CqlValue} {stamped queued : FlushContext}
      {ticked : World} {removals : List PendingStatement}
      (stamps : Stamps schema options context world (.ok asked) stamped ticked)
      (found : schema.keyOf record.values = .ok key)
      (pends : List.Forall₂ (manager.Pends schema asked context.isBatch)
        (schema.removeStatements key asked) removals)
      (adds : context.Adds queued removals []) :
      RemovesAlike manager schema entity record options context world
        (.ok (), queued, ticked.putRecord entity record.markClean) (.ok (), queued, ticked)
  | failed {error : WriteError} {left : FlushContext} {final : World}
      (nothing : context.Adds left [] []) :
      RemovesAlike manager schema entity record options context world
        (.error error, left, final) (.error error, left, final)

variable {manager : EntityManager} {entity : EntityRef} {options : WriteOptions}
  {context : FlushContext} {world : World} {record : Record} {schema : EntitySchema}

theorem checkedSchema_of_locked {kind : WriteKind} (locked : world.lock entity = .ok record)
    (registered : manager.schema record.entity = .ok schema) :
    manager.checkedSchema kind entity options world =
      (checkOptions schema kind options).map fun _ => schema := by
  rw [checkedSchema, locked]
  simp only [bind, Except.bind, registered]
  cases checkOptions schema kind options <;> rfl

theorem generate_remove (locked : world.lock entity = .ok record) :
    manager.generate schema .remove options entity world =
      (schema.keyOf record.values).map fun key =>
        (schema.removeStatements key options, world.putRecord entity record.markClean) := by
  rw [generate_locked locked, statementsFor]
  cases schema.keyOf record.values <;> rfl

/-- Without interceptors, to remove an entity is to remove what has the values of its key. -/
theorem remove_alike_removeById (manager : EntityManager) (entity : EntityRef)
    (options : WriteOptions) (context : FlushContext) (world : World)
    (locked : world.lock entity = .ok record)
    (registered : manager.schema record.entity = .ok schema) (idle : schema.interceptors = []) :
    RemovesAlike manager schema entity record options context world
      (manager.prepare .remove entity options context world)
      (manager.prepareRemoveById record.entity (schema.keyValues record.values) options context
        world) := by
  unfold prepare prepareRemoveById
  rw [checkedSchema_of_locked locked registered, registered]
  cases checked : checkOptions schema .remove options with
  | error error =>
      simp only [bind, Except.bind, Except.map, checked]
      exact .failed (.refl context)
  | ok _ =>
      have stamps := stamp_stamps schema options context world
      simp only [bind, Except.bind, Except.map, pure, Except.pure, checked]
      rcases given : stamp schema options context world with ⟨error | asked, stamped, ticked⟩
      · rw [given] at stamps
        exact .failed stamps.adds
      · rw [given] at stamps
        have stillLocked := (stamps.lock entity).trans locked
        simp only [FlushContext.trigger_idle idle, generate_remove stillLocked,
          EntitySchema.keyFrom_keyValues]
        cases found : schema.keyOf record.values with
        | error error => exact .failed stamps.adds
        | ok key =>
            exact .queued stamps found (forall₂_pends_iff.mpr rfl)
              (stamps.adds_enqueue manager asked _)

def pageSchema : EntitySchema :=
  ⟨"Page", "pages",
    [⟨"path", "path", .clusteringKey .asc, ⟨.text, .simple (.native .text)⟩, none⟩,
      ⟨"site", "site_id", .partitionKey, ⟨.int, .simple (.native .int)⟩, none⟩,
      ⟨"title", "title", .plain, ⟨.text, .simple (.native .text)⟩, none⟩,
      ⟨"views", "views", .counter, ⟨.counter, .simple .counter⟩, none⟩],
    none, none, none, none, []⟩

def pageManager : EntityManager :=
  ⟨[("Page", pageSchema)], Config.standard⟩

def startPage : Record :=
  (Record.loaded "Page" [("path", .text "/"), ("site", .int 4)]).increment "views" 1

def pageWorld : World where
  cells := [⟨startPage, false⟩]
  backend := Backend.empty
  wall := ⟨fun _ => 100, 0⟩
  tracing := false
  notices := []

theorem remove_alike_removeById_page :
    pageWorld.lock 0 = .ok startPage ∧ pageManager.schema startPage.entity = .ok pageSchema ∧
      pageSchema.interceptors = [] ∧
      pageSchema.keyValues startPage.values = [.int 4, .text "/"] ∧
      ((pageManager.prepareRemoveById "Page" [.int 4, .text "/"] .standard
        (.new .orderedBatch .logged) pageWorld).2.1.statements.map
          fun pending => (pending.query, pending.values)) =
        [("DELETE FROM pages USING TIMESTAMP ? WHERE site_id = ? AND path = ?",
          [.bigInt 100, .int 4, .text "/"])] ∧
      RemovesAlike pageManager pageSchema 0 startPage .standard (.new .orderedBatch .logged)
        pageWorld (pageManager.prepare .remove 0 .standard (.new .orderedBatch .logged) pageWorld)
        (pageManager.prepareRemoveById "Page" [.int 4, .text "/"] .standard
          (.new .orderedBatch .logged) pageWorld) := by
  have locked : pageWorld.lock 0 = .ok startPage := rfl
  have registered : pageManager.schema startPage.entity = .ok pageSchema := rfl
  exact ⟨locked, registered, rfl, rfl, rfl,
    remove_alike_removeById pageManager 0 .standard (.new .orderedBatch .logged) pageWorld locked
      registered rfl⟩

end EntityManager

end CqlMapper

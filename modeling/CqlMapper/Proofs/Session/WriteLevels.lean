import CqlMapper.Sample.Microblog
import CqlMapper.Proofs.Consistency.Precedence
import CqlMapper.Proofs.Session.Waiting
import CqlMapper.Proofs.Statement.Isolation

/-!
The levels of writes on their way to the store. A statement sent by itself has the level that its
call asks for, or that its counter declares, or that of the table; an envelope has the level of the
session, or that of the table of the statement it is led by.
-/

namespace CqlMapper

namespace EntitySchema

variable {entity : EntityDeclaration} {schema : EntitySchema} {options : WriteOptions}

def declaredFor (schema : EntitySchema) : Purpose → Option Level
  | .increment name => (schema.property? name).bind (·.writeLevel)
  | .row | .counterRow => none

theorem Increments.declares {change : PropertyChange} {key : List CqlValue}
    {statement : GeneratedStatement}
    (increments : schema.Increments (schema.keyClause key) change statement) :
    statement.propertyLevel = schema.declaredFor (.increment change.property) := by
  obtain ⟨property, delta, amount, found, isCounter, _, _, rfl⟩ := increments
  rw [declaredFor, found]
  rfl

theorem Serves.undeclared {purpose : Purpose} {statement : GeneratedStatement}
    (serves : schema.Serves purpose statement) (other : ∀ name, purpose ≠ .increment name) :
    statement.propertyLevel = schema.declaredFor purpose := by
  cases serves with
  | increment => exact absurd rfl (other _)
  | insert | update | delete | counterRow => rfl

theorem increments_declare {changes : List PropertyChange} {key : List CqlValue}
    {statements : List GeneratedStatement}
    (increments : List.Forall₂ (schema.Increments (schema.keyClause key))
      (changes.filter schema.counts) statements) :
    ∀ statement ∈ statements, ∃ purpose, schema.Serves purpose statement ∧
      statement.propertyLevel = schema.declaredFor purpose := by
  intro statement member
  obtain ⟨change, _, increment⟩ := Outcome.exists_left increments member
  exact ⟨_, increment.serves, increment.declares⟩

theorem rows_declare {purposes : List Purpose} {statements : List GeneratedStatement}
    (serve : List.Forall₂ schema.Serves purposes statements)
    (others : ∀ purpose ∈ purposes, purpose = .row ∨ purpose = .counterRow) :
    ∀ statement ∈ statements, ∃ purpose, schema.Serves purpose statement ∧
      statement.propertyLevel = schema.declaredFor purpose := by
  intro statement member
  obtain ⟨purpose, among, serves⟩ := Outcome.exists_left serve member
  refine ⟨purpose, serves, serves.undeclared ?_⟩
  rcases others purpose among with rfl | rfl <;> exact nofun

/-- Every generated statement has the level that is declared for its purpose. -/
theorem generation_declares (built : entity.build = .ok schema) {generation : Generation}
    {statements : List GeneratedStatement}
    (generated : generation.statements schema options = .ok statements) :
    ∀ statement ∈ statements, ∃ purpose, schema.Serves purpose statement ∧
      statement.propertyLevel = schema.declaredFor purpose := by
  cases generation with
  | insert strategy subject =>
      obtain ⟨key, inserted, counters, _, inserts, counted, rfl⟩ := insertStatements_split generated
      have rows := rows_declare (inserts.serve built) (by split <;> simp)
      exact List.forall_mem_append.mpr
        ⟨rows, increments_declare (insertedCounters_increments counted)⟩
  | change fields changes =>
      obtain ⟨key, combined, separate, increments, _, rfl, covers⟩ :=
        changeStatements_cover generated
      have together := rows_declare (covers.combined.serve built) (by split <;> simp)
      have apart : ∀ statement ∈ separate, ∃ purpose, schema.Serves purpose statement ∧
          statement.propertyLevel = schema.declaredFor purpose := by
        intro statement member
        obtain ⟨change, _, performs⟩ := Outcome.exists_left covers.separate member
        have serves := performs.serves built
        exact ⟨.row, serves, serves.undeclared nofun⟩
      exact List.forall_mem_append.mpr
        ⟨List.forall_mem_append.mpr ⟨together, apart⟩, increments_declare covers.increments⟩
  | remove key =>
      cases generated
      refine rows_declare (schema.removeStatements_serve key options) ?_
      dsimp only [Generation.purposes]
      split
      · simp
      · split <;> simp

/-- Outside a batch the level declared for the purpose counts when the call asks for none. -/
theorem askedLevel_alone {purpose : Purpose} {statement : GeneratedStatement}
    (serves : schema.Serves purpose statement)
    (declares : statement.propertyLevel = schema.declaredFor purpose) (options : WriteOptions) :
    EntityManager.askedLevel options false statement =
      options.level.or (schema.declaredFor purpose) := by
  unfold EntityManager.askedLevel
  rw [← declares]
  cases serves with
  | increment | counterRow => rfl
  | insert | update | delete => exact Option.or_none.symm

end EntitySchema

inductive Submission.Levelled (tiers : Tiers) (schemas : List EntitySchema) (schema : EntitySchema)
    (asked : Option Level) : Submission → Prop
  | single {purpose : Purpose} {statement : GeneratedStatement} {level : Level}
      {serialLevel : Option Level} {tracing : Bool} (serves : schema.Serves purpose statement)
      (gives : tiers.Gives schemas schema.table (asked.or (schema.declaredFor purpose)) level) :
      Levelled tiers schemas schema asked (.single
        ⟨statement.write.query, statement.write.values, some level, serialLevel, tracing⟩)

def Operation.SendsLevelled (operation : Operation) (config : Config) (schemas : List EntitySchema)
    (world before after : World) : Prop :=
  ∃ sent, after.executed = before.executed ++ sent ∧
    ∀ submission ∈ sent, ∃ schema ∈ schemas, operation.entityName world = .ok schema.name ∧
      submission.Levelled config.writeTiers schemas schema operation.options.level

/-- What a batch sends of its queue: for the counters and for the others an envelope at most, at the
level of the session or else of the table that the first statement is for. -/
def Batch.SendsLevelled (config : Config) (schemas : List EntitySchema) (level : Option Level)
    (queue : List Queued) (before after : World) : Prop :=
  ∃ sent, after.executed = before.executed ++ sent ∧
    ∀ submission ∈ sent, ∃ counter first rest envelope,
      Queued.part queue counter = first :: rest ∧ submission = .batch envelope ∧
      envelope.statements = (first :: rest).map (·.pending.batched) ∧
      ∀ schema, first.origin = some schema →
        config.writeTiers.Gives schemas schema.table level envelope.level

variable {config : Config} {schemas : List EntitySchema} {registry : Registry}

namespace Operation

variable {operation : Operation} {world : World}

theorem prepared_levelled (lists : registry.Lists schemas)
    (built : ∀ schema ∈ schemas, ∃ entity : EntityDeclaration, entity.build = .ok schema)
    {pending : PendingStatement}
    (member : pending ∈ (operation.prepared ⟨registry, config⟩ world).statements ++
      (operation.prepared ⟨registry, config⟩ world).counterStatements) (tracing : Bool) :
    ∃ schema ∈ schemas, operation.entityName world = .ok schema.name ∧
      (Submission.single (pending.single tracing)).Levelled config.writeTiers schemas schema
        operation.options.level := by
  obtain ⟨schema, asked, statements, ⟨named, known, _, stamps, generated⟩, among⟩ :=
    prepared_queued member
  obtain ⟨registered, rfl⟩ := (lists.get? _).mp known
  obtain ⟨entity, builds⟩ := built schema registered
  obtain ⟨request, requested⟩ := generation_generate generated
  obtain ⟨generation, generates⟩ := request.exists_generation requested
  obtain ⟨statement, belongs, rfl⟩ := List.mem_map.mp among
  obtain ⟨purpose, serves, declares⟩ :=
    EntitySchema.generation_declares builds generates statement belongs
  refine ⟨schema, registered, named, .single serves ?_⟩
  rw [← stamps.levels.1, ← EntitySchema.askedLevel_alone serves declares asked]
  exact (Resolver.write_iff lists config _ _ _).mp rfl

theorem run_sendsLevelled (lists : registry.Lists schemas)
    (built : ∀ schema ∈ schemas, ∃ entity : EntityDeclaration, entity.build = .ok schema)
    (operation : Operation) (world later : World) :
    operation.SendsLevelled config schemas world later
      ((operation.prepared ⟨registry, config⟩ world).run later).2 := by
  obtain ⟨sent, first, executed⟩ := operation.run_singly ⟨registry, config⟩ world later
  refine ⟨_, executed, List.forall_mem_map.mpr ?_⟩
  exact fun pending member => prepared_levelled lists built (first.subset member) _

theorem call_sendsLevelled (lists : registry.Lists schemas)
    (built : ∀ schema ∈ schemas, ∃ entity : EntityDeclaration, entity.build = .ok schema)
    (operation : Operation) (world : World) :
    operation.SendsLevelled config schemas world world
      (operation.call ⟨registry, config⟩ world).2 := by
  obtain ⟨sent, first, executed⟩ := operation.call_singly ⟨registry, config⟩ world
  refine ⟨_, executed, List.forall_mem_map.mpr ?_⟩
  exact fun pending member => prepared_levelled lists built (first.subset member) _

end Operation

namespace Batch

variable {levels : Option Level × Option Level} {queue : List Queued} {batch : Batch}

theorem Carries.sendsLevelled (lists : registry.Lists schemas)
    (carries : batch.Carries ⟨registry, config⟩ levels queue) (world : World) :
    SendsLevelled config schemas levels.1 queue world (batch.context.run world).2 := by
  obtain ⟨sent, executed, each, _⟩ := carries.sends world
  refine ⟨sent, executed, ?_⟩
  intro submission member
  obtain ⟨counter, first, rest, part, led⟩ := each submission member
  have among : first ∈ Queued.part queue counter := by
    rw [part]
    exact List.mem_cons_self
  have levelled := carries.each first (List.mem_filter.mp among).1
  cases led with
  | @batch envelope statements level serialLevel =>
      refine ⟨counter, first, rest, envelope, part, rfl, statements, ?_⟩
      intro schema origin
      rw [level, levelled.level schema origin, ← Resolver.write_iff lists]
      cases levels.1 <;> rfl

end Batch

/-- Every level comes from the same tiers: that of a call or a session, that of a counter written by
itself, that of the settings for a table, that of its first entity by name, and the default. None
depends on the order in which the entities were registered. -/
theorem levels_by_tiers :
    (∀ schemas others registry, schemas.Perm others →
      (Registry.ofSchemas schemas = .ok registry ↔ Registry.ofSchemas others = .ok registry)) ∧
    ∀ (config : Config) (schemas : List EntitySchema) (registry : Registry),
      (∀ schema ∈ schemas, ∃ entity : EntityDeclaration, entity.build = .ok schema) →
      Registry.ofSchemas schemas = .ok registry →
        (∀ table asked level,
          ((Resolver.new config registry).read table asked = level ↔
            config.readTiers.Gives schemas table asked level) ∧
          ((Resolver.new config registry).write table asked = level ↔
            config.writeTiers.Gives schemas table asked level)) ∧
        (∀ (operation : Operation) (world : World),
          operation.SendsLevelled config schemas world world
            (operation.call ⟨registry, config⟩ world).2 ∧
          ∀ later, operation.SendsLevelled config schemas world later
            ((operation.prepared ⟨registry, config⟩ world).run later).2) ∧
        (∀ ordered unlogged level serialLevel calls, ∃ levels queue,
          ((Batch.start ⟨registry, config⟩ ordered unlogged level serialLevel).follow calls).Waits
            ⟨registry, config⟩ levels queue) ∧
        ∀ (levels : Option Level × Option Level) (queue : List Queued) (batch : Batch),
          batch.Waits ⟨registry, config⟩ levels queue → ∀ world,
            Batch.SendsLevelled config schemas levels.1 queue world (batch.flush world).2.2 ∧
            Batch.SendsLevelled config schemas levels.1 queue world
              (batch.detach.1.run world).2 := by
  refine ⟨?_, ?_⟩
  · intro schemas others registry same
    exact ⟨Registry.ofSchemas_perm same, Registry.ofSchemas_perm same.symm⟩
  · intro config schemas registry built registered
    have lists := Registry.lists_of_ofSchemas registered
    refine ⟨?_, ?_, Batch.exists_waits _, ?_⟩
    · intro table asked level
      exact ⟨Resolver.read_iff lists config table asked level,
        Resolver.write_iff lists config table asked level⟩
    · intro operation world
      exact ⟨operation.call_sendsLevelled lists built world,
        operation.run_sendsLevelled lists built world⟩
    · intro levels queue batch waits world
      have sends := waits.carries.sendsLevelled lists world
      exact ⟨sends, sends⟩

def pageViews (name : String) (writeLevel : Option Level) : EntityDeclaration :=
  { Microblog.pageView with name := name, writeLevel := writeLevel }

def pageViewSchema (name : String) (writeLevel : Option Level) : EntitySchema :=
  ⟨name, "page_views",
    [⟨"page", "page", .partitionKey, ⟨.text, .simple (.native .text)⟩, none⟩,
      ⟨"day", "day", .clusteringKey .asc, ⟨.text, .simple (.native .text)⟩, none⟩,
      ⟨"views", "views", .counter, ⟨.counter, .simple .counter⟩, none⟩,
      ⟨"clicks", "clicks", .counter, ⟨.counter, .simple .counter⟩, some .all⟩],
    none, none, writeLevel, none, []⟩

theorem build_pageViews (name : String) (writeLevel : Option Level) :
    (pageViews name writeLevel).build = .ok (pageViewSchema name writeLevel) := by
  rfl

def pageSchemas : List EntitySchema :=
  [pageViewSchema "PageView" (some .three), pageViewSchema "DailyView" (some .two),
    pageViewSchema "BareView" none]

def pages : EntityManager :=
  ⟨[("BareView", pageViewSchema "BareView" none),
      ("DailyView", pageViewSchema "DailyView" (some .two)),
      ("PageView", pageViewSchema "PageView" (some .three))], Config.standard⟩

def browsing : World where
  cells := [⟨((Microblog.viewOf "home" "monday").increment "views" 1).increment "clicks" 2, false⟩]
  backend := Backend.empty
  wall := ⟨fun _ => 0, 0⟩
  tracing := false
  notices := []

def counting : Operation :=
  .write .update 0 .standard

theorem levels_by_tiers_pages :
    (∀ schema ∈ pageSchemas, ∃ entity : EntityDeclaration, entity.build = .ok schema) ∧
      Registry.ofSchemas pageSchemas = .ok pages.registry ∧
      Registry.ofSchemas pageSchemas.reverse = .ok pages.registry ∧
      Config.standard.readTiers.Gives pageSchemas "page_views" none .one ∧
      Config.standard.writeTiers.Gives pageSchemas "page_views" none .two ∧
      counting.SendsLevelled Config.standard pageSchemas browsing browsing
        (counting.call pages browsing).2 ∧
      ((counting.call pages browsing).2.executed.flatMap Submission.statements).map (·.level) =
        [some .two, some .all] ∧
      ∃ (queue : List Queued) (batch : Batch), batch.Waits pages (none, none) queue ∧
        queue.map (·.pending.level) = [.two, .two] ∧
        Batch.SendsLevelled Config.standard pageSchemas none queue browsing
          (batch.flush browsing).2.2 := by
  have built : ∀ schema ∈ pageSchemas, ∃ entity : EntityDeclaration, entity.build = .ok schema := by
    simp only [pageSchemas, List.forall_mem_cons]
    exact ⟨⟨_, build_pageViews _ _⟩, ⟨_, build_pageViews _ _⟩, ⟨_, build_pageViews _ _⟩,
      List.forall_mem_nil _⟩
  have registered : Registry.ofSchemas pageSchemas = .ok pages.registry := rfl
  obtain ⟨levels, calls, _, batches⟩ :=
    levels_by_tiers.2 Config.standard pageSchemas pages.registry built registered
  have turned := (levels_by_tiers.1 pageSchemas pageSchemas.reverse pages.registry
    (List.reverse_perm _).symm).mp registered
  have named : counting.entityName browsing = .ok "PageView" := rfl
  have known : Keyed.get? pages.registry "PageView" =
      some (pageViewSchema "PageView" (some .three)) := rfl
  have makes : counting.Makes pages (Batch.start pages false false none none).context browsing
      _ _ :=
    .made (.intro named known rfl (.free (Or.inr nofun)) rfl)
      (EntityManager.forall₂_pends_iff.mpr rfl)
  have about : BatchOperation.About (Batch.start pages false false none none) browsing
      counting.inBatch _ := .entity named known
  have fresh : (Batch.start pages false false none none).Waits pages (none, none) [] :=
    .started false false none none
  have waits := fresh.queued rfl about (.operation makes)
  exact ⟨built, registered, turned, (levels _ _ _).1.mp rfl, (levels _ _ _).2.mp rfl,
    (calls counting browsing).1, rfl, _, _, waits, rfl, (batches _ _ _ waits browsing).1⟩

end CqlMapper

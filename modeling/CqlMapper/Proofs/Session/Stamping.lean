import CqlMapper.Proofs.Session.Preparing
import CqlMapper.Proofs.Statement.Recognition
import CqlMapper.Proofs.Statement.Timestamps

/-!
The timestamp of one operation: the next tick of the clock of its context in an ordered batch, on
which the options have no influence, and elsewhere that of the options.
-/

namespace CqlMapper

theorem StampClock.lt_next {clock : StampClock} (room : clock.last ≠ Int64.maxValue)
    (now : Int64) : clock.last < clock.next now := by
  unfold next
  split
  · assumption
  · have notLast : clock.last.toInt ≠ 2 ^ 63 - 1 := by
      intro same
      exact room (Int64.toInt_inj.mp (same.trans Int64.toInt_maxValue.symm))
    have upper := clock.last.toInt_lt
    have lower := clock.last.le_toInt
    have one : (1 : Int64).toInt = 1 := rfl
    rw [Int64.lt_iff_toInt_lt, Int64.toInt_add, one, Int.bmod_eq_of_le (by omega) (by omega)]
    omega

theorem WallClock.now_ok {clock : WallClock} {now : Int64} (reading : clock.now = .ok now) :
    now = clock.reading clock.reads := by
  unfold WallClock.now at reading
  dsimp only at reading
  split at reading <;> cases reading
  rfl

def FlushContext.stampAt (context : FlushContext) (world : World) : Int64 :=
  context.clock.next (world.wall.reading world.wall.reads)

/-- The text and the values of a generated statement that binds this timestamp once, in its place,
or none. Nothing but its clause asks for one, whatever the table and the columns are called. -/
structure EntitySchema.Dates (schema : EntitySchema) (asked : WriteOptions) (stamp : Option Int64)
    (statement : GeneratedStatement) (text : String) (bound : List CqlValue) : Prop where
  drafts : schema.Drafts asked statement
  timestamp : statement.write.timestamp? = stamp
  query : text = String.join (statement.write.pieces.map Piece.query)
  values : bound = statement.write.pieces.filterMap Piece.value?
  pieces : Piece.Dates stamp statement.write.pieces

namespace EntityManager

variable {manager : EntityManager} {schema : EntitySchema} {options asked : WriteOptions}
  {context stamped : FlushContext} {world ticked : World}
  {result : Except WriteError WriteOptions}

theorem Stamps.ordered (stamps : Stamps schema options context world (.ok asked) stamped ticked)
    (ordered : context.mode = .orderedBatch) (mixed : schema.isClusteredCounter = false) :
    asked.timestamp = some (context.stampAt world) ∧ stamped.clock = ⟨context.stampAt world⟩ := by
  cases stamps with
  | free unordered =>
      rcases unordered with clustered | other
      · rw [mixed] at clustered
        cases clustered
      · exact absurd ordered other
  | ticked plain _ reading =>
      cases WallClock.now_ok reading
      exact ⟨rfl, rfl⟩

theorem Stamps.unordered (stamps : Stamps schema options context world (.ok asked) stamped ticked)
    (unordered : context.mode ≠ .orderedBatch) : asked = options := by
  cases stamps with
  | free => rfl
  | ticked plain ordered => exact absurd ordered unordered

theorem Stamps.clock (stamps : Stamps schema options context world result stamped ticked) :
    stamped.clock = context.clock ∨ stamped.clock = ⟨context.stampAt world⟩ := by
  cases stamps with
  | free | timeless => exact Or.inl rfl
  | ticked plain ordered reading =>
      cases WallClock.now_ok reading
      exact Or.inr rfl

/-- In an ordered batch the timestamp in the options has no effect. -/
theorem stamp_giving (ordered : context.mode = .orderedBatch)
    (mixed : schema.isClusteredCounter = false) (timestamp : Option Int64) :
    stamp schema { options with timestamp := timestamp } context world =
      stamp schema options context world := by
  unfold stamp FlushContext.nextStamp
  rw [mixed, ordered]
  cases context.clock.tick world.wall with
  | mk result rest => cases result <;> rfl

theorem optionFault?_giving (mixed : schema.isClusteredCounter = false) (kind : WriteKind)
    (timestamp : Option Int64) :
    optionFault? schema kind { options with timestamp := timestamp } =
      optionFault? schema kind options := by
  simp [optionFault?, mixed, WriteOptions.isConditional]

end EntityManager

namespace Operation

open EntityManager

variable {manager : EntityManager} {schema : EntitySchema} {context : FlushContext} {world : World}

/-- Of what an operation generates the plain statements have the timestamp it is stamped with, and
the counters none. -/
theorem generation_dates {operation : Operation} {asked : WriteOptions}
    {statements : List GeneratedStatement}
    (generated : operation.generation manager schema asked world = .ok statements) :
    ∀ statement ∈ statements,
      schema.Dates asked (if statement.counter then none else asked.timestamp) statement
          statement.write.query statement.write.values ∧
        (statement.counter = false → schema.isClusteredCounter = false) := by
  intro statement member
  obtain ⟨request, requested⟩ := generation_generate generated
  obtain ⟨generation, made⟩ := request.exists_generation requested
  have drafts := EntitySchema.generation_drafts made statement member
  have pieces := statement.write.dates
  rcases EntitySchema.generate_parts requested statement member with plain | counter
  · rw [plain.timestamp] at pieces
    rw [plain.counter]
    exact ⟨⟨drafts, plain.timestamp, rfl, rfl, pieces⟩, fun _ => plain.mixed⟩
  · rw [counter.timestamp] at pieces
    rw [counter.counter]
    exact ⟨⟨drafts, counter.timestamp, rfl, rfl, pieces⟩, nofun⟩

def giving (operation : Operation) (timestamp : Option Int64) : Operation :=
  match operation with
  | .write kind entity options => .write kind entity { options with timestamp := timestamp }
  | .removeById entity key options =>
    .removeById entity key { options with timestamp := timestamp }

theorem admitted_giving {operation : Operation}
    (admits : operation.admitted manager world = .ok schema)
    (mixed : schema.isClusteredCounter = false) (timestamp : Option Int64) :
    (operation.giving timestamp).admitted manager world = .ok schema := by
  cases operation with
  | write kind entity options =>
      obtain ⟨record, admits⟩ := checkedSchema_ok admits
      have faultless := (optionFault?_giving mixed kind timestamp).trans admits.faultless
      exact Admits.checked ⟨admits.locked, admits.known, faultless⟩
  | removeById entity key options =>
      obtain ⟨known, found, rest⟩ := Outcome.bind_eq_ok.mp admits
      obtain ⟨_, checked, whole⟩ := Outcome.bind_eq_ok.mp rest
      cases whole
      have faultless :=
        (optionFault?_giving mixed .remove timestamp).trans (checkOptions_ok.mp checked)
      exact Outcome.bind_eq_ok.mpr
        ⟨schema, found, Outcome.bind_eq_ok.mpr ⟨(), checkOptions_ok.mpr faultless, rfl⟩⟩

theorem prepare_giving {operation : Operation}
    (admits : operation.admitted manager world = .ok schema)
    (ordered : context.mode = .orderedBatch) (mixed : schema.isClusteredCounter = false)
    (timestamp : Option Int64) :
    (operation.giving timestamp).prepare manager context world =
      operation.prepare manager context world := by
  have still := admitted_giving admits mixed timestamp
  cases operation with
  | write kind entity options =>
      simp only [giving, admitted] at admits still
      simp only [prepare, giving, EntityManager.prepare, admits, still, stamp_giving ordered mixed]
  | removeById entity key options =>
      simp only [giving, admitted] at admits still
      simp only [prepare, giving, EntityManager.prepareRemoveById, admits, still,
        stamp_giving ordered mixed]

end Operation

end CqlMapper

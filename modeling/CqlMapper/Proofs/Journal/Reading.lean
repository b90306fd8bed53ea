import CqlMapper.Proofs.Journal.Accounting
import CqlMapper.Proofs.MessagePack.Sizes

/-!
What a journal gives back. The rows of an envelope are found by its identifier in the order of their
positions, and values, levels and types are read from what was written of them.
-/

namespace CqlMapper

open Outcome

theorem Level.parse_name (level : Level) : Level.parse level.name = .ok level := by
  cases level <;> rfl

theorem BatchType.parse_name (type : BatchType) : BatchType.parse type.name = .ok type := by
  cases type <;> rfl

namespace StoredEnvelope

theorem readLevel_name (level : Option Level) : readLevel (level.map Level.name) = .ok level := by
  cases level with
  | none => rfl
  | some level => simp [readLevel, Level.parse_name]

theorem readBatchType_name (type : Option BatchType) :
    readBatchType (type.map BatchType.name) = .ok type := by
  cases type with
  | none => rfl
  | some type => simp [readBatchType, BatchType.parse_name, Except.map]

def statementsIn (stored : StoredEnvelope) (tables : Tables) :
    Except StoreError (List BoundStatement) :=
  tables.select stored.id >>= fun rows => rows.mapM readStatement

theorem read_eq_ok {stored : StoredEnvelope} {tables : Tables} {entry : JournalEntry} :
    stored.read tables = .ok entry ↔ ∃ statements, stored.statementsIn tables = .ok statements ∧
      checksumOf statements = stored.checksum ∧
      ∃ batchType, readBatchType stored.batchType = .ok batchType ∧
      ∃ level, readLevel stored.level = .ok level ∧
      ∃ serialLevel, readLevel stored.serialLevel = .ok serialLevel ∧
      ⟨stored.id, batchType, level, serialLevel, stored.checksum, statements⟩ = entry := by
  simp only [read, statementsIn, bind_eq_ok]
  constructor
  · rintro ⟨rows, selected, statements, decoded, checked⟩
    refine ⟨statements, ⟨rows, selected, decoded⟩, ?_⟩
    split at checked
    · rename_i same
      simp only [bind_eq_ok, pure_eq_ok] at checked
      exact ⟨same, checked⟩
    · cases checked
  · rintro ⟨statements, ⟨rows, selected, decoded⟩, same, names⟩
    refine ⟨rows, selected, statements, decoded, ?_⟩
    rw [if_pos same]
    simp only [bind_eq_ok, pure_eq_ok]
    exact names

end StoredEnvelope

def BoundStatement.Shallow (statement : BoundStatement) : Prop :=
  CqlValue.itemsDepth statement.values < MessagePack.greatestDepth

def BoundStatement.bare (statement : BoundStatement) : BoundStatement :=
  .plain statement.query statement.values

theorem BoundStatement.Fits.writable {statement : BoundStatement} (fits : statement.Fits) :
    MessagePack.Writable statement.values := by
  apply MessagePack.writable_of_short
  have limit : StoredStatement.greatestSize < UInt32.size := by decide
  unfold Fits at fits
  omega

theorem checksumOf_bare (statements : List BoundStatement) :
    checksumOf (statements.map BoundStatement.bare) = checksumOf statements := by
  unfold checksumOf
  rw [List.map_map]
  rfl

def Submission.entry (submission : Submission) (id : Nat) : JournalEntry where
  id := id
  batchType := submission.batchType?
  level := submission.level?
  serialLevel := submission.serialLevel?
  checksum := checksumOf submission.statements
  statements := submission.statements.map BoundStatement.bare

namespace StoredStatement

variable {envelope position : Nat} {statements : List BoundStatement}

theorem envelope_of_mem_rowsFrom {row : StoredStatement}
    (member : row ∈ rowsFrom envelope position statements) : row.envelope = envelope := by
  obtain ⟨index, less, same⟩ := List.mem_mapIdx.mp member
  rw [← same]
  rfl

theorem position_of_mem_rowsFrom {row : StoredStatement}
    (member : row ∈ rowsFrom envelope position statements) : position ≤ row.position := by
  obtain ⟨index, less, same⟩ := List.mem_mapIdx.mp member
  rw [← same]
  exact Nat.le_add_right position index

theorem pairwise_rowsFrom (envelope position : Nat) (statements : List BoundStatement) :
    (rowsFrom envelope position statements).Pairwise
      fun first second => decide (first.position ≤ second.position) = true := by
  induction statements generalizing position with
  | nil => exact .nil
  | cons statement rest ih =>
      rw [rowsFrom_cons]
      refine .cons ?_ (ih (position + 1))
      intro row member
      have later := position_of_mem_rowsFrom member
      exact decide_eq_true (Nat.le_of_succ_le later)

theorem readStatement_rowsFrom (envelope position : Nat)
    (fits : ∀ statement ∈ statements, statement.Fits)
    (shallow : ∀ statement ∈ statements, statement.Shallow) :
    (rowsFrom envelope position statements).mapM StoredEnvelope.readStatement =
      .ok (statements.map BoundStatement.bare) := by
  induction statements generalizing position with
  | nil => rfl
  | cons statement rest ih =>
      obtain ⟨fits, fitsRest⟩ := List.forall_mem_cons.mp fits
      obtain ⟨shallow, shallowRest⟩ := List.forall_mem_cons.mp shallow
      have values := MessagePack.read?_write fits.writable shallow
      have first : StoredEnvelope.readStatement (.ofStatement envelope position statement) =
          .ok statement.bare := by
        simp [StoredEnvelope.readStatement, ofStatement, values, BoundStatement.bare]
      rw [rowsFrom_cons, mapM_eq_ok]
      exact .cons first (mapM_eq_ok.mp (ih (position + 1) fitsRest shallowRest))

end StoredStatement

namespace Tables

variable {tables : Tables} {submission : Submission}

theorem select_grown_of_ne {id : Nat} (other : id ≠ tables.freshId) :
    (tables.grown submission).select id = tables.select id := by
  have none : (StoredStatement.rowsFrom tables.freshId 0 submission.statements).filter
      (fun row => row.envelope == id) = [] := by
    rw [List.filter_eq_nil_iff]
    intro row member own
    exact other ((beq_iff_eq.mp own).symm.trans (StoredStatement.envelope_of_mem_rowsFrom member))
  unfold select grown withStatements withEnvelope
  cases tables.statements with
  | none => rfl
  | some rows => simp [List.filter_append, none]

theorem select_grown_freshId (submission : Submission) (present : tables.statements.isSome) :
    (tables.grown submission).select tables.freshId =
      .ok (StoredStatement.rowsFrom tables.freshId 0 submission.statements) := by
  obtain ⟨rows, stored⟩ := Option.isSome_iff_exists.mp present
  have older : rows.filter (fun row => row.envelope == tables.freshId) = [] := by
    rw [List.filter_eq_nil_iff]
    intro row member own
    have listed : row ∈ tables.statementRows := by
      rw [statementRows, stored]
      exact member
    exact statement_ne_freshId listed (beq_iff_eq.mp own)
  have newer : (StoredStatement.rowsFrom tables.freshId 0 submission.statements).filter
      (fun row => row.envelope == tables.freshId) =
        StoredStatement.rowsFrom tables.freshId 0 submission.statements := by
    rw [List.filter_eq_self]
    intro row member
    exact beq_iff_eq.mpr (StoredStatement.envelope_of_mem_rowsFrom member)
  have sorted := List.mergeSort_of_pairwise
    (StoredStatement.pairwise_rowsFrom tables.freshId 0 submission.statements)
  unfold select grown withStatements withEnvelope
  simp [stored, List.filter_append, older, newer, sorted]

theorem read_grown_of_mem {row : StoredEnvelope} (member : row ∈ tables.envelopes) :
    row.read (tables.grown submission) = row.read tables := by
  unfold StoredEnvelope.read
  rw [select_grown_of_ne (envelope_ne_freshId member)]

theorem read_ofSubmission (present : tables.statements.isSome)
    (fits : ∀ statement ∈ submission.statements, statement.Fits)
    (shallow : ∀ statement ∈ submission.statements, statement.Shallow) :
    (StoredEnvelope.ofSubmission tables.freshId submission).read (tables.grown submission) =
      .ok (submission.entry tables.freshId) := by
  have rows := select_grown_freshId submission present
  have statements := StoredStatement.readStatement_rowsFrom tables.freshId 0 fits shallow
  exact StoredEnvelope.read_eq_ok.mpr ⟨_, bind_eq_ok.mpr ⟨_, rows, statements⟩, checksumOf_bare _,
    _, StoredEnvelope.readBatchType_name _, _, StoredEnvelope.readLevel_name _, _,
    StoredEnvelope.readLevel_name _, rfl⟩

def readAll (tables : Tables) : Except StoreError (List JournalEntry) :=
  tables.envelopes.mapM (·.read tables)

theorem readAll_grown {before : List JournalEntry} (readable : tables.readAll = .ok before)
    (present : tables.statements.isSome)
    (fits : ∀ statement ∈ submission.statements, statement.Fits)
    (shallow : ∀ statement ∈ submission.statements, statement.Shallow) :
    (tables.grown submission).readAll = .ok (before ++ [submission.entry tables.freshId]) := by
  have older : List.Forall₂ (fun row entry => row.read (tables.grown submission) = .ok entry)
      tables.envelopes before := by
    refine ((List.forall₂_and_left _ _).mpr
      ⟨fun _ member => member, mapM_eq_ok.mp readable⟩).imp ?_
    rintro row entry ⟨member, read⟩
    rw [read_grown_of_mem member, read]
  exact mapM_eq_ok.mpr
    (List.rel_append older (.cons (read_ofSubmission present fits shallow) .nil))

theorem readAll_grownAll {submissions : List Submission} {before : List JournalEntry}
    (readable : tables.readAll = .ok before) (present : tables.statements.isSome)
    (fits : ∀ submission ∈ submissions, ∀ statement ∈ submission.statements, statement.Fits)
    (shallow : ∀ submission ∈ submissions, ∀ statement ∈ submission.statements,
      statement.Shallow) :
    ∃ entries, (submissions.foldl grown tables).readAll = .ok (before ++ entries) ∧
      List.Forall₂ (fun submission entry => ∃ id, entry = submission.entry id)
        submissions entries := by
  induction submissions generalizing tables before with
  | nil => exact ⟨[], by simpa using readable, .nil⟩
  | cons submission rest ih =>
      obtain ⟨fits, fitsRest⟩ := List.forall_mem_cons.mp fits
      obtain ⟨shallow, shallowRest⟩ := List.forall_mem_cons.mp shallow
      have presentNext : (tables.grown submission).statements.isSome := by
        simpa [grown, withStatements, withEnvelope] using present
      obtain ⟨entries, read, each⟩ :=
        ih (readAll_grown readable present fits shallow) presentNext fitsRest shallowRest
      refine ⟨submission.entry tables.freshId :: entries, ?_, .cons ⟨_, rfl⟩ each⟩
      rw [List.foldl_cons, read, List.append_assoc, List.singleton_append]

end Tables

namespace Backend

theorem executedOf_all {submissions : List Submission} {answers : List Answer}
    (all : answers.length = submissions.length) (ok : ∀ answer ∈ answers, answer.isOk = true) :
    executedOf submissions answers = submissions := by
  induction submissions generalizing answers with
  | nil => cases answers <;> rfl
  | cons submission rest ih =>
      cases answers with
      | nil => cases all
      | cons answer answers =>
          obtain ⟨first, others⟩ := List.forall_mem_cons.mp ok
          rw [executedOf, if_pos first, ih (Nat.succ.inj all) others]

/-- A journal that has missed nothing gives back what has been executed, one entry a submission. -/
theorem journal_reads_back (store : ScriptedStore) (journal : Journal)
    (submissions : List Submission) {before : List JournalEntry}
    (readable : journal.file.read = .ok before)
    (present : journal.file.tables.statements.isSome)
    (executed : ∀ answer ∈ (submitAll ⟨store, some journal⟩ submissions).1, answer.isOk = true)
    (kept : ∀ final ∈ (submitAll ⟨store, some journal⟩ submissions).2.journal,
      final.missed = journal.missed)
    (shallow : ∀ submission ∈ submissions, ∀ statement ∈ submission.statements,
      statement.Shallow) :
    ∃ final entries, (submitAll ⟨store, some journal⟩ submissions).2.journal = some final ∧
      final.file.read = .ok (before ++ entries) ∧
      List.Forall₂ (fun submission entry => ∃ id, entry = submission.entry id)
        submissions entries := by
  obtain ⟨final, others, same, accounts⟩ := submitAll_accounts store journal submissions
  rw [same] at executed kept
  have length := store.length_submitAll submissions
  rw [executedOf_all length executed] at accounts
  have missed := accounts.missed
  rw [kept final rfl] at missed
  have all : others = submissions := accounts.ordered.eq_of_length (by omega)
  have fits := accounts.fits
  have tables := accounts.tables
  rw [all] at fits tables
  obtain ⟨entries, read, each⟩ := Tables.readAll_grownAll readable present fits shallow
  refine ⟨final, entries, by rw [same], ?_, each⟩
  rw [← tables] at read
  exact read

def matchday : List Submission :=
  [.single ⟨"UPDATE players SET form = ? WHERE name = ?",
      [.list [.double ⟨0x7ff8000000000001⟩, .double ⟨0x8000000000000000⟩], .text "Ána"],
      some .quorum, some .localSerial, false⟩,
    .batch ⟨.counter, [.plain "UPDATE totals SET goals = goals + ? WHERE team = ?"
      [.counter 3, .map [(.text "home", .set [.blob [0, 200]])]], .plain "DELETE FROM drafts" []],
      .one, none, false⟩,
    .batch ⟨.logged, [], .all, none, true⟩]

theorem journal_reads_back_matchday :
    ∃ final entries, (submitAll ⟨.empty, some .empty⟩ matchday).2.journal = some final ∧
      final.file.read = .ok ([] ++ entries) ∧
      List.Forall₂ (fun submission entry => ∃ id, entry = submission.entry id)
        matchday entries := by
  apply journal_reads_back .empty .empty matchday rfl rfl
  · decide +kernel
  · have missed : (submitAll ⟨.empty, some .empty⟩ matchday).2.journal.map Journal.missed =
        some 0 := by
      decide +kernel
    intro final member
    rw [Option.mem_def.mp member] at missed
    exact Option.some.inj missed
  · unfold BoundStatement.Shallow
    decide

end Backend

end CqlMapper

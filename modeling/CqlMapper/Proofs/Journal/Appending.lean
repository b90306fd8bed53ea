import CqlMapper.Journal.Tables
import CqlMapper.Proofs.Outcome
import Mathlib.Data.List.Basic

/-!
What a transaction does to the tables of a journal: all of its rows are added, or nothing happens
at all. Which of the two is decided by the faults, the sizes of the rows and the tables themselves.
-/

namespace CqlMapper

open Outcome

def StoredStatement.rowsFrom (envelope position : Nat) (statements : List BoundStatement) :
    List StoredStatement :=
  statements.mapIdx fun index statement => .ofStatement envelope (position + index) statement

theorem StoredStatement.rowsFrom_cons (envelope position : Nat) (statement : BoundStatement)
    (rest : List BoundStatement) :
    rowsFrom envelope position (statement :: rest) =
      .ofStatement envelope position statement :: rowsFrom envelope (position + 1) rest := by
  simp [rowsFrom, List.mapIdx_cons, Nat.add_assoc, Nat.add_comm 1]

def BoundStatement.Fits (statement : BoundStatement) : Prop :=
  statement.query.utf8ByteSize + (MessagePack.write statement.values).length ≤
    StoredStatement.greatestSize

theorem AppendStep.pass_eq_ok {step : AppendStep} {faults : Faults} {passed : Unit} :
    step.pass faults = .ok passed ↔ faults step = none := by
  unfold AppendStep.pass
  cases faults step <;> simp

namespace Tables

variable {tables after : Tables} {faults : Faults}

def withEnvelope (tables : Tables) (row : StoredEnvelope) : Tables :=
  { tables with envelopes := tables.envelopes ++ [row] }

def withStatements (tables : Tables) (rows : List StoredStatement) : Tables :=
  { tables with statements := tables.statements.map (· ++ rows) }

def grown (tables : Tables) (submission : Submission) : Tables :=
  (tables.withEnvelope (.ofSubmission tables.freshId submission)).withStatements
    (StoredStatement.rowsFrom tables.freshId 0 submission.statements)

theorem withStatements_nil (tables : Tables) : tables.withStatements [] = tables := by
  cases tables with
  | mk envelopes statements => cases statements <;> simp [withStatements]

theorem withStatements_append (tables : Tables) (first second : List StoredStatement) :
    (tables.withStatements first).withStatements second =
      tables.withStatements (first ++ second) := by
  cases tables with
  | mk envelopes statements => cases statements <;> simp [withStatements]

theorem le_foldr_max {number : Nat} {numbers : List Nat} (member : number ∈ numbers) :
    number ≤ numbers.foldr max 0 := by
  induction numbers with
  | nil => cases member
  | cons first rest ih =>
      rw [List.foldr_cons]
      rcases List.mem_cons.mp member with same | later
      · omega
      · have := ih later
        omega

theorem envelope_ne_freshId {row : StoredEnvelope} (member : row ∈ tables.envelopes) :
    row.id ≠ tables.freshId := by
  have bound := le_foldr_max (List.mem_append_left (tables.statementRows.map (·.envelope))
    (List.mem_map_of_mem (f := fun row : StoredEnvelope => row.id) member))
  unfold freshId
  omega

theorem statement_ne_freshId {row : StoredStatement} (member : row ∈ tables.statementRows) :
    row.envelope ≠ tables.freshId := by
  have bound := le_foldr_max (List.mem_append_right (tables.envelopes.map (·.id))
    (List.mem_map_of_mem (f := fun row : StoredStatement => row.envelope) member))
  unfold freshId
  omega

theorem insertEnvelope_freshId (submission : Submission) :
    tables.insertEnvelope (.ofSubmission tables.freshId submission) =
      .ok (tables.withEnvelope (.ofSubmission tables.freshId submission)) := by
  have unknown : tables.hasEnvelope tables.freshId = false := by
    simp only [hasEnvelope, List.any_eq_false, beq_iff_eq]
    intro row member
    exact envelope_ne_freshId member
  unfold insertEnvelope
  simp [StoredEnvelope.ofSubmission, unknown, withEnvelope]

theorem insertStatement_eq_ok {row : StoredStatement}
    (known : tables.hasEnvelope row.envelope = true)
    (free : tables.hasStatement row.envelope row.position = false) :
    tables.insertStatement row = .ok after ↔
      tables.statements.isSome ∧ row.size ≤ StoredStatement.greatestSize ∧
        after = tables.withStatements [row] := by
  unfold insertStatement withStatements
  cases present : tables.statements with
  | none => simp
  | some rows =>
      by_cases small : row.size ≤ StoredStatement.greatestSize
      · simp [known, free, small, eq_comm]
      · simp [small]

def FreeFrom (tables : Tables) (envelope position : Nat) : Prop :=
  ∀ row ∈ tables.statementRows, row.envelope = envelope → row.position < position

theorem FreeFrom.hasStatement {envelope position : Nat} (free : tables.FreeFrom envelope position) :
    tables.hasStatement envelope position = false := by
  simp only [Tables.hasStatement, List.any_eq_false, Bool.and_eq_true, beq_iff_eq, not_and]
  intro row member own
  exact Nat.ne_of_lt (free row member own)

theorem FreeFrom.insert {envelope position : Nat} {row : StoredStatement}
    (free : tables.FreeFrom envelope position) (placed : row.position = position) :
    (tables.withStatements [row]).FreeFrom envelope (position + 1) := by
  intro other member own
  have cases : other ∈ tables.statementRows ∨ other = row := by
    unfold statementRows withStatements at *
    cases present : tables.statements with
    | none => simp [present] at member
    | some rows => simpa [present] using member
  rcases cases with older | rfl
  · exact Nat.lt_succ_of_lt (free other older own)
  · rw [placed]
    exact Nat.lt_succ_self position

structure TakesFrom (tables : Tables) (faults : Faults) (position : Nat)
    (statements : List BoundStatement) : Prop where
  clear : ∀ index < statements.length,
    faults (.encoding (position + index)) = none ∧ faults (.statement (position + index)) = none
  present : statements ≠ [] → tables.statements.isSome
  fits : ∀ statement ∈ statements, statement.Fits

/-- Rows in the tables make no difference, only whether there is a table for them. -/
theorem takesFrom_congr (same : after.statements.isSome = tables.statements.isSome)
    {position : Nat} {statements : List BoundStatement} :
    after.TakesFrom faults position statements ↔ tables.TakesFrom faults position statements := by
  constructor <;> rintro ⟨clear, present, fits⟩
  · exact ⟨clear, same ▸ present, fits⟩
  · exact ⟨clear, same ▸ present, fits⟩

theorem takesFrom_nil (tables : Tables) (faults : Faults) (position : Nat) :
    tables.TakesFrom faults position [] :=
  ⟨fun _ less => absurd less (Nat.not_lt_zero _), fun some => absurd rfl some, by simp⟩

theorem takesFrom_cons {position : Nat} {statement : BoundStatement}
    {rest : List BoundStatement} : tables.TakesFrom faults position (statement :: rest) ↔
      faults (.encoding position) = none ∧ faults (.statement position) = none ∧
        tables.statements.isSome ∧ statement.Fits ∧
          tables.TakesFrom faults (position + 1) rest := by
  constructor
  · rintro ⟨clear, present, fits⟩
    have first := clear 0 (Nat.succ_pos _)
    refine ⟨first.1, first.2, present (List.cons_ne_nil _ _), fits statement List.mem_cons_self,
      ?_, ?_, ?_⟩
    · intro index less
      have later := clear (index + 1) (Nat.succ_lt_succ less)
      rwa [show position + (index + 1) = position + 1 + index by omega] at later
    · intro _
      exact present (List.cons_ne_nil _ _)
    · intro other member
      exact fits other (List.mem_cons_of_mem _ member)
  · rintro ⟨encoding, row, present, fits, later⟩
    refine ⟨?_, fun _ => present, List.forall_mem_cons.mpr ⟨fits, later.fits⟩⟩
    intro index less
    obtain _ | index := index
    · exact ⟨encoding, row⟩
    · have next := later.clear index (Nat.lt_of_succ_lt_succ less)
      rwa [show position + 1 + index = position + (index + 1) by omega] at next

theorem appendStatements_eq_ok {envelope position : Nat} {statements : List BoundStatement}
    (known : tables.hasEnvelope envelope = true) (free : tables.FreeFrom envelope position) :
    tables.appendStatements faults envelope position statements = .ok after ↔
      tables.TakesFrom faults position statements ∧
        after = tables.withStatements (StoredStatement.rowsFrom envelope position statements) := by
  induction statements generalizing tables position with
  | nil =>
      simp [appendStatements, takesFrom_nil, StoredStatement.rowsFrom, withStatements_nil, eq_comm]
  | cons statement rest ih =>
      -- The row takes its own position and leaves those after it free for the rest.
      let row := StoredStatement.ofStatement envelope position statement
      have inserted (middle : Tables) : tables.insertStatement row = .ok middle ↔
          tables.statements.isSome ∧ statement.Fits ∧ middle = tables.withStatements [row] :=
        insertStatement_eq_ok known free.hasStatement
      have still : (tables.withStatements [row]).hasEnvelope envelope = true := known
      have later := ih still (free.insert rfl)
      have same : (tables.withStatements [row]).statements.isSome = tables.statements.isSome := by
        simp [withStatements]
      rw [withStatements_append, List.singleton_append, takesFrom_congr same] at later
      simp only [appendStatements, bind_eq_ok, AppendStep.pass_eq_ok, takesFrom_cons,
        StoredStatement.rowsFrom_cons]
      constructor
      · rintro ⟨_, encoding, _, passed, middle, done, rest⟩
        obtain ⟨present, fits, rfl⟩ := (inserted middle).mp done
        obtain ⟨takes, same⟩ := later.mp rest
        exact ⟨⟨encoding, passed, present, fits, takes⟩, same⟩
      · rintro ⟨⟨encoding, passed, present, fits, takes⟩, same⟩
        exact ⟨(), encoding, (), passed, _, (inserted _).mpr ⟨present, fits, rfl⟩,
          later.mpr ⟨takes, same⟩⟩

structure Takes (tables : Tables) (faults : Faults) (submission : Submission) : Prop where
  opens : ∀ step ∈ [AppendStep.checksum, .lock, .transaction, .envelope], faults step = none
  rows : tables.TakesFrom faults 0 submission.statements
  commits : faults .commit = none

/-- All or nothing: the whole envelope is added, or there is an error and no tables. -/
theorem append_eq_ok {submission : Submission} :
    tables.append faults submission = .ok after ↔
      tables.Takes faults submission ∧ after = tables.grown submission := by
  let head := StoredEnvelope.ofSubmission tables.freshId submission
  have known : (tables.withEnvelope head).hasEnvelope tables.freshId = true := by
    simp [hasEnvelope, withEnvelope, head, StoredEnvelope.ofSubmission]
  have free : (tables.withEnvelope head).FreeFrom tables.freshId 0 := by
    intro row member own
    exact absurd own (statement_ne_freshId member)
  have filled (final : Tables) :
      (tables.withEnvelope head).appendStatements faults tables.freshId 0 submission.statements =
        .ok final ↔ _ := appendStatements_eq_ok known free
  have same : (tables.withEnvelope head).statements.isSome = tables.statements.isSome := rfl
  simp only [append, insertEnvelope_freshId, bind_eq_ok, AppendStep.pass_eq_ok, pure_eq_ok,
    Except.ok.injEq]
  constructor
  · rintro ⟨_, checksum, _, lock, _, transaction, _, envelope, _, rfl, _, rows, _, commits, rfl⟩
    obtain ⟨takes, final⟩ := (filled _).mp rows
    refine ⟨⟨?_, (takesFrom_congr same).mp takes, commits⟩, final⟩
    simp [checksum, lock, transaction, envelope]
  · rintro ⟨⟨opens, takes, commits⟩, rfl⟩
    exact ⟨(), opens _ (by simp), (), opens _ (by simp), (), opens _ (by simp), (),
      opens _ (by simp), _, rfl, _, (filled _).mpr ⟨(takesFrom_congr same).mpr takes, rfl⟩,
        (), commits, rfl⟩

end Tables

end CqlMapper

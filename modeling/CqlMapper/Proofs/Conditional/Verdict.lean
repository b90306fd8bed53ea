import CqlMapper.Conditional.Response
import CqlMapper.Session.Flush

/-!
What an answer of the store says of the statements it is for. An answer is only asked whether the
write took place when one of the statements is conditional.
-/

namespace CqlMapper

abbrev Answer := Except StoreError ResultSet

def ResultSet.Refuses (result : ResultSet) : Prop :=
  ∃ row rest, result.rows = row :: rest ∧ row.getBool? appliedColumn = some false

def Answer.Accepts (answer : Answer) : Prop :=
  ∃ result, answer = .ok result ∧ ¬ result.Refuses

inductive Verdict (statements : List BoundStatement) : Answer → Except WriteError Outcome → Prop
  | failed (error : StoreError) : Verdict statements (.error error) (.error (.store error))
  | unasked (result : ResultSet)
      (plain : ∀ statement ∈ statements, isConditionalQuery statement.query = false) :
      Verdict statements (.ok result) (.ok .applied)
  | applied (result : ResultSet) (accepts : ¬ result.Refuses) :
      Verdict statements (.ok result) (.ok .applied)
  | rejected {first : BoundStatement} {row : Row} {rest : List Row} {current : Keyed CqlValue}
      (result : ResultSet)
      (asked : statements.find? (fun statement => isConditionalQuery statement.query) = some first)
      (rows : result.rows = row :: rest) (refusal : row.getBool? appliedColumn = some false)
      (readable : row.currentValues = .ok current) :
      Verdict statements (.ok result) (.ok (.rejected ⟨conditionalKindOf first.query, current⟩))
  | unreadable {first : BoundStatement} {row : Row} {rest : List Row} {error : MappingError}
      (result : ResultSet)
      (asked : statements.find? (fun statement => isConditionalQuery statement.query) = some first)
      (rows : result.rows = row :: rest) (refusal : row.getBool? appliedColumn = some false)
      (mistyped : row.currentValues = .error error) :
      Verdict statements (.ok result) (.error (.mapping error))

/-- An answer taken as applied says so itself when one of the statements is conditional. -/
theorem Verdict.accepts {statements : List BoundStatement} {answer : Answer}
    (verdict : Verdict statements answer (.ok .applied)) {statement : BoundStatement}
    (member : statement ∈ statements) (conditional : isConditionalQuery statement.query = true) :
    answer.Accepts := by
  cases verdict with
  | unasked result plain =>
      rw [plain statement member] at conditional
      cases conditional
  | applied result accepts => exact ⟨result, rfl, accepts⟩

namespace FlushContext

theorem interpretBatch_verdict (statements : List BoundStatement) (result : ResultSet) :
    Verdict statements (.ok result) (interpretBatch statements result) := by
  unfold interpretBatch
  cases asked : statements.find? fun statement => isConditionalQuery statement.query with
  | none =>
      have plain : ∀ statement ∈ statements, isConditionalQuery statement.query = false := by
        simpa using asked
      exact .unasked result plain
  | some first =>
      have conditional : isConditionalQuery first.query = true := by
        simpa using List.find?_some asked
      simp only [interpret, conditional, Bool.not_true, Bool.false_eq_true, if_false]
      cases rows : result.rows with
      | nil =>
          refine .applied result ?_
          rintro ⟨row, rest, present, _⟩
          rw [rows] at present
          cases present
      | cons row rest =>
          by_cases refusal : row.getBool? appliedColumn = some false
          · simp only [refusal, Option.getD_some, Bool.false_eq_true, if_false]
            cases current : row.currentValues with
            | ok values => exact .rejected result asked rows refusal current
            | error error => exact .unreadable result asked rows refusal current
          · have marked : (row.getBool? appliedColumn).getD true = true := by
              cases mark : row.getBool? appliedColumn with
              | none => rfl
              | some isApplied => cases isApplied <;> simp_all
            simp only [marked, if_true]
            refine .applied result ?_
            rintro ⟨first, others, present, refuses⟩
            rw [rows] at present
            cases present
            exact refusal refuses

theorem interpret_eq_interpretBatch (statement : BoundStatement) (result : ResultSet) :
    interpret statement.query result = interpretBatch [statement] result := by
  cases conditional : isConditionalQuery statement.query <;>
    simp [interpretBatch, interpret, conditional]

theorem eq_interpretBatch {statements : List BoundStatement} {result : ResultSet}
    {outcome : Except WriteError Outcome} (verdict : Verdict statements (.ok result) outcome) :
    outcome = interpretBatch statements result := by
  have conditional {first : BoundStatement}
      (asked : statements.find? (fun statement => isConditionalQuery statement.query) =
        some first) : isConditionalQuery first.query = true := by
    simpa using List.find?_some asked
  cases verdict with
  | unasked _ plain =>
      have unasked : statements.find? (fun statement => isConditionalQuery statement.query) =
          none := by
        simpa using plain
      simp [interpretBatch, unasked]
  | applied _ accepts =>
      cases asked : statements.find? fun statement => isConditionalQuery statement.query with
      | none => simp [interpretBatch, asked]
      | some first =>
          cases rows : result.rows with
          | nil => simp [interpretBatch, asked, interpret, rows]
          | cons row rest =>
              have marked : (row.getBool? appliedColumn).getD true = true := by
                cases mark : row.getBool? appliedColumn with
                | none => rfl
                | some isApplied =>
                    cases isApplied with
                    | true => rfl
                    | false => exact absurd ⟨row, rest, rows, mark⟩ accepts
              simp [interpretBatch, asked, interpret, rows, marked]
  | rejected _ asked rows refusal readable =>
      simp [interpretBatch, asked, interpret, conditional asked, rows, refusal, readable]
  | unreadable _ asked rows refusal mistyped =>
      simp [interpretBatch, asked, interpret, conditional asked, rows, refusal, mistyped]

end FlushContext

/-- An answer has one verdict only. -/
theorem Verdict.unique {statements : List BoundStatement} {answer : Answer}
    {first second : Except WriteError Outcome} (left : Verdict statements answer first)
    (right : Verdict statements answer second) : first = second := by
  cases answer with
  | error error =>
      cases left
      cases right
      rfl
  | ok result =>
      rw [FlushContext.eq_interpretBatch left, FlushContext.eq_interpretBatch right]

end CqlMapper

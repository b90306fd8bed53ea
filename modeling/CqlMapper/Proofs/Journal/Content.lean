import CqlMapper.Proofs.Journal.Reading
import CqlMapper.Proofs.Text.Utf8

/-!
The bytes that a checksum is taken of have no separators. Still they are those of one list of
statements only: a text ends where the header of an array begins, since no character can begin with
it, and no list of values is written as the beginning of another.
-/

namespace CqlMapper

open Outcome

namespace MessagePack

/-- As long as there are fewer values than these, no character begins with the header of their
array. -/
def greatestMarked : Nat := 32768

theorem breaks_write {values : List CqlValue} (few : values.length < greatestMarked)
    (rest : List UInt8) : Text.Breaks (write values ++ rest) := by
  have bound : values.length < 32768 := few
  unfold write arrayHeader
  split
  · rename_i small
    have marker : (UInt8.ofNat (0x90 + values.length)).toNat = 0x90 + values.length := by
      rw [UInt8.toNat_ofNat']
      omega
    rw [List.append_assoc, List.singleton_append]
    exact Text.breaks_continuation (by omega) (by omega) _
  · split
    · -- The marker of a longer array could begin a character of two bytes, but its count could not
      -- end one.
      have high : (UInt8.ofNat (values.length / 256 % 256)).toNat < 0x80 := by
        rw [UInt8.toNat_ofNat']
        omega
      exact Text.breaks_unfinished (by decide) high _
    · rename_i great
      exact absurd (lt_trans bound (by decide)) great

theorem write_ne_nil (values : List CqlValue) : write values ≠ [] := by
  unfold write arrayHeader
  split_ifs <;> simp

end MessagePack

/-- Few values, and none with a length for which MessagePack has no form. -/
def Marked (statement : String × List CqlValue) : Prop :=
  statement.2.length < MessagePack.greatestMarked ∧ CqlValue.AllExpressible statement.2

theorem Marked.writable {statement : String × List CqlValue} (marked : Marked statement) :
    MessagePack.Writable statement.2 :=
  ⟨lt_trans marked.1 (by decide), marked.2⟩

theorem contentBytes_cons (statement : String × List CqlValue)
    (rest : List (String × List CqlValue)) :
    contentBytes (statement :: rest) =
      Text.utf8Bytes statement.1 ++ (MessagePack.write statement.2 ++ contentBytes rest) := by
  simp [contentBytes]

theorem contentBytes_cons_ne_nil (statement : String × List CqlValue)
    (rest : List (String × List CqlValue)) : contentBytes (statement :: rest) ≠ [] := by
  simp [contentBytes_cons, MessagePack.write_ne_nil]

theorem contentBytes_inj {first second : List (String × List CqlValue)}
    (marked : ∀ statement ∈ first, Marked statement)
    (otherMarked : ∀ statement ∈ second, Marked statement)
    (same : contentBytes first = contentBytes second) : first = second := by
  induction first generalizing second with
  | nil =>
      cases second with
      | nil => rfl
      | cons statement rest => exact absurd same.symm (contentBytes_cons_ne_nil statement rest)
  | cons statement rest ih =>
      cases second with
      | nil => exact absurd same (contentBytes_cons_ne_nil statement rest)
      | cons other others =>
          obtain ⟨here, later⟩ := List.forall_mem_cons.mp marked
          obtain ⟨otherHere, otherLater⟩ := List.forall_mem_cons.mp otherMarked
          rw [contentBytes_cons, contentBytes_cons] at same
          -- First the queries end together, then the values, and what remains is shorter.
          obtain ⟨queries, bound⟩ := Text.utf8Bytes_append_inj
            (MessagePack.breaks_write here.1 _) (MessagePack.breaks_write otherHere.1 _) same
          obtain ⟨values, remaining⟩ :=
            MessagePack.write_append_inj here.writable otherHere.writable bound
          rw [Prod.ext queries values, ih later otherLater remaining]

def contentsOf (statements : List BoundStatement) : List (String × List CqlValue) :=
  statements.map fun statement => (statement.query, statement.values)

def Blake3.Collision (first second : List UInt8) : Prop :=
  first ≠ second ∧ hash first = hash second

theorem contentsOf_marked {statements : List BoundStatement}
    (writable : ∀ statement ∈ statements, MessagePack.Writable statement.values)
    (few : ∀ statement ∈ statements, statement.values.length < MessagePack.greatestMarked) :
    ∀ content ∈ contentsOf statements, Marked content := by
  intro content member
  obtain ⟨statement, listed, rfl⟩ := List.mem_map.mp member
  exact ⟨few statement listed, (writable statement listed).2⟩

theorem StoredEnvelope.writable_statementsIn {stored : StoredEnvelope} {tables : Tables}
    {statements : List BoundStatement} (found : stored.statementsIn tables = .ok statements) :
    ∀ statement ∈ statements, MessagePack.Writable statement.values := by
  intro statement member
  obtain ⟨rows, _, decoded⟩ := bind_eq_ok.mp found
  obtain ⟨row, _, read⟩ := exists_of_mem_mapM decoded member
  unfold readStatement at read
  split at read
  · rename_i values done
    cases read
    exact MessagePack.writable_of_read? done
  · cases read

/-- One stream of bytes comes from one list of statements. So whatever is changed of a journaled
envelope, unless two streams with one hash have been found, the journal can no longer be read. -/
theorem contents_unambiguous :
    (∀ first second : List (String × List CqlValue),
      (∀ statement ∈ first, Marked statement) → (∀ statement ∈ second, Marked statement) →
      contentBytes first = contentBytes second → first = second) ∧
    ∀ (before after : Tables) (faults : Faults) (submission : Submission) (file : JournalFile)
      (row : StoredEnvelope),
      before.append faults submission = .ok after →
      (∀ statement ∈ submission.statements,
        statement.values.length < MessagePack.greatestMarked) →
      row ∈ file.tables.envelopes → row.checksum = checksumOf submission.statements →
      (∀ statements, row.statementsIn file.tables = .ok statements →
        (∀ statement ∈ statements, statement.values.length < MessagePack.greatestMarked) ∧
        ¬ Blake3.Collision (contentBytes (contentsOf statements))
          (contentBytes (contentsOf submission.statements))) →
      (row.statementsIn file.tables).map contentsOf ≠ .ok (contentsOf submission.statements) →
      ∃ problem, file.read = .error problem := by
  refine ⟨fun first second => contentBytes_inj, ?_⟩
  intro before after faults submission file row appended few listed kept sound changed
  have fits := (Tables.append_eq_ok.mp appended).1.rows.fits
  cases read : file.read with
  | error problem => exact ⟨problem, rfl⟩
  | ok entries =>
      obtain ⟨entry, found⟩ := mapM_succeeds.mp ⟨entries, read⟩ row listed
      obtain ⟨statements, stored, checked, _⟩ := StoredEnvelope.read_eq_ok.mp found
      obtain ⟨fewFound, apart⟩ := sound statements stored
      have hashes : Blake3.hash (contentBytes (contentsOf statements)) =
          Blake3.hash (contentBytes (contentsOf submission.statements)) := checked.trans kept
      have streams : contentBytes (contentsOf statements) =
          contentBytes (contentsOf submission.statements) := by
        by_contra differ
        exact apart ⟨differ, hashes⟩
      have same := contentBytes_inj
        (contentsOf_marked (StoredEnvelope.writable_statementsIn stored) fewFound)
        (contentsOf_marked (fun statement member => (fits statement member).writable) few) streams
      rw [stored] at changed
      exact absurd (congrArg Except.ok same) changed

def signup : Submission :=
  .single (.plain "UPDATE users SET name = ? WHERE id = ?" [.text "user-1", .int 1])

def forgery : List BoundStatement :=
  [.plain "DELETE FROM users" [.text "user-1", .int 1]]

/-- A journal of one statement, the query of which has been replaced in the file. -/
def forged : JournalFile :=
  { JournalFile.empty with tables := Tables.empty.grown signup }.editStatement 0 0
    fun row => { row with query := "DELETE FROM users" }

theorem statementsIn_forged :
    (StoredEnvelope.ofSubmission 1 signup).statementsIn forged.tables = .ok forgery := by
  have tables : forged.tables =
      ⟨[.ofSubmission 1 signup], some (StoredStatement.rowsFrom 1 0 forgery)⟩ := rfl
  have selected : forged.tables.select 1 = .ok (StoredStatement.rowsFrom 1 0 forgery) := by
    rw [tables]
    simp [Tables.select, StoredStatement.rowsFrom, forgery, StoredStatement.ofStatement]
  have decoded := StoredStatement.readStatement_rowsFrom 1 0
    (show ∀ statement ∈ forgery, statement.Fits by unfold BoundStatement.Fits; decide)
    (by unfold BoundStatement.Shallow; decide)
  exact bind_eq_ok.mpr ⟨_, selected, decoded⟩

theorem contents_unambiguous_forged :
    contentsOf forgery = [("DELETE FROM users", [.text "user-1", .int 1])] ∧
      ∃ problem, forged.read = .error problem := by
  have marked : ∀ content ∈ contentsOf forgery, Marked content := by
    apply contentsOf_marked
    · intro statement member
      rw [List.mem_singleton.mp member]
      exact MessagePack.writable_of_short (by decide)
    · decide
  constructor
  · exact contents_unambiguous.1 _ _ marked marked rfl
  · apply contents_unambiguous.2 .empty (Tables.empty.grown signup) (fun _ => none) signup forged
      (.ofSubmission 1 signup) rfl (by decide) List.mem_cons_self rfl
    · intro statements found
      rw [statementsIn_forged] at found
      cases found
      refine ⟨by decide, fun collision => ?_⟩
      exact absurd collision.2 (by decide +kernel)
    · rw [statementsIn_forged]
      intro same
      have queries := congrArg (Except.map fun contents => contents.map Prod.fst) same
      simp [Except.map, contentsOf, forgery, signup, Submission.statements,
        BoundStatement.plain] at queries

end CqlMapper

import CqlMapper.Proofs.Conditional.Verdict
import CqlMapper.Proofs.Journal.Appending
import CqlMapper.Store.Backend

/-!
A run of submissions on a journaled store. The store answers as it would without the journal, and
every executed submission is in the journal as a whole or is counted as missed.
-/

namespace CqlMapper

def ScriptedStore.submitAll (store : ScriptedStore) :
    List Submission → List Answer × ScriptedStore
  | [] => ([], store)
  | submission :: rest =>
    let (answer, next) := store.submit submission
    let (answers, last) := next.submitAll rest
    (answer :: answers, last)

def Backend.submitAll (backend : Backend) : List Submission → List Answer × Backend
  | [] => ([], backend)
  | submission :: rest =>
    let (answer, next) := backend.submit submission
    let (answers, last) := next.submitAll rest
    (answer :: answers, last)

def Answer.isOk (answer : Answer) : Bool :=
  match answer with
  | .ok _ => true
  | .error _ => false

def executedOf : List Submission → List Answer → List Submission
  | submission :: rest, answer :: answers =>
    if answer.isOk then submission :: executedOf rest answers else executedOf rest answers
  | _, _ => []

theorem ScriptedStore.length_submitAll (store : ScriptedStore) (submissions : List Submission) :
    (store.submitAll submissions).1.length = submissions.length := by
  induction submissions generalizing store with
  | nil => rfl
  | cons submission rest ih => simp [submitAll, ih]

namespace Journal

def coming (journal : Journal) : Faults :=
  journal.file.faults.headD fun _ => none

def stepped (journal : Journal) (tables : Tables) (missed : Nat) : Journal :=
  ⟨{ journal.file with tables := tables, faults := journal.file.faults.drop 1 }, missed⟩

variable {journal : Journal}

theorem record_taken {submission : Submission}
    (takes : journal.file.tables.Takes journal.coming submission) :
    journal.record submission =
      journal.stepped (journal.file.tables.grown submission) journal.missed := by
  have appended := Tables.append_eq_ok.mpr ⟨takes, rfl⟩
  unfold coming at appended
  simp only [record, JournalFile.append, appended, stepped]

theorem record_missed {submission : Submission}
    (refuses : ¬ journal.file.tables.Takes journal.coming submission) :
    journal.record submission = journal.stepped journal.file.tables (journal.missed + 1) := by
  cases appended : journal.file.tables.append journal.coming submission with
  | ok after => exact absurd (Tables.append_eq_ok.mp appended).1 refuses
  | error problem =>
      unfold coming at appended
      simp only [record, JournalFile.append, appended, stepped]

end Journal

namespace Backend

structure Accounts (journal final : Journal) (executed kept : List Submission) : Prop where
  ordered : kept.Sublist executed
  fits : ∀ submission ∈ kept, ∀ statement ∈ submission.statements, statement.Fits
  tables : final.file.tables = kept.foldl Tables.grown journal.file.tables
  missed : journal.missed + executed.length = final.missed + kept.length

theorem Accounts.refl (journal : Journal) : Accounts journal journal [] [] :=
  ⟨.refl [], by simp, rfl, rfl⟩

theorem Accounts.record {journal final : Journal} {submission : Submission}
    {executed kept : List Submission}
    (later : Accounts (journal.record submission) final executed kept) :
    ∃ kept, Accounts journal final (submission :: executed) kept := by
  -- Taken, it is one more of those kept; otherwise `missed` makes up for it.
  by_cases takes : journal.file.tables.Takes journal.coming submission
  · rw [Journal.record_taken takes] at later
    refine ⟨submission :: kept, later.ordered.cons_cons submission, ?_, later.tables, ?_⟩
    · exact List.forall_mem_cons.mpr ⟨takes.rows.fits, later.fits⟩
    · have missed : journal.missed + executed.length = final.missed + kept.length := later.missed
      simp only [List.length_cons]
      omega
  · rw [Journal.record_missed takes] at later
    refine ⟨kept, later.ordered.cons submission, later.fits, later.tables, ?_⟩
    have missed : journal.missed + 1 + executed.length = final.missed + kept.length := later.missed
    simp only [List.length_cons]
    omega

theorem submit_ok {store : ScriptedStore} {submission : Submission} {result : ResultSet}
    (journal : Option Journal) (answered : store.nextAnswer = .ok result) :
    submit ⟨store, journal⟩ submission =
      (.ok result, ⟨(store.submit submission).2, journal.map (·.record submission)⟩) := by
  simp [submit, ScriptedStore.submit, answered]

theorem submit_error {store : ScriptedStore} {submission : Submission} {problem : StoreError}
    (journal : Option Journal) (answered : store.nextAnswer = .error problem) :
    submit ⟨store, journal⟩ submission =
      (.error problem, ⟨(store.submit submission).2, journal⟩) := by
  simp [submit, ScriptedStore.submit, answered]

theorem submitAll_accounts (store : ScriptedStore) (journal : Journal)
    (submissions : List Submission) :
    ∃ final kept, submitAll ⟨store, some journal⟩ submissions =
        ((store.submitAll submissions).1, ⟨(store.submitAll submissions).2, some final⟩) ∧
      Accounts journal final (executedOf submissions (store.submitAll submissions).1) kept := by
  induction submissions generalizing store journal with
  | nil => exact ⟨journal, [], rfl, .refl journal⟩
  | cons submission rest ih =>
      have answers : (store.submit submission).1 = store.nextAnswer := rfl
      cases answered : store.nextAnswer with
      | ok result =>
          obtain ⟨final, kept, same, accounts⟩ :=
            ih (store.submit submission).2 (journal.record submission)
          obtain ⟨kept, accounts⟩ := accounts.record
          refine ⟨final, kept, ?_, ?_⟩
          · simp [submitAll, ScriptedStore.submitAll, submit_ok _ answered, same, answers, answered]
          · simpa [ScriptedStore.submitAll, executedOf, answers, answered, Answer.isOk]
              using accounts
      | error problem =>
          obtain ⟨final, kept, same, accounts⟩ := ih (store.submit submission).2 journal
          refine ⟨final, kept, ?_, ?_⟩
          · simp [submitAll, ScriptedStore.submitAll, submit_error _ answered, same, answers,
              answered]
          · simpa [ScriptedStore.submitAll, executedOf, answers, answered, Answer.isOk]
              using accounts

end Backend

end CqlMapper

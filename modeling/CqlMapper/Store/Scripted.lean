import CqlMapper.Store.Error
import CqlMapper.Store.Result

/-! A store that keeps every submission and answers from a script, then with empty results. -/

namespace CqlMapper

structure ScriptedStore where
  executed : List Submission
  answers : List (Except StoreError ResultSet)

namespace ScriptedStore

def empty : ScriptedStore := ⟨[], []⟩

def push (store : ScriptedStore) (answer : Except StoreError ResultSet) : ScriptedStore :=
  { store with answers := store.answers ++ [answer] }

def nextAnswer (store : ScriptedStore) : Except StoreError ResultSet :=
  match store.answers with
  | answer :: _ => answer
  | [] => .ok ResultSet.empty

/-- The submission is kept whatever the answer. -/
def submit (store : ScriptedStore) (submission : Submission) :
    Except StoreError ResultSet × ScriptedStore :=
  (store.nextAnswer, ⟨store.executed ++ [submission], store.answers.drop 1⟩)

def statements (store : ScriptedStore) : List BoundStatement :=
  store.executed.flatMap Submission.statements

def batches (store : ScriptedStore) : List Envelope :=
  store.executed.filterMap fun
    | .batch envelope => some envelope
    | .single _ => none

end ScriptedStore

end CqlMapper

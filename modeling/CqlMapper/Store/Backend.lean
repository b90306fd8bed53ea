import CqlMapper.Journal.Basic
import CqlMapper.Store.Scripted

/-! A store with an optional journal of what it has executed. -/

namespace CqlMapper

structure Backend where
  store : ScriptedStore
  journal : Option Journal

namespace Backend

def empty : Backend := ⟨ScriptedStore.empty, none⟩

/-- The answer is that of the store, whatever becomes of the journal. -/
def submit (backend : Backend) (submission : Submission) :
    Except StoreError ResultSet × Backend :=
  let (answer, store) := backend.store.submit submission
  match answer with
  | .ok result => (.ok result, ⟨store, backend.journal.map (·.record submission)⟩)
  | .error error => (.error error, ⟨store, backend.journal⟩)

end Backend

end CqlMapper

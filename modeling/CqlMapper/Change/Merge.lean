import CqlMapper.Change.Basic

/-!
Merging of observed changes into a short sequence with the same effect. For each property the last
assignment replaces all else; without one, a clear drops what came before it, list operations stay
as they are, and set and map operations come down to one addition and one removal each.
-/

namespace CqlMapper

/-- What the changes since the last clear come down to. -/
structure MergedChanges where
  listChanges : List Change
  added : List FieldValue
  removed : List FieldValue
  put : List (FieldValue × FieldValue)
  dropped : List FieldValue

namespace MergedChanges

def empty : MergedChanges := ⟨[], [], [], [], []⟩

def add (merged : MergedChanges) (value : FieldValue) : MergedChanges :=
  { merged with
    removed := FieldValue.without merged.removed value
    added := FieldValue.addNew merged.added value }

def remove (merged : MergedChanges) (value : FieldValue) : MergedChanges :=
  { merged with
    added := FieldValue.without merged.added value
    removed := FieldValue.addNew merged.removed value }

def putEntry (merged : MergedChanges) (entry : FieldValue × FieldValue) : MergedChanges :=
  { merged with
    dropped := FieldValue.without merged.dropped entry.1
    put := FieldValue.putEntry entry.1 entry.2 merged.put }

def dropKey (merged : MergedChanges) (key : FieldValue) : MergedChanges :=
  { merged with
    put := FieldValue.withoutKey merged.put key
    dropped := FieldValue.addNew merged.dropped key }

def step (merged : MergedChanges) : Change → MergedChanges
  | .addToSet values => values.foldl add merged
  | .removeFromSet values => values.foldl remove merged
  | .putToMap entries => entries.foldl putEntry merged
  | .removeFromMap keys => keys.foldl dropKey merged
  | change => { merged with listChanges := merged.listChanges ++ [change] }

/-- A change with a payload, left out when the payload is empty. -/
def unlessEmpty {α : Type} (change : List α → Change) (payload : List α) : List Change :=
  if payload.isEmpty then [] else [change payload]

def changes (merged : MergedChanges) : List Change :=
  merged.listChanges ++ unlessEmpty .addToSet merged.added ++
    unlessEmpty .removeFromSet merged.removed ++ unlessEmpty .putToMap merged.put ++
    unlessEmpty .removeFromMap merged.dropped

end MergedChanges

namespace Change

def lastAssign? (changes : List Change) : Option Change :=
  changes.reverse.find? isAssign

def sinceLastClear (changes : List Change) : List Change :=
  (changes.reverse.takeWhile fun change => !change.isClear).reverse

def mergeAll (changes : List Change) : List Change :=
  match lastAssign? changes with
  | some assignment => [assignment]
  | none =>
    (if changes.any isClear then [.clear] else []) ++
      ((sinceLastClear changes).foldl MergedChanges.step MergedChanges.empty).changes

end Change

namespace PropertyChange

/-- The names in the order of their first appearance. -/
def distinctNames : List String → List String
  | [] => []
  | name :: rest => name :: (distinctNames rest).filter fun other => other != name

def changesOf (property : String) (changes : List PropertyChange) : List Change :=
  (changes.filter fun change => change.property == property).map (·.change)

/-- Merges the changes of every property; properties keep the order of their first appearance. -/
def merge (changes : List PropertyChange) : List PropertyChange :=
  (distinctNames (changes.map (·.property))).flatMap fun property =>
    (Change.mergeAll (changesOf property changes)).map fun change => ⟨property, change⟩

end PropertyChange

end CqlMapper

import CqlMapper.FieldValue.Basic

/-! Pending changes of one property: a new value, or an operation on a collection. -/

namespace CqlMapper

inductive ChangeKind where
  | assignWhole | addToSet | removeFromSet | appendToList | prependToList | setAtIndex
  | removeAtIndex | putToMap | removeFromMap | removeCollectionOrMap
  deriving DecidableEq, Inhabited

namespace ChangeKind

def shown : ChangeKind → String
  | .assignWhole => "AssignWhole"
  | .addToSet => "AddToSet"
  | .removeFromSet => "RemoveFromSet"
  | .appendToList => "AppendToList"
  | .prependToList => "PrependToList"
  | .setAtIndex => "SetAtIndex"
  | .removeAtIndex => "RemoveAtIndex"
  | .putToMap => "PutToMap"
  | .removeFromMap => "RemoveFromMap"
  | .removeCollectionOrMap => "RemoveCollectionOrMap"

def isIndexed : ChangeKind → Bool
  | .setAtIndex | .removeAtIndex => true
  | _ => false

def isWhole : ChangeKind → Bool
  | .assignWhole | .removeCollectionOrMap => true
  | _ => false

end ChangeKind

inductive Change where
  /-- A new value, or the amount added to a counter. -/
  | assign (value : FieldValue)
  | addToSet (values : List FieldValue)
  | removeFromSet (values : List FieldValue)
  | append (values : List FieldValue)
  | prepend (values : List FieldValue)
  | setAt (index : Nat) (value : FieldValue)
  | removeAt (index : Nat)
  | putToMap (entries : List (FieldValue × FieldValue))
  | removeFromMap (keys : List FieldValue)
  | clear
  deriving Inhabited

namespace Change

def kind : Change → ChangeKind
  | .assign _ => .assignWhole
  | .addToSet _ => .addToSet
  | .removeFromSet _ => .removeFromSet
  | .append _ => .appendToList
  | .prepend _ => .prependToList
  | .setAt _ _ => .setAtIndex
  | .removeAt _ => .removeAtIndex
  | .putToMap _ => .putToMap
  | .removeFromMap _ => .removeFromMap
  | .clear => .removeCollectionOrMap

def isAssign : Change → Bool
  | .assign _ => true
  | _ => false

def isClear : Change → Bool
  | .clear => true
  | _ => false

end Change

structure PropertyChange where
  property : String
  change : Change
  deriving Inhabited

end CqlMapper

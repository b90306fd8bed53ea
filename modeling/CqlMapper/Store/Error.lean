import CqlMapper.MappingError
import CqlMapper.Store.Submission

/-! How the store or the journal may fail. -/

namespace CqlMapper

inductive StoreError where
  | database
  | unreadable (reason : String)
  | unknownBatchType (name : String)
  | checksumMismatch (envelope : Nat)
  | newerSchema (version supported : Int)
  /-- The stored bytes of bound values are no list of values. -/
  | undecodable
  | timeout (level : Level) (received required : Nat)
  | unavailable (level : Level) (alive required : Nat)
  | writeFailure (reason : String)
  | lockPoisoned
  | mapping (error : MappingError)
  deriving DecidableEq

def StoreError.message : StoreError → String
  | .database => "sqlite error"
  | .unreadable reason => "serialization error: " ++ reason
  | .unknownBatchType name => "serialization error: unknown batch type: " ++ name
  | .checksumMismatch envelope =>
    "serialization error: checksum mismatch for envelope " ++ Text.shownNat envelope
  | .newerSchema version supported =>
    "serialization error: journal schema version " ++ Text.shownInt version ++
      " is newer than supported version " ++ Text.shownInt supported
  | .undecodable => "serialization error: bound values cannot be decoded"
  | .timeout level received required =>
    "write timed out at " ++ level.name ++ ": " ++ Text.shownNat received ++ " of " ++
      Text.shownNat required ++ " replicas acknowledged"
  | .unavailable level alive required =>
    "not enough replicas for " ++ level.name ++ ": " ++ Text.shownNat alive ++ " alive, " ++
      Text.shownNat required ++ " required"
  | .writeFailure reason => "write failure: " ++ reason
  | .lockPoisoned => "store lock poisoned"
  | .mapping error => "core error: " ++ error.message

def BatchType.parse (name : String) : Except StoreError BatchType :=
  match BatchType.ofName? name with
  | some type => .ok type
  | none => .error (.unknownBatchType name)

end CqlMapper

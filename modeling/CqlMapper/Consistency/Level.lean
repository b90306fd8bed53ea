/-! Consistency levels, by the names the store gives them and by the names shown in messages. -/

namespace CqlMapper

inductive Level where
  | any | one | two | three | quorum | all | localOne | localQuorum | eachQuorum | serial
  | localSerial
  deriving DecidableEq, Inhabited

namespace Level

def name : Level → String
  | .any => "ANY"
  | .one => "ONE"
  | .two => "TWO"
  | .three => "THREE"
  | .quorum => "QUORUM"
  | .all => "ALL"
  | .localOne => "LOCAL_ONE"
  | .localQuorum => "LOCAL_QUORUM"
  | .eachQuorum => "EACH_QUORUM"
  | .serial => "SERIAL"
  | .localSerial => "LOCAL_SERIAL"

def shown : Level → String
  | .any => "Any"
  | .one => "One"
  | .two => "Two"
  | .three => "Three"
  | .quorum => "Quorum"
  | .all => "All"
  | .localOne => "LocalOne"
  | .localQuorum => "LocalQuorum"
  | .eachQuorum => "EachQuorum"
  | .serial => "Serial"
  | .localSerial => "LocalSerial"

def everyLevel : List Level :=
  [.any, .one, .two, .three, .quorum, .all, .localOne, .localQuorum, .eachQuorum, .serial,
    .localSerial]

def ofName? (name : String) : Option Level :=
  everyLevel.find? (·.name == name)

/-- Serial levels only apply to the agreement phase of conditional writes. -/
def isSerial : Level → Bool
  | .serial | .localSerial => true
  | _ => false

end Level

end CqlMapper

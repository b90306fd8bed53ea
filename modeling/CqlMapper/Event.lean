/-! Points in the life of an entity at which interceptors run. -/

namespace CqlMapper

inductive Event where
  | prePersist | postPersist | preUpdate | postUpdate | preRemove | postRemove
  deriving DecidableEq, Inhabited

namespace Event

/-- Post events only happen once the write has been committed. -/
def isPost : Event → Bool
  | .postPersist | .postUpdate | .postRemove => true
  | _ => false

def shown : Event → String
  | .prePersist => "PrePersist"
  | .postPersist => "PostPersist"
  | .preUpdate => "PreUpdate"
  | .postUpdate => "PostUpdate"
  | .preRemove => "PreRemove"
  | .postRemove => "PostRemove"

def everyEvent : List Event :=
  [.prePersist, .postPersist, .preUpdate, .postUpdate, .preRemove, .postRemove]

end Event

end CqlMapper

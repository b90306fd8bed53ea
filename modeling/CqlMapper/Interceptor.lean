import CqlMapper.Event
import CqlMapper.FieldValue.Basic

/-! Interceptors: they see the values of an entity at chosen events and may assign new ones. -/

namespace CqlMapper

/-- The values of an entity by property name. -/
abbrev Fields := String → Option FieldValue

namespace Fields

def empty : Fields := fun _ => none

def set (fields : Fields) (property : String) (value : FieldValue) : Fields :=
  fun name => if name = property then some value else fields name

def setAll (fields : Fields) (assignments : List (String × FieldValue)) : Fields :=
  assignments.foldl (fun fields assignment => fields.set assignment.1 assignment.2) fields

end Fields

structure Interceptor where
  label : String
  events : List Event
  react : Fields → List (String × FieldValue)

inductive Reaction where
  | assign (property : String) (value : FieldValue)
  /-- Counts up an integer, starting from one. -/
  | bump (property : String)
  | copy (source target : String)

namespace Reaction

def assignments (fields : Fields) : Reaction → List (String × FieldValue)
  | .assign property value => [(property, value)]
  | .bump property =>
    match fields property with
    | some (.int count) => [(property, .int (count + 1))]
    | _ => [(property, .int 1)]
  | .copy source target =>
    match fields source with
    | some value => [(target, value)]
    | none => []

/-- Each step sees the assignments of those before it. -/
def run : List Reaction → Fields → List (String × FieldValue)
  | [], _ => []
  | reaction :: rest, fields =>
    let made := reaction.assignments fields
    made ++ run rest (fields.setAll made)

end Reaction

end CqlMapper

import CqlMapper.Consistency.Level
import CqlMapper.CqlValue.Basic

/-! What the store answers: rows, and information on the execution. -/

namespace CqlMapper

structure ColumnDefinition where
  name : String
  type : CqlType
  deriving DecidableEq

/-- Columns and values are given side by side; either list may be the longer one. -/
structure Row where
  columns : List ColumnDefinition
  values : List CqlValue

def appliedColumn : String := "[applied]"

namespace Row

def empty : Row := ⟨[], []⟩

def withColumn (row : Row) (name : String) (type : CqlType) (value : CqlValue) : Row :=
  ⟨row.columns ++ [⟨name, type⟩], row.values ++ [value]⟩

def applied (isApplied : Bool) : Row :=
  empty.withColumn appliedColumn .boolean (.boolean isApplied)

/-- The value under the first column of that name. -/
def get? (row : Row) (name : String) : Option CqlValue :=
  (row.columns.findIdx? (·.name == name)).bind fun index => row.values[index]?

def getBool? (row : Row) (name : String) : Option Bool :=
  (row.get? name).bind CqlValue.asBoolean?

def cells (row : Row) : List (ColumnDefinition × CqlValue) :=
  row.columns.zip row.values

end Row

structure TraceEvent where
  description : String
  source : String
  elapsed : Int64
  thread : String

structure QueryTrace where
  id : Uuid
  events : List TraceEvent

structure ExecutionInfo where
  host : String
  achieved : Option Level
  trace : Option QueryTrace

structure ResultSet where
  rows : List Row
  info : List ExecutionInfo

namespace ResultSet

def empty : ResultSet := ⟨[], []⟩

def single (row : Row) : ResultSet := ⟨[row], []⟩

end ResultSet

end CqlMapper

import CqlMapper.Store.Result
import CqlMapper.Text.Basic
import CqlMapper.WriteError

/-!
Reading the outcome of a conditional write from the answer of the store. The write took place unless
the first row says otherwise; then the other columns of the row are what stood in its way.
-/

namespace CqlMapper

def isConditionalQuery (query : String) : Bool :=
  Text.contains query " IF "

def conditionalKindOf (query : String) : ConditionalKind :=
  if Text.contains query " IF NOT EXISTS" then .insert else .update

namespace Row

def currentCells (row : Row) : List (ColumnDefinition × CqlValue) :=
  row.cells.filter fun cell => cell.1.name != appliedColumn

def checkCell (cell : ColumnDefinition × CqlValue) : Except MappingError (String × CqlValue) :=
  if cell.2.conformsTo cell.1.type then .ok (cell.1.name, cell.2)
  else .error (.transcoding "row" cell.2.shown (.misdeclaredColumn cell.1.name cell.1.type))

/-- The current values by column name; of columns with one name the last counts. -/
def currentValues (row : Row) : Except MappingError (Keyed CqlValue) :=
  (row.currentCells.mapM checkCell).map Keyed.ofList

end Row

def interpret (query : String) (result : ResultSet) : Except WriteError Outcome :=
  if !isConditionalQuery query then .ok .applied
  else match result.rows with
    | [] => .ok .applied
    | row :: _ =>
      if (row.getBool? appliedColumn).getD true then .ok .applied
      else match row.currentValues with
        | .ok current => .ok (.rejected ⟨conditionalKindOf query, current⟩)
        | .error error => .error (.mapping error)

end CqlMapper

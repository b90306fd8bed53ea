import CqlMapper.Conditional.Basic
import CqlMapper.Store.Submission

/-!
Write statements as clauses that carry their bound values. A statement is laid out as pieces, each
a text or a bound value, and both the query and the list of values are read off the pieces, so that
every placeholder stands where its value was put. Only a key of the wrong length leaves placeholders
without a value or values without a placeholder.
-/

namespace CqlMapper

inductive Assignment where
  | replace (value : CqlValue)
  | add (value : CqlValue)
  | subtract (value : CqlValue)
  | addBefore (value : CqlValue)
  | replaceAt (index : Nat) (value : CqlValue)
  | eraseAt (index : Nat)
  | erase

structure UsingClause where
  ttl : Option Int32
  timestamp : Option Int64
  deriving DecidableEq

def UsingClause.absent : UsingClause := ⟨none, none⟩

structure BoundCondition where
  column : String
  comparison : Comparison
  value : CqlValue

/-- The columns that WHERE restricts, and the values for them in the same order. Columns without a
value keep an open placeholder, and values without a column are sent along all the same. -/
structure KeyClause where
  columns : List String
  values : List CqlValue

inductive WriteStatement where
  | insert (table : String) (columns : List (String × CqlValue)) (ifNotExists : Bool)
      (options : UsingClause)
  | update (table : String) (options : UsingClause) (assignments : List (String × Assignment))
      (key : KeyClause) (conditions : List BoundCondition)
  | delete (table : String) (timestamp : Option Int64) (key : KeyClause)

inductive Piece where
  | text (content : String)
  | bound (value : CqlValue)
  /-- A placeholder without a value. -/
  | unbound
  /-- A value without a placeholder. -/
  | surplus (value : CqlValue)

namespace Piece

def query : Piece → String
  | .text content => content
  | .bound _ | .unbound => "?"
  | .surplus _ => ""

def value? : Piece → Option CqlValue
  | .text _ | .unbound => none
  | .bound value | .surplus value => some value

/-- Pieces of several parts with a text between each two. -/
def joined (separator : String) : List (List Piece) → List Piece
  | [] => []
  | [part] => part
  | part :: rest => part ++ .text separator :: joined separator rest

end Piece

def Assignment.pieces (column : String) : Assignment → List Piece
  | .replace value => [.text (column ++ " = "), .bound value]
  | .add value => [.text (column ++ " = " ++ column ++ " + "), .bound value]
  | .subtract value => [.text (column ++ " = " ++ column ++ " - "), .bound value]
  | .addBefore value => [.text (column ++ " = "), .bound value, .text (" + " ++ column)]
  | .replaceAt index value =>
    [.text (column ++ "[" ++ Text.shownNat index ++ "] = "), .bound value]
  | .eraseAt index => [.text (column ++ "[" ++ Text.shownNat index ++ "] = null")]
  | .erase => [.text (column ++ " = null")]

def UsingClause.pieces (options : UsingClause) : List Piece :=
  let ttl := match options.ttl with
    | some seconds => [[.text "TTL ", .bound (.int seconds)]]
    | none => []
  let timestamp := match options.timestamp with
    | some micros => [[.text "TIMESTAMP ", .bound (.bigInt micros)]]
    | none => []
  match ttl ++ timestamp with
  | [] => []
  | parts => .text " USING " :: Piece.joined " AND " parts

def restrictions : List String → List CqlValue → List (List Piece)
  | [], _ => []
  | column :: columns, [] => [.text (column ++ " = "), .unbound] :: restrictions columns []
  | column :: columns, value :: values =>
    [.text (column ++ " = "), .bound value] :: restrictions columns values

def KeyClause.pieces (key : KeyClause) : List Piece :=
  Piece.joined " AND " (restrictions key.columns key.values) ++
    (key.values.drop key.columns.length).map .surplus

def conditionPieces (conditions : List BoundCondition) : List Piece :=
  match conditions with
  | [] => []
  | conditions => .text " IF " :: Piece.joined " AND " (conditions.map fun condition =>
      [.text (condition.column ++ " " ++ condition.comparison.symbol ++ " "),
        .bound condition.value])

namespace WriteStatement

def pieces : WriteStatement → List Piece
  | .insert table columns ifNotExists options =>
    .text ("INSERT INTO " ++ table ++ " (" ++ ", ".intercalate (columns.map (·.1)) ++
        ") VALUES (") ::
      Piece.joined ", " (columns.map fun column => [.bound column.2]) ++
      .text (if ifNotExists then ") IF NOT EXISTS" else ")") :: options.pieces
  | .update table options assignments key conditions =>
    .text ("UPDATE " ++ table) :: options.pieces ++
      .text " SET " :: Piece.joined ", " (assignments.map fun entry => entry.2.pieces entry.1) ++
      .text " WHERE " :: key.pieces ++ conditionPieces conditions
  | .delete table timestamp key =>
    .text ("DELETE FROM " ++ table) :: UsingClause.pieces ⟨none, timestamp⟩ ++
      .text " WHERE " :: key.pieces

def query (statement : WriteStatement) : String :=
  String.join (statement.pieces.map Piece.query)

def values (statement : WriteStatement) : List CqlValue :=
  statement.pieces.filterMap Piece.value?

end WriteStatement

structure GeneratedStatement where
  write : WriteStatement
  /-- Whether it writes counter columns, and so has to travel in a counter batch. -/
  counter : Bool
  /-- The level declared on the counter property it updates. -/
  propertyLevel : Option Level

def GeneratedStatement.plain (write : WriteStatement) : GeneratedStatement :=
  ⟨write, false, none⟩

def placeholderCount (query : String) : Nat :=
  query.toList.count '?'

end CqlMapper

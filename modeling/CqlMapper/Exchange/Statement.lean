import CqlMapper.Exchange.Result
import CqlMapper.Journal.Basic
import CqlMapper.Statement.Basic

/-! Statements, submissions and journal entries in their JSON form. -/

namespace CqlMapper

def Level.toJson (level : Level) : Json :=
  .string level.name

def GeneratedStatement.toJson (statement : GeneratedStatement) : Json :=
  .object [
    ("query", .string statement.write.query),
    ("values", .ofList CqlValue.exactJson statement.write.values),
    ("counter", .bool statement.counter),
    ("property_consistency", .ofOption Level.toJson statement.propertyLevel),
    ("placeholders", .ofNat (placeholderCount statement.write.query))]

def BoundStatement.toJson (value : CqlValue → Json) (statement : BoundStatement) : Json :=
  .object [
    ("query", .string statement.query),
    ("values", .ofList value statement.values),
    ("consistency", .ofOption Level.toJson statement.level),
    ("serial", .ofOption Level.toJson statement.serialLevel),
    ("tracing", .bool statement.tracing)]

def BoundStatement.read? (json : Json) : Option BoundStatement := do
  let query ← json.required? "query" Json.string?
  let values ← json.listMember? "values" CqlValue.read?
  return .plain query values

def BatchType.read? (json : Json) : Option BatchType :=
  json.string?.bind BatchType.ofName?

namespace Submission

def toJson (value : CqlValue → Json) : Submission → Json
  | .single statement => statement.toJson value
  | .batch envelope => .object [
      ("batch", .string envelope.type.name),
      ("consistency", envelope.level.toJson),
      ("serial", .ofOption Level.toJson envelope.serialLevel),
      ("tracing", .bool envelope.tracing),
      ("statements", .ofList (BoundStatement.toJson value) envelope.statements)]

def readSingle? (json : Json) : Option Submission := do
  let plain ← BoundStatement.read? json
  let level ← json.optional? "consistency" Level.read?
  let serialLevel ← json.optional? "serial" Level.read?
  let tracing ← json.flag? "tracing"
  return .single ⟨plain.query, plain.values, level, serialLevel, tracing⟩

def readBatch? (json : Json) : Option Submission := do
  let type ← json.required? "type" BatchType.read?
  let statements ← json.listMember? "statements" BoundStatement.read?
  let level ← json.required? "consistency" Level.read?
  let serialLevel ← json.optional? "serial" Level.read?
  return .batch ⟨type, statements, level, serialLevel, false⟩

end Submission

def JournalEntry.toJson (value : CqlValue → Json) (checksum : Json) (entry : JournalEntry) : Json :=
  .object [
    ("batch_type", .ofOption (fun type => .string type.name) entry.batchType),
    ("consistency", .ofOption Level.toJson entry.level),
    ("serial", .ofOption Level.toJson entry.serialLevel),
    ("checksum", checksum),
    ("statements", .ofList (BoundStatement.toJson value) entry.statements)]

end CqlMapper

import CqlMapper.Proofs.CqlValue.Nesting

/-! Which values the columns of a type can hold, down to the elements of collections. -/

namespace CqlMapper.CqlValue

theorem allConformTo_iff {items : List CqlValue} {type : CqlType} :
    allConformTo items type = true ↔ ∀ item ∈ items, item.conformsTo type = true := by
  induction items with
  | nil => simp [allConformTo]
  | cons item items ih => simp [allConformTo, ih]

theorem entriesConformTo_iff {entries : List (CqlValue × CqlValue)} {key value : CqlType} :
    entriesConformTo entries key value = true ↔
      ∀ entry ∈ entries, entry.1.conformsTo key = true ∧ entry.2.conformsTo value = true := by
  induction entries with
  | nil => simp [entriesConformTo]
  | cons entry entries ih => simp [entriesConformTo, ih, and_assoc]

inductive Conforms : CqlValue → CqlType → Prop
  | null (type : CqlType) : Conforms .null type
  | boolean (value : Bool) : Conforms (.boolean value) .boolean
  | tinyInt (value : Int8) : Conforms (.tinyInt value) .tinyInt
  | int (value : Int32) : Conforms (.int value) .int
  | bigInt (value : Int64) : Conforms (.bigInt value) .bigInt
  | counter (value : Int64) : Conforms (.counter value) .counter
  | counted (value : Int64) : Conforms (.bigInt value) .counter
  | double (value : Double) : Conforms (.double value) .double
  | text (value : String) : Conforms (.text value) .text
  | blob (value : List UInt8) : Conforms (.blob value) .blob
  | uuid (value : Uuid) : Conforms (.uuid value) .uuid
  | timeUuid (value : Uuid) : Conforms (.timeUuid value) .timeUuid
  | timed (value : Uuid) : Conforms (.uuid value) .timeUuid
  | timestamp (value : Int64) : Conforms (.timestamp value) .timestamp
  | list {items : List CqlValue} {element : CqlType}
      (each : ∀ item ∈ items, Conforms item element) : Conforms (.list items) (.list element)
  | set {items : List CqlValue} {element : CqlType}
      (each : ∀ item ∈ items, Conforms item element) : Conforms (.set items) (.set element)
  | map {entries : List (CqlValue × CqlValue)} {key value : CqlType}
      (keys : ∀ entry ∈ entries, Conforms entry.1 key)
      (values : ∀ entry ∈ entries, Conforms entry.2 value) :
      Conforms (.map entries) (.map key value)

theorem conforms_of_single {value : CqlValue} {type : CqlType} (single : value.isSingle = true)
    (conforms : value.conformsTo type = true) : value.Conforms type := by
  cases value <;> simp only [isSingle, Bool.false_eq_true] at single <;> cases type <;>
    simp only [conformsTo, Bool.false_eq_true] at conforms <;> constructor

theorem Conforms.conformsTo {value : CqlValue} {type : CqlType} (conforms : value.Conforms type) :
    value.conformsTo type = true := by
  induction conforms with
  | list _ each | set _ each => exact allConformTo_iff.mpr each
  | map _ _ keys values =>
      exact entriesConformTo_iff.mpr fun entry member => ⟨keys entry member, values entry member⟩
  | _ => simp [CqlValue.conformsTo]

theorem conformsTo_iff {value : CqlValue} {type : CqlType} :
    value.conformsTo type = true ↔ value.Conforms type := by
  refine ⟨?_, Conforms.conformsTo⟩
  induction value using nested_induction generalizing type with
  | single value single => exact conforms_of_single single
  | list items ih =>
      intro conforms
      cases type with
      | list element =>
          rw [CqlValue.conformsTo, allConformTo_iff] at conforms
          exact .list fun item member => ih item member (conforms item member)
      | _ => simp [CqlValue.conformsTo] at conforms
  | set items ih =>
      intro conforms
      cases type with
      | set element =>
          rw [CqlValue.conformsTo, allConformTo_iff] at conforms
          exact .set fun item member => ih item member (conforms item member)
      | _ => simp [CqlValue.conformsTo] at conforms
  | map entries ih =>
      intro conforms
      cases type with
      | map key value =>
          rw [CqlValue.conformsTo, entriesConformTo_iff] at conforms
          exact .map (fun entry member => (ih entry member).1 (conforms entry member).1)
            fun entry member => (ih entry member).2 (conforms entry member).2
      | _ => simp [CqlValue.conformsTo] at conforms

end CqlMapper.CqlValue

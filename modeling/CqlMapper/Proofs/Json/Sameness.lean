import CqlMapper.Json.Basic

/-!
Sameness of JSON values is equality of canonical forms, in which there is only one zero. It is an
equivalence on the values that JSON can hold, whose doubles are all numbers.
-/

namespace CqlMapper

namespace Double

/-- The positive zero in place of either zero. -/
def canonical (d : Double) : Double :=
  if d.significand = 0 then ⟨0⟩ else d

theorem sameNumber_iff (a b : Double) (left : a.isNaN = false) (right : b.isNaN = false) :
    a.sameNumber b = true ↔ a.canonical = b.canonical := by
  have zero : significand ⟨0⟩ = 0 := by decide
  simp only [sameNumber, left, right, Bool.not_false, Bool.true_and, Bool.or_eq_true, beq_iff_eq,
    Bool.and_eq_true, canonical]
  constructor
  · rintro (same | ⟨first, second⟩)
    · have equal : a = b := by
        cases a
        cases b
        simpa using same
      rw [equal]
    · rw [if_pos first, if_pos second]
  · intro same
    by_cases first : a.significand = 0
    · by_cases second : b.significand = 0
      · exact Or.inr ⟨first, second⟩
      · rw [if_pos first, if_neg second] at same
        rw [← same] at second
        exact absurd zero second
    · by_cases second : b.significand = 0
      · rw [if_neg first, if_pos second] at same
        rw [same] at first
        exact absurd zero first
      · rw [if_neg first, if_neg second] at same
        exact Or.inl (congrArg Double.bits same)

end Double

namespace JsonNumber

def isProper : JsonNumber → Bool
  | .integer _ => true
  | .double value => !value.isNaN

def canonical : JsonNumber → JsonNumber
  | .integer value => .integer value
  | .double value => .double value.canonical

theorem same_iff (a b : JsonNumber) (left : a.isProper = true) (right : b.isProper = true) :
    a.same b = true ↔ a.canonical = b.canonical := by
  cases a with
  | integer a => cases b <;> simp [same, canonical]
  | double a =>
      cases b with
      | integer b => simp [same, canonical]
      | double b =>
          simp only [isProper, Bool.not_eq_true'] at left right
          simp only [same, canonical, double.injEq]
          exact Double.sameNumber_iff a b left right

theorem proper_of_same {a b : JsonNumber} (same : a.same b = true) :
    a.isProper = true ∧ b.isProper = true := by
  cases a with
  | integer a => cases b <;> first | exact ⟨rfl, rfl⟩ | cases same
  | double a =>
      cases b with
      | integer b => cases same
      | double b =>
          simp only [JsonNumber.same, Double.sameNumber, Bool.and_eq_true] at same
          exact same.1

end JsonNumber

namespace Json

mutual

def isProper : Json → Bool
  | .number value => value.isProper
  | .array items => itemsProper items
  | .object members => membersProper members
  | .null | .bool _ | .string _ => true
termination_by structural json => json

def itemsProper : List Json → Bool
  | [] => true
  | item :: rest => isProper item && itemsProper rest
termination_by structural items => items

def membersProper : List (String × Json) → Bool
  | [] => true
  | (_, item) :: rest => isProper item && membersProper rest
termination_by structural members => members

end

mutual

def canonical : Json → Json
  | .number value => .number value.canonical
  | .array items => .array (canonicalItems items)
  | .object members => .object (canonicalMembers members)
  | .null => .null
  | .bool value => .bool value
  | .string value => .string value
termination_by structural json => json

def canonicalItems : List Json → List Json
  | [] => []
  | item :: rest => canonical item :: canonicalItems rest
termination_by structural items => items

def canonicalMembers : List (String × Json) → List (String × Json)
  | [] => []
  | (key, item) :: rest => (key, canonical item) :: canonicalMembers rest
termination_by structural members => members

end

mutual

theorem same_iff (a b : Json) (left : a.isProper = true) (right : b.isProper = true) :
    a.same b = true ↔ a.canonical = b.canonical := by
  cases a with
  | number a =>
      cases b with
      | number b =>
          simp only [isProper] at left right
          simpa only [same, canonical, number.injEq] using JsonNumber.same_iff a b left right
      | _ => simp [same, canonical]
  | array as =>
      cases b with
      | array bs =>
          simp only [isProper] at left right
          simpa only [same, canonical, array.injEq] using sameItems_iff as bs left right
      | _ => simp [same, canonical]
  | object as =>
      cases b with
      | object bs =>
          simp only [isProper] at left right
          simpa only [same, canonical, object.injEq] using sameMembers_iff as bs left right
      | _ => simp [same, canonical]
  | _ => cases b <;> simp [same, canonical]
termination_by structural a

theorem sameItems_iff (as bs : List Json) (left : itemsProper as = true)
    (right : itemsProper bs = true) :
    sameItems as bs = true ↔ canonicalItems as = canonicalItems bs := by
  cases as with
  | nil => cases bs <;> simp [sameItems, canonicalItems]
  | cons a as =>
      cases bs with
      | nil => simp [sameItems, canonicalItems]
      | cons b bs =>
          simp only [itemsProper, Bool.and_eq_true] at left right
          simp only [sameItems, canonicalItems, Bool.and_eq_true, List.cons.injEq]
          rw [same_iff a b left.1 right.1, sameItems_iff as bs left.2 right.2]
termination_by structural as

theorem sameMembers_iff (as bs : List (String × Json)) (left : membersProper as = true)
    (right : membersProper bs = true) :
    sameMembers as bs = true ↔ canonicalMembers as = canonicalMembers bs := by
  cases as with
  | nil => cases bs <;> simp [sameMembers, canonicalMembers]
  | cons a as =>
      obtain ⟨leftKey, a⟩ := a
      cases bs with
      | nil => simp [sameMembers, canonicalMembers]
      | cons b bs =>
          obtain ⟨rightKey, b⟩ := b
          simp only [membersProper, Bool.and_eq_true] at left right
          simp only [sameMembers, canonicalMembers, Bool.and_eq_true, beq_iff_eq, List.cons.injEq,
            Prod.mk.injEq]
          rw [same_iff a b left.1 right.1, sameMembers_iff as bs left.2 right.2]
termination_by structural as

end

mutual

/-- No number that equals one is a not-a-number. -/
theorem proper_of_same (a b : Json) (same : a.same b = true) :
    a.isProper = true ∧ b.isProper = true := by
  cases a with
  | number a =>
      cases b with
      | number b => exact JsonNumber.proper_of_same same
      | _ => cases same
  | array as =>
      cases b with
      | array bs => exact itemsProper_of_same as bs same
      | _ => cases same
  | object as =>
      cases b with
      | object bs => exact membersProper_of_same as bs same
      | _ => cases same
  | _ => cases b <;> first | exact ⟨rfl, rfl⟩ | cases same
termination_by structural a

theorem itemsProper_of_same (as bs : List Json) (same : sameItems as bs = true) :
    itemsProper as = true ∧ itemsProper bs = true := by
  cases as with
  | nil =>
      cases bs with
      | nil => exact ⟨rfl, rfl⟩
      | cons _ _ => cases same
  | cons a as =>
      cases bs with
      | nil => cases same
      | cons b bs =>
          simp only [sameItems, Bool.and_eq_true] at same
          simp only [itemsProper, Bool.and_eq_true]
          obtain ⟨left, right⟩ := proper_of_same a b same.1
          obtain ⟨lefts, rights⟩ := itemsProper_of_same as bs same.2
          exact ⟨⟨left, lefts⟩, right, rights⟩
termination_by structural as

theorem membersProper_of_same (as bs : List (String × Json)) (same : sameMembers as bs = true) :
    membersProper as = true ∧ membersProper bs = true := by
  cases as with
  | nil =>
      cases bs with
      | nil => exact ⟨rfl, rfl⟩
      | cons _ _ => cases same
  | cons a as =>
      obtain ⟨_, a⟩ := a
      cases bs with
      | nil => cases same
      | cons b bs =>
          simp only [sameMembers, Bool.and_eq_true] at same
          simp only [membersProper, Bool.and_eq_true]
          obtain ⟨left, right⟩ := proper_of_same a b.2 same.1.2
          obtain ⟨lefts, rights⟩ := membersProper_of_same as bs same.2
          exact ⟨⟨left, lefts⟩, right, rights⟩
termination_by structural as

end

end Json

end CqlMapper

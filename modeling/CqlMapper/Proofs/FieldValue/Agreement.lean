import CqlMapper.Proofs.FieldValue.Contents

/-!
When two values hold the same: collections of one kind compared by their contents, and values
compared by equality. No value at all is as good as an empty collection.
-/

namespace CqlMapper

inductive CollectionKind where
  | list | set | map
  deriving DecidableEq

namespace FieldValue

def listItems? : FieldValue → Option (List FieldValue)
  | .null => some []
  | .list items => some items
  | _ => none

def setItems? : FieldValue → Option (List FieldValue)
  | .null => some []
  | .set items => some items
  | _ => none

def mapEntries? : FieldValue → Option (List (FieldValue × FieldValue))
  | .null => some []
  | .map entries => some entries
  | _ => none

def SameContents (kind : CollectionKind) (a b : FieldValue) : Prop :=
  match kind with
  | .list => ∃ items, a.listItems? = some items ∧ b.listItems? = some items
  | .set => ∃ items others, a.setItems? = some items ∧ b.setItems? = some others ∧
      ∀ element : FieldValue, element.WellFormed →
        contained items element = contained others element
  | .map => ∃ entries others, a.mapEntries? = some entries ∧ b.mapEntries? = some others ∧
      ∀ key : FieldValue, key.WellFormed → entryValue? entries key = entryValue? others key

def isEmptyCollection : FieldValue → Bool
  | .list items | .set items => items.isEmpty
  | .map entries => entries.isEmpty
  | _ => false

/-- Equality, except that no value agrees with an empty collection. -/
def agrees (a b : FieldValue) : Bool :=
  a == b || (a.isNull && b.isEmptyCollection) || (a.isEmptyCollection && b.isNull)

theorem agrees_of_beq {a b : FieldValue} (same : (a == b) = true) : a.agrees b = true := by
  simp [agrees, same]

theorem WellFormed.agrees {value : FieldValue} (formed : value.WellFormed) :
    value.agrees value = true :=
  agrees_of_beq formed.refl

theorem listItems?_eq_some {value : FieldValue} {items : List FieldValue}
    (view : value.listItems? = some items) : value = .null ∧ items = [] ∨ value = .list items := by
  cases value <;> simp_all [listItems?]

theorem setItems?_eq_some {value : FieldValue} {items : List FieldValue}
    (view : value.setItems? = some items) : value = .null ∧ items = [] ∨ value = .set items := by
  cases value <;> simp_all [setItems?]

theorem mapEntries?_eq_some {value : FieldValue} {entries : List (FieldValue × FieldValue)}
    (view : value.mapEntries? = some entries) :
    value = .null ∧ entries = [] ∨ value = .map entries := by
  cases value <;> simp_all [mapEntries?]

theorem length_le_of_contained {items others : List FieldValue} (formed : AllFormed items)
    (othersFormed : AllFormed others) (distinct : Distinct items)
    (included : ∀ item ∈ items, contained others item = true) : items.length ≤ others.length := by
  apply Matching.length_le (fun item other => (other == item) = true)
  · intro item member
    exact (contained_iff others item).mp (included item member)
  · apply List.Pairwise.imp_of_mem _ distinct
    intro item second member secondMember different other belongs left right
    have otherFormed := othersFormed other belongs
    have turned := (otherFormed.symm (formed item member)).mp left
    exact different (((formed item member).symm (formed second secondMember)).mp
      ((formed item member).trans otherFormed (formed second secondMember) turned right))

theorem set_beq_of_contained {items others : List FieldValue} (formed : (set items).WellFormed)
    (othersFormed : (set others).WellFormed)
    (same : ∀ element : FieldValue, element.WellFormed →
      contained items element = contained others element) :
    (FieldValue.set items == .set others) = true := by
  obtain ⟨all, distinct⟩ := formed.items_of_set
  obtain ⟨othersAll, othersDistinct⟩ := othersFormed.items_of_set
  have forward : ∀ item ∈ items, contained others item = true := by
    intro item member
    rw [← same item (all item member)]
    exact contained_of_mem (all item member) member
  have backward : ∀ other ∈ others, contained items other = true := by
    intro other member
    rw [same other (othersAll other member)]
    exact contained_of_mem (othersAll other member) member
  rw [set_beq_iff]
  refine ⟨Nat.le_antisymm (length_le_of_contained all othersAll distinct forward)
    (length_le_of_contained othersAll all othersDistinct backward), ?_⟩
  intro item member
  exact (contained_iff others item).mp (forward item member)

theorem map_beq_of_entryValue? {entries others : List (FieldValue × FieldValue)}
    (formed : (map entries).WellFormed) (othersFormed : (map others).WellFormed)
    (same : ∀ key : FieldValue, key.WellFormed → entryValue? entries key = entryValue? others key) :
    (FieldValue.map entries == .map others) = true := by
  rw [wellFormed_map_iff] at formed othersFormed
  have forward : ∀ entry ∈ entries, entryValue? others entry.1 = some entry.2 := by
    intro entry member
    rw [← same entry.1 (allFormed_map.mp formed.keys entry member)]
    exact entryValue?_of_mem formed.keys formed.distinct member
  have backward : ∀ other ∈ others, entryValue? entries other.1 = some other.2 := by
    intro other member
    rw [same other.1 (allFormed_map.mp othersFormed.keys other member)]
    exact entryValue?_of_mem othersFormed.keys othersFormed.distinct member
  have shorter : (keys entries).length ≤ (keys others).length := by
    apply length_le_of_contained formed.keys othersFormed.keys formed.distinct
    intro key member
    obtain ⟨entry, belongs, rfl⟩ := List.mem_map.mp member
    exact contained_keys_of_entryValue? (forward entry belongs)
  have longer : (keys others).length ≤ (keys entries).length := by
    apply length_le_of_contained othersFormed.keys formed.keys othersFormed.distinct
    intro key member
    obtain ⟨entry, belongs, rfl⟩ := List.mem_map.mp member
    exact contained_keys_of_entryValue? (backward entry belongs)
  rw [map_beq_iff]
  simp only [keys, List.length_map] at shorter longer
  refine ⟨Nat.le_antisymm shorter longer, ?_⟩
  intro entry member
  obtain ⟨other, belongs, key, value⟩ := mem_of_entryValue? (forward entry member)
  have keyFormed := allFormed_map.mp formed.keys entry member
  have otherFormed := allFormed_map.mp othersFormed.keys other belongs
  refine ⟨other, belongs, (otherFormed.symm keyFormed).mp key, ?_⟩
  rw [value]
  exact (allFormed_map.mp formed.values entry member).refl

theorem eq_nil_of_contained {items : List FieldValue} (formed : AllFormed items)
    (empty : ∀ element : FieldValue, element.WellFormed → contained items element = false) :
    items = [] := by
  cases items with
  | nil => rfl
  | cons item items =>
      have itemFormed := formed item List.mem_cons_self
      have present : contained (item :: items) item = true :=
        contained_of_mem itemFormed List.mem_cons_self
      rw [empty item itemFormed] at present
      contradiction

theorem eq_nil_of_entryValue? {entries : List (FieldValue × FieldValue)}
    (formed : AllFormed (keys entries))
    (empty : ∀ key : FieldValue, key.WellFormed → entryValue? entries key = none) :
    entries = [] := by
  cases entries with
  | nil => rfl
  | cons entry entries =>
      have key : entry.1.WellFormed := formed entry.1 List.mem_cons_self
      have absent := empty entry.1 key
      simp [entryValue?_cons, key.refl] at absent

/-- Well-formed collections with the same contents agree. -/
theorem agrees_of_sameContents {kind : CollectionKind} {a b : FieldValue} (left : a.WellFormed)
    (right : b.WellFormed) (same : SameContents kind a b) : a.agrees b = true := by
  cases kind with
  | list =>
      obtain ⟨items, first, second⟩ := same
      rcases listItems?_eq_some first with ⟨rfl, rfl⟩ | rfl
      · rcases listItems?_eq_some second with ⟨rfl, _⟩ | rfl <;> rfl
      · rcases listItems?_eq_some second with ⟨rfl, rfl⟩ | rfl
        · rfl
        · exact left.agrees
  | set =>
      obtain ⟨items, others, first, second, members⟩ := same
      rcases setItems?_eq_some first with ⟨rfl, rfl⟩ | rfl
      · rcases setItems?_eq_some second with ⟨rfl, rfl⟩ | rfl
        · rfl
        · have empty := eq_nil_of_contained right.items_of_set.1 fun element formed =>
            (members element formed).symm
          subst others
          rfl
      · rcases setItems?_eq_some second with ⟨rfl, rfl⟩ | rfl
        · have empty := eq_nil_of_contained left.items_of_set.1 members
          subst items
          rfl
        · exact agrees_of_beq (set_beq_of_contained left right members)
  | map =>
      obtain ⟨entries, others, first, second, lookups⟩ := same
      rcases mapEntries?_eq_some first with ⟨rfl, rfl⟩ | rfl
      · rcases mapEntries?_eq_some second with ⟨rfl, rfl⟩ | rfl
        · rfl
        · have empty := eq_nil_of_entryValue? (wellFormed_map_iff.mp right).keys
            fun key formed => (lookups key formed).symm
          subst others
          rfl
      · rcases mapEntries?_eq_some second with ⟨rfl, rfl⟩ | rfl
        · have empty := eq_nil_of_entryValue? (wellFormed_map_iff.mp left).keys lookups
          subst entries
          rfl
        · exact agrees_of_beq (map_beq_of_entryValue? left right lookups)

end FieldValue

end CqlMapper

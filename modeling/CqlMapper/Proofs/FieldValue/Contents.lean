import CqlMapper.Proofs.FieldValue.Equality

/-!
What collections hold: membership in a list of elements and lookup in a list of entries, under the
operations that add, replace and remove. Elements are told apart by equality of well-formed values.
-/

namespace CqlMapper.FieldValue

def AllFormed (items : List FieldValue) : Prop :=
  ∀ item ∈ items, item.WellFormed

theorem beq_congr_left {a b c : FieldValue} (first : a.WellFormed) (second : b.WellFormed)
    (third : c.WellFormed) (same : (a == b) = true) : (a == c) = (b == c) :=
  Bool.eq_iff_iff.mpr (first.coherent.left b c second third same).symm

theorem beq_congr_right {a b c : FieldValue} (first : a.WellFormed) (second : b.WellFormed)
    (third : c.WellFormed) (same : (a == b) = true) : (c == a) = (c == b) :=
  Bool.eq_iff_iff.mpr (first.coherent.right b c second third same).symm

theorem beq_eq_false_of_apart {a b c : FieldValue} (first : a.WellFormed) (second : b.WellFormed)
    (third : c.WellFormed) (apart : ¬(a == b) = true) (same : (a == c) = true) :
    (b == c) = false := by
  apply Bool.eq_false_iff.mpr
  intro other
  exact apart (first.trans third second same ((second.symm third).mp other))

theorem contained_iff (items : List FieldValue) (value : FieldValue) :
    contained items value = true ↔ ∃ item ∈ items, (item == value) = true := by
  simp [contained]

theorem contained_of_mem {items : List FieldValue} {item : FieldValue} (formed : item.WellFormed)
    (member : item ∈ items) : contained items item = true :=
  (contained_iff items item).mpr ⟨item, member, formed.refl⟩

theorem contained_congr {items : List FieldValue} {a b : FieldValue} (formed : AllFormed items)
    (first : a.WellFormed) (second : b.WellFormed) (same : (a == b) = true) :
    contained items a = contained items b :=
  any_eq_of_mem items fun item member => beq_congr_right first second (formed item member) same

theorem contained_addNew {items : List FieldValue} {value other : FieldValue}
    (formed : AllFormed items) (valueFormed : value.WellFormed) (otherFormed : other.WellFormed) :
    contained (addNew items value) other = (contained items other || value == other) := by
  by_cases present : contained items value = true
  · simp only [addNew, present, ↓reduceIte]
    by_cases same : (value == other) = true
    · have found : contained items other = true := by
        rw [← contained_congr formed valueFormed otherFormed same]
        exact present
      simp [found]
    · simp [same]
  · simp only [addNew, present, Bool.false_eq_true, ↓reduceIte]
    simp [contained]

theorem contained_without {items : List FieldValue} {value other : FieldValue}
    (formed : AllFormed items) (valueFormed : value.WellFormed) (otherFormed : other.WellFormed) :
    contained (without items value) other = (contained items other && !(value == other)) := by
  rw [Bool.eq_iff_iff, contained_iff, Bool.and_eq_true, contained_iff]
  simp only [without, List.mem_filter, Bool.not_eq_true']
  constructor
  · rintro ⟨item, ⟨member, different⟩, same⟩
    refine ⟨⟨item, member, same⟩, ?_⟩
    rw [← beq_congr_right (formed item member) otherFormed valueFormed same]
    exact Bool.eq_false_iff.mpr fun equal => Bool.eq_false_iff.mp different
      ((valueFormed.symm (formed item member)).mp equal)
  · rintro ⟨⟨item, member, same⟩, different⟩
    refine ⟨item, ⟨member, ?_⟩, same⟩
    rw [← beq_congr_right (formed item member) otherFormed valueFormed same] at different
    exact Bool.eq_false_iff.mpr fun equal => Bool.eq_false_iff.mp different
      (((formed item member).symm valueFormed).mp equal)

theorem mem_addNew {items : List FieldValue} {value other : FieldValue}
    (member : other ∈ addNew items value) : other ∈ items ∨ other = value := by
  unfold addNew at member
  split at member
  · exact Or.inl member
  · simpa using member

theorem AllFormed.addNew {items : List FieldValue} {value : FieldValue} (formed : AllFormed items)
    (valueFormed : value.WellFormed) : AllFormed (addNew items value) := by
  intro other member
  rcases mem_addNew member with old | new
  · exact formed other old
  · rw [new]
    exact valueFormed

theorem AllFormed.without {items : List FieldValue} (formed : AllFormed items)
    (value : FieldValue) : AllFormed (without items value) :=
  fun other member => formed other (List.mem_filter.mp member).1

def Distinct (items : List FieldValue) : Prop :=
  items.Pairwise fun item other => ¬(other == item) = true

theorem Distinct.addNew {items : List FieldValue} {value : FieldValue} (distinct : Distinct items)
    (formed : AllFormed items) (valueFormed : value.WellFormed) :
    Distinct (addNew items value) := by
  unfold FieldValue.addNew
  split
  · exact distinct
  · rename_i absent
    refine List.pairwise_append.mpr ⟨distinct, List.pairwise_singleton _ _, ?_⟩
    intro item member other single same
    rw [List.mem_singleton] at single
    subst other
    exact absent ((contained_iff items value).mpr
      ⟨item, member, (valueFormed.symm (formed item member)).mp same⟩)

theorem Distinct.without {items : List FieldValue} (distinct : Distinct items)
    (value : FieldValue) : Distinct (without items value) :=
  distinct.sublist List.filter_sublist

def entryValue? (entries : List (FieldValue × FieldValue)) (key : FieldValue) : Option FieldValue :=
  (entries.find? fun entry => entry.1 == key).map (·.2)

def keys (entries : List (FieldValue × FieldValue)) : List FieldValue :=
  entries.map (·.1)

theorem entryValue?_cons (entry : FieldValue × FieldValue)
    (entries : List (FieldValue × FieldValue)) (key : FieldValue) :
    entryValue? (entry :: entries) key =
      if entry.1 == key then some entry.2 else entryValue? entries key := by
  unfold entryValue?
  rw [List.find?_cons]
  cases entry.1 == key <;> rfl

theorem keys_putEntry (key value : FieldValue) (entries : List (FieldValue × FieldValue)) :
    keys (putEntry key value entries) = addNew (keys entries) key := by
  induction entries with
  | nil => rfl
  | cons entry entries ih =>
      simp only [putEntry, keys, List.map_cons, addNew, contained, List.any_cons] at ih ⊢
      by_cases same : (entry.1 == key) = true
      · simp [same]
      · simp only [same, Bool.false_eq_true, ↓reduceIte, List.map_cons, Bool.false_or, ih]
        split <;> rename_i found <;> simp [found]

theorem keys_withoutKey (entries : List (FieldValue × FieldValue)) (key : FieldValue) :
    keys (withoutKey entries key) = without (keys entries) key := by
  simp [keys, withoutKey, without, List.filter_map, Function.comp_def]

theorem entryValue?_putEntry {entries : List (FieldValue × FieldValue)} {key other : FieldValue}
    (value : FieldValue) (formed : AllFormed (keys entries)) (keyFormed : key.WellFormed)
    (otherFormed : other.WellFormed) :
    entryValue? (putEntry key value entries) other =
      if key == other then some value else entryValue? entries other := by
  induction entries with
  | nil => simp [putEntry, entryValue?]
  | cons entry entries ih =>
      simp only [keys, List.map_cons, AllFormed, List.mem_cons, forall_eq_or_imp] at formed
      rw [putEntry]
      by_cases same : (entry.1 == key) = true
      · have agree := beq_congr_left formed.1 keyFormed otherFormed same
        simp only [same, ↓reduceIte, entryValue?_cons, agree]
        cases key == other <;> rfl
      · simp only [same, Bool.false_eq_true, ↓reduceIte, entryValue?_cons, ih formed.2]
        by_cases first : (entry.1 == other) = true
        · simp [first, beq_eq_false_of_apart formed.1 keyFormed otherFormed same first]
        · simp [first]

theorem entryValue?_withoutKey {entries : List (FieldValue × FieldValue)} {key other : FieldValue}
    (formed : AllFormed (keys entries)) (keyFormed : key.WellFormed)
    (otherFormed : other.WellFormed) :
    entryValue? (withoutKey entries key) other =
      if key == other then none else entryValue? entries other := by
  induction entries with
  | nil => simp [withoutKey, entryValue?]
  | cons entry entries ih =>
      simp only [keys, List.map_cons, AllFormed, List.mem_cons, forall_eq_or_imp] at formed
      have rest := ih formed.2
      rw [withoutKey] at rest ⊢
      by_cases same : (entry.1 == key) = true
      · have agree := beq_congr_left formed.1 keyFormed otherFormed same
        simp only [List.filter_cons, same, Bool.not_true, Bool.false_eq_true, ↓reduceIte, rest,
          entryValue?_cons, agree]
        cases key == other <;> rfl
      · simp only [List.filter_cons, same, Bool.not_false, ↓reduceIte, entryValue?_cons, rest]
        by_cases first : (entry.1 == other) = true
        · simp [first, beq_eq_false_of_apart formed.1 keyFormed otherFormed same first]
        · simp [first]

theorem WellFormed.items_of_set {items : List FieldValue}
    (formed : (FieldValue.set items).WellFormed) : AllFormed items ∧ Distinct items := by
  cases formed with
  | scalar scalar => simp [isScalar] at scalar
  | set formed distinct => exact ⟨formed, distinct⟩

theorem WellFormed.items_of_list {items : List FieldValue}
    (formed : (FieldValue.list items).WellFormed) : AllFormed items := by
  cases formed with
  | scalar scalar => simp [isScalar] at scalar
  | list formed => exact formed

structure FormedEntries (entries : List (FieldValue × FieldValue)) : Prop where
  keys : AllFormed (keys entries)
  values : AllFormed (entries.map (·.2))
  distinct : Distinct (FieldValue.keys entries)

theorem allFormed_map {α : Type} {items : List α} {part : α → FieldValue} :
    AllFormed (items.map part) ↔ ∀ item ∈ items, (part item).WellFormed := by
  simp [AllFormed]

theorem distinct_iff {items : List FieldValue} (formed : AllFormed items) :
    Distinct items ↔ items.Pairwise fun item other => ¬(item == other) = true := by
  constructor
  · intro distinct
    apply List.Pairwise.imp_of_mem _ distinct
    intro item other member otherMember different same
    exact different (((formed item member).symm (formed other otherMember)).mp same)
  · intro distinct
    apply List.Pairwise.imp_of_mem _ distinct
    intro item other member otherMember different same
    exact different (((formed other otherMember).symm (formed item member)).mp same)

theorem wellFormed_map_iff {entries : List (FieldValue × FieldValue)} :
    (map entries).WellFormed ↔ FormedEntries entries := by
  constructor
  · intro formed
    cases formed with
    | scalar scalar => simp [isScalar] at scalar
    | map keysFormed valuesFormed distinct =>
        have formedKeys : AllFormed (keys entries) := allFormed_map.mpr keysFormed
        exact ⟨formedKeys, allFormed_map.mpr valuesFormed,
          (distinct_iff formedKeys).mpr (List.pairwise_map.mpr distinct)⟩
  · intro formed
    exact .map (allFormed_map.mp formed.keys) (allFormed_map.mp formed.values)
      (List.pairwise_map.mp ((distinct_iff formed.keys).mp formed.distinct))

theorem FormedEntries.putEntry {entries : List (FieldValue × FieldValue)} {key value : FieldValue}
    (formed : FormedEntries entries) (keyFormed : key.WellFormed) (valueFormed : value.WellFormed) :
    FormedEntries (putEntry key value entries) := by
  refine ⟨?_, ?_, ?_⟩
  · rw [keys_putEntry]
    exact formed.keys.addNew keyFormed
  · have values := formed.values
    clear formed
    induction entries with
    | nil => simpa [FieldValue.putEntry, AllFormed] using valueFormed
    | cons entry entries ih =>
        simp only [List.map_cons, AllFormed, List.mem_cons, forall_eq_or_imp] at values ih ⊢
        rw [FieldValue.putEntry]
        split
        · simpa using ⟨valueFormed, by simpa using values.2⟩
        · simpa using ⟨values.1, by simpa using ih values.2⟩
  · rw [keys_putEntry]
    exact formed.distinct.addNew formed.keys keyFormed

theorem FormedEntries.withoutKey {entries : List (FieldValue × FieldValue)}
    (formed : FormedEntries entries) (key : FieldValue) :
    FormedEntries (withoutKey entries key) := by
  refine ⟨?_, ?_, ?_⟩
  · rw [keys_withoutKey]
    exact formed.keys.without key
  · apply allFormed_map.mpr
    intro entry member
    exact allFormed_map.mp formed.values entry (List.mem_filter.mp member).1
  · rw [keys_withoutKey]
    exact formed.distinct.without key

theorem entryValue?_of_mem {entries : List (FieldValue × FieldValue)}
    (formed : AllFormed (keys entries)) (distinct : Distinct (keys entries))
    {entry : FieldValue × FieldValue} (member : entry ∈ entries) :
    entryValue? entries entry.1 = some entry.2 := by
  induction entries with
  | nil => simp at member
  | cons first entries ih =>
      simp only [keys, List.map_cons, Distinct, List.pairwise_cons] at distinct
      simp only [keys, List.map_cons, AllFormed, List.mem_cons, forall_eq_or_imp] at formed
      rw [entryValue?_cons]
      rcases List.mem_cons.mp member with same | later
      · subst entry
        simp [formed.1.refl]
      · have key : entry.1 ∈ entries.map (·.1) := List.mem_map_of_mem later
        have different : ¬(first.1 == entry.1) = true := fun same =>
          distinct.1 entry.1 key ((formed.1.symm (formed.2 entry.1 key)).mp same)
        simpa [different] using ih formed.2 distinct.2 later

theorem mem_of_entryValue? {entries : List (FieldValue × FieldValue)} {key value : FieldValue}
    (found : entryValue? entries key = some value) :
    ∃ entry ∈ entries, (entry.1 == key) = true ∧ entry.2 = value := by
  simp only [entryValue?, Option.map_eq_some_iff] at found
  obtain ⟨entry, first, same⟩ := found
  exact ⟨entry, List.mem_of_find?_eq_some first, by simpa using List.find?_some first, same⟩

theorem contained_keys_of_entryValue? {entries : List (FieldValue × FieldValue)}
    {key value : FieldValue} (found : entryValue? entries key = some value) :
    contained (keys entries) key = true := by
  obtain ⟨entry, member, same, _⟩ := mem_of_entryValue? found
  exact (contained_iff _ _).mpr ⟨entry.1, List.mem_map_of_mem member, same⟩

/-! Repeated operations, as a list of them is carried out. -/

theorem AllFormed.tail {item : FieldValue} {items : List FieldValue}
    (formed : AllFormed (item :: items)) : AllFormed items :=
  fun other member => formed other (List.mem_cons_of_mem _ member)

theorem AllFormed.addAll {items : List FieldValue} (formed : AllFormed items)
    (values : List FieldValue) (valuesFormed : AllFormed values) :
    AllFormed (values.foldl FieldValue.addNew items) :=
  List.foldlRecOn (motive := AllFormed) values _ formed fun _ formed value member =>
    formed.addNew (valuesFormed value member)

theorem contained_addAll {items values : List FieldValue} {element : FieldValue}
    (formed : AllFormed items) (valuesFormed : AllFormed values)
    (elementFormed : element.WellFormed) :
    contained (values.foldl addNew items) element =
      (contained items element || contained values element) := by
  induction values generalizing items with
  | nil => simp [contained]
  | cons value values ih =>
      have valueFormed := valuesFormed value List.mem_cons_self
      rw [List.foldl_cons, ih (formed.addNew valueFormed) valuesFormed.tail,
        contained_addNew formed valueFormed elementFormed, Bool.or_assoc]
      rfl

theorem contained_removeAll {items values : List FieldValue} {element : FieldValue}
    (formed : AllFormed items) (valuesFormed : AllFormed values)
    (elementFormed : element.WellFormed) :
    contained (values.foldl without items) element =
      (contained items element && !contained values element) := by
  induction values generalizing items with
  | nil => simp [contained]
  | cons value values ih =>
      have valueFormed := valuesFormed value List.mem_cons_self
      rw [List.foldl_cons, ih (formed.without value) valuesFormed.tail,
        contained_without formed valueFormed elementFormed, Bool.and_assoc, ← Bool.not_or]
      rfl

theorem entryValue?_eq_none {entries : List (FieldValue × FieldValue)} {key : FieldValue}
    (absent : contained (keys entries) key = false) : entryValue? entries key = none := by
  cases found : entryValue? entries key with
  | none => rfl
  | some value =>
      rw [contained_keys_of_entryValue? found] at absent
      contradiction

def putAll (entries kept : List (FieldValue × FieldValue)) : List (FieldValue × FieldValue) :=
  entries.foldl (fun kept entry => putEntry entry.1 entry.2 kept) kept

theorem AllFormed.keys_putEntry {entries : List (FieldValue × FieldValue)} {key : FieldValue}
    (formed : AllFormed (keys entries)) (keyFormed : key.WellFormed) (value : FieldValue) :
    AllFormed (keys (putEntry key value entries)) := by
  rw [FieldValue.keys_putEntry]
  exact formed.addNew keyFormed

theorem AllFormed.keys_withoutKey {entries : List (FieldValue × FieldValue)}
    (formed : AllFormed (keys entries)) (key : FieldValue) :
    AllFormed (keys (withoutKey entries key)) := by
  rw [FieldValue.keys_withoutKey]
  exact formed.without key

theorem AllFormed.keys_putAll {kept : List (FieldValue × FieldValue)}
    (formed : AllFormed (keys kept)) (entries : List (FieldValue × FieldValue))
    (entriesFormed : AllFormed (keys entries)) : AllFormed (keys (putAll entries kept)) := by
  refine List.foldlRecOn (motive := fun kept => AllFormed (keys kept)) entries _ formed ?_
  intro kept formed entry member
  exact formed.keys_putEntry (entriesFormed entry.1 (List.mem_map_of_mem member)) entry.2

/-- Where no key is put twice, the order of the puts does not show. -/
theorem entryValue?_putAll {entries kept : List (FieldValue × FieldValue)} {key : FieldValue}
    (formed : AllFormed (keys kept)) (entriesFormed : AllFormed (keys entries))
    (distinct : Distinct (keys entries)) (keyFormed : key.WellFormed) :
    entryValue? (putAll entries kept) key =
      (entryValue? entries key).or (entryValue? kept key) := by
  induction entries generalizing kept with
  | nil => simp [putAll, entryValue?]
  | cons entry entries ih =>
      have entryFormed : entry.1.WellFormed := entriesFormed entry.1 List.mem_cons_self
      have parts := List.pairwise_cons.mp distinct
      change entryValue? (putAll entries (putEntry entry.1 entry.2 kept)) key = _
      rw [ih (formed.keys_putEntry entryFormed entry.2) entriesFormed.tail parts.2,
        entryValue?_putEntry entry.2 formed entryFormed keyFormed, entryValue?_cons]
      by_cases same : (entry.1 == key) = true
      · -- An equal key further on would equal the first one, against distinctness.
        have absent : contained (keys entries) key = false := by
          apply Bool.eq_false_iff.mpr
          intro present
          obtain ⟨other, member, equal⟩ := (contained_iff _ _).mp present
          have otherFormed := entriesFormed.tail other member
          exact parts.1 other member (otherFormed.trans keyFormed entryFormed equal
            ((entryFormed.symm keyFormed).mp same))
        simp [entryValue?_eq_none absent, same]
      · simp [same]

theorem entryValue?_dropAll {entries : List (FieldValue × FieldValue)} {dropped : List FieldValue}
    {key : FieldValue} (formed : AllFormed (keys entries)) (droppedFormed : AllFormed dropped)
    (keyFormed : key.WellFormed) :
    entryValue? (dropped.foldl withoutKey entries) key =
      if contained dropped key then none else entryValue? entries key := by
  induction dropped generalizing entries with
  | nil => simp [contained]
  | cons first dropped ih =>
      have firstFormed := droppedFormed first List.mem_cons_self
      rw [List.foldl_cons, ih (formed.keys_withoutKey first) droppedFormed.tail,
        entryValue?_withoutKey formed firstFormed keyFormed]
      simp only [contained, List.any_cons]
      by_cases same : (first == key) = true <;> simp [same]

end CqlMapper.FieldValue

import CqlMapper.Proofs.FieldValue.Agreement

/-!
What equality of field values means. On well-formed values it is an equivalence, sets are equal when
they have the same elements and maps when they have the same entries, in whatever order, and doubles
are equal when neither comes before the other in their total order.
-/

namespace CqlMapper

namespace Double

/-- The total order of doubles: those with a sign before those without, those of one sign by
magnitude, and a not-a-number beyond the infinity of its sign. -/
def Precedes (a b : Double) : Prop :=
  match a.isNegative, b.isNegative with
  | true, false => True
  | false, true => False
  | false, false => a.bits < b.bits
  | true, true => b.bits < a.bits

theorem eq_iff_not_precedes (a b : Double) : a = b ↔ ¬a.Precedes b ∧ ¬b.Precedes a := by
  constructor
  · rintro rfl
    unfold Precedes
    cases a.isNegative <;> simp [UInt64.lt_irrefl]
  · rintro ⟨notBefore, notAfter⟩
    unfold Precedes at notBefore notAfter
    obtain ⟨bits⟩ := a
    obtain ⟨others⟩ := b
    have same : bits = others := by
      apply UInt64.toNat_inj.mp
      cases left : isNegative ⟨bits⟩ <;> cases right : isNegative ⟨others⟩ <;>
        simp only [left, right, not_true_eq_false, UInt64.lt_iff_toNat_lt] at notBefore notAfter <;>
        omega
    rw [same]

end Double

namespace FieldValue

theorem double_beq_iff (a b : Double) :
    (double a == double b) = true ↔ ¬a.Precedes b ∧ ¬b.Precedes a := by
  rw [← Double.eq_iff_not_precedes, beq_eq_equals]
  simp [equals]

/-- Lists of distinct elements that include each other have the same length. -/
theorem length_eq_of_contained {items others : List FieldValue} (formed : AllFormed items)
    (othersFormed : AllFormed others) (distinct : Distinct items) (othersDistinct : Distinct others)
    (forward : ∀ item ∈ items, ∃ other ∈ others, (item == other) = true)
    (backward : ∀ other ∈ others, ∃ item ∈ items, (other == item) = true) :
    items.length = others.length := by
  apply Nat.le_antisymm
  · apply length_le_of_contained formed othersFormed distinct
    intro item member
    obtain ⟨other, belongs, same⟩ := forward item member
    exact (contained_iff others item).mpr
      ⟨other, belongs, ((formed item member).symm (othersFormed other belongs)).mp same⟩
  · apply length_le_of_contained othersFormed formed othersDistinct
    intro other member
    obtain ⟨item, belongs, same⟩ := backward other member
    exact (contained_iff items other).mpr
      ⟨item, belongs, ((othersFormed other member).symm (formed item belongs)).mp same⟩

/-- Only one direction of inclusion is checked; the length makes up for the other. -/
theorem set_beq_iff_elements {items others : List FieldValue} (formed : (set items).WellFormed)
    (othersFormed : (set others).WellFormed) :
    (set items == set others) = true ↔
      (∀ item ∈ items, ∃ other ∈ others, (item == other) = true) ∧
        ∀ other ∈ others, ∃ item ∈ items, (other == item) = true := by
  obtain ⟨each, distinct⟩ := formed.items_of_set
  obtain ⟨othersEach, othersDistinct⟩ := othersFormed.items_of_set
  constructor
  · intro same
    have forward := (set_beq_iff items others).mp same
    have backward := (set_beq_iff others items).mp ((formed.symm othersFormed).mp same)
    constructor
    · intro item member
      obtain ⟨other, belongs, equal⟩ := forward.2 item member
      exact ⟨other, belongs, ((othersEach other belongs).symm (each item member)).mp equal⟩
    · intro other member
      obtain ⟨item, belongs, equal⟩ := backward.2 other member
      exact ⟨item, belongs, ((each item belongs).symm (othersEach other member)).mp equal⟩
  · rintro ⟨forward, backward⟩
    rw [set_beq_iff]
    refine ⟨length_eq_of_contained each othersEach distinct othersDistinct forward backward, ?_⟩
    intro item member
    obtain ⟨other, belongs, equal⟩ := forward item member
    exact ⟨other, belongs, ((each item member).symm (othersEach other belongs)).mp equal⟩

theorem map_beq_iff_entries {entries others : List (FieldValue × FieldValue)}
    (formed : (map entries).WellFormed) (othersFormed : (map others).WellFormed) :
    (map entries == map others) = true ↔
      (∀ entry ∈ entries, ∃ other ∈ others, SameEntry entry other) ∧
        ∀ other ∈ others, ∃ entry ∈ entries, SameEntry other entry := by
  constructor
  · intro same
    exact ⟨((map_beq_iff entries others).mp same).2,
      ((map_beq_iff others entries).mp ((formed.symm othersFormed).mp same)).2⟩
  · rintro ⟨forward, backward⟩
    have parts := wellFormed_map_iff.mp formed
    have otherParts := wellFormed_map_iff.mp othersFormed
    -- Maps with the same keys have as many entries, whatever values the keys have.
    have sameKeys {front back : List (FieldValue × FieldValue)}
        (partners : ∀ entry ∈ front, ∃ other ∈ back, SameEntry entry other) :
        ∀ key ∈ keys front, ∃ other ∈ keys back, (key == other) = true := by
      intro key member
      obtain ⟨entry, belongs, rfl⟩ := List.mem_map.mp member
      obtain ⟨other, among, same⟩ := partners entry belongs
      exact ⟨other.1, List.mem_map_of_mem among, same.1⟩
    have length := length_eq_of_contained parts.keys otherParts.keys parts.distinct
      otherParts.distinct (sameKeys forward) (sameKeys backward)
    rw [map_beq_iff]
    exact ⟨by simpa [keys] using length, forward⟩

/-- Equality of well-formed values, whose objects are such that JSON can hold, is an equivalence. It
looks at the elements of sets and at the entries of maps and not at their order, and at doubles in
their total order. -/
theorem beq_equivalence :
    Equivalence (fun a b : { value : FieldValue // value.WellFormed } =>
      (a.val == b.val) = true) ∧
    (∀ items others : List FieldValue, (set items).WellFormed → (set others).WellFormed →
      ((set items == set others) = true ↔
        (∀ item ∈ items, ∃ other ∈ others, (item == other) = true) ∧
          ∀ other ∈ others, ∃ item ∈ items, (other == item) = true)) ∧
    (∀ entries others : List (FieldValue × FieldValue),
      (map entries).WellFormed → (map others).WellFormed →
      ((map entries == map others) = true ↔
        (∀ entry ∈ entries, ∃ other ∈ others, SameEntry entry other) ∧
          ∀ other ∈ others, ∃ entry ∈ entries, SameEntry other entry)) ∧
    (∀ a b : Double, (double a == double b) = true ↔ ¬a.Precedes b ∧ ¬b.Precedes a) ∧
    (∀ notANumber : Double, notANumber.isNaN = true →
      (double notANumber == double notANumber) = true) ∧
    (double ⟨0⟩ == double (Double.negated ⟨0⟩)) = false := by
  refine ⟨⟨?_, ?_, ?_⟩, ?_, ?_, double_beq_iff, ?_, rfl⟩
  · intro a
    exact a.property.refl
  · intro a b same
    exact (a.property.symm b.property).mp same
  · intro a b c first second
    exact a.property.trans b.property c.property first second
  · intro items others formed othersFormed
    exact set_beq_iff_elements formed othersFormed
  · intro entries others formed othersFormed
    exact map_beq_iff_entries formed othersFormed
  · intro notANumber _
    exact WellFormed.refl (.scalar rfl)

def notANumbers : FieldValue :=
  .list [.double ⟨0x7ff8000000000000⟩, .double ⟨0xfff8000000000000⟩]

def ranked (first second : Int32) : FieldValue :=
  .map [(.text "ranks", .set [.int first, .int second])]

theorem formed_pair {first second : FieldValue} (left : first.WellFormed)
    (right : second.WellFormed) (apart : (second == first) = false) :
    (set [first, second]).WellFormed := by
  refine .set ?_ ?_
  · exact List.forall_mem_cons.mpr ⟨left, List.forall_mem_singleton.mpr right⟩
  · simp [apart]

theorem formed_ranked {first second : Int32} (apart : first ≠ second) :
    (ranked first second).WellFormed := by
  have different : (int second == int first) = false := by
    rw [beq_eq_equals]
    simpa [equals] using apart.symm
  have ranks : (set [int first, int second]).WellFormed :=
    formed_pair (.scalar rfl) (.scalar rfl) different
  refine .map ?_ ?_ (List.pairwise_singleton _ _)
  · exact List.forall_mem_singleton.mpr (.scalar rfl)
  · exact List.forall_mem_singleton.mpr ranks

theorem formed_notANumbers : notANumbers.WellFormed := by
  refine .list fun item member => .scalar ?_
  simp only [List.mem_cons, List.not_mem_nil, or_false] at member
  rcases member with rfl | rfl <;> rfl

theorem beq_equivalence_reordered :
    (set [notANumbers, ranked 1 2] == set [ranked 2 1, notANumbers]) = true ∧
      (set [ranked 2 1, notANumbers] == set [notANumbers, ranked 1 2]) = true := by
  obtain ⟨equivalence, sets, _⟩ := beq_equivalence
  have one : (set [notANumbers, ranked 1 2]).WellFormed :=
    formed_pair formed_notANumbers (formed_ranked (by decide)) rfl
  have other : (set [ranked 2 1, notANumbers]).WellFormed :=
    formed_pair (formed_ranked (by decide)) formed_notANumbers rfl
  have same : (set [notANumbers, ranked 1 2] == set [ranked 2 1, notANumbers]) = true := by
    rw [sets _ _ one other]
    constructor
    · refine List.forall_mem_cons.mpr ⟨?_, List.forall_mem_singleton.mpr ?_⟩
      · exact ⟨notANumbers, List.mem_cons_of_mem _ List.mem_cons_self, rfl⟩
      · exact ⟨ranked 2 1, List.mem_cons_self, rfl⟩
    · refine List.forall_mem_cons.mpr ⟨?_, List.forall_mem_singleton.mpr ?_⟩
      · exact ⟨ranked 1 2, List.mem_cons_of_mem _ List.mem_cons_self, rfl⟩
      · exact ⟨notANumbers, List.mem_cons_self, rfl⟩
  exact ⟨same, equivalence.symm (x := ⟨_, one⟩) (y := ⟨_, other⟩) same⟩

end FieldValue

end CqlMapper

import CqlMapper.FieldValue.Basic
import CqlMapper.Proofs.Json.Sameness
import CqlMapper.Proofs.Matching

/-!
Equality of field values is an equivalence on values without repeated elements or keys. Sets and
maps are compared in one direction only; that the other direction follows is a counting argument.
On other values equality is still transitive.
-/

namespace CqlMapper

namespace FieldValue

def isSingle : FieldValue → Bool
  | .list _ | .set _ | .map _ => false
  | _ => true

theorem nested_induction {motive : FieldValue → Prop}
    (single : ∀ value : FieldValue, value.isSingle = true → motive value)
    (list : ∀ items, (∀ item ∈ items, motive item) → motive (.list items))
    (set : ∀ items, (∀ item ∈ items, motive item) → motive (.set items))
    (map : ∀ entries, (∀ entry ∈ entries, motive entry.1 ∧ motive entry.2) →
      motive (.map entries)) (value : FieldValue) : motive value := by
  cases value with
  | list items =>
      apply list
      intro item member
      exact nested_induction single list set map item
  | set items =>
      apply set
      intro item member
      exact nested_induction single list set map item
  | map entries =>
      apply map
      intro entry member
      exact ⟨nested_induction single list set map entry.1,
        nested_induction single list set map entry.2⟩
  | _ => exact single _ rfl
termination_by value
decreasing_by
  · have := List.sizeOf_lt_of_mem member
    simp only [FieldValue.list.sizeOf_spec]
    omega
  · have := List.sizeOf_lt_of_mem member
    simp only [FieldValue.set.sizeOf_spec]
    omega
  all_goals
    have := List.sizeOf_lt_of_mem member
    obtain ⟨key, item⟩ := entry
    simp only [FieldValue.map.sizeOf_spec, Prod.mk.sizeOf_spec] at this ⊢
    omega

def Swaps (a : FieldValue) : Prop :=
  ∀ b, equaledBy a b = equals b a ∧ equaledBy b a = equals a b

theorem itemsEqualedBy_eq (as bs : List FieldValue) (swaps : ∀ a ∈ as, Swaps a) :
    itemsEqualedBy as bs = equalItems bs as ∧ itemsEqualedBy bs as = equalItems as bs := by
  induction as generalizing bs with
  | nil => cases bs <;> simp [itemsEqualedBy, equalItems]
  | cons a as ih =>
      cases bs with
      | nil => simp [itemsEqualedBy, equalItems]
      | cons b bs =>
          have head := swaps a List.mem_cons_self b
          have tail := ih bs fun other member => swaps other (List.mem_cons_of_mem _ member)
          simp [itemsEqualedBy, equalItems, head.1, head.2, tail.1, tail.2]

theorem anyEquals_eq (as : List FieldValue) (b : FieldValue) :
    anyEquals as b = as.any fun a => equals a b := by
  induction as with
  | nil => rfl
  | cons a as ih => simp [anyEquals, ih]

theorem allFoundIn_eq (as bs : List FieldValue) :
    allFoundIn as bs = as.all fun a => bs.any fun b => equaledBy a b := by
  induction as with
  | nil => rfl
  | cons a as ih => simp [allFoundIn, ih]

theorem anyEntryMatches_eq (as : List (FieldValue × FieldValue)) (key value : FieldValue) :
    anyEntryMatches as key value =
      as.any fun a => equaledBy a.1 key && equaledBy a.2 value := by
  induction as with
  | nil => rfl
  | cons a as ih => simp [anyEntryMatches, ih]

theorem allEntriesFoundIn_eq (as bs : List (FieldValue × FieldValue)) :
    allEntriesFoundIn as bs =
      as.all fun a => bs.any fun b => equals a.1 b.1 && equals a.2 b.2 := by
  induction as with
  | nil => rfl
  | cons a as ih => simp [allEntriesFoundIn, ih]

theorem any_eq_of_mem {α : Type} {first second : α → Bool} (items : List α)
    (same : ∀ item ∈ items, first item = second item) : items.any first = items.any second := by
  induction items with
  | nil => rfl
  | cons item items ih =>
      rw [List.any_cons, List.any_cons, same item List.mem_cons_self,
        ih fun other member => same other (List.mem_cons_of_mem _ member)]

theorem all_eq_of_mem {α : Type} {first second : α → Bool} (items : List α)
    (same : ∀ item ∈ items, first item = second item) : items.all first = items.all second := by
  induction items with
  | nil => rfl
  | cons item items ih =>
      rw [List.all_cons, List.all_cons, same item List.mem_cons_self,
        ih fun other member => same other (List.mem_cons_of_mem _ member)]

theorem swaps (a : FieldValue) : Swaps a := by
  induction a using nested_induction with
  | single a alone =>
      intro b
      cases a <;> simp only [isSingle, Bool.false_eq_true] at alone <;>
        cases b <;> simp [equaledBy, equals]
  | list as ih =>
      intro b
      cases b with
      | list bs => simpa only [equaledBy, equals] using itemsEqualedBy_eq as bs ih
      | _ => simp [equaledBy, equals]
  | set as ih =>
      intro b
      cases b with
      | set bs =>
          simp only [equaledBy, equals, anyEquals_eq, allFoundIn_eq]
          constructor
          · congr 1
            apply all_eq_of_mem
            intro b _
            exact any_eq_of_mem as fun a member => (ih a member b).2.symm
          · congr 1
            apply all_eq_of_mem
            intro a member
            exact any_eq_of_mem bs fun b _ => (ih a member b).1.symm
      | _ => simp [equaledBy, equals]
  | map as ih =>
      intro b
      cases b with
      | map bs =>
          simp only [equaledBy, equals, anyEntryMatches_eq, allEntriesFoundIn_eq]
          constructor
          · congr 1
            apply all_eq_of_mem
            intro b _
            apply any_eq_of_mem
            intro a member
            rw [((ih a member).1 b.1).1, ((ih a member).2 b.2).1]
          · congr 1
            apply all_eq_of_mem
            intro a member
            apply any_eq_of_mem
            intro b _
            rw [((ih a member).1 b.1).2, ((ih a member).2 b.2).2]
      | _ => simp [equaledBy, equals]

theorem equaledBy_eq (a b : FieldValue) : equaledBy a b = equals b a :=
  (swaps a b).1

theorem beq_eq_equals (a b : FieldValue) : (a == b) = equals a b :=
  rfl

theorem list_beq (as bs : List FieldValue) : (FieldValue.list as == .list bs) = equalItems as bs :=
  rfl

theorem set_beq_iff (as bs : List FieldValue) :
    (FieldValue.set as == .set bs) = true ↔
      Matching.Matched (fun a b => (b == a) = true) as bs := by
  simp [Matching.Matched, beq_eq_equals, equals, allFoundIn_eq, equaledBy_eq]

def SameEntry (entry other : FieldValue × FieldValue) : Prop :=
  (entry.1 == other.1) = true ∧ (entry.2 == other.2) = true

theorem map_beq_iff (as bs : List (FieldValue × FieldValue)) :
    (FieldValue.map as == .map bs) = true ↔ Matching.Matched SameEntry as bs := by
  simp [Matching.Matched, SameEntry, beq_eq_equals, equals, allEntriesFoundIn_eq]

def isScalar : FieldValue → Bool
  | .list _ | .set _ | .map _ => false
  | .object json => json.isProper
  | _ => true

def canonical : FieldValue → FieldValue
  | .object json => .object json.canonical
  | value => value

/-- Values whose sets repeat no element and whose maps repeat no key, at every level. -/
inductive WellFormed : FieldValue → Prop
  | scalar {value} : value.isScalar = true → WellFormed value
  | list {items} : (∀ item ∈ items, WellFormed item) → WellFormed (.list items)
  | set {items} : (∀ item ∈ items, WellFormed item) →
      (items.Pairwise fun item other => ¬(other == item) = true) → WellFormed (.set items)
  | map {entries} : (∀ entry ∈ entries, WellFormed entry.1) →
      (∀ entry ∈ entries, WellFormed entry.2) →
      (entries.Pairwise fun entry other => ¬(entry.1 == other.1) = true) →
      WellFormed (.map entries)

theorem scalar_beq_iff {a b : FieldValue} (left : a.isScalar = true) (right : b.WellFormed) :
    (a == b) = true ↔ a.canonical = b.canonical := by
  cases right with
  | scalar right =>
      cases a <;> simp only [isScalar, Bool.false_eq_true] at left <;>
        cases b <;> simp only [isScalar, Bool.false_eq_true] at right <;>
          simp [beq_eq_equals, equals, canonical]
      exact Json.same_iff _ _ left right
  | _ =>
      cases a <;> simp only [isScalar, Bool.false_eq_true] at left <;>
        simp [beq_eq_equals, equals, canonical]

theorem beq_scalar_iff {a b : FieldValue} (left : a.isScalar = true) (right : b.WellFormed) :
    (b == a) = true ↔ a.canonical = b.canonical := by
  cases right with
  | scalar right => rw [scalar_beq_iff right (.scalar left), eq_comm]
  | _ =>
      cases a <;> simp only [isScalar, Bool.false_eq_true] at left <;>
        simp [beq_eq_equals, equals, canonical]

theorem isScalar_of_beq {a b : FieldValue} (left : a.isScalar = true) (right : b.WellFormed)
    (same : (a == b) = true) : b.isScalar = true := by
  cases right with
  | scalar right => exact right
  | _ =>
      cases a <;> simp only [isScalar, Bool.false_eq_true] at left <;>
        simp [beq_eq_equals, equals] at same

abbrev Coherent (a : FieldValue) : Prop :=
  Matching.Coherent WellFormed (fun b c => (b == c) = true) a

theorem coherent_scalar {a : FieldValue} (scalar : a.isScalar = true) : a.Coherent where
  refl := (scalar_beq_iff scalar (.scalar scalar)).mpr rfl
  symm b formed := by rw [scalar_beq_iff scalar formed, beq_scalar_iff scalar formed]
  left b c formedB formedC same := by
    have scalarB := isScalar_of_beq scalar formedB same
    rw [scalar_beq_iff scalar formedB] at same
    rw [scalar_beq_iff scalarB formedC, scalar_beq_iff scalar formedC, same]
  right b c formedB formedC same := by
    have scalarB := isScalar_of_beq scalar formedB same
    rw [scalar_beq_iff scalar formedB] at same
    rw [beq_scalar_iff scalarB formedC, beq_scalar_iff scalar formedC, same]

theorem coherent_items {items : List FieldValue} (coherent : ∀ item ∈ items, item.Coherent) :
    Matching.Coherent (fun others => ∀ other ∈ others, WellFormed other)
      (fun bs cs => equalItems bs cs = true) items := by
  induction items with
  | nil =>
      constructor
      · rfl
      · intro bs _
        cases bs <;> simp [equalItems]
      · intro bs cs _ _ same
        cases bs <;> simp_all [equalItems]
      · intro bs cs _ _ same
        cases bs <;> simp_all [equalItems]
  | cons a as ih =>
      have head := coherent a List.mem_cons_self
      have tail := ih fun other member => coherent other (List.mem_cons_of_mem _ member)
      constructor
      · simp only [equalItems, Bool.and_eq_true]
        exact ⟨head.refl, tail.refl⟩
      · intro bs formed
        cases bs with
        | nil => simp [equalItems]
        | cons b bs =>
            simp only [List.mem_cons, forall_eq_or_imp] at formed
            simp only [equalItems, Bool.and_eq_true]
            exact and_congr (head.symm b formed.1) (tail.symm bs formed.2)
      · intro bs cs formedB formedC same
        cases bs with
        | nil => simp [equalItems] at same
        | cons b bs =>
            cases cs with
            | nil => simp [equalItems]
            | cons c cs =>
                simp only [List.mem_cons, forall_eq_or_imp] at formedB formedC
                simp only [equalItems, Bool.and_eq_true] at same ⊢
                exact and_congr (head.left b c formedB.1 formedC.1 same.1)
                  (tail.left bs cs formedB.2 formedC.2 same.2)
      · intro bs cs formedB formedC same
        cases bs with
        | nil => simp [equalItems] at same
        | cons b bs =>
            cases cs with
            | nil => simp [equalItems]
            | cons c cs =>
                simp only [List.mem_cons, forall_eq_or_imp] at formedB formedC
                simp only [equalItems, Bool.and_eq_true] at same ⊢
                exact and_congr (head.right b c formedB.1 formedC.1 same.1)
                  (tail.right bs cs formedB.2 formedC.2 same.2)

theorem coherent_entry {entry : FieldValue × FieldValue} (key : entry.1.Coherent)
    (value : entry.2.Coherent) :
    Matching.Coherent (fun other => WellFormed other.1 ∧ WellFormed other.2) SameEntry entry where
  refl := ⟨key.refl, value.refl⟩
  symm b formed := and_congr (key.symm b.1 formed.1) (value.symm b.2 formed.2)
  left b c formedB formedC same := and_congr (key.left b.1 c.1 formedB.1 formedC.1 same.1)
    (value.left b.2 c.2 formedB.2 formedC.2 same.2)
  right b c formedB formedC same := and_congr (key.right b.1 c.1 formedB.1 formedC.1 same.1)
    (value.right b.2 c.2 formedB.2 formedC.2 same.2)

/-- Coherence of a payload carries over to the value around it, when well-formed values of another
form never equal one of this form. -/
theorem coherent_around {α : Type} {around : α → FieldValue} {good : α → Prop}
    {related : α → α → Prop} {a : α} (coherent : Matching.Coherent good related a)
    (beq_iff : ∀ b c, (around b == around c) = true ↔ related b c)
    (forms : ∀ value : FieldValue, value.WellFormed → (∃ b, value = around b ∧ good b) ∨
      ∀ b, ¬(around b == value) = true ∧ ¬(value == around b) = true) : (around a).Coherent where
  refl := (beq_iff a a).mpr coherent.refl
  symm value formed := by
    rcases forms value formed with ⟨b, rfl, goodB⟩ | other
    · rw [beq_iff, beq_iff]
      exact coherent.symm b goodB
    · exact iff_of_false (other a).1 (other a).2
  left value third formed formedThird same := by
    rcases forms value formed with ⟨b, rfl, goodB⟩ | other
    · rw [beq_iff] at same
      rcases forms third formedThird with ⟨c, rfl, goodC⟩ | other
      · rw [beq_iff, beq_iff]
        exact coherent.left b c goodB goodC same
      · exact iff_of_false (other b).1 (other a).1
    · exact absurd same (other a).1
  right value third formed formedThird same := by
    rcases forms value formed with ⟨b, rfl, goodB⟩ | other
    · rw [beq_iff] at same
      rcases forms third formedThird with ⟨c, rfl, goodC⟩ | other
      · rw [beq_iff, beq_iff]
        exact coherent.right b c goodB goodC same
      · exact iff_of_false (other b).2 (other a).2
    · exact absurd same (other a).1

theorem scalar_ne_collection {a b : FieldValue} (scalar : a.isScalar = true)
    (collection : b.isSingle = false) : ¬(b == a) = true ∧ ¬(a == b) = true := by
  cases b <;> simp only [isSingle, Bool.true_eq_false] at collection <;>
    cases a <;> simp_all [isScalar, beq_eq_equals, equals]

theorem WellFormed.coherent {value : FieldValue} (formed : value.WellFormed) : value.Coherent := by
  induction formed with
  | scalar scalar => exact coherent_scalar scalar
  | list _ ih =>
      apply coherent_around (coherent_items ih) fun bs cs => by rw [list_beq]
      intro value formed
      cases formed with
      | @list others formed => exact Or.inl ⟨others, rfl, formed⟩
      | scalar scalar => exact Or.inr fun _ => scalar_ne_collection scalar rfl
      | _ => exact Or.inr fun _ => by simp [beq_eq_equals, equals]
  | set items distinct ih =>
      apply coherent_around (Matching.Coherent.matched (fun item member => (ih item member).flip)
        ⟨items, distinct⟩) set_beq_iff
      intro value formed
      cases formed with
      | @set others formed distinct => exact Or.inl ⟨others, rfl, formed, distinct⟩
      | scalar scalar => exact Or.inr fun _ => scalar_ne_collection scalar rfl
      | _ => exact Or.inr fun _ => by simp [beq_eq_equals, equals]
  | @map entries keys values distinct keysIh valuesIh =>
      have entryCoherent : ∀ entry ∈ entries,
          Matching.Coherent (fun other => WellFormed other.1 ∧ WellFormed other.2)
            SameEntry entry :=
        fun entry member => coherent_entry (keysIh entry member) (valuesIh entry member)
      -- Distinct keys make distinct entries, which is all that the matching needs.
      have entryDistinct : entries.Pairwise fun entry other => ¬SameEntry entry other :=
        distinct.imp fun different same => different same.1
      apply coherent_around (Matching.Coherent.matched entryCoherent
        ⟨fun entry member => ⟨keys entry member, values entry member⟩, entryDistinct⟩) map_beq_iff
      intro value formed
      cases formed with
      | @map others keys values distinct =>
          exact Or.inl ⟨others, rfl, fun entry member => ⟨keys entry member, values entry member⟩,
            distinct.imp fun different same => different same.1⟩
      | scalar scalar => exact Or.inr fun _ => scalar_ne_collection scalar rfl
      | _ => exact Or.inr fun _ => by simp [beq_eq_equals, equals]

theorem WellFormed.refl {a : FieldValue} (formed : a.WellFormed) : (a == a) = true :=
  formed.coherent.refl

theorem WellFormed.symm {a b : FieldValue} (left : a.WellFormed) (right : b.WellFormed) :
    (a == b) = true ↔ (b == a) = true :=
  left.coherent.symm b right

theorem WellFormed.trans {a b c : FieldValue} (first : a.WellFormed) (second : b.WellFormed)
    (third : c.WellFormed) (left : (a == b) = true) (right : (b == c) = true) : (a == c) = true :=
  (first.coherent.left b c second third left).mp right

theorem isSingle_eq_of_beq {a b : FieldValue} (same : (a == b) = true) :
    a.isSingle = b.isSingle := by
  cases a <;> cases b <;> first | rfl | cases same

theorem isScalar_of_same {a b : FieldValue} (single : a.isSingle = true)
    (same : (a == b) = true) : a.isScalar = true ∧ b.isScalar = true := by
  cases a with
  | object a =>
      cases b with
      | object b => exact Json.proper_of_same a b same
      | _ => cases same
  | list _ | set _ | map _ => cases single
  | _ => cases b <;> first | exact ⟨rfl, rfl⟩ | cases same

structure Chains (a : FieldValue) : Prop where
  left : ∀ b c : FieldValue, (a == b) = true → (b == c) = true → (a == c) = true
  right : ∀ b c : FieldValue, (c == b) = true → (b == a) = true → (c == a) = true

theorem chains_single {a : FieldValue} (single : a.isSingle = true) : a.Chains := by
  have chain {x y z : FieldValue} (single : x.isSingle = true) (first : (x == y) = true)
      (second : (y == z) = true) : (x == z) = true := by
    obtain ⟨scalarX, scalarY⟩ := isScalar_of_same single first
    obtain ⟨_, scalarZ⟩ := isScalar_of_same (isSingle_eq_of_beq first ▸ single) second
    rw [scalar_beq_iff scalarX (.scalar scalarY)] at first
    rw [scalar_beq_iff scalarY (.scalar scalarZ)] at second
    exact (scalar_beq_iff scalarX (.scalar scalarZ)).mpr (first.trans second)
  constructor
  · intro b c first second
    exact chain single first second
  · intro b c first second
    have alike := (isSingle_eq_of_beq first).trans (isSingle_eq_of_beq second)
    exact chain (alike ▸ single) first second

theorem equalItems_chain {as bs cs : List FieldValue}
    (chain : ∀ a ∈ as, ∀ c ∈ cs, ∀ b : FieldValue,
      (a == b) = true → (b == c) = true → (a == c) = true)
    (first : equalItems as bs = true) (second : equalItems bs cs = true) :
    equalItems as cs = true := by
  induction as generalizing bs cs with
  | nil =>
      cases bs with
      | nil => exact second
      | cons _ _ => cases first
  | cons a as ih =>
      cases bs with
      | nil => cases first
      | cons b bs =>
          cases cs with
          | nil => cases second
          | cons c cs =>
              simp only [equalItems, Bool.and_eq_true] at first second ⊢
              refine ⟨chain a List.mem_cons_self c List.mem_cons_self b first.1 second.1, ?_⟩
              refine ih (fun other member last belongs => ?_) first.2 second.2
              exact chain other (List.mem_cons_of_mem _ member) last
                (List.mem_cons_of_mem _ belongs)

/-- Chaining carries over from the contents of values of one form to the values. -/
theorem chains_around {α : Type} {around : α → FieldValue} {related : α → α → Prop} {a : α}
    (beq_iff : ∀ b c, (around b == around c) = true ↔ related b c)
    (form : ∀ b value, (around b == value) = true ∨ (value == around b) = true →
      ∃ c, value = around c)
    (left : ∀ b c, related a b → related b c → related a c)
    (right : ∀ b c, related c b → related b a → related c a) : (around a).Chains := by
  constructor
  · intro b c first second
    obtain ⟨b, rfl⟩ := form a b (.inl first)
    obtain ⟨c, rfl⟩ := form b c (.inl second)
    rw [beq_iff] at first second ⊢
    exact left b c first second
  · intro b c first second
    obtain ⟨b, rfl⟩ := form a b (.inr second)
    obtain ⟨c, rfl⟩ := form b c (.inr first)
    rw [beq_iff] at first second ⊢
    exact right b c first second

theorem chains (a : FieldValue) : a.Chains := by
  induction a using nested_induction with
  | single a single => exact chains_single single
  | list as ih =>
      refine chains_around (fun bs cs => by rw [list_beq]) ?_ ?_ ?_
      · intro bs value same
        cases value <;> first | exact ⟨_, rfl⟩ | (rcases same with same | same <;> cases same)
      · exact fun bs cs => equalItems_chain fun a member c _ b => (ih a member).left b c
      · exact fun bs cs => equalItems_chain fun c _ a member b => (ih a member).right b c
  | set as ih =>
      refine chains_around set_beq_iff ?_ ?_ ?_
      · intro bs value same
        cases value <;> first | exact ⟨_, rfl⟩ | (rcases same with same | same <;> cases same)
      -- Elements are compared the other way round than their sets.
      · exact fun bs cs => Matching.Matched.chain fun a member c _ b first second =>
          (ih a member).right b c second first
      · exact fun bs cs => Matching.Matched.chain fun c _ a member b first second =>
          (ih a member).left b c second first
  | map as ih =>
      refine chains_around map_beq_iff ?_ ?_ ?_
      · intro bs value same
        cases value <;> first | exact ⟨_, rfl⟩ | (rcases same with same | same <;> cases same)
      · exact fun bs cs => Matching.Matched.chain fun a member c _ b first second =>
          ⟨(ih a member).1.left b.1 c.1 first.1 second.1,
            (ih a member).2.left b.2 c.2 first.2 second.2⟩
      · exact fun bs cs => Matching.Matched.chain fun c _ a member b first second =>
          ⟨(ih a member).1.right b.1 c.1 first.1 second.1,
            (ih a member).2.right b.2 c.2 first.2 second.2⟩

/-- Equality is transitive on all values. It need not be symmetric on those that repeat an element
or a key. -/
theorem beq_trans {a b c : FieldValue} (first : (a == b) = true) (second : (b == c) = true) :
    (a == c) = true :=
  a.chains.left b c first second

end FieldValue

end CqlMapper

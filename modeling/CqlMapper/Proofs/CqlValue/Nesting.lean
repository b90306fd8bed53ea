import CqlMapper.CqlValue.Basic
import CqlMapper.Text.Basic
import Mathlib.Data.List.Basic

/-! How deep values of the store are nested, and whether all their lengths can be written. -/

namespace CqlMapper

namespace CqlValue

def isSingle : CqlValue → Bool
  | .list _ | .set _ | .map _ => false
  | _ => true

theorem nested_induction {motive : CqlValue → Prop}
    (single : ∀ value : CqlValue, value.isSingle = true → motive value)
    (list : ∀ items, (∀ item ∈ items, motive item) → motive (.list items))
    (set : ∀ items, (∀ item ∈ items, motive item) → motive (.set items))
    (map : ∀ entries, (∀ entry ∈ entries, motive entry.1 ∧ motive entry.2) →
      motive (.map entries)) (value : CqlValue) : motive value := by
  cases value with
  | list items =>
      apply list
      intro item member
      exact nested_induction single list set map item
  | set items =>
      apply set
      intro item member
      exact nested_induction single list set map item
  | map entries =>
      apply map
      intro entry member
      exact ⟨nested_induction single list set map entry.1,
        nested_induction single list set map entry.2⟩
  | _ => exact single _ rfl
termination_by value
decreasing_by
  · have := List.sizeOf_lt_of_mem member
    simp only [CqlValue.list.sizeOf_spec]
    omega
  · have := List.sizeOf_lt_of_mem member
    simp only [CqlValue.set.sizeOf_spec]
    omega
  all_goals
    have := List.sizeOf_lt_of_mem member
    obtain ⟨key, item⟩ := entry
    simp only [CqlValue.map.sizeOf_spec, Prod.mk.sizeOf_spec] at this ⊢
    omega

mutual

/-- How many arrays stand inside one another in the written form. An entry of a map is one too. -/
def depth : CqlValue → Nat
  | .blob _ => 1
  | .list items | .set items => itemsDepth items + 1
  | .map entries => entriesDepth entries + 1
  | _ => 0
termination_by structural value => value

def itemsDepth : List CqlValue → Nat
  | [] => 0
  | item :: rest => max item.depth (itemsDepth rest)
termination_by structural items => items

def entriesDepth : List (CqlValue × CqlValue) → Nat
  | [] => 0
  | (key, value) :: rest => max (max key.depth value.depth + 1) (entriesDepth rest)
termination_by structural entries => entries

end

theorem itemsDepth_le {items : List CqlValue} {depth : Nat} :
    itemsDepth items ≤ depth ↔ ∀ item ∈ items, item.depth ≤ depth := by
  induction items with
  | nil => simp [itemsDepth]
  | cons item rest ih =>
      rw [itemsDepth, List.forall_mem_cons, ← ih]
      omega

theorem entriesDepth_le {entries : List (CqlValue × CqlValue)} {depth : Nat} :
    entriesDepth entries ≤ depth ↔
      ∀ entry ∈ entries, entry.1.depth < depth ∧ entry.2.depth < depth := by
  induction entries with
  | nil => simp [entriesDepth]
  | cons entry rest ih =>
      obtain ⟨key, value⟩ := entry
      rw [entriesDepth, List.forall_mem_cons, ← ih]
      dsimp only
      omega

mutual

/-- Whether every length in a value can be written with the 32 bits there are for it. -/
def Expressible : CqlValue → Prop
  | .text value => (Text.utf8Bytes value).length < UInt32.size
  | .blob value => value.length < UInt32.size
  | .list items | .set items => items.length < UInt32.size ∧ AllExpressible items
  | .map entries => entries.length < UInt32.size ∧ EntriesExpressible entries
  | _ => True
termination_by structural value => value

def AllExpressible : List CqlValue → Prop
  | [] => True
  | item :: rest => item.Expressible ∧ AllExpressible rest
termination_by structural items => items

def EntriesExpressible : List (CqlValue × CqlValue) → Prop
  | [] => True
  | (key, value) :: rest => key.Expressible ∧ value.Expressible ∧ EntriesExpressible rest
termination_by structural entries => entries

end

theorem allExpressible_iff {items : List CqlValue} :
    AllExpressible items ↔ ∀ item ∈ items, item.Expressible := by
  induction items with
  | nil => simp [AllExpressible]
  | cons item rest ih => simp [AllExpressible, ih]

theorem entriesExpressible_iff {entries : List (CqlValue × CqlValue)} :
    EntriesExpressible entries ↔
      ∀ entry ∈ entries, entry.1.Expressible ∧ entry.2.Expressible := by
  induction entries with
  | nil => simp [EntriesExpressible]
  | cons entry rest ih => simp [EntriesExpressible, ih, and_assoc]

end CqlValue

end CqlMapper

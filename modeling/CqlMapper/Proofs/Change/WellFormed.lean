import CqlMapper.Proofs.Change.Replay

/-!
Changes that carry well-formed values. They keep the value of their property well formed, and
merging makes no others of them.
-/

namespace CqlMapper

open FieldValue

namespace FieldValue

theorem allFormed_append {items others : List FieldValue} :
    AllFormed (items ++ others) ↔ AllFormed items ∧ AllFormed others := by
  simp only [AllFormed, List.mem_append, or_imp, forall_and]

theorem allFormed_cons {item : FieldValue} {items : List FieldValue} :
    AllFormed (item :: items) ↔ item.WellFormed ∧ AllFormed items := by
  simp [AllFormed]

theorem WellFormed.onList {value : FieldValue} {operation : List FieldValue → List FieldValue}
    (formed : value.WellFormed)
    (kept : ∀ items, AllFormed items → AllFormed (operation items)) :
    (value.onList operation).WellFormed := by
  cases value with
  | null => exact .list (kept [] (by simp [AllFormed]))
  | list items => exact .list (kept items formed.items_of_list)
  | _ => exact formed

theorem WellFormed.onSet {value : FieldValue} {operation : List FieldValue → List FieldValue}
    (formed : value.WellFormed)
    (kept : ∀ items, AllFormed items → Distinct items →
      AllFormed (operation items) ∧ Distinct (operation items)) :
    (value.onSet operation).WellFormed := by
  cases value with
  | null =>
      obtain ⟨all, distinct⟩ := kept [] (by simp [AllFormed]) List.Pairwise.nil
      exact .set all distinct
  | set items =>
      obtain ⟨all, distinct⟩ := kept items formed.items_of_set.1 formed.items_of_set.2
      exact .set all distinct
  | _ => exact formed

theorem WellFormed.onMap {value : FieldValue}
    {operation : List (FieldValue × FieldValue) → List (FieldValue × FieldValue)}
    (formed : value.WellFormed)
    (kept : ∀ entries, FormedEntries entries → FormedEntries (operation entries)) :
    (value.onMap operation).WellFormed := by
  cases value with
  | null =>
      have nothing : FormedEntries [] :=
        ⟨by simp [AllFormed, keys], by simp [AllFormed], List.Pairwise.nil⟩
      exact wellFormed_map_iff.mpr (kept [] nothing)
  | map entries => exact wellFormed_map_iff.mpr (kept entries (wellFormed_map_iff.mp formed))
  | _ => exact formed

theorem addAll_formed {items : List FieldValue} (values : List FieldValue)
    (valuesFormed : AllFormed values) (formed : AllFormed items) (distinct : Distinct items) :
    AllFormed (values.foldl addNew items) ∧ Distinct (values.foldl addNew items) := by
  refine List.foldlRecOn (motive := fun items => AllFormed items ∧ Distinct items) values _
    ⟨formed, distinct⟩ ?_
  rintro items ⟨formed, distinct⟩ value member
  have valueFormed := valuesFormed value member
  exact ⟨formed.addNew valueFormed, distinct.addNew formed valueFormed⟩

theorem removeAll_formed {items : List FieldValue} (values : List FieldValue)
    (formed : AllFormed items) (distinct : Distinct items) :
    AllFormed (values.foldl without items) ∧ Distinct (values.foldl without items) := by
  refine List.foldlRecOn (motive := fun items => AllFormed items ∧ Distinct items) values _
    ⟨formed, distinct⟩ ?_
  rintro items ⟨formed, distinct⟩ value _
  exact ⟨formed.without value, distinct.without value⟩

theorem FormedEntries.putAll {kept : List (FieldValue × FieldValue)} (formed : FormedEntries kept)
    (entries : List (FieldValue × FieldValue))
    (entriesFormed : ∀ entry ∈ entries, entry.1.WellFormed ∧ entry.2.WellFormed) :
    FormedEntries (putAll entries kept) := by
  refine List.foldlRecOn (motive := FormedEntries) entries _ formed ?_
  intro kept formed entry member
  obtain ⟨key, value⟩ := entriesFormed entry member
  exact formed.putEntry key value

theorem FormedEntries.dropAll {kept : List (FieldValue × FieldValue)} (formed : FormedEntries kept)
    (keys : List FieldValue) : FormedEntries (keys.foldl FieldValue.withoutKey kept) :=
  List.foldlRecOn (motive := FormedEntries) keys _ formed fun _ formed key _ =>
    formed.withoutKey key

end FieldValue

namespace Change

def WellFormed : Change → Prop
  | .assign value | .setAt _ value => value.WellFormed
  | .addToSet values | .removeFromSet values | .append values | .prepend values
  | .removeFromMap values => AllFormed values
  | .putToMap entries => ∀ entry ∈ entries, entry.1.WellFormed ∧ entry.2.WellFormed
  | .removeAt _ | .clear => True

theorem WellFormed.applyTo {change : Change} {value : FieldValue} (carried : change.WellFormed)
    (formed : value.WellFormed) : (change.applyTo value).WellFormed := by
  cases change with
  | assign new => exact carried
  | addToSet values => exact formed.onSet fun items => addAll_formed values carried
  | removeFromSet values => exact formed.onSet fun items => removeAll_formed values
  | append values => exact formed.onList fun items all => allFormed_append.mpr ⟨all, carried⟩
  | prepend values => exact formed.onList fun items all => allFormed_append.mpr ⟨carried, all⟩
  | setAt index new =>
      refine formed.onList fun items all item member => ?_
      rcases List.mem_or_eq_of_mem_set member with old | rfl
      · exact all item old
      · exact carried
  | removeAt index =>
      exact formed.onList fun items all item member => all item (List.mem_of_mem_eraseIdx member)
  | putToMap entries => exact formed.onMap fun kept all => all.putAll entries carried
  | removeFromMap keys => exact formed.onMap fun kept all => all.dropAll keys
  | clear => exact .scalar rfl

theorem applyAll_wellFormed {changes : List Change} {value : FieldValue}
    (carried : ∀ change ∈ changes, change.WellFormed) (formed : value.WellFormed) :
    (applyAll changes value).WellFormed :=
  List.foldlRecOn (motive := FieldValue.WellFormed) changes _ formed fun _ formed change member =>
    (carried change member).applyTo formed

end Change

namespace MergedChanges

variable {Holds : Change → Prop}

theorem forall_mem_unlessEmpty {α : Type} {made : List α → Change} {payload : List α}
    (holds : payload ≠ [] → Holds (made payload)) :
    ∀ change ∈ unlessEmpty made payload, Holds change := by
  cases payload with
  | nil => exact List.forall_mem_nil _
  | cons first rest => exact List.forall_mem_singleton.mpr (holds (List.cons_ne_nil _ _))

theorem forall_mem_changes {merged : MergedChanges}
    (listChanges : ∀ change ∈ merged.listChanges, Holds change)
    (added : merged.added ≠ [] → Holds (.addToSet merged.added))
    (removed : merged.removed ≠ [] → Holds (.removeFromSet merged.removed))
    (put : merged.put ≠ [] → Holds (.putToMap merged.put))
    (dropped : merged.dropped ≠ [] → Holds (.removeFromMap merged.dropped)) :
    ∀ change ∈ merged.changes, Holds change := by
  simp only [changes, List.forall_mem_append]
  exact ⟨⟨⟨⟨listChanges, forall_mem_unlessEmpty added⟩, forall_mem_unlessEmpty removed⟩,
    forall_mem_unlessEmpty put⟩, forall_mem_unlessEmpty dropped⟩

end MergedChanges

namespace Change

variable {changes : List Change}

theorem mem_of_mem_sinceLastClear {change : Change} (member : change ∈ sinceLastClear changes) :
    change ∈ changes := by
  rw [sinceLastClear, List.mem_reverse] at member
  exact List.mem_reverse.mp ((List.takeWhile_sublist _).mem member)

/-- Merging keeps to what holds of every change, if each step keeps what it is made from to it. -/
theorem forall_mem_mergeAll {Holds : Change → Prop} {Kept : MergedChanges → Prop}
    (each : ∀ change ∈ changes, Holds change) (clear : Holds .clear) (empty : Kept .empty)
    (step : ∀ {merged : MergedChanges} {change : Change},
      Kept merged → Holds change → Kept (merged.step change))
    (made : ∀ {merged : MergedChanges}, Kept merged → ∀ change ∈ merged.changes, Holds change) :
    ∀ change ∈ mergeAll changes, Holds change := by
  unfold mergeAll
  cases last : lastAssign? changes with
  | some assignment =>
      have observed := List.mem_reverse.mp (List.mem_of_find?_eq_some last)
      exact List.forall_mem_singleton.mpr (each assignment observed)
  | none =>
      have kept : Kept ((sinceLastClear changes).foldl MergedChanges.step .empty) :=
        List.foldlRecOn (motive := Kept) (sinceLastClear changes) _ empty
          fun _ before change later => step before (each change (mem_of_mem_sinceLastClear later))
      refine List.forall_mem_append.mpr ⟨?_, made kept⟩
      split
      · exact List.forall_mem_singleton.mpr clear
      · exact List.forall_mem_nil _

end Change

structure MergedChanges.WellFormed (merged : MergedChanges) : Prop where
  listChanges : ∀ change ∈ merged.listChanges, change.WellFormed
  added : AllFormed merged.added
  removed : AllFormed merged.removed
  put : FormedEntries merged.put
  dropped : AllFormed merged.dropped

namespace MergedChanges

variable {merged : MergedChanges}

theorem WellFormed.add {value : FieldValue} (formed : merged.WellFormed)
    (valueFormed : value.WellFormed) : (add merged value).WellFormed :=
  { listChanges := formed.listChanges, put := formed.put, dropped := formed.dropped,
    added := formed.added.addNew valueFormed, removed := formed.removed.without value }

theorem WellFormed.remove {value : FieldValue} (formed : merged.WellFormed)
    (valueFormed : value.WellFormed) : (remove merged value).WellFormed :=
  { listChanges := formed.listChanges, put := formed.put, dropped := formed.dropped,
    added := formed.added.without value, removed := formed.removed.addNew valueFormed }

theorem WellFormed.putEntry {entry : FieldValue × FieldValue} (formed : merged.WellFormed)
    (entryFormed : entry.1.WellFormed ∧ entry.2.WellFormed) : (putEntry merged entry).WellFormed :=
  { listChanges := formed.listChanges, added := formed.added, removed := formed.removed,
    put := formed.put.putEntry entryFormed.1 entryFormed.2,
    dropped := formed.dropped.without entry.1 }

theorem WellFormed.dropKey {key : FieldValue} (formed : merged.WellFormed)
    (keyFormed : key.WellFormed) : (dropKey merged key).WellFormed :=
  { listChanges := formed.listChanges, added := formed.added, removed := formed.removed,
    put := formed.put.withoutKey key, dropped := formed.dropped.addNew keyFormed }

theorem WellFormed.step {change : Change} (formed : merged.WellFormed)
    (carried : change.WellFormed) : (step merged change).WellFormed := by
  have noted : { merged with listChanges := merged.listChanges ++ [change] }.WellFormed :=
    { formed with
      listChanges := by
        intro other member
        rcases List.mem_append.mp member with old | new
        · exact formed.listChanges other old
        · rw [List.mem_singleton.mp new]
          exact carried }
  cases change with
  | addToSet values =>
      exact List.foldlRecOn (motive := WellFormed) values _ formed fun _ formed value member =>
        formed.add (carried value member)
  | removeFromSet values =>
      exact List.foldlRecOn (motive := WellFormed) values _ formed fun _ formed value member =>
        formed.remove (carried value member)
  | putToMap entries =>
      exact List.foldlRecOn (motive := WellFormed) entries _ formed fun _ formed entry member =>
        formed.putEntry (carried entry member)
  | removeFromMap keys =>
      exact List.foldlRecOn (motive := WellFormed) keys _ formed fun _ formed key member =>
        formed.dropKey (carried key member)
  | _ => exact noted

theorem WellFormed.changes (formed : merged.WellFormed) :
    ∀ change ∈ merged.changes, change.WellFormed := by
  have put : (Change.putToMap merged.put).WellFormed := fun entry belongs =>
    ⟨allFormed_map.mp formed.put.keys entry belongs,
      allFormed_map.mp formed.put.values entry belongs⟩
  exact forall_mem_changes formed.listChanges (fun _ => formed.added) (fun _ => formed.removed)
    (fun _ => put) fun _ => formed.dropped

theorem wellFormed_empty : empty.WellFormed where
  listChanges := by simp [empty]
  added := by simp [empty, AllFormed]
  removed := by simp [empty, AllFormed]
  put := ⟨by simp [empty, AllFormed, keys], by simp [empty, AllFormed], List.Pairwise.nil⟩
  dropped := by simp [empty, AllFormed]

end MergedChanges

theorem Change.mergeAll_wellFormed {changes : List Change}
    (carried : ∀ change ∈ changes, change.WellFormed) :
    ∀ change ∈ mergeAll changes, change.WellFormed :=
  forall_mem_mergeAll carried trivial MergedChanges.wellFormed_empty
    MergedChanges.WellFormed.step MergedChanges.WellFormed.changes

end CqlMapper

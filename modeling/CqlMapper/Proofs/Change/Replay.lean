import CqlMapper.Change.Merge
import CqlMapper.Interceptor
import CqlMapper.Proofs.FieldValue.Agreement

/-!
What changes mean: the effect of each on the value of its property, and the replay of a list of
changes on the values of an entity. Replay treats every property on its own.
-/

namespace CqlMapper

namespace FieldValue

def onList (value : FieldValue) (operation : List FieldValue → List FieldValue) : FieldValue :=
  match value.listItems? with
  | some items => .list (operation items)
  | none => value

def onSet (value : FieldValue) (operation : List FieldValue → List FieldValue) : FieldValue :=
  match value.setItems? with
  | some items => .set (operation items)
  | none => value

def onMap (value : FieldValue)
    (operation : List (FieldValue × FieldValue) → List (FieldValue × FieldValue)) : FieldValue :=
  match value.mapEntries? with
  | some entries => .map (operation entries)
  | none => value

end FieldValue

namespace Change

/-- The value of a property after a change. An operation on another kind of value has no effect,
and neither has one at an index beyond the end. -/
def applyTo (change : Change) (value : FieldValue) : FieldValue :=
  match change with
  | .assign new => new
  | .addToSet values => value.onSet fun items => values.foldl FieldValue.addNew items
  | .removeFromSet values => value.onSet fun items => values.foldl FieldValue.without items
  | .append values => value.onList fun items => items ++ values
  | .prepend values => value.onList fun items => values ++ items
  | .setAt index new => value.onList fun items => items.set index new
  | .removeAt index => value.onList fun items => items.eraseIdx index
  | .putToMap entries => value.onMap fun kept =>
      entries.foldl (fun kept entry => FieldValue.putEntry entry.1 entry.2 kept) kept
  | .removeFromMap keys => value.onMap fun kept => keys.foldl FieldValue.withoutKey kept
  | .clear => .null

def applyAll (changes : List Change) (value : FieldValue) : FieldValue :=
  changes.foldl (fun value change => change.applyTo value) value

@[simp] theorem applyAll_nil (value : FieldValue) : applyAll [] value = value :=
  rfl

@[simp] theorem applyAll_cons (change : Change) (changes : List Change) (value : FieldValue) :
    applyAll (change :: changes) value = applyAll changes (change.applyTo value) :=
  rfl

theorem applyAll_append (front back : List Change) (value : FieldValue) :
    applyAll (front ++ back) value = applyAll back (applyAll front value) := by
  simp [applyAll, List.foldl_append]

end Change

namespace Fields

def value (fields : Fields) (property : String) : FieldValue :=
  (fields property).getD .null

theorem value_set_same (fields : Fields) (property : String) (new : FieldValue) :
    (fields.set property new).value property = new := by
  simp [value, set]

theorem value_set_other (fields : Fields) {property other : String} (new : FieldValue)
    (different : other ≠ property) :
    (fields.set property new).value other = fields.value other := by
  simp [value, set, different]

end Fields

namespace PropertyChange

def replay (changes : List PropertyChange) (fields : Fields) : Fields :=
  changes.foldl (fun fields change =>
    fields.set change.property (change.change.applyTo (fields.value change.property))) fields

@[simp] theorem changesOf_nil (property : String) : changesOf property [] = [] :=
  rfl

@[simp] theorem changesOf_append (property : String) (front back : List PropertyChange) :
    changesOf property (front ++ back) = changesOf property front ++ changesOf property back := by
  simp [changesOf]

@[simp] theorem changesOf_cons (property : String) (change : PropertyChange)
    (changes : List PropertyChange) :
    changesOf property (change :: changes) =
      if change.property = property then change.change :: changesOf property changes
      else changesOf property changes := by
  by_cases same : change.property = property <;> simp [changesOf, same]

theorem changesOf_map (property other : String) (changes : List Change) :
    changesOf property (changes.map fun change => ⟨other, change⟩) =
      if other = property then changes else [] := by
  induction changes with
  | nil => simp [changesOf_nil]
  | cons change changes ih =>
      rw [List.map_cons, changesOf_cons, ih]
      split <;> rfl

/-- The final value of a property depends on its own changes only. -/
theorem value_replay (changes : List PropertyChange) (fields : Fields) (property : String) :
    (replay changes fields).value property =
      Change.applyAll (changesOf property changes) (fields.value property) := by
  induction changes generalizing fields with
  | nil => rfl
  | cons change changes ih =>
      rw [changesOf_cons]
      change (replay changes (fields.set change.property _)).value property = _
      rw [ih]
      split
      · rename_i same
        subst property
        rw [Fields.value_set_same, Change.applyAll_cons]
      · rename_i different
        rw [Fields.value_set_other _ _ (Ne.symm different)]

theorem mem_distinctNames (name : String) (names : List String) :
    name ∈ distinctNames names ↔ name ∈ names := by
  induction names with
  | nil => rfl
  | cons first names ih =>
      simp only [distinctNames, List.mem_cons, List.mem_filter, ih, bne_iff_ne]
      constructor
      · rintro (same | ⟨member, _⟩)
        · exact Or.inl same
        · exact Or.inr member
      · rintro (same | member)
        · exact Or.inl same
        · by_cases same : name = first
          · exact Or.inl same
          · exact Or.inr ⟨member, same⟩

theorem nodup_distinctNames (names : List String) : (distinctNames names).Nodup := by
  induction names with
  | nil => exact List.nodup_nil
  | cons first names ih =>
      refine List.nodup_cons.mpr ⟨?_, ih.sublist List.filter_sublist⟩
      simp

theorem changesOf_eq_nil {property : String} {changes : List PropertyChange}
    (absent : property ∉ changes.map (·.property)) : changesOf property changes = [] := by
  induction changes with
  | nil => rfl
  | cons change changes ih =>
      simp only [List.map_cons, List.mem_cons, not_or] at absent
      rw [changesOf_cons, if_neg (Ne.symm absent.1), ih absent.2]

theorem changesOf_flatMap (property : String) (names : List String) (unique : names.Nodup)
    (made : String → List Change) :
    changesOf property (names.flatMap fun name => (made name).map fun change => ⟨name, change⟩) =
      if property ∈ names then made property else [] := by
  induction names with
  | nil => rfl
  | cons name names ih =>
      have parts := List.nodup_cons.mp unique
      rw [List.flatMap_cons, changesOf_append, changesOf_map, ih parts.2]
      by_cases same : name = property
      · subst name
        simp [parts.1]
      · simp [same, Ne.symm same]

theorem changesOf_merge (property : String) (changes : List PropertyChange) :
    changesOf property (merge changes) = Change.mergeAll (changesOf property changes) := by
  rw [merge, changesOf_flatMap property _ (nodup_distinctNames _)
    fun name => Change.mergeAll (changesOf name changes)]
  split
  · rfl
  · rename_i absent
    rw [mem_distinctNames] at absent
    rw [changesOf_eq_nil absent]
    rfl

end PropertyChange

end CqlMapper

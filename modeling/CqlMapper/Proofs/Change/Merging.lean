import CqlMapper.Proofs.Change.Replay

/-!
Merging preserves meaning: replaying merged changes gives every property the contents that
replaying the observed changes gives it. The invariant for sets and maps is that what is added and
what is removed stay apart, so that additions may be made before removals.
-/

namespace CqlMapper

namespace FieldValue

theorem setItems?_onSet (value : FieldValue) (operation : List FieldValue → List FieldValue) :
    (value.onSet operation).setItems? = value.setItems?.map operation := by
  cases value <;> rfl

theorem mapEntries?_onMap (value : FieldValue)
    (operation : List (FieldValue × FieldValue) → List (FieldValue × FieldValue)) :
    (value.onMap operation).mapEntries? = value.mapEntries?.map operation := by
  cases value <;> rfl

theorem listItems?_onList (value : FieldValue) (operation : List FieldValue → List FieldValue) :
    (value.onList operation).listItems? = value.listItems?.map operation := by
  cases value <;> rfl

end FieldValue

namespace Change

def suits (kind : CollectionKind) : Change → Bool
  | .append _ | .prepend _ | .setAt _ _ | .removeAt _ => kind == .list
  | .addToSet _ | .removeFromSet _ => kind == .set
  | .putToMap _ | .removeFromMap _ => kind == .map
  | .clear => true
  | .assign _ => false

def named : Change → List FieldValue
  | .addToSet values | .removeFromSet values | .removeFromMap values => values
  | .putToMap entries => FieldValue.keys entries
  | _ => []

end Change

namespace FieldValue

/-- Whether a value is a collection of a kind, or absent, with elements and keys that can be told
apart. -/
def Suits (kind : CollectionKind) (value : FieldValue) : Prop :=
  match kind with
  | .list => ∃ items, value.listItems? = some items
  | .set => ∃ items, value.setItems? = some items ∧ AllFormed items
  | .map => ∃ entries, value.mapEntries? = some entries ∧ AllFormed (keys entries)

theorem suits_null (kind : CollectionKind) : FieldValue.null.Suits kind := by
  cases kind with
  | list => exact ⟨[], rfl⟩
  | set => exact ⟨[], rfl, by simp [AllFormed]⟩
  | map => exact ⟨[], rfl, by simp [AllFormed, keys]⟩

end FieldValue

open FieldValue

structure SetSummary (start added removed items : List FieldValue) : Prop where
  members : ∀ element : FieldValue, element.WellFormed → contained items element =
    (contained added element || contained start element && !contained removed element)
  apart : ∀ element : FieldValue, element.WellFormed →
    contained added element = true → contained removed element = false
  itemsFormed : AllFormed items
  addedFormed : AllFormed added
  removedFormed : AllFormed removed

namespace SetSummary

variable {start added removed items : List FieldValue} {value : FieldValue}

theorem initial (formed : AllFormed start) : SetSummary start [] [] start where
  members element _ := by simp [contained]
  apart element _ present := by simp [contained] at present
  itemsFormed := formed
  addedFormed := by simp [AllFormed]
  removedFormed := by simp [AllFormed]

theorem add (summary : SetSummary start added removed items) (formed : value.WellFormed) :
    SetSummary start (addNew added value) (without removed value) (addNew items value) where
  members element elementFormed := by
    rw [contained_addNew summary.itemsFormed formed elementFormed,
      summary.members element elementFormed,
      contained_addNew summary.addedFormed formed elementFormed,
      contained_without summary.removedFormed formed elementFormed]
    cases value == element <;> simp
  apart element elementFormed present := by
    rw [contained_addNew summary.addedFormed formed elementFormed] at present
    rw [contained_without summary.removedFormed formed elementFormed]
    by_cases same : (value == element) = true
    · simp [same]
    · simp only [same, Bool.or_false] at present
      simp [summary.apart element elementFormed present]
  itemsFormed := summary.itemsFormed.addNew formed
  addedFormed := summary.addedFormed.addNew formed
  removedFormed := summary.removedFormed.without value

theorem remove (summary : SetSummary start added removed items) (formed : value.WellFormed) :
    SetSummary start (without added value) (addNew removed value) (without items value) where
  members element elementFormed := by
    rw [contained_without summary.itemsFormed formed elementFormed,
      summary.members element elementFormed,
      contained_without summary.addedFormed formed elementFormed,
      contained_addNew summary.removedFormed formed elementFormed]
    cases value == element <;> simp
  apart element elementFormed present := by
    rw [contained_without summary.addedFormed formed elementFormed, Bool.and_eq_true] at present
    rw [contained_addNew summary.removedFormed formed elementFormed]
    have different : (value == element) = false := by simpa using present.2
    simp [summary.apart element elementFormed present.1, different]
  itemsFormed := summary.itemsFormed.without value
  addedFormed := summary.addedFormed.without value
  removedFormed := summary.removedFormed.addNew formed

end SetSummary

structure MapSummary (start put : List (FieldValue × FieldValue)) (dropped : List FieldValue)
    (entries : List (FieldValue × FieldValue)) : Prop where
  lookups : ∀ key : FieldValue, key.WellFormed → entryValue? entries key =
    (entryValue? put key).or (if contained dropped key then none else entryValue? start key)
  apart : ∀ key : FieldValue, key.WellFormed →
    contained dropped key = true → entryValue? put key = none
  entriesFormed : AllFormed (keys entries)
  putFormed : AllFormed (keys put)
  putDistinct : Distinct (keys put)
  droppedFormed : AllFormed dropped

namespace MapSummary

variable {start put entries : List (FieldValue × FieldValue)} {dropped : List FieldValue}
  {key : FieldValue}

theorem initial (formed : AllFormed (keys start)) : MapSummary start [] [] start where
  lookups key _ := by simp [contained, entryValue?]
  apart key _ present := by simp [contained] at present
  entriesFormed := formed
  putFormed := by simp [AllFormed, keys]
  putDistinct := List.Pairwise.nil
  droppedFormed := by simp [AllFormed]

theorem putEntry (summary : MapSummary start put dropped entries) (formed : key.WellFormed)
    (value : FieldValue) :
    MapSummary start (FieldValue.putEntry key value put) (without dropped key)
      (FieldValue.putEntry key value entries) where
  lookups other otherFormed := by
    rw [entryValue?_putEntry value summary.entriesFormed formed otherFormed,
      summary.lookups other otherFormed,
      entryValue?_putEntry value summary.putFormed formed otherFormed,
      contained_without summary.droppedFormed formed otherFormed]
    by_cases same : (key == other) = true <;> simp [same]
  apart other otherFormed present := by
    rw [contained_without summary.droppedFormed formed otherFormed, Bool.and_eq_true] at present
    have different : (key == other) = false := by simpa using present.2
    rw [entryValue?_putEntry value summary.putFormed formed otherFormed]
    simp [different, summary.apart other otherFormed present.1]
  entriesFormed := summary.entriesFormed.keys_putEntry formed value
  putFormed := summary.putFormed.keys_putEntry formed value
  putDistinct := by
    rw [keys_putEntry]
    exact summary.putDistinct.addNew summary.putFormed formed
  droppedFormed := summary.droppedFormed.without key

theorem dropKey (summary : MapSummary start put dropped entries) (formed : key.WellFormed) :
    MapSummary start (withoutKey put key) (addNew dropped key) (withoutKey entries key) where
  lookups other otherFormed := by
    rw [entryValue?_withoutKey summary.entriesFormed formed otherFormed,
      summary.lookups other otherFormed,
      entryValue?_withoutKey summary.putFormed formed otherFormed,
      contained_addNew summary.droppedFormed formed otherFormed]
    by_cases same : (key == other) = true <;> simp [same]
  apart other otherFormed present := by
    rw [contained_addNew summary.droppedFormed formed otherFormed] at present
    rw [entryValue?_withoutKey summary.putFormed formed otherFormed]
    by_cases same : (key == other) = true
    · simp [same]
    · simp only [same, Bool.or_false] at present
      simp [same, summary.apart other otherFormed present]
  entriesFormed := summary.entriesFormed.keys_withoutKey key
  putFormed := summary.putFormed.keys_withoutKey key
  putDistinct := by
    rw [keys_withoutKey]
    exact summary.putDistinct.without key
  droppedFormed := summary.droppedFormed.addNew formed

end MapSummary

namespace MergedChanges

def ofSet (added removed : List FieldValue) : MergedChanges :=
  ⟨[], added, removed, [], []⟩

def ofMap (put : List (FieldValue × FieldValue)) (dropped : List FieldValue) : MergedChanges :=
  ⟨[], [], [], put, dropped⟩

def ofList (changes : List Change) : MergedChanges :=
  ⟨changes, [], [], [], []⟩

def SetMeets (start : List FieldValue) (merged : MergedChanges) (items : List FieldValue) : Prop :=
  ∃ added removed, merged = ofSet added removed ∧ SetSummary start added removed items

def MapMeets (start : List (FieldValue × FieldValue)) (merged : MergedChanges)
    (entries : List (FieldValue × FieldValue)) : Prop :=
  ∃ put dropped, merged = ofMap put dropped ∧ MapSummary start put dropped entries

theorem SetMeets.add {start items : List FieldValue} {merged : MergedChanges} {value : FieldValue}
    (meets : SetMeets start merged items) (formed : value.WellFormed) :
    SetMeets start (add merged value) (addNew items value) := by
  obtain ⟨added, removed, rfl, summary⟩ := meets
  exact ⟨_, _, rfl, summary.add formed⟩

theorem SetMeets.remove {start items : List FieldValue} {merged : MergedChanges}
    {value : FieldValue} (meets : SetMeets start merged items) (formed : value.WellFormed) :
    SetMeets start (remove merged value) (without items value) := by
  obtain ⟨added, removed, rfl, summary⟩ := meets
  exact ⟨_, _, rfl, summary.remove formed⟩

theorem MapMeets.putEntry {start entries : List (FieldValue × FieldValue)} {merged : MergedChanges}
    {entry : FieldValue × FieldValue} (meets : MapMeets start merged entries)
    (formed : entry.1.WellFormed) :
    MapMeets start (putEntry merged entry) (FieldValue.putEntry entry.1 entry.2 entries) := by
  obtain ⟨put, dropped, rfl, summary⟩ := meets
  exact ⟨_, _, rfl, summary.putEntry formed entry.2⟩

theorem MapMeets.dropKey {start entries : List (FieldValue × FieldValue)} {merged : MergedChanges}
    {key : FieldValue} (meets : MapMeets start merged entries) (formed : key.WellFormed) :
    MapMeets start (dropKey merged key) (withoutKey entries key) := by
  obtain ⟨put, dropped, rfl, summary⟩ := meets
  exact ⟨_, _, rfl, summary.dropKey formed⟩

def Operations (kind : CollectionKind) (changes : List Change) : Prop :=
  ∀ change ∈ changes, change.suits kind = true ∧ change.isClear = false ∧ AllFormed change.named

/-- One observed change of a set keeps the summary, whatever number of elements it names. -/
theorem step_set {start : List FieldValue} {merged : MergedChanges} {change : Change}
    {value : FieldValue} (suits : change.suits .set = true) (kept : change.isClear = false)
    (formed : AllFormed change.named)
    (meets : ∃ items, value.setItems? = some items ∧ SetMeets start merged items) :
    ∃ items, (change.applyTo value).setItems? = some items ∧
      SetMeets start (step merged change) items := by
  obtain ⟨items, view, meets⟩ := meets
  cases change with
  | addToSet values =>
      refine ⟨values.foldl addNew items, ?_, List.foldl_rel meets ?_⟩
      · rw [Change.applyTo, setItems?_onSet, view, Option.map_some]
      · intro value member _ _ meets
        exact meets.add (formed value member)
  | removeFromSet values =>
      refine ⟨values.foldl without items, ?_, List.foldl_rel meets ?_⟩
      · rw [Change.applyTo, setItems?_onSet, view, Option.map_some]
      · intro value member _ _ meets
        exact meets.remove (formed value member)
  | clear => simp [Change.isClear] at kept
  | _ => simp [Change.suits] at suits

theorem step_map {start : List (FieldValue × FieldValue)} {merged : MergedChanges}
    {change : Change} {value : FieldValue} (suits : change.suits .map = true)
    (kept : change.isClear = false) (formed : AllFormed change.named)
    (meets : ∃ entries, value.mapEntries? = some entries ∧ MapMeets start merged entries) :
    ∃ entries, (change.applyTo value).mapEntries? = some entries ∧
      MapMeets start (step merged change) entries := by
  obtain ⟨entries, view, meets⟩ := meets
  cases change with
  | putToMap more =>
      refine ⟨putAll more entries, ?_, List.foldl_rel meets ?_⟩
      · rw [Change.applyTo, mapEntries?_onMap, view, Option.map_some, putAll]
      · intro entry member _ _ meets
        exact meets.putEntry (formed entry.1 (List.mem_map_of_mem member))
  | removeFromMap more =>
      refine ⟨more.foldl withoutKey entries, ?_, List.foldl_rel meets ?_⟩
      · rw [Change.applyTo, mapEntries?_onMap, view, Option.map_some]
      · intro key member _ _ meets
        exact meets.dropKey (formed key member)
  | clear => simp [Change.isClear] at kept
  | _ => simp [Change.suits] at suits

theorem step_list {changes : List Change} {change : Change} (suits : change.suits .list = true) :
    step (ofList changes) change = ofList (changes ++ [change]) := by
  cases change <;> first | rfl | simp [Change.suits] at suits

theorem fold_set {start : List FieldValue} {value : FieldValue} (formed : AllFormed start)
    (view : value.setItems? = some start) (changes : List Change)
    (operations : Operations .set changes) :
    ∃ items, (Change.applyAll changes value).setItems? = some items ∧
      SetMeets start (changes.foldl step empty) items := by
  have meets : SetMeets start empty start := ⟨[], [], rfl, SetSummary.initial formed⟩
  refine List.foldl_rel (r := fun merged (value : FieldValue) =>
    ∃ items, value.setItems? = some items ∧ SetMeets start merged items) ⟨start, view, meets⟩ ?_
  intro change member merged value meets
  obtain ⟨suits, kept, named⟩ := operations change member
  exact step_set suits kept named meets

theorem fold_map {start : List (FieldValue × FieldValue)} {value : FieldValue}
    (formed : AllFormed (keys start)) (view : value.mapEntries? = some start)
    (changes : List Change) (operations : Operations .map changes) :
    ∃ entries, (Change.applyAll changes value).mapEntries? = some entries ∧
      MapMeets start (changes.foldl step empty) entries := by
  have meets : MapMeets start empty start := ⟨[], [], rfl, MapSummary.initial formed⟩
  refine List.foldl_rel (r := fun merged (value : FieldValue) =>
    ∃ entries, value.mapEntries? = some entries ∧ MapMeets start merged entries)
    ⟨start, view, meets⟩ ?_
  intro change member merged value meets
  obtain ⟨suits, kept, named⟩ := operations change member
  exact step_map suits kept named meets

theorem fold_list (changes noted : List Change) (operations : Operations .list changes) :
    changes.foldl step (ofList noted) = ofList (noted ++ changes) := by
  induction changes generalizing noted with
  | nil => simp
  | cons change changes ih =>
      obtain ⟨first, rest⟩ := List.forall_mem_cons.mp operations
      rw [List.foldl_cons, step_list first.1, ih _ rest, List.append_assoc]
      rfl

theorem listItems?_applyTo {change : Change} {value : FieldValue}
    (suits : change.suits .list = true)
    (view : ∃ items, value.listItems? = some items) :
    ∃ items, (change.applyTo value).listItems? = some items := by
  obtain ⟨items, view⟩ := view
  cases change with
  | append _ | prepend _ | setAt _ _ | removeAt _ =>
      exact ⟨_, by rw [Change.applyTo, listItems?_onList, view, Option.map_some]⟩
  | clear => exact ⟨[], rfl⟩
  | _ => simp [Change.suits] at suits

theorem listItems?_applyAll {changes : List Change} {value : FieldValue}
    (operations : Operations .list changes) (view : ∃ items, value.listItems? = some items) :
    ∃ items, (Change.applyAll changes value).listItems? = some items := by
  refine List.foldlRecOn (motive := fun value : FieldValue =>
    ∃ items, value.listItems? = some items) changes _ view ?_
  intro value view change member
  exact listItems?_applyTo (operations change member).1 view

theorem setItems?_added (values : List FieldValue) (value : FieldValue) :
    (Change.applyAll (unlessEmpty .addToSet values) value).setItems? =
      value.setItems?.map fun items => values.foldl addNew items := by
  cases values with
  | nil => simp [unlessEmpty]
  | cons first values => exact setItems?_onSet value _

theorem setItems?_removed (values : List FieldValue) (value : FieldValue) :
    (Change.applyAll (unlessEmpty .removeFromSet values) value).setItems? =
      value.setItems?.map fun items => values.foldl without items := by
  cases values with
  | nil => simp [unlessEmpty]
  | cons first values => exact setItems?_onSet value _

theorem mapEntries?_put (entries : List (FieldValue × FieldValue)) (value : FieldValue) :
    (Change.applyAll (unlessEmpty .putToMap entries) value).mapEntries? =
      value.mapEntries?.map (putAll entries) := by
  cases entries with
  | nil => cases value <;> rfl
  | cons entry entries => exact mapEntries?_onMap value _

theorem mapEntries?_dropped (keys : List FieldValue) (value : FieldValue) :
    (Change.applyAll (unlessEmpty .removeFromMap keys) value).mapEntries? =
      value.mapEntries?.map fun entries => keys.foldl withoutKey entries := by
  cases keys with
  | nil => simp [unlessEmpty]
  | cons key keys => exact mapEntries?_onMap value _

theorem setItems?_ofSet {start : List FieldValue} {value : FieldValue}
    (added removed : List FieldValue) (view : value.setItems? = some start) :
    (Change.applyAll (ofSet added removed).changes value).setItems? =
      some (removed.foldl without (added.foldl addNew start)) := by
  have same : (ofSet added removed).changes =
      unlessEmpty .addToSet added ++ unlessEmpty .removeFromSet removed := by
    simp [changes, ofSet, unlessEmpty]
  rw [same, Change.applyAll_append, setItems?_removed, setItems?_added, view]
  rfl

theorem mapEntries?_ofMap {start : List (FieldValue × FieldValue)} {value : FieldValue}
    (put : List (FieldValue × FieldValue)) (dropped : List FieldValue)
    (view : value.mapEntries? = some start) :
    (Change.applyAll (ofMap put dropped).changes value).mapEntries? =
      some (dropped.foldl withoutKey (putAll put start)) := by
  have same : (ofMap put dropped).changes =
      unlessEmpty .putToMap put ++ unlessEmpty .removeFromMap dropped := by
    simp [changes, ofMap, unlessEmpty]
  rw [same, Change.applyAll_append, mapEntries?_dropped, mapEntries?_put, view]
  rfl

/-- Without a clear, what the changes come down to has the effect of the changes. -/
theorem sameContents_fold {kind : CollectionKind} (observed : List Change) (value : FieldValue)
    (operations : Operations kind observed) (suits : value.Suits kind) :
    SameContents kind (Change.applyAll (observed.foldl step empty).changes value)
      (Change.applyAll observed value) := by
  cases kind with
  | list =>
      have same : (observed.foldl step empty).changes = observed := by
        change (observed.foldl step (ofList [])).changes = observed
        rw [fold_list observed [] operations]
        simp [changes, ofList, unlessEmpty]
      obtain ⟨items, view⟩ := listItems?_applyAll operations suits
      rw [same]
      exact ⟨items, view, view⟩
  | set =>
      obtain ⟨start, view, formed⟩ := suits
      obtain ⟨items, observedView, added, removed, merged, summary⟩ :=
        fold_set formed view observed operations
      rw [merged]
      refine ⟨_, items, setItems?_ofSet added removed view, observedView, ?_⟩
      intro element elementFormed
      rw [contained_removeAll (formed.addAll added summary.addedFormed) summary.removedFormed
        elementFormed, contained_addAll formed summary.addedFormed elementFormed,
        summary.members element elementFormed]
      -- Nothing that is added is among the removed, so the additions may all come first.
      cases present : contained added element with
      | false => simp
      | true => simp [summary.apart element elementFormed present]
  | map =>
      obtain ⟨start, view, formed⟩ := suits
      obtain ⟨entries, observedView, put, dropped, merged, summary⟩ :=
        fold_map formed view observed operations
      rw [merged]
      refine ⟨_, entries, mapEntries?_ofMap put dropped view, observedView, ?_⟩
      intro key keyFormed
      rw [entryValue?_dropAll (formed.keys_putAll put summary.putFormed) summary.droppedFormed
        keyFormed, entryValue?_putAll formed summary.putFormed summary.putDistinct keyFormed,
        summary.lookups key keyFormed]
      cases present : contained dropped key with
      | false => simp
      | true => simp [summary.apart key keyFormed present]

end MergedChanges

namespace Change

theorem lastAssign?_eq_none {changes : List Change}
    (none : ∀ change ∈ changes, change.isAssign = false) : lastAssign? changes = Option.none := by
  simpa [lastAssign?] using none

theorem lastAssign?_eq_some {before after : List Change} {new : FieldValue}
    (last : ∀ change ∈ after, change.isAssign = false) :
    lastAssign? (before ++ .assign new :: after) = some (.assign new) := by
  have later : after.reverse.find? isAssign = none := by simpa using last
  simp [lastAssign?, later, isAssign]

theorem isClear_eq_false_of_mem_sinceLastClear {changes : List Change} {change : Change}
    (member : change ∈ sinceLastClear changes) : change.isClear = false := by
  rw [sinceLastClear, List.mem_reverse] at member
  have kept :=
    List.all_takeWhile (p := fun change : Change => !change.isClear) (l := changes.reverse)
  simpa using List.all_eq_true.mp kept change member

theorem sinceLastClear_split (changes : List Change) :
    (changes.any isClear = false ∧ sinceLastClear changes = changes) ∨
      changes.any isClear = true ∧
        ∃ before, changes = before ++ .clear :: sinceLastClear changes := by
  have parts := List.takeWhile_append_dropWhile
    (p := fun change : Change => !change.isClear) (l := changes.reverse)
  have whole := congrArg List.reverse parts
  rw [List.reverse_append, List.reverse_reverse] at whole
  change _ ++ sinceLastClear changes = changes at whole
  cases rest : changes.reverse.dropWhile fun change => !change.isClear with
  | nil =>
      rw [rest, List.reverse_nil, List.nil_append] at whole
      refine Or.inl ⟨?_, whole⟩
      rw [List.any_eq_false]
      intro change member
      rw [← whole] at member
      simp [isClear_eq_false_of_mem_sinceLastClear member]
  | cons change earlier =>
      have stop : change.isClear = true := by
        have head :=
          List.head?_dropWhile_not (fun change : Change => !change.isClear) changes.reverse
        simpa [rest] using head
      have cleared : change = .clear := by
        cases change <;> simp [isClear] at stop
        rfl
      rw [rest, List.reverse_cons, List.append_assoc, cleared] at whole
      refine Or.inr ⟨?_, earlier.reverse, whole.symm⟩
      rw [← whole]
      simp [isClear]

theorem exists_last_assign {changes : List Change}
    (assigned : ∃ change ∈ changes, change.isAssign = true) :
    ∃ before new after, changes = before ++ .assign new :: after ∧
      ∀ change ∈ after, change.isAssign = false := by
  induction changes with
  | nil => simp at assigned
  | cons first changes ih =>
      by_cases later : ∃ change ∈ changes, change.isAssign = true
      · obtain ⟨before, new, after, rfl, last⟩ := ih later
        exact ⟨first :: before, new, after, rfl, last⟩
      · obtain ⟨change, member, isAssign⟩ := assigned
        rcases List.mem_cons.mp member with rfl | member
        · cases change with
          | assign new => exact ⟨[], new, changes, rfl, by simpa using later⟩
          | _ => simp [Change.isAssign] at isAssign
        · exact absurd ⟨change, member, isAssign⟩ later

theorem isAssign_eq_false {kind : CollectionKind} {change : Change}
    (suits : change.suits kind = true) : change.isAssign = false := by
  cases change <;> first | rfl | simp [Change.suits] at suits

theorem applyAll_mergeAll {kind : CollectionKind} {changes : List Change} {value : FieldValue}
    (fits : ∀ change ∈ changes, change.suits kind = true ∧ AllFormed change.named)
    (suits : value.Suits kind) :
    SameContents kind (applyAll (mergeAll changes) value) (applyAll changes value) := by
  have unassigned : lastAssign? changes = none :=
    lastAssign?_eq_none fun change member => isAssign_eq_false (fits change member).1
  have operations (member : ∀ change ∈ sinceLastClear changes, change ∈ changes) :
      MergedChanges.Operations kind (sinceLastClear changes) := fun change since =>
    ⟨(fits change (member change since)).1, isClear_eq_false_of_mem_sinceLastClear since,
      (fits change (member change since)).2⟩
  simp only [mergeAll, unassigned]
  rcases sinceLastClear_split changes with ⟨kept, whole⟩ | ⟨cleared, before, whole⟩
  · rw [whole] at operations
    simp only [kept, whole, Bool.false_eq_true, if_false, List.nil_append]
    exact MergedChanges.sameContents_fold changes value (operations fun _ member => member) suits
  · -- A clear forgets the value before it, so what follows may start from none.
    have restarted : applyAll changes value = applyAll (sinceLastClear changes) .null := by
      conv => lhs; rw [whole]
      rw [applyAll_append]
      rfl
    have member : ∀ change ∈ sinceLastClear changes, change ∈ changes := by
      intro change since
      rw [whole]
      exact List.mem_append_right _ (List.mem_cons_of_mem _ since)
    simp only [cleared, if_true, restarted]
    exact MergedChanges.sameContents_fold _ .null (operations member) (FieldValue.suits_null kind)

end Change

namespace PropertyChange

/-- Replaying merged changes leaves every property with the contents that replaying the observed
changes leaves it with, and the last assignment of a property is all that remains of its changes. -/
theorem merge_preserves_replay (changes : List PropertyChange) (property : String) :
    (∀ (kind : CollectionKind) (fields : Fields),
      (∀ change ∈ changesOf property changes,
        change.suits kind = true ∧ AllFormed change.named) →
      (fields.value property).Suits kind →
      SameContents kind ((replay (merge changes) fields).value property)
        ((replay changes fields).value property)) ∧
    ((∃ change ∈ changesOf property changes, change.isAssign = true) →
      ∃ before new after, changesOf property changes = before ++ .assign new :: after ∧
        (∀ change ∈ after, change.isAssign = false) ∧
        changesOf property (merge changes) = [.assign new]) := by
  refine ⟨?_, ?_⟩
  · intro kind fields fits suits
    rw [value_replay, value_replay, changesOf_merge]
    exact Change.applyAll_mergeAll fits suits
  · intro assigned
    obtain ⟨before, new, after, whole, last⟩ := Change.exists_last_assign assigned
    refine ⟨before, new, after, whole, last, ?_⟩
    rw [changesOf_merge, whole, Change.mergeAll, Change.lastAssign?_eq_some last]

def takingTurns : List PropertyChange :=
  [⟨"tags", .addToSet [.text "new", .text "old"]⟩, ⟨"ages", .putToMap [(.text "ann", .int 30)]⟩,
    ⟨"tags", .removeFromSet [.text "old"]⟩, ⟨"name", .assign (.text "first")⟩,
    ⟨"ages", .removeFromMap [.text "ann"]⟩, ⟨"tags", .clear⟩, ⟨"name", .assign (.text "second")⟩,
    ⟨"tags", .addToSet [.text "old"]⟩]

theorem merge_takingTurns :
    SameContents .set
      ((replay (merge takingTurns) (Fields.empty.set "tags" (.set [.text "old"]))).value "tags")
      ((replay takingTurns (Fields.empty.set "tags" (.set [.text "old"]))).value "tags") ∧
    ∃ before new after, changesOf "name" takingTurns = before ++ .assign new :: after ∧
      (∀ change ∈ after, change.isAssign = false) ∧
      changesOf "name" (merge takingTurns) = [.assign new] := by
  refine ⟨(merge_preserves_replay takingTurns "tags").1 .set _ ?_ ?_,
    (merge_preserves_replay takingTurns "name").2 ⟨.assign (.text "first"), ?_, rfl⟩⟩
  · have formed (text : String) : (FieldValue.text text).WellFormed := .scalar rfl
    simp [changesOf, takingTurns, Change.suits, Change.named, AllFormed, formed]
  · exact ⟨[.text "old"], rfl, fun element member => by
      rw [List.mem_singleton.mp member]
      exact .scalar rfl⟩
  · simp [changesOf, takingTurns]

end PropertyChange

end CqlMapper

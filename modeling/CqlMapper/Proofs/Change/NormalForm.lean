import Mathlib.Data.List.Forall2
import Mathlib.Data.List.Perm.Basic
import CqlMapper.Proofs.Change.Mentions
import CqlMapper.Proofs.Change.Merging

/-!
The normal form that merging gives. For each property without an assignment it holds the list
changes since the last clear as they were, and each element and key at most once, on the side of its
last mention. Nothing is left to merge in it, and other orders of the same mentions lead to it too.
-/

namespace CqlMapper

open FieldValue

namespace Change

def isElementwise : Change → Bool
  | .addToSet _ | .removeFromSet _ | .putToMap _ | .removeFromMap _ => true
  | _ => false

def setMentions : Change → List Mention
  | .addToSet values => values.map fun value => ⟨value, some value⟩
  | .removeFromSet values => values.map fun value => ⟨value, none⟩
  | _ => []

def mapMentions : Change → List Mention
  | .putToMap entries => entries.map fun entry => ⟨entry.1, some entry.2⟩
  | .removeFromMap keys => keys.map fun key => ⟨key, none⟩
  | _ => []

inductive SinceClear : List Change → List Change → List Change → Prop
  | never {changes : List Change} (uncleared : ∀ change ∈ changes, change.isClear = false) :
      SinceClear changes [] changes
  | cleared {before since : List Change} (uncleared : ∀ change ∈ since, change.isClear = false) :
      SinceClear (before ++ .clear :: since) [.clear] since

end Change

open Change

inductive Normal (observed : List Change) : List Change → Prop
  | intro {cleared since : List Change} {added removed dropped : List FieldValue}
      {put : List (FieldValue × FieldValue)} (clears : SinceClear observed cleared since)
      (elements : Settled (since.flatMap setMentions) added removed)
      (entries : Settled (since.flatMap mapMentions) (keys put) dropped)
      (values : ∀ key : FieldValue, key.WellFormed → ∀ value,
        entryValue? put key = some value ↔
          LastMention (since.flatMap mapMentions) key (some value)) :
      Normal observed (cleared ++ since.filter (·.suits .list) ++
        MergedChanges.unlessEmpty .addToSet added ++
        MergedChanges.unlessEmpty .removeFromSet removed ++
        MergedChanges.unlessEmpty .putToMap put ++
        MergedChanges.unlessEmpty .removeFromMap dropped)

inductive Change.SameButOrder : Change → Change → Prop
  | same (change : Change) : SameButOrder change change
  | addToSet {values others : List FieldValue} (perm : values.Perm others) :
      SameButOrder (.addToSet values) (.addToSet others)
  | removeFromSet {values others : List FieldValue} (perm : values.Perm others) :
      SameButOrder (.removeFromSet values) (.removeFromSet others)
  | putToMap {entries others : List (FieldValue × FieldValue)} (perm : entries.Perm others) :
      SameButOrder (.putToMap entries) (.putToMap others)
  | removeFromMap {keys others : List FieldValue} (perm : keys.Perm others) :
      SameButOrder (.removeFromMap keys) (.removeFromMap others)

namespace MergedChanges

def ofLedgers (kept : List Change) (set map : Ledger) : MergedChanges :=
  ⟨kept, keys set.entries, set.dropped, map.entries, map.dropped⟩

variable (kept : List Change) (set map : Ledger)

theorem add_ofLedgers (value : FieldValue) :
    (ofLedgers kept set map).add value = ofLedgers kept (set.note ⟨value, some value⟩) map := by
  simp [add, ofLedgers, Ledger.note, keys_putEntry]

theorem remove_ofLedgers (value : FieldValue) :
    (ofLedgers kept set map).remove value = ofLedgers kept (set.note ⟨value, none⟩) map := by
  simp [remove, ofLedgers, Ledger.note, keys_withoutKey]

theorem putEntry_ofLedgers (entry : FieldValue × FieldValue) :
    (ofLedgers kept set map).putEntry entry =
      ofLedgers kept set (map.note ⟨entry.1, some entry.2⟩) :=
  rfl

theorem dropKey_ofLedgers (key : FieldValue) :
    (ofLedgers kept set map).dropKey key = ofLedgers kept set (map.note ⟨key, none⟩) :=
  rfl

theorem step_ofLedgers (change : Change) :
    (ofLedgers kept set map).step change =
      ofLedgers (kept ++ [change].filter fun change => !change.isElementwise)
        (change.setMentions.foldl Ledger.note set) (change.mapMentions.foldl Ledger.note map) := by
  cases change with
  | addToSet values =>
      have folded : values.foldl add (ofLedgers kept set map) =
          ofLedgers kept (values.foldl (fun set value => set.note ⟨value, some value⟩) set) map :=
        List.foldl_hom (ofLedgers kept · map) (add_ofLedgers kept · map)
      simpa [step, setMentions, mapMentions, isElementwise, List.foldl_map] using folded
  | removeFromSet values =>
      have folded : values.foldl remove (ofLedgers kept set map) =
          ofLedgers kept (values.foldl (fun set value => set.note ⟨value, none⟩) set) map :=
        List.foldl_hom (ofLedgers kept · map) (remove_ofLedgers kept · map)
      simpa [step, setMentions, mapMentions, isElementwise, List.foldl_map] using folded
  | putToMap entries =>
      have folded : entries.foldl putEntry (ofLedgers kept set map) =
          ofLedgers kept set
            (entries.foldl (fun map entry => map.note ⟨entry.1, some entry.2⟩) map) :=
        List.foldl_hom (ofLedgers kept set) (putEntry_ofLedgers kept set)
      simpa [step, setMentions, mapMentions, isElementwise, List.foldl_map] using folded
  | removeFromMap dropped =>
      have folded : dropped.foldl dropKey (ofLedgers kept set map) =
          ofLedgers kept set (dropped.foldl (fun map key => map.note ⟨key, none⟩) map) :=
        List.foldl_hom (ofLedgers kept set) (dropKey_ofLedgers kept set)
      simpa [step, setMentions, mapMentions, isElementwise, List.foldl_map] using folded
  | _ => simp [step, ofLedgers, setMentions, mapMentions, isElementwise]

theorem fold_ofLedgers (changes : List Change) :
    changes.foldl step empty =
      ofLedgers (changes.filter fun change => !change.isElementwise)
        (Ledger.ofMentions (changes.flatMap setMentions))
        (Ledger.ofMentions (changes.flatMap mapMentions)) := by
  induction changes using List.reverseRecOn with
  | nil => rfl
  | append_singleton changes change ih =>
      simp only [List.foldl_append, List.foldl_cons, List.foldl_nil, ih, step_ofLedgers,
        List.filter_append, List.flatMap_append, List.flatMap_singleton, Ledger.ofMentions]

section

variable {α : Type} {change : List α → Change}

theorem flatMap_unlessEmpty {β : Type} {made : Change → List β} (nothing : made (change []) = [])
    (payload : List α) : (unlessEmpty change payload).flatMap made = made (change payload) := by
  cases payload with
  | nil => exact nothing.symm
  | cons first rest => simp [unlessEmpty]

theorem filter_unlessEmpty {kept : Change → Bool} (none : ∀ payload, kept (change payload) = false)
    (payload : List α) : (unlessEmpty change payload).filter kept = [] := by
  cases payload <;> simp [unlessEmpty, none]

theorem sameButOrder_unlessEmpty {payload others : List α} (perm : payload.Perm others)
    (same : (change payload).SameButOrder (change others)) :
    List.Forall₂ SameButOrder (unlessEmpty change payload) (unlessEmpty change others) := by
  cases payload with
  | nil =>
      rw [List.nil_perm.mp perm]
      exact .nil
  | cons first rest =>
      cases others with
      | nil => cases List.perm_nil.mp perm
      | cons other others => exact .cons same .nil

end

end MergedChanges

namespace Change

variable {changes others cleared since rest : List Change}

theorem sinceClear (changes : List Change) :
    SinceClear changes (if changes.any isClear then [.clear] else []) (sinceLastClear changes) := by
  rcases sinceLastClear_split changes with ⟨uncleared, whole⟩ | ⟨anyClear, before, whole⟩
  · rw [whole, uncleared]
    exact .never (by simpa using uncleared)
  · rw [anyClear]
    have since : SinceClear (before ++ .clear :: sinceLastClear changes) [.clear]
        (sinceLastClear changes) :=
      .cleared fun change => isClear_eq_false_of_mem_sinceLastClear
    rwa [← whole] at since

theorem SinceClear.eq (clears : SinceClear changes cleared since) :
    cleared = (if changes.any isClear then [.clear] else []) ∧ since = sinceLastClear changes := by
  cases clears with
  | never uncleared =>
      rcases sinceLastClear_split changes with ⟨none, whole⟩ | ⟨anyClear, _⟩
      · simp [none, whole]
      · obtain ⟨change, member, clear⟩ := List.any_eq_true.mp anyClear
        rw [uncleared change member] at clear
        cases clear
  | @cleared before since uncleared =>
      have passed : ∀ change ∈ since.reverse, (!change.isClear) = true := by simpa using uncleared
      refine ⟨by simp [isClear], ?_⟩
      rw [sinceLastClear, List.reverse_append, List.reverse_cons, List.append_assoc,
        List.takeWhile_append_of_pos passed]
      simp [isClear]

theorem SinceClear.mem (clears : SinceClear changes cleared since) {change : Change}
    (member : change ∈ since) : change ∈ changes := by
  cases clears with
  | never uncleared => exact member
  | cleared uncleared => exact List.mem_append_right _ (List.mem_cons_of_mem _ member)

theorem SinceClear.uncleared (clears : SinceClear changes cleared since) :
    ∀ change ∈ since, change.isClear = false := by
  cases clears <;> assumption

theorem SinceClear.restart (clears : SinceClear changes cleared since)
    (uncleared : ∀ change ∈ rest, change.isClear = false) :
    SinceClear (cleared ++ rest) cleared rest := by
  cases clears with
  | never => exact .never uncleared
  | cleared =>
      have restarted : SinceClear ([] ++ .clear :: rest) [.clear] rest := .cleared uncleared
      exact restarted

theorem SinceClear.isAssign_cleared (clears : SinceClear changes cleared since) :
    ∀ change ∈ cleared, change.isAssign = false := by
  cases clears with
  | never => exact List.forall_mem_nil _
  | cleared => exact List.forall_mem_singleton.mpr rfl

/-- What keeps the clears keeps what comes after the last. -/
theorem SinceClear.filter (clears : SinceClear changes cleared since) {kept : Change → Bool}
    (keeps : kept .clear = true) :
    SinceClear (changes.filter kept) cleared (since.filter kept) := by
  have uncleared : ∀ change ∈ since.filter kept, change.isClear = false := fun change member =>
    clears.uncleared change (List.mem_filter.mp member).1
  cases clears with
  | never => exact .never uncleared
  | cleared =>
      rw [List.filter_append, List.filter_cons_of_pos keeps]
      exact .cleared uncleared

theorem lastAssign?_eq_none_iff :
    lastAssign? changes = none ↔ ∀ change ∈ changes, change.isAssign = false := by
  simp [lastAssign?]

theorem mergeAll_unassigned (unassigned : ∀ change ∈ changes, change.isAssign = false)
    (clears : SinceClear changes cleared since) :
    mergeAll changes = cleared ++ (MergedChanges.ofLedgers
      (since.filter fun change => !change.isElementwise)
      (Ledger.ofMentions (since.flatMap setMentions))
      (Ledger.ofMentions (since.flatMap mapMentions))).changes := by
  obtain ⟨rfl, rfl⟩ := clears.eq
  simp only [mergeAll, lastAssign?_eq_none unassigned, MergedChanges.fold_ofLedgers]

theorem formed_setMentions {change : Change} (formed : AllFormed change.named) :
    ∀ mention ∈ change.setMentions, mention.name.WellFormed := by
  cases change with
  | addToSet _ | removeFromSet _ => exact List.forall_mem_map.mpr formed
  | _ => exact List.forall_mem_nil _

theorem formed_mapMentions {change : Change} (formed : AllFormed change.named) :
    ∀ mention ∈ change.mapMentions, mention.name.WellFormed := by
  cases change with
  | putToMap entries => exact List.forall_mem_map.mpr (allFormed_map.mp formed)
  | removeFromMap _ => exact List.forall_mem_map.mpr formed
  | _ => exact List.forall_mem_nil _

theorem formed_mentions (formed : ∀ change ∈ changes, AllFormed change.named)
    (clears : SinceClear changes cleared since) :
    (∀ mention ∈ since.flatMap setMentions, mention.name.WellFormed) ∧
      ∀ mention ∈ since.flatMap mapMentions, mention.name.WellFormed := by
  constructor
  · intro mention member
    obtain ⟨change, belongs, made⟩ := List.mem_flatMap.mp member
    exact formed_setMentions (formed change (clears.mem belongs)) mention made
  · intro mention member
    obtain ⟨change, belongs, made⟩ := List.mem_flatMap.mp member
    exact formed_mapMentions (formed change (clears.mem belongs)) mention made

theorem normal_mergeAll (unassigned : ∀ change ∈ changes, change.isAssign = false)
    (formed : ∀ change ∈ changes, AllFormed change.named) : Normal changes (mergeAll changes) := by
  have clears := sinceClear changes
  obtain ⟨sets, maps⟩ := formed_mentions formed clears
  have listChanges : ((sinceLastClear changes).filter fun change => !change.isElementwise) =
      (sinceLastClear changes).filter (·.suits .list) := by
    refine List.filter_congr fun change member => ?_
    have plain := unassigned change (clears.mem member)
    cases change <;> first | rfl | cases plain
  rw [mergeAll_unassigned unassigned clears, listChanges]
  simp only [MergedChanges.changes, MergedChanges.ofLedgers, ← List.append_assoc]
  exact .intro clears (Ledger.settled_ofMentions sets) (Ledger.settled_ofMentions maps)
    fun key keyFormed => (Ledger.lastMention_ofMentions maps keyFormed).1

end Change

namespace MergedChanges

variable {kept : List Change} {set map : Ledger}

theorem filter_changes (plain : ∀ change ∈ kept, change.isElementwise = false) :
    ((ofLedgers kept set map).changes.filter fun change => !change.isElementwise) = kept := by
  have whole : (kept.filter fun change => !change.isElementwise) = kept :=
    List.filter_eq_self.mpr fun change member => by simp [plain change member]
  simp only [changes, ofLedgers, List.filter_append, whole]
  rw [filter_unlessEmpty fun _ => rfl, filter_unlessEmpty fun _ => rfl,
    filter_unlessEmpty fun _ => rfl, filter_unlessEmpty fun _ => rfl]
  simp

theorem flatMap_changes {β : Type} {made : Change → List β}
    (silent : ∀ change : Change, change.isElementwise = false → made change = [])
    (noSet : made (.addToSet []) = [] ∧ made (.removeFromSet []) = [])
    (noMap : made (.putToMap []) = [] ∧ made (.removeFromMap []) = [])
    (plain : ∀ change ∈ kept, change.isElementwise = false) :
    (ofLedgers kept set map).changes.flatMap made =
      made (.addToSet (keys set.entries)) ++ made (.removeFromSet set.dropped) ++
        made (.putToMap map.entries) ++ made (.removeFromMap map.dropped) := by
  have none : kept.flatMap made = [] :=
    List.flatMap_eq_nil_iff.mpr fun change member => silent change (plain change member)
  simp only [changes, ofLedgers, List.flatMap_append, none, List.nil_append]
  rw [flatMap_unlessEmpty noSet.1, flatMap_unlessEmpty noSet.2, flatMap_unlessEmpty noMap.1,
    flatMap_unlessEmpty noMap.2]

theorem setMentions_changes (plain : ∀ change ∈ kept, change.isElementwise = false) :
    (ofLedgers kept set map).changes.flatMap setMentions = set.mirror.shortest := by
  have silent (change : Change) (none : change.isElementwise = false) :
      change.setMentions = [] := by
    cases change <;> first | rfl | cases none
  rw [flatMap_changes silent ⟨rfl, rfl⟩ ⟨rfl, rfl⟩ plain]
  simp [setMentions, Ledger.shortest, Ledger.mirror]

theorem mapMentions_changes (plain : ∀ change ∈ kept, change.isElementwise = false) :
    (ofLedgers kept set map).changes.flatMap mapMentions = map.shortest := by
  have silent (change : Change) (none : change.isElementwise = false) :
      change.mapMentions = [] := by
    cases change <;> first | rfl | cases none
  rw [flatMap_changes silent ⟨rfl, rfl⟩ ⟨rfl, rfl⟩ plain]
  simp [mapMentions, Ledger.shortest]

/-- Nothing is left to merge in what changes came down to. -/
theorem ofLedgers_changes (plain : ∀ change ∈ kept, change.isElementwise = false)
    (sets : set.Sound) (maps : map.Sound) :
    (ofLedgers ((ofLedgers kept set map).changes.filter fun change => !change.isElementwise)
      (Ledger.ofMentions ((ofLedgers kept set map).changes.flatMap setMentions))
      (Ledger.ofMentions ((ofLedgers kept set map).changes.flatMap mapMentions))) =
        ofLedgers kept set map := by
  rw [filter_changes plain, setMentions_changes plain, mapMentions_changes plain,
    sets.mirror.ofMentions_shortest, maps.ofMentions_shortest, ofLedgers, set.keys_mirror]
  rfl

theorem kept_or_elementwise : ∀ change ∈ (ofLedgers kept set map).changes,
    change ∈ kept ∨ change.isElementwise = true :=
  forall_mem_changes (fun _ listed => .inl listed) (fun _ => .inr rfl) (fun _ => .inr rfl)
    (fun _ => .inr rfl) fun _ => .inr rfl

end MergedChanges

namespace Change

variable {changes others cleared since rest : List Change}

theorem mergeAll_mergeAll (formed : ∀ change ∈ changes, AllFormed change.named) :
    mergeAll (mergeAll changes) = mergeAll changes := by
  cases last : lastAssign? changes with
  | some assignment =>
      have single : mergeAll changes = [assignment] := by simp only [mergeAll, last]
      have assigns : assignment.isAssign = true := List.find?_some last
      rw [single]
      simp [mergeAll, lastAssign?, assigns]
  | none =>
      have unassigned := lastAssign?_eq_none_iff.mp last
      have clears := sinceClear changes
      obtain ⟨sets, maps⟩ := formed_mentions formed clears
      have plain : ∀ change ∈ (sinceLastClear changes).filter fun change => !change.isElementwise,
          change.isElementwise = false := by simp
      have settled := MergedChanges.ofLedgers_changes plain (Ledger.sound_ofMentions sets)
        (Ledger.sound_ofMentions maps)
      rw [mergeAll_unassigned unassigned clears]
      generalize merged : (MergedChanges.ofLedgers _ _ _).changes = since at settled ⊢
      have restarted : ∀ change ∈ since, change.isClear = false ∧ change.isAssign = false := by
        intro change member
        rw [← merged] at member
        rcases MergedChanges.kept_or_elementwise change member with listed | elementwise
        · have among := (List.mem_filter.mp listed).1
          exact ⟨clears.uncleared change among, unassigned change (clears.mem among)⟩
        · cases change <;> first | exact ⟨rfl, rfl⟩ | cases elementwise
      have again := mergeAll_unassigned
        (List.forall_mem_append.mpr
          ⟨clears.isAssign_cleared, fun change member => (restarted change member).2⟩)
        (clears.restart fun change member => (restarted change member).1)
      rw [again, settled, merged]

/-- Another order of the same changes, or other changes, with the same mentions of each element and
key since the last clear. All that is not about elements or keys stays in its order. -/
structure Reorders (changes others : List Change) : Prop where
  kept : (changes.filter fun change => !change.isElementwise) =
    others.filter fun change => !change.isElementwise
  mentions : ∃ cleared since rest, SinceClear changes cleared since ∧
    SinceClear others cleared rest ∧ ∀ name : FieldValue, name.WellFormed →
      ((since.flatMap setMentions).filter fun mention => mention.name == name) =
          ((rest.flatMap setMentions).filter fun mention => mention.name == name) ∧
        ((since.flatMap mapMentions).filter fun mention => mention.name == name) =
          (rest.flatMap mapMentions).filter fun mention => mention.name == name

theorem Reorders.refl (changes : List Change) : Reorders changes changes :=
  ⟨rfl, _, _, _, sinceClear changes, sinceClear changes, fun _ _ => ⟨rfl, rfl⟩⟩

theorem SinceClear.unique {clearedToo : List Change} (clears : SinceClear changes cleared since)
    (also : SinceClear changes clearedToo rest) : cleared = clearedToo ∧ since = rest :=
  ⟨clears.eq.1.trans also.eq.1.symm, clears.eq.2.trans also.eq.2.symm⟩

theorem lastAssign?_filter (changes : List Change) :
    lastAssign? (changes.filter fun change => !change.isElementwise) = lastAssign? changes := by
  rw [lastAssign?, lastAssign?, ← List.filter_reverse, List.find?_filter]
  congr 1
  funext change
  cases change <;> rfl

theorem mergeAll_reorders (reorders : Reorders changes others)
    (formed : ∀ change ∈ changes, AllFormed change.named)
    (othersFormed : ∀ change ∈ others, AllFormed change.named) :
    List.Forall₂ SameButOrder (mergeAll changes) (mergeAll others) := by
  have reflexive (changes : List Change) : List.Forall₂ SameButOrder changes changes :=
    List.forall₂_same.mpr fun change _ => .same change
  have last : lastAssign? changes = lastAssign? others := by
    rw [← lastAssign?_filter changes, reorders.kept, lastAssign?_filter]
  cases assigned : lastAssign? changes with
  | some assignment =>
      simp only [mergeAll, ← last, assigned]
      exact reflexive _
  | none =>
      obtain ⟨cleared, since, rest, clears, also, same⟩ := reorders.mentions
      obtain ⟨sets, maps⟩ := formed_mentions formed clears
      obtain ⟨otherSets, otherMaps⟩ := formed_mentions othersFormed also
      have listed : SinceClear (changes.filter fun change => !change.isElementwise) cleared
          (since.filter fun change => !change.isElementwise) := clears.filter rfl
      rw [reorders.kept] at listed
      have keeps := (listed.unique (also.filter rfl)).2
      obtain ⟨added, removed⟩ := Ledger.perm_ofMentions sets otherSets fun name nameFormed =>
        (same name nameFormed).1
      obtain ⟨put, dropped⟩ := Ledger.perm_ofMentions maps otherMaps fun name nameFormed =>
        (same name nameFormed).2
      rw [mergeAll_unassigned (lastAssign?_eq_none_iff.mp assigned) clears,
        mergeAll_unassigned (lastAssign?_eq_none_iff.mp (last ▸ assigned)) also, keeps]
      simp only [MergedChanges.changes, MergedChanges.ofLedgers]
      have addedKeys := added.map (·.1)
      refine List.rel_append (reflexive _) (List.rel_append (List.rel_append (List.rel_append
        (List.rel_append (reflexive _) ?_) ?_) ?_) ?_)
      · exact MergedChanges.sameButOrder_unlessEmpty addedKeys (.addToSet addedKeys)
      · exact MergedChanges.sameButOrder_unlessEmpty removed (.removeFromSet removed)
      · exact MergedChanges.sameButOrder_unlessEmpty put (.putToMap put)
      · exact MergedChanges.sameButOrder_unlessEmpty dropped (.removeFromMap dropped)

end Change

namespace PropertyChange

def FirstBefore (changes : List PropertyChange) (name other : String) : Prop :=
  (changes.map (·.property)).idxOf name < (changes.map (·.property)).idxOf other

/-- The changes of all properties in another order, where properties first appear as before. -/
structure Reorders (changes others : List PropertyChange) : Prop where
  perm : changes.Perm others
  first : ∀ name other, FirstBefore others name other ↔ FirstBefore changes name other
  each : ∀ property, Change.Reorders (changesOf property changes) (changesOf property others)

theorem pairwise_distinctNames (names : List String) :
    (distinctNames names).Pairwise fun name other => names.idxOf name < names.idxOf other := by
  induction names with
  | nil => exact .nil
  | cons first names ih =>
      have later {name : String} (member : name ∈ (distinctNames names).filter (· != first)) :
          (first :: names).idxOf name = names.idxOf name + 1 := by
        have apart : name ≠ first := by simpa using (List.mem_filter.mp member).2
        exact List.idxOf_cons_ne _ apart.symm
      refine List.pairwise_cons.mpr ⟨fun name member => ?_, ?_⟩
      · rw [later member, List.idxOf_cons_self]
        omega
      · refine List.Pairwise.imp_of_mem (fun {name other} member belongs before => ?_)
          (ih.sublist List.filter_sublist)
        rw [later member, later belongs]
        omega

theorem pairwise_firstBefore (changes : List PropertyChange) :
    (distinctNames (changes.map (·.property))).Pairwise (FirstBefore changes) :=
  pairwise_distinctNames _

theorem distinctNames_append {front back : List String} (apart : ∀ name ∈ front, name ∉ back) :
    distinctNames (front ++ back) = distinctNames front ++ distinctNames back := by
  induction front with
  | nil => rfl
  | cons name front ih =>
      obtain ⟨first, rest⟩ := List.forall_mem_cons.mp apart
      have whole : (distinctNames back).filter (· != name) = distinctNames back := by
        refine List.filter_eq_self.mpr fun other member => ?_
        rw [mem_distinctNames] at member
        have different : other ≠ name := by
          rintro rfl
          exact first member
        simpa using different
      rw [List.cons_append, distinctNames, ih rest, List.filter_append, whole, distinctNames,
        List.cons_append]

theorem merge_append {front back : List PropertyChange}
    (apart : ∀ name ∈ front.map (·.property), name ∉ back.map (·.property)) :
    merge (front ++ back) = merge front ++ merge back := by
  rw [merge, List.map_append, distinctNames_append apart, List.flatMap_append, merge, merge]
  congr 1
  · refine List.flatMap_congr fun name member => ?_
    rw [mem_distinctNames] at member
    rw [changesOf_append, changesOf_eq_nil (apart name member), List.append_nil]
  · refine List.flatMap_congr fun name member => ?_
    rw [mem_distinctNames] at member
    rw [changesOf_append, changesOf_eq_nil fun early => apart name early member, List.nil_append]

theorem merge_single (property : String) (changes : List Change) :
    merge (changes.map fun change => ⟨property, change⟩) =
      (Change.mergeAll changes).map fun change => ⟨property, change⟩ := by
  cases changes with
  | nil => rfl
  | cons change changes =>
      have single : distinctNames (((change :: changes).map fun change =>
          (⟨property, change⟩ : PropertyChange)).map (·.property)) = [property] := by
        have none : (distinctNames ((changes.map fun change =>
            (⟨property, change⟩ : PropertyChange)).map (·.property))).filter
              (· != property) = [] := by
          refine List.filter_eq_nil_iff.mpr fun name member => ?_
          rw [mem_distinctNames, List.map_map] at member
          obtain ⟨_, _, rfl⟩ := List.mem_map.mp member
          simp
        simp only [List.map_cons, distinctNames, none]
      rw [merge, single, List.flatMap_singleton, changesOf_map, if_pos rfl]

/-- Blocks of changes, each of one property, are merged block by block. -/
theorem merge_blocks {names : List String} (unique : names.Nodup) (made : String → List Change) :
    merge (names.flatMap fun name => (made name).map fun change => ⟨name, change⟩) =
      names.flatMap fun name => (Change.mergeAll (made name)).map fun change => ⟨name, change⟩ := by
  induction names with
  | nil => rfl
  | cons name names ih =>
      obtain ⟨fresh, rest⟩ := List.nodup_cons.mp unique
      rw [List.flatMap_cons, merge_append, merge_single, ih rest, List.flatMap_cons]
      intro property here there
      obtain ⟨change, early, rfl⟩ := List.mem_map.mp here
      obtain ⟨other, late, same⟩ := List.mem_map.mp there
      obtain ⟨further, member, belongs⟩ := List.mem_flatMap.mp late
      obtain ⟨_, _, rfl⟩ := List.mem_map.mp early
      obtain ⟨_, _, rfl⟩ := List.mem_map.mp belongs
      have fits : further = name := same
      exact fresh (fits ▸ member)

theorem formed_changesOf {changes : List PropertyChange}
    (formed : ∀ change ∈ changes, AllFormed change.change.named) (property : String) :
    ∀ change ∈ changesOf property changes, AllFormed change.named := by
  intro change member
  obtain ⟨other, belongs, rfl⟩ := List.mem_map.mp member
  exact formed other (List.mem_filter.mp belongs).1

theorem merge_merge {changes : List PropertyChange}
    (formed : ∀ change ∈ changes, AllFormed change.change.named) :
    merge (merge changes) = merge changes := by
  calc merge (merge changes)
      = (distinctNames (changes.map (·.property))).flatMap fun property =>
          (Change.mergeAll (Change.mergeAll (changesOf property changes))).map fun change =>
            ⟨property, change⟩ :=
        merge_blocks (nodup_distinctNames _) fun property =>
          Change.mergeAll (changesOf property changes)
    _ = merge changes := by
        simp only [Change.mergeAll_mergeAll (formed_changesOf formed _), merge]

theorem Reorders.names {changes others : List PropertyChange} (reorders : Reorders changes others) :
    distinctNames (changes.map (·.property)) = distinctNames (others.map (·.property)) := by
  have ordered : (distinctNames (others.map (·.property))).Pairwise (FirstBefore changes) :=
    (pairwise_firstBefore others).imp fun before => (reorders.first _ _).mp before
  have same : (distinctNames (changes.map (·.property))).Perm
      (distinctNames (others.map (·.property))) := by
    refine (List.perm_ext_iff_of_nodup (nodup_distinctNames _) (nodup_distinctNames _)).mpr ?_
    intro name
    rw [mem_distinctNames, mem_distinctNames]
    exact (reorders.perm.map _).mem_iff
  refine List.Perm.eq_of_pairwise (fun name other _ _ before after => ?_)
    (pairwise_firstBefore changes) ordered same
  exact absurd after (Nat.lt_asymm before)

theorem merge_reorders {changes others : List PropertyChange} (reorders : Reorders changes others)
    (formed : ∀ change ∈ changes, AllFormed change.change.named) :
    List.Forall₂ (fun made other => made.property = other.property ∧
      made.change.SameButOrder other.change) (merge changes) (merge others) := by
  have othersFormed : ∀ change ∈ others, AllFormed change.change.named := fun change member =>
    formed change (reorders.perm.mem_iff.mpr member)
  rw [merge, merge, reorders.names]
  induction distinctNames (others.map (·.property)) with
  | nil => exact .nil
  | cons property names ih =>
      rw [List.flatMap_cons, List.flatMap_cons]
      refine List.rel_append ?_ ih
      rw [List.forall₂_map_left_iff, List.forall₂_map_right_iff]
      exact (Change.mergeAll_reorders (reorders.each property) (formed_changesOf formed property)
        (formed_changesOf othersFormed property)).imp fun _ _ same => ⟨rfl, same⟩

/-- What changes are merged into: properties in the order of their first appearance, each in one
piece and in its normal form, in which nothing is left to merge and which other orders of the same
mentions lead to as well. -/
theorem merge_normal (changes : List PropertyChange)
    (formed : ∀ change ∈ changes, AllFormed change.change.named) :
    (∃ names : List String, names.Nodup ∧ names.Pairwise (FirstBefore changes) ∧
        (∀ name, name ∈ names ↔ ∃ change ∈ changes, change.property = name) ∧
        merge changes = names.flatMap fun name =>
          (changesOf name (merge changes)).map fun change => ⟨name, change⟩) ∧
      (∀ property, (∀ change ∈ changesOf property changes, change.isAssign = false) →
        Normal (changesOf property changes) (changesOf property (merge changes))) ∧
      merge (merge changes) = merge changes ∧
      ∀ others, Reorders changes others →
        List.Forall₂ (fun made other => made.property = other.property ∧
          made.change.SameButOrder other.change) (merge changes) (merge others) := by
  refine ⟨⟨distinctNames (changes.map (·.property)), nodup_distinctNames _,
    pairwise_firstBefore changes, fun name => ?_, ?_⟩, fun property unassigned => ?_,
    merge_merge formed, fun others reorders => merge_reorders reorders formed⟩
  · rw [mem_distinctNames, List.mem_map]
  · simp only [changesOf_merge]
    rfl
  · rw [changesOf_merge]
    exact Change.normal_mergeAll unassigned (formed_changesOf formed property)

def tagging : List PropertyChange :=
  [⟨"tags", .addToSet [.text "old"]⟩, ⟨"name", .assign (.text "first")⟩,
    ⟨"tags", .removeFromSet [.text "lost"]⟩, ⟨"tags", .addToSet [.text "new"]⟩]

def retagging : List PropertyChange :=
  [⟨"tags", .addToSet [.text "new"]⟩, ⟨"name", .assign (.text "first")⟩,
    ⟨"tags", .removeFromSet [.text "lost"]⟩, ⟨"tags", .addToSet [.text "old"]⟩]

theorem reorders_tagging : Reorders tagging retagging := by
  refine ⟨?_, fun name other => Iff.rfl, fun property => ?_⟩
  · exact (List.perm_append_comm : ([_, _, _] ++ [_]).Perm _).trans
      (.cons _ (List.perm_append_comm : ([_] ++ [_, _]).Perm _))
  · by_cases tags : property = "tags"
    · subst tags
      have observed : changesOf "tags" tagging =
          [.addToSet [.text "old"], .removeFromSet [.text "lost"], .addToSet [.text "new"]] := rfl
      have reordered : changesOf "tags" retagging =
          [.addToSet [.text "new"], .removeFromSet [.text "lost"], .addToSet [.text "old"]] := rfl
      rw [observed, reordered]
      refine ⟨rfl, [], _, _, .never (by simp [isClear]), .never (by simp [isClear]),
        fun name _ => ⟨?_, rfl⟩⟩
      cases name with
      | text word =>
          have same (tag : String) :
              (FieldValue.text tag == FieldValue.text word) = (tag == word) := rfl
          by_cases old : "old" = word
          · subst old
            rfl
          · by_cases new : "new" = word
            · subst new
              rfl
            · simp [setMentions, List.filter_cons, same, old, new]
      | _ => rfl
    · have same : changesOf property tagging = changesOf property retagging := by
        simp [tagging, retagging, Ne.symm tags]
      rw [same]
      exact .refl _

theorem merge_tagging :
    (∀ change ∈ tagging, AllFormed change.change.named) ∧ merge (merge tagging) = merge tagging ∧
      Reorders tagging retagging ∧
      List.Forall₂ (fun made other => made.property = other.property ∧
        made.change.SameButOrder other.change) (merge tagging) (merge retagging) := by
  have formed : ∀ change ∈ tagging, AllFormed change.change.named := by
    have text (word : String) : (FieldValue.text word).WellFormed := .scalar rfl
    simp [tagging, Change.named, AllFormed, text]
  obtain ⟨_, _, again, reordered⟩ := merge_normal tagging formed
  exact ⟨formed, again, reorders_tagging, reordered retagging reorders_tagging⟩

end PropertyChange

end CqlMapper

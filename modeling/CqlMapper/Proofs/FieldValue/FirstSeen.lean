import Mathlib.Data.List.Induction
import CqlMapper.Proofs.FieldValue.Contents

/-!
Sets and maps made of lists. A set keeps each value that no earlier one equals, and a map keeps each
such key with the value of its last entry. This needs equality to be transitive and nothing more:
it also holds of values that repeat an element or a key, whose equality is not symmetric.
-/

namespace CqlMapper.FieldValue

structure Unrepeated (kind : FieldValue → Prop) (items : List FieldValue) : Prop where
  each : ∀ item ∈ items, kind item
  apart : items.Pairwise fun item later => (item == later) = false

namespace Unrepeated

variable {kind other : FieldValue → Prop} {items values : List FieldValue} {value : FieldValue}

theorem nil : Unrepeated kind [] :=
  ⟨List.forall_mem_nil _, .nil⟩

theorem single (fits : kind value) : Unrepeated kind [value] :=
  ⟨List.forall_mem_singleton.mpr fits, List.pairwise_singleton _ _⟩

theorem mono (unrepeated : Unrepeated kind items) (wider : ∀ value, kind value → other value) :
    Unrepeated other items :=
  ⟨fun item member => wider item (unrepeated.each item member), unrepeated.apart⟩

theorem append (unrepeated : Unrepeated kind items) (fits : kind value)
    (fresh : contained items value = false) : Unrepeated kind (items ++ [value]) := by
  refine ⟨List.forall_mem_append.mpr ⟨unrepeated.each, List.forall_mem_singleton.mpr fits⟩, ?_⟩
  refine List.pairwise_append.mpr ⟨unrepeated.apart, List.pairwise_singleton _ _, ?_⟩
  intro item member later single
  rw [List.mem_singleton.mp single]
  simpa using List.any_eq_false.mp fresh item member

theorem addNew (unrepeated : Unrepeated kind items) (fits : kind value) :
    Unrepeated kind (addNew items value) := by
  unfold FieldValue.addNew
  split
  · exact unrepeated
  · rename_i absent
    exact unrepeated.append fits (Bool.eq_false_iff.mpr absent)

theorem without (unrepeated : Unrepeated kind items) (value : FieldValue) :
    Unrepeated kind (without items value) :=
  ⟨fun item member => unrepeated.each item (List.mem_filter.mp member).1,
    unrepeated.apart.sublist List.filter_sublist⟩

theorem addAll (unrepeated : Unrepeated kind items) (fits : ∀ value ∈ values, kind value) :
    Unrepeated kind (values.foldl FieldValue.addNew items) :=
  List.foldlRecOn (motive := Unrepeated kind) values _ unrepeated fun _ kept value member =>
    kept.addNew (fits value member)

theorem removeAll (unrepeated : Unrepeated kind items) (values : List FieldValue) :
    Unrepeated kind (values.foldl FieldValue.without items) :=
  List.foldlRecOn (motive := Unrepeated kind) values _ unrepeated fun _ kept value _ =>
    kept.without value

theorem keys_putEntry {entries : List (FieldValue × FieldValue)} {key : FieldValue}
    (unrepeated : Unrepeated kind (keys entries)) (fits : kind key) (value : FieldValue) :
    Unrepeated kind (keys (putEntry key value entries)) := by
  rw [FieldValue.keys_putEntry]
  exact unrepeated.addNew fits

theorem keys_withoutKey {entries : List (FieldValue × FieldValue)}
    (unrepeated : Unrepeated kind (keys entries)) (key : FieldValue) :
    Unrepeated kind (keys (withoutKey entries key)) := by
  rw [FieldValue.keys_withoutKey]
  exact unrepeated.without key

theorem keys_putAll {kept : List (FieldValue × FieldValue)}
    (unrepeated : Unrepeated kind (keys kept)) (entries : List (FieldValue × FieldValue))
    (fits : ∀ key ∈ keys entries, kind key) :
    Unrepeated kind (keys (putAll entries kept)) := by
  refine List.foldlRecOn (motive := fun kept => Unrepeated kind (keys kept)) entries _ unrepeated ?_
  intro kept held entry member
  exact held.keys_putEntry (fits entry.1 (List.mem_map_of_mem member)) entry.2

theorem keys_dropAll {kept : List (FieldValue × FieldValue)}
    (unrepeated : Unrepeated kind (keys kept)) (dropped : List FieldValue) :
    Unrepeated kind (keys (dropped.foldl withoutKey kept)) :=
  List.foldlRecOn (motive := fun kept => Unrepeated kind (keys kept)) dropped _ unrepeated
    fun _ held key _ => held.keys_withoutKey key

/-- Among well-formed items it does not matter which of two comes first. -/
theorem either_way (unrepeated : Unrepeated kind items)
    (formed : ∀ value, kind value → value.WellFormed) :
    items.Pairwise fun item other => (item == other) = false ∧ (other == item) = false := by
  refine List.Pairwise.imp_of_mem ?_ unrepeated.apart
  intro item other member belongs apart
  have first := formed item (unrepeated.each item member)
  have second := formed other (unrepeated.each other belongs)
  refine ⟨apart, Bool.eq_false_iff.mpr fun same => ?_⟩
  exact Bool.eq_false_iff.mp apart ((first.symm second).mpr same)

theorem eq_of_beq {item found : FieldValue} (unrepeated : Unrepeated kind items)
    (formed : ∀ value, kind value → value.WellFormed) (member : item ∈ items)
    (belongs : found ∈ items) (same : (item == found) = true) : item = found := by
  have never {item other : FieldValue} (apart : (item == other) = false)
      (same : (item == other) = true) : item = other := by
    rw [apart] at same
    cases same
  have forward : items.Pairwise fun item other => (item == other) = true → item = other :=
    (unrepeated.either_way formed).imp fun apart => never apart.1
  have backward : items.Pairwise (flip fun item other => (item == other) = true → item = other) :=
    (unrepeated.either_way formed).imp fun apart => never apart.2
  exact forward.forall_of_forall_of_flip (fun _ _ _ => rfl) backward member belongs same

end Unrepeated

inductive FirstSeen : List FieldValue → List FieldValue → Prop
  | nil : FirstSeen [] []
  | fresh {values kept : List FieldValue} {value : FieldValue} (seen : FirstSeen values kept)
      (unknown : contained values value = false) :
      FirstSeen (values ++ [value]) (kept ++ [value])
  | again {values kept : List FieldValue} {value : FieldValue} (seen : FirstSeen values kept)
      (known : contained values value = true) : FirstSeen (values ++ [value]) kept

def firstEqual? (values : List FieldValue) (value : FieldValue) : Option FieldValue :=
  values.find? (· == value)

theorem beq_of_firstEqual? {values : List FieldValue} {value first : FieldValue}
    (found : firstEqual? values value = some first) : (first == value) = true := by
  rw [firstEqual?] at found
  simpa using List.find?_some found

theorem firstEqual?_append (values : List FieldValue) (last value : FieldValue) :
    firstEqual? (values ++ [last]) value =
      (firstEqual? values value).or (if last == value then some last else none) := by
  rw [firstEqual?, List.find?_append, List.find?_singleton]
  rfl

theorem contained_eq_isSome (values : List FieldValue) (value : FieldValue) :
    contained values value = (firstEqual? values value).isSome := by
  rw [firstEqual?, contained, List.isSome_find?]

namespace FirstSeen

variable {values kept : List FieldValue}

theorem subset (seen : FirstSeen values kept) : kept ⊆ values := by
  induction seen with
  | nil => exact List.Subset.refl _
  | fresh _ _ ih =>
      exact List.append_subset.mpr
        ⟨List.subset_append_of_subset_left _ ih, List.subset_append_right _ _⟩
  | again _ _ ih => exact List.subset_append_of_subset_left _ ih

/-- What is kept stands in for all values: a value equals one of them if it equals one kept. -/
theorem firstEqual?_eq (seen : FirstSeen values kept) (value : FieldValue) :
    firstEqual? kept value = firstEqual? values value := by
  induction seen with
  | nil => rfl
  | fresh _ _ ih => rw [firstEqual?_append, firstEqual?_append, ih]
  | @again values kept last _ known ih =>
      rw [firstEqual?_append, ih]
      by_cases same : (last == value) = true
      · -- What equals the last value equals its predecessor too.
        obtain ⟨earlier, member, equal⟩ := (contained_iff values last).mp known
        have found : contained values value = true :=
          (contained_iff values value).mpr ⟨earlier, member, beq_trans equal same⟩
        rw [contained_eq_isSome] at found
        obtain ⟨first, found⟩ := Option.isSome_iff_exists.mp found
        rw [found]
        rfl
      · rw [if_neg same, Option.or_none]

theorem contained_eq (seen : FirstSeen values kept) (value : FieldValue) :
    contained kept value = contained values value := by
  rw [contained_eq_isSome, contained_eq_isSome, seen.firstEqual?_eq]

theorem unrepeated (seen : FirstSeen values kept) : Unrepeated (· ∈ values) kept := by
  induction seen with
  | nil => exact .nil
  | @fresh values kept value seen unknown ih =>
      have absent := (seen.contained_eq value).trans unknown
      have wider : Unrepeated (· ∈ values ++ [value]) kept :=
        ih.mono fun _ member => List.mem_append_left _ member
      exact wider.append (List.mem_append_right _ (List.mem_singleton.mpr rfl)) absent
  | again _ _ ih => exact ih.mono fun _ member => List.mem_append_left _ member

end FirstSeen

theorem firstSeen_addAll (values : List FieldValue) :
    FirstSeen values (values.foldl addNew []) := by
  induction values using List.reverseRecOn with
  | nil => exact .nil
  | append_singleton values value ih =>
      have known := ih.contained_eq value
      rw [List.foldl_append, List.foldl_cons, List.foldl_nil, addNew]
      split
      · rename_i present
        exact .again ih (known.symm.trans present)
      · rename_i absent
        exact .fresh ih (known.symm.trans (Bool.eq_false_iff.mpr absent))

theorem keys_putAll (entries kept : List (FieldValue × FieldValue)) :
    keys (putAll entries kept) = (keys entries).foldl addNew (keys kept) := by
  induction entries generalizing kept with
  | nil => rfl
  | cons entry entries ih =>
      change keys (putAll entries (putEntry entry.1 entry.2 kept)) = _
      rw [ih, keys_putEntry]
      rfl

theorem firstSeen_putAll (entries : List (FieldValue × FieldValue)) :
    FirstSeen (keys entries) (keys (putAll entries [])) := by
  rw [keys_putAll]
  exact firstSeen_addAll (keys entries)

inductive Representable : FieldValue → Prop
  | scalar {value : FieldValue} (scalar : value.isScalar = true) : Representable value
  | list {items : List FieldValue} (each : ∀ item ∈ items, Representable item) :
      Representable (.list items)
  | set {items : List FieldValue} (each : ∀ item ∈ items, Representable item) :
      Representable (.set items)
  | map {entries : List (FieldValue × FieldValue)} (keys : ∀ entry ∈ entries, Representable entry.1)
      (values : ∀ entry ∈ entries, Representable entry.2) : Representable (.map entries)

theorem Representable.refl {value : FieldValue} (representable : value.Representable) :
    (value == value) = true := by
  induction representable with
  | scalar scalar => exact (scalar_beq_iff scalar (.scalar scalar)).mpr rfl
  | @list items each ih =>
      rw [list_beq]
      clear each
      induction items with
      | nil => rfl
      | cons item items rest =>
          obtain ⟨first, others⟩ := List.forall_mem_cons.mp ih
          simp only [equalItems, Bool.and_eq_true]
          exact ⟨first, rest others⟩
  | set each ih =>
      exact (set_beq_iff _ _).mpr ⟨rfl, fun item member => ⟨item, member, ih item member⟩⟩
  | map keys values keysIh valuesIh =>
      exact (map_beq_iff _ _).mpr ⟨rfl, fun entry member =>
        ⟨entry, member, keysIh entry member, valuesIh entry member⟩⟩

def LastEntry (entries : List (FieldValue × FieldValue)) (kind : FieldValue → Prop)
    (value : FieldValue) : Prop :=
  ∃ front key back, entries = front ++ (key, value) :: back ∧ kind key ∧
    ∀ later ∈ back, ¬kind later.1

namespace LastEntry

variable {entries : List (FieldValue × FieldValue)} {kind other : FieldValue → Prop}
  {value : FieldValue}

theorem here {entry : FieldValue × FieldValue} (fits : kind entry.1) :
    LastEntry (entries ++ [entry]) kind entry.2 :=
  ⟨entries, entry.1, [], rfl, fits, List.forall_mem_nil _⟩

theorem before {entry : FieldValue × FieldValue} (last : LastEntry entries kind value)
    (different : ¬kind entry.1) : LastEntry (entries ++ [entry]) kind value := by
  obtain ⟨front, key, back, rfl, fits, later⟩ := last
  refine ⟨front, key, back ++ [entry], by simp, fits, ?_⟩
  exact List.forall_mem_append.mpr ⟨later, List.forall_mem_singleton.mpr different⟩

theorem eq_of_kind {entry : FieldValue × FieldValue}
    (last : LastEntry (entries ++ [entry]) kind value) (fits : kind entry.1) : value = entry.2 := by
  obtain ⟨front, key, back, split, -, later⟩ := last
  rcases List.eq_nil_or_concat back with rfl | ⟨between, final, rfl⟩
  · obtain ⟨-, same⟩ := List.append_inj' split rfl
    rw [List.singleton_inj.mp same]
  · rw [List.concat_eq_append, ← List.cons_append, ← List.append_assoc] at split
    obtain ⟨-, same⟩ := List.append_inj' split rfl
    rw [List.singleton_inj.mp same] at fits
    exact absurd fits (later final (by simp))

theorem congr (last : LastEntry entries kind value)
    (same : ∀ key ∈ keys entries, kind key ↔ other key) : LastEntry entries other value := by
  obtain ⟨front, key, back, rfl, fits, later⟩ := last
  simp only [keys, List.map_append, List.map_cons, List.forall_mem_append,
    List.forall_mem_cons] at same
  refine ⟨front, key, back, rfl, same.2.1.mp fits, fun entry member found => ?_⟩
  exact later entry member ((same.2.2 _ (List.mem_map_of_mem member)).mpr found)

end LastEntry

/-- An entry is put under the first key that equals its own, and the other entries stay. -/
theorem mem_putEntry {kept : List (FieldValue × FieldValue)} {key value : FieldValue}
    {entry : FieldValue × FieldValue}
    (unrepeated : Unrepeated (fun name => (name == name) = true) (keys kept))
    (member : entry ∈ putEntry key value kept) :
    entry = ((firstEqual? (keys kept) key).getD key, value) ∨
      entry ∈ kept ∧ entry.1 ≠ (firstEqual? (keys kept) key).getD key := by
  induction kept with
  | nil => exact .inl (List.mem_singleton.mp member)
  | cons first kept ih =>
      obtain ⟨reflexive, others⟩ := List.forall_mem_cons.mp unrepeated.each
      obtain ⟨apart, rest⟩ := List.pairwise_cons.mp unrepeated.apart
      rw [putEntry] at member
      rw [keys, List.map_cons, firstEqual?, List.find?_cons]
      by_cases same : (first.1 == key) = true
      · simp only [same, ↓reduceIte, Option.getD_some] at member ⊢
        rcases List.mem_cons.mp member with rfl | later
        · exact .inl rfl
        · refine .inr ⟨List.mem_cons_of_mem _ later, fun equal => ?_⟩
          have different := apart entry.1 (List.mem_map_of_mem later)
          rw [equal, reflexive] at different
          cases different
      · simp only [same, Bool.false_eq_true, ↓reduceIte] at member ⊢
        rcases List.mem_cons.mp member with rfl | later
        · refine .inr ⟨List.mem_cons_self, fun equal => same ?_⟩
          cases found : firstEqual? (keys kept) key with
          | none =>
              have own : entry.1 = key := equal.trans (congrArg (Option.getD · key) found)
              rw [← own]
              exact reflexive
          | some name =>
              have own : entry.1 = name := equal.trans (congrArg (Option.getD · key) found)
              rw [own]
              exact beq_of_firstEqual? found
        · rcases ih ⟨others, rest⟩ later with put | ⟨old, elsewhere⟩
          · exact .inl put
          · exact .inr ⟨List.mem_cons_of_mem _ old, elsewhere⟩

theorem firstEqual?_of_mem {values : List FieldValue} {value : FieldValue} (member : value ∈ values)
    (reflexive : (value == value) = true) : ∃ first, firstEqual? values value = some first := by
  apply Option.isSome_iff_exists.mp
  rw [← contained_eq_isSome]
  exact (contained_iff values value).mpr ⟨value, member, reflexive⟩

/-- An entry counts for the first key that equals its own. Each key kept has the value of the last
entry that counts for it. -/
theorem lastEntry_putAll {entries : List (FieldValue × FieldValue)}
    {entry : FieldValue × FieldValue}
    (reflexive : ∀ key ∈ keys entries, (key == key) = true)
    (member : entry ∈ putAll entries []) :
    LastEntry entries (fun key => firstEqual? (keys entries) key = some entry.1) entry.2 := by
  induction entries using List.reverseRecOn generalizing entry with
  | nil => cases member
  | append_singleton entries last ih =>
      have names : keys (entries ++ [last]) = keys entries ++ [last.1] := by simp [keys]
      rw [names] at reflexive ⊢
      obtain ⟨earlier, own⟩ := List.forall_mem_append.mp reflexive
      have lastReflexive := List.forall_mem_singleton.mp own
      have seen := firstSeen_putAll entries
      -- The last entry goes where its key is found, or under its key if that is new.
      have goes : firstEqual? (keys entries ++ [last.1]) last.1 =
          some ((firstEqual? (keys (putAll entries [])) last.1).getD last.1) := by
        rw [seen.firstEqual?_eq, firstEqual?_append, if_pos lastReflexive]
        cases firstEqual? (keys entries) last.1 <;> rfl
      have kept : Unrepeated (fun key => (key == key) = true) (keys (putAll entries [])) :=
        seen.unrepeated.mono earlier
      have put : putAll (entries ++ [last]) [] = putEntry last.1 last.2 (putAll entries []) := by
        simp [putAll, List.foldl_append]
      rw [put] at member
      rcases mem_putEntry kept member with same | ⟨old, elsewhere⟩
      · rw [same]
        exact .here goes
      · refine LastEntry.before ((ih earlier old).congr fun key among => ?_) ?_
        · obtain ⟨first, found⟩ := firstEqual?_of_mem among (earlier key among)
          rw [firstEqual?_append, found]
          rfl
        · rw [goes]
          exact fun equal => elsewhere (Option.some.inj equal).symm

/-- Among well-formed keys an entry counts for the one key that equals its own. -/
theorem firstEqual?_eq_some_iff {values kept : List FieldValue} {value item : FieldValue}
    (formed : AllFormed values) (seen : FirstSeen values kept) (among : value ∈ values)
    (member : item ∈ kept) : firstEqual? values value = some item ↔ (item == value) = true := by
  constructor
  · exact beq_of_firstEqual?
  · intro same
    obtain ⟨first, found⟩ := firstEqual?_of_mem among (formed value among).refl
    rw [found, Option.some_inj]
    have equal := beq_of_firstEqual? found
    rw [← seen.firstEqual?_eq] at found
    have belongs : first ∈ kept := List.mem_of_find?_eq_some found
    have itemFormed := formed item (seen.subset member)
    have swapped := (itemFormed.symm (formed value among)).mp same
    exact seen.unrepeated.eq_of_beq formed belongs member (beq_trans equal swapped)

theorem setOf_firstSeen (values : List FieldValue) :
    ∃ items, setOf values = .set items ∧ FirstSeen values items :=
  ⟨_, rfl, firstSeen_addAll values⟩

theorem mapOf_firstSeen (entries : List (FieldValue × FieldValue)) :
    ∃ kept, mapOf entries = .map kept ∧ FirstSeen (keys entries) (keys kept) ∧
      ((∀ key ∈ keys entries, (key == key) = true) → ∀ entry ∈ kept,
        LastEntry entries (fun key => firstEqual? (keys entries) key = some entry.1) entry.2) :=
  ⟨putAll entries [], rfl, firstSeen_putAll entries, fun reflexive _ => lastEntry_putAll reflexive⟩

end CqlMapper.FieldValue

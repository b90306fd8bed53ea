import CqlMapper.Proofs.FieldValue.FirstSeen
import CqlMapper.Proofs.Record.Atomicity
import CqlMapper.Proofs.Record.Tracking

/-!
Collections repeat nothing. Sets and maps made of lists repeat no element and no key, and neither do
those of a record and those in the changes that it reports, whatever was done with it.
-/

namespace CqlMapper

open FieldValue

def FieldValue.RepeatsNothing (kind : FieldValue → Prop) : FieldValue → Prop
  | .set items => Unrepeated kind items
  | .map entries => Unrepeated kind (keys entries)
  | _ => True

def Change.RepeatsNothing (kind : FieldValue → Prop) : Change → Prop
  | .assign value => value.RepeatsNothing kind
  | .addToSet values | .removeFromSet values | .removeFromMap values => Unrepeated kind values
  | .putToMap entries => Unrepeated kind (keys entries)
  | .append _ | .prepend _ | .setAt _ _ | .removeAt _ | .clear => True

def Mutation.Carries (kind : FieldValue → Prop) : Mutation → Prop
  | .set _ value => value.RepeatsNothing kind
  | .setAdd _ value | .setRemove _ value | .mapRemove _ value => kind value
  | .mapPut _ key _ => kind key
  | .increment _ _ | .listAppend _ _ | .listPrepend _ _ | .listSet _ _ _ | .listRemoveAt _ _
  | .clear _ | .markClean => True

variable {kind : FieldValue → Prop}

namespace FieldValue

variable {value : FieldValue}

theorem RepeatsNothing.onList (held : value.RepeatsNothing kind)
    (operation : List FieldValue → List FieldValue) :
    (value.onList operation).RepeatsNothing kind := by
  cases value with
  | null | list _ => trivial
  | _ => exact held

theorem RepeatsNothing.onSet {operation : List FieldValue → List FieldValue}
    (held : value.RepeatsNothing kind)
    (kept : ∀ items, Unrepeated kind items → Unrepeated kind (operation items)) :
    (value.onSet operation).RepeatsNothing kind := by
  cases value with
  | null => exact kept [] .nil
  | set items => exact kept items held
  | _ => exact held

theorem RepeatsNothing.onMap
    {operation : List (FieldValue × FieldValue) → List (FieldValue × FieldValue)}
    (held : value.RepeatsNothing kind)
    (kept : ∀ entries, Unrepeated kind (keys entries) →
      Unrepeated kind (keys (operation entries))) :
    (value.onMap operation).RepeatsNothing kind := by
  cases value with
  | null => exact kept [] .nil
  | map entries => exact kept entries held
  | _ => exact held

end FieldValue

theorem Change.RepeatsNothing.applyTo {change : Change} {value : FieldValue}
    (carried : change.RepeatsNothing kind) (held : value.RepeatsNothing kind) :
    (change.applyTo value).RepeatsNothing kind := by
  cases change with
  | assign new => exact carried
  | addToSet values => exact held.onSet fun items kept => kept.addAll carried.each
  | removeFromSet values => exact held.onSet fun items kept => kept.removeAll values
  | putToMap entries => exact held.onMap fun kept unrepeated =>
      unrepeated.keys_putAll entries carried.each
  | removeFromMap dropped => exact held.onMap fun kept unrepeated =>
      unrepeated.keys_dropAll dropped
  | append _ | prepend _ | setAt _ _ | removeAt _ => exact held.onList _
  | clear => trivial

namespace MergedChanges

structure RepeatsNothing (kind : FieldValue → Prop) (merged : MergedChanges) : Prop where
  listChanges : ∀ change ∈ merged.listChanges, change.RepeatsNothing kind
  added : Unrepeated kind merged.added
  removed : Unrepeated kind merged.removed
  put : Unrepeated kind (keys merged.put)
  dropped : Unrepeated kind merged.dropped

variable {merged : MergedChanges}

theorem RepeatsNothing.add {value : FieldValue} (held : merged.RepeatsNothing kind)
    (fits : kind value) : (add merged value).RepeatsNothing kind :=
  ⟨held.listChanges, held.added.addNew fits, held.removed.without value, held.put, held.dropped⟩

theorem RepeatsNothing.remove {value : FieldValue} (held : merged.RepeatsNothing kind)
    (fits : kind value) : (remove merged value).RepeatsNothing kind :=
  ⟨held.listChanges, held.added.without value, held.removed.addNew fits, held.put, held.dropped⟩

theorem RepeatsNothing.putEntry {entry : FieldValue × FieldValue}
    (held : merged.RepeatsNothing kind) (fits : kind entry.1) :
    (putEntry merged entry).RepeatsNothing kind :=
  ⟨held.listChanges, held.added, held.removed, held.put.keys_putEntry fits entry.2,
    held.dropped.without entry.1⟩

theorem RepeatsNothing.dropKey {key : FieldValue} (held : merged.RepeatsNothing kind)
    (fits : kind key) : (dropKey merged key).RepeatsNothing kind :=
  ⟨held.listChanges, held.added, held.removed, held.put.keys_withoutKey key,
    held.dropped.addNew fits⟩

theorem RepeatsNothing.step {change : Change} (held : merged.RepeatsNothing kind)
    (carried : change.RepeatsNothing kind) : (step merged change).RepeatsNothing kind := by
  have noted : { merged with listChanges := merged.listChanges ++ [change] }.RepeatsNothing kind :=
    ⟨List.forall_mem_append.mpr ⟨held.listChanges, List.forall_mem_singleton.mpr carried⟩,
      held.added, held.removed, held.put, held.dropped⟩
  cases change with
  | addToSet values =>
      exact List.foldlRecOn (motive := RepeatsNothing kind) values _ held fun _ kept value member =>
        kept.add (carried.each value member)
  | removeFromSet values =>
      exact List.foldlRecOn (motive := RepeatsNothing kind) values _ held fun _ kept value member =>
        kept.remove (carried.each value member)
  | putToMap entries =>
      refine List.foldlRecOn (motive := RepeatsNothing kind) entries _ held ?_
      exact fun _ kept entry member =>
        kept.putEntry (carried.each entry.1 (List.mem_map_of_mem member))
  | removeFromMap dropped =>
      exact List.foldlRecOn (motive := RepeatsNothing kind) dropped _ held fun _ kept key member =>
        kept.dropKey (carried.each key member)
  | _ => exact noted

theorem RepeatsNothing.changes (held : merged.RepeatsNothing kind) :
    ∀ change ∈ merged.changes, change.RepeatsNothing kind :=
  forall_mem_changes held.listChanges (fun _ => held.added) (fun _ => held.removed)
    (fun _ => held.put) fun _ => held.dropped

end MergedChanges

theorem Change.mergeAll_repeatsNothing {changes : List Change}
    (carried : ∀ change ∈ changes, change.RepeatsNothing kind) :
    ∀ change ∈ mergeAll changes, change.RepeatsNothing kind := by
  have nothing : MergedChanges.empty.RepeatsNothing kind :=
    ⟨List.forall_mem_nil _, .nil, .nil, .nil, .nil⟩
  exact forall_mem_mergeAll carried trivial nothing MergedChanges.RepeatsNothing.step
    MergedChanges.RepeatsNothing.changes

structure Stable (values : FieldValue → Prop) (changes : Change → Prop) : Prop where
  null : values .null
  counter : ∀ amount, values (.counter amount)
  assign : ∀ {value}, values value → changes (.assign value)
  clear : changes .clear
  applyTo : ∀ {change value}, changes change → values value → values (change.applyTo value)
  mergeAll : ∀ {observed}, (∀ change ∈ observed, changes change) →
    ∀ change ∈ Change.mergeAll observed, changes change

theorem stable_repeatsNothing (kind : FieldValue → Prop) :
    Stable (·.RepeatsNothing kind) (·.RepeatsNothing kind) where
  null := trivial
  counter _ := trivial
  assign held := held
  clear := trivial
  applyTo carried held := carried.applyTo held
  mergeAll := Change.mergeAll_repeatsNothing

theorem stable_wellFormed : Stable FieldValue.WellFormed Change.WellFormed where
  null := .scalar rfl
  counter _ := .scalar rfl
  assign formed := formed
  clear := trivial
  applyTo carried formed := carried.applyTo formed
  mergeAll := Change.mergeAll_wellFormed

structure Mutation.Brings (values : FieldValue → Prop) (changes : Change → Prop)
    (mutation : Mutation) : Prop where
  assigned : ∀ {property value}, mutation = .set property value → values value
  noted : ∀ {kind change}, mutation.operation? = some (kind, change) → changes change

theorem Mutation.Carries.brings {mutation : Mutation} (carries : mutation.Carries kind) :
    mutation.Brings (·.RepeatsNothing kind) (·.RepeatsNothing kind) := by
  constructor
  · rintro property value rfl
    exact carries
  · intro collection change operation
    cases mutation with
    | setAdd _ _ | setRemove _ _ | mapRemove _ _ | mapPut _ _ _ =>
        cases operation
        exact .single carries
    | _ => cases operation <;> trivial

theorem Mutation.WellFormed.brings {mutation : Mutation} (formed : mutation.WellFormed) :
    mutation.Brings FieldValue.WellFormed Change.WellFormed := by
  constructor
  · rintro property value rfl
    exact formed
  · exact fun operation => (formed.operation operation).1

structure Facet.Holds (values : FieldValue → Prop) (changes : Change → Prop) (facet : Facet) :
    Prop where
  current : values facet.current
  operations : ∀ change ∈ facet.operations, changes change

namespace Stable

variable {values : FieldValue → Prop} {changes : Change → Prop} {facet next : Facet}
  {mutation : Mutation}

theorem operate (stable : Stable values changes) (holds : facet.Holds values changes)
    {change : Change} (carried : changes change) : (facet.operate change).Holds values changes := by
  have made := stable.applyTo carried holds.current
  cases assigned : facet.assigned with
  | true =>
      rw [Facet.operate_assigned assigned]
      exact ⟨made, holds.operations⟩
  | false =>
      cases cleared : facet.cleared with
      | true =>
          rw [Facet.operate_cleared assigned cleared]
          exact ⟨made, List.forall_mem_nil _⟩
      | false =>
          rw [Facet.operate_noted assigned cleared]
          exact ⟨made, List.forall_mem_append.mpr
            ⟨holds.operations, List.forall_mem_singleton.mpr carried⟩⟩

theorem step (stable : Stable values changes) (holds : facet.Holds values changes)
    (brings : mutation.Brings values changes) (step : facet.Step mutation next) :
    next.Holds values changes := by
  cases step with
  | set => exact ⟨brings.assigned rfl, List.forall_mem_nil _⟩
  | increment => exact ⟨holds.current, holds.operations⟩
  | clear => exact ⟨stable.null, List.forall_mem_singleton.mpr stable.clear⟩
  | markClean => exact ⟨holds.current, List.forall_mem_nil _⟩
  | operate operation shape => exact stable.operate holds (brings.noted operation)

end Stable

namespace Record

variable {values : FieldValue → Prop} {changes : Change → Prop} {record : Record}

inductive Fresh (values : FieldValue → Prop) : Record → Prop
  | new (entity : String) : Fresh values (.new entity)
  | loaded (entity : String) (entries : List (String × FieldValue))
      (each : ∀ entry ∈ entries, values entry.2) : Fresh values (.loaded entity entries)

def Keeps (values : FieldValue → Prop) (changes : Change → Prop) (record : Record) : Prop :=
  ∀ property, (record.facet property).Holds values changes

theorem Fresh.keeps (stable : Stable values changes) (fresh : record.Fresh values) :
    record.Keeps values changes := by
  intro property
  refine ⟨?_, ?_⟩
  · cases fresh with
    | new entity => exact stable.null
    | loaded entity entries each =>
        have all : ∀ property, values ((Fields.empty.setAll entries).value property) :=
          Fields.forall_setAll entries each fun _ => stable.null
        exact all property
  · cases fresh <;> exact List.forall_mem_nil _

theorem Keeps.perform {mutation : Mutation} (keeps : record.Keeps values changes)
    (stable : Stable values changes) (brings : mutation.Brings values changes) :
    (record.perform mutation).2.Keeps values changes := by
  rw [perform_eq]
  cases result : record.apply mutation with
  | error problem => exact keeps
  | ok next =>
      intro property
      have moves := facet_apply property result
      change (next.facet property).Holds values changes
      generalize next.facet property = facet at moves
      cases moves with
      | here about step => exact stable.step (keeps property) brings step
      | elsewhere about different => exact keeps property

theorem Keeps.performAll {mutations : List Mutation} (keeps : record.Keeps values changes)
    (stable : Stable values changes)
    (brings : ∀ mutation ∈ mutations, mutation.Brings values changes) :
    (record.performAll mutations).Keeps values changes :=
  List.foldlRecOn (motive := Keeps values changes) mutations _ keeps
    fun _ kept mutation member => kept.perform stable (brings mutation member)

theorem Keeps.dirtyChanges (keeps : record.Keeps values changes) (stable : Stable values changes) :
    ∀ change ∈ record.dirtyChanges, changes change.change := by
  refine List.forall_mem_append.mpr ⟨List.forall_mem_append.mpr ⟨?_, ?_⟩, ?_⟩
  · intro change member
    obtain ⟨property, _, rfl⟩ := List.mem_map.mp member
    exact stable.assign (keeps property).current
  · intro change member
    obtain ⟨property, _, own⟩ := List.mem_flatMap.mp member
    obtain ⟨merged, belongs, rfl⟩ := List.mem_map.mp own
    exact stable.mergeAll (keeps property).operations merged belongs
  · intro change member
    obtain ⟨entry, _, rfl⟩ := List.mem_map.mp member
    exact stable.assign (stable.counter entry.2)

end Record

/-- Sets and maps made of lists keep what comes up first, and repeat nothing. No element of a set
and no key of a map equals one after it, nor one before it if they are well-formed. A key has the
value of the last entry that counts for it: an entry counts for the first key that equals its own,
which among well-formed keys is the only one. A record made of collections that repeat nothing, and
given only such collections, holds and reports no others, whatever operations succeed or fail. -/
theorem collections_unrepeated :
    (∀ values : List FieldValue, ∃ items, setOf values = .set items ∧
      FirstSeen values items ∧ Unrepeated (· ∈ values) items ∧
      (∀ value, contained items value = contained values value) ∧
      ∀ value ∈ values, value.Representable → contained items value = true) ∧
    (∀ entries : List (FieldValue × FieldValue), ∃ kept, mapOf entries = .map kept ∧
      FirstSeen (keys entries) (keys kept) ∧ Unrepeated (· ∈ keys entries) (keys kept) ∧
      ((∀ key ∈ keys entries, key.Representable) → ∀ entry ∈ kept,
        LastEntry entries (fun key => firstEqual? (keys entries) key = some entry.1) entry.2) ∧
      (AllFormed (keys entries) → ∀ entry ∈ kept,
        LastEntry entries (fun key => (entry.1 == key) = true) entry.2)) ∧
    (∀ (kind : FieldValue → Prop) (items : List FieldValue), Unrepeated kind items →
      (∀ value, kind value → value.WellFormed) →
        items.Pairwise fun item other => (item == other) = false ∧ (other == item) = false) ∧
    (∀ (kind : FieldValue → Prop) (record : Record), record.Fresh (·.RepeatsNothing kind) →
      ∀ mutations : List Mutation, (∀ mutation ∈ mutations, mutation.Carries kind) →
        (∀ property, ((record.performAll mutations).current property).RepeatsNothing kind) ∧
          ∀ change ∈ (record.performAll mutations).dirtyChanges,
            change.change.RepeatsNothing kind) ∧
    ∀ record : Record, record.Fresh FieldValue.WellFormed →
      ∀ mutations : List Mutation, (∀ mutation ∈ mutations, mutation.WellFormed) →
        (∀ property, ((record.performAll mutations).current property).WellFormed) ∧
          ∀ change ∈ (record.performAll mutations).dirtyChanges, change.change.WellFormed := by
  refine ⟨fun values => ?_, fun entries => ?_, fun kind items unrepeated => unrepeated.either_way,
    fun kind record fresh mutations carries => ?_, fun record fresh mutations formed => ?_⟩
  · obtain ⟨items, made, seen⟩ := setOf_firstSeen values
    refine ⟨items, made, seen, seen.unrepeated, seen.contained_eq, fun value among held => ?_⟩
    rw [seen.contained_eq]
    exact (contained_iff values value).mpr ⟨value, among, held.refl⟩
  · obtain ⟨kept, made, seen, last⟩ := mapOf_firstSeen entries
    refine ⟨kept, made, seen, seen.unrepeated,
      fun held => last fun key among => (held key among).refl, fun formed entry member => ?_⟩
    refine (last (fun key among => (formed key among).refl) entry member).congr fun key among => ?_
    exact firstEqual?_eq_some_iff formed seen among (List.mem_map_of_mem member)
  · have stable := stable_repeatsNothing kind
    have keeps := (fresh.keeps stable).performAll stable fun mutation member =>
      (carries mutation member).brings
    exact ⟨fun property => (keeps property).current, keeps.dirtyChanges stable⟩
  · have keeps := (fresh.keeps stable_wellFormed).performAll stable_wellFormed
      fun mutation member => (formed mutation member).brings
    exact ⟨fun property => (keeps property).current, keeps.dirtyChanges stable_wellFormed⟩

def album : Record := .loaded "Album"
  [("tags", .set [.text "live", .text "rock"]), ("scores", .map [(.text "ann", .int 4)])]

/-- The last operation is refused: scores are no set. -/
def relabelling : List Mutation :=
  [.setAdd "tags" (.text "rock"), .setAdd "tags" (.text "new"),
    .mapPut "scores" (.text "ben") (.int 5), .mapPut "scores" (.text "ann") (.int 3),
    .setAdd "scores" (.text "new")]

theorem fresh_album {values : FieldValue → Prop}
    (tags : values (.set [.text "live", .text "rock"]))
    (scores : values (.map [(.text "ann", .int 4)])) : album.Fresh values :=
  .loaded _ _ (List.forall_mem_cons.mpr ⟨tags, List.forall_mem_singleton.mpr scores⟩)

theorem collections_unrepeated_album :
    (∃ items, setOf [text "new", text "live", text "new"] = .set items ∧
      contained items (text "new") = true) ∧
    (∃ kept, mapOf [(text "ann", int 4), (text "ben", int 5), (text "ann", int 3)] = .map kept ∧
      ∀ entry ∈ kept, LastEntry [(text "ann", int 4), (text "ben", int 5), (text "ann", int 3)]
        (fun key => (entry.1 == key) = true) entry.2) ∧
    [text "live", text "rock", text "new"].Pairwise
      (fun item other => (item == other) = false ∧ (other == item) = false) ∧
    (∀ change ∈ (album.performAll relabelling).dirtyChanges,
      change.change.RepeatsNothing (·.isScalar = true)) ∧
    ∀ property, ((album.performAll relabelling).current property).WellFormed := by
  obtain ⟨sets, maps, eitherWay, records, nested⟩ := collections_unrepeated
  have plain (value : String) : (text value).WellFormed := .scalar rfl
  have number (value : Int32) : (int value).WellFormed := .scalar rfl
  have apart : (text "live" == text "rock") = false ∧ (text "rock" == text "live") = false :=
    ⟨rfl, rfl⟩
  have scalars : album.Fresh (·.RepeatsNothing (·.isScalar = true)) :=
    fresh_album ⟨by simp [isScalar], List.pairwise_pair.mpr apart.1⟩ (.single rfl)
  have formed : album.Fresh FieldValue.WellFormed := by
    refine fresh_album (.set ?_ ?_) (.map ?_ ?_ (List.pairwise_singleton _ _))
    · simp [plain]
    · exact List.pairwise_pair.mpr (Bool.eq_false_iff.mp apart.2)
    · exact List.forall_mem_singleton.mpr (plain "ann")
    · exact List.forall_mem_singleton.mpr (number 4)
  obtain ⟨held, reported⟩ := records _ album scalars relabelling
    (by simp [relabelling, Mutation.Carries, isScalar])
  refine ⟨?_, ?_, ?_, reported, ?_⟩
  · obtain ⟨items, made, -, -, -, reached⟩ := sets [text "new", text "live", text "new"]
    exact ⟨items, made, reached _ List.mem_cons_self (.scalar rfl)⟩
  · obtain ⟨kept, made, -, -, -, last⟩ :=
      maps [(text "ann", int 4), (text "ben", int 5), (text "ann", int 3)]
    exact ⟨kept, made, last (by simp [keys, AllFormed, plain])⟩
  · exact eitherWay _ _ (held "tags") fun _ scalar => .scalar scalar
  · refine (nested album formed relabelling ?_).1
    simp [relabelling, Mutation.WellFormed, plain, number]

/-- The sets `{1, 1}` and `{2, 2}` equal `{1, 2}` but not the other way round. A set keeps `{1, 1}`
after `{1, 2}`, and with `{1, 2}` as its third key a map changes only the first of the other two. -/
theorem collections_of_repeating :
    (∃ items, setOf [set [int 1, int 2], set [int 1, int 1]] = .set items ∧
      ¬items.Pairwise fun item other => (item == other) = false ∧ (other == item) = false) ∧
    ∃ kept, mapOf [(set [int 1, int 1], text "a"), (set [int 2, int 2], text "b"),
        (set [int 1, int 2], text "c")] = .map kept ∧
      ¬∀ entry ∈ kept, LastEntry [(set [int 1, int 1], text "a"), (set [int 2, int 2], text "b"),
        (set [int 1, int 2], text "c")] (fun key => (entry.1 == key) = true) entry.2 := by
  refine ⟨⟨_, rfl, fun apart => ?_⟩, ⟨_, rfl, fun last => ?_⟩⟩
  · have different := (List.pairwise_pair.mp apart).2
    cases different
  · have second : LastEntry ([(set [int 1, int 1], text "a"), (set [int 2, int 2], text "b")] ++
        [(set [int 1, int 2], text "c")]) (fun key => (set [int 2, int 2] == key) = true)
          (text "b") :=
      last (set [int 2, int 2], text "b") (List.mem_cons_of_mem _ List.mem_cons_self)
    have same : text "b" = text "c" := second.eq_of_kind rfl
    exact absurd (text.inj same) (by decide)

end CqlMapper

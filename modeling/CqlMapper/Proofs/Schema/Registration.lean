import CqlMapper.Schema.Registry
import CqlMapper.Proofs.Keyed
import CqlMapper.Proofs.Schema.Building

/-!
What a registry is after the schemas of an application have been registered: it lists them by their
names, each once, and it is the same for any order in which they came.
-/

namespace CqlMapper.Registry

variable {registry next : Registry} {schema : EntitySchema} {schemas others : List EntitySchema}

def ofSchemas (schemas : List EntitySchema) : Except MappingError Registry :=
  schemas.foldlM register []

structure Lists (registry : Registry) (schemas : List EntitySchema) : Prop where
  sorted : Keyed.Sorted registry
  entries : ∀ entry, entry ∈ registry ↔ ∃ schema ∈ schemas, entry = (schema.name, schema)
  names : (schemas.map (·.name)).Nodup

theorem register_ok :
    registry.register schema = .ok next ↔
      registry.get? schema.name = none ∧ next = registry.put schema.name schema := by
  unfold register
  cases registry.get? schema.name with
  | none => simp [eq_comm]
  | some held => simp

theorem Lists.get? (lists : registry.Lists schemas) (name : String) :
    registry.get? name = some schema ↔ schema ∈ schemas ∧ schema.name = name := by
  constructor
  · intro found
    obtain ⟨listed, member, same⟩ := (lists.entries _).mp (Keyed.mem_of_get? found)
    cases same
    exact ⟨member, rfl⟩
  · rintro ⟨member, rfl⟩
    exact lists.sorted.get?_of_mem ((lists.entries _).mpr ⟨schema, member, rfl⟩)

theorem Lists.get?_none (lists : registry.Lists schemas) (name : String) :
    registry.get? name = none ↔ name ∉ schemas.map (·.name) := by
  rw [Option.eq_none_iff_forall_ne_some]
  simp only [ne_eq, lists.get?, List.mem_map]
  constructor
  · rintro missing ⟨schema, found⟩
    exact missing schema found
  · exact fun missing schema found => missing ⟨schema, found⟩

theorem Lists.mem_schemas (lists : registry.Lists schemas) :
    schema ∈ registry.schemas ↔ schema ∈ schemas := by
  unfold Registry.schemas
  rw [List.mem_map]
  constructor
  · rintro ⟨entry, member, rfl⟩
    obtain ⟨listed, among, rfl⟩ := (lists.entries entry).mp member
    exact among
  · exact fun member => ⟨_, (lists.entries _).mpr ⟨schema, member, rfl⟩, rfl⟩

theorem Lists.schemas_sorted (lists : registry.Lists schemas) :
    registry.schemas.Pairwise fun first second => first.name < second.name := by
  refine List.pairwise_map.mpr (lists.sorted.imp_of_mem ?_)
  intro first second firstMember secondMember before
  obtain ⟨_, _, rfl⟩ := (lists.entries first).mp firstMember
  obtain ⟨_, _, rfl⟩ := (lists.entries second).mp secondMember
  exact before

theorem Lists.register (lists : registry.Lists schemas)
    (registered : registry.register schema = .ok next) : next.Lists (schemas ++ [schema]) := by
  obtain ⟨free, rfl⟩ := register_ok.mp registered
  have fresh := (lists.get?_none _).mp free
  refine ⟨Keyed.sorted_put lists.sorted _ _, ?_, ?_⟩
  · intro entry
    constructor
    · intro member
      rcases Keyed.mem_put member with old | rfl
      · obtain ⟨listed, among, same⟩ := (lists.entries entry).mp old
        exact ⟨listed, List.mem_append_left _ among, same⟩
      · exact ⟨schema, List.mem_concat_self, rfl⟩
    · rintro ⟨listed, among, rfl⟩
      rcases List.mem_append.mp among with old | new
      · have apart : listed.name ≠ schema.name := by
          intro same
          exact fresh (List.mem_map.mpr ⟨listed, old, same⟩)
        exact Keyed.mem_put_of_ne ((lists.entries _).mpr ⟨listed, old, rfl⟩) apart
      · rw [List.mem_singleton.mp new]
        exact Keyed.mem_put_self registry schema.name schema
  · exact nodup_map_concat lists.names fresh

theorem Lists.registerAll (lists : registry.Lists schemas)
    (registered : others.foldlM Registry.register registry = .ok next) :
    next.Lists (schemas ++ others) := by
  induction others generalizing registry schemas with
  | nil =>
      cases registered
      rwa [List.append_nil]
  | cons schema others ih =>
      obtain ⟨middle, first, rest⟩ := Outcome.bind_eq_ok.mp registered
      have whole := ih (lists.register first) rest
      rwa [List.append_assoc] at whole

theorem lists_nil : Lists [] [] := by
  refine ⟨.nil, ?_, List.nodup_nil⟩
  intro entry
  simp

theorem lists_of_ofSchemas (registered : ofSchemas schemas = .ok registry) :
    registry.Lists schemas :=
  lists_nil.registerAll registered

theorem Lists.exists_registerAll (lists : registry.Lists schemas)
    (names : (schemas.map (·.name) ++ others.map (·.name)).Nodup) :
    ∃ next, others.foldlM Registry.register registry = .ok next := by
  induction others generalizing registry schemas with
  | nil => exact ⟨registry, rfl⟩
  | cons schema others ih =>
      have free : schema.name ∉ schemas.map (·.name) := fun taken =>
        (List.nodup_append.mp names).2.2 _ taken _ List.mem_cons_self rfl
      have first := register_ok.mpr ⟨(lists.get?_none _).mpr free, rfl⟩
      obtain ⟨final, rest⟩ := ih (lists.register first) (by simpa using names)
      exact ⟨final, Outcome.bind_eq_ok.mpr ⟨_, first, rest⟩⟩

/-- Schemas can be registered if no two have the same name. -/
theorem exists_ofSchemas (names : (schemas.map (·.name)).Nodup) :
    ∃ registry, ofSchemas schemas = .ok registry :=
  lists_nil.exists_registerAll names

theorem Lists.unique (lists : registry.Lists schemas) (also : next.Lists others)
    (same : schemas.Perm others) : next = registry := by
  refine also.sorted.ext lists.sorted fun entry => ?_
  rw [also.entries, lists.entries]
  simp only [same.mem_iff]

/-- The order of the registrations does not matter. -/
theorem ofSchemas_perm (same : schemas.Perm others)
    (registered : ofSchemas schemas = .ok registry) : ofSchemas others = .ok registry := by
  have lists := lists_of_ofSchemas registered
  obtain ⟨other, also⟩ := exists_ofSchemas ((same.map (·.name)).nodup_iff.mp lists.names)
  rw [also, lists.unique (lists_of_ofSchemas also) same]

end CqlMapper.Registry

import CqlMapper.Consistency.Resolver
import CqlMapper.Proofs.Schema.Registration

/-!
Which level counts for a table. The one that is asked for comes first, then that of the settings,
then what the entities of the table declare, the first of them by name, and then the default.
-/

namespace CqlMapper

structure Tiers where
  settings : Keyed Level
  declared : EntitySchema → Option Level
  fallback : Level

def Config.readTiers (config : Config) : Tiers :=
  ⟨config.readLevels, (·.readLevel), config.defaultRead⟩

def Config.writeTiers (config : Config) : Tiers :=
  ⟨config.writeLevels, (·.writeLevel), config.defaultWrite⟩

namespace Tiers

variable {tiers : Tiers} {schemas : List EntitySchema} {schema : EntitySchema} {table : String}
  {asked : Option Level} {level other : Level}

def Declares (tiers : Tiers) (table : String) (schema : EntitySchema) (level : Level) : Prop :=
  schema.table = table ∧ tiers.declared schema = some level

inductive Gives (tiers : Tiers) (schemas : List EntitySchema) (table : String) :
    Option Level → Level → Prop
  | asked (level : Level) : Gives tiers schemas table (some level) level
  | configured {level : Level} (set : tiers.settings.get? table = some level) :
      Gives tiers schemas table none level
  | declared {schema : EntitySchema} {level : Level} (unset : tiers.settings.get? table = none)
      (member : schema ∈ schemas) (declares : tiers.Declares table schema level)
      (first : ∀ other ∈ schemas, ∀ level, tiers.Declares table other level →
        schema.name ≤ other.name) :
      Gives tiers schemas table none level
  | fallback (unset : tiers.settings.get? table = none)
      (undeclared : ∀ schema ∈ schemas, ∀ level, ¬ tiers.Declares table schema level) :
      Gives tiers schemas table none tiers.fallback

theorem Gives.unique (gives : tiers.Gives schemas table asked level)
    (also : tiers.Gives schemas table asked other) (names : (schemas.map (·.name)).Nodup) :
    level = other := by
  cases gives with
  | asked =>
      cases also
      rfl
  | configured set =>
      cases also with
      | configured same => exact Option.some.inj (set.symm.trans same)
      | declared unset | fallback unset =>
          rw [set] at unset
          cases unset
  | @declared schema _ unset member declares first =>
      cases also with
      | configured set =>
          rw [set] at unset
          cases unset
      | @declared rival _ _ among rivals before =>
          have same : schema.name = rival.name :=
            String.le_antisymm (first rival among _ rivals) (before schema member _ declares)
          cases List.inj_on_of_nodup_map names member among same
          exact Option.some.inj (declares.2.symm.trans rivals.2)
      | fallback _ undeclared => exact absurd declares (undeclared schema member _)
  | fallback unset undeclared =>
      cases also with
      | configured set =>
          rw [set] at unset
          cases unset
      | declared _ member declares => exact absurd declares (undeclared _ member _)
      | fallback => rfl

def firstDeclared (tiers : Tiers) (schemas : List EntitySchema) (table : String) : Option Level :=
  schemas.findSome? fun schema => if schema.table = table then tiers.declared schema else none

theorem declares_iff :
    (if schema.table = table then tiers.declared schema else none) = some level ↔
      tiers.Declares table schema level := by
  unfold Declares
  split <;> simp [*]

/-- Entries of the settings stay, and of several declarations the first is entered. -/
theorem get?_withDeclared (tiers : Tiers) (levels : Keyed Level) (schemas : List EntitySchema)
    (table : String) :
    (Resolver.withDeclared levels tiers.declared schemas).get? table =
      (levels.get? table).or (tiers.firstDeclared schemas table) := by
  unfold Resolver.withDeclared firstDeclared
  induction schemas generalizing levels with
  | nil => exact Option.or_none.symm
  | cons schema rest ih =>
      rw [List.foldl_cons, ih, List.findSome?_cons]
      cases held : tiers.declared schema with
      | none => simp
      | some level =>
          dsimp only
          rw [Keyed.get?_putNew, Option.or_assoc]
          by_cases own : schema.table = table
          · simp [own]
          · simp [own, Ne.symm own]

theorem firstDeclared_some {registry : Registry} (lists : registry.Lists schemas)
    (found : tiers.firstDeclared registry.schemas table = some level) :
    ∃ schema ∈ schemas, tiers.Declares table schema level ∧
      ∀ other ∈ schemas, ∀ level, tiers.Declares table other level → schema.name ≤ other.name := by
  obtain ⟨before, schema, after, split, given, skipped⟩ := List.findSome?_eq_some_iff.mp found
  have sorted := lists.schemas_sorted
  have member : schema ∈ registry.schemas := by simp [split]
  refine ⟨schema, lists.mem_schemas.mp member, declares_iff.mp given, ?_⟩
  intro other among level declares
  have listed := lists.mem_schemas.mpr among
  rw [split] at listed sorted
  rcases List.mem_append.mp listed with early | late
  · have nothing := skipped other early
    rw [declares_iff.mpr declares] at nothing
    cases nothing
  · rcases List.mem_cons.mp late with rfl | later
    · exact String.le_refl _
    · have rest := (List.pairwise_append.mp sorted).2.1
      have before := (List.pairwise_cons.mp rest).1 other later
      exact String.not_lt.mp (String.lt_asymm before)

theorem firstDeclared_none {registry : Registry} (lists : registry.Lists schemas)
    (missing : tiers.firstDeclared registry.schemas table = none) :
    ∀ schema ∈ schemas, ∀ level, ¬ tiers.Declares table schema level := by
  intro schema member level declares
  have nothing := List.findSome?_eq_none_iff.mp missing schema (lists.mem_schemas.mpr member)
  rw [declares_iff.mpr declares] at nothing
  cases nothing

theorem resolve_gives {registry : Registry} (lists : registry.Lists schemas) (tiers : Tiers)
    (table : String) (asked : Option Level) :
    tiers.Gives schemas table asked (Resolver.resolve asked
      (Resolver.withDeclared tiers.settings tiers.declared registry.schemas) table
      tiers.fallback) := by
  cases asked with
  | some level => exact .asked level
  | none =>
      simp only [Resolver.resolve]
      rw [get?_withDeclared]
      cases set : tiers.settings.get? table with
      | some level => exact .configured set
      | none =>
          cases found : tiers.firstDeclared registry.schemas table with
          | none => exact .fallback set (firstDeclared_none lists found)
          | some level =>
              obtain ⟨schema, member, declares, first⟩ := firstDeclared_some lists found
              exact .declared set member declares first

theorem resolve_iff {registry : Registry} (tiers : Tiers) (lists : registry.Lists schemas) :
    Resolver.resolve asked
        (Resolver.withDeclared tiers.settings tiers.declared registry.schemas) table
        tiers.fallback = level ↔
      tiers.Gives schemas table asked level := by
  have resolved := resolve_gives lists tiers table asked
  constructor
  · rintro rfl
    exact resolved
  · exact fun gives => resolved.unique gives lists.names

end Tiers

namespace Resolver

variable {registry : Registry} {schemas : List EntitySchema}

theorem read_iff (lists : registry.Lists schemas) (config : Config) (table : String)
    (asked : Option Level) (level : Level) :
    (new config registry).read table asked = level ↔
      config.readTiers.Gives schemas table asked level := by
  exact config.readTiers.resolve_iff lists

theorem write_iff (lists : registry.Lists schemas) (config : Config) (table : String)
    (asked : Option Level) (level : Level) :
    (new config registry).write table asked = level ↔
      config.writeTiers.Gives schemas table asked level := by
  exact config.writeTiers.resolve_iff lists

end Resolver

end CqlMapper

import CqlMapper.Proofs.Session.Visits
import Mathlib.Data.List.TakeWhile

/-!
What a batch operation does to its session. It adds its statements and its callback, or it empties
the session because its options are refused, or it fails and leaves everything as it was.
-/

namespace CqlMapper

namespace Operation

open EntityManager

variable {operation : Operation} {manager : EntityManager} {context : FlushContext} {world : World}
  {schema : EntitySchema}

inductive Fails (operation : Operation) (manager : EntityManager) (context : FlushContext)
    (world : World) : WriteError → Prop
  | locked {error : WriteError} (poisoned : operation.entityName world = .error error) :
      Fails operation manager context world error
  | unknown {name : String} (named : operation.entityName world = .ok name)
      (missing : Keyed.get? manager.registry name = none) :
      Fails operation manager context world (.usage (.unknownEntity name))
  | misused {name : String} {schema : EntitySchema} {fault : UsageFault}
      (named : operation.entityName world = .ok name)
      (known : Keyed.get? manager.registry name = some schema)
      (faulty : optionFault? schema operation.kind operation.options = some fault) :
      Fails operation manager context world (.usage fault)
  | timeless {schema : EntitySchema} {error : WriteError} {stamped : FlushContext} {ticked : World}
      (admits : operation.admitted manager world = .ok schema)
      (stamps : Stamps schema operation.options context world (.error error) stamped ticked) :
      Fails operation manager context world error
  | ungenerated {schema : EntitySchema} {asked : WriteOptions} {error : WriteError}
      {stamped : FlushContext} {ticked : World}
      (admits : operation.admitted manager world = .ok schema)
      (stamps : Stamps schema operation.options context world (.ok asked) stamped ticked)
      (fails : operation.generation manager schema asked world = .error error) :
      Fails operation manager context world error

inductive Makes (operation : Operation) (manager : EntityManager) (context : FlushContext)
    (world : World) : List PendingStatement → List Callback → Prop
  | made {schema : EntitySchema} {asked : WriteOptions} {statements : List GeneratedStatement}
      {queued : List PendingStatement}
      (generates : operation.Generates manager context world schema asked statements)
      (pends : List.Forall₂ (manager.Pends schema asked context.isBatch) statements queued) :
      Makes operation manager context world queued (operation.postponed schema)

theorem fails_of_unadmitted {error : WriteError}
    (refuses : operation.admitted manager world = .error error) :
    operation.Fails manager context world error := by
  rw [admitted_eq] at refuses
  cases named : operation.entityName world with
  | error poisoned =>
      have same : poisoned = error := by simpa [named, bind, Except.bind] using refuses
      exact .locked (same ▸ named)
  | ok name =>
      cases known : Keyed.get? manager.registry name with
      | none =>
          have same : WriteError.usage (.unknownEntity name) = error := by
            simpa [named, EntityManager.schema, known, bind, Except.bind] using refuses
          exact same ▸ .unknown named known
      | some schema =>
          cases faulty : optionFault? schema operation.kind operation.options with
          | none =>
              simp [named, EntityManager.schema, known, checkOptions, faulty, bind, Except.bind,
                pure, Except.pure] at refuses
          | some fault =>
              have same : WriteError.usage fault = error := by
                simpa [named, EntityManager.schema, known, checkOptions, faulty, bind,
                  Except.bind] using refuses
              exact same ▸ .misused named known faulty

end Operation

structure Batch.HandWritten (batch : Batch) (text : String) (bound : List CqlValue)
    (pending : PendingStatement) : Prop where
  query : pending.query = text
  values : pending.values = bound
  counter : pending.counter = false
  propertyLevel : pending.propertyLevel = none
  level : pending.level = batch.context.level.getD batch.manager.config.defaultWrite
  serialLevel : pending.serialLevel = batch.context.serialLevel
  listener : pending.listener = none

theorem Batch.handWritten_iff {batch : Batch} {text : String} {bound : List CqlValue}
    {pending : PendingStatement} :
    batch.HandWritten text bound pending ↔ batch.nativeStatement text bound = pending := by
  constructor
  · intro written
    obtain ⟨query, values, counter, propertyLevel, level, serialLevel, listener⟩ := pending
    obtain ⟨rfl, rfl, rfl, rfl, rfl, rfl, rfl⟩ := written
    rfl
  · rintro rfl
    exact ⟨rfl, rfl, rfl, rfl, rfl, rfl, rfl⟩

/-- A text that begins with a write keyword in any letter case, blanks aside. -/
def Batch.IsWriteText (query : String) : Prop :=
  ∃ blanks word rest, query.toList = blanks ++ (word ++ rest) ∧
    (∀ c ∈ blanks, Text.isBlank c = true) ∧
    word.map Char.toUpper ∈ ["INSERT".toList, "UPDATE".toList, "DELETE".toList]

theorem Text.toUpper_of_isBlank {c : Char} (blank : isBlank c = true) : c.toUpper = c := by
  refine dif_neg fun lower => ?_
  have least : 97 ≤ c.toNat := lower.1
  have most : c.toNat ≤ 122 := lower.2
  simp only [isBlank, inRanges, blankRanges, List.any_cons, List.any_nil, Bool.or_false,
    Bool.or_eq_true, Bool.and_eq_true, decide_eq_true_eq] at blank
  omega

theorem Batch.isNativeWrite_iff {query : String} :
    Batch.isNativeWrite query = true ↔ Batch.IsWriteText query := by
  have keyword : Batch.isNativeWrite query = true ↔
      ((query.toList.dropWhile Text.isBlank).take 6).map Char.toUpper ∈
        ["INSERT".toList, "UPDATE".toList, "DELETE".toList] := decide_eq_true_iff
  rw [keyword]
  constructor
  · intro among
    refine ⟨query.toList.takeWhile Text.isBlank, _,
      (query.toList.dropWhile Text.isBlank).drop 6, ?_,
      fun c member => List.mem_takeWhile_imp member, among⟩
    rw [List.take_append_drop, List.takeWhile_append_dropWhile]
  · rintro ⟨blanks, word, rest, whole, blank, among⟩
    have length : word.length = 6 := by
      have lengths : ∀ letters ∈ ["INSERT".toList, "UPDATE".toList, "DELETE".toList],
          letters.length = 6 := by decide
      simpa using lengths _ among
    have visible : (word ++ rest).dropWhile Text.isBlank = word ++ rest := by
      cases word with
      | nil => cases length
      | cons letter letters =>
          refine List.dropWhile_cons_of_neg fun blankly => ?_
          -- A blank is its own upper case, and no keyword begins with one.
          rw [List.map_cons, Text.toUpper_of_isBlank blankly] at among
          have begins : ∀ letters ∈ ["INSERT".toList, "UPDATE".toList, "DELETE".toList],
              letters.head?.all Text.isBlank = false := by decide
          have shown := begins _ among
          rw [List.head?_cons, Option.all_some, blankly] at shown
          cases shown
    rw [whole, List.dropWhile_append_of_pos blank, visible, List.take_left' length]
    exact among

namespace BatchOperation

def options : BatchOperation → WriteOptions
  | .write _ _ options | .removeById _ _ options => options
  | .native _ _ => .standard

inductive Fails (batch : Batch) (world : World) : BatchOperation → WriteError → Prop
  | operation {operation : Operation} {error : WriteError}
      (fails : operation.Fails batch.manager batch.context world error) :
      Fails batch world operation.inBatch error
  | native {query : String} {values : List CqlValue} (other : ¬ Batch.IsWriteText query) :
      Fails batch world (.native query values) (.usage (.notAWrite query))

inductive Makes (batch : Batch) (world : World) :
    BatchOperation → List PendingStatement → List Callback → Prop
  | operation {operation : Operation} {statements : List PendingStatement}
      {callbacks : List Callback}
      (makes : operation.Makes batch.manager batch.context world statements callbacks) :
      Makes batch world operation.inBatch statements callbacks
  | native {query : String} {values : List CqlValue} {pending : PendingStatement}
      (accepted : Batch.IsWriteText query)
      (written : batch.HandWritten query values pending) :
      Makes batch world (.native query values) [pending] []

end BatchOperation

namespace Batch

structure AtLevels (batch : Batch) (options : WriteOptions) : Prop where
  level : ∀ level, options.level = some level → batch.context.level = some level
  serialLevel : ∀ level, options.serialLevel = some level → batch.context.serialLevel = some level

inductive Refuses (batch : Batch) (options : WriteOptions) : UsageFault → Prop
  | level {level : Level} (asked : options.level = some level)
      (other : batch.context.level ≠ some level) : Refuses batch options (.batchLevel level)
  | serialLevel {level : Level}
      (agreed : ∀ level, options.level = some level → batch.context.level = some level)
      (asked : options.serialLevel = some level)
      (other : batch.context.serialLevel ≠ some level) :
      Refuses batch options (.batchSerialLevel level)
  | listener (agreed : batch.AtLevels options) (listens : options.listener.isSome = true) :
      Refuses batch options .batchListener

inductive Effect (batch : Batch) (operation : BatchOperation) (world : World) :
    Except WriteError Unit → FlushContext → Prop
  | refused {fault : UsageFault} {after : FlushContext}
      (refuses : batch.Refuses operation.options fault)
      (session : batch.context.SameSession after) (statements : after.statements = [])
      (counterStatements : after.counterStatements = []) (callbacks : after.callbacks = []) :
      Effect batch operation world (.error (.usage fault)) after
  | failed {error : WriteError} {after : FlushContext}
      (accepts : batch.AtLevels operation.options) (unheard : operation.options.listener = none)
      (fails : operation.Fails batch world error)
      (session : batch.context.SameSession after)
      (statements : after.statements = batch.context.statements)
      (counterStatements : after.counterStatements = batch.context.counterStatements)
      (callbacks : after.callbacks = batch.context.callbacks) :
      Effect batch operation world (.error error) after
  | performed {statements : List PendingStatement} {callbacks : List Callback}
      {after : FlushContext} (accepts : batch.AtLevels operation.options)
      (unheard : operation.options.listener = none)
      (makes : operation.Makes batch world statements callbacks)
      (adds : batch.context.Adds after statements callbacks) :
      Effect batch operation world (.ok ()) after

variable {batch : Batch} {options : WriteOptions}

/-- A check of one level: what is asked for is either refused or that of the session. -/
theorem filter_other (asked held : Option Level) :
    (∃ level, (asked.filter fun level => held != some level) = some level ∧
        asked = some level ∧ held ≠ some level) ∨
      (asked.filter fun level => held != some level) = none ∧
        ∀ level, asked = some level → held = some level := by
  cases asked with
  | none => exact Or.inr ⟨rfl, nofun⟩
  | some level =>
      by_cases same : held = some level
      · refine Or.inr ⟨by simp [Option.filter_some, same], ?_⟩
        intro other asked
        cases asked
        exact same
      · exact Or.inl ⟨level, by simp [Option.filter_some, same], rfl, same⟩

theorem refusal?_cases (batch : Batch) (options : WriteOptions) :
    (∃ fault, batch.refusal? options = some fault ∧ batch.Refuses options fault) ∨
      batch.refusal? options = none ∧ batch.AtLevels options ∧ options.listener = none := by
  unfold refusal?
  rcases filter_other options.level batch.context.level with
    ⟨level, found, asked, other⟩ | ⟨none, agreed⟩
  · exact Or.inl ⟨_, by rw [found], .level asked other⟩
  · rw [none]
    rcases filter_other options.serialLevel batch.context.serialLevel with
      ⟨level, found, asked, other⟩ | ⟨none, serially⟩
    · exact Or.inl ⟨_, by rw [found], .serialLevel agreed asked other⟩
    · rw [none]
      cases listens : options.listener with
      | none => exact Or.inr ⟨rfl, ⟨agreed, serially⟩, rfl⟩
      | some listener =>
          exact Or.inl ⟨_, rfl, .listener ⟨agreed, serially⟩ (by rw [listens]; rfl)⟩

theorem options_inBatch (operation : Operation) :
    operation.inBatch.options = operation.options := by
  cases operation <;> rfl

theorem perform_inBatch (batch : Batch) (operation : Operation) (world : World) :
    batch.perform operation.inBatch world =
      batch.guarded operation.options world (operation.prepare batch.manager) := by
  cases operation <;> rfl

/-- A preparation that the batch has not refused either succeeds or leaves nothing behind. -/
theorem effect_of_ends {operation : Operation} {world final : World}
    {result : Except WriteError Unit} {after : FlushContext}
    (accepts : batch.AtLevels operation.inBatch.options)
    (unheard : operation.inBatch.options.listener = none)
    (ends : operation.Ends batch.manager batch.context world result after final) :
    batch.Effect operation.inBatch world result after := by
  have unchanged {error : WriteError} {context : FlushContext}
      (fails : operation.Fails batch.manager batch.context world error)
      (adds : batch.context.Adds context [] []) :
      batch.Effect operation.inBatch world (.error error) context := by
    have plain := adds.plain
    have counters := adds.counters
    have deferred := adds.deferred
    rw [List.filter_nil, List.append_nil] at plain counters
    rw [List.append_nil] at deferred
    exact .failed accepts unheard (.operation fails) adds.toSameSession plain counters deferred
  cases ends with
  | unadmitted refuses => exact unchanged (Operation.fails_of_unadmitted refuses) (.refl _)
  | timeless admits stamps => exact unchanged (.timeless admits stamps) stamps.adds
  | ungenerated admits stamps fails store =>
      exact unchanged (.ungenerated admits stamps fails) stamps.adds
  | queued admits stamps generated adds clock store =>
      have generates := Operation.generates_of_admitted admits stamps generated
      have makes := Operation.Makes.made generates (EntityManager.forall₂_pends_iff.mpr rfl)
      exact .performed accepts unheard (.operation makes) adds

theorem inBatch_effect (batch : Batch) (operation : Operation) (world : World) :
    (batch.perform operation.inBatch world).2.1.manager = batch.manager ∧
      batch.Effect operation.inBatch world (batch.perform operation.inBatch world).1
        (batch.perform operation.inBatch world).2.1.context := by
  rw [perform_inBatch, guarded]
  rcases batch.refusal?_cases operation.options with
    ⟨fault, found, refuses⟩ | ⟨none, accepts, unheard⟩
  · rw [found]
    rw [← options_inBatch] at refuses
    exact ⟨rfl, .refused refuses ⟨rfl, rfl, rfl, rfl⟩ rfl rfl rfl⟩
  · rw [none]
    rw [← options_inBatch] at accepts unheard
    exact ⟨rfl, effect_of_ends accepts unheard (operation.prepare_ends batch.manager _ world)⟩

/-- Any operation has one of three effects: it is performed, its options are refused and the session
is emptied, or it fails and leaves what is pending as it was. -/
theorem perform_effect (batch : Batch) (operation : BatchOperation) (world : World) :
    (batch.perform operation world).2.1.manager = batch.manager ∧
      batch.Effect operation world (batch.perform operation world).1
        (batch.perform operation world).2.1.context := by
  cases operation with
  | write kind entity options => exact batch.inBatch_effect (.write kind entity options) world
  | removeById entity key options =>
      exact batch.inBatch_effect (.removeById entity key options) world
  | native query values =>
      have accepts : batch.AtLevels (BatchOperation.native query values).options :=
        ⟨nofun, nofun⟩
      simp only [perform]
      cases accepted : isNativeWrite query with
      | true =>
          have adds := batch.context.adds_push (batch.nativeStatement query values)
          have text := isNativeWrite_iff.mp accepted
          exact ⟨rfl, .performed accepts rfl (.native text (handWritten_iff.mpr rfl)) adds⟩
      | false =>
          have other : ¬ IsWriteText query := by
            rw [← isNativeWrite_iff, accepted]
            exact Bool.false_ne_true
          exact ⟨rfl, .failed accepts rfl (.native other) (.refl _) rfl rfl rfl⟩

end Batch

end CqlMapper

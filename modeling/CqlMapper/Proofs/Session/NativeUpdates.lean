import CqlMapper.Proofs.Session.Ordering
import CqlMapper.Proofs.Session.Performing
import CqlMapper.Proofs.Session.Unsaved
import CqlMapper.Proofs.Statement.Words

/-!
Hand-written conditional updates. A batch takes them with their keywords in any letter case, but the
answer to its envelope is only read as a refusal when a text in it has the condition word in
capitals. Otherwise the flush goes on with the counters and the callbacks.
-/

namespace CqlMapper

abbrev Spells (keyword text : String) : Prop :=
  List.Forall₂ (fun letter char => char = letter ∨ char = letter.toLower) keyword.toList text.toList

abbrev Capitals (keyword : String) : Prop :=
  keyword.toList.all Char.isUpper = true

section

variable {letter : Char}

theorem val_toLower (upper : letter.val ≥ 'A'.val ∧ letter.val ≤ 'Z'.val) :
    letter.toLower.val = letter.val + ('a'.val - 'A'.val) := by
  delta Char.toLower
  rw [dif_pos upper]

theorem val_toUpper (lower : 'a'.val ≤ letter.val ∧ letter.val ≤ 'z'.val) :
    letter.toUpper.val = letter.val + ('A'.val - 'a'.val) := by
  delta Char.toUpper
  rw [dif_pos lower]

theorem toUpper_of_isUpper (upper : letter.isUpper = true) : letter.toUpper = letter := by
  have bounds : letter.val ≥ 'A'.val ∧ letter.val ≤ 'Z'.val := of_decide_eq_true upper
  have most : letter.val.toNat ≤ 90 := bounds.2
  refine dif_neg fun lower => ?_
  have above : 97 ≤ letter.val.toNat := lower.1
  omega

theorem toUpper_toLower (upper : letter.isUpper = true) : letter.toLower.toUpper = letter := by
  have bounds : letter.val ≥ 'A'.val ∧ letter.val ≤ 'Z'.val := of_decide_eq_true upper
  have least : 65 ≤ letter.val.toNat := bounds.1
  have most : letter.val.toNat ≤ 90 := bounds.2
  have lowered : letter.toLower.val.toNat = letter.val.toNat + 32 := by
    rw [val_toLower bounds, UInt32.toNat_add]
    change (letter.val.toNat + 32) % 2 ^ 32 = _
    omega
  have lower : 'a'.val ≤ letter.toLower.val ∧ letter.toLower.val ≤ 'z'.val := by
    constructor
    · show 97 ≤ letter.toLower.val.toNat
      omega
    · show letter.toLower.val.toNat ≤ 122
      omega
  apply Char.ext
  apply UInt32.toNat_inj.mp
  rw [val_toUpper lower, UInt32.toNat_add, lowered]
  -- Going back by 32 is adding its complement.
  change (letter.val.toNat + 32 + 4294967264) % 2 ^ 32 = _
  omega

end

namespace Spells

variable {keyword text : String}

theorem length_eq (spells : Spells keyword text) : text.length = keyword.length := by
  rw [← String.length_toList, ← String.length_toList]
  exact (List.Forall₂.length_eq spells).symm

theorem map_toUpper (spells : Spells keyword text) (capitals : Capitals keyword) :
    text.toList.map Char.toUpper = keyword.toList := by
  unfold Capitals at capitals
  unfold Spells at spells
  generalize keyword.toList = letters at capitals spells
  generalize text.toList = chars at spells
  induction spells with
  | nil => rfl
  | cons spelled rest ih =>
      rw [List.all_cons, Bool.and_eq_true] at capitals
      rw [List.map_cons, ih capitals.2]
      rcases spelled with same | lower
      · rw [same, toUpper_of_isUpper capitals.1]
      · rw [lower, toUpper_toLower capitals.1]

theorem unbroken (spells : Spells keyword text) (capitals : Capitals keyword)
    (spaceless : Text.Unbroken keyword) : Text.Unbroken text := by
  intro space
  have upper := List.mem_map_of_mem (f := Char.toUpper) space
  rw [spells.map_toUpper capitals] at upper
  exact spaceless upper

end Spells

structure NativeUpdate where
  table : String
  column : String
  key : String
  update : String
  set : String
  filter : String
  guard : String
  names : ∀ name ∈ [table, column, key], Text.Unbroken name
  update_spells : Spells "UPDATE" update
  set_spells : Spells "SET" set
  filter_spells : Spells "WHERE" filter
  guard_spells : Spells "IF" guard

namespace NativeUpdate

variable (native : NativeUpdate)

def parts : List String :=
  [native.update, native.table, native.set, native.column, "=", "?", native.filter, native.key, "=",
    "?", native.guard, native.column, "=", "?"]

def query : String :=
  " ".intercalate native.parts

def Recognized : Prop :=
  native.table = "IF" ∨ native.column = "IF" ∨ native.key = "IF" ∨ native.guard = "IF"

theorem unbroken_parts : ∀ part ∈ native.parts, Text.Unbroken part := by
  have update := native.update_spells.unbroken (by decide) (by decide)
  have set := native.set_spells.unbroken (by decide) (by decide)
  have filter := native.filter_spells.unbroken (by decide) (by decide)
  have guard := native.guard_spells.unbroken (by decide) (by decide)
  have equals : Text.Unbroken "=" := by decide
  have mark : Text.Unbroken "?" := by decide
  obtain ⟨table, column, key⟩ :
      Text.Unbroken native.table ∧ Text.Unbroken native.column ∧ Text.Unbroken native.key := by
    simpa using native.names
  simp only [parts, List.forall_mem_cons]
  exact ⟨update, table, set, column, equals, mark, filter, key, equals, mark, guard, column, equals,
    mark, List.forall_mem_nil _⟩

theorem isConditionalQuery_query :
    isConditionalQuery native.query = true ↔ native.Recognized := by
  have longer {keyword text : String} (spells : Spells keyword text)
      (other : keyword.length ≠ 2) : "IF" ≠ text := by
    rintro rfl
    exact other spells.length_eq.symm
  have set := longer native.set_spells (by decide)
  have filter := longer native.filter_spells (by decide)
  have split : Text.words native.query = native.update ::
      ([native.table, native.set, native.column, "=", "?", native.filter, native.key, "=", "?",
        native.guard, native.column, "="] ++ ["?"]) :=
    Text.words_intercalate native.unbroken_parts (List.cons_ne_nil _ _)
  have inner := Text.contains_keyword_iff (show Text.Unbroken "IF" by decide) split
  rw [isConditionalQuery, show " IF " = " " ++ "IF" ++ " " by decide, inner, Recognized]
  simp only [List.mem_cons, List.not_mem_nil, set, filter, show "IF" ≠ "=" by decide,
    show "IF" ≠ "?" by decide, false_or, or_false, eq_comm (a := "IF")]
  grind

/-- A batch takes the text, whatever the letter case of its keywords. -/
theorem isNativeWrite_query : Batch.isNativeWrite native.query = true := by
  have upper := native.update_spells.map_toUpper (by decide)
  obtain ⟨rest, whole⟩ : ∃ rest, native.query.toList = native.update.toList ++ rest := by
    rw [query, parts, String.intercalate_cons_of_ne_nil (List.cons_ne_nil _ _), String.append_assoc,
      String.toList_append]
    exact ⟨_, rfl⟩
  refine Batch.isNativeWrite_iff.mpr ⟨[], _, rest, whole, List.forall_mem_nil _, ?_⟩
  rw [upper]
  decide

end NativeUpdate

def Row.refusal (row : Row) (kind : ConditionalKind) : Except WriteError Outcome :=
  match row.currentValues with
  | .ok current => .ok (.rejected ⟨kind, current⟩)
  | .error error => .error (.mapping error)

theorem Row.refusal_ne_applied (row : Row) (kind : ConditionalKind) :
    row.refusal kind ≠ .ok .applied := by
  unfold refusal
  cases row.currentValues <;> exact nofun

/-- The row decides for the first statement with a condition, if the text of one shows it. -/
theorem verdict_of_refusal {statements : List BoundStatement} {row : Row} {rest : List Row}
    {info : List ExecutionInfo} (refuses : row.getBool? appliedColumn = some false) :
    Verdict statements (.ok ⟨row :: rest, info⟩)
      (match statements.find? fun statement => isConditionalQuery statement.query with
        | some first => row.refusal (conditionalKindOf first.query)
        | none => .ok .applied) := by
  cases asked : statements.find? fun statement => isConditionalQuery statement.query with
  | none => exact .unasked _ (by simpa using asked)
  | some first =>
      dsimp only [Row.refusal]
      cases current : row.currentValues with
      | ok values => exact .rejected _ asked rfl refuses current
      | error error => exact .unreadable _ asked rfl refuses current

namespace FlushContext

/-- The flush ends with the plain statements, whose answer is read as a refusal. -/
structure Heeds (work : FlushContext) (row : Row) (world : World) : Prop where
  result : ∃ first, work.statements.find? (fun pending => isConditionalQuery pending.query) =
      some first ∧
    (work.run world).1 = row.refusal (conditionalKindOf first.query)
  executed : (work.run world).2.executed = world.executed ++
    (work.enveloped work.batchType work.statements world.tracing).map (·.submission)
  cells : (work.run world).2.cells = world.cells
  interceptions : (work.run world).2.interceptions = world.interceptions

/-- The flush goes on as if its plain statements had been applied. -/
structure Overlooks (work : FlushContext) (world : World) : Prop where
  executed : (work.run world).2.executed =
    world.executed ++ (work.dispatches world.tracing).map (·.submission)
  applied : (∀ index, Answer.Accepts (world.answers (index + 1))) →
    (∀ callback ∈ work.callbacks, world.Unlocked callback.entity) →
      (work.run world).1 = .ok .applied ∧ (work.run world).2.interceptions =
        world.interceptions ++ work.callbacks.flatMap fun callback =>
          callback.calls (world.entityName callback.entity)

variable {work : FlushContext} {row : Row} {world : World}

theorem length_enveloped (work : FlushContext) (type : BatchType)
    (statements : List PendingStatement) (tracing : Bool) :
    (work.enveloped type statements tracing).length ≤ 1 := by
  cases statements <;> simp [enveloped]

theorem enveloped_of_mem (work : FlushContext) (type : BatchType)
    {statements : List PendingStatement} {pending : PendingStatement}
    (member : pending ∈ statements) (tracing : Bool) :
    ∃ dispatch, work.enveloped type statements tracing = [dispatch] ∧
      dispatch.submission.statements = statements.map (·.batched) := by
  cases statements with
  | nil => cases member
  | cons first rest => exact ⟨_, rfl, rfl⟩

theorem find?_batched (statements : List PendingStatement) :
    (statements.map (·.batched)).find? (fun statement => isConditionalQuery statement.query) =
      (statements.find? fun pending => isConditionalQuery pending.query).map (·.batched) := by
  rw [List.find?_map]
  rfl

theorem heeds_of_conditional (batched : work.isBatch = true) {pending : PendingStatement}
    (member : pending ∈ work.statements) (conditional : isConditionalQuery pending.query = true)
    {rest : List Row} {info : List ExecutionInfo}
    (answer : world.answers 0 = .ok ⟨row :: rest, info⟩)
    (refuses : row.getBool? appliedColumn = some false) : work.Heeds row world := by
  obtain ⟨first, asked⟩ : ∃ first,
      work.statements.find? (fun pending => isConditionalQuery pending.query) = some first := by
    rw [← Option.isSome_iff_exists, List.find?_isSome]
    exact ⟨pending, member, conditional⟩
  obtain ⟨dispatch, plain, statements⟩ :=
    work.enveloped_of_mem work.batchType member world.tracing
  have verdict : Verdict dispatch.submission.statements (.ok ⟨row :: rest, info⟩) _ :=
    verdict_of_refusal refuses
  simp only [statements, find?_batched, asked, Option.map_some] at verdict
  obtain ⟨exchanges, carried, settles⟩ := work.execute_settles world
  rw [dispatches_of_isBatch batched, plain, List.singleton_append] at carried
  -- The plain statements are dispatched first and as one, so their answer is the first answer.
  cases carried with
  | stopped given stops =>
      rw [answer, statements] at given
      have ran := run_of_stopped stops
      refine ⟨⟨first, asked, ?_⟩, ?_, ?_, ?_⟩
      · rw [ran]
        exact given.unique verdict
      · rw [ran, settles.executed, plain]
        rfl
      · rw [ran, settles.cells]
      · rw [ran, settles.interceptions]
  | onward given later =>
      rw [answer, statements] at given
      exact absurd (verdict.unique given) (row.refusal_ne_applied _)

theorem overlooks_of_unconditional (batched : work.isBatch = true) {pending : PendingStatement}
    (member : pending ∈ work.statements)
    (unconditional : ∀ pending ∈ work.statements, isConditionalQuery pending.query = false)
    {result : ResultSet} (answer : world.answers 0 = .ok result) : work.Overlooks world := by
  obtain ⟨dispatch, plain, statements⟩ :=
    work.enveloped_of_mem work.batchType member world.tracing
  have verdict : Verdict dispatch.submission.statements (world.answers 0) (.ok .applied) := by
    rw [answer, statements]
    exact .unasked result (List.forall_mem_map.mpr unconditional)
  obtain ⟨exchanges, carried, settles⟩ := work.execute_settles world
  have dispatched := dispatches_of_isBatch batched world.tracing
  rw [plain, List.singleton_append] at dispatched
  rw [dispatched] at carried
  cases carried with
  | stopped given stops => exact absurd (given.unique verdict) stops
  | onward given later =>
      have counters := later.complete_of_length (work.length_enveloped _ _ _)
      refine ⟨?_, ?_⟩
      · rw [executed_run, settles.executed, dispatched, ← counters]
        simp [Function.comp_def]
      · intro accepting unlocked
        have applied := later.applied_of_accepting accepting
        obtain ⟨result, _, interceptions⟩ := run_applied settles applied unlocked
        exact ⟨result, interceptions⟩

end FlushContext

def FlushContext.Guarded (context : FlushContext) (more : List PendingStatement) : Prop :=
  ∃ other ∈ context.statements ++ more,
    other.counter = false ∧ isConditionalQuery other.query = true

theorem conditional_mem_iff {batch : Batch} (reached : batch.Reached) (native : NativeUpdate)
    {values : List CqlValue} {work : FlushContext} {more : List PendingStatement}
    {further : List Callback}
    (adds : batch.context.Adds work (batch.nativeStatement native.query values :: more) further) :
    (∃ pending ∈ work.statements, isConditionalQuery pending.query = true) ↔
      native.Recognized ∨ batch.context.Guarded more := by
  have plain : work.statements = batch.context.statements ++
      batch.nativeStatement native.query values :: more.filter fun pending => !pending.counter :=
    adds.plain
  constructor
  · rintro ⟨pending, member, conditional⟩
    rw [plain] at member
    rcases List.mem_append.mp member with earlier | added
    · have unmarked := reached.orderly.plain pending earlier
      exact Or.inr ⟨pending, List.mem_append_left _ earlier, unmarked, conditional⟩
    · rcases List.mem_cons.mp added with rfl | later
      · exact Or.inl (native.isConditionalQuery_query.mp conditional)
      · obtain ⟨among, unmarked⟩ := List.mem_filter.mp later
        exact Or.inr ⟨pending, List.mem_append_right _ among, by simpa using unmarked, conditional⟩
  · rintro (recognized | ⟨other, member, unmarked, conditional⟩)
    · refine ⟨batch.nativeStatement native.query values, ?_,
        native.isConditionalQuery_query.mpr recognized⟩
      rw [plain]
      exact List.mem_append_right _ List.mem_cons_self
    · refine ⟨other, ?_, conditional⟩
      rw [plain]
      rcases List.mem_append.mp member with earlier | later
      · exact List.mem_append_left _ earlier
      · have kept : other ∈ more.filter fun pending => !pending.counter :=
          List.mem_filter.mpr ⟨later, by simpa using unmarked⟩
        exact List.mem_append_right _ (List.mem_cons_of_mem _ kept)

/-- A batch takes a conditional update with its keywords in any letter case. When the answer to its
plain statements says that they did not take place, the flush ends there just when the text of one
of them has the condition word in capitals; otherwise the counters and the callbacks follow. -/
theorem nativeUpdate_heeded_iff {batch : Batch} (reached : batch.Reached) (native : NativeUpdate)
    (values : List CqlValue) (world : World) :
    ∃ queued, batch.perform (.native native.query values) world = (.ok (), queued, world) ∧
      ∀ work more further, queued.context.Adds work more further →
        ∀ (later : World) row rest info, later.answers 0 = .ok ⟨row :: rest, info⟩ →
          row.getBool? appliedColumn = some false →
            (work.Heeds row later ↔ native.Recognized ∨ batch.context.Guarded more) ∧
            (¬ (native.Recognized ∨ batch.context.Guarded more) → work.Overlooks later) := by
  have pushed := batch.context.adds_push (batch.nativeStatement native.query values)
  refine ⟨_, by rw [Batch.perform, if_pos native.isNativeWrite_query], ?_⟩
  intro work more further kept later row rest info answer refuses
  have adds : batch.context.Adds work (batch.nativeStatement native.query values :: more) further :=
    pushed.trans kept
  have batched : work.isBatch = true := by
    rw [FlushContext.isBatch, adds.mode]
    exact reached.isBatch
  have conditional_iff := conditional_mem_iff reached native adds
  constructor
  · rw [← conditional_iff]
    constructor
    · intro heeds
      obtain ⟨first, asked, _⟩ := heeds.result
      have conditional : isConditionalQuery first.query = true := by
        simpa using List.find?_some asked
      exact ⟨first, List.mem_of_find?_eq_some asked, conditional⟩
    · rintro ⟨pending, member, conditional⟩
      exact FlushContext.heeds_of_conditional batched member conditional answer refuses
  · intro unseen
    have member : batch.nativeStatement native.query values ∈ work.statements := by
      rw [adds.plain]
      exact List.mem_append_right _ List.mem_cons_self
    refine FlushContext.overlooks_of_unconditional batched member ?_ answer
    intro pending among
    rw [← conditional_iff] at unseen
    exact Bool.eq_false_iff.mpr fun conditional => unseen ⟨pending, among, conditional⟩

def visitorSchema : EntitySchema :=
  { userSchema with
    interceptors := [⟨"audit", [.postUpdate], fun _ => [("status", .text "seen")]⟩] }

def visitorBatch : Batch :=
  Batch.start ⟨[("User", visitorSchema)], Config.standard⟩ false false none none

def otherName : ResultSet :=
  .single ((Row.applied false).withColumn "name" .text (.text "Helen"))

def visitorWorld : World where
  cells := [⟨(Record.loaded "User" [("id", .int 1), ("name", .text "Ann")]).increment "logins" 1,
    false⟩]
  backend := ⟨⟨[], [.ok otherName]⟩, none⟩
  wall := ⟨fun _ => 0, 0⟩
  tracing := false
  notices := []

def afterVisit : Except WriteError Unit × Batch × World :=
  visitorBatch.perform (.write .update 0 .standard) visitorWorld

def correction (guard : String) (spells : Spells "IF" guard) : NativeUpdate :=
  ⟨"users", "name", "id", "update", "set", "where", guard, by decide, by decide, by decide,
    by decide, spells⟩

def afterCorrection (guard : String) (spells : Spells "IF" guard) :
    Except WriteError Unit × Batch × World :=
  afterVisit.2.1.perform
    (.native (correction guard spells).query [.text "Anna", .int 1, .text "Ann"]) afterVisit.2.2

theorem nativeUpdate_heeded_iff_capitals :
    afterVisit.2.1.Reached ∧ afterVisit.2.2.answers 0 = .ok otherName ∧
      ((afterCorrection "IF" (by decide)).2.1.flush afterVisit.2.2).1 =
        .ok (.rejected ⟨.update, [("name", .text "Helen")]⟩) ∧
      ∃ row, otherName.rows = [row] ∧
        (afterCorrection "IF" (by decide)).2.1.context.Heeds row afterVisit.2.2 := by
  have reached : afterVisit.2.1.Reached :=
    ⟨_, _, _, _, _, [(.operation (.write .update 0 .standard), visitorWorld)], rfl⟩
  obtain ⟨queued, performed, turned⟩ := nativeUpdate_heeded_iff reached
    (correction "IF" (by decide)) [.text "Anna", .int 1, .text "Ann"] afterVisit.2.2
  have same : (afterCorrection "IF" (by decide)).2.1 = queued := congrArg (·.2.1) performed
  have heeded := turned queued.context [] [] (.refl _) afterVisit.2.2 _ _ _ rfl rfl
  refine ⟨reached, rfl, rfl, _, rfl, ?_⟩
  rw [same]
  exact heeded.1.mpr (Or.inl (Or.inr (Or.inr (Or.inr rfl))))

/-- With the word in lower case the correction is taken, but its refusal is not seen: the visit is
counted and the callback runs. -/
theorem lowercase_overlooked :
    (correction "if" (by decide)).query = "update users set name = ? where id = ? if name = ?" ∧
      (afterCorrection "if" (by decide)).1 = .ok () ∧
      afterVisit.2.2.answers 0 = .ok otherName ∧
      ((afterCorrection "if" (by decide)).2.1.flush afterVisit.2.2).1 = .ok .applied ∧
      ((afterCorrection "if" (by decide)).2.1.flush afterVisit.2.2).2.2.executed.map
          Submission.statements =
        [[.plain "update users set name = ? where id = ? if name = ?"
            [.text "Anna", .int 1, .text "Ann"]],
          [.plain "UPDATE users_counters SET logins = logins + ? WHERE id = ?"
            [.bigInt 1, .int 1]]] ∧
      ((afterCorrection "if" (by decide)).2.1.flush afterVisit.2.2).2.2.interceptions =
        [("audit", "User", .postUpdate)] := by
  refine ⟨by decide, rfl, rfl, rfl, rfl, rfl⟩

end CqlMapper

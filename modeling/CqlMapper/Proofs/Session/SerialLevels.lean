import CqlMapper.Proofs.Session.Waiting

/-!
The serial level of the envelopes that a batch sends. It is that of the session or else the default
of the configuration, unless a statement written by hand is the first to wait: such a statement does
not fall back to the default, and neither does the envelope that it leads.
-/

namespace CqlMapper

/-- Whether the serial level of the session reaches its envelopes: it is fixed, or there is no
default to fall back to, or a statement generated for an entity comes first. -/
def SeriallyLed (manager : EntityManager) (levels : Option Level × Option Level)
    (queue : List Queued) : Prop :=
  levels.2.isSome = true ∨ manager.config.defaultSerial = none ∨
    ∀ first rest, Queued.part queue false = first :: rest → first.origin.isSome = true

namespace Queued.Levelled

variable {manager : EntityManager} {levels : Option Level × Option Level} {entry : Queued}

theorem serial_iff (levelled : entry.Levelled manager levels) :
    levels.2.or entry.pending.serialLevel = levels.2.or manager.config.defaultSerial ↔
      levels.2.isSome = true ∨ manager.config.defaultSerial = none ∨
        entry.origin.isSome = true := by
  cases origin : entry.origin with
  | some schema =>
      have generated : entry.origin.isSome = true := by rw [origin]; rfl
      simp [levelled.serialLevel generated]
  | none =>
      rw [(levelled.native origin).2]
      cases fixed : levels.2 with
      | some level => simp
      | none => simp [eq_comm]

end Queued.Levelled

namespace Batch.Carries

variable {manager : EntityManager} {levels : Option Level × Option Level} {queue : List Queued}
  {batch : Batch}

theorem levelled_first (carries : batch.Carries manager levels queue) {counter : Bool}
    {first : Queued} {rest : List Queued} (part : Queued.part queue counter = first :: rest) :
    first.pending.counter = counter ∧ first.Levelled manager levels := by
  have member : first ∈ Queued.part queue counter := by
    rw [part]
    exact List.mem_cons_self
  obtain ⟨among, kind⟩ := List.mem_filter.mp member
  exact ⟨by simpa using kind, carries.each first among⟩

/-- Counters are only written for entities. -/
theorem counters_generated (carries : batch.Carries manager levels queue) {first : Queued}
    {rest : List Queued} (part : Queued.part queue true = first :: rest) :
    first.origin.isSome = true := by
  obtain ⟨counter, levelled⟩ := carries.levelled_first part
  cases origin : first.origin with
  | some => rfl
  | none =>
      rw [(levelled.native origin).1] at counter
      cases counter

/-- An envelope has the level that is due, or it is that of the plain statements and has none. -/
theorem serial_or_none (carries : batch.Carries manager levels queue) {counter : Bool}
    {first : Queued} {rest : List Queued} (part : Queued.part queue counter = first :: rest)
    {submission : Submission} (led : submission.LedBy levels first rest) :
    ∃ envelope : Envelope, submission = .batch envelope ∧
      (envelope.serialLevel = levels.2.or manager.config.defaultSerial ∨
        envelope.serialLevel = none ∧ envelope.statements =
          (Queued.part queue false).map (·.pending.batched)) := by
  obtain ⟨_, levelled⟩ := carries.levelled_first part
  cases led with
  | @batch envelope statements level serialLevel =>
      refine ⟨envelope, rfl, ?_⟩
      by_cases right : levels.2.or first.pending.serialLevel =
          levels.2.or manager.config.defaultSerial
      · exact Or.inl (serialLevel.trans right)
      · rw [levelled.serial_iff, not_or, not_or] at right
        obtain ⟨unfixed, _, written⟩ := right
        cases counter with
        | true => exact absurd (carries.counters_generated part) written
        | false =>
            have native : first.origin = none := by simpa using written
            refine Or.inr ⟨?_, by rw [statements, part]⟩
            rw [serialLevel, (levelled.native native).2]
            simpa using unfixed

theorem serial_of_ledBy (carries : batch.Carries manager levels queue)
    (leads : SeriallyLed manager levels queue) {counter : Bool} {first : Queued}
    {rest : List Queued} (part : Queued.part queue counter = first :: rest) :
    levels.2.or first.pending.serialLevel = levels.2.or manager.config.defaultSerial := by
  obtain ⟨_, levelled⟩ := carries.levelled_first part
  rw [levelled.serial_iff]
  rcases leads with fixed | none | generated
  · exact Or.inl fixed
  · exact Or.inr (Or.inl none)
  · cases counter with
    | true => exact Or.inr (Or.inr (carries.counters_generated part))
    | false => exact Or.inr (Or.inr (generated first rest part))

end Batch.Carries

/-- What a batch sends of its queue between two worlds. An envelope has the serial level of the
session, or else the default, unless it has none at all; this is that of the plain statements. -/
structure Batch.SendsSerially (manager : EntityManager) (levels : Option Level × Option Level)
    (queue : List Queued) (before after : World) (sent : List Submission) : Prop where
  executed : after.executed = before.executed ++ sent
  each : ∀ submission ∈ sent, ∃ envelope : Envelope, submission = .batch envelope ∧
    (envelope.serialLevel = levels.2.or manager.config.defaultSerial ∨
      envelope.serialLevel = none ∧
        envelope.statements = (Queued.part queue false).map (·.pending.batched))
  all_iff : (∀ envelope : Envelope, .batch envelope ∈ sent →
      envelope.serialLevel = levels.2.or manager.config.defaultSerial) ↔
    SeriallyLed manager levels queue

theorem Batch.Waits.sendsSerially {manager : EntityManager}
    {levels : Option Level × Option Level} {queue : List Queued} {batch : Batch}
    (waits : batch.Waits manager levels queue) (world : World) :
    ∃ sent, Batch.SendsSerially manager levels queue world (batch.flush world).2.2 sent := by
  have carries := waits.carries
  obtain ⟨sent, executed, each, leading⟩ := carries.sends world
  refine ⟨sent, executed, ?_, ?_, ?_⟩
  · intro submission member
    obtain ⟨counter, first, rest, part, led⟩ := each submission member
    exact carries.serial_or_none part led
  · intro all
    by_contra unled
    simp only [SeriallyLed, not_or, not_forall] at unled
    obtain ⟨unfixed, default, first, rest, part, written⟩ := unled
    obtain ⟨submission, member, led⟩ := leading first rest part
    obtain ⟨_, levelled⟩ := carries.levelled_first part
    cases led with
    | batch statements level serialLevel =>
        have right := levelled.serial_iff.mp (serialLevel.symm.trans (all _ member))
        exact (right.resolve_left unfixed).elim default written
  · intro leads envelope member
    obtain ⟨counter, first, rest, part, led⟩ := each _ member
    cases led with
    | batch statements level serialLevel =>
        exact serialLevel.trans (carries.serial_of_ledBy leads part)

/-- Whatever has been called on a batch, what waits in it is known with its origin and the levels of
the session. With these, all envelopes of a flush have the serial level of the session, or else the
default, just when the first of the plain statements may fall back to it. -/
theorem flush_serialLevels_iff {batch : Batch} (reached : batch.Reached) (world : World) :
    (∃ manager levels queue, batch.Waits manager levels queue) ∧
      ∀ manager levels queue, batch.Waits manager levels queue →
        ∃ sent, Batch.SendsSerially manager levels queue world (batch.flush world).2.2 sent := by
  obtain ⟨manager, ordered, unlogged, level, serialLevel, calls, rfl⟩ := reached
  exact ⟨⟨manager, Batch.exists_waits manager ordered unlogged level serialLevel calls⟩,
    fun _ _ _ waits => waits.sendsSerially world⟩

def serialLeague : EntityManager :=
  { league with config := { Config.standard with defaultSerial := some .serial } }

def enlisting : Operation :=
  .write .insert 0 .standard

def openingClubs : Action :=
  .native "UPDATE clubs SET open = ?" [.boolean true]

def signedBatch : Batch :=
  (Batch.start serialLeague false false none none).follow
    [(.operation enlisting, arena), (openingClubs, arena)]

theorem flush_serialLevels_iff_signed :
    signedBatch.Reached ∧ ∃ queue, signedBatch.Waits serialLeague (none, none) queue ∧
      SeriallyLed serialLeague (none, none) queue ∧
      ∃ sent, (signedBatch.flush arena).2.2.executed = sent ∧
        sent.map (fun submission => submission.statements.length) = [2, 1] ∧
        ∀ envelope : Envelope, .batch envelope ∈ sent → envelope.serialLevel = some .serial := by
  have reached : signedBatch.Reached := ⟨serialLeague, false, false, none, none, _, rfl⟩
  have named : enlisting.entityName arena = .ok "Player" := rfl
  have known : Keyed.get? serialLeague.registry "Player" = some playerSchema := rfl
  have makes : enlisting.Makes serialLeague
      (Batch.start serialLeague false false none none).context arena _ _ :=
    .made (.intro named known rfl (.free (Or.inr nofun)) rfl)
      (EntityManager.forall₂_pends_iff.mpr rfl)
  have about : BatchOperation.About (Batch.start serialLeague false false none none) arena
      enlisting.inBatch (some playerSchema) := .entity named known
  have fresh : (Batch.start serialLeague false false none none).Waits serialLeague (none, none)
      [] :=
    .started false false none none
  have signed := fresh.queued rfl about (.operation makes)
  obtain ⟨queue, waits, leads⟩ : ∃ queue, signedBatch.Waits serialLeague (none, none) queue ∧
      SeriallyLed serialLeague (none, none) queue := by
    refine ⟨_, signed.queued rfl (.native _ _) (.native
      (Batch.isNativeWrite_iff.mp rfl) (Batch.handWritten_iff.mpr rfl)),
      Or.inr (Or.inr ?_)⟩
    intro first rest part
    cases part
    rfl
  obtain ⟨sent, sends⟩ := (flush_serialLevels_iff reached arena).2 _ _ _ waits
  have lengths : ((signedBatch.flush arena).2.2.executed.map
      fun submission => submission.statements.length) = [2, 1] := rfl
  rw [sends.executed] at lengths
  exact ⟨reached, queue, waits, leads, sent, sends.executed, lengths, sends.all_iff.mpr leads⟩

/-- Written by hand, the first statement leaves its envelope without a serial level. -/
theorem serialLevel_lost :
    ((((Batch.start serialLeague false false none none).follow
        [(openingClubs, arena), (.operation enlisting, arena)]).flush
      arena).2.2.executed.map fun submission =>
        (submission.batchType?, submission.serialLevel?)) =
      [(some .logged, none), (some .counter, some .serial)] := by
  rfl

end CqlMapper

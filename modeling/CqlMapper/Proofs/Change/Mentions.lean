import Mathlib.Data.List.Induction
import CqlMapper.Proofs.Change.WellFormed

/-!
Ledgers of mentions. Each mention of an element or key gives it something or takes it away, and a
ledger keeps what was given and what was taken last. What it keeps on a name depends on the mentions
of that name alone, and only the last of them decides.
-/

namespace CqlMapper

open FieldValue

structure Mention where
  name : FieldValue
  /-- What the name is given; nothing when it is taken away. -/
  given : Option FieldValue

def LastMention (mentions : List Mention) (name : FieldValue) (given : Option FieldValue) : Prop :=
  ∃ front last back, mentions = front ++ last :: back ∧ (last.name == name) = true ∧
    last.given = given ∧ ∀ later ∈ back, (later.name == name) = false

structure Settled (mentions : List Mention) (given taken : List FieldValue) : Prop where
  given_iff : ∀ name : FieldValue, name.WellFormed →
    (contained given name = true ↔ ∃ value, LastMention mentions name (some value))
  taken_iff : ∀ name : FieldValue, name.WellFormed →
    (contained taken name = true ↔ LastMention mentions name none)
  apart : ∀ name : FieldValue, name.WellFormed →
    contained given name = true → contained taken name = false
  givenOnce : Distinct given
  takenOnce : Distinct taken

theorem lastMention_concat {mentions : List Mention} {mention : Mention} {name : FieldValue}
    {given : Option FieldValue} :
    LastMention (mentions ++ [mention]) name given ↔
      if mention.name == name then mention.given = given else LastMention mentions name given := by
  constructor
  · rintro ⟨front, last, back, split, about, gives, later⟩
    rcases List.eq_nil_or_concat back with rfl | ⟨back, final, rfl⟩
    · obtain ⟨rfl, same⟩ := List.append_inj' split rfl
      obtain rfl := List.singleton_inj.mp same
      simpa [about] using gives
    · rw [List.concat_eq_append] at split later
      rw [← List.cons_append, ← List.append_assoc] at split
      obtain ⟨rfl, same⟩ := List.append_inj' split rfl
      obtain rfl := List.singleton_inj.mp same
      obtain ⟨others, apart⟩ := List.forall_mem_append.mp later
      have different := List.forall_mem_singleton.mp apart
      rw [different]
      exact ⟨front, last, back, rfl, about, gives, others⟩
  · intro decided
    by_cases about : (mention.name == name) = true
    · rw [if_pos about] at decided
      exact ⟨mentions, mention, [], rfl, about, decided, List.forall_mem_nil _⟩
    · rw [if_neg about] at decided
      obtain ⟨front, last, back, rfl, first, gives, later⟩ := decided
      refine ⟨front, last, back ++ [mention], by simp, first, gives, ?_⟩
      exact List.forall_mem_append.mpr
        ⟨later, List.forall_mem_singleton.mpr (Bool.eq_false_iff.mpr about)⟩

namespace FieldValue

section

variable {α : Type} {part : α → FieldValue} {items others : List α} {key name : FieldValue}

theorem find?_filter_ne (formed : ∀ item ∈ items, (part item).WellFormed)
    (keyFormed : key.WellFormed) (nameFormed : name.WellFormed) :
    (items.filter fun item => !(part item == key)).find? (fun item => part item == name) =
      if key == name then none else items.find? fun item => part item == name := by
  induction items with
  | nil => simp
  | cons item items ih =>
      obtain ⟨first, rest⟩ := List.forall_mem_cons.mp formed
      by_cases same : (part item == key) = true
      · have agree := beq_congr_left first keyFormed nameFormed same
        rw [List.filter_cons_of_neg (by simp [same]), ih rest, List.find?_cons, agree]
        cases key == name <;> rfl
      · rw [List.filter_cons_of_pos (by simp [same]), List.find?_cons, ih rest, List.find?_cons]
        by_cases here : (part item == name) = true
        · have apart := beq_eq_false_of_apart first keyFormed nameFormed same here
          simp [here, apart]
        · simp [here]

theorem find?_of_mem (formed : ∀ item ∈ items, (part item).WellFormed)
    (distinct : items.Pairwise fun first second => ¬(part second == part first) = true) {item : α}
    (member : item ∈ items) : items.find? (fun other => part other == part item) = some item := by
  induction items with
  | nil => cases member
  | cons first items ih =>
      obtain ⟨firstFormed, rest⟩ := List.forall_mem_cons.mp formed
      obtain ⟨apart, distinctRest⟩ := List.pairwise_cons.mp distinct
      rcases List.mem_cons.mp member with rfl | later
      · simp [firstFormed.refl]
      · have different : ¬(part first == part item) = true := fun same =>
          apart item later ((firstFormed.symm (rest item later)).mp same)
        rw [List.find?_cons_of_neg (by simpa using different)]
        exact ih rest distinctRest later

/-- Items under names of their own are the same up to order if each name finds the same. -/
theorem perm_of_find? (formed : ∀ item ∈ items, (part item).WellFormed)
    (othersFormed : ∀ item ∈ others, (part item).WellFormed)
    (distinct : items.Pairwise fun first second => ¬(part second == part first) = true)
    (othersDistinct : others.Pairwise fun first second => ¬(part second == part first) = true)
    (same : ∀ name : FieldValue, name.WellFormed →
      items.find? (fun item => part item == name) = others.find? fun item => part item == name) :
    items.Perm others := by
  have nodup {items : List α} (formed : ∀ item ∈ items, (part item).WellFormed)
      (distinct : items.Pairwise fun first second => ¬(part second == part first) = true) :
      items.Nodup := by
    refine List.Pairwise.imp_of_mem ?_ distinct
    rintro first second member _ apart rfl
    exact apart (formed first member).refl
  refine (List.perm_ext_iff_of_nodup (nodup formed distinct)
    (nodup othersFormed othersDistinct)).mpr fun item => ⟨fun member => ?_, fun member => ?_⟩
  · have found := find?_of_mem formed distinct member
    rw [same _ (formed item member)] at found
    exact List.mem_of_find?_eq_some found
  · have found := find?_of_mem othersFormed othersDistinct member
    rw [← same _ (othersFormed item member)] at found
    exact List.mem_of_find?_eq_some found

end

theorem find?_putEntry {entries : List (FieldValue × FieldValue)} {key name : FieldValue}
    (value : FieldValue) (formed : AllFormed (keys entries)) (keyFormed : key.WellFormed)
    (nameFormed : name.WellFormed) :
    (putEntry key value entries).find? (fun entry => entry.1 == name) =
      if key == name then
        some (((entries.find? fun entry => entry.1 == name).map (·.1)).getD key, value)
      else entries.find? fun entry => entry.1 == name := by
  induction entries with
  | nil => simp [putEntry]
  | cons entry entries ih =>
      simp only [keys, List.map_cons, AllFormed, List.mem_cons, forall_eq_or_imp] at formed
      rw [putEntry]
      by_cases same : (entry.1 == key) = true
      · have agree := beq_congr_left formed.1 keyFormed nameFormed same
        simp only [same, ↓reduceIte, List.find?_cons, agree]
        cases key == name <;> rfl
      · simp only [same, Bool.false_eq_true, ↓reduceIte, List.find?_cons, ih formed.2]
        by_cases here : (entry.1 == name) = true
        · simp [here, beq_eq_false_of_apart formed.1 keyFormed nameFormed same here]
        · simp [here]

theorem find?_addNew {items : List FieldValue} {value name : FieldValue}
    (formed : AllFormed items) (valueFormed : value.WellFormed) (nameFormed : name.WellFormed) :
    (addNew items value).find? (fun item => item == name) =
      if value == name then some ((items.find? fun item => item == name).getD value)
      else items.find? fun item => item == name := by
  unfold addNew
  by_cases present : contained items value = true
  · rw [if_pos present]
    by_cases same : (value == name) = true
    · rw [contained_congr formed valueFormed nameFormed same, contained_iff] at present
      obtain ⟨item, found⟩ := Option.isSome_iff_exists.mp (List.find?_isSome.mpr present)
      simp [same, found]
    · simp [same]
  · rw [if_neg present, List.find?_append]
    by_cases same : (value == name) = true
    · have absent : items.find? (fun item => item == name) = none := by
        rw [contained_congr formed valueFormed nameFormed same] at present
        simpa [contained] using present
      simp [same, absent]
    · simp [same]

theorem contained_keys_iff {entries : List (FieldValue × FieldValue)} {key : FieldValue} :
    contained (keys entries) key = true ↔ ∃ value, entryValue? entries key = some value := by
  constructor
  · intro present
    cases found : entryValue? entries key with
    | some value => exact ⟨value, rfl⟩
    | none =>
        obtain ⟨name, member, same⟩ := (contained_iff _ _).mp present
        obtain ⟨entry, among, rfl⟩ := List.mem_map.mp member
        simp only [entryValue?, Option.map_eq_none_iff, List.find?_eq_none] at found
        exact absurd same (found entry among)
  · rintro ⟨value, found⟩
    exact contained_keys_of_entryValue? found

theorem Distinct.absent {front back : List FieldValue} {item : FieldValue}
    (distinct : Distinct (front ++ item :: back)) (formed : AllFormed (front ++ item :: back)) :
    contained front item = false := by
  obtain ⟨frontFormed, rest⟩ := allFormed_append.mp formed
  obtain ⟨_, _, apart⟩ := List.pairwise_append.mp distinct
  apply Bool.eq_false_iff.mpr
  intro present
  obtain ⟨other, member, same⟩ := (contained_iff front item).mp present
  exact apart other member item List.mem_cons_self
    (((frontFormed other member).symm (allFormed_cons.mp rest).1).mp same)

theorem putEntry_of_absent {entries : List (FieldValue × FieldValue)} {key : FieldValue}
    (absent : contained (keys entries) key = false) (value : FieldValue) :
    putEntry key value entries = entries ++ [(key, value)] := by
  induction entries with
  | nil => rfl
  | cons entry entries ih =>
      simp only [keys, List.map_cons, contained, List.any_cons, Bool.or_eq_false_iff] at absent
      rw [putEntry, if_neg (by simp [absent.1]), ih absent.2, List.cons_append]

theorem withoutKey_of_absent {entries : List (FieldValue × FieldValue)} {key : FieldValue}
    (absent : contained (keys entries) key = false) : withoutKey entries key = entries := by
  refine List.filter_eq_self.mpr fun entry member => ?_
  rw [contained, keys, List.any_map, List.any_eq_false] at absent
  simpa using absent entry member

end FieldValue

structure Ledger where
  entries : List (FieldValue × FieldValue)
  dropped : List FieldValue

namespace Ledger

def empty : Ledger :=
  ⟨[], []⟩

def note (ledger : Ledger) (mention : Mention) : Ledger :=
  match mention.given with
  | some value =>
    ⟨putEntry mention.name value ledger.entries, without ledger.dropped mention.name⟩
  | none => ⟨withoutKey ledger.entries mention.name, addNew ledger.dropped mention.name⟩

def ofMentions (mentions : List Mention) : Ledger :=
  mentions.foldl note empty

theorem ofMentions_concat (mentions : List Mention) (mention : Mention) :
    ofMentions (mentions ++ [mention]) = (ofMentions mentions).note mention := by
  simp [ofMentions, List.foldl_append]

structure Sound (ledger : Ledger) : Prop where
  entriesFormed : AllFormed (keys ledger.entries)
  droppedFormed : AllFormed ledger.dropped
  entriesOnce : Distinct (keys ledger.entries)
  droppedOnce : Distinct ledger.dropped
  apart : ∀ name : FieldValue, name.WellFormed →
    contained (keys ledger.entries) name = true → contained ledger.dropped name = false

variable {ledger other : Ledger} {mention : Mention} {mentions others : List Mention}
  {name : FieldValue}

theorem Sound.note (sound : ledger.Sound) (formed : mention.name.WellFormed) :
    (ledger.note mention).Sound := by
  unfold Ledger.note
  cases mention.given with
  | some value =>
      refine ⟨sound.entriesFormed.keys_putEntry formed value, sound.droppedFormed.without _, ?_,
        sound.droppedOnce.without _, fun name nameFormed present => ?_⟩
      · rw [keys_putEntry]
        exact sound.entriesOnce.addNew sound.entriesFormed formed
      · rw [keys_putEntry, contained_addNew sound.entriesFormed formed nameFormed] at present
        rw [contained_without sound.droppedFormed formed nameFormed]
        by_cases same : (mention.name == name) = true
        · simp [same]
        · simp only [same, Bool.or_false] at present
          simp [sound.apart name nameFormed present]
  | none =>
      refine ⟨sound.entriesFormed.keys_withoutKey _, sound.droppedFormed.addNew formed, ?_,
        sound.droppedOnce.addNew sound.droppedFormed formed, fun name nameFormed present => ?_⟩
      · rw [keys_withoutKey]
        exact sound.entriesOnce.without _
      · rw [keys_withoutKey, contained_without sound.entriesFormed formed nameFormed,
          Bool.and_eq_true] at present
        have different : (mention.name == name) = false := by simpa using present.2
        rw [contained_addNew sound.droppedFormed formed nameFormed,
          sound.apart name nameFormed present.1, different]
        rfl

theorem sound_ofMentions (formed : ∀ mention ∈ mentions, mention.name.WellFormed) :
    (ofMentions mentions).Sound := by
  refine List.foldlRecOn (motive := Sound) mentions _ ?_ fun ledger sound mention member =>
    sound.note (formed mention member)
  have nothing : AllFormed [] := fun _ member => absurd member List.not_mem_nil
  exact ⟨nothing, nothing, .nil, .nil,
    fun _ _ present => by simp [empty, keys, contained] at present⟩

/-- What a ledger keeps on a name is what its last mention says. -/
theorem lastMention_ofMentions (formed : ∀ mention ∈ mentions, mention.name.WellFormed)
    (nameFormed : name.WellFormed) :
    (∀ value, entryValue? (ofMentions mentions).entries name = some value ↔
        LastMention mentions name (some value)) ∧
      (contained (ofMentions mentions).dropped name = true ↔ LastMention mentions name none) := by
  induction mentions using List.reverseRecOn with
  | nil => simp [ofMentions, empty, entryValue?, contained, LastMention]
  | append_singleton mentions mention ih =>
      obtain ⟨earlier, last⟩ := List.forall_mem_append.mp formed
      have mentionFormed := List.forall_mem_singleton.mp last
      have sound := sound_ofMentions earlier
      obtain ⟨entries, dropped⟩ := ih earlier
      simp only [ofMentions_concat, lastMention_concat, ← entries, ← dropped, note]
      cases given : mention.given with
      | some other =>
          simp only [entryValue?_putEntry other sound.entriesFormed mentionFormed nameFormed,
            contained_without sound.droppedFormed mentionFormed nameFormed]
          split <;> rename_i same <;> simp [same]
      | none =>
          simp only [entryValue?_withoutKey sound.entriesFormed mentionFormed nameFormed,
            contained_addNew sound.droppedFormed mentionFormed nameFormed]
          split <;> rename_i same <;> simp [same]

theorem settled_ofMentions (formed : ∀ mention ∈ mentions, mention.name.WellFormed) :
    Settled mentions (keys (ofMentions mentions).entries) (ofMentions mentions).dropped := by
  have sound := sound_ofMentions formed
  refine ⟨fun name nameFormed => ?_, fun name nameFormed => ?_, sound.apart, sound.entriesOnce,
    sound.droppedOnce⟩
  · simp only [contained_keys_iff, (lastMention_ofMentions formed nameFormed).1]
  · exact (lastMention_ofMentions formed nameFormed).2

structure Agrees (name : FieldValue) (ledger other : Ledger) : Prop where
  entry : (ledger.entries.find? fun entry => entry.1 == name) =
    other.entries.find? fun entry => entry.1 == name
  dropped : (ledger.dropped.find? fun item => item == name) =
    other.dropped.find? fun item => item == name

theorem Sound.note_entry (sound : ledger.Sound) (formed : mention.name.WellFormed)
    (nameFormed : name.WellFormed) :
    ((ledger.note mention).entries.find? fun entry => entry.1 == name) =
      if mention.name == name then
        mention.given.map fun value =>
          (((ledger.entries.find? fun entry => entry.1 == name).map (·.1)).getD mention.name, value)
      else ledger.entries.find? fun entry => entry.1 == name := by
  unfold Ledger.note
  cases mention.given with
  | some value => exact find?_putEntry value sound.entriesFormed formed nameFormed
  | none =>
      have entriesFormed := allFormed_map.mp sound.entriesFormed
      exact find?_filter_ne entriesFormed formed nameFormed

theorem Sound.note_dropped (sound : ledger.Sound) (formed : mention.name.WellFormed)
    (nameFormed : name.WellFormed) :
    ((ledger.note mention).dropped.find? fun item => item == name) =
      if mention.name == name then
        if mention.given.isSome then none
        else some ((ledger.dropped.find? fun item => item == name).getD mention.name)
      else ledger.dropped.find? fun item => item == name := by
  unfold Ledger.note
  cases mention.given with
  | some value => exact find?_filter_ne sound.droppedFormed formed nameFormed
  | none => exact find?_addNew sound.droppedFormed formed nameFormed

theorem Agrees.note (agrees : ledger.Agrees name other) (sound : ledger.Sound)
    (otherSound : other.Sound) (formed : mention.name.WellFormed) (nameFormed : name.WellFormed) :
    (ledger.note mention).Agrees name (other.note mention) := by
  constructor
  · rw [sound.note_entry formed nameFormed, otherSound.note_entry formed nameFormed, agrees.entry]
  · rw [sound.note_dropped formed nameFormed, otherSound.note_dropped formed nameFormed,
      agrees.dropped]

theorem Agrees.note_elsewhere (agrees : ledger.Agrees name other) (sound : ledger.Sound)
    (formed : mention.name.WellFormed) (nameFormed : name.WellFormed)
    (elsewhere : ¬(mention.name == name) = true) : (ledger.note mention).Agrees name other := by
  constructor
  · rw [sound.note_entry formed nameFormed, if_neg elsewhere, agrees.entry]
  · rw [sound.note_dropped formed nameFormed, if_neg elsewhere, agrees.dropped]

/-- What is kept on a name depends on its own mentions only. -/
theorem agrees_filter (formed : ∀ mention ∈ mentions, mention.name.WellFormed)
    (nameFormed : name.WellFormed) :
    (ofMentions mentions).Agrees name
      (ofMentions (mentions.filter fun mention => mention.name == name)) := by
  induction mentions using List.reverseRecOn with
  | nil => exact ⟨rfl, rfl⟩
  | append_singleton mentions mention ih =>
      obtain ⟨earlier, last⟩ := List.forall_mem_append.mp formed
      have mentionFormed := List.forall_mem_singleton.mp last
      have sound := sound_ofMentions earlier
      have agrees := ih earlier
      rw [List.filter_append]
      by_cases here : (mention.name == name) = true
      · have kept : ∀ mention ∈ mentions.filter fun mention => mention.name == name,
            mention.name.WellFormed := fun mention member =>
          earlier mention (List.mem_filter.mp member).1
        rw [List.filter_cons, if_pos here, List.filter_nil, ofMentions_concat, ofMentions_concat]
        exact agrees.note sound (sound_ofMentions kept) mentionFormed nameFormed
      · rw [List.filter_cons, if_neg here, List.filter_nil, List.append_nil, ofMentions_concat]
        exact agrees.note_elsewhere sound mentionFormed nameFormed here

/-- The same mentions of each name leave the same, up to order. -/
theorem perm_ofMentions (formed : ∀ mention ∈ mentions, mention.name.WellFormed)
    (othersFormed : ∀ mention ∈ others, mention.name.WellFormed)
    (same : ∀ name : FieldValue, name.WellFormed →
      (mentions.filter fun mention => mention.name == name) =
        others.filter fun mention => mention.name == name) :
    (ofMentions mentions).entries.Perm (ofMentions others).entries ∧
      (ofMentions mentions).dropped.Perm (ofMentions others).dropped := by
  have sound := sound_ofMentions formed
  have otherSound := sound_ofMentions othersFormed
  have agree {name : FieldValue} (nameFormed : name.WellFormed) :
      (ofMentions mentions).Agrees name (ofMentions others) := by
    have left := agrees_filter formed nameFormed
    have right := agrees_filter othersFormed nameFormed
    rw [same name nameFormed] at left
    exact ⟨left.entry.trans right.entry.symm, left.dropped.trans right.dropped.symm⟩
  constructor
  · refine perm_of_find? (fun entry member => ?_) (fun entry member => ?_)
      (List.pairwise_map.mp sound.entriesOnce) (List.pairwise_map.mp otherSound.entriesOnce)
      fun _ formed => (agree formed).entry
    · exact sound.entriesFormed _ (List.mem_map_of_mem member)
    · exact otherSound.entriesFormed _ (List.mem_map_of_mem member)
  · exact perm_of_find? sound.droppedFormed otherSound.droppedFormed sound.droppedOnce
      otherSound.droppedOnce fun _ formed => (agree formed).dropped

def mirror (ledger : Ledger) : Ledger :=
  ⟨(keys ledger.entries).map fun name => (name, name), ledger.dropped⟩

theorem keys_mirror (ledger : Ledger) : keys ledger.mirror.entries = keys ledger.entries := by
  simp [mirror, keys]

theorem Sound.mirror (sound : ledger.Sound) : ledger.mirror.Sound := by
  refine ⟨?_, sound.droppedFormed, ?_, sound.droppedOnce, ?_⟩
  · rw [keys_mirror]
    exact sound.entriesFormed
  · rw [keys_mirror]
    exact sound.entriesOnce
  · rw [keys_mirror]
    exact sound.apart

def shortest (ledger : Ledger) : List Mention :=
  ledger.entries.map (fun entry => ⟨entry.1, some entry.2⟩) ++
    ledger.dropped.map fun name => ⟨name, none⟩

theorem fold_entries (kept entries : List (FieldValue × FieldValue))
    (distinct : Distinct (keys (kept ++ entries))) (formed : AllFormed (keys (kept ++ entries))) :
    (entries.map fun entry => (⟨entry.1, some entry.2⟩ : Mention)).foldl note ⟨kept, []⟩ =
      ⟨kept ++ entries, []⟩ := by
  induction entries generalizing kept with
  | nil => simp
  | cons entry entries ih =>
      have absent : contained (keys kept) entry.1 = false := by
        rw [keys, List.map_append, List.map_cons] at distinct formed
        exact distinct.absent formed
      rw [List.append_cons] at distinct formed ⊢
      rw [List.map_cons, List.foldl_cons, note]
      simp only [putEntry_of_absent absent]
      exact ih (kept ++ [entry]) distinct formed

theorem fold_dropped (entries : List (FieldValue × FieldValue)) (kept dropped : List FieldValue)
    (distinct : Distinct (kept ++ dropped)) (formed : AllFormed (kept ++ dropped))
    (apart : ∀ name ∈ dropped, contained (keys entries) name = false) :
    (dropped.map fun name => (⟨name, none⟩ : Mention)).foldl note ⟨entries, kept⟩ =
      ⟨entries, kept ++ dropped⟩ := by
  induction dropped generalizing kept with
  | nil => simp
  | cons name dropped ih =>
      obtain ⟨first, rest⟩ := List.forall_mem_cons.mp apart
      have absent := distinct.absent formed
      rw [List.append_cons] at distinct formed ⊢
      rw [List.map_cons, List.foldl_cons, note]
      simp only [withoutKey_of_absent first, addNew, absent, Bool.false_eq_true, if_false]
      exact ih (kept ++ [name]) distinct formed rest

theorem Sound.ofMentions_shortest (sound : ledger.Sound) : ofMentions ledger.shortest = ledger := by
  have apart : ∀ name ∈ ledger.dropped, contained (keys ledger.entries) name = false := by
    intro name member
    apply Bool.eq_false_iff.mpr
    intro present
    have nameFormed := sound.droppedFormed name member
    have absent := sound.apart name nameFormed present
    rw [contained_of_mem nameFormed member] at absent
    cases absent
  rw [ofMentions, shortest, List.foldl_append, empty,
    fold_entries [] ledger.entries sound.entriesOnce sound.entriesFormed, List.nil_append,
    fold_dropped _ [] ledger.dropped sound.droppedOnce sound.droppedFormed apart]
  rfl

end Ledger

end CqlMapper

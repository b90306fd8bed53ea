import CqlMapper.Proofs.MessagePack.RoundTrip
import Mathlib.Algebra.BigOperators.Group.List.Lemmas
import Mathlib.Algebra.Order.BigOperators.Group.List

/-!
Whatever has been written in fewer than 2 ^ 32 bytes, and whatever has been read, has no length that
32 bits could not hold.
-/

namespace CqlMapper.MessagePack

section Written

theorem one_le_length_valueBytes (value : CqlValue) : 1 ≤ (valueBytes value).length := by
  cases value with
  | null => decide
  | _ => simp [valueBytes, taggedBytes]

theorem length_le_length_flatMap {α : Type} (bytes : α → List UInt8) (items : List α)
    (some_bytes : ∀ item ∈ items, 1 ≤ (bytes item).length) :
    items.length ≤ (items.flatMap bytes).length := by
  induction items with
  | nil => simp
  | cons item rest ih =>
      obtain ⟨first, others⟩ := List.forall_mem_cons.mp some_bytes
      have later := ih others
      simp only [List.flatMap_cons, List.length_append, List.length_cons]
      omega

theorem length_le_flatMap_of_mem {α : Type} (bytes : α → List UInt8) {items : List α} {item : α}
    (member : item ∈ items) : (bytes item).length ≤ (items.flatMap bytes).length := by
  rw [List.flatMap_def]
  exact (List.sublist_flatten_of_mem (List.mem_map_of_mem member)).length_le

theorem length_le_byteArrayBytes (bytes : List UInt8) :
    bytes.length ≤ (byteArrayBytes bytes).length := by
  have each := length_le_length_flatMap (fun byte => unsignedBytes byte.toNat) bytes
    (fun byte _ => by
      unfold unsignedBytes
      split_ifs <;> simp)
  rw [byteArrayBytes, List.length_append]
  omega

theorem items_of_short {items : List CqlValue}
    (back : ∀ item ∈ items, (valueBytes item).length < UInt32.size → item.Expressible)
    (short : (itemsBytes items).length < UInt32.size) :
    items.length < UInt32.size ∧ CqlValue.AllExpressible items := by
  rw [itemsBytes_eq] at short
  constructor
  · have := length_le_length_flatMap valueBytes items fun item _ => one_le_length_valueBytes item
    omega
  · rw [CqlValue.allExpressible_iff]
    intro item member
    exact back item member (lt_of_le_of_lt (length_le_flatMap_of_mem valueBytes member) short)

theorem entries_of_short {entries : List (CqlValue × CqlValue)}
    (back : ∀ entry ∈ entries,
      ((valueBytes entry.1).length < UInt32.size → entry.1.Expressible) ∧
        ((valueBytes entry.2).length < UInt32.size → entry.2.Expressible))
    (short : (entriesBytes entries).length < UInt32.size) :
    entries.length < UInt32.size ∧ CqlValue.EntriesExpressible entries := by
  have whole (entry : CqlValue × CqlValue) : (entryBytes entry).length =
      (arrayHeader 2).length + (valueBytes entry.1).length + (valueBytes entry.2).length := by
    simp [entryBytes, Nat.add_assoc]
  rw [entriesBytes_eq] at short
  constructor
  · have := length_le_length_flatMap entryBytes entries fun entry _ => by
      have := one_le_length_valueBytes entry.1
      have := whole entry
      omega
    omega
  · rw [CqlValue.entriesExpressible_iff]
    intro entry member
    have part := length_le_flatMap_of_mem entryBytes member
    have := whole entry
    exact ⟨(back entry member).1 (by omega), (back entry member).2 (by omega)⟩

theorem expressible_of_short (value : CqlValue) :
    (valueBytes value).length < UInt32.size → value.Expressible := by
  induction value using CqlValue.nested_induction with
  | single value single =>
      intro short
      cases value with
      | text text =>
          simp only [valueBytes, taggedBytes, stringBytes, List.length_append,
            List.length_cons] at short
          change (Text.utf8Bytes text).length < UInt32.size
          omega
      | blob bytes =>
          have inside := length_le_byteArrayBytes bytes
          simp only [valueBytes, taggedBytes, List.length_append, List.length_cons] at short
          change bytes.length < UInt32.size
          omega
      | list items => cases single
      | set items => cases single
      | map entries => cases single
      | _ => trivial
  | list items back | set items back =>
      intro short
      simp only [valueBytes, taggedBytes, List.length_append, List.length_cons] at short
      exact items_of_short back (by omega)
  | map entries back =>
      intro short
      simp only [valueBytes, taggedBytes, List.length_append, List.length_cons] at short
      exact entries_of_short back (by omega)

theorem writable_of_short {values : List CqlValue} (short : (write values).length < UInt32.size) :
    Writable values := by
  rw [write, List.length_append] at short
  exact items_of_short (fun item _ => expressible_of_short item) (by omega)

end Written

section Read

theorem length_of_take? {count : Nat} {bytes taken rest : List UInt8}
    (took : take? count bytes = some (taken, rest)) : taken.length = count := by
  unfold take? at took
  split at took
  · rename_i enough
    cases took
    exact List.length_take_of_le enough
  · cases took

theorem naturalOf_lt (bytes : List UInt8) : naturalOf bytes < 256 ^ bytes.length := by
  induction bytes using List.reverseRecOn with
  | nil => simp [naturalOf]
  | append_singleton bytes byte ih =>
      have bound := byte.toNat_lt
      rw [naturalOf_append, List.length_append, List.length_singleton, pow_succ]
      omega

theorem takeNatural?_lt {count value : Nat} {bytes rest : List UInt8}
    (took : takeNatural? count bytes = some (value, rest)) : value < 256 ^ count := by
  obtain ⟨⟨taken, rest⟩, took, same⟩ := Option.map_eq_some_iff.mp took
  cases same
  rw [← length_of_take? took]
  exact naturalOf_lt taken

def Token.Held : Token → Prop
  | .string content | .binary content => content.length < UInt32.size
  | .array count => count < UInt32.size
  | _ => True

/-- Content whose length stands before it in a few bytes. -/
theorem held_of_sized (make : List UInt8 → Token) {count : Nat}
    (few : 256 ^ count ≤ UInt32.size)
    (held : ∀ content, content.length < UInt32.size → (make content).Held)
    {bytes rest : List UInt8} {token : Token}
    (took : ((takeNatural? count bytes).bind fun (size, later) =>
      (take? size later).map fun (content, rest) => (make content, rest)) = some (token, rest)) :
    token.Held := by
  obtain ⟨⟨size, later⟩, sized, took⟩ := Option.bind_eq_some_iff.mp took
  obtain ⟨⟨content, last⟩, taken, same⟩ := Option.map_eq_some_iff.mp took
  cases same
  have length := length_of_take? taken
  have bound := takeNatural?_lt sized
  exact held content (by omega)

theorem held_of_longToken? {marker : Nat} {bytes rest : List UInt8} {token : Token}
    (took : longToken? marker bytes = some (token, rest)) : token.Held := by
  unfold longToken? at took
  split at took
  case h_24 => cases took
  all_goals first
    | exact held_of_sized .string (by decide) (fun _ held => held) took
    | exact held_of_sized .binary (by decide) (fun _ held => held) took
    | (cases took; trivial)
    | skip
  all_goals
    obtain ⟨⟨value, later⟩, taken, same⟩ := Option.map_eq_some_iff.mp took
    cases same
    first
      | trivial
      | exact lt_of_lt_of_le (takeNatural?_lt taken) (by decide)

theorem held_of_token? {bytes rest : List UInt8} {token : Token}
    (took : token? bytes = some (token, rest)) : token.Held := by
  obtain _ | ⟨byte, bytes⟩ := bytes
  · cases took
  · have bound := byte.toNat_lt
    simp only [token?] at took
    split_ifs at took with positive map array string negative
    · cases took
      trivial
    · cases took
      trivial
    · cases took
      change byte.toNat - 0x90 < 2 ^ 32
      omega
    · obtain ⟨⟨content, later⟩, taken, same⟩ := Option.map_eq_some_iff.mp took
      cases same
      have length := length_of_take? taken
      change content.length < 2 ^ 32
      omega
    · cases took
      trivial
    · exact held_of_longToken? took

def Gives {α : Type} (read : Reader α) (property : α → Prop) : Prop :=
  ∀ bytes item rest, read bytes = some (item, rest) → property item

theorem gives_of_readMany {α : Type} {read : Reader α} {property : α → Prop}
    (gives : Gives read property) (count : Nat) :
    Gives (readMany read count) fun items =>
      items.length = count ∧ ∀ item ∈ items, property item := by
  induction count with
  | zero =>
      intro bytes items rest done
      cases done
      simp
  | succ count ih =>
      intro bytes items rest done
      obtain ⟨⟨item, later⟩, first, done⟩ := Option.bind_eq_some_iff.mp done
      obtain ⟨⟨others, last⟩, many, done⟩ := Option.bind_eq_some_iff.mp done
      cases done
      obtain ⟨length, all⟩ := ih later others _ many
      exact ⟨by simp [length], List.forall_mem_cons.mpr ⟨gives bytes item later first, all⟩⟩

theorem gives_of_readArray {α : Type} {inside : Inside α} {property : α → Prop}
    (gives : ∀ read, inside = some read → Gives read property) :
    Gives (readArray inside) fun items =>
      items.length < UInt32.size ∧ ∀ item ∈ items, property item := by
  intro bytes items rest done
  unfold readArray at done
  split at done
  · rename_i count later read took
    obtain ⟨length, all⟩ := gives_of_readMany (gives read rfl) count later items rest done
    have held := held_of_token? took
    exact ⟨length ▸ held, all⟩
  · cases done
    exact ⟨show 0 < UInt32.size by decide, by simp⟩
  · cases done

theorem gives_of_readBlob (inside : Inside UInt8) :
    Gives (readBlob inside) fun bytes => bytes.length < UInt32.size := by
  intro bytes content rest done
  unfold readBlob at done
  split at done
  · rename_i count later read took
    have each : Gives read fun _ => True := fun _ _ _ _ => trivial
    obtain ⟨length, _⟩ := gives_of_readMany each count later content rest done
    have held := held_of_token? took
    exact length ▸ held
  · rename_i content later took
    cases done
    exact held_of_token? took
  · cases done

theorem gives_of_readString :
    Gives readString fun text => (Text.utf8Bytes text).length < UInt32.size := by
  intro bytes text rest done
  unfold readString at done
  split at done
  all_goals first | cases done | skip
  all_goals
    rename_i content later took
    obtain ⟨decoded, same, made⟩ := Option.map_eq_some_iff.mp done
    cases made
    have held := held_of_token? took
    rw [Text.utf8Bytes_of_ofUtf8? same]
    exact held

theorem gives_of_mapped {α : Type} {make : α → CqlValue} {read : Reader α}
    {property : α → Prop} {expected : CqlValue → Prop} (gives : Gives read property)
    (makes : ∀ item, property item → expected (make item)) :
    Gives (mapped make read) expected := by
  intro bytes value rest done
  obtain ⟨⟨item, later⟩, first, made⟩ := Option.map_eq_some_iff.mp done
  cases made
  exact makes item (gives bytes item _ first)

section Values

variable {value : Inside CqlValue} {pair : Inside (CqlValue × CqlValue)}

def BothExpressible (entry : CqlValue × CqlValue) : Prop :=
  entry.1.Expressible ∧ entry.2.Expressible

theorem gives_of_readPayload
    (values : ∀ read, value = some read → Gives read CqlValue.Expressible)
    (pairs : ∀ read, pair = some read → Gives read BothExpressible) (tag : String) :
    Gives (readPayload value pair tag) CqlValue.Expressible := by
  have single {α : Type} {make : α → CqlValue} {read : Reader α}
      (plain : ∀ item, (make item).Expressible) : Gives (mapped make read) CqlValue.Expressible :=
    gives_of_mapped (fun _ _ _ _ => trivial : Gives read fun _ => True) fun item _ => plain item
  have items {make : List CqlValue → CqlValue}
      (whole : ∀ items, (make items).Expressible =
        (items.length < UInt32.size ∧ CqlValue.AllExpressible items)) :
      Gives (mapped make (readArray value)) CqlValue.Expressible :=
    gives_of_mapped (gives_of_readArray values) fun items held => by
      rw [whole, CqlValue.allExpressible_iff]
      exact held
  unfold readPayload
  split
  case h_1 =>
    intro bytes value rest done
    unfold readNil at done
    split at done <;> cases done
    trivial
  case h_8 => exact gives_of_mapped gives_of_readString fun _ held => held
  case h_9 => exact gives_of_mapped (gives_of_readBlob _) fun _ held => held
  case h_13 => exact items fun _ => rfl
  case h_14 => exact items fun _ => rfl
  case h_15 =>
    refine gives_of_mapped (gives_of_readArray pairs) fun entries held => ?_
    exact ⟨held.1, CqlValue.entriesExpressible_iff.mpr held.2⟩
  case h_16 =>
    intro bytes value rest done
    cases done
  all_goals exact single fun _ => trivial

theorem gives_of_readTagged
    (values : ∀ read, value = some read → Gives read CqlValue.Expressible)
    (pairs : ∀ read, pair = some read → Gives read BothExpressible) :
    Gives (readTagged value pair) CqlValue.Expressible := by
  intro bytes result rest done
  obtain ⟨⟨token, later⟩, took, done⟩ := Option.bind_eq_some_iff.mp done
  dsimp only at done
  split at done
  · obtain ⟨⟨name, content⟩, took, done⟩ := Option.bind_eq_some_iff.mp done
    obtain ⟨tag, named, done⟩ := Option.bind_eq_some_iff.mp done
    exact gives_of_readPayload values pairs tag _ result rest done
  · cases done
  · split at done
    · cases done
      trivial
    · cases done

theorem gives_of_readPair (values : ∀ read, value = some read → Gives read CqlValue.Expressible) :
    Gives (readPair value) BothExpressible := by
  intro bytes entry rest done
  unfold readPair at done
  split at done
  · rename_i later read took
    obtain ⟨⟨key, middle⟩, first, done⟩ := Option.bind_eq_some_iff.mp done
    obtain ⟨⟨item, last⟩, second, done⟩ := Option.bind_eq_some_iff.mp done
    cases done
    exact ⟨values read rfl _ key _ first, values read rfl _ item _ second⟩
  · cases done

theorem gives_of_valuesInside {depth : Nat}
    (before : ∀ smaller < depth, Gives (readValue smaller) CqlValue.Expressible)
    (read : Reader CqlValue) (inside : valuesInside depth = some read) :
    Gives read CqlValue.Expressible := by
  obtain _ | depth := depth
  · cases inside
  · cases inside
    exact before depth (Nat.lt_succ_self depth)

theorem gives_of_readValue (depth : Nat) : Gives (readValue depth) CqlValue.Expressible := by
  -- The values of an entry stand two arrays deeper, since the entry is one itself.
  induction depth using Nat.strong_induction_on with
  | h depth before =>
      rw [readValue_eq]
      apply gives_of_readTagged (gives_of_valuesInside before)
      intro read inside
      obtain _ | depth := depth
      · cases inside
      · cases inside
        apply gives_of_readPair
        apply gives_of_valuesInside
        intro smaller less
        exact before smaller (Nat.lt_succ_of_lt less)

end Values

theorem writable_of_read? {bytes : List UInt8} {values : List CqlValue}
    (done : read? bytes = some values) : Writable values := by
  obtain ⟨⟨items, rest⟩, read, same⟩ := Option.map_eq_some_iff.mp done
  cases same
  have gives : ∀ reader, some (readValue (greatestDepth - 1)) = some reader →
      Gives reader CqlValue.Expressible := by
    intro reader same
    cases same
    exact gives_of_readValue _
  obtain ⟨length, all⟩ := gives_of_readArray gives bytes _ rest read
  exact ⟨length, CqlValue.allExpressible_iff.mpr all⟩

end Read

end CqlMapper.MessagePack

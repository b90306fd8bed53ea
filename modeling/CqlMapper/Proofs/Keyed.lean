import Mathlib.Data.List.Induction
import Mathlib.Data.List.Perm.Basic
import CqlMapper.Keyed

/-!
Entries under keys: what is found after a change, and that nothing but the entries themselves
decides how they are kept.
-/

namespace CqlMapper.Keyed

variable {α : Type} {key other : String} {value : α} {entries others : Keyed α}

theorem mem_put {entry : String × α} (member : entry ∈ entries.put key value) :
    entry ∈ entries ∨ entry = (key, value) := by
  induction entries with
  | nil => exact Or.inr (List.mem_singleton.mp member)
  | cons first rest ih =>
      unfold put at member
      split at member
      · exact (List.mem_cons.mp member).symm
      · split at member
        · rcases List.mem_cons.mp member with new | old
          · exact Or.inr new
          · exact Or.inl (List.mem_cons_of_mem _ old)
        · rcases List.mem_cons.mp member with here | there
          · exact Or.inl (here ▸ List.mem_cons_self)
          · exact (ih there).imp_left (List.mem_cons_of_mem _)

theorem mem_put_self (entries : Keyed α) (key : String) (value : α) :
    (key, value) ∈ entries.put key value := by
  induction entries with
  | nil => exact List.mem_singleton_self _
  | cons first rest ih =>
      unfold put
      split
      · exact List.mem_cons_self
      · split
        · exact List.mem_cons_self
        · exact List.mem_cons_of_mem _ ih

theorem mem_put_of_ne {entry : String × α} (member : entry ∈ entries) (apart : entry.1 ≠ key) :
    entry ∈ entries.put key value := by
  induction entries with
  | nil => cases member
  | cons first rest ih =>
      unfold put
      split
      · exact List.mem_cons_of_mem _ member
      · split
        · rename_i same
          rcases List.mem_cons.mp member with rfl | later
          · exact absurd same.symm apart
          · exact List.mem_cons_of_mem _ later
        · rcases List.mem_cons.mp member with rfl | later
          · exact List.mem_cons_self
          · exact List.mem_cons_of_mem _ (ih later)

theorem get?_cons (entry : String × α) (entries : Keyed α) (key : String) :
    get? (entry :: entries) key = if entry.1 = key then some entry.2 else entries.get? key := by
  unfold get?
  by_cases same : entry.1 = key
  · simp [same]
  · simp [same]

theorem mem_of_get? (found : entries.get? key = some value) : (key, value) ∈ entries := by
  obtain ⟨entry, among, rfl⟩ := Option.map_eq_some_iff.mp found
  have same : entry.1 = key := by simpa using List.find?_some among
  rw [← same]
  exact List.mem_of_find?_eq_some among

theorem get?_put_self (entries : Keyed α) (key : String) (value : α) :
    (entries.put key value).get? key = some value := by
  induction entries with
  | nil => simp [put, get?_cons]
  | cons first rest ih =>
      unfold put
      split
      · simp [get?_cons]
      · split
        · simp [get?_cons]
        · rename_i apart
          rw [get?_cons, if_neg fun same => apart same.symm]
          exact ih

theorem get?_put_of_ne (apart : key ≠ other) (entries : Keyed α) (value : α) :
    (entries.put key value).get? other = entries.get? other := by
  induction entries with
  | nil => simp [put, apart, get?]
  | cons first rest ih =>
      unfold put
      split
      · rw [get?_cons, if_neg apart]
      · split
        · rename_i same
          rw [get?_cons, get?_cons, if_neg apart, if_neg (same ▸ apart)]
        · rw [get?_cons, get?_cons, ih]

theorem get?_putNew (entries : Keyed α) (key other : String) (value : α) :
    (putNew key value entries).get? other =
      (entries.get? other).or (if other = key then some value else none) := by
  unfold putNew
  cases held : entries.get? key with
  | some found =>
      by_cases same : other = key
      · simp [same, held]
      · simp [same]
  | none =>
      by_cases same : other = key
      · simp [same, held, get?_put_self]
      · simp [same, get?_put_of_ne fun same' => same same'.symm]

def Sorted (entries : Keyed α) : Prop :=
  entries.Pairwise fun first second => first.1 < second.1

theorem sorted_put (sorted : entries.Sorted) (key : String) (value : α) :
    (entries.put key value).Sorted := by
  unfold Sorted at sorted ⊢
  induction entries with
  | nil => exact List.pairwise_singleton _ _
  | cons first rest ih =>
      obtain ⟨before, sortedRest⟩ := List.pairwise_cons.mp sorted
      unfold put
      split
      · rename_i early
        refine List.pairwise_cons.mpr ⟨List.forall_mem_cons.mpr ⟨early, ?_⟩, sorted⟩
        exact fun entry member => String.lt_trans early (before entry member)
      · split
        · rename_i same
          refine List.pairwise_cons.mpr ⟨?_, sortedRest⟩
          exact fun entry member => same ▸ before entry member
        · rename_i notEarly apart
          have late : first.1 < key := by
            by_contra notLate
            exact apart (String.le_antisymm (String.not_lt.mp notLate) (String.not_lt.mp notEarly))
          refine List.pairwise_cons.mpr ⟨?_, ih sortedRest⟩
          intro entry member
          rcases mem_put member with old | rfl
          · exact before entry old
          · exact late

/-- Sorted entries are the same if they have the same members. -/
theorem Sorted.ext (sorted : entries.Sorted) (also : others.Sorted)
    (same : ∀ entry, entry ∈ entries ↔ entry ∈ others) : entries = others := by
  have nodup {entries : Keyed α} (sorted : entries.Sorted) : entries.Nodup := by
    refine List.Pairwise.imp (fun {first second} before => ?_) sorted
    rintro rfl
    exact String.lt_irrefl _ before
  refine List.Perm.eq_of_pairwise (fun first second _ _ before after => ?_) sorted also
    ((List.perm_ext_iff_of_nodup (nodup sorted) (nodup also)).mpr same)
  exact absurd after (String.lt_asymm before)

theorem Sorted.get?_of_mem (sorted : entries.Sorted) (member : (key, value) ∈ entries) :
    entries.get? key = some value := by
  unfold Sorted at sorted
  induction entries with
  | nil => cases member
  | cons first rest ih =>
      obtain ⟨before, sortedRest⟩ := List.pairwise_cons.mp sorted
      rw [get?_cons]
      rcases List.mem_cons.mp member with rfl | later
      · exact if_pos rfl
      · have apart : first.1 ≠ key := by
          intro same
          have early := before _ later
          rw [same] at early
          exact String.lt_irrefl key early
        rw [if_neg apart]
        exact ih sortedRest later

theorem ofList_concat (entries : List (String × α)) (entry : String × α) :
    ofList (entries ++ [entry]) = (ofList entries).put entry.1 entry.2 := by
  simp [ofList, List.foldl_append]

theorem sorted_ofList (entries : List (String × α)) : (ofList entries).Sorted := by
  refine List.foldlRecOn (motive := Sorted) entries _ List.Pairwise.nil ?_
  intro kept sorted entry _
  exact sorted_put sorted entry.1 entry.2

/-- The last entry of a key is the one that is kept. -/
theorem mem_ofList (entries : List (String × α)) :
    (key, value) ∈ ofList entries ↔
      ∃ front back, entries = front ++ (key, value) :: back ∧ ∀ other ∈ back, other.1 ≠ key := by
  constructor
  · intro member
    induction entries using List.reverseRecOn with
    | nil => cases member
    | append_singleton entries last ih =>
        rw [ofList_concat] at member
        by_cases same : last.1 = key
        · have held := (sorted_put (sorted_ofList entries) _ _).get?_of_mem member
          rw [same, get?_put_self] at held
          obtain rfl := Option.some.inj held
          subst key
          exact ⟨entries, [], rfl, List.forall_mem_nil _⟩
        · have kept : (key, value) ∈ ofList entries := by
            rcases mem_put member with old | new
            · exact old
            · exact absurd (congrArg Prod.fst new).symm same
          obtain ⟨front, back, rfl, later⟩ := ih kept
          refine ⟨front, back ++ [last], by simp, ?_⟩
          exact List.forall_mem_append.mpr ⟨later, List.forall_mem_singleton.mpr same⟩
  · rintro ⟨front, back, rfl, later⟩
    induction back using List.reverseRecOn with
    | nil =>
        rw [ofList_concat]
        exact mem_put_self _ key value
    | append_singleton back last ih =>
        obtain ⟨earlier, other⟩ := List.forall_mem_append.mp later
        rw [← List.cons_append, ← List.append_assoc, ofList_concat]
        exact mem_put_of_ne (ih earlier) fun same => List.forall_mem_singleton.mp other same.symm

end CqlMapper.Keyed

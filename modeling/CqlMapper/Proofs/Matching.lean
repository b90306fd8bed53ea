/-!
Matching of lists by a relation on their elements. A matching between lists of the same length
without related elements goes both ways, which makes it an equivalence where the relation is one.
-/

namespace CqlMapper.Matching

variable {α β : Type}

theorem mem_of_mem_without {front back : List β} {b c : β} (member : c ∈ front ++ back) :
    c ∈ front ++ b :: back := by
  simp only [List.mem_append, List.mem_cons] at member ⊢
  exact member.imp_right Or.inr

/-- Where nobody has `b` for a partner, partners remain without it. -/
theorem matched_without {related : α → β → Prop} {as : List α} {front back : List β} {b : β}
    (matched : ∀ a ∈ as, ∃ c ∈ front ++ b :: back, related a c)
    (lonely : ∀ a ∈ as, ¬related a b) : ∀ a ∈ as, ∃ c ∈ front ++ back, related a c := by
  intro a member
  obtain ⟨c, found, pair⟩ := matched a member
  refine ⟨c, ?_, pair⟩
  have different : c ≠ b := by
    intro same
    subst c
    exact lonely a member pair
  simpa [different] using found

/-- A relation that gives every element of a list a partner, and no two of them the same one, needs
as many partners as there are elements. -/
theorem length_le (related : α → β → Prop) (as : List α) (bs : List β)
    (matched : ∀ a ∈ as, ∃ b ∈ bs, related a b)
    (apart : as.Pairwise fun a other => ∀ b ∈ bs, related a b → ¬related other b) :
    as.length ≤ bs.length := by
  induction as generalizing bs with
  | nil => exact Nat.zero_le _
  | cons a as ih =>
      obtain ⟨b, member, pair⟩ := matched a List.mem_cons_self
      obtain ⟨front, back, rfl⟩ := List.append_of_mem member
      have parts := List.pairwise_cons.mp apart
      have rest : as.length ≤ (front ++ back).length := by
        apply ih
        · exact matched_without (fun other found => matched other (List.mem_cons_of_mem _ found))
            fun other found => parts.1 other found b member pair
        · exact parts.2.imp fun separate c found => separate c (mem_of_mem_without found)
      simp only [List.length_cons, List.length_append] at rest ⊢
      omega

/-- With as many candidates as elements, every candidate is somebody's partner. -/
theorem onto (related : α → β → Prop) (as : List α) (bs : List β)
    (matched : ∀ a ∈ as, ∃ b ∈ bs, related a b)
    (apart : as.Pairwise fun a other => ∀ b ∈ bs, related a b → ¬related other b)
    (length : bs.length ≤ as.length) : ∀ b ∈ bs, ∃ a ∈ as, related a b := by
  intro b member
  apply Classical.byContradiction
  intro single
  -- Without a partner for `b` all elements would find theirs in a list that is shorter by one.
  obtain ⟨front, back, rfl⟩ := List.append_of_mem member
  have fewer : as.length ≤ (front ++ back).length := by
    apply length_le related
    · exact matched_without matched fun a belongs pair => single ⟨a, belongs, pair⟩
    · exact apart.imp fun separate c found => separate c (mem_of_mem_without found)
  simp only [List.length_append, List.length_cons] at fewer length
  omega

/-- What an element contributes to a relation being an equivalence on the good ones. Each part is
about one fixed element, so that the whole can be proved by induction on it. -/
structure Coherent (good : α → Prop) (related : α → α → Prop) (a : α) : Prop where
  refl : related a a
  symm : ∀ b, good b → (related a b ↔ related b a)
  left : ∀ b c, good b → good c → related a b → (related b c ↔ related a c)
  right : ∀ b c, good b → good c → related a b → (related c b ↔ related c a)

theorem Coherent.flip {good : α → Prop} {related : α → α → Prop} {a : α}
    (coherent : Coherent good related a) : Coherent good (fun b c => related c b) a where
  refl := coherent.refl
  symm b goodB := (coherent.symm b goodB).symm
  left b c goodB goodC pair := coherent.right b c goodB goodC ((coherent.symm b goodB).mpr pair)
  right b c goodB goodC pair := coherent.left b c goodB goodC ((coherent.symm b goodB).mpr pair)

def Matched (related : α → α → Prop) (as bs : List α) : Prop :=
  as.length = bs.length ∧ ∀ a ∈ as, ∃ b ∈ bs, related a b

def Distinct (good : α → Prop) (related : α → α → Prop) (as : List α) : Prop :=
  (∀ a ∈ as, good a) ∧ as.Pairwise fun a other => ¬related a other

theorem Matched.chain {related : α → α → Prop} {as bs cs : List α}
    (chain : ∀ a ∈ as, ∀ c ∈ cs, ∀ b, related a b → related b c → related a c)
    (first : Matched related as bs) (second : Matched related bs cs) : Matched related as cs := by
  refine ⟨first.1.trans second.1, fun a member => ?_⟩
  obtain ⟨b, belongs, pair⟩ := first.2 a member
  obtain ⟨c, found, next⟩ := second.2 b belongs
  exact ⟨c, found, chain a member c found b pair next⟩

theorem Matched.back {good : α → Prop} {related : α → α → Prop} {as bs : List α}
    (coherent : ∀ a ∈ as, Coherent good related a) (left : Distinct good related as)
    (right : Distinct good related bs) (matched : Matched related as bs) :
    ∀ b ∈ bs, ∃ a ∈ as, related a b := by
  apply onto related as bs matched.2 _ (Nat.le_of_eq matched.1.symm)
  apply left.2.imp_of_mem
  intro a other member otherMember separate b belongs first second
  have goodB := right.1 b belongs
  have swapped := ((coherent other otherMember).symm b goodB).mp second
  exact separate (((coherent a member).left b other goodB (left.1 other otherMember) first).mp
    swapped)

/-- A matching of distinct elements inherits coherence from the elements. -/
theorem Coherent.matched {good : α → Prop} {related : α → α → Prop} {as : List α}
    (coherent : ∀ a ∈ as, Coherent good related a) (distinct : Distinct good related as) :
    Coherent (Distinct good related) (Matched related) as where
  refl := ⟨rfl, fun a member => ⟨a, member, (coherent a member).refl⟩⟩
  symm bs distinctB := by
    constructor
    · intro matched
      refine ⟨matched.1.symm, ?_⟩
      intro b belongs
      obtain ⟨a, member, pair⟩ := matched.back coherent distinct distinctB b belongs
      exact ⟨a, member, ((coherent a member).symm b (distinctB.1 b belongs)).mp pair⟩
    · intro matched
      refine ⟨matched.1.symm, ?_⟩
      have back : ∀ a ∈ as, ∃ b ∈ bs, related b a := by
        apply onto related bs as matched.2 _ (Nat.le_of_eq matched.1.symm)
        apply distinctB.2.imp_of_mem
        intro b other belongs otherBelongs separate a member first second
        have goodB := distinctB.1 b belongs
        have goodOther := distinctB.1 other otherBelongs
        have swapped := ((coherent a member).symm b goodB).mpr first
        have pair := ((coherent a member).symm other goodOther).mpr second
        exact separate (((coherent a member).left b other goodB goodOther swapped).mpr pair)
      intro a member
      obtain ⟨b, belongs, pair⟩ := back a member
      exact ⟨b, belongs, ((coherent a member).symm b (distinctB.1 b belongs)).mpr pair⟩
  left bs cs distinctB distinctC matched := by
    have back := matched.back coherent distinct distinctB
    constructor
    · intro next
      refine ⟨matched.1.trans next.1, ?_⟩
      intro a member
      obtain ⟨b, belongs, pair⟩ := matched.2 a member
      obtain ⟨c, found, nextPair⟩ := next.2 b belongs
      exact ⟨c, found, ((coherent a member).left b c (distinctB.1 b belongs) (distinctC.1 c found)
        pair).mp nextPair⟩
    · intro next
      refine ⟨matched.1.symm.trans next.1, ?_⟩
      intro b belongs
      obtain ⟨a, member, pair⟩ := back b belongs
      obtain ⟨c, found, nextPair⟩ := next.2 a member
      exact ⟨c, found, ((coherent a member).left b c (distinctB.1 b belongs) (distinctC.1 c found)
        pair).mpr nextPair⟩
  right bs cs distinctB distinctC matched := by
    have back := matched.back coherent distinct distinctB
    constructor
    · intro next
      refine ⟨next.1.trans matched.1.symm, ?_⟩
      intro c found
      obtain ⟨b, belongs, nextPair⟩ := next.2 c found
      obtain ⟨a, member, pair⟩ := back b belongs
      exact ⟨a, member, ((coherent a member).right b c (distinctB.1 b belongs) (distinctC.1 c found)
        pair).mp nextPair⟩
    · intro next
      refine ⟨next.1.trans matched.1, ?_⟩
      intro c found
      obtain ⟨a, member, nextPair⟩ := next.2 c found
      obtain ⟨b, belongs, pair⟩ := matched.2 a member
      have goodC := distinctC.1 c found
      exact ⟨b, belongs, ((coherent a member).right b c (distinctB.1 b belongs) goodC pair).mpr
        nextPair⟩

end CqlMapper.Matching

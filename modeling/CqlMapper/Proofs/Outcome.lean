import Mathlib.Data.List.Forall2

/-! Computations that succeed: what a success says about the steps that led to it. -/

namespace CqlMapper.Outcome

variable {ε α β : Type}

theorem bind_eq_ok {result : Except ε α} {next : α → Except ε β} {final : β} :
    result >>= next = .ok final ↔ ∃ found, result = .ok found ∧ next found = .ok final := by
  cases result with
  | error problem => simp [bind, Except.bind]
  | ok found => simp [bind, Except.bind]

theorem map_eq_ok {result : Except ε α} {made : α → β} {final : β} :
    result.map made = .ok final ↔ ∃ found, result = .ok found ∧ made found = final := by
  cases result with
  | error problem => simp [Except.map]
  | ok found => simp [Except.map]

theorem map_eq_error {result : Except ε α} {made : α → β} {problem : ε} :
    result.map made = .error problem ↔ result = .error problem := by
  cases result with
  | error found => simp [Except.map]
  | ok found => simp [Except.map]

theorem map_succeeds {result : Except ε α} {made : α → β} :
    (∃ final, result.map made = .ok final) ↔ ∃ found, result = .ok found := by
  simp [map_eq_ok]

theorem pure_eq_ok {found final : α} : (pure found : Except ε α) = .ok final ↔ found = final := by
  simp [pure, Except.pure]

theorem mapM_eq_ok {action : α → Except ε β} {items : List α} {outputs : List β} :
    items.mapM action = .ok outputs ↔
      List.Forall₂ (fun item output => action item = .ok output) items outputs := by
  induction items generalizing outputs with
  | nil =>
      rw [List.mapM_nil, pure_eq_ok, List.forall₂_nil_left_iff]
      exact eq_comm
  | cons item items ih =>
      rw [List.mapM_cons, bind_eq_ok, List.forall₂_cons_left_iff]
      constructor
      · rintro ⟨output, made, rest⟩
        obtain ⟨others, madeOthers, whole⟩ := bind_eq_ok.mp rest
        exact ⟨output, others, made, ih.mp madeOthers, (pure_eq_ok.mp whole).symm⟩
      · rintro ⟨output, others, made, madeOthers, rfl⟩
        exact ⟨output, made, bind_eq_ok.mpr ⟨others, ih.mpr madeOthers, rfl⟩⟩

theorem mapM_succeeds {action : α → Except ε β} {items : List α} :
    (∃ outputs, items.mapM action = .ok outputs) ↔
      ∀ item ∈ items, ∃ output, action item = .ok output := by
  induction items with
  | nil => simp [pure, Except.pure]
  | cons item items ih =>
      rw [List.forall_mem_cons, ← ih]
      simp only [mapM_eq_ok, List.forall₂_cons_left_iff]
      constructor
      · rintro ⟨_, output, others, made, madeOthers, _⟩
        exact ⟨⟨output, made⟩, others, madeOthers⟩
      · rintro ⟨⟨output, made⟩, others, madeOthers⟩
        exact ⟨_, output, others, made, madeOthers, rfl⟩

theorem mapM_eq_error {action : α → Except ε β} {items : List α} {problem : ε} :
    items.mapM action = .error problem ↔ ∃ front item back, items = front ++ item :: back ∧
      (∀ other ∈ front, ∃ output, action other = .ok output) ∧ action item = .error problem := by
  induction items with
  | nil => simp [pure, Except.pure]
  | cons first items ih =>
      rw [List.mapM_cons]
      cases made : action first with
      | error found =>
          simp only [bind, Except.bind, Except.error.injEq]
          constructor
          · rintro rfl
            exact ⟨[], first, items, rfl, List.forall_mem_nil _, made⟩
          · rintro ⟨front, item, back, split, before, failed⟩
            cases front with
            | nil =>
                obtain ⟨rfl, rfl⟩ := List.cons.inj split
                exact Except.error.inj (made.symm.trans failed)
            | cons other front =>
                obtain ⟨rfl, rfl⟩ := List.cons.inj split
                obtain ⟨output, succeeded⟩ := before first List.mem_cons_self
                cases made.symm.trans succeeded
      | ok output =>
          have rest : ((Except.ok output : Except ε β) >>= fun output =>
              items.mapM action >>= fun others => pure (output :: others)) = .error problem ↔
                items.mapM action = .error problem := by
            cases items.mapM action <;> simp [bind, Except.bind, pure, Except.pure]
          rw [rest, ih]
          constructor
          · rintro ⟨front, item, back, rfl, before, failed⟩
            exact ⟨first :: front, item, back, rfl,
              List.forall_mem_cons.mpr ⟨⟨output, made⟩, before⟩, failed⟩
          · rintro ⟨front, item, back, split, before, failed⟩
            cases front with
            | nil =>
                obtain ⟨rfl, rfl⟩ := List.cons.inj split
                cases made.symm.trans failed
            | cons other front =>
                obtain ⟨rfl, rfl⟩ := List.cons.inj split
                exact ⟨front, item, back, rfl, (List.forall_mem_cons.mp before).2, failed⟩

theorem exists_left {related : α → β → Prop} {items : List α} {outputs : List β}
    (each : List.Forall₂ related items outputs) {output : β} (member : output ∈ outputs) :
    ∃ item ∈ items, related item output := by
  induction each with
  | nil => exact absurd member List.not_mem_nil
  | @cons item _ _ _ first _ ih =>
      rcases List.mem_cons.mp member with rfl | later
      · exact ⟨item, List.mem_cons_self, first⟩
      · obtain ⟨other, belongs, counterpart⟩ := ih later
        exact ⟨other, List.mem_cons_of_mem _ belongs, counterpart⟩

/-- The outputs that are selected stand, in order, for the items that are kept. -/
theorem forall₂_filterMap {γ : Type} {made : α → β → Prop} {related : α → γ → Prop}
    {kept : α → Bool} {selected : β → Option γ} {items : List α} {outputs : List β}
    (each : List.Forall₂ made items outputs)
    (keeps : ∀ item output, made item output → kept item = true →
      ∃ final, selected output = some final ∧ related item final)
    (drops : ∀ item output, made item output → kept item = false → selected output = none) :
    List.Forall₂ related (items.filter kept) (outputs.filterMap selected) := by
  induction each with
  | nil => exact .nil
  | @cons item output items outputs first _ ih =>
      rw [List.filter_cons, List.filterMap_cons]
      cases keep : kept item with
      | true =>
          obtain ⟨final, found, counterpart⟩ := keeps item output first keep
          simp only [found, if_true]
          exact .cons counterpart ih
      | false =>
          have nothing := drops item output first keep
          simpa only [nothing, Bool.false_eq_true, if_false] using ih

theorem exists_of_mem_mapM {action : α → Except ε β} {items : List α} {outputs : List β}
    (made : items.mapM action = .ok outputs) {output : β} (member : output ∈ outputs) :
    ∃ item ∈ items, action item = .ok output :=
  exists_left (mapM_eq_ok.mp made) member

theorem mapM_back {action : α → Except ε β} {undo : β → Except ε α} {items : List α}
    {outputs : List β}
    (back : ∀ item ∈ items, ∀ output, action item = .ok output → undo output = .ok item)
    (made : items.mapM action = .ok outputs) : outputs.mapM undo = .ok items := by
  have each := mapM_eq_ok.mp made
  clear made
  induction each with
  | nil => rfl
  | cons first _ ih =>
      obtain ⟨backFirst, backRest⟩ := List.forall_mem_cons.mp back
      exact mapM_eq_ok.mpr (.cons (backFirst _ first) (mapM_eq_ok.mp (ih backRest)))

theorem mapM_again {read : β → Except ε α} {write : α → Except ε β} {inputs : List β}
    {items : List α} (again : ∀ input item, item ∈ items → read input = .ok item →
      ∃ output, write item = .ok output ∧ read output = .ok item)
    (reads : inputs.mapM read = .ok items) :
    ∃ outputs, items.mapM write = .ok outputs ∧ outputs.mapM read = .ok items := by
  have each := mapM_eq_ok.mp reads
  clear reads
  induction each with
  | nil => exact ⟨[], rfl, rfl⟩
  | @cons input item inputs items first _ ih =>
      obtain ⟨output, writes, rereads⟩ := again input item List.mem_cons_self first
      obtain ⟨outputs, writesRest, rereadsRest⟩ :=
        ih fun input item member => again input item (List.mem_cons_of_mem _ member)
      exact ⟨output :: outputs, mapM_eq_ok.mpr (.cons writes (mapM_eq_ok.mp writesRest)),
        mapM_eq_ok.mpr (.cons rereads (mapM_eq_ok.mp rereadsRest))⟩

end CqlMapper.Outcome

import CqlMapper.Proofs.CqlValue.Conformance
import CqlMapper.Proofs.Keyed
import CqlMapper.Proofs.Outcome
import CqlMapper.Proofs.Statement.Words
import CqlMapper.Conditional.Response

/-!
How the answer to a conditional write is read. Only a first row whose marker says no is a rejection,
and then nothing of the row is lost: every other column that has a value is checked and kept.
-/

namespace CqlMapper

/-- An item with what stands before and after it, by what its list splits into or by its place. -/
theorem split_iff_place {α : Type} {items : List α} {item : α} {early late : α → Prop} :
    (∃ front back, items = front ++ item :: back ∧ (∀ other ∈ front, early other) ∧
        ∀ other ∈ back, late other) ↔
      ∃ place : Nat, items[place]? = some item ∧
        (∀ earlier < place, ∀ other, items[earlier]? = some other → early other) ∧
        ∀ later, place < later → ∀ other, items[later]? = some other → late other := by
  constructor
  · rintro ⟨front, back, rfl, before, after⟩
    refine ⟨front.length, by simp, ?_, ?_⟩
    · intro earlier lower other found
      rw [List.getElem?_append_left lower] at found
      exact before other (List.mem_of_getElem? found)
    · intro later higher other found
      obtain ⟨steps, rfl⟩ := Nat.exists_eq_add_of_lt higher
      have beyond : back[steps]? = some other := by
        simpa [List.getElem?_append_right, Nat.add_assoc] using found
      exact after other (List.mem_of_getElem? beyond)
  · rintro ⟨place, found, before, after⟩
    obtain ⟨bound, here⟩ := List.getElem?_eq_some_iff.mp found
    refine ⟨items.take place, items.drop (place + 1), ?_, ?_, ?_⟩
    · rw [← here, List.getElem_cons_drop, List.take_append_drop]
    · intro other member
      obtain ⟨earlier, lower, same⟩ := List.mem_take_iff_getElem.mp member
      exact before earlier (by omega) other (List.getElem?_eq_some_iff.mpr ⟨by omega, same⟩)
    · intro other member
      obtain ⟨steps, found⟩ := List.mem_iff_getElem?.mp member
      rw [List.getElem?_drop] at found
      exact after (place + 1 + steps) (by omega) other found

namespace Row

/-- What stands at a place of a row. A place beyond either list of the row holds nothing. -/
structure Holds (row : Row) (place : Nat) (column : ColumnDefinition) (value : CqlValue) :
    Prop where
  defined : row.columns[place]? = some column
  given : row.values[place]? = some value

def First (row : Row) (name : String) (value : CqlValue) : Prop :=
  ∃ place column, row.Holds place column value ∧ column.name = name ∧
    ∀ earlier < place, ∀ other, row.columns[earlier]? = some other → other.name ≠ name

def Last (row : Row) (name : String) (value : CqlValue) : Prop :=
  ∃ place column, row.Holds place column value ∧ column.name = name ∧
    ∀ later, place < later → ∀ other held, row.Holds later other held → other.name ≠ name

/-- A column other than the marker whose value is not one of its type. -/
structure Misfit (row : Row) (place : Nat) (column : ColumnDefinition) (value : CqlValue) : Prop
    extends Holds row place column value where
  unmarked : column.name ≠ appliedColumn
  misfits : ¬ value.Conforms column.type

variable {row : Row}

theorem getElem?_cells {place : Nat} {column : ColumnDefinition} {value : CqlValue} :
    row.cells[place]? = some (column, value) ↔ row.Holds place column value := by
  rw [cells, List.getElem?_zip_eq_some]
  exact ⟨fun found => ⟨found.1, found.2⟩, fun holds => ⟨holds.defined, holds.given⟩⟩

theorem get?_eq_some_iff {name : String} {value : CqlValue} :
    row.get? name = some value ↔ row.First name value := by
  rw [get?, Option.bind_eq_some_iff]
  constructor
  · rintro ⟨place, first, held⟩
    obtain ⟨bound, named, before⟩ := List.findIdx?_eq_some_iff_getElem.mp first
    refine ⟨place, row.columns[place], ⟨List.getElem?_eq_getElem bound, held⟩, by simpa using named,
      ?_⟩
    intro earlier lower other found
    obtain ⟨_, rfl⟩ := List.getElem?_eq_some_iff.mp found
    simpa using before earlier lower
  · rintro ⟨place, column, holds, named, before⟩
    obtain ⟨bound, same⟩ := List.getElem?_eq_some_iff.mp holds.defined
    refine ⟨place, List.findIdx?_eq_some_iff_getElem.mpr ⟨bound, by simp [same, named], ?_⟩,
      holds.given⟩
    intro earlier lower
    simpa using before earlier lower _ (List.getElem?_eq_getElem (Nat.lt_trans lower bound))

theorem First.unique {name : String} {value other : CqlValue} (first : row.First name value)
    (also : row.First name other) : value = other := by
  rw [← get?_eq_some_iff] at first also
  exact Option.some.inj (first.symm.trans also)

theorem getBool?_eq_some_iff {name : String} {isSet : Bool} :
    row.getBool? name = some isSet ↔ row.First name (.boolean isSet) := by
  rw [getBool?, ← get?_eq_some_iff, Option.bind_eq_some_iff]
  constructor
  · rintro ⟨value, found, boolean⟩
    cases value <;> cases boolean
    exact found
  · intro found
    exact ⟨.boolean isSet, found, rfl⟩

theorem checkCell_ok {cell : ColumnDefinition × CqlValue} {entry : String × CqlValue} :
    checkCell cell = .ok entry ↔
      cell.2.Conforms cell.1.type ∧ entry = (cell.1.name, cell.2) := by
  rw [← CqlValue.conformsTo_iff, checkCell]
  by_cases conforms : cell.2.conformsTo cell.1.type = true
  · simp [conforms, eq_comm]
  · simp [conforms]

theorem checkCell_error {cell : ColumnDefinition × CqlValue} {error : MappingError} :
    checkCell cell = .error error ↔ ¬ cell.2.Conforms cell.1.type ∧
      error = .transcoding "row" cell.2.shown (.misdeclaredColumn cell.1.name cell.1.type) := by
  rw [← CqlValue.conformsTo_iff, checkCell]
  by_cases conforms : cell.2.conformsTo cell.1.type = true
  · simp [conforms]
  · simp [conforms, eq_comm]

theorem currentValues_error_split {error : MappingError} :
    row.currentValues = .error error ↔
      ∃ cell : ColumnDefinition × CqlValue, (cell.1.name ≠ appliedColumn ∧
          checkCell cell = .error error) ∧
        ∃ front back, row.cells = front ++ cell :: back ∧
          (∀ other ∈ front, other.1.name ≠ appliedColumn → other.2.Conforms other.1.type) ∧
          ∀ other ∈ back, True := by
  have checked : row.currentValues = .error error ↔
      row.currentCells.mapM checkCell = .error error := by
    rw [currentValues]
    cases row.currentCells.mapM checkCell <;> simp [Except.map]
  rw [checked, Outcome.mapM_eq_error, currentCells]
  constructor
  · rintro ⟨front, cell, back, split, before, failed⟩
    obtain ⟨early, rest, whole, rfl, remaining⟩ := List.filter_eq_append_iff.mp split
    obtain ⟨skipped, late, rfl, markers, named, _⟩ := List.filter_eq_cons_iff.mp remaining
    refine ⟨cell, ⟨by simpa using named, failed⟩, early ++ skipped, late, by simp [whole], ?_,
      fun _ _ => trivial⟩
    intro other member different
    rcases List.mem_append.mp member with passed | marker
    · obtain ⟨entry, made⟩ := before other (List.mem_filter.mpr ⟨passed, by simpa using different⟩)
      exact (checkCell_ok.mp made).1
    · exact absurd different (by simpa using markers other marker)
  · rintro ⟨cell, ⟨named, failed⟩, front, back, whole, before, _⟩
    refine ⟨front.filter fun other => other.1.name != appliedColumn, cell,
      back.filter fun other => other.1.name != appliedColumn, ?_, ?_, failed⟩
    · rw [whole, List.filter_append, List.filter_cons_of_pos (by simpa using named)]
    · intro other member
      obtain ⟨among, different⟩ := List.mem_filter.mp member
      exact ⟨_, checkCell_ok.mpr ⟨before other among (by simpa using different), rfl⟩⟩

/-- The error names the first column that does not fit. -/
theorem currentValues_error {error : MappingError} :
    row.currentValues = .error error ↔ ∃ place column value, row.Misfit place column value ∧
      (∀ earlier < place, ∀ other held, ¬ row.Misfit earlier other held) ∧
      error = .transcoding "row" value.shown (.misdeclaredColumn column.name column.type) := by
  rw [currentValues_error_split]
  constructor
  · rintro ⟨⟨column, value⟩, ⟨named, failed⟩, split⟩
    obtain ⟨place, found, before, _⟩ := split_iff_place.mp split
    obtain ⟨misfits, rfl⟩ := checkCell_error.mp failed
    refine ⟨place, column, value, ⟨getElem?_cells.mp found, named, misfits⟩, ?_, rfl⟩
    intro earlier lower other held misfit
    have cell := getElem?_cells.mpr misfit.toHolds
    exact misfit.misfits (before earlier lower _ cell misfit.unmarked)
  · rintro ⟨place, column, value, misfit, before, rfl⟩
    refine ⟨(column, value), ⟨misfit.unmarked, checkCell_error.mpr ⟨misfit.misfits, rfl⟩⟩,
      split_iff_place.mpr ⟨place, getElem?_cells.mpr misfit.toHolds, ?_, fun _ _ _ _ => trivial⟩⟩
    intro earlier lower other found named
    by_contra misfits
    exact before earlier lower _ _ ⟨getElem?_cells.mp found, named, misfits⟩

theorem last_iff_split {name : String} {value : CqlValue} :
    row.Last name value ↔ ∃ column : ColumnDefinition, column.name = name ∧
      ∃ front back, row.cells = front ++ (column, value) :: back ∧ (∀ other ∈ front, True) ∧
        ∀ other ∈ back, other.1.name ≠ name := by
  constructor
  · rintro ⟨place, column, holds, named, after⟩
    refine ⟨column, named, split_iff_place.mpr
      ⟨place, getElem?_cells.mpr holds, fun _ _ _ _ => trivial, ?_⟩⟩
    intro later higher other found
    exact after later higher _ _ (getElem?_cells.mp found)
  · rintro ⟨column, named, split⟩
    obtain ⟨place, found, _, after⟩ := split_iff_place.mp split
    refine ⟨place, column, getElem?_cells.mp found, named, ?_⟩
    intro later higher other held holds
    exact after later higher _ (getElem?_cells.mpr holds)

/-- What is kept under a name is the last value that the row has under it. -/
theorem mem_ofList_currentCells {name : String} {value : CqlValue} :
    (name, value) ∈ Keyed.ofList (row.currentCells.map fun cell => (cell.1.name, cell.2)) ↔
      name ≠ appliedColumn ∧ row.Last name value := by
  rw [Keyed.mem_ofList, last_iff_split]
  constructor
  · rintro ⟨front, back, split, after⟩
    obtain ⟨early, late, kept, rfl, rest⟩ := List.map_eq_append_iff.mp split
    obtain ⟨cell, others, rfl, same, rfl⟩ := List.map_eq_cons_iff.mp rest
    obtain ⟨before, remaining, whole, _, also⟩ := List.filter_eq_append_iff.mp kept
    obtain ⟨skipped, behind, rfl, _, named, rfl⟩ := List.filter_eq_cons_iff.mp also
    obtain ⟨rfl, rfl⟩ := Prod.mk.inj same
    have unmarked : cell.1.name ≠ appliedColumn := by simpa using named
    refine ⟨unmarked, cell.1, rfl, before ++ skipped, behind, by simp [whole], fun _ _ => trivial,
      ?_⟩
    intro other member
    by_cases marker : other.1.name = appliedColumn
    · rw [marker]
      exact unmarked.symm
    · exact after _ (List.mem_map_of_mem (List.mem_filter.mpr ⟨member, by simpa using marker⟩))
  · rintro ⟨unmarked, column, rfl, front, back, whole, _, after⟩
    refine ⟨(front.filter fun cell => cell.1.name != appliedColumn).map fun cell =>
          (cell.1.name, cell.2),
        (back.filter fun cell => cell.1.name != appliedColumn).map fun cell =>
          (cell.1.name, cell.2), ?_, ?_⟩
    · rw [currentCells, whole, List.filter_append,
        List.filter_cons_of_pos (by simpa using unmarked),
        List.map_append, List.map_cons]
    · intro other member
      obtain ⟨cell, among, rfl⟩ := List.mem_map.mp member
      exact after cell (List.mem_filter.mp among).1

theorem Last.unique {name : String} {value other : CqlValue} (last : row.Last name value)
    (also : row.Last name other) : value = other := by
  obtain ⟨place, column, holds, named, after⟩ := last
  obtain ⟨further, second, held, also, behind⟩ := also
  have same : place = further := by
    rcases Nat.lt_trichotomy place further with lower | same | higher
    · exact absurd also (after further lower _ _ held)
    · exact same
    · exact absurd named (behind place higher _ _ holds)
  exact Option.some.inj (holds.given.symm.trans (same ▸ held.given))

theorem exists_last {place : Nat} {column : ColumnDefinition} {value : CqlValue}
    (holds : row.Holds place column value) : ∃ latest, row.Last column.name latest := by
  have member := List.mem_reverse.mpr (List.mem_of_getElem? (getElem?_cells.mpr holds))
  have found : ((row.cells.reverse).find? fun cell => cell.1.name == column.name).isSome :=
    List.find?_isSome.mpr ⟨_, member, by simp⟩
  obtain ⟨cell, last⟩ := Option.isSome_iff_exists.mp found
  obtain ⟨named, behind, ahead, whole, after⟩ := List.find?_eq_some_iff_append.mp last
  refine ⟨cell.2, last_iff_split.mpr
    ⟨cell.1, by simpa using named, ahead.reverse, behind.reverse, ?_,
    fun _ _ => trivial, ?_⟩⟩
  · rw [← List.reverse_inj, whole]
    simp
  · intro other member
    simpa using after other (List.mem_reverse.mp member)

/-- What stood in the way of a write: each name that has a value besides the marker, once. -/
structure Current (row : Row) (current : Keyed CqlValue) : Prop where
  sorted : current.Sorted
  named : ∀ name, (∃ value, (name, value) ∈ current) ↔ name ≠ appliedColumn ∧
    ∃ place column value, row.Holds place column value ∧ column.name = name
  last : ∀ name value, (name, value) ∈ current → row.Last name value

theorem current_iff {current : Keyed CqlValue} : row.Current current ↔ current.Sorted ∧
    ∀ name value, (name, value) ∈ current ↔ name ≠ appliedColumn ∧ row.Last name value := by
  constructor
  · intro kept
    refine ⟨kept.sorted, fun name value => ⟨fun member => ?_, ?_⟩⟩
    · exact ⟨((kept.named name).mp ⟨value, member⟩).1, kept.last name value member⟩
    · rintro ⟨unmarked, last⟩
      obtain ⟨place, column, holds, named, _⟩ := id last
      obtain ⟨other, member⟩ := (kept.named name).mpr ⟨unmarked, place, column, value, holds, named⟩
      rwa [last.unique (kept.last name other member)]
  · rintro ⟨sorted, members⟩
    refine ⟨sorted, fun name => ⟨?_, ?_⟩,
      fun name value member => ((members name value).mp member).2⟩
    · rintro ⟨value, member⟩
      obtain ⟨unmarked, place, column, holds, named, _⟩ := (members name value).mp member
      exact ⟨unmarked, place, column, value, holds, named⟩
    · rintro ⟨unmarked, place, column, value, holds, rfl⟩
      obtain ⟨latest, last⟩ := exists_last holds
      exact ⟨latest, (members _ _).mpr ⟨unmarked, last⟩⟩

theorem current_ofList :
    row.Current (Keyed.ofList (row.currentCells.map fun cell => (cell.1.name, cell.2))) :=
  current_iff.mpr ⟨Keyed.sorted_ofList _, fun _ _ => mem_ofList_currentCells⟩

theorem Current.unique {current other : Keyed CqlValue} (kept : row.Current current)
    (also : row.Current other) : current = other := by
  obtain ⟨sorted, members⟩ := current_iff.mp kept
  obtain ⟨sortedToo, membersToo⟩ := current_iff.mp also
  exact sorted.ext sortedToo fun entry => (members _ _).trans (membersToo _ _).symm

theorem forall_not_misfit_iff : (∀ place column value, ¬ row.Misfit place column value) ↔
    ∀ cell ∈ row.currentCells, cell.2.Conforms cell.1.type := by
  constructor
  · intro fits cell member
    obtain ⟨among, named⟩ := List.mem_filter.mp member
    obtain ⟨place, found⟩ := List.mem_iff_getElem?.mp among
    by_contra misfits
    exact fits place _ _ ⟨getElem?_cells.mp found, by simpa using named, misfits⟩
  · intro fits place column value misfit
    have among := List.mem_of_getElem? (getElem?_cells.mpr misfit.toHolds)
    exact misfit.misfits
      (fits _ (List.mem_filter.mpr ⟨among, by simpa using misfit.unmarked⟩))

theorem mapM_checkCell {cells : List (ColumnDefinition × CqlValue)}
    {entries : List (String × CqlValue)} : cells.mapM checkCell = .ok entries ↔
      (∀ cell ∈ cells, cell.2.Conforms cell.1.type) ∧
        cells.map (fun cell => (cell.1.name, cell.2)) = entries := by
  simp only [Outcome.mapM_eq_ok, checkCell_ok, List.forall₂_and_left]
  rw [← List.forall₂_eq_eq_eq, List.forall₂_map_left_iff]
  simp only [eq_comm]

theorem currentValues_ok {current : Keyed CqlValue} :
    row.currentValues = .ok current ↔
      (∀ place column value, ¬ row.Misfit place column value) ∧ row.Current current := by
  rw [currentValues, Outcome.map_eq_ok, forall_not_misfit_iff]
  constructor
  · rintro ⟨entries, checked, rfl⟩
    obtain ⟨fits, rfl⟩ := mapM_checkCell.mp checked
    exact ⟨fits, current_ofList⟩
  · rintro ⟨fits, kept⟩
    exact ⟨_, mapM_checkCell.mpr ⟨fits, rfl⟩, current_ofList.unique kept⟩

end Row

def Says (query words : String) : Prop :=
  ∃ front back, query = front ++ words ++ back

theorem contains_eq_true_iff {query words : String} :
    Text.contains query words = true ↔ Says query words := by
  constructor
  · exact Text.exists_append_of_contains
  · rintro ⟨front, back, rfl⟩
    rw [Text.contains_iff, String.toList_append, String.toList_append]
    exact List.infix_append _ _ _

theorem conditionalKindOf_eq_iff {query : String} {kind : ConditionalKind} :
    conditionalKindOf query = kind ↔ (kind = .insert ↔ Says query " IF NOT EXISTS") := by
  rw [← contains_eq_true_iff, conditionalKindOf]
  cases kind <;> by_cases guarded : Text.contains query " IF NOT EXISTS" = true <;> simp [guarded]

inductive Reads (query : String) (result : ResultSet) : Except WriteError Outcome → Prop
  | unasked (plain : ¬ Says query " IF ") : Reads query result (.ok .applied)
  | silent (empty : result.rows = []) : Reads query result (.ok .applied)
  | unmarked {row : Row} {rest : List Row} (rows : result.rows = row :: rest)
      (bare : ∀ value, ¬ row.First appliedColumn value) : Reads query result (.ok .applied)
  | marked {row : Row} {rest : List Row} {value : CqlValue} (rows : result.rows = row :: rest)
      (first : row.First appliedColumn value) (agrees : value ≠ .boolean false) :
      Reads query result (.ok .applied)
  | unreadable {row : Row} {rest : List Row} {place : Nat} {column : ColumnDefinition}
      {value : CqlValue} (asks : Says query " IF ") (rows : result.rows = row :: rest)
      (refusal : row.First appliedColumn (.boolean false))
      (misfit : row.Misfit place column value)
      (earliest : ∀ earlier < place, ∀ other held, ¬ row.Misfit earlier other held) :
      Reads query result (.error (.mapping
        (.transcoding "row" value.shown (.misdeclaredColumn column.name column.type))))
  | rejected {row : Row} {rest : List Row} {kind : ConditionalKind} {current : Keyed CqlValue}
      (asks : Says query " IF ") (guarded : kind = .insert ↔ Says query " IF NOT EXISTS")
      (rows : result.rows = row :: rest) (refusal : row.First appliedColumn (.boolean false))
      (fits : ∀ place column value, ¬ row.Misfit place column value)
      (kept : row.Current current) : Reads query result (.ok (.rejected ⟨kind, current⟩))

section

variable {query : String} {result : ResultSet} {row : Row} {rest : List Row}

theorem interpret_accepted (rows : result.rows = row :: rest)
    (accepted : ¬ row.First appliedColumn (.boolean false)) :
    interpret query result = .ok .applied := by
  have marker : (row.getBool? appliedColumn).getD true = true := by
    rw [← Row.getBool?_eq_some_iff] at accepted
    cases mark : row.getBool? appliedColumn with
    | none => rfl
    | some isApplied => cases isApplied <;> simp_all
  simp [interpret, rows, marker]

theorem interpret_refused (asks : Says query " IF ") (rows : result.rows = row :: rest)
    (refusal : row.First appliedColumn (.boolean false)) :
    interpret query result = (row.currentValues.mapError WriteError.mapping).map fun current =>
      .rejected ⟨conditionalKindOf query, current⟩ := by
  have conditional : isConditionalQuery query = true := contains_eq_true_iff.mpr asks
  rw [← Row.getBool?_eq_some_iff] at refusal
  cases found : row.currentValues <;>
    simp [interpret, rows, conditional, refusal, found, Except.map, Except.mapError]

theorem interpret_reads (query : String) (result : ResultSet) :
    Reads query result (interpret query result) := by
  by_cases asks : Says query " IF "
  · cases rows : result.rows with
    | nil =>
        have silent : interpret query result = .ok .applied := by simp [interpret, rows]
        rw [silent]
        exact .silent rows
    | cons row rest =>
        by_cases refusal : row.First appliedColumn (.boolean false)
        · rw [interpret_refused asks rows refusal]
          cases found : row.currentValues with
          | ok current =>
              obtain ⟨fits, kept⟩ := Row.currentValues_ok.mp found
              exact .rejected asks (conditionalKindOf_eq_iff.mp rfl) rows refusal fits kept
          | error problem =>
              obtain ⟨place, column, value, misfit, earliest, rfl⟩ :=
                Row.currentValues_error.mp found
              exact .unreadable asks rows refusal misfit earliest
        · rw [interpret_accepted rows refusal]
          by_cases bare : ∃ value, row.First appliedColumn value
          · obtain ⟨value, first⟩ := bare
            refine .marked rows first ?_
            rintro rfl
            exact refusal first
          · exact .unmarked rows (not_exists.mp bare)
  · have plain : isConditionalQuery query ≠ true :=
      fun found => asks (contains_eq_true_iff.mp found)
    simp only [interpret, plain, Bool.not_false, if_true]
    exact .unasked asks

end

/-- An answer is read in one way only. -/
theorem interpret_eq_iff (query : String) (result : ResultSet)
    (outcome : Except WriteError Outcome) :
    interpret query result = outcome ↔ Reads query result outcome := by
  constructor
  · rintro rfl
    exact interpret_reads query result
  · intro reads
    cases reads with
    | unasked plain =>
        have unconditional : isConditionalQuery query ≠ true :=
          fun conditional => plain (contains_eq_true_iff.mp conditional)
        simp [interpret, unconditional]
    | silent empty => simp [interpret, empty]
    | unmarked rows bare => exact interpret_accepted rows (bare _)
    | marked rows first agrees =>
        exact interpret_accepted rows fun refusal => agrees (first.unique refusal)
    | unreadable asks rows refusal misfit earliest =>
        have failed := Row.currentValues_error.mpr ⟨_, _, _, misfit, earliest, rfl⟩
        rw [interpret_refused asks rows refusal, failed]
        rfl
    | rejected asks guarded rows refusal fits kept =>
        have read := Row.currentValues_ok.mpr ⟨fits, kept⟩
        rw [interpret_refused asks rows refusal, read, conditionalKindOf_eq_iff.mpr guarded]
        rfl

/-- Of two columns of one name the later counts, and a column without a value does not. -/
example : interpret "UPDATE t SET a = ? WHERE k = ? IF EXISTS"
    ⟨[⟨[⟨"[applied]", .boolean⟩, ⟨"a", .int⟩, ⟨"a", .text⟩, ⟨"b", .int⟩],
      [.boolean false, .int 1, .text "x"]⟩], []⟩ =
    .ok (.rejected ⟨.update, [("a", .text "x")]⟩) := by
  rfl

end CqlMapper

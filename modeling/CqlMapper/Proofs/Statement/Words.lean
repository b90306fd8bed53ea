import CqlMapper.Proofs.Statement.Conditions

/-!
The words of a text are what stands between its spaces. Looking for a word with a space on either
side finds it only among them, and texts with a space between them have the words of both.
-/

namespace CqlMapper.Text

theorem splitOn_append (separator : Char) (front back : List Char) :
    ∃ before last first after, front.splitOn separator = before ++ [last] ∧
      back.splitOn separator = first :: after ∧
      (front ++ back).splitOn separator = before ++ (last ++ first) :: after := by
  induction front with
  | nil =>
      obtain ⟨first, after, split⟩ :=
        List.exists_cons_of_ne_nil (List.splitOn_ne_nil separator back)
      exact ⟨[], [], first, after, rfl, split, split⟩
  | cons char front ih =>
      obtain ⟨before, last, first, after, left, right, whole⟩ := ih
      rw [List.cons_append, List.splitOn_cons_eq_if_modifyHead, List.splitOn_cons_eq_if_modifyHead,
        left, whole]
      by_cases space : char == separator
      · rw [if_pos space, if_pos space]
        exact ⟨[] :: before, last, first, after, rfl, right, rfl⟩
      · rw [if_neg space, if_neg space]
        cases before with
        | nil => exact ⟨[], char :: last, first, after, rfl, right, rfl⟩
        | cons word words =>
            exact ⟨(char :: word) :: words, last, first, after, rfl, right, rfl⟩

def words (text : String) : List String :=
  (text.toList.splitOn ' ').map String.ofList

abbrev Unbroken (text : String) : Prop :=
  ' ' ∉ text.toList

theorem words_of_unbroken {text : String} (unbroken : Unbroken text) : words text = [text] := by
  rw [words, List.splitOn_eq_singleton unbroken, List.map_singleton, String.ofList_toList]

/-- The last word of one text and the first of the next become one. -/
theorem words_append (front back : String) :
    ∃ before last first after, words front = before ++ [last] ∧ words back = first :: after ∧
      words (front ++ back) = before ++ (last ++ first) :: after := by
  obtain ⟨before, last, first, after, left, right, whole⟩ :=
    splitOn_append ' ' front.toList back.toList
  refine ⟨before.map String.ofList, String.ofList last, String.ofList first,
    after.map String.ofList, ?_, ?_, ?_⟩
  · rw [words, left, List.map_append, List.map_singleton]
  · rw [words, right, List.map_cons]
  · rw [words, String.toList_append, whole, List.map_append, List.map_cons, String.ofList_append]

theorem words_append_space (front back : String) :
    words (front ++ " " ++ back) = words front ++ words back := by
  have spaced : (front ++ " " ++ back).toList = front.toList ++ ' ' :: back.toList := by
    rw [String.toList_append, String.toList_append, List.append_assoc]
    rfl
  rw [words, spaced, List.splitOn_append_cons_self, List.map_append]
  rfl

theorem words_keyword (front back : String) {word : String} (unbroken : Unbroken word) :
    words (front ++ (" " ++ word ++ " ") ++ back) = words front ++ word :: words back := by
  have regroup : front ++ (" " ++ word ++ " ") ++ back =
      (front ++ " " ++ word) ++ " " ++ back := by
    simp only [String.append_assoc]
  rw [regroup, words_append_space, words_append_space, words_of_unbroken unbroken]
  simp only [List.append_assoc, List.singleton_append]

theorem exists_append_of_contains {text pattern : String} (found : contains text pattern = true) :
    ∃ front back, text = front ++ pattern ++ back := by
  obtain ⟨front, back, split⟩ := contains_iff.mp found
  refine ⟨String.ofList front, String.ofList back, ?_⟩
  rw [← String.toList_inj, ← split]
  simp only [String.toList_append, String.toList_ofList]

theorem mem_words_of_contains {text word : String} (unbroken : Unbroken word)
    (found : contains text (" " ++ word ++ " ") = true) : word ∈ words text := by
  obtain ⟨front, back, rfl⟩ := exists_append_of_contains found
  rw [words_keyword _ _ unbroken]
  exact List.mem_append_right _ List.mem_cons_self

theorem words_ne_nil (text : String) : words text ≠ [] := by
  simp [words, List.splitOn_ne_nil]

theorem intercalate_words (text : String) : " ".intercalate (words text) = text := by
  have same : String.toList ∘ String.ofList = id := by
    funext chars
    exact String.toList_ofList
  rw [← String.toList_inj, String.toList_intercalate, words, List.map_map, same, List.map_id]
  exact List.intercalate_splitOn ' '

theorem words_intercalate {parts : List String} (unbroken : ∀ part ∈ parts, Unbroken part)
    (some : parts ≠ []) : words (" ".intercalate parts) = parts := by
  have spaceless : ∀ chars ∈ parts.map String.toList, ' ' ∉ chars :=
    List.forall_mem_map.mpr unbroken
  have split := List.splitOn_intercalate ' ' spaceless (by simpa using some)
  rw [words, String.toList_intercalate]
  change (([' '].intercalate (parts.map String.toList)).splitOn ' ').map String.ofList = parts
  rw [split, List.map_map]
  simp [Function.comp_def]

/-- A word is found with a space on either side just when it is neither the first nor the last. -/
theorem contains_keyword_iff {text word first last : String} {middle : List String}
    (unbroken : Unbroken word) (split : words text = first :: (middle ++ [last])) :
    contains text (" " ++ word ++ " ") = true ↔ word ∈ middle := by
  constructor
  · intro found
    obtain ⟨front, back, rfl⟩ := exists_append_of_contains found
    obtain ⟨head, before, left⟩ := List.exists_cons_of_ne_nil (words_ne_nil front)
    obtain ⟨after, tail, right⟩ :=
      (List.eq_nil_or_concat' (words back)).resolve_left (words_ne_nil back)
    rw [words_keyword _ _ unbroken, left, right] at split
    have inner : before ++ word :: after ++ [tail] = middle ++ [last] := by
      simpa using (List.cons.inj split).2
    rw [← (List.append_inj' inner rfl).1]
    exact List.mem_append_right _ List.mem_cons_self
  · intro member
    obtain ⟨before, after, rfl⟩ := List.append_of_mem member
    have parts : first :: (before ++ word :: after ++ [last]) =
        (first :: before) ++ ([word] ++ (after ++ [last])) := by simp
    rw [contains_iff, ← intercalate_words text, split, parts,
      String.intercalate_append_of_ne_nil (List.cons_ne_nil _ _) (by simp),
      String.intercalate_append_of_ne_nil (List.cons_ne_nil _ _) (by simp),
      String.intercalate_singleton]
    refine ⟨(" ".intercalate (first :: before)).toList,
      (" ".intercalate (after ++ [last])).toList, ?_⟩
    simp only [String.toList_append, List.append_assoc]

abbrev Lacks (text word : String) : Prop :=
  word ∉ words text

section Lacks

variable {front back text word : String}

theorem lacks_unbroken (unbroken : Unbroken text) : Lacks text word ↔ word ≠ text := by
  rw [Lacks, words_of_unbroken unbroken, List.mem_singleton]

theorem lacks_space (front back : String) :
    Lacks (front ++ (" " ++ back)) word ↔ Lacks front word ∧ Lacks back word := by
  rw [Lacks, ← String.append_assoc, words_append_space, List.mem_append, not_or]

theorem lacks_keyword (front back : String) {keyword : String} (unbroken : Unbroken keyword) :
    Lacks (front ++ (" " ++ keyword ++ " ") ++ back) word ↔
      Lacks front word ∧ word ≠ keyword ∧ Lacks back word := by
  rw [Lacks, words_keyword front back unbroken, List.mem_append, List.mem_cons]
  simp only [not_or]

/-- A word that is made longer by a character it does not have is another word. -/
theorem Lacks.append {tail : String} (lacks : Lacks text word) (unbroken : Unbroken tail)
    {char : Char} (longer : char ∈ tail.toList) (foreign : char ∉ word.toList) :
    Lacks (text ++ tail) word := by
  obtain ⟨before, last, first, after, left, right, whole⟩ := words_append text tail
  rw [words_of_unbroken unbroken] at right
  cases right
  rw [Lacks, whole, List.mem_append, List.mem_singleton, not_or]
  refine ⟨fun earlier => lacks (left ▸ List.mem_append_left _ earlier), ?_⟩
  rintro rfl
  rw [String.toList_append, List.mem_append, not_or] at foreign
  exact foreign.2 longer

theorem Lacks.prepend {lead : String} (lacks : Lacks text word) (unbroken : Unbroken lead)
    {char : Char} (longer : char ∈ lead.toList) (foreign : char ∉ word.toList) :
    Lacks (lead ++ text) word := by
  obtain ⟨before, last, first, after, left, right, whole⟩ := words_append lead text
  rw [words_of_unbroken unbroken] at left
  have alone : [] ++ [lead] = before ++ [last] := left
  obtain ⟨rfl, same⟩ := List.append_inj' alone rfl
  cases same
  rw [Lacks, whole, List.nil_append, List.mem_cons, not_or]
  refine ⟨?_, fun later => lacks (right ▸ List.mem_cons_of_mem _ later)⟩
  rintro rfl
  rw [String.toList_append, List.mem_append, not_or] at foreign
  exact foreign.1 longer

theorem lacks_intercalate {separator : String} (empty : Lacks "" word)
    (joined : ∀ front back, Lacks front word → Lacks back word →
      Lacks (front ++ separator ++ back) word)
    {parts : List String} (lacks : ∀ part ∈ parts, Lacks part word) :
    Lacks (separator.intercalate parts) word := by
  induction parts with
  | nil => exact empty
  | cons part parts ih =>
      obtain ⟨first, rest⟩ := List.forall_mem_cons.mp lacks
      cases parts with
      | nil => exact first
      | cons next parts =>
          rw [String.intercalate_cons_cons]
          exact joined _ _ first (ih rest)

end Lacks

end CqlMapper.Text

import CollectiveChoice.Page.Association

/-!
# Sources of pairs are read back as they are displayed

A source that was read from a text has a predicate without a slash and fields whose words have no
comma, and neither has a blank at its ends (`PairSource.Readable`).  So its text falls apart where it
was put together, and is read as that source (`PairSource.Readable.parse_display_eq`), however many
blanks the first text had.
-/

namespace CollectiveChoice

set_option autoImplicit false

namespace Text

/-! ## Splitting -/

theorem splitWhere_eq_splitOnP (separates : Char → Bool) (chars : List Char) :
    splitWhere separates chars = chars.splitOnP separates := by
  induction chars with
  | nil => rfl
  | cons c rest ih =>
      rw [List.splitOnP_cons_eq_if_modifyHead, splitWhere, ih]
      cases parts : rest.splitOnP separates with
      | nil => exact absurd parts (List.splitOnP_ne_nil _ _)
      | cons part parts => rfl

/-- Parts that are put together with a separator none of them has are found again. -/
theorem splitWhere_intercalate {separator : Char} {parts : List (List Char)} (nonempty : parts ≠ [])
    (free : ∀ part ∈ parts, separator ∉ part) :
    splitWhere (· == separator) ([separator].intercalate parts) = parts := by
  rw [splitWhere_eq_splitOnP]
  exact List.splitOn_intercalate separator free nonempty

theorem not_mem_of_mem_splitWhere {separator : Char} {chars part : List Char}
    (inside : part ∈ splitWhere (· == separator) chars) : separator ∉ part := by
  induction chars generalizing part with
  | nil =>
      rw [List.mem_singleton.mp inside]
      exact List.not_mem_nil
  | cons c rest ih =>
      rw [splitWhere] at inside
      split at inside
      · rename_i none
        exact absurd none (by rw [splitWhere_eq_splitOnP]; exact List.splitOnP_ne_nil _ _)
      · rename_i first others parts
        rw [parts] at ih
        split at inside
        · rcases List.mem_cons.mp inside with rfl | inside
          · exact List.not_mem_nil
          · exact ih inside
        · rename_i differs
          rcases List.mem_cons.mp inside with rfl | inside
          · rw [List.mem_cons, not_or]
            exact ⟨fun same => differs (by simp [same]), ih List.mem_cons_self⟩
          · exact ih (List.mem_cons_of_mem _ inside)

theorem mem_of_mem_trimChars {chars : List Char} {c : Char} (inside : c ∈ trimChars chars) :
    c ∈ chars := by
  obtain ⟨front, back, cut, -⟩ := exists_eq_append_trimChars chars
  rw [cut]
  exact List.mem_append_right _ (List.mem_append_left _ inside)

end Text

/-! ## Sources -/

theorem SourceField.word_ofWord (word : String) : (SourceField.ofWord word).word = word := by
  unfold SourceField.ofWord
  split <;> rfl

namespace PairSource

/-- A source that a text can be read as. -/
structure Readable (source : PairSource) : Prop where
  trimmed : Text.Trimmed source.predicate.toList
  nonempty : source.predicate.toList ≠ []
  slash : '/' ∉ source.predicate.toList
  words : ∀ field ∈ source.fields, Text.Trimmed field.word.toList ∧ ',' ∉ field.word.toList ∧
    SourceField.ofWord field.word = field
  rows : source.fields.count .rows = 1
  columns : source.fields.count .columns = 1

/-- A text is read as a source that can be read. -/
theorem readable_of_parse {text : String} {source : PairSource} (read : parse text = .ok source) :
    source.Readable := by
  simp only [parse] at read
  split at read
  · cases read
  · split at read
    · cases read
    rename_i nonempty
    split at read
    · cases read
    rename_i rows
    split at read
    · cases read
    rename_i columns
    cases read
    refine ⟨?_, ?_, ?_, ?_, Decidable.not_not.mp rows, Decidable.not_not.mp columns⟩
    · rw [String.toList_ofList]
      exact Text.trimmed_trimChars _
    · rw [String.toList_ofList]
      exact fun empty => nonempty (List.isEmpty_iff.mpr empty)
    · rw [String.toList_ofList]
      intro inside
      have taken := List.all_eq_true.mp List.all_takeWhile _ (Text.mem_of_mem_trimChars inside)
      simp at taken
    · intro field inside
      obtain ⟨part, split, rfl⟩ := List.mem_map.mp inside
      rw [SourceField.word_ofWord, String.toList_ofList]
      exact ⟨Text.trimmed_trimChars part, fun comma =>
        Text.not_mem_of_mem_splitWhere split (Text.mem_of_mem_trimChars comma), rfl⟩

theorem readable_standard : standard.Readable :=
  @readable_of_parse "assoc/rows,columns" standard rfl

theorem toList_display (source : PairSource) :
    source.display.toList = source.predicate.toList ++
      '/' :: [','].intercalate (source.fields.map fun field => field.word.toList) := by
  simp [display, String.toList_intercalate, Function.comp_def]

/-- The fields of a source that can be read are found in its text. -/
theorem Readable.fields_eq {source : PairSource} (readable : source.Readable) :
    ((Text.splitWhere (· == ',')
        ([','].intercalate (source.fields.map fun field => field.word.toList))).map fun part =>
      SourceField.ofWord (String.ofList (Text.trimChars part))) = source.fields := by
  have nonempty : source.fields ≠ [] := by
    intro empty
    have rows := readable.rows
    rw [empty] at rows
    cases rows
  rw [Text.splitWhere_intercalate (by simpa using nonempty)]
  · rw [List.map_map]
    refine (List.map_congr_left fun field inside => ?_).trans (List.map_id _)
    obtain ⟨trimmed, -, word⟩ := readable.words field inside
    simp [Text.trimChars_of_trimmed trimmed, word]
  · intro part inside
    obtain ⟨field, present, rfl⟩ := List.mem_map.mp inside
    exact (readable.words field present).2.1

/-- **A source that can be read is read from the text it is displayed as.** -/
theorem Readable.parse_display_eq {source : PairSource} (readable : source.Readable) :
    parse source.display = .ok source := by
  have before : ∀ c ∈ source.predicate.toList, decide (c ≠ '/') = true := by
    intro c inside
    exact decide_eq_true fun same => readable.slash (same ▸ inside)
  have front : source.display.toList.takeWhile (· ≠ '/') = source.predicate.toList := by
    rw [toList_display, List.takeWhile_append_of_pos before, List.takeWhile_cons_of_neg (by decide),
      List.append_nil]
  have behind : source.display.toList.dropWhile (· ≠ '/')
      = '/' :: [','].intercalate (source.fields.map fun field => field.word.toList) := by
    rw [toList_display, List.dropWhile_append_of_pos before, List.dropWhile_cons_of_neg (by decide)]
  have shown : source.predicate.toList.isEmpty = false :=
    List.isEmpty_eq_false_iff.mpr readable.nonempty
  simp only [parse, front, behind, Text.trimChars_of_trimmed readable.trimmed, shown,
    readable.fields_eq, readable.rows, readable.columns, String.ofList_toList]
  rfl

end PairSource

end CollectiveChoice

import CollectiveChoice.Proofs.Term.Splitting

/-!
# Atoms are read back as they are written

Any text may be read, with blanks, signs and leading zeros, quotes in odd places and backslashes
before any character.  What is written for the atom that was read is one fixed spelling of it, and
reading that spelling gives the atom again (`parse_display`).  So no two atoms that were read are
written alike.

A string can be spelled in several ways between its quotes.  Every one of them keeps a reader of
arguments inside the string, and is read as the content (`walk?_quote`, `ofChars_quote`).  The text
of any other argument is kept as it was, without the blanks around it, and these do not matter to a
reader of arguments (`isArgument_trimChars`).
-/

namespace CollectiveChoice

set_option autoImplicit false

open Atom Atom.Position

/-! ## Spellings of strings -/

namespace Value

/-- How a character can be spelled between quotes. -/
inductive Spelling : Char → List Char → Prop where
  | plain {c : Char} (backslash : c ≠ '\\') (quote : c ≠ '"') : Spelling c [c]
  | literal {c : Char} (lineBreak : c ≠ 'n') (tabulator : c ≠ 't') : Spelling c ['\\', c]
  | lineBreak : Spelling '\n' ['\\', 'n']
  | tabulator : Spelling '\t' ['\\', 't']

theorem spelling_escapeChar (c : Char) : Spelling c (escapeChar c) := by
  unfold escapeChar
  split
  · exact .literal (by decide) (by decide)
  · exact .literal (by decide) (by decide)
  · exact .lineBreak
  · exact .tabulator
  · rename_i backslash quote _ _
    exact .plain backslash quote

theorem unescape_append {c : Char} {spelled : List Char} (spelling : Spelling c spelled)
    (rest : List Char) : unescape (spelled ++ rest) = c :: unescape rest := by
  cases spelling with
  | plain backslash quote => simp [unescape, backslash]
  | literal lineBreak tabulator => simp [unescape]
  | lineBreak => rfl
  | tabulator => rfl

theorem walk?_spelling {c : Char} {spelled : List Char} (spelling : Spelling c spelled)
    (depth : Nat) : (inside depth).walk? spelled = some (inside depth) := by
  cases spelling with
  | plain backslash quote => simp [walk?, next?, inside, backslash, quote]
  | literal | lineBreak | tabulator => rfl

section

variable {spell : Char → List Char} (spells : ∀ c, Spelling c (spell c))

include spells

theorem unescape_flatMap (content : List Char) : unescape (content.flatMap spell) = content := by
  induction content with
  | nil => rfl
  | cons c rest ih => rw [List.flatMap_cons, unescape_append (spells c), ih]

/-- A string leads back to where it starts. -/
theorem walk?_quote (content : List Char) (depth : Nat) :
    (outside depth).walk? ('"' :: (content.flatMap spell ++ ['"'])) = some (outside depth) := by
  have within : (inside depth).walk? (content.flatMap spell) = some (inside depth) := by
    induction content with
    | nil => rfl
    | cons c rest ih =>
        rw [List.flatMap_cons, walk?_append, walk?_spelling (spells c), Option.bind_some, ih]
  have opens : (outside depth).next? '"' = some (inside depth) := rfl
  rw [walk?_cons, opens, Option.bind_some, walk?_append, within]
  rfl

/-- A string is read as its content. -/
theorem ofChars_quote (content : List Char) :
    ofChars ('"' :: (content.flatMap spell ++ ['"'])) = .str (String.ofList content) := by
  have trimmed : Text.Trimmed ('"' :: (content.flatMap spell ++ ['"'])) :=
    Text.trimmed_of_ends (by decide) (by decide) _
  have noInteger : Text.readInt64? ('"' :: (content.flatMap spell ++ ['"'])) = none :=
    Text.readInt64?_eq_none List.mem_cons_self (by decide) (by decide) (by decide)
  have body : quotedBody? ('"' :: (content.flatMap spell ++ ['"']))
      = some (content.flatMap spell) := by
    simp [quotedBody?]
  rw [ofChars, Text.trimChars_of_trimmed trimmed, ofTrimmed, noInteger]
  simp only [body, unescape_flatMap spells]

end

/-! ## Integers and symbolic terms -/

theorem delimits_of_mem_decimalInt {n : Int} {c : Char}
    (member : c ∈ (Text.decimalInt n).toList) : delimits c = false := by
  refine Bool.eq_false_iff.mpr fun delimiter => ?_
  rcases delimits_eq_true_iff.mp delimiter with rfl | rfl | rfl | rfl <;>
    rcases Text.mem_decimalInt member with impossible | impossible <;> cases impossible

theorem isBlank_of_mem_decimalInt {n : Int} {c : Char}
    (member : c ∈ (Text.decimalInt n).toList) : Text.isBlank c = false := by
  rcases Text.mem_decimalInt member with digit | rfl
  · exact Text.isBlank_of_isAlphanum (by simp [Char.isAlphanum, digit])
  · rfl

/-- An integer is read as itself. -/
theorem ofChars_decimalInt {n : Int} (fits : Text.isInt64 n = true) :
    ofChars (Text.decimalInt n).toList = .int n := by
  have trimmed : Text.Trimmed (Text.decimalInt n).toList :=
    Text.trimmed_of_forall fun _ => isBlank_of_mem_decimalInt
  rw [ofChars, Text.trimChars_of_trimmed trimmed, ofTrimmed, Text.readInt64?_decimalInt fits]

/-- What does not begin with a quote is an integer or kept as it is. -/
theorem ofChars_of_unquoted {chars : List Char} (trimmed : Text.Trimmed chars)
    (unquoted : '"' ∉ chars.head?) :
    ofChars chars = (Text.readInt64? chars).elim (.sym (String.ofList chars)) .int := by
  have noBody : quotedBody? chars = none := by
    unfold quotedBody?
    split
    · exact absurd rfl unquoted
    · rfl
  rw [ofChars, Text.trimChars_of_trimmed trimmed, ofTrimmed, noBody]
  cases Text.readInt64? chars <;> rfl

/-- The blanks around an argument do not belong to what it says. -/
theorem isArgument_trimChars {part : List Char} (argument : IsArgument part) :
    IsArgument (Text.trimChars part) := by
  have plain : ∀ c, Text.isBlank c = true → delimits c = false := by
    intro c blank
    refine Bool.eq_false_iff.mpr fun delimiter => ?_
    rcases delimits_eq_true_iff.mp delimiter with rfl | rfl | rfl | rfl <;> cases blank
  obtain ⟨front, back, cut, blankFront, blankBack⟩ := Text.exists_eq_append_trimChars part
  rw [IsArgument, cut, walk?_append,
    walk?_outside_of_not_delimits fun c member => plain c (blankFront c member),
    Option.bind_some, walk?_append, Option.bind_eq_some_iff] at argument
  obtain ⟨middle, walks, rest⟩ := argument
  rw [IsArgument, walks,
    eq_outside_of_walk?_of_not_delimits (fun c member => plain c (blankBack c member)) rest]

/-! ## Values -/

/-- What a value is read as is written so that it is read as that again. -/
theorem ofChars_chars_ofChars (part : List Char) : ofChars (ofChars part).chars = ofChars part := by
  have again := Text.trimChars_of_trimmed (Text.trimmed_trimChars part)
  conv => lhs; rw [ofChars.eq_def part, ofTrimmed]
  conv => rhs; rw [ofChars, ofTrimmed]
  cases read : Text.readInt64? (Text.trimChars part) with
  | some n => exact ofChars_decimalInt (Text.isInt64_of_readInt64? read)
  | none =>
      cases body : quotedBody? (Text.trimChars part) with
      | some body =>
          simp only [chars, String.toList_ofList, List.cons_append]
          exact ofChars_quote spelling_escapeChar _
      | none => simp only [chars, String.toList_ofList, ofChars, again, ofTrimmed, read, body]

/-- What is written for a value that was read from an argument is an argument. -/
theorem isArgument_chars_ofChars {part : List Char} (argument : IsArgument part) :
    IsArgument (ofChars part).chars := by
  rw [ofChars, ofTrimmed]
  cases Text.readInt64? (Text.trimChars part) with
  | some n => exact walk?_outside_of_not_delimits (fun c => delimits_of_mem_decimalInt) 0
  | none =>
      cases quotedBody? (Text.trimChars part) with
      | some body =>
          simp only [chars, String.toList_ofList, List.cons_append]
          exact walk?_quote spelling_escapeChar _ 0
      | none =>
          simp only [chars, String.toList_ofList]
          exact isArgument_trimChars argument

end Value

/-! ## Atoms -/

namespace Atom

theorem argsChars_eq_intercalate (values : List Value) :
    argsChars values = [','].intercalate (values.map Value.chars) := by
  induction values with
  | nil => rfl
  | cons value rest ih =>
      cases rest with
      | nil => simp [argsChars]
      | cons next more =>
          rw [argsChars, ih]
          simp [List.intercalate_cons_cons]

theorem chars_of_ne_nil (predicate : String) {values : List Value} (nonempty : values ≠ []) :
    chars ⟨predicate, values⟩
      = predicate.toList ++ '(' :: ([','].intercalate (values.map Value.chars) ++ [')']) := by
  cases values with
  | nil => exact absurd rfl nonempty
  | cons value rest => simp [chars, argsChars_eq_intercalate]

/-- An atom that was read is read again from what is written for it. -/
theorem Reads.parse_display_eq {chars : List Char} {atom : Atom} (trimmed : Text.Trimmed chars)
    (reads : Reads chars atom) : parse atom.display = .ok atom := by
  rw [parse_eq_ok_iff, display, String.toList_ofList]
  cases reads with
  | constant nonempty unopened =>
      simp only [Atom.chars, String.toList_ofList]
      rw [Text.trimChars_of_trimmed trimmed]
      exact .constant nonempty unopened
  | @application predicate parts unopened nonempty arguments =>
      have filled : parts.map Value.ofChars ≠ [] := by simpa using nonempty
      rw [chars_of_ne_nil _ filled, String.toList_ofList, List.map_map]
      -- The predicate stays in front, and a parenthesis stays at the end.
      have stays : Text.Trimmed (predicate ++ '(' ::
          ([','].intercalate (parts.map (Value.chars ∘ Value.ofChars)) ++ [')'])) := by
        refine ⟨fun c first => trimmed.front c ?_, fun c last => ?_⟩
        · cases predicate <;> exact first
        · rw [List.getLast?_append, ← List.cons_append, List.getLast?_concat] at last
          cases last
          decide
      rw [Text.trimChars_of_trimmed stays]
      have values : parts.map Value.ofChars
          = (parts.map (Value.chars ∘ Value.ofChars)).map Value.ofChars := by
        rw [List.map_map]
        exact List.map_congr_left fun part _ => (Value.ofChars_chars_ofChars part).symm
      rw [values]
      refine .application unopened (by simpa using nonempty) fun written member => ?_
      obtain ⟨part, inside, rfl⟩ := List.mem_map.mp member
      exact Value.isArgument_chars_ofChars (arguments part inside)

theorem parse_display_of_parse {text : String} {atom : Atom} (read : parse text = .ok atom) :
    parse atom.display = .ok atom :=
  (parse_eq_ok_iff.mp read).parse_display_eq (Text.trimmed_trimChars _)

/-- **Atoms are read back as they are written.**  Whatever text an atom was read from, reading what
is written for it gives the atom again, and no other atom that was read is written alike. -/
theorem parse_display {text : String} {atom : Atom} (read : parse text = .ok atom) :
    parse atom.display = .ok atom ∧
      ∀ (other : Atom) (source : String), parse source = .ok other →
        other.display = atom.display → other = atom := by
  refine ⟨parse_display_of_parse read, fun other source readOther alike => ?_⟩
  have back := parse_display_of_parse readOther
  rw [alike, parse_display_of_parse read] at back
  exact (Except.ok.inj back).symm

theorem parse_display_stray_quotes :
    parse " p (+07, \"a\"b\\ \\\"\" , f(\"),\",x) )"
        = .ok ⟨"p ", [.int 7, .str "a\"b \"", .sym "f(\"),\",x)"]⟩ ∧
      parse (display ⟨"p ", [.int 7, .str "a\"b \"", .sym "f(\"),\",x)"]⟩)
        = .ok ⟨"p ", [.int 7, .str "a\"b \"", .sym "f(\"),\",x)"]⟩ :=
  have read : parse " p (+07, \"a\"b\\ \\\"\" , f(\"),\",x) )"
      = .ok ⟨"p ", [.int 7, .str "a\"b \"", .sym "f(\"),\",x)"]⟩ := by rfl
  ⟨read, (parse_display read).1⟩

end Atom

end CollectiveChoice

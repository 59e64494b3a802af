import CollectiveChoice.Proofs.Term.RoundTrip

/-!
# Ground terms of the solver

The texts a solver prints have a structure: integers, constants, strings, compound terms and tuples,
nested to any depth and without blanks outside of strings.  Reading an atom recovers the first level
of it.  The arguments of a printed compound term are as many as were printed, each of them the value
of the term in its place (`parse_display_compound`), where commas, parentheses, quotes and
backslashes in strings do not matter, at whatever depth they stand.

This rests on one fact about printed terms: each leads a reader of arguments back to where it
starts (`walk?_chars`).
-/

namespace CollectiveChoice

set_option autoImplicit false

open Atom Atom.Position

/-! ## Names -/

/-- A name: an identifier, which may stand behind a minus sign and behind underscores. -/
structure Name where
  negated : Bool
  underscores : Nat
  letter : Char
  rest : List Char
  isAlpha_letter : letter.isAlpha = true
  /-- Letters, digits, underscores and primes follow the first letter. -/
  follows : ∀ c ∈ rest, (c.isAlphanum || c == '_' || c == '\'') = true

namespace Name

/-- The characters of a name. -/
def chars (name : Name) : List Char :=
  (if name.negated then ['-'] else []) ++
    (List.replicate name.underscores '_' ++ name.letter :: name.rest)

/-- The text of a name. -/
def text (name : Name) : String :=
  String.ofList name.chars

theorem mem_chars {name : Name} {c : Char} (member : c ∈ name.chars) :
    c.isAlphanum = true ∨ c = '_' ∨ c = '-' ∨ c = '\'' := by
  rcases List.mem_append.mp member with sign | member
  · cases minus : name.negated with
    | false => simp [minus] at sign
    | true =>
        simp only [minus, if_true, List.mem_singleton] at sign
        exact Or.inr (Or.inr (Or.inl sign))
  · rcases List.mem_append.mp member with underscore | member
    · exact Or.inr (Or.inl (List.eq_of_mem_replicate underscore))
    · rcases List.mem_cons.mp member with rfl | follows
      · exact Or.inl (by simp [Char.isAlphanum, name.isAlpha_letter])
      · have allowed := name.follows c follows
        simp only [Bool.or_eq_true, beq_iff_eq] at allowed
        rcases allowed with (alphanumeric | underscore) | prime
        · exact Or.inl alphanumeric
        · exact Or.inr (Or.inl underscore)
        · exact Or.inr (Or.inr (Or.inr prime))

theorem letter_mem_chars (name : Name) : name.letter ∈ name.chars :=
  List.mem_append_right _ (List.mem_append_right _ List.mem_cons_self)

/-- A text that starts with a name starts with a character of the name. -/
theorem mem_chars_of_head? {name : Name} {rest : List Char} {c : Char}
    (first : c ∈ (name.chars ++ rest).head?) : c ∈ name.chars := by
  rw [List.head?_append] at first
  cases head : name.chars.head? with
  | none =>
      have letter := name.letter_mem_chars
      rw [List.head?_eq_none_iff.mp head] at letter
      cases letter
  | some other =>
      rw [head] at first
      cases first
      exact List.mem_of_head? head

theorem isBlank_of_mem_chars {name : Name} {c : Char} (member : c ∈ name.chars) :
    Text.isBlank c = false := by
  rcases mem_chars member with alphanumeric | rfl | rfl | rfl
  · exact Text.isBlank_of_isAlphanum alphanumeric
  all_goals rfl

theorem delimits_of_mem_chars {name : Name} {c : Char} (member : c ∈ name.chars) :
    delimits c = false := by
  refine Bool.eq_false_iff.mpr fun delimiter => ?_
  rcases delimits_eq_true_iff.mp delimiter with rfl | rfl | rfl | rfl <;>
    rcases mem_chars member with impossible | impossible | impossible | impossible <;>
      cases impossible

/-- A name in front of parentheses has no blanks around it. -/
theorem trimmed_append (name : Name) (middle : List Char) :
    Text.Trimmed (name.chars ++ '(' :: (middle ++ [')'])) := by
  refine ⟨fun c front => ?_, fun c last => ?_⟩
  · exact isBlank_of_mem_chars (mem_chars_of_head? front)
  · rw [← List.cons_append, ← List.append_assoc, List.getLast?_concat] at last
    cases last
    decide

/-- Nothing that holds a name is an integer. -/
theorem readInt64?_eq_none {chars : List Char} (name : Name) (inside : name.letter ∈ chars) :
    Text.readInt64? chars = none := by
  have alpha := name.isAlpha_letter
  have noDigit : name.letter.isDigit = false := by
    refine Bool.eq_false_iff.mpr fun digit => ?_
    have low := (Text.toNat_of_isDigit digit).2
    have high := (Text.toNat_of_isAlpha alpha).1
    omega
  refine Text.readInt64?_eq_none inside noDigit ?_ ?_
  · intro minus
    rw [minus] at alpha
    cases alpha
  · intro plus
    rw [plus] at alpha
    cases alpha

end Name

/-! ## Terms -/

/-- A ground term. -/
inductive Ground where
  | integer (number : Int) (fits : Text.isInt64 number = true)
  | constant (name : Name)
  | string (content : String)
  /-- A name with at least one argument. -/
  | compound (name : Name) (first : Ground) (rest : List Ground)
  /-- At least two terms in parentheses. -/
  | tuple (first second : Ground) (rest : List Ground)

namespace Ground

/-- How a solver prints a character of a string. -/
def stringChar (c : Char) : List Char :=
  match c with
  | '\\' => ['\\', '\\']
  | '"' => ['\\', '"']
  | '\n' => ['\\', 'n']
  | c => [c]

theorem spelling_stringChar (c : Char) : Value.Spelling c (stringChar c) := by
  unfold stringChar
  split
  · exact .literal (by decide) (by decide)
  · exact .literal (by decide) (by decide)
  · exact .lineBreak
  · rename_i backslash quote _
    exact .plain backslash quote

mutual

/-- The characters a solver prints for a term. -/
def chars : Ground → List Char
  | .integer number _ => (Text.decimalInt number).toList
  | .constant name => name.chars
  | .string content => '"' :: (content.toList.flatMap stringChar ++ ['"'])
  | .compound name first rest => name.chars ++ '(' :: (chars first ++ tailChars rest ++ [')'])
  | .tuple first second rest =>
    '(' :: (chars first ++ ',' :: (chars second ++ tailChars rest) ++ [')'])

/-- The characters for terms that follow another one, each behind a comma. -/
def tailChars : List Ground → List Char
  | [] => []
  | term :: rest => ',' :: (chars term ++ tailChars rest)

end

/-- The text a solver prints for a term. -/
def display (term : Ground) : String :=
  String.ofList term.chars

/-- The value a term has as an argument of an atom. -/
def value : Ground → Value
  | .integer number _ => .int number
  | .string content => .str content
  | term => .sym term.display

theorem intercalate_chars (first : Ground) (rest : List Ground) :
    [','].intercalate ((first :: rest).map chars) = chars first ++ tailChars rest := by
  induction rest generalizing first with
  | nil => simp [tailChars]
  | cons second more ih =>
      have later := ih second
      rw [List.map_cons] at later
      rw [List.map_cons, List.map_cons, List.intercalate_cons_cons, later, tailChars]
      simp

/-! ## Printed terms are arguments -/

theorem walk?_parenthesized {chars : List Char} {depth : Nat}
    (walks : (outside (depth + 1)).walk? chars = some (outside (depth + 1))) :
    (outside depth).walk? ('(' :: (chars ++ [')'])) = some (outside depth) := by
  have opens : (outside depth).next? '(' = some (outside (depth + 1)) := rfl
  rw [walk?, opens, Option.bind_some, walk?_append, walks]
  rfl

theorem next?_comma (depth : Nat) :
    (outside (depth + 1)).next? ',' = some (outside (depth + 1)) := rfl

mutual

/-- A printed term leads back to where it starts. -/
theorem walk?_chars : ∀ (term : Ground) (depth : Nat),
    (outside depth).walk? term.chars = some (outside depth)
  | .integer number _, depth =>
      walk?_outside_of_not_delimits (fun _ => Value.delimits_of_mem_decimalInt) depth
  | .constant name, depth =>
      walk?_outside_of_not_delimits (fun _ => Name.delimits_of_mem_chars) depth
  | .string content, depth => Value.walk?_quote spelling_stringChar content.toList depth
  | .compound name first rest, depth => by
      rw [chars, walk?_append,
        walk?_outside_of_not_delimits (fun _ => Name.delimits_of_mem_chars), Option.bind_some]
      apply walk?_parenthesized
      rw [walk?_append, walk?_chars first, Option.bind_some, walk?_tailChars rest]
  | .tuple first second rest, depth => by
      rw [chars]
      apply walk?_parenthesized
      rw [walk?_append, walk?_chars first, Option.bind_some, walk?, next?_comma,
        Option.bind_some, walk?_append, walk?_chars second, Option.bind_some,
        walk?_tailChars rest]

theorem walk?_tailChars : ∀ (terms : List Ground) (depth : Nat),
    (outside (depth + 1)).walk? (tailChars terms) = some (outside (depth + 1))
  | [], _ => rfl
  | term :: rest, depth => by
      rw [tailChars, walk?, next?_comma, Option.bind_some, walk?_append, walk?_chars term,
        Option.bind_some, walk?_tailChars rest]

end

/-! ## Values of printed terms -/

theorem ofChars_eq_sym {chars : List Char} (trimmed : Text.Trimmed chars)
    (noInteger : Text.readInt64? chars = none) (unquoted : '"' ∉ chars.head?) :
    Value.ofChars chars = .sym (String.ofList chars) := by
  rw [Value.ofChars_of_unquoted trimmed unquoted, noInteger, Option.elim_none]

theorem trimmed_compound (name : Name) (first : Ground) (rest : List Ground) :
    Text.Trimmed (chars (.compound name first rest)) := by
  rw [chars]
  exact name.trimmed_append _

theorem trimmed_tuple (first second : Ground) (rest : List Ground) :
    Text.Trimmed (chars (.tuple first second rest)) := by
  rw [chars]
  exact Text.trimmed_of_ends (by decide) (by decide) _

/-- A printed term is read as its value. -/
theorem ofChars_chars (term : Ground) : Value.ofChars term.chars = term.value := by
  cases term with
  | integer number fits => exact Value.ofChars_decimalInt fits
  | string content =>
      rw [chars, Value.ofChars_quote spelling_stringChar, String.ofList_toList, value]
  | constant name =>
      have trimmed : Text.Trimmed name.chars :=
        Text.trimmed_of_forall fun c inside => Name.isBlank_of_mem_chars inside
      refine ofChars_eq_sym trimmed (name.readInt64?_eq_none name.letter_mem_chars) fun quote => ?_
      cases Name.delimits_of_mem_chars (List.mem_of_head? quote)
  | compound name first rest =>
      have inside : name.letter ∈ chars (.compound name first rest) := by
        rw [chars]
        exact List.mem_append_left _ name.letter_mem_chars
      refine ofChars_eq_sym (trimmed_compound name first rest) (name.readInt64?_eq_none inside)
        fun quote => ?_
      rw [chars] at quote
      cases Name.delimits_of_mem_chars (Name.mem_chars_of_head? quote)
  | tuple first second rest =>
      have inside : '(' ∈ chars (.tuple first second rest) := by
        rw [chars]
        exact List.mem_cons_self
      have noInteger := Text.readInt64?_eq_none inside (by decide) (by decide) (by decide)
      refine ofChars_eq_sym (trimmed_tuple first second rest) noInteger fun quote => ?_
      rw [chars] at quote
      cases quote

/-! ## Atoms -/

/-- **The arguments of a printed atom are recovered.**  What a solver prints for a name with terms as
arguments is read as an atom with this name as predicate and as many arguments: the number for an
integer, the content for a string, and the printed text for every other term. -/
theorem parse_display_compound (name : Name) (first : Ground) (rest : List Ground) :
    Atom.parse (display (.compound name first rest))
      = .ok ⟨name.text, (first :: rest).map value⟩ := by
  have arguments : ∀ part ∈ (first :: rest).map chars, IsArgument part := by
    intro part printed
    obtain ⟨term, -, rfl⟩ := List.mem_map.mp printed
    exact walk?_chars term 0
  have unopened : '(' ∉ name.chars := by
    intro opened
    cases Name.delimits_of_mem_chars opened
  have values : ((first :: rest).map chars).map Value.ofChars = (first :: rest).map value := by
    rw [List.map_map]
    exact List.map_congr_left fun term _ => ofChars_chars term
  have reads : Reads (chars (.compound name first rest)) ⟨name.text, (first :: rest).map value⟩ := by
    rw [chars, ← intercalate_chars, ← values]
    exact .application unopened (List.cons_ne_nil _ _) arguments
  rw [parse_eq_ok_iff, display, String.toList_ofList,
    Text.trimChars_of_trimmed (trimmed_compound name first rest)]
  exact reads

example : display (.compound ⟨false, 0, 'p', [], rfl, nofun⟩
      (.compound ⟨true, 1, 'f', [], rfl, nofun⟩ (.integer (-7) rfl) [.string "),("])
      [.tuple (.string "a \"b\"") (.integer 0 rfl) []])
    = "p(-_f(-7,\"),(\"),(\"a \\\"b\\\"\",0))" := rfl

end Ground

end CollectiveChoice

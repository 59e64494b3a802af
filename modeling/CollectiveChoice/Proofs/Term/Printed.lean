import CollectiveChoice.Proofs.Term.Ground
import Mathlib.Data.List.Forall2

/-!
# Printed terms as atoms

An answer shows terms, and every text in it is read as an atom.  Integers, constants and most strings
become predicates without arguments, compound terms and tuples become atoms with arguments.
Parentheses and quotes in a printed term match up, whatever stands inside of it and at whatever
depth (`Printed.walk?_eq`).

One kind of term gets lost.  Reading an atom looks for the first opening parenthesis without regard
to quotes, so a string that holds one is taken for a predicate with arguments that do not end
(`Printed.parse_eq_error`).  All other terms are accepted (`Printed.exists_parse_eq_ok`), and a list
of terms is read up to the first such string (`failsAt_parseAll`).
-/

namespace CollectiveChoice

set_option autoImplicit false

open Atom Atom.Position

/-! ## Terms in print -/

/-- The characters of a printed ground term. -/
inductive Printed : List Char → Prop where
  | integer (number : Int) : Printed (Text.decimalInt number).toList
  | constant (name : Name) : Printed name.chars
  | string (content : List Char) :
      Printed ('"' :: (content.flatMap Ground.stringChar ++ ['"']))
  | compound (name : Name) {parts : List (List Char)} (nonempty : parts ≠ [])
      (printed : ∀ part ∈ parts, Printed part) :
      Printed (name.chars ++ '(' :: ([','].intercalate parts ++ [')']))
  /-- A tuple of no terms or of several. -/
  | tuple {parts : List (List Char)} (length : parts.length ≠ 1)
      (printed : ∀ part ∈ parts, Printed part) : Printed ('(' :: ([','].intercalate parts ++ [')']))
  /-- A comma tells a tuple of one term from the term. -/
  | single {part : List Char} (printed : Printed part) : Printed ('(' :: (part ++ [',', ')']))

namespace Ground

mutual

/-- What is printed for a ground term is printed. -/
theorem printed : ∀ term : Ground, Printed term.chars
  | .integer number _ => .integer number
  | .constant name => .constant name
  | .string content => .string content.toList
  | .compound name first rest => by
      rw [chars, ← intercalate_chars]
      exact .compound name (List.cons_ne_nil _ _)
        (List.forall_mem_map.mpr (List.forall_mem_cons.mpr ⟨printed first, printed_of_mem rest⟩))
  | .tuple first second rest => by
      have parts := intercalate_chars first (second :: rest)
      rw [tailChars] at parts
      rw [chars, ← parts]
      exact .tuple (by simp) (List.forall_mem_map.mpr (List.forall_mem_cons.mpr
        ⟨printed first, List.forall_mem_cons.mpr ⟨printed second, printed_of_mem rest⟩⟩))

theorem printed_of_mem : ∀ (terms : List Ground), ∀ term ∈ terms, Printed term.chars
  | [] => nofun
  | first :: rest => List.forall_mem_cons.mpr ⟨printed first, printed_of_mem rest⟩

end

end Ground

/-! ## Parentheses and quotes match up -/

/-- Commas between parts do not matter inside of parentheses. -/
theorem Atom.Position.walk?_intercalate {parts : List (List Char)}
    (walks : ∀ part ∈ parts, ∀ depth, (outside depth).walk? part = some (outside depth))
    (depth : Nat) :
    (outside (depth + 1)).walk? ([','].intercalate parts) = some (outside (depth + 1)) := by
  induction parts with
  | nil => rfl
  | cons first rest ih =>
      obtain ⟨here, later⟩ := List.forall_mem_cons.mp walks
      cases rest with
      | nil => rw [List.intercalate_singleton, here]
      | cons second more =>
          rw [List.intercalate_cons_cons, List.append_assoc, walk?_append, here, Option.bind_some,
            List.singleton_append, walk?_cons, Ground.next?_comma, Option.bind_some, ih later]

namespace Printed

variable {chars : List Char}

/-- A printed term leads a reader of arguments back to where it starts. -/
theorem walk?_eq (printed : Printed chars) (depth : Nat) :
    (outside depth).walk? chars = some (outside depth) := by
  induction printed generalizing depth with
  | integer number =>
      exact walk?_outside_of_not_delimits (fun _ => Value.delimits_of_mem_decimalInt) depth
  | constant name => exact walk?_outside_of_not_delimits (fun _ => Name.delimits_of_mem_chars) depth
  | string content => exact Value.walk?_quote Ground.spelling_stringChar content depth
  | compound name _ _ ih =>
      rw [walk?_append, walk?_outside_of_not_delimits (fun _ => Name.delimits_of_mem_chars),
        Option.bind_some]
      exact Ground.walk?_parenthesized (walk?_intercalate ih depth)
  | tuple _ _ ih => exact Ground.walk?_parenthesized (walk?_intercalate ih depth)
  | @single part _ ih =>
      have walks : (outside (depth + 1)).walk? (part ++ [',']) = some (outside (depth + 1)) := by
        rw [walk?_append, ih, Option.bind_some]
        rfl
      have closed := Ground.walk?_parenthesized walks
      rwa [List.append_assoc] at closed

theorem isArgument (printed : Printed chars) : IsArgument chars :=
  printed.walk?_eq 0

/-! ## Printed terms have no blanks around them -/

theorem trimmed (printed : Printed chars) : Text.Trimmed chars := by
  cases printed with
  | integer number =>
      exact Text.trimmed_of_forall fun _ => Value.isBlank_of_mem_decimalInt
  | constant name => exact Text.trimmed_of_forall fun _ => Name.isBlank_of_mem_chars
  | string | tuple => exact Text.trimmed_of_ends (by decide) (by decide) _
  | @single part _ =>
      have ends := @Text.trimmed_of_ends '(' ')' (by decide) (by decide) (part ++ [','])
      rwa [List.append_assoc] at ends
  | compound name _ _ => exact name.trimmed_append _

end Printed

/-! ## Which printed terms are atoms -/

/-- Whether characters are a string that holds an opening parenthesis. -/
def isMisread (chars : List Char) : Bool :=
  chars.head? == some '"' && chars.contains '('

theorem isMisread_eq_true_iff {chars : List Char} :
    isMisread chars = true ↔ chars.head? = some '"' ∧ '(' ∈ chars := by
  simp [isMisread]

namespace Printed

/-- A printed term that starts with a quote ends with one. -/
theorem getLast?_eq_quote {chars : List Char} (printed : Printed chars)
    (quoted : chars.head? = some '"') : chars.getLast? = some '"' := by
  cases printed with
  | integer number => cases Value.delimits_of_mem_decimalInt (List.mem_of_head? quoted)
  | constant name => cases Name.delimits_of_mem_chars (List.mem_of_head? quoted)
  | string content => rw [← List.cons_append, List.getLast?_concat]
  | compound name => cases Name.delimits_of_mem_chars (Name.mem_chars_of_head? quoted)
  | tuple | single => cases quoted

theorem exists_reads {chars : List Char} (printed : Printed chars)
    (readable : isMisread chars = false) : ∃ atom, Reads chars atom := by
  have unopened : ∀ name : Name, '(' ∉ name.chars := by
    intro name opened
    cases Name.delimits_of_mem_chars opened
  cases printed with
  | integer number =>
      obtain ⟨first, rest, written⟩ := Text.exists_decimalInt_eq_cons number
      refine ⟨_, .constant (by simp [written]) fun opened => ?_⟩
      cases Value.delimits_of_mem_decimalInt opened
  | constant name =>
      exact ⟨_, .constant (List.ne_nil_of_mem name.letter_mem_chars) (unopened name)⟩
  | string content =>
      refine ⟨_, .constant (List.cons_ne_nil _ _) fun opened => ?_⟩
      rw [isMisread_eq_true_iff.mpr ⟨rfl, opened⟩] at readable
      cases readable
  | compound name nonempty printed =>
      exact ⟨_, .application (unopened name) nonempty fun part inside =>
        (printed part inside).isArgument⟩
  | @tuple parts length printed =>
      -- Between the parentheses of the empty tuple stands one argument without characters.
      cases parts with
      | nil =>
          exact ⟨_, @Reads.application [] [[]] List.not_mem_nil (List.cons_ne_nil _ _)
            (List.forall_mem_singleton.mpr rfl)⟩
      | cons first rest =>
          exact ⟨_, @Reads.application [] _ List.not_mem_nil (List.cons_ne_nil _ _)
            fun part inside => (printed part inside).isArgument⟩
  | @single part printed =>
      -- Behind the comma of a tuple of one term stands another argument without characters.
      have reads := @Reads.application [] [part, []] List.not_mem_nil (List.cons_ne_nil _ _)
        (List.forall_mem_cons.mpr ⟨printed.isArgument, List.forall_mem_singleton.mpr rfl⟩)
      rw [List.intercalate_cons_cons, List.intercalate_singleton, List.append_nil,
        List.append_assoc] at reads
      exact ⟨_, reads⟩

variable {text : String}

/-- **A printed term is read as an atom**, unless it is a string that holds an opening
parenthesis. -/
theorem exists_parse_eq_ok (printed : Printed text.toList)
    (readable : isMisread text.toList = false) : ∃ atom, Atom.parse text = .ok atom := by
  obtain ⟨atom, reads⟩ := printed.exists_reads readable
  refine ⟨atom, parse_eq_ok_iff.mpr ?_⟩
  rwa [Text.trimChars_of_trimmed printed.trimmed]

/-- A string that holds an opening parenthesis is no atom: it does not end with a closing one. -/
theorem parse_eq_error (printed : Printed text.toList) (misread : isMisread text.toList = true) :
    Atom.parse text = .error (.unbalanced text) := by
  obtain ⟨quoted, opened⟩ := isMisread_eq_true_iff.mp misread
  have ends := printed.getLast?_eq_quote quoted
  rw [Atom.parse, Text.trimChars_of_trimmed printed.trimmed]
  obtain ⟨predicate, tail, split, unopened⟩ := List.eq_append_cons_of_mem opened
  rw [split] at ends
  have unclosed : tail.getLast? ≠ some ')' := by
    intro closed
    simp [List.getLast?_append, List.getLast?_cons, closed] at ends
  rw [split, ofTrimmed_append_opening unopened, if_neg unclosed, ← split, String.ofList_toList]

end Printed

/-! ## Lists of printed terms -/

/-- The first text that is a string with an opening parenthesis. -/
def firstMisread (texts : List String) : Option String :=
  texts.find? fun text => isMisread text.toList

theorem firstMisread_append (texts others : List String) :
    firstMisread (texts ++ others) = (firstMisread texts).or (firstMisread others) :=
  List.find?_append

/-- Reading fails at a text if there is one, and comes to a value with a property if there is
none. -/
def FailsAt {α : Type} (fault : Option String) (read : Except AtomError α) (holds : α → Prop) :
    Prop :=
  match fault with
  | none => ∃ value, read = .ok value ∧ holds value
  | some text => read = .error (.unbalanced text)

namespace FailsAt

variable {α β : Type} {fault later : Option String} {holds : α → Prop} {result : β → Prop}

/-- One reading after the other fails where the first fails, or else the second. -/
theorem bind {first : Except AtomError α} {next : α → Except AtomError β}
    (begins : FailsAt fault first holds)
    (continues : ∀ value, holds value → FailsAt later (next value) result) :
    FailsAt (fault.or later) (first >>= next) result := by
  cases fault with
  | none =>
      obtain ⟨value, rfl, here⟩ := begins
      exact continues value here
  | some text =>
      rw [FailsAt] at begins
      rw [begins]
      rfl

theorem map {read : Except AtomError α} {image : α → β} (fails : FailsAt fault read holds)
    (keeps : ∀ value, holds value → result (image value)) :
    FailsAt fault (read >>= fun value => .ok (image value)) result := by
  have both : FailsAt (fault.or none) (read >>= fun value => .ok (image value)) result :=
    fails.bind fun value here => ⟨image value, rfl, keeps value here⟩
  rwa [Option.or_none] at both

end FailsAt

/-- Of a list of printed terms each is read as an atom, up to the first string that holds an opening
parenthesis. -/
theorem failsAt_parseAll {texts : List String} (printed : ∀ text ∈ texts, Printed text.toList) :
    FailsAt (firstMisread texts) (Atom.parseAll texts)
      (List.Forall₂ (fun text atom => Atom.parse text = .ok atom) texts) := by
  induction texts with
  | nil => exact ⟨[], rfl, .nil⟩
  | cons first rest ih =>
      obtain ⟨here, others⟩ := List.forall_mem_cons.mp printed
      have fails : FailsAt (firstMisread [first]) (Atom.parse first)
          fun atom => Atom.parse first = .ok atom := by
        cases misread : isMisread first.toList with
        | true => simpa [firstMisread, misread, FailsAt] using here.parse_eq_error misread
        | false => simpa [firstMisread, misread, FailsAt] using here.exists_parse_eq_ok misread
      rw [← List.singleton_append, firstMisread_append]
      exact fails.bind fun atom read => (ih others).map fun atoms each => .cons read each

end CollectiveChoice

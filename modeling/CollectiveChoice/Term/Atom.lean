import CollectiveChoice.Term.Value

/-!
# Atoms

An atom is a predicate with a tuple of arguments.  Atoms are ordered by predicate and then by their
arguments, position by position.

Reading an atom looks at its parentheses only as far as needed: everything before the first opening
parenthesis is the predicate, the text has to end with a closing one, and in between the commas
that stand outside of parentheses and strings separate the arguments.
-/

namespace CollectiveChoice

set_option autoImplicit false

/-- A ground fact.  The predicate of a tuple is empty. -/
@[ext] structure Atom where
  predicate : String
  args : List Value
deriving DecidableEq, Repr, Inhabited

/-- Why a text is no atom. -/
inductive AtomError where
  | empty
  /-- Parentheses or quotes do not match up. -/
  | unbalanced (text : String)
deriving DecidableEq, Repr

/-- The message of an error. -/
def AtomError.message : AtomError → String
  | .empty => "empty atom"
  | .unbalanced text => "unbalanced atom text: " ++ text

namespace Atom

/-! ## Order -/

instance : Ord Atom where
  compare := compareLex (compareOn Atom.predicate) (compareOn Atom.args)

theorem compare_eq (left right : Atom) : compare left right
    = (compare left.predicate right.predicate).then (compare left.args right.args) := rfl

instance : Std.TransOrd Atom :=
  inferInstanceAs (Std.TransCmp (compareLex (compareOn Atom.predicate) (compareOn Atom.args)))

instance : Std.LawfulEqOrd Atom where
  eq_of_compare {left right} same := by
    rw [compare_eq, Ordering.then_eq_eq] at same
    exact Atom.ext (Std.LawfulEqOrd.eq_of_compare same.1) (Std.LawfulEqOrd.eq_of_compare same.2)

/-! ## Description -/

/-- The number of arguments. -/
def arity (atom : Atom) : Nat :=
  atom.args.length

/-- Predicate and arity, as in `p/2`. -/
def signature (atom : Atom) : String :=
  atom.predicate ++ "/" ++ Text.decimalNat atom.arity

/-! ## Writing -/

/-- The arguments with commas between them. -/
def argsChars : List Value → List Char
  | [] => []
  | [value] => value.chars
  | value :: next :: rest => value.chars ++ ',' :: argsChars (next :: rest)

/-- The characters of an atom in the syntax of the solver; an atom without arguments has no
parentheses. -/
def chars (atom : Atom) : List Char :=
  match atom.args with
  | [] => atom.predicate.toList
  | args => atom.predicate.toList ++ '(' :: argsChars args ++ [')']

/-- An atom in the syntax of the solver. -/
def display (atom : Atom) : String :=
  String.ofList atom.chars

/-- The fact that states the atom. -/
def fact (atom : Atom) : String :=
  atom.display ++ "."

/-- An atom as JSON. -/
def toJson (atom : Atom) : Json :=
  .object [("predicate", .string atom.predicate), ("args", .array (atom.args.map Value.toJson))]

/-! ## Reading -/

/-- Where a reader of arguments stands: outside of strings, inside one, or behind a backslash
inside one. -/
inductive Place where
  | outside
  | inside
  | escaped
deriving DecidableEq, Repr

/-- Puts a character in front of the first part. -/
def growFirst (c : Char) : List (List Char) → List (List Char)
  | [] => [[c]]
  | part :: parts => (c :: part) :: parts

/-- Splits at the commas outside of strings and of the given depth of parentheses, if parentheses
and quotes match up. -/
def splitArgs (depth : Nat) (place : Place) : List Char → Option (List (List Char))
  | [] => if depth = 0 ∧ place = .outside then some [[]] else none
  | c :: rest =>
    match place with
    | .escaped => (splitArgs depth .inside rest).map (growFirst c)
    | .inside =>
      if c = '\\' then (splitArgs depth .escaped rest).map (growFirst c)
      else if c = '"' then (splitArgs depth .outside rest).map (growFirst c)
      else (splitArgs depth .inside rest).map (growFirst c)
    | .outside =>
      if c = '"' then (splitArgs depth .inside rest).map (growFirst c)
      else if c = '(' then (splitArgs (depth + 1) .outside rest).map (growFirst c)
      else if c = ')' then
        match depth with
        | 0 => none
        | outer + 1 => (splitArgs outer .outside rest).map (growFirst c)
      else if c = ',' ∧ depth = 0 then (splitArgs depth .outside rest).map ([] :: ·)
      else (splitArgs depth .outside rest).map (growFirst c)

/-- Reads an atom from characters without blanks around them. -/
def ofTrimmed (chars : List Char) : Except AtomError Atom :=
  match chars with
  | [] => .error .empty
  | _ =>
    match chars.dropWhile (· ≠ '(') with
    | [] => .ok ⟨String.ofList chars, []⟩
    | _ :: tail =>
      if tail.getLast? = some ')' then
        match splitArgs 0 .outside tail.dropLast with
        | some parts =>
          .ok ⟨String.ofList (chars.takeWhile (· ≠ '(')), parts.map Value.ofChars⟩
        | none => .error (.unbalanced (String.ofList chars))
      else .error (.unbalanced (String.ofList chars))

/-- Reads an atom, leaving out the blanks around it. -/
def parse (text : String) : Except AtomError Atom :=
  ofTrimmed (Text.trimChars text.toList)

end Atom

/-! ## Solutions -/

/-- One answer of a solver: its atoms, in an order without meaning, and the costs of optimization,
highest priority first. -/
structure Solution where
  atoms : List Atom
  /-- The costs, none without optimization. -/
  costs : List Int
deriving DecidableEq, Repr, Inhabited

/-- Reads a list of atoms, stopping at the first text that is none. -/
def Atom.parseAll : List String → Except AtomError (List Atom)
  | [] => .ok []
  | text :: rest => do
    let atom ← Atom.parse text
    let atoms ← Atom.parseAll rest
    return atom :: atoms

end CollectiveChoice

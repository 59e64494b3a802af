import CollectiveChoice.Json.Basic
import CollectiveChoice.Text.Blank

/-!
# Argument values

An argument of an atom is an integer, a symbolic term kept as its text, or a string.  The order is
the one solvers use for terms: integers first, then symbolic terms, then strings.

A string is written between quotes with backslash escapes; its content is kept without them.
-/

namespace CollectiveChoice

set_option autoImplicit false

/-- One argument of an atom. -/
inductive Value where
  /-- An integer of 64 bits. -/
  | int (number : Int)
  /-- A constant or compound term, as written. -/
  | sym (term : String)
  /-- A string, by its content. -/
  | str (content : String)
deriving DecidableEq, Repr, Inhabited

namespace Value

/-! ## Order -/

instance : Ord Value where
  compare
    | .int left, .int right => compare left right
    | .int _, _ => .lt
    | _, .int _ => .gt
    | .sym left, .sym right => compare left right
    | .sym _, _ => .lt
    | _, .sym _ => .gt
    | .str left, .str right => compare left right

theorem compare_int (left right : Int) :
    compare (Value.int left) (Value.int right) = compare left right := rfl

theorem compare_sym (left right : String) :
    compare (Value.sym left) (Value.sym right) = compare left right := rfl

theorem compare_str (left right : String) :
    compare (Value.str left) (Value.str right) = compare left right := rfl

instance : Std.LawfulEqOrd Value where
  compare_self {value} := by
    cases value <;> simp [compare_int, compare_sym, compare_str, Std.ReflOrd.compare_self]
  eq_of_compare {left right} same := by
    cases left <;> cases right <;> first
      | exact congrArg _ (Std.LawfulEqOrd.eq_of_compare same)
      | cases same

private theorem swap_int (left right : Int) : compare left right = (compare right left).swap :=
  Std.OrientedCmp.eq_swap

private theorem swap_text (left right : String) :
    compare left right = (compare right left).swap :=
  Std.OrientedCmp.eq_swap

private theorem chain_int {left middle right : Int} (lower : (compare left middle).isLE = true)
    (upper : (compare middle right).isLE = true) : (compare left right).isLE = true :=
  Std.TransCmp.isLE_trans lower upper

private theorem chain_text {left middle right : String}
    (lower : (compare left middle).isLE = true)
    (upper : (compare middle right).isLE = true) : (compare left right).isLE = true :=
  Std.TransCmp.isLE_trans lower upper

instance : Std.TransOrd Value where
  eq_swap {left right} := by
    cases left <;> cases right <;> first
      | exact swap_int _ _
      | exact swap_text _ _
      | rfl
  isLE_trans {left middle right} lower upper :=
    match left, middle, right, lower, upper with
    | .int _, .int _, .int _, lower, upper => chain_int lower upper
    | .int _, .sym _, .int _, _, upper => by cases upper
    | .int _, .str _, .int _, _, upper => by cases upper
    | .int _, _, .sym _, _, _ => rfl
    | .int _, _, .str _, _, _ => rfl
    | .sym _, .int _, _, lower, _ => by cases lower
    | .sym _, .sym _, .int _, _, upper => by cases upper
    | .sym _, .sym _, .sym _, lower, upper => chain_text lower upper
    | .sym _, .str _, .int _, _, upper => by cases upper
    | .sym _, .str _, .sym _, _, upper => by cases upper
    | .sym _, _, .str _, _, _ => rfl
    | .str _, .int _, _, lower, _ => by cases lower
    | .str _, .sym _, _, lower, _ => by cases lower
    | .str _, .str _, .int _, _, upper => by cases upper
    | .str _, .str _, .sym _, _, upper => by cases upper
    | .str _, .str _, .str _, lower, upper => chain_text lower upper

/-! ## Strings -/

/-- The content of a string whose text between the quotes is given.  A backslash makes the next
character literal, except for the line break and the tabulator. -/
def unescape : List Char → List Char
  | [] => []
  | '\\' :: 'n' :: rest => '\n' :: unescape rest
  | '\\' :: 't' :: rest => '\t' :: unescape rest
  | '\\' :: c :: rest => c :: unescape rest
  | c :: rest => c :: unescape rest

/-- How a character of a string is written between the quotes. -/
def escapeChar (c : Char) : List Char :=
  match c with
  | '\\' => ['\\', '\\']
  | '"' => ['\\', '"']
  | '\n' => ['\\', 'n']
  | '\t' => ['\\', 't']
  | c => [c]

/-! ## Reading and writing -/

/-- The text between the quotes, if the characters are quoted. -/
def quotedBody? (chars : List Char) : Option (List Char) :=
  match chars with
  | '"' :: rest => if rest.getLast? = some '"' then some rest.dropLast else none
  | _ => none

/-- Reads a value from characters without blanks around them.  Whatever is neither an integer nor
quoted is a symbolic term. -/
def ofTrimmed (chars : List Char) : Value :=
  match Text.readInt64? chars with
  | some number => .int number
  | none =>
    match quotedBody? chars with
    | some body => .str (String.ofList (unescape body))
    | none => .sym (String.ofList chars)

/-- Reads a value, leaving out the blanks around it. -/
def ofChars (chars : List Char) : Value :=
  ofTrimmed (Text.trimChars chars)

/-- Reads a value from a text. -/
def parse (text : String) : Value :=
  ofChars text.toList

/-- The characters of a value in the syntax of the solver. -/
def chars : Value → List Char
  | .int number => (Text.decimalInt number).toList
  | .sym term => term.toList
  | .str content => '"' :: content.toList.flatMap escapeChar ++ ['"']

/-- A value in the syntax of the solver. -/
def display (value : Value) : String :=
  String.ofList value.chars

/-- The number an integer value holds. -/
def asInt? : Value → Option Int
  | .int number => some number
  | _ => none

/-- The text under which the label of a value is looked up: strings are looked up by their content,
so that a quoted and an unquoted name have one label. -/
def key : Value → String
  | .int number => Text.decimalInt number
  | .sym term => term
  | .str content => content

/-- A value as JSON.  Strings keep their quotes there, which tells them from symbolic terms. -/
def toJson : Value → Json
  | .int number => .integer number
  | other => .string other.display

end Value

end CollectiveChoice

import CollectiveChoice.Order.SortedMap
import CollectiveChoice.Text.Numeral

/-!
# JSON values and their compact text

A value is written without blanks.  Inside strings only the quote, the backslash and the control
characters below the space are escaped, every other character stands for itself, so a value has
exactly one text and that text determines the value.

Members of an object keep the order in which they were put in; `sorted` brings the members of every
object into key order, of two members with one key keeping the later one.
-/

namespace CollectiveChoice

set_option autoImplicit false

/-- A JSON value.  Numbers that are not plain integers are kept as a significand scaled by a power
of ten. -/
inductive Json where
  | null
  | bool (value : Bool)
  | integer (value : Int)
  | decimal (significand exponent : Int)
  | string (text : String)
  | array (items : List Json)
  | object (members : List (String × Json))
deriving Inhabited

namespace Json

/-! ## Writing -/

/-- How one character is written inside a string. -/
def stringChar (c : Char) : List Char :=
  match c with
  | '"' => ['\\', '"']
  | '\\' => ['\\', '\\']
  | '\x08' => ['\\', 'b']
  | '\x0c' => ['\\', 'f']
  | '\n' => ['\\', 'n']
  | '\r' => ['\\', 'r']
  | '\t' => ['\\', 't']
  | c =>
    if c.toNat < 0x20 then
      ['\\', 'u', '0', '0', Nat.digitChar (c.toNat / 16), Nat.digitChar (c.toNat % 16)]
    else [c]

/-- The text of a string, in quotes. -/
def stringChars (text : String) : List Char :=
  '"' :: text.toList.flatMap stringChar ++ ['"']

mutual

/-- The characters of the compact text of a value. -/
def chars : Json → List Char
  | .null => ['n', 'u', 'l', 'l']
  | .bool true => ['t', 'r', 'u', 'e']
  | .bool false => ['f', 'a', 'l', 's', 'e']
  | .integer value => (Text.decimalInt value).toList
  | .decimal significand exponent =>
    (Text.decimalInt significand).toList ++ 'e' :: (Text.decimalInt exponent).toList
  | .string text => stringChars text
  | .array items => '[' :: itemsChars items ++ [']']
  | .object members => '\x7b' :: membersChars members ++ ['\x7d']

/-- The items of an array, with commas between them. -/
def itemsChars : List Json → List Char
  | [] => []
  | [item] => chars item
  | item :: next :: rest => chars item ++ ',' :: itemsChars (next :: rest)

/-- The members of an object, with commas between them. -/
def membersChars : List (String × Json) → List Char
  | [] => []
  | [(key, value)] => stringChars key ++ ':' :: chars value
  | (key, value) :: next :: rest =>
    stringChars key ++ ':' :: (chars value ++ ',' :: membersChars (next :: rest))

end

/-- The compact text of a value. -/
def write (value : Json) : String :=
  String.ofList value.chars

/-- The array of strings. -/
def strings (texts : List String) : Json :=
  .array (texts.map Json.string)

/-- The value or null. -/
def orNull {α : Type} (image : α → Json) : Option α → Json
  | none => .null
  | some value => image value

/-! ## Sorting members -/

mutual

/-- The value with the members of every object in key order, without repeated keys. -/
def sorted : Json → Json
  | .array items => .array (sortedItems items)
  | .object members => .object (SortedMap.ofList (sortedMembers members)).toList
  | other => other

/-- The items of an array, each with its members in key order. -/
def sortedItems : List Json → List Json
  | [] => []
  | item :: rest => sorted item :: sortedItems rest

/-- The members of an object, each value with its members in key order. -/
def sortedMembers : List (String × Json) → List (String × Json)
  | [] => []
  | (key, value) :: rest => (key, sorted value) :: sortedMembers rest

end

end Json

end CollectiveChoice

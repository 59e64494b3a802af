import CollectiveChoice.Json.Basic
import CollectiveChoice.Json.Magnitude

/-!
# What a JSON text holds, defects included

A text is read into a draft, which keeps everything seen up to the first place at which the text
stops being JSON and marks that place.  A draft is what values are decoded from: the decoding walks
it in the order of the text, so of several faults the first one in the text is the one reported,
whether it is a defect of the text or a value that does not fit.

Two defects concern a part only.  A string that holds half of a surrogate pair denotes no text, and
a number can be too large; both are faults where the part is used and are passed over where it is
not.
-/

namespace CollectiveChoice

set_option autoImplicit false

/-- The content of a JSON text, up to the first place where it stops being well formed. -/
inductive Draft where
  | null
  | bool (value : Bool)
  | integer (value : Int)
  | decimal (significand exponent : Int)
  | text (content : String)
  /-- A string with half of a surrogate pair, which denotes no text. -/
  | halfPair
  | list (items : List Draft)
  /-- An object; a key that denotes no text is absent. -/
  | record (members : List (Option String × Draft))
  /-- The place where the text stops being well formed. -/
  | broken

namespace Draft

/-! ## The draft of a value -/

mutual

/-- The draft read from the text of a value. -/
def ofJson : Json → Draft
  | .null => .null
  | .bool value => .bool value
  | .integer value => .integer value
  | .decimal significand exponent => .decimal significand exponent
  | .string content => .text content
  | .array items => .list (ofItems items)
  | .object members => .record (ofMembers members)

/-- The drafts of the items of an array. -/
def ofItems : List Json → List Draft
  | [] => []
  | item :: rest => ofJson item :: ofItems rest

/-- The drafts of the members of an object. -/
def ofMembers : List (String × Json) → List (Option String × Draft)
  | [] => []
  | (key, value) :: rest => (some key, ofJson value) :: ofMembers rest

end

theorem ofJson_object (members : List (String × Json)) :
    ofJson (.object members) = .record (ofMembers members) := rfl

theorem ofItems_cons (item : Json) (rest : List Json) :
    ofItems (item :: rest) = ofJson item :: ofItems rest := rfl

theorem ofMembers_cons (key : String) (value : Json) (rest : List (String × Json)) :
    ofMembers ((key, value) :: rest) = (some key, ofJson value) :: ofMembers rest := rfl

/-! ## Passing over a part -/

mutual

/-- Whether a part can be passed over: it holds no place where the text stops being well formed. -/
def skippable : Draft → Bool
  | .broken => false
  | .list items => skippableItems items
  | .record members => skippableMembers members
  | _ => true

/-- Whether all items can be passed over. -/
def skippableItems : List Draft → Bool
  | [] => true
  | item :: rest => skippable item && skippableItems rest

/-- Whether the values of all members can be passed over. -/
def skippableMembers : List (Option String × Draft) → Bool
  | [] => true
  | (_, value) :: rest => skippable value && skippableMembers rest

end

/-! ## Building a value -/

/-- Whether an integer is within the range of numbers. -/
def isFiniteInteger (value : Int) : Bool :=
  let (significand, exponent) := Magnitude.kept (Nat.toDigits 10 value.natAbs) []
  Magnitude.isFinite significand exponent

mutual

/-- The value a draft stands for, unless it has a defect or nests arrays and objects deeper than
the room left. -/
def value? (room : Nat) : Draft → Option Json
  | .null => some .null
  | .bool value => some (.bool value)
  | .integer value => if isFiniteInteger value then some (.integer value) else none
  | .decimal significand exponent =>
    if Magnitude.isFinite significand.natAbs exponent then some (.decimal significand exponent)
    else none
  | .text content => some (.string content)
  | .halfPair => none
  | .list items =>
    match room with
    | 0 => none
    | inner + 1 => (valueItems? inner items).map Json.array
  | .record members =>
    match room with
    | 0 => none
    | inner + 1 => (valueMembers? inner members).map Json.object
  | .broken => none

/-- The values of the items of an array. -/
def valueItems? (room : Nat) : List Draft → Option (List Json)
  | [] => some []
  | item :: rest =>
    match value? room item, valueItems? room rest with
    | some value, some values => some (value :: values)
    | _, _ => none

/-- The values of the members of an object. -/
def valueMembers? (room : Nat) : List (Option String × Draft) → Option (List (String × Json))
  | [] => some []
  | (key, item) :: rest =>
    match key, value? room item, valueMembers? room rest with
    | some name, some value, some values => some ((name, value) :: values)
    | _, _, _ => none

end

end Draft

end CollectiveChoice

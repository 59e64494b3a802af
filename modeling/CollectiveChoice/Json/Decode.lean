import CollectiveChoice.Json.Reader

/-!
# Decoding drafts

Decoders turn a draft into a value of the domain.  They walk the draft in the order of the text and
stop at the first fault.  Most faults are alike, the text is simply not what was expected; a fault
of the domain carries its cause.

A structure is decoded from an object, in which unknown members are passed over and a repeated
member is a fault, or from an array that lists the members in the order of their declaration and
may stop early.
-/

namespace CollectiveChoice

set_option autoImplicit false

/-- Why a draft could not be decoded. -/
inductive Fault (ε : Type) where
  /-- The text is not JSON, or holds another kind of value than expected. -/
  | malformed
  /-- A name that is none of the listed ones. -/
  | unknownName (name : String)
  | refused (cause : ε)
deriving Repr, DecidableEq

namespace Draft

variable {ε α : Type}

/-! ## Scalars -/

/-- Decodes a text. -/
def string : Draft → Except (Fault ε) String
  | .text content => .ok content
  | _ => .error .malformed

/-- Decodes a truth value. -/
def flag : Draft → Except (Fault ε) Bool
  | .bool value => .ok value
  | _ => .error .malformed

/-- Decodes a natural number below a bound. -/
def natBelow (bound : Nat) : Draft → Except (Fault ε) Nat
  | .integer value =>
    if 0 ≤ value ∧ value < bound then .ok value.toNat else .error .malformed
  | _ => .error .malformed

/-- Decodes a natural number that fits a word of 64 bits. -/
def word64 : Draft → Except (Fault ε) Nat :=
  natBelow 18446744073709551616

/-- Decodes a natural number that fits a word of 32 bits. -/
def word32 : Draft → Except (Fault ε) Nat :=
  natBelow 4294967296

/-- Decodes an integer that fits a signed word of 64 bits. -/
def int64 : Draft → Except (Fault ε) Int
  | .integer value => if Text.isInt64 value then .ok value else .error .malformed
  | _ => .error .malformed

/-- Decodes a value that may be absent, which null says. -/
def optional (decode : Draft → Except (Fault ε) α) : Draft → Except (Fault ε) (Option α)
  | .null => .ok none
  | draft => (decode draft).map some

/-! ## Names -/

/-- The value a name stands for. -/
def named (names : List (String × α)) (name : String) : Except (Fault ε) α :=
  match names.lookup name with
  | some value => .ok value
  | none => .error (.unknownName name)

/-- Decodes one of several names, written as a text or as an object whose only member has the name
as key and null as value. -/
def name (names : List (String × α)) : Draft → Except (Fault ε) α
  | .text content => named names content
  | .record ((some key, value) :: rest) => do
    let result ← named names key
    match value, rest with
    | .null, [] => .ok result
    | _, _ => .error .malformed
  | _ => .error .malformed

/-! ## Lists and maps -/

/-- Decodes every item in turn. -/
def items (decode : Draft → Except (Fault ε) α) : List Draft → Except (Fault ε) (List α)
  | [] => .ok []
  | item :: rest => do
    let value ← decode item
    let values ← items decode rest
    return value :: values

/-- Decodes an array. -/
def array (decode : Draft → Except (Fault ε) α) : Draft → Except (Fault ε) (List α)
  | .list drafts => items decode drafts
  | _ => .error .malformed

/-- Decodes the members of an object into a map; of two members with one key the later counts. -/
def entries (decode : Draft → Except (Fault ε) α) :
    List (Option String × Draft) → SortedMap String α → Except (Fault ε) (SortedMap String α)
  | [], found => .ok found
  | (none, _) :: _, _ => .error .malformed
  | (some key, draft) :: rest, found => do
    let value ← decode draft
    entries decode rest (found.insert key value)

/-- Decodes an object as a map. -/
def mapping (decode : Draft → Except (Fault ε) α) : Draft → Except (Fault ε) (SortedMap String α)
  | .record members => entries decode members .empty
  | _ => .error .malformed

/-! ## Structures -/

/-- A member of a structure: how it is spelled and what its value changes. -/
structure Member (ε α : Type) where
  /-- The key under which the member is written. -/
  key : String
  /-- Other keys under which it is read. -/
  aliases : List String
  /-- Decodes the value of the member into the structure. -/
  set : Draft → α → Except (Fault ε) α

namespace Member

variable {β : Type}

/-- A member with one spelling, decoded on its own and stored by a function. -/
def of (key : String) (decode : Draft → Except (Fault ε) β) (store : β → α → α) :
    Member ε α where
  key := key
  aliases := []
  set draft structured := (decode draft).map fun value => store value structured

/-- The member with one more spelling. -/
def orKey (member : Member ε α) (spelling : String) : Member ε α :=
  { member with aliases := spelling :: member.aliases }

/-- Whether a key spells the member. -/
def isSpelled (member : Member ε α) (key : String) : Bool :=
  key == member.key || member.aliases.contains key

end Member

/-- Decodes the members of an object into a structure, given the keys of the members seen. -/
def setByKey (members : List (Member ε α)) :
    List (Option String × Draft) → List String → α → Except (Fault ε) α
  | [], _, structured => .ok structured
  | (none, _) :: _, _, _ => .error .malformed
  | (some key, draft) :: rest, seen, structured =>
    match members.find? (·.isSpelled key) with
    | none => if draft.skippable then setByKey members rest seen structured else .error .malformed
    | some member =>
      if seen.contains member.key then .error .malformed
      else do
        let structured ← member.set draft structured
        setByKey members rest (member.key :: seen) structured

/-- Decodes the items of an array into a structure, in the order of its members. -/
def setByPosition : List (Member ε α) → List Draft → α → Except (Fault ε) α
  | _, [], structured => .ok structured
  | [], _ :: _, _ => .error .malformed
  | member :: members, draft :: rest, structured => do
    let structured ← member.set draft structured
    setByPosition members rest structured

/-- Decodes a structure, given what it is before any member is read. -/
def assemble (members : List (Member ε α)) (start : α) : Draft → Except (Fault ε) α
  | .record fields => setByKey members fields [] start
  | .list drafts => setByPosition members drafts start
  | _ => .error .malformed

/-! ## Documents -/

/-- Decodes a whole text. -/
def Document.decode (document : Document) (decode : Draft → Except (Fault ε) α) :
    Except (Fault ε) α := do
  let value ← decode document.root
  if document.complete then .ok value else .error .malformed

end Draft

end CollectiveChoice

import CollectiveChoice.Json.Decode
import CollectiveChoice.Page.Association

/-!
# Reading parts of a configuration

Many parts of a configuration have several forms: a list may be a text of words, an item may be its
id alone, a plugin may be its kind alone.  Such a part is first built as a value as a whole and then
matched against its forms, so a defect anywhere in it counts before any other fault.
-/

namespace CollectiveChoice

set_option autoImplicit false

/-- What a configuration says that cannot be understood. -/
inductive ConfigurationFault where
  /-- A text that is no template. -/
  | template (error : TemplateError)
  /-- A name that is no cardinality. -/
  | cardinality (name : String)
  /-- A name that is no default selection. -/
  | defaultSelection (name : String)
  /-- A name that is no axis. -/
  | axis (name : String)
  /-- A list of labels without labels. -/
  | noAxisLabels
  /-- A text that is no source of pairs. -/
  | source (error : SourceError)
deriving DecidableEq, Repr

/-- The message of a fault. -/
def ConfigurationFault.message : ConfigurationFault → String
  | .template error => error.message
  | .cardinality name =>
    "unknown cardinality " ++ Text.quoted name ++ "; expected one of 'any', 'multiple', " ++
      "'at least 1', 'at most 1', 'exactly 1', 'single' or \x7bmin, max\x7d"
  | .defaultSelection name =>
    "unknown default " ++ Text.quoted name ++ "; expected 'all', 'none' or a list of ids"
  | .axis name =>
    "unknown axis " ++ Text.quoted name ++
      "; expected 'user', 'choice', 'raw' or a list of labels"
  | .noAxisLabels => "axis label list is empty"
  | .source error => error.message

/-- The message of a fault of reading, where there is one. -/
def Fault.message? : Fault ConfigurationFault → Option String
  | .malformed => none
  | .unknownName name => some ("unknown variant \x60" ++ name ++ "\x60")
  | .refused cause => some cause.message

namespace Reading

/-- The outcome of reading a part of a configuration. -/
abbrev Result (α : Type) := Except (Fault ConfigurationFault) α

/-- Reads a part that has several forms, given how deep it may nest. -/
def forms {α : Type} (room : Nat) (read : Json → Result α) (draft : Draft) : Result α :=
  match draft.value? room with
  | some value => read value
  | none => .error .malformed

/-- The texts of a list that holds nothing else. -/
def texts? : List Json → Option (List String)
  | [] => some []
  | .string text :: rest => (texts? rest).map (text :: ·)
  | _ :: _ => none

/-- Words in one text, or a list of texts. -/
def words : Json → Result (List String)
  | .string text => .ok (Text.words text)
  | .array items =>
    match texts? items with
    | some texts => .ok texts
    | none => .error .malformed
  | _ => .error .malformed

/-- One template. -/
def template (source : String) : Result Template :=
  match Template.parse source with
  | .ok template => .ok template
  | .error error => .error (.refused (.template error))

/-- A template in a draft. -/
def templateText (draft : Draft) : Result Template := do
  let source ← draft.string
  template source

/-- Templates, one after the other. -/
def templateList : List String → Result (List Template)
  | [] => .ok []
  | source :: rest => do
    let first ← template source
    let others ← templateList rest
    return first :: others

/-- Templates in one text of words, or in a list of texts. -/
def templates (value : Json) : Result (List Template) := do
  let sources ← words value
  templateList sources

/-- A text, or an integer as its text. -/
def scalar? : Json → Option String
  | .string text => some text
  | .integer number => if Text.isInt64 number then some (Text.decimalInt number) else none
  | _ => none

/-- A text, or an integer as its text. -/
def scalar (value : Json) : Result String :=
  match scalar? value with
  | some text => .ok text
  | none => .error .malformed

/-- The scalars of a list that holds nothing else. -/
def scalars? : List Json → Option (List String)
  | [] => some []
  | item :: rest =>
    match scalar? item, scalars? rest with
    | some text, some texts => some (text :: texts)
    | _, _ => none

/-- A list of texts. -/
def textList : Draft → Result (List String) :=
  Draft.array Draft.string

/-- A word of 64 bits. -/
def word64 (draft : Draft) : Result UInt64 :=
  draft.word64.map UInt64.ofNat

/-- A word of 32 bits. -/
def word32 (draft : Draft) : Result UInt32 :=
  draft.word32.map UInt32.ofNat

end Reading

end CollectiveChoice

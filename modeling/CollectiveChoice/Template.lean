import CollectiveChoice.Text.Blank
import CollectiveChoice.Text.Numeral
import CollectiveChoice.Text.Quoted

/-!
# Templates with named placeholders

A template is literal text with placeholders: a name between single braces.  Doubled braces stand
for literal ones.  Nothing else is interpreted, and rendering only puts in the values that are
looked up by name.

A template carries the segments its text was read into together with the evidence that they are the
reading of that text, so the two can never disagree.
-/

namespace CollectiveChoice

set_option autoImplicit false

/-! ## Segments -/

/-- A part of a template. -/
inductive Segment where
  | literal (chars : List Char)
  | placeholder (name : String)
deriving DecidableEq, Repr

/-- The first offence in a text that is no template.  Positions count bytes. -/
inductive TemplateFault where
  /-- An opening brace without a closing one. -/
  | unclosed (position : Nat)
  /-- A closing brace without an opening one. -/
  | unmatched (position : Nat)
  /-- A name between braces that is no identifier. -/
  | invalidName (name : String)
deriving DecidableEq, Repr

namespace Template

/-- Whether a character may start an identifier. -/
def startsName (c : Char) : Bool :=
  c.isAlpha || c == '_'

/-- Whether a character may continue an identifier. -/
def continuesName (c : Char) : Bool :=
  c.isAlpha || c.isDigit || c == '_'

/-- Whether a name is an identifier over ASCII letters, digits and the underscore. -/
def isIdentifier : List Char → Bool
  | [] => false
  | c :: rest => startsName c && rest.all continuesName

/-- Puts a literal character in front of segments. -/
def growLiteral (c : Char) : List Segment → List Segment
  | .literal chars :: rest => .literal (c :: chars) :: rest
  | segments => .literal [c] :: segments

mutual

/-- Reads the segments of a text, given the position of its first character. -/
def readSegments (position : Nat) : List Char → Except TemplateFault (List Segment)
  | [] => .ok []
  | '\x7b' :: '\x7b' :: rest => (readSegments (position + 2) rest).map (growLiteral '\x7b')
  | '\x7d' :: '\x7d' :: rest => (readSegments (position + 2) rest).map (growLiteral '\x7d')
  | '\x7b' :: rest => readName position [] (position + 1) rest
  | '\x7d' :: _ => .error (.unmatched position)
  | c :: rest => (readSegments (position + c.utf8Size) rest).map (growLiteral c)
termination_by structural chars => chars

/-- Reads a name up to its closing brace, given the position of the opening one and the characters
seen since, last first. -/
def readName (start : Nat) (seen : List Char) (position : Nat) :
    List Char → Except TemplateFault (List Segment)
  | [] => .error (.unclosed start)
  | '\x7d' :: rest =>
    let name := seen.reverse
    if isIdentifier name then
      (readSegments (position + 1) rest).map (.placeholder (String.ofList name) :: ·)
    else .error (.invalidName (String.ofList name))
  | c :: rest => readName start (c :: seen) (position + c.utf8Size) rest
termination_by structural chars => chars

end

end Template

/-! ## Templates -/

/-- A text together with the segments it is read into. -/
structure Template where
  source : String
  segments : List Segment
  /-- The segments are the reading of the text. -/
  reads : Template.readSegments 0 source.toList = .ok segments

/-- Why a text is no template. -/
structure TemplateError where
  template : String
  fault : TemplateFault
deriving DecidableEq, Repr

/-- The message of an error. -/
def TemplateError.message (error : TemplateError) : String :=
  let template := Text.quoted error.template
  match error.fault with
  | .unclosed position =>
    "unclosed '\x7b' at byte " ++ Text.decimalNat position ++ " in template " ++ template
  | .unmatched position =>
    "unmatched '\x7d' at byte " ++ Text.decimalNat position ++ " in template " ++ template
  | .invalidName name =>
    "invalid placeholder name " ++ Text.quoted name ++ " in template " ++ template

namespace Template

/-- Templates with the same text are equal. -/
theorem ext_source {left right : Template} (same : left.source = right.source) : left = right := by
  obtain ⟨source, segments, reads⟩ := left
  obtain ⟨source', segments', reads'⟩ := right
  cases same
  have equal : segments = segments' := Except.ok.inj (reads.symm.trans reads')
  cases equal
  rfl

instance : DecidableEq Template := fun left right =>
  if same : left.source = right.source then
    isTrue (ext_source same)
  else
    isFalse fun equal => same (congrArg Template.source equal)

/-- The template without text. -/
def blank : Template where
  source := ""
  segments := []
  reads := by rfl

instance : Inhabited Template where
  default := blank

/-- Reads a template. -/
def parse (source : String) : Except TemplateError Template :=
  match reads : readSegments 0 source.toList with
  | .ok segments => .ok ⟨source, segments, reads⟩
  | .error fault => .error ⟨source, fault⟩

/-- The text of a template is read as that template. -/
theorem parse_source (template : Template) : parse template.source = .ok template := by
  obtain ⟨source, segments, reads⟩ := template
  unfold parse
  split
  · rename_i found
    cases found.symm.trans reads
    rfl
  · rename_i found
    cases found.symm.trans reads

/-- The names of the placeholders in order of appearance, with repetitions. -/
def placeholders (template : Template) : List String :=
  template.segments.filterMap fun
    | .placeholder name => some name
    | .literal _ => none

/-- Whether a template has a placeholder of a name. -/
def references (template : Template) (name : String) : Bool :=
  template.placeholders.contains name

/-- The first placeholder that is none of the allowed ones. -/
def unknownPlaceholder? (template : Template) (allowed : List String) : Option String :=
  template.placeholders.find? fun name => !allowed.contains name

/-- The characters a segment is rendered to; a name without a value is rendered to nothing. -/
def segmentChars (lookup : String → Option String) : Segment → List Char
  | .literal chars => chars
  | .placeholder name =>
    match lookup name with
    | some value => value.toList
    | none => []

/-- The text of a template with its placeholders replaced. -/
def render (template : Template) (lookup : String → Option String) : String :=
  String.ofList (template.segments.flatMap (segmentChars lookup))

end Template

end CollectiveChoice

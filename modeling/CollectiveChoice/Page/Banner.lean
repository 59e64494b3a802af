import CollectiveChoice.Page.Context
import CollectiveChoice.Template
import CollectiveChoice.Text.Markup

/-!
# Fragments from templates

Free text with placeholders may stand anywhere on a page.  The banner of a model shows its place and
its id; each of the two parts has a layout of its own.  All values are put in as text, they cannot
add markup.
-/

namespace CollectiveChoice

set_option autoImplicit false

/-- Why the options of a fragment are refused: a template with a placeholder that has no value. -/
inductive OptionError where
  /-- A placeholder in the template of an option. -/
  | placeholder (option name : String)
  | textPlaceholder (name source : String) (available : List String)
deriving DecidableEq, Repr

/-- The message of an error. -/
def OptionError.message : OptionError → String
  | .placeholder option name => option ++ ": unknown placeholder \x7b" ++ name ++ "\x7d"
  | .textPlaceholder name source available =>
    "unknown placeholder \x7b" ++ name ++ "\x7d in " ++ Text.quoted source ++ "; available: " ++
      ", ".intercalate available

/-- Checks that the template of an option has no other placeholders than the allowed ones. -/
def checkTemplate (option : String) (template : Template) (allowed : List String) :
    Except OptionError Unit :=
  match template.unknownPlaceholder? allowed with
  | none => .ok ()
  | some name => .error (.placeholder option name)

/-- The look-up that knows one name. -/
def singleValue (known value : String) : String → Option String := fun name =>
  if name = known then some value else none

/-! ## Free text -/

/-- Free text with placeholders. -/
structure TextFragment where
  text : Template
deriving DecidableEq

namespace TextFragment

/-- Text without content. -/
def standard : TextFragment where
  text := .blank

/-- The placeholders free text may use.  The first three have a value only where a model is
shown. -/
def placeholders : List String :=
  ["idx", "uid", "atom_count", "nb_models", "runtime", "runtime_repr", "compilation_runtime",
    "compilation_runtime_repr", "common_atoms"]

/-- The value of a placeholder. -/
def value (view : Option ModelView) (context : PageContext) (name : String) : Option String :=
  let statistics := context.statistics
  match name with
  | "idx" => view.map fun view => Text.decimalNat view.index
  | "uid" => view.map fun view => view.model.id
  | "atom_count" => view.map fun view => Text.decimalNat view.model.atoms.size
  | "nb_models" => some (Text.decimalNat statistics.modelCount)
  | "runtime" => some (Number.fixed 3 statistics.runtime.inSeconds)
  | "compilation_runtime" => some (Number.fixed 3 statistics.runtime.inSeconds)
  | "runtime_repr" => some statistics.runtime.display
  | "compilation_runtime_repr" => some statistics.runtime.display
  | "common_atoms" => some statistics.commonFacts
  | _ => none

/-- The text with its placeholders replaced. -/
def render (fragment : TextFragment) (view : Option ModelView) (context : PageContext) : String :=
  fragment.text.render fun name => (value view context name).map Text.escapeMarkup

/-- Checks the placeholders. -/
def check (fragment : TextFragment) : Except OptionError Unit :=
  match fragment.text.unknownPlaceholder? placeholders with
  | none => .ok ()
  | some name => .error (.textPlaceholder name fragment.text.source placeholders)

end TextFragment

/-! ## Banners -/

/-- The banner of a model. -/
structure Banner where
  index : Bool
  uid : Bool
  /-- The layout of the banner, with placeholders `idx_repr` and `uid_repr`. -/
  titleStyle : Template
  /-- The layout of the id, with placeholder `uid`. -/
  uidStyle : Template
deriving DecidableEq

namespace Banner

/-- The layout of the banner unless another one is given. -/
def standardTitle : Template where
  source := "<br/><h2>Solution\x7bidx_repr\x7d</h2>\x7buid_repr\x7d<br/>"
  segments := [
    .literal ['<', 'b', 'r', '/', '>', '<', 'h', '2', '>', 'S', 'o', 'l', 'u', 't', 'i', 'o', 'n'],
    .placeholder "idx_repr", .literal ['<', '/', 'h', '2', '>'], .placeholder "uid_repr",
    .literal ['<', 'b', 'r', '/', '>']]
  reads := by rfl

/-- The layout of the id unless another one is given. -/
def standardUid : Template where
  source := "<b>— \x7buid\x7d —</b><br/><br/>"
  segments := [
    .literal ['<', 'b', '>', '—', ' '], .placeholder "uid",
    .literal [' ', '—', '<', '/', 'b', '>', '<', 'b', 'r', '/', '>', '<', 'b', 'r', '/', '>']]
  reads := by rfl

/-- The banner with place and id. -/
def standard : Banner where
  index := true
  uid := true
  titleStyle := standardTitle
  uidStyle := standardUid

/-- The banner of a model. -/
def onModel (banner : Banner) (view : ModelView) : String :=
  let uid :=
    if banner.uid then
      banner.uidStyle.render (singleValue "uid" (Text.escapeMarkup view.model.id))
    else ""
  let index := if banner.index then " " ++ Text.decimalNat view.index else ""
  banner.titleStyle.render fun name =>
    if name = "idx_repr" then some index
    else if name = "uid_repr" then some uid
    else none

/-- Checks the placeholders. -/
def check (banner : Banner) : Except OptionError Unit := do
  checkTemplate "title_style" banner.titleStyle ["idx_repr", "uid_repr"]
  checkTemplate "uid_style" banner.uidStyle ["uid"]

end Banner

end CollectiveChoice

import CollectiveChoice.Page.Association
import CollectiveChoice.Page.Counts
import CollectiveChoice.Page.Facts
import CollectiveChoice.Page.Front

/-!
# Plugins and rendering

A page is configured as six chains of plugins: for the header, for the footer, and four that are
run in turn for each model.  A plugin contributes a fragment to each place it knows and nothing to
the others.
-/

namespace CollectiveChoice

set_option autoImplicit false

/-- A configured fragment. -/
inductive Plugin where
  | text (fragment : TextFragment)
  | title (banner : Banner)
  | table (association : AssociationTable)
  | raw (listing : FactListing)
  | stats (report : CountReport)
  | clipboard (button : CopyButton)
  | front (report : FrontReport)
deriving DecidableEq

namespace Plugin

/-- The name of the kind of a plugin. -/
def kind : Plugin → String
  | .text _ => "text"
  | .title _ => "title"
  | .table _ => "table/2"
  | .raw _ => "raw"
  | .stats _ => "stats"
  | .clipboard _ => "clipboard"
  | .front report => if report.z.isSome then "pareto front 3D" else "pareto front"

/-- Checks the options of a plugin. -/
def check : Plugin → Except OptionError Unit
  | .text fragment => fragment.check
  | .title banner => banner.check
  | .table association => association.check
  | .front report => report.check
  | .raw _ => .ok ()
  | .stats _ => .ok ()
  | .clipboard _ => .ok ()

/-- The fragment for the header. -/
def onHeader (plugin : Plugin) (context : PageContext) : String :=
  match plugin with
  | .text fragment => fragment.render none context
  | .stats report => report.render context
  | .front report => report.onHeader context
  | _ => ""

/-- The fragment for the footer. -/
def onFooter (plugin : Plugin) (context : PageContext) : String :=
  match plugin with
  | .text fragment => fragment.render none context
  | .stats report => report.render context
  | .front report => report.onFooter context
  | _ => ""

/-- The fragment for a model. -/
def onModel (plugin : Plugin) (view : ModelView) (context : PageContext) : String :=
  match plugin with
  | .text fragment => fragment.render (some view) context
  | .title banner => banner.onModel view
  | .table association => association.onModel view context
  | .raw listing => listing.onModel view
  | .stats _ => ""
  | .clipboard button => button.onModel view
  | .front report => report.onModel view context

end Plugin

/-! ## Pages -/

/-- The chains of a page. -/
structure PageLayout where
  header : List Plugin
  footer : List Plugin
  modelHeader : List Plugin
  modelBody : List Plugin
  /-- What is appended to the body of each model. -/
  inline : List Plugin
  modelFooter : List Plugin
  /-- What the header says when there is no model. -/
  unsatMessage : String
deriving DecidableEq

/-- The fragments of a page. -/
structure Rendering where
  header : String
  footer : String
  models : List String
deriving DecidableEq, Repr, Inhabited

namespace PageLayout

/-- The chains that are run for each model, in order. -/
def modelChain (layout : PageLayout) : List Plugin :=
  layout.modelHeader ++ layout.modelBody ++ layout.inline ++ layout.modelFooter

/-- All plugins, chain by chain. -/
def plugins (layout : PageLayout) : List Plugin :=
  layout.header ++ layout.footer ++ layout.modelChain

/-- The fragment of one model. -/
def renderModel (layout : PageLayout) (context : PageContext) (view : ModelView) : String :=
  String.join (layout.modelChain.map fun plugin => plugin.onModel view context)

/-- All fragments of a page. -/
def render (layout : PageLayout) (context : PageContext) : Rendering where
  header :=
    String.join (layout.header.map fun plugin => plugin.onHeader context) ++
      (if context.models.isEmpty then layout.unsatMessage else "")
  footer := String.join (layout.footer.map fun plugin => plugin.onFooter context)
  models := context.models.mapIdx fun place model =>
    layout.renderModel context ⟨place + 1, model⟩

end PageLayout

end CollectiveChoice

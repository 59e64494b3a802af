import CollectiveChoice.Proofs.Configuration.RoundTrip
import CollectiveChoice.Proofs.Encoding.Filling

/-!
# No placeholder of a page is left empty

Plugins render templates of their own: free text, the two layouts of a banner, the layout of a
caption and the title of a front.  They are filled with care here, like the templates of a program,
so that a page is refused as soon as one of them has a placeholder without a value (`render?`).

One exception is made, and it is made exactly: where no model is shown, the place, the id and the
number of atoms of a model have no value in free text, and all other placeholders have one
(`TextFragment.unavailable`).

If a configuration is read from a text, neither its programs nor its pages are ever refused, and
they are what they are without care (`Configuration.filled_of_parse`).
-/

namespace CollectiveChoice

set_option autoImplicit false

/-! ## What the check of a template ensures -/

theorem checkTemplate_eq_ok_iff {option : String} {template : Template} {allowed : List String} :
    checkTemplate option template allowed = .ok () ↔ template.placeholders ⊆ allowed := by
  rw [checkTemplate, ← Template.unknownPlaceholder?_eq_none_iff]
  cases template.unknownPlaceholder? allowed <;> simp

theorem isSome_singleValue (known value : String) :
    ∀ name ∈ [known], (singleValue known value name).isSome = true := by
  simp [singleValue]

/-! ## Free text -/

namespace TextFragment

theorem check_eq_ok_iff {fragment : TextFragment} :
    fragment.check = .ok () ↔ fragment.text.placeholders ⊆ placeholders := by
  rw [check, ← Template.unknownPlaceholder?_eq_none_iff]
  cases fragment.text.unknownPlaceholder? placeholders <;> simp

/-- The placeholders that have no value, which is so where no model is shown. -/
def unavailable : Option ModelView → List String
  | none => ["idx", "uid", "atom_count"]
  | some _ => []

/-- Free text, filled with care. -/
def fill? (fragment : TextFragment) (view : Option ModelView) (context : PageContext) :
    Option String :=
  fragment.text.fill? (unavailable view) fun name =>
    (value view context name).map Text.escapeMarkup

/-- The placeholders of free text have a value, apart from those that need a model. -/
theorem isSome_value_iff (view : Option ModelView) (context : PageContext) :
    ∀ name ∈ placeholders,
      (value view context name).isSome = true ↔ name ∉ unavailable view := by
  cases view <;> simp [placeholders, value, unavailable]

theorem fill?_eq_some {fragment : TextFragment} (checked : fragment.check = .ok ())
    (view : Option ModelView) (context : PageContext) :
    fragment.fill? view context = some (fragment.render view context) := by
  refine Template.fill?_eq_some_iff.mpr ⟨?_, rfl⟩
  intro name inside
  rw [Option.isSome_map]
  exact isSome_value_iff view context name (check_eq_ok_iff.mp checked inside)

end TextFragment

/-! ## Banners -/

namespace Banner

/-- The id in the banner, filled with care. -/
def showUid? (banner : Banner) (view : ModelView) : Option String :=
  if banner.uid then
    banner.uidStyle.fill? [] (singleValue "uid" (Text.escapeMarkup view.model.id))
  else some ""

/-- The banner of a model, filled with care. -/
def onModel? (banner : Banner) (view : ModelView) : Option String := do
  let uid ← banner.showUid? view
  let index := if banner.index then " " ++ Text.decimalNat view.index else ""
  banner.titleStyle.fill? [] fun name =>
    if name = "idx_repr" then some index
    else if name = "uid_repr" then some uid
    else none

theorem onModel?_eq_some {banner : Banner} (checked : banner.check = .ok ()) (view : ModelView) :
    banner.onModel? view = some (banner.onModel view) := by
  obtain ⟨title, uid⟩ := check_bind_eq_ok_iff.mp checked
  rw [checkTemplate_eq_ok_iff] at title uid
  have shown : banner.showUid? view = some (if banner.uid then
      banner.uidStyle.render (singleValue "uid" (Text.escapeMarkup view.model.id)) else "") := by
    rw [showUid?, Template.fill?_eq_some_of_subset uid (isSome_singleValue "uid" _)]
    exact (apply_ite some _ _ _).symm
  rw [onModel?, shown, Option.bind_eq_bind, Option.bind_some]
  apply Template.fill?_eq_some_of_subset title
  simp

end Banner

/-! ## Captions -/

namespace AssociationTable

/-- The caption under the table, filled with care. -/
def showCaption? (table : AssociationTable) : Option String :=
  if table.caption.isEmpty then some ""
  else table.captionStyle.fill? [] (singleValue "caption" (Text.escapeMarkup table.caption))

/-- A relation as a table, filled with care. -/
def showTable? (table : AssociationTable) (relation : Relation) (labels : Labels) :
    Option String := do
  let caption ← table.showCaption?
  return String.join [
    "<table> <tr>\n  <td></td>\n",
    String.join (relation.columns.toList.mapIdx (table.heading labels)), " </tr>\n",
    String.join (relation.rows.toList.mapIdx (table.line relation labels)), "</table>",
    caption]

/-- The pairs of a model, filled with care. -/
def onModel? (table : AssociationTable) (view : ModelView) (context : PageContext) :
    Option String :=
  let relation := Relation.ofModel table.source view.model
  if table.pairList && relation.isOneToOne then some (table.showPairs relation context.labels)
  else table.showTable? relation context.labels

theorem showCaption?_eq_some {table : AssociationTable} (checked : table.check = .ok ()) :
    table.showCaption? = some table.showCaption := by
  rw [showCaption?, Template.fill?_eq_some_of_subset (checkTemplate_eq_ok_iff.mp checked)
    (isSome_singleValue "caption" (Text.escapeMarkup table.caption))]
  exact (apply_ite some _ _ _).symm

theorem onModel?_eq_some {table : AssociationTable} (checked : table.check = .ok ())
    (view : ModelView) (context : PageContext) :
    table.onModel? view context = some (table.onModel view context) := by
  have shown : ∀ relation : Relation, table.showTable? relation context.labels
      = some (table.showTable relation context.labels) := by
    intro relation
    rw [showTable?, showCaption?_eq_some checked]
    rfl
  rw [onModel?, shown]
  exact (apply_ite some _ _ _).symm

end AssociationTable

/-! ## Titles of fronts -/

namespace FrontReport

/-- The summary of the front, filled with care. -/
def summary? (front : FrontReport) (context : PageContext) : Option String :=
  let entries := front.optimal context.models
  if entries.isEmpty then some "<p>no optimal models to show</p>"
  else do
    let title ← front.title.fill? [] (front.titleValue entries.length)
    let chart :=
      Chart.points title front.x.label front.y.label (entries.map pointOf) front.width front.height
    let caption := String.join ["<br/><center>", Text.escapeMarkup title, "</center><br/>"]
    match front.z with
    | none => some (String.join [chart, caption])
    | some _ => some (String.join [chart, caption, front.table entries, "<br/>"])

/-- The placeholders a title may use: one for each axis, and the number of models. -/
theorem isSome_titleValue (front : FrontReport) (count : Nat) :
    ∀ name ∈ labelNames.take front.axes.length ++ ["optimal_models_count"],
      (front.titleValue count name).isSome = true := by
  unfold titleValue axes
  cases front.z <;> simp [labelNames]

theorem summary?_eq_some {front : FrontReport} (checked : front.check = .ok ())
    (context : PageContext) : front.summary? context = some (front.summary context) := by
  simp only [summary?, summary]
  by_cases none : (front.optimal context.models).isEmpty = true
  · rw [if_pos none, if_pos none]
  · rw [if_neg none, if_neg none,
      Template.fill?_eq_some_of_subset (checkTemplate_eq_ok_iff.mp checked)
        (isSome_titleValue front _)]
    cases front.z <;> rfl

end FrontReport

/-! ## Plugins and pages -/

namespace Plugin

/-- The fragment for the header, filled with care. -/
def onHeader? (plugin : Plugin) (context : PageContext) : Option String :=
  match plugin with
  | .text fragment => fragment.fill? none context
  | .front report =>
    match report.place with
    | .header => report.summary? context
    | .footer => some ""
  | other => some (other.onHeader context)

/-- The fragment for the footer, filled with care. -/
def onFooter? (plugin : Plugin) (context : PageContext) : Option String :=
  match plugin with
  | .text fragment => fragment.fill? none context
  | .front report =>
    match report.place with
    | .header => some ""
    | .footer => report.summary? context
  | other => some (other.onFooter context)

/-- The fragment for a model, filled with care. -/
def onModel? (plugin : Plugin) (view : ModelView) (context : PageContext) : Option String :=
  match plugin with
  | .text fragment => fragment.fill? (some view) context
  | .title banner => banner.onModel? view
  | .table association => association.onModel? view context
  | other => some (other.onModel view context)

variable {plugin : Plugin}

theorem onHeader?_eq_some (checked : plugin.check = .ok ()) (context : PageContext) :
    plugin.onHeader? context = some (plugin.onHeader context) := by
  cases plugin with
  | text fragment => exact TextFragment.fill?_eq_some checked none context
  | front report =>
      simp only [onHeader?, onHeader, FrontReport.onHeader]
      cases report.place with
      | header => exact FrontReport.summary?_eq_some checked context
      | footer => rfl
  | title | table | raw | stats | clipboard => rfl

theorem onFooter?_eq_some (checked : plugin.check = .ok ()) (context : PageContext) :
    plugin.onFooter? context = some (plugin.onFooter context) := by
  cases plugin with
  | text fragment => exact TextFragment.fill?_eq_some checked none context
  | front report =>
      simp only [onFooter?, onFooter, FrontReport.onFooter]
      cases report.place with
      | header => rfl
      | footer => exact FrontReport.summary?_eq_some checked context
  | title | table | raw | stats | clipboard => rfl

theorem onModel?_eq_some (checked : plugin.check = .ok ()) (view : ModelView)
    (context : PageContext) :
    plugin.onModel? view context = some (plugin.onModel view context) := by
  cases plugin with
  | text fragment => exact TextFragment.fill?_eq_some checked (some view) context
  | title banner => exact Banner.onModel?_eq_some checked view
  | table association => exact AssociationTable.onModel?_eq_some checked view context
  | raw | stats | clipboard | front => rfl

end Plugin

namespace PageLayout

/-- The fragment of one model, filled with care. -/
def renderModel? (layout : PageLayout) (context : PageContext) (view : ModelView) :
    Option String :=
  (layout.modelChain.mapM (Plugin.onModel? · view context)).map String.join

/-- All fragments of a page, filled with care. -/
def render? (layout : PageLayout) (context : PageContext) : Option Rendering := do
  let header ← layout.header.mapM (Plugin.onHeader? · context)
  let footer ← layout.footer.mapM (Plugin.onFooter? · context)
  let models ← context.models.zipIdx.mapM fun entry =>
    layout.renderModel? context ⟨entry.2 + 1, entry.1⟩
  return {
    header := String.join header ++ (if context.models.isEmpty then layout.unsatMessage else "")
    footer := String.join footer
    models := models }

variable {layout : PageLayout}

theorem renderModel?_eq_some (checked : ∀ plugin ∈ layout.plugins, plugin.check = .ok ())
    (context : PageContext) (view : ModelView) :
    layout.renderModel? context view = some (layout.renderModel context view) := by
  have fragments : layout.modelChain.mapM (Plugin.onModel? · view context)
      = some (layout.modelChain.map fun plugin => plugin.onModel view context) := by
    apply mapM_eq_some_map
    intro plugin inside
    exact Plugin.onModel?_eq_some (checked plugin (List.mem_append_right _ inside)) view context
  rw [renderModel?, fragments]
  rfl

theorem render?_eq_some (checked : ∀ plugin ∈ layout.plugins, plugin.check = .ok ())
    (context : PageContext) : layout.render? context = some (layout.render context) := by
  have header : layout.header.mapM (Plugin.onHeader? · context)
      = some (layout.header.map fun plugin => plugin.onHeader context) := by
    apply mapM_eq_some_map
    intro plugin inside
    have member : plugin ∈ layout.plugins :=
      List.mem_append_left _ (List.mem_append_left _ inside)
    exact Plugin.onHeader?_eq_some (checked plugin member) context
  have footer : layout.footer.mapM (Plugin.onFooter? · context)
      = some (layout.footer.map fun plugin => plugin.onFooter context) := by
    apply mapM_eq_some_map
    intro plugin inside
    have member : plugin ∈ layout.plugins :=
      List.mem_append_left _ (List.mem_append_right _ inside)
    exact Plugin.onFooter?_eq_some (checked plugin member) context
  have models : (context.models.zipIdx.mapM fun entry =>
      layout.renderModel? context ⟨entry.2 + 1, entry.1⟩)
        = some (context.models.mapIdx fun place model =>
            layout.renderModel context ⟨place + 1, model⟩) := by
    rw [List.mapIdx_eq_zipIdx_map]
    apply mapM_eq_some_map
    intro entry _
    exact renderModel?_eq_some checked context ⟨entry.2 + 1, entry.1⟩
  rw [render?, header, footer, models]
  rfl

end PageLayout

namespace Configuration

/-- **If a configuration is read from a text, no placeholder is left empty.**  Every template that
is rendered for a program or a page has a value for each of its placeholders; in header and footer
just the three placeholders of free text that need a model have none. -/
theorem filled_of_parse {text : String} {config : Configuration}
    (accepted : parse text = .ok config) :
    (∀ choices : Choices, encode? config choices = some (encode config choices)) ∧
      ∀ context : PageContext, config.output.layout.render? context
        = some (config.output.layout.render context) := by
  have consistent : config.Consistent := check_eq_ok_iff.mp (parse_eq_ok_iff.mp accepted).2
  constructor
  · intro choices
    exact encode?_eq_some_of_consistent consistent choices
  · intro context
    exact PageLayout.render?_eq_some consistent.plugins context

/-- The text of a configuration with a template for choices, one over two domains, and a header that
mentions the place of a model. -/
def menu : String :=
  "\x7b\"choice_groups\":[\x7b\"items\":[\"tea\",\"milk\"]," ++
    "\"produced_atoms\":[\"takes(\x7buser\x7d,\x7bchoice\x7d)\"]," ++
    "\"data_atoms\":[\"may(\x7buser\x7d,\x7bchoice\x7d)\"]\x7d]," ++
    "\"output\":\x7b\"header_repr\":[[\"text\",\"\x7bnb_models\x7d\x7bidx\x7d\"]]\x7d\x7d"

/-- One user who drinks tea. -/
def drinker : Choices :=
  .ofList [("ada", [.ofList ["tea"]])]

/-- A page without models. -/
def bare : PageContext :=
  ⟨⟨.empty, .empty⟩, [], .ofModels [] ⟨0⟩⟩

/-- The program for the drinker. -/
def drinkerProgram : String :=
  "takes(ada,tea).\nmay(ada,milk).\nmay(ada,tea).\n"

/-- The header of a page without models; the place of a model has no value there. -/
def bareHeader : String :=
  "0<i>That program is unsatisfiable.</i>"

theorem menu_filled_of_parse : ∃ config, parse menu = .ok config ∧
    encode? config drinker = some drinkerProgram ∧
    (config.output.layout.render? bare).map Rendering.header = some bareHeader := by
  have shown : (match parse menu with
      | .ok config => decide (encode config drinker = drinkerProgram ∧
          (config.output.layout.render bare).header = bareHeader)
      | .error _ => false) = true := by
    decide +kernel
  split at shown
  case h_1 config read =>
    obtain ⟨program, header⟩ := of_decide_eq_true shown
    obtain ⟨encoded, rendered⟩ := filled_of_parse read
    refine ⟨config, read, ?_, ?_⟩
    · rw [encoded, program]
    · rw [rendered, Option.map_some, header]
  case h_2 => cases shown

end Configuration

end CollectiveChoice

import CollectiveChoice.Page.Banner
import CollectiveChoice.Page.Chart

/-!
# Pareto fronts

Models can be scored on two or three axes by integers they hold.  One score dominates another one
when it is at least as good on every axis and differs; the front consists of the scores no other one
dominates.  The models of the front are flagged where they are shown, and a summary in the header or
footer plots them.
-/

namespace CollectiveChoice

set_option autoImplicit false

/-! ## Dominance -/

/-- One number for each axis, higher ones being better. -/
abbrev Score := List Int

/-- Whether a score is as long as another one, at least as good everywhere, and different.  Scores
of different lengths do not dominate each other. -/
def dominates (better worse : Score) : Bool :=
  better.length == worse.length && (better.zip worse).all (fun pair => pair.2 ≤ pair.1) &&
    better != worse

/-- The scores of a collection that none of them dominates. -/
def paretoFront (scores : List Score) : SortedSet Score :=
  let all := SortedSet.ofList scores
  all.filter fun score => !all.toList.any fun other => dominates other score

/-! ## Options -/

/-- Where the summary stands. -/
inductive Place where
  | header
  | footer
deriving DecidableEq, Repr

/-- One axis: the unary predicate that holds the score, and the name of the axis. -/
structure ScoreAxis where
  predicate : String
  label : String
deriving DecidableEq, Repr

/-- A front over two or three axes. -/
structure FrontReport where
  x : ScoreAxis
  y : ScoreAxis
  /-- The third axis, where there is one. -/
  z : Option ScoreAxis
  /-- The title, with placeholders for the names of the axes and `optimal_models_count`. -/
  title : Template
  place : Place
  width : UInt32
  height : UInt32
  /-- Markup that flags a model of the front. -/
  flag : String
deriving DecidableEq

namespace FrontReport

/-- The title over two axes unless another one is given. -/
def standardTitle2 : Template where
  source := "Pareto front of solutions according to \x7bx_label\x7d and \x7by_label\x7d among \x7boptimal_models_count\x7d models"
  segments := [
    .literal "Pareto front of solutions according to ".toList, .placeholder "x_label",
    .literal " and ".toList, .placeholder "y_label", .literal " among ".toList,
    .placeholder "optimal_models_count", .literal " models".toList]
  reads := by rfl

/-- The title over three axes unless another one is given. -/
def standardTitle3 : Template where
  source := "Pareto front of solutions according to \x7bx_label\x7d, \x7by_label\x7d and \x7bz_label\x7d among \x7boptimal_models_count\x7d models"
  segments := [
    .literal "Pareto front of solutions according to ".toList, .placeholder "x_label",
    .literal ", ".toList, .placeholder "y_label", .literal " and ".toList, .placeholder "z_label",
    .literal " among ".toList, .placeholder "optimal_models_count", .literal " models".toList]
  reads := by rfl

/-- The front over two axes. -/
def standard2 : FrontReport where
  x := ⟨"metric_x", "score X"⟩
  y := ⟨"metric_y", "score Y"⟩
  z := none
  title := standardTitle2
  place := .header
  width := 600
  height := 400
  flag := "<u>OPTIMAL</u><br/><br/>"

/-- The front over three axes. -/
def standard3 : FrontReport :=
  { standard2 with z := some ⟨"metric_z", "score Z"⟩, title := standardTitle3 }

/-! ## Scores -/

/-- All axes in order. -/
def axes (front : FrontReport) : List ScoreAxis :=
  front.x :: front.y :: front.z.toList

/-- The number a model holds under a unary predicate, zero where there is none. -/
def scoreOf (model : Model) (predicate : String) : Int :=
  match (model.atomsOf predicate).find? fun atom => atom.arity == 1 with
  | some atom => (atom.args.head?.bind Value.asInt?).getD 0
  | none => 0

/-- The score of a model. -/
def score (front : FrontReport) (model : Model) : Score :=
  front.axes.map fun axis => scoreOf model axis.predicate

/-- The models whose scores are on the front, with their scores, in the order of the models. -/
def optimal (front : FrontReport) (models : List Model) : List (Score × Model) :=
  let best := paretoFront (models.map front.score)
  (models.map fun model => (front.score model, model)).filter fun entry => best.contains entry.1

/-! ## Fragments -/

/-- The names of the placeholders for the axes. -/
def labelNames : List String := ["x_label", "y_label", "z_label"]

/-- The value of a placeholder of the title. -/
def titleValue (front : FrontReport) (count : Nat) (name : String) : Option String :=
  if name = "optimal_models_count" then some (Text.decimalNat count)
  else (labelNames.zip (front.axes.map ScoreAxis.label)).lookup name

/-- The point of a model in the chart. -/
def pointOf (entry : Score × Model) : Chart.Point :=
  ⟨entry.1.getD 0 0, entry.1.getD 1 0, entry.2.id⟩

/-- The table of the models of the front with all their scores. -/
def table (front : FrontReport) (entries : List (Score × Model)) : String :=
  let headings := front.axes.map fun axis =>
    String.join ["<th>", Text.escapeMarkup axis.label, "</th>"]
  let lines := entries.map fun entry =>
    let cells := entry.1.map fun number => String.join ["<td>", Text.decimalInt number, "</td>"]
    String.join [
      "<tr><td>", Text.escapeMarkup entry.2.id, "</td>", String.join cells, "</tr>"]
  String.join [
    "<table><tr><th>model</th>", String.join headings, "</tr>", String.join lines, "</table>"]

/-- The summary of the front. -/
def summary (front : FrontReport) (context : PageContext) : String :=
  let entries := front.optimal context.models
  if entries.isEmpty then "<p>no optimal models to show</p>"
  else
    let title := front.title.render (front.titleValue entries.length)
    let chart :=
      Chart.points title front.x.label front.y.label (entries.map pointOf) front.width front.height
    let caption := String.join ["<br/><center>", Text.escapeMarkup title, "</center><br/>"]
    match front.z with
    | none => String.join [chart, caption]
    | some _ => String.join [chart, caption, front.table entries, "<br/>"]

/-- The fragment for the header. -/
def onHeader (front : FrontReport) (context : PageContext) : String :=
  match front.place with
  | .header => front.summary context
  | .footer => ""

/-- The fragment for the footer. -/
def onFooter (front : FrontReport) (context : PageContext) : String :=
  match front.place with
  | .header => ""
  | .footer => front.summary context

/-- The flag of a model, unless the score of another one dominates its own. -/
def onModel (front : FrontReport) (view : ModelView) (context : PageContext) : String :=
  let own := front.score view.model
  if context.models.any fun model => dominates (front.score model) own then "" else front.flag

/-- Checks the placeholders. -/
def check (front : FrontReport) : Except OptionError Unit :=
  checkTemplate "title" front.title
    (labelNames.take front.axes.length ++ ["optimal_models_count"])

end FrontReport

end CollectiveChoice

import CollectiveChoice.Configuration.Reading
import CollectiveChoice.Page.Plugin

/-!
# Plugins in a configuration

A plugin is written as its kind, as an object with its kind and options, or as an array that starts
with the kind and lists options in the order of their declaration.  A chain is a plugin or a list of
plugins.  Options that are left out keep their standard value.

Chains are built as values before they are looked at: repeated members are settled then, the later
one counts, and options are read in the order of their names.
-/

namespace CollectiveChoice

set_option autoImplicit false

namespace PluginForm

open Draft (Member)
open Reading (Result)

/-- A member of the options of a plugin. -/
abbrev PluginOption (α : Type) := Member ConfigurationFault α

/-! ## Axes, sources and places -/

/-- An axis: a name, or a list of labels to be used in turn. -/
def axis : Json → Result Axis
  | .string "user" => .ok .user
  | .string "choice" => .ok .choice
  | .string "raw" => .ok .raw
  | .string name => .error (.refused (.axis name))
  | .array items =>
    match Reading.texts? items with
    | some (first :: others) => .ok (.cycle first others)
    | some [] => .error (.refused .noAxisLabels)
    | none => .error .malformed
  | _ => .error .malformed

/-- The value that stands for an axis. -/
def axisJson : Axis → Json
  | .user => .string "user"
  | .choice => .string "choice"
  | .raw => .string "raw"
  | .cycle first others => .strings (first :: others)

/-- A source of pairs. -/
def source (draft : Draft) : Result PairSource := do
  let text ← draft.string
  match PairSource.parse text with
  | .ok source => .ok source
  | .error error => .error (.refused (.source error))

/-- The names of places. -/
def placeNames : List (String × Place) :=
  [("header", .header), ("Header", .header), ("footer", .footer), ("Footer", .footer)]

/-- A place, by its name or by an object with the name as its only key and nothing as its value. -/
def place : Draft → Result Place
  | .text name => Draft.named placeNames name
  | .record [(some name, value)] => do
    let place ← Draft.named placeNames name
    match value with
    | .null => .ok place
    | .record [] => .ok place
    | _ => .error .malformed
  | _ => .error .malformed

/-- The name of a place. -/
def placeName : Place → String
  | .header => "header"
  | .footer => "footer"

/-! ## Options -/

/-- The options of free text. -/
def textOptions : List (PluginOption TextFragment) :=
  [.of "text" Reading.templateText fun text fragment => { fragment with text }]

/-- The options of a banner. -/
def titleOptions : List (PluginOption Banner) := [
  .of "index" Draft.flag fun index banner => { banner with index },
  .of "uid" Draft.flag fun uid banner => { banner with uid },
  (Member.of "title_style" Reading.templateText
    fun titleStyle (banner : Banner) => { banner with titleStyle }).orKey "title style",
  (Member.of "uid_style" Reading.templateText
    fun uidStyle (banner : Banner) => { banner with uidStyle }).orKey "uid style"]

/-- An axis in a draft. -/
def axisOption : Draft → Result Axis :=
  Reading.forms 127 axis

/-- The options of a table. -/
def tableOptions : List (PluginOption AssociationTable) := [
  .of "rows" axisOption fun rows table => { table with rows },
  .of "columns" axisOption fun columns table => { table with columns },
  .of "source" source fun source table => { table with source },
  .of "caption" Draft.string fun caption table => { table with caption },
  (Member.of "caption_style" Reading.templateText
    fun captionStyle (table : AssociationTable) => { table with captionStyle }).orKey
      "caption style",
  (Member.of "pair_repr" Draft.flag
    fun pairList (table : AssociationTable) => { table with pairList }).orKey
      "enable pair repr if possible",
  (Member.of "pair_link_text" Draft.string
    fun pairLink (table : AssociationTable) => { table with pairLink }).orKey "pair link text"]

/-- The options of a listing of facts. -/
def rawOptions : List (PluginOption FactListing) := [
  .of "predicates" Reading.textList fun predicates listing => { listing with predicates },
  .of "footer" Draft.string fun footer listing => { listing with footer }]

/-- The options of a report of counts. -/
def statsOptions : List (PluginOption CountReport) := [
  .of "union" Draft.flag fun union report => { report with union },
  .of "intersection" Draft.flag fun intersection report => { report with intersection },
  .of "counts" Draft.flag fun counts report => { report with counts },
  (Member.of "plot_counts" Draft.flag
    fun plotCounts (report : CountReport) => { report with plotCounts }).orKey "plot counts",
  .of "title" Draft.string fun title report => { report with title },
  .of "width" Reading.word32 fun width report => { report with width },
  .of "height" Reading.word32 fun height report => { report with height },
  .of "y_label" Draft.string fun yLabel report => { report with yLabel }]

/-- The options of a copy button. -/
def clipboardOptions : List (PluginOption CopyButton) := [
  .of "label" Draft.string fun label button => { button with label },
  .of "predicates" Reading.textList fun predicates button => { button with predicates }]

/-- The predicate of an axis of a front. -/
def predicateOption (key : String)
    (store : String → FrontReport → FrontReport) : PluginOption FrontReport :=
  .of key Draft.string store

/-- The options of a front behind its axes. -/
def frontTail : List (PluginOption FrontReport) := [
  .of "place" place fun place front => { front with place },
  .of "width" Reading.word32 fun width front => { front with width },
  .of "height" Reading.word32 fun height front => { front with height },
  (Member.of "model_optimality_flag" Draft.string
    fun flag (front : FrontReport) => { front with flag }).orKey "model optimality flag"]

/-- The predicates of the first two axes. -/
def planePredicates : List (PluginOption FrontReport) := [
  .of "x" Draft.string fun predicate front => { front with x := { front.x with predicate } },
  .of "y" Draft.string fun predicate front => { front with y := { front.y with predicate } }]

/-- The predicate of the third axis. -/
def spacePredicates : List (PluginOption FrontReport) := [
  .of "z" Draft.string fun predicate front =>
    { front with z := front.z.map fun axis => { axis with predicate } }]

/-- The title of a front. -/
def frontTitle : List (PluginOption FrontReport) := [
  .of "title" Reading.templateText fun title front => { front with title }]

/-- The names of the first two axes. -/
def planeLabels : List (PluginOption FrontReport) := [
  .of "x_label" Draft.string fun label front => { front with x := { front.x with label } },
  .of "y_label" Draft.string fun label front => { front with y := { front.y with label } }]

/-- The name of the third axis. -/
def spaceLabels : List (PluginOption FrontReport) := [
  .of "z_label" Draft.string fun label front =>
    { front with z := front.z.map fun axis => { axis with label } }]

/-- The options of a front over two axes. -/
def planeOptions : List (PluginOption FrontReport) :=
  planePredicates ++ frontTitle ++ planeLabels ++ frontTail

/-- The options of a front over three axes. -/
def spaceOptions : List (PluginOption FrontReport) :=
  planePredicates ++ spacePredicates ++ frontTitle ++ planeLabels ++ spaceLabels ++ frontTail

/-! ## Plugins -/

/-- Reads the options of a plugin of a kind. -/
def ofKind (kind : String) (options : Draft) : Result Plugin :=
  match kind with
  | "text" => (options.assemble textOptions .standard).map .text
  | "title" => (options.assemble titleOptions .standard).map .title
  | "table/2" => (options.assemble tableOptions .standard).map .table
  | "raw" => (options.assemble rawOptions .standard).map .raw
  | "stats" => (options.assemble statsOptions .standard).map .stats
  | "clipboard" => (options.assemble clipboardOptions .standard).map .clipboard
  | "pareto front" => (options.assemble planeOptions .standard2).map .front
  | "pareto front 3D" => (options.assemble spaceOptions .standard3).map .front
  | kind => .error (.unknownName kind)

/-- Reads a plugin from a value whose objects are in key order. -/
def plugin : Json → Result Plugin
  | .string kind => ofKind kind (.record [])
  | .object members =>
    match members.lookup "kind" with
    | some (.string kind) =>
      ofKind kind (.ofJson (.object (members.filter fun member => member.1 != "kind")))
    | _ => .error .malformed
  | .array (.string kind :: options) => ofKind kind (.ofJson (.array options))
  | _ => .error .malformed

/-- Reads plugins one after the other. -/
def plugins : List Json → Result (List Plugin)
  | [] => .ok []
  | value :: rest => do
    let first ← plugin value
    let others ← plugins rest
    return first :: others

/-- Reads a chain: one plugin or a list of plugins. -/
def chain (value : Json) : Result (List Plugin) :=
  match value.sorted with
  | .array entries => plugins entries
  | single => plugins [single]

/-! ## Writing -/

/-- The options of a plugin. -/
def optionMembers : Plugin → List (String × Json)
  | .text fragment => [("text", .string fragment.text.source)]
  | .title banner => [
    ("index", .bool banner.index), ("uid", .bool banner.uid),
    ("title_style", .string banner.titleStyle.source),
    ("uid_style", .string banner.uidStyle.source)]
  | .table association => [
    ("rows", axisJson association.rows), ("columns", axisJson association.columns),
    ("source", .string association.source.display), ("caption", .string association.caption),
    ("caption_style", .string association.captionStyle.source),
    ("pair_repr", .bool association.pairList),
    ("pair_link_text", .string association.pairLink)]
  | .raw listing => [
    ("predicates", .strings listing.predicates), ("footer", .string listing.footer)]
  | .stats report => [
    ("union", .bool report.union), ("intersection", .bool report.intersection),
    ("counts", .bool report.counts), ("plot_counts", .bool report.plotCounts),
    ("title", .string report.title), ("width", .integer report.width.toNat),
    ("height", .integer report.height.toNat), ("y_label", .string report.yLabel)]
  | .clipboard button => [
    ("label", .string button.label), ("predicates", .strings button.predicates)]
  | .front report =>
    let predicate (key : String) (axis : ScoreAxis) : String × Json :=
      (key, .string axis.predicate)
    let label (key : String) (axis : ScoreAxis) : String × Json := (key, .string axis.label)
    [predicate "x" report.x, predicate "y" report.y] ++
      (report.z.map (predicate "z")).toList ++ [("title", .string report.title.source)] ++
      [label "x_label" report.x, label "y_label" report.y] ++
      (report.z.map (label "z_label")).toList ++ [
        ("place", .string (placeName report.place)), ("width", .integer report.width.toNat),
        ("height", .integer report.height.toNat), ("model_optimality_flag", .string report.flag)]

/-- A plugin as JSON, with its kind and all options. -/
def toJson (plugin : Plugin) : Json :=
  .object (("kind", .string plugin.kind) :: optionMembers plugin)

/-- A chain as JSON. -/
def chainJson (plugins : List Plugin) : Json :=
  .array (plugins.map toJson)

/-! ## Documents -/

/-- Builds the value of a whole draft, with the members of objects in key order. -/
def builtValue : Draft → Result Json :=
  Reading.forms 127 fun value => .ok value.sorted

/-- Reads a text that holds one plugin. -/
def parse (text : String) : Result Plugin := do
  let value ← (Draft.Document.read text).decode builtValue
  plugin value

end PluginForm

end CollectiveChoice

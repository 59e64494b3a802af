import CollectiveChoice.Page.Banner

/-!
# Associations between rows and columns

Atoms of one predicate can be read as pairs of a row and a column.  Which argument is which is said
by a source such as `score/columns,_,rows,yes`: a predicate and one field per argument, where `_`
passes over an argument and any other word is what the argument has to be.

The pairs of a model are shown as a table with a mark in the cells of the relation, or, where every
row belongs to exactly one column and the other way round, as a list of pairs.
-/

namespace CollectiveChoice

set_option autoImplicit false

/-! ## Axes -/

/-- How the values of an axis are labelled. -/
inductive Axis where
  /-- By the labels of users. -/
  | user
  /-- By the labels of items. -/
  | choice
  /-- As written by the solver. -/
  | raw
  /-- By the given labels in turn, starting over when they are used up. -/
  | cycle (first : String) (others : List String)
deriving DecidableEq, Repr

namespace Axis

/-- The label of a value at a place among the values of its axis. -/
def labelText (axis : Axis) (labels : Labels) (value : Value) (place : Nat) : String :=
  match axis with
  | .user => labels.user value.key
  | .choice => labels.item value.key
  | .raw => value.display
  | .cycle first others => (first :: others).getD (place % (others.length + 1)) first

/-- The label of a value, as text inside markup. -/
def label (axis : Axis) (labels : Labels) (value : Value) (place : Nat) : String :=
  Text.escapeMarkup (axis.labelText labels value place)

end Axis

/-! ## Sources -/

/-- What an argument is to a source. -/
inductive SourceField where
  | rows
  | columns
  | ignored
  /-- A condition: the argument has to be this. -/
  | literal (text : String)
deriving DecidableEq, Repr

namespace SourceField

/-- The field a word stands for. -/
def ofWord (word : String) : SourceField :=
  match word with
  | "rows" => .rows
  | "columns" => .columns
  | "_" => .ignored
  | word => .literal word

/-- The word that stands for a field. -/
def word : SourceField → String
  | .rows => "rows"
  | .columns => "columns"
  | .ignored => "_"
  | .literal text => text

/-- Whether an argument meets the condition of a field, as its text or as its key. -/
def accepts (field : SourceField) (value : Value) : Bool :=
  match field with
  | .literal text => value.key == text || value.display == text
  | _ => true

end SourceField

/-- Which atoms are pairs, and which of their arguments are row and column. -/
structure PairSource where
  predicate : String
  fields : List SourceField
deriving DecidableEq, Repr

/-- Why a text is no source. -/
inductive SourceError where
  | shapeless (source : String)
  | noPredicate (source : String)
  /-- There is not exactly one field of a kind. -/
  | fieldCount (source word : String) (found : Nat)
deriving DecidableEq, Repr

/-- The message of an error. -/
def SourceError.message : SourceError → String
  | .shapeless source =>
    "table source " ++ Text.quoted source ++ " must look like 'pred/rows,columns'"
  | .noPredicate source => "table source " ++ Text.quoted source ++ " has no predicate"
  | .fieldCount source word found =>
    "table source " ++ Text.quoted source ++ " needs exactly one '" ++ word ++
      "' field, found " ++ Text.decimalNat found

namespace PairSource

/-- The source of the predicate `assoc`, rows first. -/
def standard : PairSource where
  predicate := "assoc"
  fields := [.rows, .columns]

/-- Reads a source. -/
def parse (source : String) : Except SourceError PairSource :=
  let chars := source.toList
  match chars.dropWhile (· ≠ '/') with
  | [] => .error (.shapeless source)
  | _ :: behind =>
    let predicate := Text.trimChars (chars.takeWhile (· ≠ '/'))
    if predicate.isEmpty then .error (.noPredicate source)
    else
      let fields := (Text.splitWhere (· == ',') behind).map fun part =>
        SourceField.ofWord (String.ofList (Text.trimChars part))
      if fields.count .rows ≠ 1 then
        .error (.fieldCount source "rows" (fields.count .rows))
      else if fields.count .columns ≠ 1 then
        .error (.fieldCount source "columns" (fields.count .columns))
      else .ok ⟨String.ofList predicate, fields⟩

/-- The text of a source. -/
def display (source : PairSource) : String :=
  source.predicate ++ "/" ++ ",".intercalate (source.fields.map SourceField.word)

/-- The argument that stands at a field. -/
def argumentAt? (wanted : SourceField) : List SourceField → List Value → Option Value
  | field :: fields, value :: values =>
    if field = wanted then some value else argumentAt? wanted fields values
  | _, _ => none

/-- The row and the column of an atom, if the source takes it. -/
def pairOf? (source : PairSource) (atom : Atom) : Option (Value × Value) :=
  if atom.predicate = source.predicate ∧ atom.args.length = source.fields.length then
    if (source.fields.zip atom.args).all fun entry => entry.1.accepts entry.2 then
      match argumentAt? .rows source.fields atom.args,
          argumentAt? .columns source.fields atom.args with
      | some row, some column => some (row, column)
      | _, _ => none
    else none
  else none

end PairSource

/-! ## Relations -/

/-- The rows, the columns and the columns of each row. -/
structure Relation where
  rows : SortedSet Value
  columns : SortedSet Value
  /-- The columns a row belongs to. -/
  links : SortedMap Value (SortedSet Value)

namespace Relation

/-- The relation without pairs. -/
def empty : Relation := ⟨.empty, .empty, .empty⟩

/-- The relation with one more pair. -/
def add (relation : Relation) (pair : Value × Value) : Relation where
  rows := relation.rows.insert pair.1
  columns := relation.columns.insert pair.2
  links := relation.links.alter pair.1 fun columns => (columns.getD .empty).insert pair.2

/-- The relation of the pairs a source finds in a model. -/
def ofModel (source : PairSource) (model : Model) : Relation :=
  (model.atoms.toList.filterMap source.pairOf?).foldl add empty

/-- Whether there are pairs, and every row belongs to one column and the other way round. -/
def isOneToOne (relation : Relation) : Bool :=
  !relation.links.isEmpty && relation.links.values.all (fun columns => columns.size == 1) &&
    relation.links.size == relation.columns.size

/-- Whether a row belongs to a column. -/
def holds (relation : Relation) (row column : Value) : Bool :=
  match relation.links.find? row with
  | some columns => columns.contains column
  | none => false

end Relation

/-! ## Tables -/

/-- A fragment that shows the pairs of a model. -/
structure AssociationTable where
  rows : Axis
  columns : Axis
  source : PairSource
  /-- The text under the table, none where it is empty. -/
  caption : String
  /-- The layout of the caption, with placeholder `caption`. -/
  captionStyle : Template
  /-- Whether a one-to-one relation is shown as a list. -/
  pairList : Bool
  /-- The word between the two sides of a pair. -/
  pairLink : String
deriving DecidableEq

namespace AssociationTable

/-- The layout of the caption unless another one is given. -/
def standardCaption : Template where
  source := "<br/><small><i>\x7bcaption\x7d</i></small><br/>"
  segments := [
    .literal ['<', 'b', 'r', '/', '>', '<', 's', 'm', 'a', 'l', 'l', '>', '<', 'i', '>'],
    .placeholder "caption",
    .literal ['<', '/', 'i', '>', '<', '/', 's', 'm', 'a', 'l', 'l', '>', '<', 'b', 'r', '/', '>']]
  reads := by rfl

/-- The table of users and items. -/
def standard : AssociationTable where
  rows := .user
  columns := .choice
  source := .standard
  caption := ""
  captionStyle := standardCaption
  pairList := true
  pairLink := "has"

/-- One entry of the list of pairs. -/
def pairEntry (table : AssociationTable) (labels : Labels) (columns : List Value) (place : Nat)
    (row column : Value) : String :=
  String.join [
    "<li>", table.rows.label labels row place, " ", Text.escapeMarkup table.pairLink, " ",
    table.columns.label labels column (columns.idxOf column), "</li>"]

/-- The pairs of a one-to-one relation as a list. -/
def showPairs (table : AssociationTable) (relation : Relation) (labels : Labels) : String :=
  let entries := relation.links.toList.zipIdx.filterMap fun ((row, linked), place) =>
    linked.toList.head?.map (table.pairEntry labels relation.columns.toList place row)
  String.join [
    "<div style=\"display: inline-block\">",
    "<ul style=\"text-align: left; list-style-type:none\">", String.join entries, "</ul></div>"]

/-- The heading of one column. -/
def heading (table : AssociationTable) (labels : Labels) (place : Nat) (column : Value) : String :=
  String.join ["   <th>", table.columns.label labels column place, "</th>\n"]

/-- One cell, marked where the relation holds. -/
def cell (relation : Relation) (row column : Value) : String :=
  String.join ["   <td>", if relation.holds row column then "×" else "", "</td>\n"]

/-- The line of one row. -/
def line (table : AssociationTable) (relation : Relation) (labels : Labels) (place : Nat)
    (row : Value) : String :=
  String.join [
    " <tr>\n  <td>", table.rows.label labels row place, "</td>",
    String.join (relation.columns.toList.map (cell relation row)), " </tr>\n"]

/-- The caption under the table. -/
def showCaption (table : AssociationTable) : String :=
  if table.caption.isEmpty then ""
  else table.captionStyle.render (singleValue "caption" (Text.escapeMarkup table.caption))

/-- A relation as a table. -/
def showTable (table : AssociationTable) (relation : Relation) (labels : Labels) : String :=
  String.join [
    "<table> <tr>\n  <td></td>\n",
    String.join (relation.columns.toList.mapIdx (table.heading labels)), " </tr>\n",
    String.join (relation.rows.toList.mapIdx (table.line relation labels)), "</table>",
    table.showCaption]

/-- The pairs of a model. -/
def onModel (table : AssociationTable) (view : ModelView) (context : PageContext) : String :=
  let relation := Relation.ofModel table.source view.model
  if table.pairList && relation.isOneToOne then table.showPairs relation context.labels
  else table.showTable relation context.labels

/-- Checks the placeholders. -/
def check (table : AssociationTable) : Except OptionError Unit :=
  checkTemplate "caption_style" table.captionStyle ["caption"]

end AssociationTable

end CollectiveChoice

import CollectiveChoice.Page.Plugin

/-!
# What is shown cannot become markup

The fragments of a model show texts nobody has checked: arguments of atoms, labels, ids.  They must
not open a tag or close the value of an attribute.  So it is looked at which characters with such a
meaning a fragment has, and in which order (`markup`).  What is put in as text has none
(`markup_escapeMarkup`), and neither has a number, so all of them come from the options of the
plugin.

How often they come is another matter, since a table has one line for each row.  What decides about
this is the shape of a fragment (`Plugin.shape`): the number of lines of a listing, whether pairs are
shown as a list or as a table, the numbers of rows and columns, and whether a model is flagged.  The
markup is written down from the options and the shape alone (`Plugin.markupOf`), and every fragment
has it (`Plugin.markup_onModel`).  So two models of the same shape have fragments with the same
markup, whatever else they hold (`Plugin.markup_onModel_eq_of_shape_eq`).
-/

namespace CollectiveChoice

set_option autoImplicit false

/-! ## The markup of a text -/

/-- Whether a character opens or closes a tag or the value of an attribute. -/
def isMarkup (c : Char) : Bool :=
  c == '<' || c == '>' || c == '"' || c == '\''

/-- The characters of a text that open or close something, in order. -/
def markup (text : String) : List Char :=
  text.toList.filter isMarkup

@[simp] theorem markup_empty : markup "" = [] := rfl

@[simp] theorem markup_append (first second : String) :
    markup (first ++ second) = markup first ++ markup second := by
  simp only [markup, String.toList_append, List.filter_append]

@[simp] theorem markup_join (parts : List String) :
    markup (String.join parts) = parts.flatMap markup := by
  rw [markup, String.toList_join, List.filter_flatMap]
  rfl

/-- What is put in as text has no markup. -/
@[simp] theorem markup_escapeMarkup (text : String) : markup (Text.escapeMarkup text) = [] := by
  rw [markup, Text.escapeMarkup, String.toList_ofList, List.filter_flatMap, List.flatMap_eq_nil_iff]
  intro c _
  unfold Text.markupChar
  split
  case h_6 less greater double single =>
    simp only [isMarkup, List.filter_eq_nil_iff, List.mem_singleton, Bool.or_eq_true, beq_iff_eq,
      forall_eq]
    exact not_or_intro (not_or_intro (not_or_intro less greater) double) single
  all_goals decide

/-- Escaping leaves no character that opens or closes something. -/
theorem not_mem_escapeMarkup {text : String} {c : Char} (opens : isMarkup c = true) :
    c ∉ (Text.escapeMarkup text).toList := by
  intro inside
  have marks : c ∈ markup (Text.escapeMarkup text) := List.mem_filter.mpr ⟨inside, opens⟩
  rw [markup_escapeMarkup] at marks
  cases marks

/-- Numbers have no markup. -/
@[simp] theorem markup_decimalNat (number : Nat) : markup (Text.decimalNat number) = [] := by
  rw [markup, Text.decimalNat, String.toList_ofList, List.filter_eq_nil_iff]
  intro c inside marks
  have digit := Text.isDigit_of_mem_toDigits c inside
  simp only [isMarkup, Bool.or_eq_true, beq_iff_eq] at marks
  rcases marks with ((rfl | rfl) | rfl) | rfl <;> cases digit

/-- Parts with the same markup have it as often as there are parts. -/
theorem markup_join_of_forall {parts : List String} {marks : List Char}
    (same : ∀ part ∈ parts, markup part = marks) :
    markup (String.join parts) = (List.replicate parts.length marks).flatten := by
  rw [markup_join, List.flatMap_def, List.map_eq_replicate_iff.mpr same]

theorem markup_join_map {α : Type} {shown : α → String} {marks : List Char}
    (same : ∀ item, markup (shown item) = marks) (items : List α) :
    markup (String.join (items.map shown)) = (List.replicate items.length marks).flatten := by
  rw [markup_join_of_forall, List.length_map]
  intro part inside
  obtain ⟨item, -, rfl⟩ := List.mem_map.mp inside
  exact same item

theorem markup_join_mapIdx {α : Type} {shown : Nat → α → String} {marks : List Char}
    (same : ∀ place item, markup (shown place item) = marks) (items : List α) :
    markup (String.join (items.mapIdx shown)) = (List.replicate items.length marks).flatten := by
  rw [List.mapIdx_eq_zipIdx_map, markup_join_map, List.length_zipIdx]
  intro entry
  exact same entry.2 entry.1

/-! ## Templates -/

/-- The markup of a template with given markup in place of its placeholders. -/
def Template.markupWith (template : Template) (marks : String → List Char) : List Char :=
  template.segments.flatMap fun
    | .literal chars => chars.filter isMarkup
    | .placeholder name => marks name

/-- The markup of a template comes from its own text and from the values that are put in. -/
theorem Template.markup_render (template : Template) (lookup : String → Option String) :
    markup (template.render lookup)
      = template.markupWith fun name => markup ((lookup name).getD "") := by
  rw [markup, render, String.toList_ofList, List.filter_flatMap]
  congr 1
  funext segment
  cases segment with
  | literal chars => rfl
  | placeholder name =>
      simp only [segmentChars]
      cases lookup name <;> rfl

theorem TextFragment.markup_render (fragment : TextFragment) (view : Option ModelView)
    (context : PageContext) :
    markup (fragment.render view context) = fragment.text.markupWith fun _ => [] := by
  rw [render, Template.markup_render]
  congr 1
  funext name
  cases value view context name with
  | none => rfl
  | some shown => exact markup_escapeMarkup shown

namespace Banner

/-- The markup of the banner: that of the layout of the id, in the place of the id. -/
def marks (banner : Banner) : List Char :=
  banner.titleStyle.markupWith fun name =>
    if name = "uid_repr" ∧ banner.uid = true then banner.uidStyle.markupWith fun _ => [] else []

theorem markup_onModel (banner : Banner) (view : ModelView) :
    markup (banner.onModel view) = banner.marks := by
  have uid : markup (banner.uidStyle.render (singleValue "uid" (Text.escapeMarkup view.model.id)))
      = banner.uidStyle.markupWith fun _ => [] := by
    rw [Template.markup_render]
    congr 1
    funext name
    by_cases known : name = "uid" <;> simp [singleValue, known]
  rw [onModel, Template.markup_render, marks]
  congr 1
  funext name
  by_cases ofIndex : name = "idx_repr"
  · have blank : markup " " = [] := rfl
    cases banner.index <;> simp [ofIndex, blank]
  · by_cases ofUid : name = "uid_repr"
    · cases banner.uid <;> simp [ofUid, uid]
    · simp [ofIndex, ofUid]

end Banner

/-! ## Tables and lists of pairs -/

namespace AssociationTable

variable {table : AssociationTable} {relation : Relation} {labels : Labels}

@[simp] theorem markup_label (axis : Axis) (labels : Labels) (value : Value) (place : Nat) :
    markup (axis.label labels value place) = [] :=
  markup_escapeMarkup _

theorem markup_pairEntry (columns : List Value) (place : Nat) (row column : Value) :
    markup (table.pairEntry labels columns place row column) = ['<', '>', '<', '>'] := by
  rw [pairEntry, markup_join]
  simp only [List.flatMap_cons, markup_label, markup_escapeMarkup]
  rfl

theorem markup_heading (place : Nat) (column : Value) :
    markup (table.heading labels place column) = ['<', '>', '<', '>'] := by
  rw [heading, markup_join]
  simp only [List.flatMap_cons, markup_label]
  rfl

theorem markup_cell (row column : Value) :
    markup (cell relation row column) = ['<', '>', '<', '>'] := by
  rw [cell]
  cases relation.holds row column <;> rfl

/-- The markup of a line with a number of cells. -/
def lineMarkup (cells : Nat) : List Char :=
  ['<', '>', '<', '>', '<', '>'] ++ (List.replicate cells ['<', '>', '<', '>']).flatten ++ ['<', '>']

theorem markup_line (place : Nat) (row : Value) :
    markup (table.line relation labels place row) = lineMarkup relation.columns.size := by
  have cells : markup (String.join (relation.columns.toList.map (cell relation row)))
      = (List.replicate relation.columns.size ['<', '>', '<', '>']).flatten :=
    markup_join_map (markup_cell row) relation.columns.toList
  rw [line, markup_join]
  simp only [List.flatMap_cons, List.flatMap_nil, markup_label, cells]
  rfl

/-- The markup of a table with a number of rows and columns, up to the caption. -/
def tableMarkup (rows columns : Nat) : List Char :=
  ['<', '>', '<', '>', '<', '>', '<', '>'] ++
    (List.replicate columns ['<', '>', '<', '>']).flatten ++ ['<', '>'] ++
    (List.replicate rows (lineMarkup columns)).flatten ++ ['<', '>']

theorem markup_showTable :
    markup (table.showTable relation labels)
      = tableMarkup relation.rows.size relation.columns.size ++ markup table.showCaption := by
  have headings : markup (String.join (relation.columns.toList.mapIdx (table.heading labels)))
      = (List.replicate relation.columns.size ['<', '>', '<', '>']).flatten :=
    markup_join_mapIdx markup_heading relation.columns.toList
  have lines : markup (String.join (relation.rows.toList.mapIdx (table.line relation labels)))
      = (List.replicate relation.rows.size (lineMarkup relation.columns.size)).flatten :=
    markup_join_mapIdx markup_line relation.rows.toList
  rw [showTable, markup_join]
  simp only [List.flatMap_cons, List.flatMap_nil, headings, lines, List.append_nil]
  simp only [tableMarkup, List.append_assoc]
  rfl

/-- The markup of a list of pairs. -/
def pairsMarkup (count : Nat) : List Char :=
  ['<', '"', '"', '>', '<', '"', '"', '>'] ++ (List.replicate count ['<', '>', '<', '>']).flatten ++
    ['<', '>', '<', '>']

/-- A one-to-one relation has one entry for each of its columns. -/
theorem markup_showPairs (paired : relation.isOneToOne = true) :
    markup (table.showPairs relation labels) = pairsMarkup relation.columns.size := by
  simp only [Relation.isOneToOne, Bool.and_eq_true, beq_iff_eq, List.all_eq_true] at paired
  obtain ⟨⟨-, single⟩, size⟩ := paired
  have present : ∀ entry ∈ relation.links.toList.zipIdx, entry.1.2.toList ≠ [] := by
    intro entry inside none
    have linked := single entry.1.2 (List.mem_map_of_mem (List.fst_mem_of_mem_zipIdx inside))
    rw [SortedSet.size, none] at linked
    cases linked
  have count : relation.links.toList.zipIdx.length = relation.columns.size := by
    rw [List.length_zipIdx, ← size, SortedMap.size]
  simp only [showPairs, markup_join, List.flatMap_cons, List.flatMap_nil, List.append_nil]
  -- No row is passed over, since each of them has a column.
  rw [← markup_join, @markup_join_of_forall _ ['<', '>', '<', '>'],
    List.filterMap_length_eq_length.mpr, count]
  · rfl
  · intro entry inside
    rw [Option.isSome_map, List.isSome_head?]
    exact present entry inside
  · intro part inside
    obtain ⟨entry, -, shown⟩ := List.mem_filterMap.mp inside
    obtain ⟨column, -, rfl⟩ := Option.map_eq_some_iff.mp shown
    exact markup_pairEntry _ _ _ _

theorem markup_onModel (view : ModelView) (context : PageContext) :
    markup (table.onModel view context) =
      let relation := Relation.ofModel table.source view.model
      if table.pairList && relation.isOneToOne then pairsMarkup relation.columns.size
      else tableMarkup relation.rows.size relation.columns.size ++ markup table.showCaption := by
  rw [onModel]
  split
  case isTrue asList => rw [markup_showPairs (Bool.and_eq_true _ _ ▸ asList).2, if_pos asList]
  case isFalse asTable => rw [markup_showTable, if_neg asTable]

end AssociationTable

/-! ## Listings -/

namespace FactListing

theorem keys_groupFacts (atoms : List Atom) :
    (groupFacts atoms).keys = SortedSet.ofList (atoms.map Atom.predicate) := by
  apply SortedSet.ext_mem
  intro predicate
  rw [groupFacts, SortedMap.mem_keys_foldl_alter Atom.predicate, SortedSet.mem_ofList]
  exact or_iff_right List.not_mem_nil

/-- The predicates a listing has a line for. -/
def predicatesOf (listing : FactListing) (model : Model) : SortedSet String :=
  .ofList ((selectedAtoms listing.predicates model).map Atom.predicate)

/-- The markup of the line of a predicate. -/
def lineMarkup : List Char :=
  markup "<code></code><code></code><br/>"

theorem markup_line (predicate : String) (facts : List String) :
    markup (line predicate facts) = lineMarkup := by
  rw [line, markup_join]
  simp only [List.flatMap_cons, markup_decimalNat, markup_escapeMarkup]
  rfl

/-- A listing has one line for each predicate. -/
theorem markup_onModel (listing : FactListing) (view : ModelView) :
    markup (listing.onModel view)
      = (List.replicate (listing.predicatesOf view.model).size lineMarkup).flatten
        ++ markup listing.footer := by
  rw [onModel, markup_append, predicatesOf, ← keys_groupFacts, SortedMap.size_keys, SortedMap.size]
  congr 1
  apply markup_join_map
  intro group
  exact markup_line group.1 group.2

end FactListing

namespace CopyButton

/-- The markup of a button, which has four attributes. -/
def marks : List Char :=
  ['<'] ++ List.replicate 8 '"' ++ ['>', '<', '>']

theorem markup_onModel (button : CopyButton) (view : ModelView) :
    markup (button.onModel view) = marks := by
  rw [onModel, markup_join]
  simp only [List.flatMap_cons, markup_escapeMarkup]
  decide +kernel

end CopyButton

/-! ## The shape of a fragment -/

/-- The pairs a source finds in a model. -/
def PairSource.pairs (source : PairSource) (model : Model) : List (Value × Value) :=
  model.atoms.toList.filterMap source.pairOf?

namespace Relation

theorem rows_ofModel (source : PairSource) (model : Model) :
    (ofModel source model).rows = .ofList ((source.pairs model).map Prod.fst) := by
  have folded : (ofModel source model).rows
      = (source.pairs model).foldl (fun rows pair => rows.insert pair.1) .empty :=
    (List.foldl_hom Relation.rows fun _ _ => rfl).symm
  apply SortedSet.ext_mem
  intro row
  rw [folded, SortedSet.mem_foldl_insert, SortedSet.mem_ofList]
  exact or_iff_right List.not_mem_nil

theorem columns_ofModel (source : PairSource) (model : Model) :
    (ofModel source model).columns = .ofList ((source.pairs model).map Prod.snd) := by
  have folded : (ofModel source model).columns
      = (source.pairs model).foldl (fun columns pair => columns.insert pair.2) .empty :=
    (List.foldl_hom Relation.columns fun _ _ => rfl).symm
  apply SortedSet.ext_mem
  intro column
  rw [folded, SortedSet.mem_foldl_insert, SortedSet.mem_ofList]
  exact or_iff_right List.not_mem_nil

end Relation

/-- What the markup of a fragment may depend on, apart from the options of its plugin. -/
inductive FragmentShape where
  /-- The fragment has the same markup for all models. -/
  | fixed
  /-- The fragment has a number of lines. -/
  | listing (lines : Nat)
  /-- The fragment shows pairs, as a list or as a table, with a number of rows and columns. -/
  | pairs (asList : Bool) (rows columns : Nat)
  /-- The fragment flags the model or does not. -/
  | flag (raised : Bool)
deriving DecidableEq

namespace Plugin

/-- The shape of the fragment for a model. -/
def shape (plugin : Plugin) (view : ModelView) (context : PageContext) : FragmentShape :=
  match plugin with
  | .raw listing => .listing (listing.predicatesOf view.model).size
  | .table association =>
    let pairs := association.source.pairs view.model
    let relation := Relation.ofModel association.source view.model
    .pairs (association.pairList && relation.isOneToOne)
      (SortedSet.ofList (pairs.map Prod.fst)).size (SortedSet.ofList (pairs.map Prod.snd)).size
  | .front report =>
    .flag (!context.models.any fun model =>
      dominates (report.score model) (report.score view.model))
  | _ => .fixed

/-- The markup of a fragment with the given shape. -/
def markupOf (plugin : Plugin) (shape : FragmentShape) : List Char :=
  match plugin, shape with
  | .text fragment, _ => fragment.text.markupWith fun _ => []
  | .title banner, _ => banner.marks
  | .table _, .pairs true _ columns => AssociationTable.pairsMarkup columns
  | .table association, .pairs false rows columns =>
    AssociationTable.tableMarkup rows columns ++ markup association.showCaption
  | .raw listing, .listing lines =>
    (List.replicate lines FactListing.lineMarkup).flatten ++ markup listing.footer
  | .clipboard _, _ => CopyButton.marks
  | .front report, .flag true => markup report.flag
  | _, _ => []

theorem markup_onModel (plugin : Plugin) (view : ModelView) (context : PageContext) :
    markup (plugin.onModel view context) = plugin.markupOf (plugin.shape view context) := by
  cases plugin with
  | text fragment => exact fragment.markup_render _ _
  | title banner => exact banner.markup_onModel _
  | stats report => rfl
  | clipboard button => exact button.markup_onModel _
  | raw listing => exact listing.markup_onModel _
  | table association =>
      simp only [onModel, AssociationTable.markup_onModel, shape, ← Relation.rows_ofModel,
        ← Relation.columns_ofModel]
      cases association.pairList && (Relation.ofModel association.source view.model).isOneToOne <;>
        rfl
  | front report =>
      rw [onModel, FrontReport.onModel, shape]
      cases context.models.any fun model =>
        dominates (report.score model) (report.score view.model) <;> rfl

/-- **The markup of a fragment is decided by the options and the shape.**  Whatever else two models,
their places, the labels and the figures hold, they add, remove or move no character of it. -/
theorem markup_onModel_eq_of_shape_eq (plugin : Plugin) {view other : ModelView}
    {context otherContext : PageContext}
    (same : plugin.shape view context = plugin.shape other otherContext) :
    markup (plugin.onModel view context) = markup (plugin.onModel other otherContext) := by
  rw [markup_onModel, markup_onModel, same]

/-- A model that gives two users a dish each. -/
def dishes (id : ModelId) (first second : Value × Value) : Model where
  atoms := .ofList [⟨"assoc", [first.1, first.2]⟩, ⟨"assoc", [second.1, second.2]⟩]
  id := id

/-- The page of one model. -/
def pageOf (model : Model) (users : SortedMap String String) : PageContext where
  labels := ⟨users, .empty⟩
  models := [model]
  statistics := .ofModels [model] ⟨0⟩

def plainDishes : Model :=
  dishes "plain" (.sym "ada", .str "soup") (.sym "bob", .str "rice")

/-- The same number of users and dishes, under names that look like markup. -/
def hostileDishes : Model :=
  dishes "'>" (.sym "ada", .str "</li><script>") (.str "<b>", .str "\" onclick='")

theorem dishes_markup_onModel_eq :
    let table := Plugin.table .standard
    let plainPage := pageOf plainDishes .empty
    let hostilePage := pageOf hostileDishes (.ofList [("ada", "<i>Ada</i>")])
    table.shape ⟨1, plainDishes⟩ plainPage = .pairs true 2 2 ∧
      table.shape ⟨2, hostileDishes⟩ hostilePage = .pairs true 2 2 ∧
      markup (table.onModel ⟨1, plainDishes⟩ plainPage)
        = markup (table.onModel ⟨2, hostileDishes⟩ hostilePage) := by
  intro table plainPage hostilePage
  have plain : table.shape ⟨1, plainDishes⟩ plainPage = .pairs true 2 2 := by decide
  have hostile : table.shape ⟨2, hostileDishes⟩ hostilePage = .pairs true 2 2 := by decide
  exact ⟨plain, hostile, markup_onModel_eq_of_shape_eq table (plain.trans hostile.symm)⟩

end Plugin

end CollectiveChoice

import CollectiveChoice.Proofs.Page.Markup
import CollectiveChoice.Proofs.Page.Sources
import CollectiveChoice.Proofs.Term.Order
import Mathlib.Data.List.Nodup
import Mathlib.Data.List.Perm.Subperm

/-!
# Lists of pairs and tables show the same relation

A source takes an atom if it has the predicate and the number of arguments and meets all conditions;
row and column are then the arguments at their fields (`PairSource.Takes`).  The pairs of a model are
collected three times over: as rows, as columns, and as the columns of each row.  All three agree with
what the source takes (`Relation.Lists`).

Whether the pairs are one-to-one is decided by counting.  If every row has one column only, there are
as many rows as pairs; so there are as many columns as rows just if no pair has the column of another
one (`isOneToOne_eq_true_iff`).  Then the list has one entry for each pair, and in any case the table
has a line for each row, a cell for each column, and a mark for each pair.  The two renderings find the
place of a value in different ways, by counting entries and by searching; it is the same place, and so
the value has the same label (`renderings_agree`).
-/

namespace CollectiveChoice

set_option autoImplicit false

/-! ## What a source takes -/

namespace PairSource

/-- An atom is taken for a pair: it has the predicate and one argument for each field, every condition
is met, as the text or as the key of the argument, and row and column stand at their fields. -/
structure Takes (source : PairSource) (atom : Atom) (row column : Value) : Prop where
  predicate : atom.predicate = source.predicate
  arity : atom.args.length = source.fields.length
  literals : ∀ text value, (SourceField.literal text, value) ∈ source.fields.zip atom.args →
    value.key = text ∨ value.display = text
  row : (SourceField.rows, row) ∈ source.fields.zip atom.args
  column : (SourceField.columns, column) ∈ source.fields.zip atom.args

/-- A field that is there once has one argument. -/
theorem argumentAt?_eq_some_iff {wanted : SourceField} {fields : List SourceField}
    {values : List Value} {value : Value} (once : fields.count wanted ≤ 1) :
    argumentAt? wanted fields values = some value ↔ (wanted, value) ∈ fields.zip values := by
  induction fields generalizing values with
  | nil => exact iff_of_false nofun nofun
  | cons field rest ih =>
      cases values with
      | nil => exact iff_of_false nofun nofun
      | cons first others =>
          rw [argumentAt?, List.zip_cons_cons, List.mem_cons, Prod.mk.injEq]
          by_cases here : field = wanted
          · have absent : wanted ∉ rest := by
              rw [here, List.count_cons_self] at once
              exact List.count_eq_zero.mp (by omega)
            have nowhere : (wanted, value) ∉ rest.zip others := fun inside =>
              absent (List.of_mem_zip inside).1
            rw [if_pos here, Option.some.injEq, or_iff_left nowhere, and_iff_right here.symm]
            exact eq_comm
          · rw [if_neg here, or_iff_right fun both => here both.1.symm]
            exact ih (Nat.le_trans (List.count_le_count_cons) once)

theorem accepts_eq_true_iff {field : SourceField} {value : Value} :
    field.accepts value = true
      ↔ ∀ text, field = .literal text → value.key = text ∨ value.display = text := by
  cases field with
  | literal text => simp [SourceField.accepts]
  | rows | columns | ignored => exact iff_of_true rfl nofun

/-- The pair that is found in an atom is the one for which the source takes it. -/
theorem pairOf?_eq_some_iff {source : PairSource} (readable : source.Readable) {atom : Atom}
    {row column : Value} :
    source.pairOf? atom = some (row, column) ↔ source.Takes atom row column := by
  have conditions : ((source.fields.zip atom.args).all fun entry => entry.1.accepts entry.2) = true
      ↔ ∀ text value, (SourceField.literal text, value) ∈ source.fields.zip atom.args →
          value.key = text ∨ value.display = text := by
    simp only [List.all_eq_true, accepts_eq_true_iff, Prod.forall]
    constructor
    · intro met text value inside
      exact met _ value inside text rfl
    · rintro met _ value inside text rfl
      exact met text value inside
  rw [pairOf?, Option.ite_none_right_eq_some, Option.ite_none_right_eq_some, conditions]
  constructor
  · rintro ⟨⟨predicate, arity⟩, literals, found⟩
    split at found
    case h_1 atRows atColumns =>
      cases found
      exact ⟨predicate, arity, literals, (argumentAt?_eq_some_iff readable.rows.le).mp atRows,
        (argumentAt?_eq_some_iff readable.columns.le).mp atColumns⟩
    case h_2 => cases found
  · rintro ⟨predicate, arity, literals, row, column⟩
    refine ⟨⟨predicate, arity⟩, literals, ?_⟩
    rw [(argumentAt?_eq_some_iff readable.rows.le).mpr row,
      (argumentAt?_eq_some_iff readable.columns.le).mpr column]

/-- A row and a column are a pair of a model if the source takes one of its atoms for it. -/
def Finds (source : PairSource) (model : Model) (row column : Value) : Prop :=
  ∃ atom ∈ model.atoms, source.Takes atom row column

theorem mem_pairs_iff {source : PairSource} (readable : source.Readable) {model : Model}
    {row column : Value} : (row, column) ∈ source.pairs model ↔ source.Finds model row column := by
  rw [pairs, List.mem_filterMap]
  simp only [pairOf?_eq_some_iff readable]
  rfl

end PairSource

/-! ## Relations -/

namespace Relation

/-- The pairs of a relation, row by row. -/
def pairs (relation : Relation) : List (Value × Value) :=
  relation.links.toList.flatMap fun entry => entry.2.toList.map (Prod.mk entry.1)

/-- The rows, the columns and the pairs of a relation are those of some related values, each of them
listed once and in order. -/
structure Lists (relation : Relation) (related : Value → Value → Prop) : Prop where
  rowsAscend : relation.rows.toList.Pairwise Value.Before
  rows : ∀ row, row ∈ relation.rows.toList ↔ ∃ column, related row column
  columnsAscend : relation.columns.toList.Pairwise Value.Before
  columns : ∀ column, column ∈ relation.columns.toList ↔ ∃ row, related row column
  once : relation.pairs.Nodup
  pairs : ∀ pair, pair ∈ relation.pairs ↔ related pair.1 pair.2

/-! ### Pairs are linked -/

/-- The links with one more pair. -/
def link (links : SortedMap Value (SortedSet Value)) (pair : Value × Value) :
    SortedMap Value (SortedSet Value) :=
  links.alter pair.1 fun columns => (columns.getD .empty).insert pair.2

/-- Whether a column is among those of a row. -/
def Linked (links : SortedMap Value (SortedSet Value)) (row column : Value) : Prop :=
  ∃ columns, links.find? row = some columns ∧ column ∈ columns

theorem linked_link {links : SortedMap Value (SortedSet Value)} {pair : Value × Value}
    {row column : Value} :
    Linked (link links pair) row column ↔ Linked links row column ∨ (row, column) = pair := by
  obtain ⟨first, second⟩ := pair
  rw [Linked, link, SortedMap.find?_alter, Prod.mk.injEq]
  by_cases same : row = first
  · subst same
    rw [if_pos rfl, and_iff_right rfl, Linked]
    cases links.find? row with
    | none =>
        have nothing : column ∉ (SortedSet.empty : SortedSet Value) := List.not_mem_nil
        simp [SortedSet.mem_insert, nothing]
    | some columns => simp [SortedSet.mem_insert, or_comm]
  · rw [if_neg same, or_iff_left fun both => same both.1]
    rfl

theorem linked_foldl_link (pairs : List (Value × Value))
    {links : SortedMap Value (SortedSet Value)} {row column : Value} :
    Linked (pairs.foldl link links) row column
      ↔ Linked links row column ∨ (row, column) ∈ pairs := by
  induction pairs generalizing links with
  | nil => simp
  | cons pair rest ih => rw [List.foldl_cons, ih, linked_link, List.mem_cons, or_assoc]

theorem links_ofModel (source : PairSource) (model : Model) :
    (ofModel source model).links = (source.pairs model).foldl link .empty :=
  (List.foldl_hom Relation.links fun _ _ => rfl).symm

theorem linked_ofModel {source : PairSource} {model : Model} {row column : Value} :
    Linked (ofModel source model).links row column ↔ (row, column) ∈ source.pairs model := by
  rw [links_ofModel, linked_foldl_link]
  refine or_iff_right ?_
  rintro ⟨columns, found, -⟩
  cases found

theorem keys_ofModel (source : PairSource) (model : Model) :
    (ofModel source model).links.keys = (ofModel source model).rows := by
  apply SortedSet.ext_mem
  intro row
  rw [links_ofModel, rows_ofModel, SortedSet.mem_ofList]
  refine (SortedMap.mem_keys_foldl_alter Prod.fst _ _ _ row).trans (or_iff_right List.not_mem_nil)

variable {relation : Relation}

theorem mem_pairs {row column : Value} :
    (row, column) ∈ relation.pairs ↔ Linked relation.links row column := by
  simp only [pairs, List.mem_flatMap, List.mem_map, Prod.mk.injEq]
  constructor
  · rintro ⟨⟨_, columns⟩, entry, column, inside, rfl, rfl⟩
    exact ⟨columns, SortedMap.find?_eq_some_iff_mem.mpr entry, inside⟩
  · rintro ⟨columns, found, inside⟩
    exact ⟨(row, columns), SortedMap.find?_eq_some_iff_mem.mp found, column, inside, rfl, rfl⟩

theorem nodup_pairs (relation : Relation) : relation.pairs.Nodup := by
  rw [pairs, List.nodup_flatMap]
  constructor
  · intro entry _
    exact entry.2.ascending.nodup.map fun _ _ same => (Prod.mk.inj same).2
  · refine relation.links.ascending.imp ?_
    intro entry later less pair inside insideLater
    obtain ⟨_, _, rfl⟩ := List.mem_map.mp inside
    obtain ⟨_, _, same⟩ := List.mem_map.mp insideLater
    rw [(Prod.mk.inj same).1, Std.ReflOrd.compare_self] at less
    cases less

theorem holds_eq_true_iff {row column : Value} :
    relation.holds row column = true ↔ (row, column) ∈ relation.pairs := by
  rw [mem_pairs, holds, Linked]
  cases relation.links.find? row with
  | none => exact iff_of_false Bool.false_ne_true nofun
  | some columns => simp [SortedSet.contains_iff_mem]

/-- What is collected from a model are the pairs that are found in it. -/
theorem lists_ofModel {source : PairSource} (readable : source.Readable) (model : Model) :
    (ofModel source model).Lists (source.Finds model) where
  rowsAscend :=
    (ofModel source model).rows.ascending.imp fun less =>
      (Value.compare_eq_lt_iff_before _ _).mp less
  rows := by
    intro row
    rw [SortedSet.mem_toList, rows_ofModel, SortedSet.mem_ofList, List.mem_map]
    simp [← PairSource.mem_pairs_iff readable]
  columnsAscend :=
    (ofModel source model).columns.ascending.imp fun less =>
      (Value.compare_eq_lt_iff_before _ _).mp less
  columns := by
    intro column
    rw [SortedSet.mem_toList, columns_ofModel, SortedSet.mem_ofList, List.mem_map]
    simp [← PairSource.mem_pairs_iff readable]
  once := nodup_pairs _
  pairs := by
    intro pair
    rw [mem_pairs, linked_ofModel, PairSource.mem_pairs_iff readable]

/-! ### One-to-one relations -/

/-- Some values are related, none of them to two others. -/
structure OneToOne (related : Value → Value → Prop) : Prop where
  nonempty : ∃ row column, related row column
  column : ∀ {row column other}, related row column → related row other → column = other
  row : ∀ {row other column}, related row column → related other column → row = other

/-- A list with the same members as one without repetitions is as long just if it has none either. -/
theorem length_eq_iff_nodup {members values : List Value} (nodup : members.Nodup)
    (same : ∀ value, value ∈ values ↔ value ∈ members) :
    values.length = members.length ↔ values.Nodup := by
  constructor
  · intro length
    have inside : members.Subperm values :=
      List.subperm_of_subset nodup fun value member => (same value).mpr member
    exact (List.Subperm.perm_of_length_le inside length.le).nodup nodup
  · intro distinct
    exact ((List.perm_ext_iff_of_nodup distinct nodup).mpr same).length_eq

/-- Each row has a single column. -/
def Single (relation : Relation) : Prop :=
  ∀ entry ∈ relation.links.toList, ∃ column, entry.2.toList = [column]

theorem single_iff {related : Value → Value → Prop} (lists : relation.Lists related)
    (keys : relation.links.keys = relation.rows) :
    relation.Single ↔ ∀ row column other, related row column → related row other →
      column = other := by
  have linked : ∀ {row column}, related row column ↔ Linked relation.links row column := by
    intro row column
    rw [← mem_pairs, lists.pairs]
  constructor
  · intro single row column other first second
    obtain ⟨columns, found, inside⟩ := linked.mp first
    obtain ⟨others, foundAgain, insideAgain⟩ := linked.mp second
    cases found.symm.trans foundAgain
    obtain ⟨only, shown⟩ := single (row, columns) (SortedMap.find?_eq_some_iff_mem.mp found)
    rw [← SortedSet.mem_toList, shown, List.mem_singleton] at inside insideAgain
    rw [inside, insideAgain]
  · rintro unique ⟨row, columns⟩ entry
    have found := SortedMap.find?_eq_some_iff_mem.mpr entry
    have member : row ∈ relation.rows.toList := by
      rw [SortedSet.mem_toList, ← keys, SortedMap.mem_keys, found]
      rfl
    obtain ⟨column, pair⟩ := (lists.rows row).mp member
    refine ⟨column, eq_of_ascending_of_mem_iff columns.ascending (List.pairwise_singleton _ _) ?_⟩
    intro other
    rw [List.mem_singleton]
    constructor
    · intro inside
      exact unique row other column (linked.mpr ⟨columns, found, inside⟩) pair
    · rintro rfl
      obtain ⟨others, foundAgain, inside⟩ := linked.mp pair
      cases found.symm.trans foundAgain
      exact inside

theorem Single.map_fst_pairs (single : relation.Single) :
    relation.pairs.map Prod.fst = relation.links.toList.map Prod.fst := by
  rw [pairs, List.map_flatMap, List.map_eq_flatMap]
  refine List.flatMap_congr fun entry inside => ?_
  obtain ⟨column, shown⟩ := single entry inside
  rw [shown]
  rfl

/-- If rows have single columns, there are as many columns as rows just if columns have single rows. -/
theorem Single.size_eq_iff {related : Value → Value → Prop} (single : relation.Single)
    (lists : relation.Lists related) :
    relation.links.size = relation.columns.size
      ↔ ∀ row other column, related row column → related other column → row = other := by
  have length : (relation.pairs.map Prod.snd).length = relation.links.size := by
    rw [List.length_map, ← List.length_map Prod.fst, single.map_fst_pairs, List.length_map]
    rfl
  have members : ∀ column,
      column ∈ relation.pairs.map Prod.snd ↔ column ∈ relation.columns.toList := by
    intro column
    simp [lists.columns, lists.pairs]
  have counted := length_eq_iff_nodup relation.columns.ascending.nodup members
  rw [← length]
  refine counted.trans ((List.nodup_map_iff_inj_on lists.once).trans ?_)
  simp only [lists.pairs, Prod.forall, Prod.mk.injEq]
  constructor
  · intro distinct row other column first second
    exact (distinct row column first other column second rfl).1
  · rintro unique row column first other _ second rfl
    exact ⟨unique row other column first second, rfl⟩

/-- **The counting decides whether a relation is one-to-one.** -/
theorem isOneToOne_eq_true_iff {related : Value → Value → Prop} (lists : relation.Lists related)
    (keys : relation.links.keys = relation.rows) :
    relation.isOneToOne = true ↔ OneToOne related := by
  have some : relation.links.isEmpty = false ↔ ∃ row column, related row column := by
    have rows : relation.rows.toList = relation.links.toList.map Prod.fst := by
      rw [← keys]
      rfl
    simp only [← lists.rows, rows, ← List.isEmpty_eq_false_iff_exists_mem, List.isEmpty_map]
    rfl
  have single : (relation.links.values.all fun columns => columns.size == 1) = true
      ↔ relation.Single := by
    simp only [SortedMap.values, List.all_map, List.all_eq_true, Function.comp_apply, beq_iff_eq,
      SortedSet.size, List.length_eq_one_iff]
    rfl
  rw [isOneToOne, Bool.and_eq_true, Bool.and_eq_true, Bool.not_eq_true', some, single, beq_iff_eq]
  constructor
  · rintro ⟨⟨nonempty, single⟩, size⟩
    refine ⟨nonempty, ?_, ?_⟩
    · exact (single_iff lists keys).mp single _ _ _
    · exact (single.size_eq_iff lists).mp size _ _ _
  · rintro ⟨nonempty, column, row⟩
    have single : relation.Single := (single_iff lists keys).mpr fun _ _ _ => column
    exact ⟨⟨nonempty, single⟩, (single.size_eq_iff lists).mpr fun _ _ _ => row⟩

end Relation

/-! ## Renderings -/

/-- A list without repetitions, with the place of each item among the keys of all of them. -/
theorem zipIdx_eq_map_idxOf {α : Type} {items : List α} {key : α → Value}
    (nodup : (items.map key).Nodup) :
    items.zipIdx = items.map fun item => (item, (items.map key).idxOf (key item)) := by
  apply List.ext_getElem
  · rw [List.length_zipIdx, List.length_map]
  · intro place inside _
    have found := nodup.idxOf_getElem place
      (by rwa [List.length_zipIdx, ← List.length_map key] at inside)
    rw [List.getElem_map] at found
    rw [List.getElem_zipIdx, List.getElem_map, found, Nat.zero_add]

theorem mapIdx_eq_map_idxOf {β : Type} {values : List Value} (nodup : values.Nodup)
    (shown : Nat → Value → β) :
    values.mapIdx shown = values.map fun value => shown (values.idxOf value) value := by
  rw [List.mapIdx_eq_zipIdx_map, @zipIdx_eq_map_idxOf _ values id (by rwa [List.map_id]),
    List.map_map, List.map_id]
  rfl

namespace AssociationTable

variable {table : AssociationTable} {relation : Relation} {labels : Labels}

/-- The label of a row, which depends on its place among all rows. -/
def rowLabel (table : AssociationTable) (relation : Relation) (labels : Labels) (row : Value) :
    String :=
  table.rows.label labels row (relation.rows.toList.idxOf row)

/-- The label of a column, which depends on its place among all columns. -/
def columnLabel (table : AssociationTable) (relation : Relation) (labels : Labels)
    (column : Value) : String :=
  table.columns.label labels column (relation.columns.toList.idxOf column)

/-- The entry of a pair, with the labels of both sides. -/
def entryText (table : AssociationTable) (relation : Relation) (labels : Labels)
    (pair : Value × Value) : String :=
  String.join [
    "<li>", table.rowLabel relation labels pair.1, " ", Text.escapeMarkup table.pairLink, " ",
    table.columnLabel relation labels pair.2, "</li>"]

/-- A list with one entry for each pair. -/
def pairsText (table : AssociationTable) (relation : Relation) (labels : Labels) : String :=
  String.join [
    "<div style=\"display: inline-block\">",
    "<ul style=\"text-align: left; list-style-type:none\">",
    String.join (relation.pairs.map (table.entryText relation labels)), "</ul></div>"]

/-- A table with one line for each row and one cell in it for each column, with marks in the cells of
the pairs. -/
def gridText (table : AssociationTable) (relation : Relation) (labels : Labels) : String :=
  let headings := relation.columns.toList.map fun column =>
    String.join ["   <th>", table.columnLabel relation labels column, "</th>\n"]
  let lines := relation.rows.toList.map fun row =>
    let cells := relation.columns.toList.map fun column =>
      String.join ["   <td>", if (row, column) ∈ relation.pairs then "×" else "", "</td>\n"]
    String.join [
      " <tr>\n  <td>", table.rowLabel relation labels row, "</td>", String.join cells, " </tr>\n"]
  String.join [
    "<table> <tr>\n  <td></td>\n", String.join headings, " </tr>\n", String.join lines, "</table>",
    table.showCaption]

/-- Where rows have single columns, the list goes through all pairs. -/
theorem showPairs_eq (table : AssociationTable) (single : relation.Single)
    (keys : relation.links.keys = relation.rows) (labels : Labels) :
    table.showPairs relation labels = table.pairsText relation labels := by
  have rows : relation.links.toList.map Prod.fst = relation.rows.toList :=
    congrArg SortedSet.toList keys
  have nodup : (relation.links.toList.map Prod.fst).Nodup := rows ▸ relation.rows.ascending.nodup
  have entries : (relation.links.toList.zipIdx.filterMap fun entry =>
      entry.1.2.toList.head?.map
        (table.pairEntry labels relation.columns.toList entry.2 entry.1.1))
          = relation.pairs.map (table.entryText relation labels) := by
    rw [zipIdx_eq_map_idxOf nodup, rows, List.filterMap_map, List.filterMap_eq_flatMap_toList,
      Relation.pairs, List.map_flatMap]
    refine List.flatMap_congr fun entry inside => ?_
    obtain ⟨column, shown⟩ := single entry inside
    simp only [Function.comp_apply, shown]
    rfl
  rw [pairsText, ← entries]
  rfl

theorem showTable_eq (table : AssociationTable) (relation : Relation) (labels : Labels) :
    table.showTable relation labels = table.gridText relation labels := by
  have cells : ∀ row, cell relation row = fun column =>
      String.join ["   <td>", if (row, column) ∈ relation.pairs then "×" else "", "</td>\n"] := by
    intro row
    funext column
    simp only [cell, Relation.holds_eq_true_iff]
  rw [showTable, gridText, mapIdx_eq_map_idxOf relation.columns.ascending.nodup,
    mapIdx_eq_map_idxOf relation.rows.ascending.nodup]
  simp only [line, cells]
  rfl

/-- **Lists of pairs and tables show the same relation.**  Rows, columns and pairs are those the
source finds in the model, each listed once and the former two in ascending order.  The relation passes
for one-to-one just if the pairs are.  Then the list has an entry for each pair.  The table has a line
for each row and a cell for each column, with a mark where they are a pair.  Each value has one label,
whether it is shown in the list or in the table. -/
theorem renderings_agree (table : AssociationTable) (readable : table.source.Readable)
    (model : Model) (context : PageContext) :
    let relation := Relation.ofModel table.source model
    relation.Lists (table.source.Finds model) ∧
    (relation.isOneToOne = true ↔ Relation.OneToOne (table.source.Finds model)) ∧
    (relation.isOneToOne = true →
      table.showPairs relation context.labels = table.pairsText relation context.labels) ∧
    table.showTable relation context.labels = table.gridText relation context.labels ∧
    ∀ index, table.onModel ⟨index, model⟩ context =
      if table.pairList = true ∧ relation.isOneToOne = true then
        table.pairsText relation context.labels
      else table.gridText relation context.labels := by
  intro relation
  have lists : relation.Lists (table.source.Finds model) := Relation.lists_ofModel readable model
  have keys : relation.links.keys = relation.rows := Relation.keys_ofModel table.source model
  have decided := Relation.isOneToOne_eq_true_iff lists keys
  have listed : relation.isOneToOne = true →
      table.showPairs relation context.labels = table.pairsText relation context.labels := by
    intro paired
    have single := (Relation.single_iff lists keys).mpr fun _ _ _ => (decided.mp paired).column
    exact table.showPairs_eq single keys context.labels
  refine ⟨lists, decided, listed, showTable_eq table relation context.labels, ?_⟩
  intro index
  rw [onModel]
  simp only [Bool.and_eq_true]
  split
  case isTrue shown => exact listed shown.2
  case isFalse => exact showTable_eq table relation context.labels

/-- A table of the scores that count, with two labels for its columns in turn. -/
def scoring : AssociationTable :=
  { standard with
    rows := .raw
    columns := .cycle "odd" ["even"]
    source := ⟨"score", [.columns, .ignored, .rows, .literal "yes"]⟩ }

/-- Two scores that count, and one that does not. -/
def scores : Model where
  atoms := .ofList [
    ⟨"score", [.int 3, .sym "x", .sym "ada", .sym "yes"]⟩,
    ⟨"score", [.int 2, .sym "x", .sym "ada", .sym "no"]⟩,
    ⟨"score", [.int 1, .sym "y", .sym "bob", .str "yes"]⟩]
  id := "scores"

theorem scoring_renderings_agree :
    PairSource.parse "score/columns,_, rows,yes" = .ok scoring.source ∧
    (Relation.ofModel scoring.source scores).pairs = [(.sym "ada", .int 3), (.sym "bob", .int 1)] ∧
    Relation.OneToOne (scoring.source.Finds scores) ∧
    scoring.onModel ⟨1, scores⟩ (Plugin.pageOf scores .empty)
      = scoring.pairsText (Relation.ofModel scoring.source scores) ⟨.empty, .empty⟩ ∧
    scoring.columnLabel (Relation.ofModel scoring.source scores) ⟨.empty, .empty⟩ (.int 3)
      = "even" := by
  have read : PairSource.parse "score/columns,_, rows,yes" = .ok scoring.source := by rfl
  have readable : scoring.source.Readable := PairSource.readable_of_parse read
  obtain ⟨-, decided, -, -, shown⟩ :=
    renderings_agree scoring readable scores (Plugin.pageOf scores .empty)
  have paired : (Relation.ofModel scoring.source scores).isOneToOne = true := by decide
  refine ⟨read, by decide, decided.mp paired, ?_, by decide⟩
  rw [shown 1, if_pos ⟨rfl, paired⟩]
  rfl

end AssociationTable

end CollectiveChoice

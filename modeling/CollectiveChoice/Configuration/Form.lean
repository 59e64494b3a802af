import CollectiveChoice.Configuration.Basic
import CollectiveChoice.Configuration.PluginForm

/-!
# Configurations as JSON

A configuration is read from a text in which every section and entry may be missing, and written with
every entry in its canonical form.  Several entries have more than one form when they are read: an
item may be its id, a cardinality or a default may be a name, a list may be a text of words.
-/

namespace CollectiveChoice

set_option autoImplicit false

namespace ConfigurationForm

open Draft (Member)
open Reading (Result)

/-- An entry of a section. -/
abbrev Entry (α : Type) := Member ConfigurationFault α

/-! ## Items -/

/-- An item whose members may not have been seen yet. -/
structure PartialItem where
  label : Option String
  id : Option String

/-- The members of an item. -/
def itemEntries : List (Entry PartialItem) := [
  .of "label" Draft.string fun label item => { item with label := some label },
  .of "id" (Reading.forms 127 Reading.scalar) fun id item => { item with id := some id }]

/-- An item: its id, or an object with label and id. -/
def item : Json → Result Item
  | .object members => do
    let found ← (Draft.ofJson (.object members)).assemble itemEntries ⟨none, none⟩
    match found with
    | ⟨some label, some id⟩ => .ok ⟨label, id⟩
    | _ => .error .malformed
  | value => do
    let id ← Reading.scalar value
    return ⟨id, id⟩

/-- An item as JSON. -/
def itemJson (item : Item) : Json :=
  .object [("label", .string item.label), ("id", .string item.id)]

/-! ## Choice groups -/

/-- Bounds whose members may not have been seen yet. -/
structure PartialCardinality where
  min : Option UInt64
  max : Option UInt64

/-- The members of bounds. -/
def cardinalityEntries : List (Entry PartialCardinality) := [
  .of "min" Reading.word64 fun min bounds => { bounds with min := some min },
  .of "max" (Draft.optional Reading.word64) fun max bounds => { bounds with max }]

/-- The bounds a name stands for. -/
def namedCardinality (name : String) : Result Cardinality :=
  match name with
  | "any" => .ok .any
  | "multiple" => .ok .any
  | "at least 1" => .ok ⟨1, none⟩
  | "at most 1" => .ok ⟨0, some 1⟩
  | "exactly 1" => .ok ⟨1, some 1⟩
  | "single" => .ok ⟨1, some 1⟩
  | name => .error (.refused (.cardinality name))

/-- Bounds: a name, or an object with the least and the greatest number. -/
def cardinality : Json → Result Cardinality
  | .string name => namedCardinality name
  | .object members => do
    let found ← (Draft.ofJson (.object members)).assemble cardinalityEntries ⟨none, none⟩
    match found.min with
    | some min => .ok ⟨min, found.max⟩
    | none => .error .malformed
  | _ => .error .malformed

/-- Bounds as JSON. -/
def cardinalityJson (cardinality : Cardinality) : Json :=
  .object [
    ("min", .integer cardinality.min.toNat),
    ("max", .orNull (fun greatest : UInt64 => .integer greatest.toNat) cardinality.max)]

/-- A default selection: a name, or a list of ids. -/
def defaultSelection : Json → Result DefaultSelection
  | .string "all" => .ok .all
  | .string "none" => .ok .nothing
  | .string name => .error (.refused (.defaultSelection name))
  | .array items =>
    match Reading.scalars? items with
    | some ids => .ok (.items ids)
    | none => .error .malformed
  | _ => .error .malformed

/-- A default selection as JSON. -/
def defaultSelectionJson : DefaultSelection → Json
  | .all => .string "all"
  | .nothing => .string "none"
  | .items ids => .strings ids

/-- A rank: a truth value or an integer. -/
def rank : Json → Result Rank
  | .bool holds => .ok (.absolute holds)
  | .integer number =>
    if Text.isInt64 number then .ok (.level (Int64.ofInt number)) else .error .malformed
  | _ => .error .malformed

/-- A rank as JSON. -/
def rankJson : Rank → Json
  | .absolute holds => .bool holds
  | .level number => .integer number.toInt

/-- The entries of a choice group. -/
def groupEntries : List (Entry ChoiceGroup) := [
  .of "description" Draft.string fun description group => { group with description },
  .of "items" (Draft.array (Reading.forms 123 item)) fun items group => { group with items },
  (Member.of "cardinality" (Reading.forms 124 cardinality)
    fun cardinality (group : ChoiceGroup) => { group with cardinality }).orKey "type",
  .of "default" (Reading.forms 124 defaultSelection) fun default group => { group with default },
  .of "produced_atoms" (Reading.forms 124 Reading.templates)
    fun producedAtoms group => { group with producedAtoms },
  .of "data_atoms" (Reading.forms 124 Reading.templates)
    fun dataAtoms group => { group with dataAtoms },
  .of "ranks" (Draft.mapping (Reading.forms 123 rank)) fun ranks group => { group with ranks }]

/-- A choice group. -/
def group (draft : Draft) : Result ChoiceGroup :=
  draft.assemble groupEntries .standard

/-- A choice group as JSON. -/
def groupJson (group : ChoiceGroup) : Json :=
  let sources (templates : List Template) := Json.strings (templates.map Template.source)
  .object [
    ("description", .string group.description),
    ("items", .array (group.items.map itemJson)),
    ("cardinality", cardinalityJson group.cardinality),
    ("default", defaultSelectionJson group.default),
    ("produced_atoms", sources group.producedAtoms),
    ("data_atoms", sources group.dataAtoms),
    ("ranks", .object (group.ranks.mapValues rankJson).toList)]

/-! ## Sections -/

/-- The spellings of the times of compilation. -/
def compilationNames : List (String × CompilationMode) := [
  ("direct access", .directAccess), ("direct_access", .directAccess),
  ("specific access", .specificAccess), ("specific_access", .specificAccess)]

/-- The canonical spelling of a time of compilation. -/
def compilationName : CompilationMode → String
  | .directAccess => "direct access"
  | .specificAccess => "specific access"

/-- The entries of the global section. -/
def globalEntries : List (Entry GlobalOptions) := [
  .of "base_encoding" Draft.string fun baseEncoding global => { global with baseEncoding },
  .of "shows" (Reading.forms 125 Reading.words) fun shows global => { global with shows },
  .of "compilation" (Draft.name compilationNames)
    fun compilation global => { global with compilation }]

/-- The global section as JSON. -/
def globalJson (global : GlobalOptions) : Json :=
  .object [
    ("base_encoding", .string global.baseEncoding), ("shows", .strings global.shows),
    ("compilation", .string (compilationName global.compilation))]

/-- The spellings of the kinds of admission. -/
def admissionNames : List (String × Admission) := [
  ("restricted", .restricted), ("open", .everyone), ("valid-id", .everyone)]

/-- The canonical spelling of a kind of admission. -/
def admissionName : Admission → String
  | .restricted => "restricted"
  | .everyone => "open"

/-- The entries of the user section. -/
def userEntries : List (Entry UserOptions) := [
  (Member.of "mode" (Draft.name admissionNames)
    fun mode (users : UserOptions) => { users with mode }).orKey "type",
  .of "allowed" (Draft.array (Reading.forms 124 item)) fun allowed users => { users with allowed },
  .of "description" Draft.string fun description users => { users with description }]

/-- The user section as JSON. -/
def usersJson (users : UserOptions) : Json :=
  .object [
    ("mode", .string (admissionName users.mode)),
    ("allowed", .array (users.allowed.map itemJson)),
    ("description", .string users.description)]

/-- The spellings of the ways to select models. -/
def selectionNames : List (String × ModelSelection) := [
  ("first", .first), ("sampling", .sampling)]

/-- The canonical spelling of a way to select models. -/
def selectionName : ModelSelection → String
  | .first => "first"
  | .sampling => "sampling"

/-- A chain of plugins in the output section. -/
def chainEntry (key : String) (store : List Plugin → PageLayout → PageLayout) :
    Entry OutputOptions :=
  .of key (Reading.forms 125 PluginForm.chain)
    fun plugins output => { output with layout := store plugins output.layout }

/-- The entries of the output section. -/
def outputEntries : List (Entry OutputOptions) := [
  .of "max_models" Reading.word64 fun maxModels output => { output with maxModels },
  .of "model_selection" (Draft.name selectionNames)
    fun modelSelection output => { output with modelSelection },
  .of "sampling_seed" (Draft.optional Reading.word64)
    fun samplingSeed output => { output with samplingSeed },
  .of "id_words" Reading.word64 fun idWords output => { output with idWords },
  chainEntry "header_repr" fun header layout => { layout with header },
  chainEntry "footer_repr" fun footer layout => { layout with footer },
  chainEntry "model_header_repr" fun modelHeader layout => { layout with modelHeader },
  chainEntry "model_repr" fun modelBody layout => { layout with modelBody },
  chainEntry "inline_repr" fun plugins layout => { layout with inline := plugins },
  chainEntry "model_footer_repr" fun modelFooter layout => { layout with modelFooter },
  (Member.of "unsat_message" Draft.string
    fun unsatMessage (output : OutputOptions) =>
      { output with layout := { output.layout with unsatMessage } }).orKey
        "insatisfiability_message"]

/-- The output section as JSON. -/
def outputJson (output : OutputOptions) : Json :=
  let layout := output.layout
  .object [
    ("max_models", .integer output.maxModels.toNat),
    ("model_selection", .string (selectionName output.modelSelection)),
    ("sampling_seed", .orNull (fun seed : UInt64 => .integer seed.toNat) output.samplingSeed),
    ("id_words", .integer output.idWords.toNat),
    ("header_repr", PluginForm.chainJson layout.header),
    ("footer_repr", PluginForm.chainJson layout.footer),
    ("model_header_repr", PluginForm.chainJson layout.modelHeader),
    ("model_repr", PluginForm.chainJson layout.modelBody),
    ("inline_repr", PluginForm.chainJson layout.inline),
    ("model_footer_repr", PluginForm.chainJson layout.modelFooter),
    ("unsat_message", .string layout.unsatMessage)]

/-- The spellings of the ways to solve. -/
def solvingNames : List (String × SolvingMode) := [("all", .all), ("optimals", .optimals)]

/-- The canonical spelling of a way to solve. -/
def solvingName : SolvingMode → String
  | .all => "all"
  | .optimals => "optimals"

/-- The entries of the solver section. -/
def solverEntries : List (Entry SolverOptions) := [
  .of "path" (Draft.optional Draft.string) fun path solver => { solver with path },
  .of "cli" (Reading.forms 125 Reading.words) fun cli solver => { solver with cli },
  .of "constants" (Draft.mapping (Reading.forms 124 Reading.scalar))
    fun constants solver => { solver with constants },
  .of "solving_mode" (Draft.name solvingNames)
    fun solvingMode solver => { solver with solvingMode },
  .of "timeout_secs" Reading.word64 fun timeoutSeconds solver => { solver with timeoutSeconds }]

/-- The solver section as JSON. -/
def solverJson (solver : SolverOptions) : Json :=
  .object [
    ("path", .orNull Json.string solver.path), ("cli", .strings solver.cli),
    ("constants", .object (solver.constants.mapValues Json.string).toList),
    ("solving_mode", .string (solvingName solver.solvingMode)),
    ("timeout_secs", .integer solver.timeoutSeconds.toNat)]

/-- The entries of the history section. -/
def historyEntries : List (Entry HistoryOptions) := [
  .of "time_format" Draft.string fun timeFormat history => { history with timeFormat }]

/-- The history section as JSON. -/
def historyJson (history : HistoryOptions) : Json :=
  .object [("time_format", .string history.timeFormat)]

/-! ## Configurations -/

/-- A section, read with its standard entries. -/
def sectionOf {α : Type} (entries : List (Entry α)) (standard : α) (draft : Draft) : Result α :=
  draft.assemble entries standard

/-- The sections of a configuration. -/
def sections : List (Entry Configuration) := [
  .of "global" (sectionOf globalEntries .standard) fun global config => { config with global },
  .of "users" (sectionOf userEntries .standard) fun users config => { config with users },
  .of "choice_groups" (Draft.array group)
    fun choiceGroups config => { config with choiceGroups },
  .of "output" (sectionOf outputEntries .standard) fun output config => { config with output },
  .of "solver" (sectionOf solverEntries .standard) fun solver config => { config with solver },
  .of "history" (sectionOf historyEntries .standard)
    fun history config => { config with history }]

/-- Reads a configuration from a text, without checking that it is consistent. -/
def read (text : String) : Result Configuration :=
  (Draft.Document.read text).decode fun draft => draft.assemble sections .standard

/-- A configuration as JSON, with every entry. -/
def toJson (config : Configuration) : Json :=
  .object [
    ("global", globalJson config.global), ("users", usersJson config.users),
    ("choice_groups", .array (config.choiceGroups.map groupJson)),
    ("output", outputJson config.output), ("solver", solverJson config.solver),
    ("history", historyJson config.history)]

end ConfigurationForm

end CollectiveChoice

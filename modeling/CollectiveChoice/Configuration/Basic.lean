import CollectiveChoice.Choices
import CollectiveChoice.Page.Plugin

/-!
# Configurations

A configuration says which users may choose, between which items, how choices become facts of a
program, how the program is solved and how its models are shown.
-/

namespace CollectiveChoice

set_option autoImplicit false

/-! ## Users and items -/

/-- Something that is shown under a label and named by an id. -/
structure Item where
  label : String
  id : String
deriving DecidableEq, Repr

/-- Who may choose. -/
inductive Admission where
  /-- The listed users. -/
  | restricted
  /-- Everybody with a well-formed id. -/
  | everyone
deriving DecidableEq, Repr

/-- The users of an instance. -/
structure UserOptions where
  mode : Admission
  allowed : List Item
  /-- What the page for the choice of a user says. -/
  description : String
deriving DecidableEq

/-! ## Choice groups -/

/-- Bounds on the number of items in a selection. -/
structure Cardinality where
  min : UInt64
  /-- The greatest number, if there is one. -/
  max : Option UInt64
deriving DecidableEq

namespace Cardinality

/-- Any number. -/
def any : Cardinality := ⟨0, none⟩

/-- Whether a number lies within the bounds. -/
def allows (cardinality : Cardinality) (count : Nat) : Bool :=
  cardinality.min.toNat ≤ count &&
    match cardinality.max with
    | none => true
    | some greatest => count ≤ greatest.toNat

end Cardinality

/-- What is selected for users who have not chosen. -/
inductive DefaultSelection where
  | all
  | nothing
  | items (ids : List String)
deriving DecidableEq, Repr

/-- A rank: a level, or the plain statement that something is or is not ranked. -/
inductive Rank where
  | absolute (holds : Bool)
  | level (number : Int64)
deriving DecidableEq

/-- A set of items users choose from. -/
structure ChoiceGroup where
  /-- What is shown above the items. -/
  description : String
  items : List Item
  /-- How many items a user may select. -/
  cardinality : Cardinality
  /-- What is selected for users who have not chosen. -/
  default : DefaultSelection
  /-- The facts stated for each user and selected item. -/
  producedAtoms : List Template
  /-- The facts stated for everything that may be chosen. -/
  dataAtoms : List Template
  /-- The ranks, by name. -/
  ranks : SortedMap String Rank
deriving DecidableEq

namespace ChoiceGroup

/-- A group without items. -/
def standard : ChoiceGroup where
  description := ""
  items := []
  cardinality := .any
  default := .all
  producedAtoms := []
  dataAtoms := []
  ranks := .empty

/-- The ids of the items, in order. -/
def itemIds (group : ChoiceGroup) : List String :=
  group.items.map Item.id

/-- Whether an id names an item of the group. -/
def hasItem (group : ChoiceGroup) (id : String) : Bool :=
  group.itemIds.contains id

/-- The selection for users who have not chosen. -/
def defaultSelection (group : ChoiceGroup) : Selection :=
  match group.default with
  | .all => .ofList group.itemIds
  | .nothing => .empty
  | .items ids => .ofList ids

/-- The levels among the ranks, in the order of their names. -/
def rankLevels (group : ChoiceGroup) : List String :=
  group.ranks.values.filterMap fun
    | .level number => some (Text.decimalInt number.toInt)
    | .absolute _ => none

/-- The plain ranks as `yes` and `no`, in the order of their names. -/
def absoluteRanks (group : ChoiceGroup) : List String :=
  group.ranks.values.filterMap fun
    | .absolute holds => some (if holds then "yes" else "no")
    | .level _ => none

end ChoiceGroup

/-! ## The other sections -/

/-- When results are compiled. -/
inductive CompilationMode where
  /-- When they are read. -/
  | directAccess
  /-- When it is asked for. -/
  | specificAccess
deriving DecidableEq, Repr

/-- The program and what is shown of its models. -/
structure GlobalOptions where
  /-- The program that choices are added to. -/
  baseEncoding : String
  shows : List String
  compilation : CompilationMode
deriving DecidableEq

/-- Which models are kept when there are too many. -/
inductive ModelSelection where
  | first
  | sampling
deriving DecidableEq, Repr

/-- How models are selected and shown. -/
structure OutputOptions where
  /-- The greatest number of models, where zero sets no limit. -/
  maxModels : UInt64
  modelSelection : ModelSelection
  samplingSeed : Option UInt64
  /-- The number of words in the id of a model. -/
  idWords : UInt64
  layout : PageLayout
deriving DecidableEq

/-- Which answers a solver reports. -/
inductive SolvingMode where
  | all
  | optimals
deriving DecidableEq, Repr

/-- How the solver is called. -/
structure SolverOptions where
  /-- The program to run, looked up by its usual name where absent. -/
  path : Option String
  cli : List String
  constants : SortedMap String String
  solvingMode : SolvingMode
  timeoutSeconds : UInt64
deriving DecidableEq

/-- How the history is shown. -/
structure HistoryOptions where
  /-- The pattern for points in time. -/
  timeFormat : String
deriving DecidableEq

/-- A complete configuration. -/
structure Configuration where
  global : GlobalOptions
  users : UserOptions
  choiceGroups : List ChoiceGroup
  output : OutputOptions
  solver : SolverOptions
  history : HistoryOptions
deriving DecidableEq

/-! ## What holds where nothing is said -/

/-- The global section without entries. -/
def GlobalOptions.standard : GlobalOptions := ⟨"", [], .directAccess⟩

/-- The user section without entries. -/
def UserOptions.standard : UserOptions := ⟨.everyone, [], ""⟩

/-- The page where no chain is given: a banner and a table for each model. -/
def PageLayout.standard : PageLayout where
  header := []
  footer := []
  modelHeader := [.title .standard]
  modelBody := [.table .standard]
  inline := []
  modelFooter := []
  unsatMessage := "<i>That program is unsatisfiable.</i>"

/-- The output section without entries. -/
def OutputOptions.standard : OutputOptions where
  maxModels := 0
  modelSelection := .first
  samplingSeed := none
  idWords := 3
  layout := .standard

/-- The solver section without entries. -/
def SolverOptions.standard : SolverOptions := ⟨none, [], .empty, .all, 60⟩

/-- The history section without entries. -/
def HistoryOptions.standard : HistoryOptions := ⟨"%Y/%m/%d %H:%M"⟩

/-- The configuration without entries. -/
def Configuration.standard : Configuration where
  global := .standard
  users := .standard
  choiceGroups := []
  output := .standard
  solver := .standard
  history := .standard

namespace Configuration

/-- The ids of the listed users. -/
def allowedIds (config : Configuration) : List String :=
  config.users.allowed.map Item.id

/-- The selection for users who have not chosen in a group, empty where there is no such group. -/
def defaultSelection (config : Configuration) (group : Nat) : Selection :=
  match config.choiceGroups[group]? with
  | some group => group.defaultSelection
  | none => .empty

/-- The default selections of all groups. -/
def defaultSelections (config : Configuration) : List Selection :=
  config.choiceGroups.map ChoiceGroup.defaultSelection

/-- The choices an instance starts with: the defaults for every listed user where only they may
choose, and none otherwise. -/
def initialChoices (config : Configuration) : Choices :=
  match config.users.mode with
  | .restricted =>
    .ofList (config.allowedIds.map fun user => (user, config.defaultSelections))
  | .everyone => .empty

/-- The labels of users and items.  An item of several groups has the label of the first one. -/
def labels (config : Configuration) : Labels where
  users := .ofList (config.users.allowed.map fun user => (user.id, user.label))
  items :=
    .ofList ((config.choiceGroups.flatMap ChoiceGroup.items).reverse.map fun item =>
      (item.id, item.label))

end Configuration

end CollectiveChoice

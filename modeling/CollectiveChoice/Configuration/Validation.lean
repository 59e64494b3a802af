import CollectiveChoice.Configuration.Form

/-!
# Consistent configurations

A configuration is checked once, before anything is compiled.  The checks are made in a fixed order
and the first one that fails is reported.  What they ensure: there is something to choose in every
group, ids are unique, every selection that is asked for can be made, and every placeholder of a
template has a value where the template is used.
-/

namespace CollectiveChoice

set_option autoImplicit false

/-- Why a configuration is refused. -/
inductive ConfigurationError where
  | parse (fault : Fault ConfigurationFault)
  | noChoiceGroups
  | emptyGroup (group : Nat)
  /-- Two users, or two items of a group, have one id. -/
  | duplicateId (scope id : String)
  /-- The least number is above the greatest one. -/
  | invertedBounds (group least greatest : Nat)
  /-- The least number is above the number of items. -/
  | unreachableBound (group least available : Nat)
  /-- The default selects an item that is none of the group. -/
  | unknownDefaultItem (group : Nat) (item : String)
  /-- A template has a placeholder that has no value in its place. -/
  | unknownPlaceholder (context template placeholder : String)
  /-- The number of words in ids is out of bounds. -/
  | invalidIdWords (words : Nat)
  /-- A sample is to be taken of optimal models. -/
  | samplingWithOptimals
  /-- The options of a plugin are refused. -/
  | invalidPlugin (kind : String) (reason : OptionError)
deriving DecidableEq, Repr

/-- The message of an error, where there is one. -/
def ConfigurationError.message? : ConfigurationError → Option String
  | .parse fault => fault.message?
  | .noChoiceGroups => some "at least one choice group is required"
  | .emptyGroup group => some ("choice group " ++ Text.decimalNat group ++ " has no items")
  | .duplicateId scope id => some ("duplicate id " ++ Text.quoted id ++ " in " ++ scope)
  | .invertedBounds group least greatest =>
    some ("choice group " ++ Text.decimalNat group ++ " has invalid cardinality: min " ++
      Text.decimalNat least ++ " is greater than max " ++ Text.decimalNat greatest)
  | .unreachableBound group least available =>
    some ("choice group " ++ Text.decimalNat group ++ " has invalid cardinality: min " ++
      Text.decimalNat least ++ " exceeds the " ++ Text.decimalNat available ++ " available items")
  | .unknownDefaultItem group item =>
    some ("choice group " ++ Text.decimalNat group ++ " default selects unknown item " ++
      Text.quoted item)
  | .unknownPlaceholder context template placeholder =>
    some (context ++ ": template " ++ Text.quoted template ++ " uses unknown placeholder \x7b" ++
      placeholder ++ "\x7d")
  | .invalidIdWords words =>
    some ("id_words must be between " ++ Text.decimalNat Digest.minWords ++ " and " ++
      Text.decimalNat Digest.maxWords ++ ", got " ++ Text.decimalNat words)
  | .samplingWithOptimals =>
    some "model selection 'sampling' cannot be combined with solving mode 'optimals'"
  | .invalidPlugin kind reason =>
    some ("plugin " ++ Text.quoted kind ++ ": " ++ reason.message)

namespace Configuration

/-- The placeholders of the templates for choices. -/
def producedPlaceholders : List String := ["user", "choice"]

/-- The placeholders of the templates for what may be chosen. -/
def dataPlaceholders : List String := ["user", "choice", "rank", "absolute_rank", "any_rank"]

/-- The first entry of a list that occurred before it. -/
def firstDuplicate? : List String → List String → Option String
  | _, [] => none
  | seen, id :: rest => if seen.contains id then some id else firstDuplicate? (id :: seen) rest

/-- Checks that ids are unique. -/
def checkUnique (scope : String) (ids : List String) : Except ConfigurationError Unit :=
  match firstDuplicate? [] ids with
  | some id => .error (.duplicateId scope id)
  | none => .ok ()

/-- Checks that templates have no other placeholders than the allowed ones. -/
def checkTemplates (context : String) (allowed : List String) :
    List Template → Except ConfigurationError Unit
  | [] => .ok ()
  | template :: rest =>
    match template.unknownPlaceholder? allowed with
    | some placeholder =>
      .error (.unknownPlaceholder context template.source placeholder)
    | none => checkTemplates context allowed rest

/-- Checks that the bounds of a group are in order and can be reached. -/
def checkCardinality (index : Nat) (group : ChoiceGroup) : Except ConfigurationError Unit := do
  let least := group.cardinality.min.toNat
  match group.cardinality.max with
  | some greatest =>
    if greatest.toNat < least then
      throw (.invertedBounds index least greatest.toNat)
  | none => pure ()
  if group.items.length < least then
    throw (.unreachableBound index least group.items.length)

/-- Checks that the default of a group selects items of the group. -/
def checkDefault (index : Nat) (group : ChoiceGroup) : Except ConfigurationError Unit :=
  match group.default with
  | .items ids =>
    match ids.find? fun id => !group.hasItem id with
    | some id => .error (.unknownDefaultItem index id)
    | none => .ok ()
  | _ => .ok ()

/-- Checks one choice group. -/
def checkGroup (index : Nat) (group : ChoiceGroup) : Except ConfigurationError Unit := do
  let name := "choice group " ++ Text.decimalNat index
  if group.items.isEmpty then throw (.emptyGroup index)
  checkUnique name group.itemIds
  checkCardinality index group
  checkDefault index group
  checkTemplates (name ++ " produced atoms") producedPlaceholders group.producedAtoms
  checkTemplates (name ++ " data atoms") dataPlaceholders group.dataAtoms

/-- Checks choice groups one after the other, given the index of the first one. -/
def checkGroups : Nat → List ChoiceGroup → Except ConfigurationError Unit
  | _, [] => .ok ()
  | index, group :: rest => do
    checkGroup index group
    checkGroups (index + 1) rest

/-- Checks the options of plugins one after the other. -/
def checkPlugins : List Plugin → Except ConfigurationError Unit
  | [] => .ok ()
  | plugin :: rest =>
    match plugin.check with
    | .error reason => .error (.invalidPlugin plugin.kind reason)
    | .ok () => checkPlugins rest

/-- Checks a configuration. -/
def check (config : Configuration) : Except ConfigurationError Unit := do
  if config.choiceGroups.isEmpty then throw .noChoiceGroups
  checkUnique "users" config.allowedIds
  checkGroups 0 config.choiceGroups
  let words := config.output.idWords.toNat
  if words < Digest.minWords || Digest.maxWords < words then throw (.invalidIdWords words)
  if config.output.modelSelection = .sampling ∧ config.solver.solvingMode = .optimals then
    throw .samplingWithOptimals
  checkPlugins config.output.layout.plugins

/-- Reads a configuration from a text and checks it. -/
def parse (text : String) : Except ConfigurationError Configuration :=
  match ConfigurationForm.read text with
  | .error fault => .error (.parse fault)
  | .ok config => do
    check config
    return config

end Configuration

end CollectiveChoice

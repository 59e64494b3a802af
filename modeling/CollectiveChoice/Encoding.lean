import CollectiveChoice.Configuration.Basic

/-!
# The program for a set of choices

The program a solver gets consists of the base encoding, one fact for each template, user and
selected item, the directives that say what to show, and the facts on everything that may be chosen,
in order and without repetitions.  Equal choices give equal programs.

The facts of the last part come from templates over domains: a template is rendered for every
combination of values of the domains it mentions, and for no combination if one of them is empty.
Combinations are counted through like the wheels of an odometer.
-/

namespace CollectiveChoice

set_option autoImplicit false

/-! ## Facts -/

/-- A text as one fact: without blanks and full stops at its end, and closed by one full stop. -/
def factOf (text : String) : String :=
  let body := Text.dropEndWhile (· == '.') (Text.dropEndWhile Text.isBlank text.toList)
  String.ofList (body ++ ['.'])

/-! ## Combinations of values -/

/-- One wheel of an odometer: a name, the values it takes in turn, and the one it stands at. -/
structure Wheel where
  name : String
  values : List String
  /-- The place of the current value. -/
  place : Nat
deriving DecidableEq, Repr

namespace Wheel

/-- The wheel at its first value. -/
def start (domain : String × List String) : Wheel :=
  ⟨domain.1, domain.2, 0⟩

/-- The wheel back at its first value. -/
def rewind (wheel : Wheel) : Wheel :=
  { wheel with place := 0 }

/-- The value under a name at the current places. -/
def reading (wheels : List Wheel) (name : String) : Option String :=
  (wheels.find? fun wheel => wheel.name == name).bind fun wheel => wheel.values[wheel.place]?

/-- Turns the last wheel on; a wheel past its last value goes back to the first one and turns the
wheel before it.  Nothing is left when all wheels have come back. -/
def advance? : List Wheel → Option (List Wheel)
  | [] => none
  | wheel :: rest =>
    match advance? rest with
    | some turned => some (wheel :: turned)
    | none =>
      if wheel.place + 1 < wheel.values.length then
        some ({ wheel with place := wheel.place + 1 } :: rest.map rewind)
      else none

/-- The positions of the wheels from the given one on, at most a given number of them. -/
def turns : Nat → List Wheel → List (List Wheel)
  | 0, _ => []
  | count + 1, wheels =>
    wheels ::
      match advance? wheels with
      | some turned => turns count turned
      | none => []

end Wheel

/-- The number of combinations of values. -/
def combinationCount (domains : List (String × List String)) : Nat :=
  (domains.map fun domain => domain.2.length).foldr (· * ·) 1

/-- The facts of a template for every combination of values of the given domains, the last domain
changing fastest. -/
def expand (template : Template) (domains : List (String × List String)) : List String :=
  if domains.any fun domain => domain.2.isEmpty then []
  else
    (Wheel.turns (combinationCount domains) (domains.map Wheel.start)).map fun wheels =>
      factOf (template.render (Wheel.reading wheels))

/-! ## The parts of a program -/

/-- The value of a placeholder of a template for choices. -/
def choiceValue (user choice name : String) : Option String :=
  if name = "user" then some user else if name = "choice" then some choice else none

/-- The facts on the selection of one user in one group, for one template. -/
def selectionFacts (template : Template) (index : Nat) (user : String)
    (selections : List Selection) : List String :=
  match selections[index]? with
  | none => []
  | some selection =>
    selection.toList.map fun choice => factOf (template.render (choiceValue user choice))

/-- The facts on the choices in one group, template by template, user by user, item by item. -/
def producedFacts (group : ChoiceGroup) (index : Nat) (choices : Choices) : List String :=
  group.producedAtoms.flatMap fun template =>
    choices.toList.flatMap fun entry => selectionFacts template index entry.1 entry.2

/-- The domains of the placeholders of a group. -/
def domainsOf (group : ChoiceGroup) (users : List String) : List (String × List String) :=
  [("user", users), ("choice", group.itemIds), ("rank", group.rankLevels),
    ("absolute_rank", group.absoluteRanks),
    ("any_rank", group.rankLevels ++ group.absoluteRanks)]

/-- The facts on what may be chosen in one group, for one template. -/
def universeFacts (domains : List (String × List String)) (template : Template) : List String :=
  expand template (domains.filter fun domain => template.references domain.1)

/-- The facts on what may be chosen in one group. -/
def dataFacts (group : ChoiceGroup) (users : List String) : List String :=
  group.dataAtoms.flatMap (universeFacts (domainsOf group users))

/-- The directive that shows one predicate. -/
def showDirective (predicate : String) : String :=
  let body := Text.dropEndWhile (· == '.') (Text.trimChars predicate.toList)
  "#show " ++ String.ofList body ++ "."

/-- The directives that show the given predicates and nothing else, or none if no predicate is
given. -/
def showDirectives (predicates : List String) : List String :=
  if predicates.isEmpty then [] else "#show." :: predicates.map showDirective

/-- The users that facts on what may be chosen range over: those with choices, and the listed ones
where only they may choose. -/
def userUniverse (config : Configuration) (choices : Choices) : SortedSet String :=
  match config.users.mode with
  | .restricted => choices.keys.union (.ofList config.allowedIds)
  | .everyone => choices.keys

/-- The facts on what may be chosen in any group. -/
def universeOf (config : Configuration) (choices : Choices) : SortedSet String :=
  let users := (userUniverse config choices).toList
  .ofList (config.choiceGroups.flatMap fun group => dataFacts group users)

/-- The base encoding, ended by a line break unless it is empty. -/
def baseText (base : String) : String :=
  match base.toList.getLast? with
  | none => base
  | some '\n' => base
  | some _ => base ++ "\n"

/-- Lines, each ended by a line break. -/
def lines (texts : List String) : String :=
  String.join (texts.map fun text => text ++ "\n")

/-- The program for a set of choices. -/
def encode (config : Configuration) (choices : Choices) : String :=
  String.join [
    baseText config.global.baseEncoding,
    lines (config.choiceGroups.zipIdx.flatMap fun entry =>
      producedFacts entry.1 entry.2 choices),
    lines (showDirectives config.global.shows),
    lines (universeOf config choices).toList]

end CollectiveChoice

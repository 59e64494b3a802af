import CollectiveChoice.Proofs.Configuration.Consistency
import CollectiveChoice.Proofs.Encoding.Odometer

/-!
# No placeholder of a program is left empty

A placeholder without a value is rendered to nothing, and nobody is told.  Here templates are filled
with care: filling is refused unless every placeholder has a value, apart from some that are known to
have none (`Template.fill?`).  A program that is put together with this kind of filling (`encode?`)
is refused as soon as one rendering on the way has a placeholder without a value.

For a consistent configuration it never is, and it is the program as it stands
(`encode?_eq_some_of_consistent`).  The names that are checked when a configuration is read and those
that are looked up here come from different places, so this has to be said for each of them: for
templates of choices by the names themselves, and for templates of what may be chosen by the wheels,
which read every domain the template mentions.
-/

namespace CollectiveChoice

set_option autoImplicit false

/-! ## Results for all items -/

section Collecting

variable {α β : Type} {items : List α}

theorem mapM_eq_some_map {find : α → Option β} {image : α → β}
    (found : ∀ item ∈ items, find item = some (image item)) :
    items.mapM find = some (items.map image) := by
  induction items with
  | nil => rfl
  | cons item rest ih =>
      obtain ⟨head, others⟩ := List.forall_mem_cons.mp found
      rw [List.mapM_cons, head, ih others]
      rfl

/-- The lists of all items one after the other, if there is one for each item. -/
def collect? (find : α → Option (List β)) (items : List α) : Option (List β) :=
  (items.mapM find).map List.flatten

theorem collect?_eq_some_flatMap {find : α → Option (List β)} {image : α → List β}
    (found : ∀ item ∈ items, find item = some (image item)) :
    collect? find items = some (items.flatMap image) := by
  rw [collect?, mapM_eq_some_map found, Option.map_some, List.flatMap_def]

end Collecting

/-! ## Filling with care -/

namespace Template

variable {template : Template} {lookup : String → Option String}

/-- The text of a template with its placeholders replaced, if just the given ones have no value. -/
def fill? (template : Template) (missing : List String) (lookup : String → Option String) :
    Option String :=
  if ∀ name ∈ template.placeholders, (lookup name).isSome ↔ name ∉ missing then
    some (template.render lookup)
  else none

/-- Filling succeeds if just the given placeholders have no value, and does what rendering does. -/
theorem fill?_eq_some_iff {missing : List String} {text : String} :
    template.fill? missing lookup = some text
      ↔ (∀ name ∈ template.placeholders, (lookup name).isSome = true ↔ name ∉ missing) ∧
        template.render lookup = text := by
  rw [fill?, Option.ite_none_right_eq_some, Option.some.injEq]

/-- A template is filled completely if every name it may mention has a value. -/
theorem fill?_eq_some_of_subset {allowed : List String} (known : template.placeholders ⊆ allowed)
    (values : ∀ name ∈ allowed, (lookup name).isSome = true) :
    template.fill? [] lookup = some (template.render lookup) := by
  refine fill?_eq_some_iff.mpr ⟨?_, rfl⟩
  intro name inside
  exact iff_of_true (values name (known inside)) List.not_mem_nil

end Template

/-! ## Facts on choices -/

/-- The facts on the selection of one user in one group, filled with care. -/
def selectionFacts? (template : Template) (index : Nat) (user : String)
    (selections : List Selection) : Option (List String) :=
  match selections[index]? with
  | none => some []
  | some selection =>
    selection.toList.mapM fun choice => (template.fill? [] (choiceValue user choice)).map factOf

/-- The facts on the choices in one group, filled with care. -/
def producedFacts? (group : ChoiceGroup) (index : Nat) (choices : Choices) :
    Option (List String) :=
  collect? (fun template =>
    collect? (fun entry => selectionFacts? template index entry.1 entry.2) choices.toList)
    group.producedAtoms

theorem isSome_choiceValue (user choice : String) :
    ∀ name ∈ Configuration.producedPlaceholders, (choiceValue user choice name).isSome = true := by
  simp [Configuration.producedPlaceholders, choiceValue]

theorem selectionFacts?_eq_some {template : Template}
    (known : template.placeholders ⊆ Configuration.producedPlaceholders) (index : Nat)
    (user : String) (selections : List Selection) :
    selectionFacts? template index user selections
      = some (selectionFacts template index user selections) := by
  unfold selectionFacts? selectionFacts
  cases selections[index]? with
  | none => rfl
  | some selection =>
      apply mapM_eq_some_map
      intro choice _
      rw [Template.fill?_eq_some_of_subset known (isSome_choiceValue user choice), Option.map_some]

theorem producedFacts?_eq_some {group : ChoiceGroup} (consistent : group.Consistent) (index : Nat)
    (choices : Choices) :
    producedFacts? group index choices = some (producedFacts group index choices) := by
  apply collect?_eq_some_flatMap
  intro template inside
  apply collect?_eq_some_flatMap
  intro entry _
  exact selectionFacts?_eq_some (consistent.produced template inside) index entry.1 entry.2

/-! ## Facts on what may be chosen -/

/-- The facts of a template for every combination of values, filled with care. -/
def expand? (template : Template) (domains : List (String × List String)) :
    Option (List String) :=
  if domains.any fun domain => domain.2.isEmpty then some []
  else
    (Wheel.turns (combinationCount domains) (domains.map Wheel.start)).mapM fun wheels =>
      (template.fill? [] (Wheel.reading wheels)).map factOf

/-- The facts on what may be chosen in one group, filled with care. -/
def dataFacts? (group : ChoiceGroup) (users : List String) : Option (List String) :=
  collect? (fun template =>
    expand? template ((domainsOf group users).filter fun domain => template.references domain.1))
    group.dataAtoms

/-- The facts on what may be chosen in any group, filled with care. -/
def universeOf? (config : Configuration) (choices : Choices) : Option (SortedSet String) :=
  let users := (userUniverse config choices).toList
  (collect? (fun group => dataFacts? group users) config.choiceGroups).map .ofList

theorem expand?_eq_some {template : Template} {domains : List (String × List String)}
    (known : template.placeholders ⊆ domains.map Prod.fst) :
    expand? template domains = some (expand template domains) := by
  unfold expand? expand
  split
  case isTrue => rfl
  case isFalse full =>
    have starts := Wheel.reads_start (Wheel.nonempty_of_not_any full)
    apply mapM_eq_some_map
    intro wheels inside
    have reads := Wheel.reads_of_mem_turns starts inside
    have values : ∀ name ∈ domains.map Prod.fst, (Wheel.reading wheels name).isSome = true := by
      intro name named
      obtain ⟨_, value, -, -, read⟩ := reads.exists_reading_eq named
      exact Option.isSome_iff_exists.mpr ⟨value, read⟩
    rw [Template.fill?_eq_some_of_subset known values, Option.map_some]

/-- The domains that a template mentions serve all of its placeholders. -/
theorem placeholders_subset_domains {template : Template} (group : ChoiceGroup)
    (users : List String)
    (known : template.placeholders ⊆ Configuration.dataPlaceholders) :
    template.placeholders ⊆
      ((domainsOf group users).filter fun domain => template.references domain.1).map Prod.fst := by
  intro name inside
  have names : (domainsOf group users).map Prod.fst = Configuration.dataPlaceholders := rfl
  obtain ⟨domain, present, rfl⟩ := List.mem_map.mp (names ▸ known inside)
  have mentioned : template.references domain.1 = true := List.contains_iff_mem.mpr inside
  exact List.mem_map.mpr ⟨domain, List.mem_filter.mpr ⟨present, mentioned⟩, rfl⟩

theorem dataFacts?_eq_some {group : ChoiceGroup} (consistent : group.Consistent)
    (users : List String) : dataFacts? group users = some (dataFacts group users) := by
  apply collect?_eq_some_flatMap
  intro template inside
  exact expand?_eq_some
    (placeholders_subset_domains group users (consistent.data template inside))

theorem universeOf?_eq_some {config : Configuration} (consistent : config.Consistent)
    (choices : Choices) : universeOf? config choices = some (universeOf config choices) := by
  have facts : collect? (fun group => dataFacts? group (userUniverse config choices).toList)
      config.choiceGroups = some (config.choiceGroups.flatMap fun group =>
        dataFacts group (userUniverse config choices).toList) := by
    apply collect?_eq_some_flatMap
    intro group inside
    exact dataFacts?_eq_some (consistent.group group inside) _
  rw [universeOf?, facts]
  rfl

/-! ## The program -/

/-- The program for a set of choices, filled with care. -/
def encode? (config : Configuration) (choices : Choices) : Option String := do
  let produced ← collect? (fun entry => producedFacts? entry.1 entry.2 choices)
    config.choiceGroups.zipIdx
  let data ← universeOf? config choices
  return String.join [
    baseText config.global.baseEncoding,
    lines produced,
    lines (showDirectives config.global.shows),
    lines data.toList]

/-- The program for a consistent configuration has no placeholder without a value. -/
theorem encode?_eq_some_of_consistent {config : Configuration} (consistent : config.Consistent)
    (choices : Choices) : encode? config choices = some (encode config choices) := by
  have produced : collect? (fun entry => producedFacts? entry.1 entry.2 choices)
      config.choiceGroups.zipIdx = some (config.choiceGroups.zipIdx.flatMap fun entry =>
        producedFacts entry.1 entry.2 choices) := by
    apply collect?_eq_some_flatMap
    intro entry inside
    have member := List.fst_mem_of_mem_zipIdx inside
    exact producedFacts?_eq_some (consistent.group entry.1 member) entry.2 choices
  rw [encode?, produced, universeOf?_eq_some consistent]
  rfl

end CollectiveChoice

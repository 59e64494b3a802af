import CollectiveChoice.Configuration.Form
import CollectiveChoice.Proofs.Json.Decoding
import CollectiveChoice.Proofs.Json.Plain

/-!
# Entries of a configuration are read back as they are written

Each part of a configuration has several forms when it is read and one when it is written.  Here it
is shown for one part after the other that the form it is written in is read as what was written: for
words, templates, items, bounds, defaults and ranks, for choice groups (`group_groupJson`), and for
the sections of a configuration other than the output.

What is built as a value before it is looked at has to be plain, so with each part goes the statement
that it is.
-/

namespace CollectiveChoice

set_option autoImplicit false

/-! ## Words, texts and templates -/

namespace Reading

theorem isWord64_toNat (word : UInt64) : Text.isWord64 word.toNat = true :=
  decide_eq_true (Nat.le_of_lt_succ word.toNat_lt)

theorem isWord64_natAbs_toInt (number : Int64) :
    Text.isWord64 number.toInt.natAbs = true := by
  have least := number.le_toInt
  have most := number.toInt_lt
  exact decide_eq_true (by omega)

@[simp] theorem word64_ofJson (word : UInt64) :
    word64 (.ofJson (.integer word.toNat)) = .ok word := by
  rw [word64, Draft.word64, Draft.natBelow_ofJson word.toNat_lt, map_ok, UInt64.ofNat_toNat]

@[simp] theorem word32_ofJson (word : UInt32) :
    word32 (.ofJson (.integer word.toNat)) = .ok word := by
  rw [word32, Draft.word32, Draft.natBelow_ofJson word.toNat_lt, map_ok, UInt32.ofNat_toNat]

theorem texts?_map_string (texts : List String) : texts? (texts.map Json.string) = some texts := by
  induction texts with
  | nil => rfl
  | cons text rest ih =>
      rw [List.map_cons, texts?, ih]
      rfl

theorem words_strings (texts : List String) : words (.strings texts) = .ok texts := by
  simp [words, Json.strings, texts?_map_string]

@[simp] theorem forms_words (room : Nat) (texts : List String) :
    forms (room + 1) words (.ofJson (.strings texts)) = .ok texts := by
  rw [forms_ofJson words (Json.plain_strings texts), words_strings]

@[simp] theorem forms_scalar (room : Nat) (text : String) :
    forms room scalar (.ofJson (.string text)) = .ok text :=
  forms_ofJson scalar (Json.plain_string text)

theorem scalars?_map_string (texts : List String) :
    scalars? (texts.map Json.string) = some texts := by
  induction texts with
  | nil => rfl
  | cons text rest ih => simp [scalars?, scalar?, ih]

theorem template_source (written : Template) : template written.source = .ok written := by
  rw [template, written.parse_source]

theorem templateList_sources (written : List Template) :
    templateList (written.map Template.source) = .ok written := by
  induction written with
  | nil => rfl
  | cons first rest ih =>
      rw [List.map_cons, templateList, template_source, ih]
      rfl

@[simp] theorem forms_templates (room : Nat) (written : List Template) :
    forms (room + 1) templates (.ofJson (.strings (written.map Template.source))) = .ok written := by
  rw [forms_ofJson templates (Json.plain_strings _), templates, words_strings, ok_bind,
    templateList_sources]

@[simp] theorem templateText_ofJson (written : Template) :
    templateText (.ofJson (.string written.source)) = .ok written := by
  rw [templateText, Draft.string_ofJson, ok_bind, template_source]

end Reading

namespace ConfigurationForm

open Reading (Result)

/-! ## Items, bounds, defaults and ranks -/

theorem plain_itemJson (written : Item) (room : Nat) : (itemJson written).Plain (room + 1) := by
  simp [itemJson]

theorem item_itemJson (written : Item) : item (itemJson written) = .ok written := by
  simp [item, itemJson, itemEntries, ok_bind, map_ok]

theorem plain_cardinalityJson (bounds : Cardinality) (room : Nat) :
    (cardinalityJson bounds).Plain (room + 1) := by
  have least := Reading.isWord64_toNat bounds.min
  have most : (Json.orNull (fun greatest : UInt64 => .integer greatest.toNat) bounds.max).Plain
      room := Json.plain_orNull fun greatest _ => .integer room (Reading.isWord64_toNat greatest)
  simp [cardinalityJson, most, Json.Plain.integer, least]

theorem optional_word64 (written : Option UInt64) :
    Draft.optional Reading.word64
      (.ofJson (.orNull (fun word : UInt64 => .integer word.toNat) written)) = .ok written :=
  Draft.optional_ofJson fun word _ => ⟨Reading.word64_ofJson word, nofun⟩

theorem cardinality_cardinalityJson (bounds : Cardinality) :
    cardinality (cardinalityJson bounds) = .ok bounds := by
  simp [cardinality, cardinalityJson, cardinalityEntries, optional_word64, ok_bind, map_ok]

theorem plain_defaultSelectionJson (written : DefaultSelection) (room : Nat) :
    (defaultSelectionJson written).Plain (room + 1) := by
  cases written <;> simp [defaultSelectionJson]

theorem defaultSelection_defaultSelectionJson (written : DefaultSelection) :
    defaultSelection (defaultSelectionJson written) = .ok written := by
  cases written with
  | all => rfl
  | nothing => rfl
  | items ids => simp [defaultSelectionJson, defaultSelection, Json.strings, Reading.scalars?_map_string]

theorem plain_rankJson (written : Rank) (room : Nat) : (rankJson written).Plain room := by
  cases written with
  | absolute holds => exact .bool room holds
  | level number => exact .integer room (Reading.isWord64_natAbs_toInt number)

theorem rank_rankJson (written : Rank) : rank (rankJson written) = .ok written := by
  cases written with
  | absolute holds => rfl
  | level number =>
      have fits : Text.isInt64 number.toInt = true :=
        Bool.and_eq_true_iff.mpr ⟨decide_eq_true number.le_toInt,
          decide_eq_true (Int.le_of_lt_add_one number.toInt_lt)⟩
      simp [rankJson, rank, fits]

/-! ## Choice groups -/

theorem plain_groupJson (written : ChoiceGroup) (room : Nat) :
    (groupJson written).Plain (room + 3) := by
  have ranks : (Json.object (written.ranks.mapValues rankJson).toList).Plain (room + 2) :=
    Json.plain_mapValues fun rank _ => plain_rankJson rank.2 _
  simp [groupJson, ranks, plain_itemJson, plain_cardinalityJson, plain_defaultSelectionJson]

theorem group_groupJson (written : ChoiceGroup) :
    group (.ofJson (groupJson written)) = .ok written := by
  have items : Draft.array (Reading.forms 123 item) (.ofJson (.array (written.items.map itemJson)))
      = .ok written.items :=
    Draft.array_ofJson fun one _ =>
      (Reading.forms_ofJson item (plain_itemJson one _)).trans (item_itemJson one)
  have cardinality : Reading.forms 124 cardinality (.ofJson (cardinalityJson written.cardinality))
      = .ok written.cardinality :=
    (Reading.forms_ofJson _ (plain_cardinalityJson _ _)).trans (cardinality_cardinalityJson _)
  have default : Reading.forms 124 defaultSelection
      (.ofJson (defaultSelectionJson written.default)) = .ok written.default :=
    (Reading.forms_ofJson _ (plain_defaultSelectionJson _ _)).trans
      (defaultSelection_defaultSelectionJson _)
  have ranks : Draft.mapping (Reading.forms 123 rank)
      (.ofJson (.object (written.ranks.mapValues rankJson).toList)) = .ok written.ranks :=
    Draft.mapping_ofJson fun entry _ =>
      (Reading.forms_ofJson rank (plain_rankJson _ _)).trans (rank_rankJson _)
  simp [group, groupJson, groupEntries, items, cardinality, default, ranks, ok_bind, map_ok]

/-! ## Sections -/

theorem plain_globalJson (written : GlobalOptions) (room : Nat) :
    (globalJson written).Plain (room + 2) := by
  simp [globalJson]

theorem global_globalJson (written : GlobalOptions) :
    sectionOf globalEntries .standard (.ofJson (globalJson written)) = .ok written := by
  have compilation : Draft.name compilationNames
      (.ofJson (.string (compilationName written.compilation)))
      = (.ok written.compilation : Result CompilationMode) := by
    cases written.compilation <;> rfl
  simp [sectionOf, globalJson, globalEntries, compilation, ok_bind, map_ok]

theorem plain_usersJson (written : UserOptions) (room : Nat) :
    (usersJson written).Plain (room + 3) := by
  simp [usersJson, plain_itemJson]

theorem users_usersJson (written : UserOptions) :
    sectionOf userEntries .standard (.ofJson (usersJson written)) = .ok written := by
  have mode : Draft.name admissionNames (.ofJson (.string (admissionName written.mode)))
      = (.ok written.mode : Result Admission) := by
    cases written.mode <;> rfl
  have allowed : Draft.array (Reading.forms 124 item)
      (.ofJson (.array (written.allowed.map itemJson))) = .ok written.allowed :=
    Draft.array_ofJson fun one _ =>
      (Reading.forms_ofJson item (plain_itemJson one _)).trans (item_itemJson one)
  simp [sectionOf, usersJson, userEntries, mode, allowed, ok_bind, map_ok]

theorem plain_solverJson (written : SolverOptions) (room : Nat) :
    (solverJson written).Plain (room + 2) := by
  have path : (Json.orNull Json.string written.path).Plain (room + 1) :=
    Json.plain_orNull fun text _ => .string _ text
  have constants : (Json.object (written.constants.mapValues Json.string).toList).Plain (room + 1) :=
    Json.plain_mapValues fun entry _ => .string _ entry.2
  have timeout := Reading.isWord64_toNat written.timeoutSeconds
  simp [solverJson, path, constants, Json.Plain.integer, timeout]

theorem solver_solverJson (written : SolverOptions) :
    sectionOf solverEntries .standard (.ofJson (solverJson written)) = .ok written := by
  have path : Draft.optional Draft.string (.ofJson (.orNull Json.string written.path))
      = (.ok written.path : Result (Option String)) :=
    Draft.optional_ofJson fun _ _ => ⟨rfl, nofun⟩
  have constants : Draft.mapping (Reading.forms 124 Reading.scalar)
      (.ofJson (.object (written.constants.mapValues Json.string).toList)) = .ok written.constants :=
    Draft.mapping_ofJson fun entry _ => Reading.forms_scalar _ entry.2
  have mode : Draft.name solvingNames (.ofJson (.string (solvingName written.solvingMode)))
      = (.ok written.solvingMode : Result SolvingMode) := by
    cases written.solvingMode <;> rfl
  simp [sectionOf, solverJson, solverEntries, path, constants, mode, ok_bind, map_ok]

theorem plain_historyJson (written : HistoryOptions) (room : Nat) :
    (historyJson written).Plain (room + 1) := by
  simp [historyJson]

theorem history_historyJson (written : HistoryOptions) :
    sectionOf historyEntries .standard (.ofJson (historyJson written)) = .ok written := by
  simp [sectionOf, historyJson, historyEntries, ok_bind, map_ok]

end ConfigurationForm

end CollectiveChoice

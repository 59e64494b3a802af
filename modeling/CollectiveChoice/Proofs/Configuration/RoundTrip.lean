import CollectiveChoice.Configuration.Validation
import CollectiveChoice.Proofs.Configuration.Plugins

/-!
# Configurations are read back as they are written

A configuration that was read from a text is written with every entry in its canonical form, and that
text is read as the same configuration (`Configuration.parse_write_of_parse`), whatever forms the
first text used and whatever it left out.

There are configurations that are never read: a table may be given a source of pairs that no text is
read as.  So it is shown first that no such source gets into what is read (`readable_of_read`), going
from the sources up through options, plugins, chains and sections; then each section is read back
from what it is written as.
-/

namespace CollectiveChoice

set_option autoImplicit false

/-- A page whose plugins can all be read. -/
structure PageLayout.Readable (layout : PageLayout) : Prop where
  header : ∀ plugin ∈ layout.header, plugin.Readable
  footer : ∀ plugin ∈ layout.footer, plugin.Readable
  modelHeader : ∀ plugin ∈ layout.modelHeader, plugin.Readable
  modelBody : ∀ plugin ∈ layout.modelBody, plugin.Readable
  inline : ∀ plugin ∈ layout.inline, plugin.Readable
  modelFooter : ∀ plugin ∈ layout.modelFooter, plugin.Readable

theorem PageLayout.readable_standard : PageLayout.standard.Readable where
  header := List.forall_mem_nil _
  footer := List.forall_mem_nil _
  modelHeader := by simp [PageLayout.standard, Plugin.Readable]
  modelBody := by
    have source : AssociationTable.standard.source.Readable := PairSource.readable_standard
    simpa [PageLayout.standard, Plugin.Readable] using source
  inline := List.forall_mem_nil _
  modelFooter := List.forall_mem_nil _

namespace ConfigurationForm

open Draft (Member)
open Reading (Result)

/-! ## What is read can be read -/

theorem readable_of_forms {room : Nat} {draft : Draft} {read : List Plugin}
    (success : Reading.forms room PluginForm.chain draft = .ok read) :
    ∀ one ∈ read, one.Readable := by
  unfold Reading.forms at success
  split at success
  · exact PluginForm.readable_of_chain success
  · cases success

/-- Storing a chain that was read keeps all plugins readable. -/
theorem keeps_chainEntry {key : String} {store : List Plugin → PageLayout → PageLayout}
    (stores : ∀ plugins layout, (∀ one ∈ plugins, one.Readable) → layout.Readable →
      (store plugins layout).Readable) :
    (chainEntry key store).Keeps fun output : OutputOptions => output.layout.Readable :=
  Member.keeps_of fun _ _ _ read readable => stores _ _ (readable_of_forms read) readable

theorem keeps_outputEntries : ∀ entry ∈ outputEntries,
    entry.Keeps fun output : OutputOptions => output.layout.Readable := by
  simp only [outputEntries, List.forall_mem_cons]
  refine ⟨?maxModels, ?modelSelection, ?samplingSeed, ?idWords, ?header, ?footer, ?modelHeader,
    ?modelBody, ?inline, ?modelFooter, ?unsatMessage, nofun⟩
  case maxModels | modelSelection | samplingSeed | idWords =>
    exact Member.keeps_of fun _ _ _ _ readable => readable
  case unsatMessage =>
    refine Member.Keeps.orKey (Member.keeps_of ?_) _
    exact fun _ _ _ _ readable => { readable with }
  case header => exact keeps_chainEntry fun _ _ chain readable => { readable with header := chain }
  case footer => exact keeps_chainEntry fun _ _ chain readable => { readable with footer := chain }
  case modelHeader =>
    exact keeps_chainEntry fun _ _ chain readable => { readable with modelHeader := chain }
  case modelBody =>
    exact keeps_chainEntry fun _ _ chain readable => { readable with modelBody := chain }
  case inline => exact keeps_chainEntry fun _ _ chain readable => { readable with inline := chain }
  case modelFooter =>
    exact keeps_chainEntry fun _ _ chain readable => { readable with modelFooter := chain }

theorem keeps_sections : ∀ entry ∈ sections,
    entry.Keeps fun config : Configuration => config.output.layout.Readable := by
  simp only [sections, List.forall_mem_cons]
  refine ⟨?global, ?users, ?groups, ?output, ?solver, ?history, nofun⟩
  case output =>
    refine Member.keeps_of fun draft output config read _ => ?_
    have readable := Draft.assemble_preserves keeps_outputEntries read PageLayout.readable_standard
    exact readable
  case global | users | groups | solver | history =>
    exact Member.keeps_of fun _ _ _ _ readable => readable

/-- Every plugin of a configuration that was read can be read. -/
theorem readable_of_read {text : String} {config : Configuration} (success : read text = .ok config) :
    config.output.layout.Readable := by
  obtain ⟨found, assembled, success⟩ := bind_eq_ok_iff.mp success
  split at success
  · cases success
    have readable := Draft.assemble_preserves keeps_sections assembled PageLayout.readable_standard
    exact readable
  · cases success

/-! ## What is written is read -/

theorem forms_chain {written : List Plugin} (readable : ∀ one ∈ written, one.Readable) :
    Reading.forms 125 PluginForm.chain (.ofJson (PluginForm.chainJson written)) = .ok written :=
  (Reading.forms_ofJson _ (PluginForm.plain_chainJson written _)).trans
    (PluginForm.chain_chainJson readable)

theorem plain_outputJson (written : OutputOptions) (room : Nat) :
    (outputJson written).Plain (room + 4) := by
  have seed : (Json.orNull (fun seed : UInt64 => .integer seed.toNat) written.samplingSeed).Plain
      (room + 3) := Json.plain_orNull fun seed _ => .integer _ (Reading.isWord64_toNat seed)
  have word : ∀ word : UInt64, (Json.integer word.toNat).Plain (room + 3) := fun word =>
    .integer _ (Reading.isWord64_toNat word)
  simp [outputJson, seed, word, PluginForm.plain_chainJson]

theorem output_outputJson {written : OutputOptions} (readable : written.layout.Readable) :
    sectionOf outputEntries .standard (.ofJson (outputJson written)) = .ok written := by
  have selection : Draft.name selectionNames
      (.ofJson (.string (selectionName written.modelSelection)))
      = (.ok written.modelSelection : Result ModelSelection) := by
    cases written.modelSelection <;> rfl
  simp [sectionOf, outputJson, outputEntries, chainEntry, selection, optional_word64,
    forms_chain readable.header, forms_chain readable.footer, forms_chain readable.modelHeader,
    forms_chain readable.modelBody, forms_chain readable.inline, forms_chain readable.modelFooter,
    ok_bind, map_ok]

theorem plain_toJson (config : Configuration) : (toJson config).Plain 5 := by
  simp [toJson, plain_globalJson, plain_usersJson, plain_groupJson, plain_outputJson,
    plain_solverJson, plain_historyJson]

/-- Every section is read back from what it is written as. -/
theorem assemble_toJson {config : Configuration} (readable : config.output.layout.Readable) :
    (Draft.ofJson (toJson config)).assemble sections .standard = .ok config := by
  have groups : Draft.array group (.ofJson (.array (config.choiceGroups.map groupJson)))
      = .ok config.choiceGroups :=
    Draft.array_ofJson fun one _ => group_groupJson one
  simp [toJson, sections, global_globalJson, users_usersJson, groups, output_outputJson readable,
    solver_solverJson, history_historyJson, ok_bind, map_ok]

theorem read_write {config : Configuration} (readable : config.output.layout.Readable) :
    read (toJson config).write = .ok config := by
  rw [read, Draft.Document.read_write (plain_toJson config).fitsWords, Draft.Document.decode,
    assemble_toJson readable]
  rfl

end ConfigurationForm

namespace Configuration

theorem parse_eq_ok_iff {text : String} {config : Configuration} :
    parse text = .ok config ↔ ConfigurationForm.read text = .ok config ∧ config.check = .ok () := by
  unfold parse
  cases ConfigurationForm.read text with
  | error fault => exact iff_of_false nofun fun both => nomatch both.1
  | ok found =>
      rw [check_bind_eq_ok_iff]
      constructor
      · rintro ⟨checked, same⟩
        cases same
        exact ⟨rfl, checked⟩
      · rintro ⟨same, checked⟩
        cases same
        exact ⟨checked, rfl⟩

/-- **A configuration that is accepted is read back as it is written.** -/
theorem parse_write_of_parse {text : String} {config : Configuration} (accepted : parse text = .ok config) :
    parse (ConfigurationForm.toJson config).write = .ok config := by
  obtain ⟨read, checked⟩ := parse_eq_ok_iff.mp accepted
  exact parse_eq_ok_iff.mpr
    ⟨ConfigurationForm.read_write (ConfigurationForm.readable_of_read read), checked⟩

/-- The text of a configuration in short forms: an id for an item, a name for bounds, one plugin for
a chain, and blanks in the source of a table. -/
def terse : String :=
  "\x7b\"choice_groups\":[\x7b\"items\":[\"tea\"],\"type\":\"single\"\x7d]," ++
    "\"output\":\x7b\"model_repr\":" ++
    "\x7b\"kind\":\"table/2\",\"source\":\"score / columns, yes ,rows\"\x7d\x7d\x7d"

theorem terse_parse_write_of_parse : ∃ config, parse terse = .ok config ∧
    parse (ConfigurationForm.toJson config).write = .ok config := by
  have accepted : (match parse terse with
      | .ok _ => true
      | .error _ => false) = true := by
    decide +kernel
  split at accepted
  case h_1 config read => exact ⟨config, read, parse_write_of_parse read⟩
  case h_2 => cases accepted

end Configuration

end CollectiveChoice

import CollectiveChoice.Proofs.Configuration.Entries
import CollectiveChoice.Proofs.Page.Sources

/-!
# Chains of plugins are read back as they are written

A chain is written as a list of objects, each with a kind and all options of that kind.  It is read
from a value with the members of its objects in key order, so the kind comes somewhere among the
options, and the options in the order of their names (`orderedOptions`) and not in that of their
declaration.  Taking out the kind leaves just these options (`plugin_sorted_toJson`), and the reader
of the kind makes of them what they were written from.

This holds of plugins that have been read (`Plugin.Readable`): a table may be given any source of
pairs, but not every source is one that a text can be read as.
-/

namespace CollectiveChoice

set_option autoImplicit false

namespace PluginForm

open Reading (Result)

/-! ## Values of options -/

theorem plain_axisJson (written : Axis) (room : Nat) : (axisJson written).Plain (room + 1) := by
  cases written <;> simp [axisJson]

theorem axis_axisJson (written : Axis) : axis (axisJson written) = .ok written := by
  cases written with
  | user | choice | raw => rfl
  | cycle first others =>
      have labels := Reading.texts?_map_string (first :: others)
      simp only [axisJson, Json.strings, axis, labels]

theorem axisOption_axisJson (written : Axis) :
    axisOption (.ofJson (axisJson written)) = .ok written :=
  (Reading.forms_ofJson axis (plain_axisJson written _)).trans (axis_axisJson written)

theorem source_display {written : PairSource} (readable : written.Readable) :
    source (.ofJson (.string written.display)) = .ok written := by
  rw [source, Draft.string_ofJson, ok_bind, readable.parse_display_eq]

theorem place_placeName (written : Place) :
    place (.ofJson (.string (placeName written))) = .ok written := by
  cases written <;> rfl

theorem textList_strings (texts : List String) :
    Reading.textList (.ofJson (.strings texts)) = .ok texts :=
  Draft.array_string_strings texts

/-! ## Options in the order of their names -/

section

attribute [local simp] optionMembers Json.sorted Json.sortedMembers writeEntry_nil writeEntry_cons
  ok_bind map_ok

theorem compare_of_lt {left right : String} (less : left < right) : compare left right = .lt :=
  if_pos less

theorem compare_of_gt {left right : String} (greater : right < left) :
    compare left right = .gt :=
  Std.OrientedCmp.gt_of_lt (compare_of_lt greater)

@[simp] theorem sorted_strings (texts : List String) :
    (Json.strings texts).sorted = .strings texts := by
  have items : Json.sortedItems (texts.map Json.string) = texts.map Json.string := by
    induction texts with
    | nil => rfl
    | cons text rest ih =>
        rw [List.map_cons, Json.sortedItems, ih]
        rfl
  rw [Json.strings, Json.sorted, items]

@[simp] theorem sorted_axisJson (written : Axis) : (axisJson written).sorted = axisJson written := by
  cases written <;> simp [axisJson]

/-- The options of a plugin in the order of their names. -/
def orderedOptions (written : Plugin) : List (String × Json) :=
  (SortedMap.ofList (Json.sortedMembers (optionMembers written))).toList

theorem orderedOptions_eq_foldl (written : Plugin) :
    orderedOptions written = (Json.sortedMembers (optionMembers written)).foldl
      (fun list option => writeEntry option.1 option.2 list) [] :=
  SortedMap.toList_ofList_eq_foldl _

theorem key_ne_kind (written : Plugin) :
    ∀ option ∈ Json.sortedMembers (optionMembers written), option.1 ≠ "kind" := by
  cases written with
  | text | title | table | raw | stats | clipboard => simp
  | front report => cases third : report.z <;> simp [third]

/-- Of a plugin with its members in key order, the kind is found among the options. -/
theorem plugin_sorted_toJson (written : Plugin) :
    plugin (toJson written).sorted
      = ofKind written.kind (.ofJson (.object (orderedOptions written))) := by
  have members : (toJson written).sorted = .object (SortedMap.ofList
      (("kind", .string written.kind) :: Json.sortedMembers (optionMembers written))).toList := by
    rw [toJson, Json.sorted, Json.sortedMembers]
    rfl
  have absent := key_ne_kind written
  have kind := SortedMap.find?_ofList_cons ("kind", Json.string written.kind)
    (Json.sortedMembers (optionMembers written)) "kind"
  rw [SortedMap.find?_ofList_eq_none absent, Option.none_or, if_pos rfl,
    ← SortedMap.lookup_toList] at kind
  have options : (SortedMap.ofList (("kind", .string written.kind) ::
      Json.sortedMembers (optionMembers written))).erase "kind"
        = .ofList (Json.sortedMembers (optionMembers written)) :=
    SortedMap.erase_ofList_cons absent
  rw [SortedMap.ext_iff, SortedMap.toList_erase] at options
  rw [members, plugin, kind]
  simp only [options, orderedOptions]

/-! ## Options by kind

The reader of the options of a kind makes of all of them what they were written from, whatever it
starts with.  Only a front starts with its standard, which has the number of axes the kind says. -/

attribute [local simp] orderedOptions_eq_foldl compare_of_lt compare_of_gt

theorem text_orderedOptions (written start : TextFragment) :
    (Draft.ofJson (.object (orderedOptions (.text written)))).assemble textOptions start
      = .ok written := by
  simp (disch := decide) [textOptions]

theorem title_orderedOptions (written start : Banner) :
    (Draft.ofJson (.object (orderedOptions (.title written)))).assemble titleOptions start
      = .ok written := by
  simp (disch := decide) [titleOptions]

theorem table_orderedOptions {written : AssociationTable} (readable : written.source.Readable)
    (start : AssociationTable) :
    (Draft.ofJson (.object (orderedOptions (.table written)))).assemble tableOptions start
      = .ok written := by
  simp (disch := decide) [tableOptions, axisOption_axisJson, source_display readable]

theorem raw_orderedOptions (written start : FactListing) :
    (Draft.ofJson (.object (orderedOptions (.raw written)))).assemble rawOptions start
      = .ok written := by
  simp (disch := decide) [rawOptions, textList_strings]

theorem stats_orderedOptions (written start : CountReport) :
    (Draft.ofJson (.object (orderedOptions (.stats written)))).assemble statsOptions start
      = .ok written := by
  simp (disch := decide) [statsOptions]

theorem clipboard_orderedOptions (written start : CopyButton) :
    (Draft.ofJson (.object (orderedOptions (.clipboard written)))).assemble clipboardOptions start
      = .ok written := by
  simp (disch := decide) [clipboardOptions, textList_strings]

/-- Of a front over two axes no third one is read. -/
theorem plane_orderedOptions {written : FrontReport} (plane : written.z = none) :
    (Draft.ofJson (.object (orderedOptions (.front written)))).assemble planeOptions .standard2
      = .ok written := by
  obtain ⟨x, y, third, title, position, width, height, flag⟩ := written
  cases plane
  simp (disch := decide) [planeOptions, planePredicates, frontTitle, planeLabels, frontTail,
    place_placeName, FrontReport.standard2]

theorem space_orderedOptions {written : FrontReport} {third : ScoreAxis}
    (space : written.z = some third) :
    (Draft.ofJson (.object (orderedOptions (.front written)))).assemble spaceOptions .standard3
      = .ok written := by
  obtain ⟨x, y, z, title, position, width, height, flag⟩ := written
  cases space
  simp (disch := decide) [spaceOptions, planePredicates, spacePredicates, frontTitle, planeLabels,
    spaceLabels, frontTail, place_placeName, FrontReport.standard3]

end

end PluginForm

/-! ## Plugins and chains -/

/-- A plugin that can be read: the source of a table is one that a text can be read as. -/
def Plugin.Readable : Plugin → Prop
  | .table association => association.source.Readable
  | .text _ | .title _ | .raw _ | .stats _ | .clipboard _ | .front _ => True

namespace PluginForm

open Reading (Result)

/-- **A plugin that can be read is read from what it is written as.** -/
theorem plugin_sorted_toJson_of_readable {written : Plugin} (readable : written.Readable) :
    plugin (toJson written).sorted = .ok written := by
  rw [plugin_sorted_toJson]
  cases written with
  | text => rw [Plugin.kind, ofKind, text_orderedOptions, map_ok]
  | title => rw [Plugin.kind, ofKind, title_orderedOptions, map_ok]
  | table => rw [Plugin.kind, ofKind, table_orderedOptions readable, map_ok]
  | raw => rw [Plugin.kind, ofKind, raw_orderedOptions, map_ok]
  | stats => rw [Plugin.kind, ofKind, stats_orderedOptions, map_ok]
  | clipboard => rw [Plugin.kind, ofKind, clipboard_orderedOptions, map_ok]
  | front report =>
      cases third : report.z with
      | none =>
          have kind : (Plugin.front report).kind = "pareto front" := by simp [Plugin.kind, third]
          rw [kind, ofKind, plane_orderedOptions third, map_ok]
      | some axis =>
          have kind : (Plugin.front report).kind = "pareto front 3D" := by
            simp [Plugin.kind, third]
          rw [kind, ofKind, space_orderedOptions third, map_ok]

theorem plugins_sortedItems {written : List Plugin} (readable : ∀ one ∈ written, one.Readable) :
    plugins (Json.sortedItems (written.map toJson)) = .ok written := by
  induction written with
  | nil => rfl
  | cons first rest ih =>
      rw [List.map_cons, Json.sortedItems, plugins,
        plugin_sorted_toJson_of_readable (readable first List.mem_cons_self),
        ih fun other inside => readable other (List.mem_cons_of_mem _ inside)]
      rfl

theorem chain_chainJson {written : List Plugin} (readable : ∀ one ∈ written, one.Readable) :
    chain (chainJson written) = .ok written := by
  rw [chain, chainJson, Json.sorted]
  exact plugins_sortedItems readable

theorem plain_toJson (written : Plugin) (room : Nat) : (toJson written).Plain (room + 2) := by
  have integer : ∀ word : UInt32, (Json.integer word.toNat).Plain (room + 1) := fun word =>
    .integer _ (decide_eq_true (by have below := word.toNat_lt; omega))
  cases written with
  | front report =>
      cases third : report.z <;> simp [toJson, optionMembers, third, integer]
  | text | title | table | raw | stats | clipboard =>
      simp [toJson, optionMembers, plain_axisJson, integer]

theorem plain_chainJson (written : List Plugin) (room : Nat) :
    (chainJson written).Plain (room + 3) := by
  simp [chainJson, plain_toJson]

/-! ## Plugins that have been read -/

theorem readable_of_source {draft : Draft} {read : PairSource}
    (success : source draft = .ok read) : read.Readable := by
  obtain ⟨text, -, success⟩ := bind_eq_ok_iff.mp success
  split at success
  · rename_i parsed
    cases success
    exact PairSource.readable_of_parse parsed
  · cases success

/-- No option of a table but its source has to do with the source. -/
theorem keeps_readable : ∀ option ∈ tableOptions,
    option.Keeps fun table : AssociationTable => table.source.Readable := by
  simp only [tableOptions, List.forall_mem_cons]
  refine ⟨?rows, ?columns, ?source, ?caption, ?captionStyle, ?pairList, ?pairLink, nofun⟩
  case source => exact Draft.Member.keeps_of fun _ _ _ read _ => readable_of_source read
  case rows | columns | caption =>
    exact Draft.Member.keeps_of fun _ _ _ _ readable => readable
  case captionStyle | pairList | pairLink =>
    refine Draft.Member.Keeps.orKey (Draft.Member.keeps_of ?_) _
    exact fun _ _ _ _ readable => readable

theorem readable_of_ofKind {kind : String} {options : Draft} {read : Plugin}
    (success : ofKind kind options = .ok read) : read.Readable := by
  unfold ofKind at success
  split at success
  case h_3 =>
    obtain ⟨table, assembled, rfl⟩ := map_eq_ok_iff.mp success
    have standard : AssociationTable.standard.source.Readable := PairSource.readable_standard
    have readable := Draft.assemble_preserves keeps_readable assembled standard
    exact readable
  case h_9 => cases success
  all_goals
    obtain ⟨other, -, rfl⟩ := map_eq_ok_iff.mp success
    exact trivial

theorem readable_of_plugin {value : Json} {read : Plugin} (success : plugin value = .ok read) :
    read.Readable := by
  unfold plugin at success
  split at success
  · exact readable_of_ofKind success
  · split at success
    · exact readable_of_ofKind success
    · cases success
  · exact readable_of_ofKind success
  · cases success

theorem readable_of_plugins {values : List Json} {read : List Plugin}
    (success : plugins values = .ok read) : ∀ one ∈ read, one.Readable := by
  induction values generalizing read with
  | nil =>
      cases success
      exact nofun
  | cons value rest ih =>
      obtain ⟨first, readFirst, success⟩ := bind_eq_ok_iff.mp success
      obtain ⟨others, readOthers, success⟩ := bind_eq_ok_iff.mp success
      cases success
      exact List.forall_mem_cons.mpr ⟨readable_of_plugin readFirst, ih readOthers⟩

/-- Every chain that is read can be read again from what it is written as. -/
theorem readable_of_chain {value : Json} {read : List Plugin} (success : chain value = .ok read) :
    ∀ one ∈ read, one.Readable := by
  unfold chain at success
  split at success
  · exact readable_of_plugins success
  · exact readable_of_plugins success

end PluginForm

end CollectiveChoice

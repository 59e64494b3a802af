import CollectiveChoice.Json.Decode
import CollectiveChoice.Proofs.Success
import Mathlib.Data.List.Forall2

/-!
# Decoding what was written

Values of the domain are written as JSON and decoded from drafts.  Here the two are brought
together, one way of building values at a time: lists are read back if their items are
(`array_ofJson`), maps if their values are (`mapping_ofJson`), and structures member by member
(`setByKey_ofMembers_cons`).

Members that are not known do not matter (`setByKey_ofMembers_filter`).

Nothing is said here about any one part of the domain.  The other way round, what holds of everything
a structure can be decoded to is shown by looking at its members one at a time
(`assemble_preserves`).
-/

namespace CollectiveChoice

set_option autoImplicit false

namespace Draft

variable {ε α : Type} {decode : Draft → Except (Fault ε) α} {image : α → Json}

/-! ## Scalars -/

theorem natBelow_ofJson {bound number : Nat} (below : number < bound) :
    natBelow bound (ofJson (.integer number)) = (.ok number : Except (Fault ε) Nat) := by
  simp [natBelow, ofJson, below]

/-- A value that may be absent is read back where no present one is written as null. -/
theorem optional_ofJson {value : Option α}
    (present : ∀ some ∈ value, decode (ofJson (image some)) = .ok some ∧ image some ≠ .null) :
    optional decode (ofJson (.orNull image value)) = .ok value := by
  cases value with
  | none => rfl
  | some value =>
      obtain ⟨read, written⟩ := present value rfl
      rw [Json.orNull, optional]
      · rw [read]
        rfl
      · intro absent
        refine written ?_
        cases drawn : image value <;> simp_all [ofJson]

/-! ## Lists -/

/-- A list is decoded item by item. -/
theorem array_ofJson_of_forall₂ {written : List Json} {values : List α}
    (each : List.Forall₂ (fun item value => decode (ofJson item) = .ok value) written values) :
    array decode (ofJson (.array written)) = .ok values := by
  change items decode (ofItems written) = .ok values
  induction each with
  | nil => rfl
  | cons first _ ih =>
      rw [ofItems_cons, items, first, ih]
      rfl

/-- A list is read back if its items are. -/
theorem array_ofJson {values : List α}
    (each : ∀ value ∈ values, decode (ofJson (image value)) = .ok value) :
    array decode (ofJson (.array (values.map image))) = .ok values :=
  array_ofJson_of_forall₂ (List.forall₂_map_left_iff.mpr (List.forall₂_same.mpr each))

theorem array_string_strings (texts : List String) :
    array string (ofJson (.strings texts)) = (.ok texts : Except (Fault ε) (List String)) :=
  array_ofJson fun _ _ => rfl

/-! ## Maps -/

theorem entries_ofMembers_map {written : List (String × α)}
    (each : ∀ entry ∈ written, decode (ofJson (image entry.2)) = .ok entry.2)
    (found : SortedMap String α) :
    entries decode (ofMembers (written.map fun entry => (entry.1, image entry.2))) found
      = .ok (written.foldl (fun map entry => map.insert entry.1 entry.2) found) := by
  induction written generalizing found with
  | nil => rfl
  | cons entry rest ih =>
      rw [List.map_cons, ofMembers_cons, entries, each entry List.mem_cons_self]
      exact ih (fun other inside => each other (List.mem_cons_of_mem _ inside)) _

/-- A map is read back if its values are. -/
theorem mapping_ofJson {map : SortedMap String α}
    (each : ∀ entry ∈ map.toList, decode (ofJson (image entry.2)) = .ok entry.2) :
    mapping decode (ofJson (.object (map.mapValues image).toList)) = .ok map := by
  rw [ofJson_object, mapping, SortedMap.mapValues, entries_ofMembers_map each]
  exact congrArg Except.ok map.ofList_toList

/-! ## Structures

Simplification decodes the members of an object one after the other, where it is said what the
structure is made of and how its members are decoded. -/

@[simp] theorem string_ofJson (text : String) :
    string (ofJson (.string text)) = (.ok text : Except (Fault ε) String) := rfl

@[simp] theorem flag_ofJson (value : Bool) :
    flag (ofJson (.bool value)) = (.ok value : Except (Fault ε) Bool) := rfl

namespace Member

variable {β : Type} (key : String) (decode : Draft → Except (Fault ε) β) (store : β → α → α)
  (member : Member ε α)

@[simp] theorem key_of : (of key decode store).key = key := rfl

@[simp] theorem aliases_of : (of key decode store).aliases = [] := rfl

@[simp] theorem isSpelled_of (spelling : String) :
    (of key decode store).isSpelled spelling = (spelling == key) :=
  Bool.or_false _

@[simp] theorem set_of (draft : Draft) (before : α) :
    (of key decode store).set draft before = (decode draft).map fun value => store value before :=
  rfl

@[simp] theorem key_orKey (spelling : String) : (member.orKey spelling).key = member.key := rfl

@[simp] theorem aliases_orKey (spelling : String) :
    (member.orKey spelling).aliases = spelling :: member.aliases := rfl

@[simp] theorem set_orKey (spelling : String) : (member.orKey spelling).set = member.set := rfl

end Member

section

variable (members : List (Member ε α)) (seen : List String) (before : α)

@[simp] theorem assemble_object (fields : List (String × Json)) :
    assemble members before (ofJson (.object fields))
      = setByKey members (ofMembers fields) [] before := rfl

@[simp] theorem setByKey_ofMembers_nil :
    setByKey members (ofMembers []) seen before = .ok before := rfl

@[simp] theorem setByKey_ofMembers_cons (key : String) (value : Json)
    (rest : List (String × Json)) :
    setByKey members (ofMembers ((key, value) :: rest)) seen before
      = match members.find? fun member => key == member.key || member.aliases.contains key with
        | none =>
          if (ofJson value).skippable then setByKey members (ofMembers rest) seen before
          else .error .malformed
        | some member =>
          if seen.contains member.key then .error .malformed
          else
            member.set (ofJson value) before >>= fun after =>
              setByKey members (ofMembers rest) (member.key :: seen) after := rfl

end

/-! ## Unknown members -/

mutual

/-- A value without defects can be passed over. -/
theorem skippable_ofJson : ∀ value : Json, (ofJson value).skippable = true
  | .null | .bool _ | .integer _ | .decimal _ _ | .string _ => rfl
  | .array items => skippableItems_ofItems items
  | .object members => skippableMembers_ofMembers members

theorem skippableItems_ofItems : ∀ items : List Json, skippableItems (ofItems items) = true
  | [] => rfl
  | item :: rest =>
      Bool.and_eq_true_iff.mpr ⟨skippable_ofJson item, skippableItems_ofItems rest⟩

theorem skippableMembers_ofMembers :
    ∀ members : List (String × Json), skippableMembers (ofMembers members) = true
  | [] => rfl
  | (_, value) :: rest =>
      Bool.and_eq_true_iff.mpr ⟨skippable_ofJson value, skippableMembers_ofMembers rest⟩

end

/-- Only the known members of an object count. -/
theorem setByKey_ofMembers_filter (members : List (Member ε α)) (fields : List (String × Json))
    (seen : List String) (before : α) :
    setByKey members (ofMembers (fields.filter fun field => members.any (·.isSpelled field.1)))
        seen before
      = setByKey members (ofMembers fields) seen before := by
  induction fields generalizing seen before with
  | nil => rfl
  | cons field rest ih =>
      obtain ⟨key, value⟩ := field
      rw [ofMembers_cons, setByKey]
      cases found : members.find? (·.isSpelled key) with
      | none =>
          have unknown : members.any (·.isSpelled key) = false := by
            rw [List.any_eq_false]
            exact List.find?_eq_none.mp found
          simp only [List.filter_cons, unknown, skippable_ofJson, if_true, Bool.false_eq_true,
            if_false, ih]
      | some member =>
          have spelled := List.find?_some found
          have known : members.any (·.isSpelled key) = true :=
            List.any_eq_true.mpr ⟨member, List.mem_of_find?_eq_some found, spelled⟩
          simp only [List.filter_cons, known, if_true, ofMembers_cons, setByKey, found, ih]

/-! ## What holds of a structure -/

/-- Decoding a member keeps a property of the structure. -/
def Member.Keeps (member : Member ε α) (holds : α → Prop) : Prop :=
  ∀ draft before after, member.set draft before = .ok after → holds before → holds after

theorem Member.keeps_of {β : Type} {key : String} {decode : Draft → Except (Fault ε) β}
    {store : β → α → α} {holds : α → Prop}
    (stores : ∀ draft value before, decode draft = .ok value → holds before →
      holds (store value before)) :
    (Member.of key decode store).Keeps holds := by
  intro draft before after sets first
  obtain ⟨value, read, rfl⟩ := map_eq_ok_iff.mp sets
  exact stores draft value before read first

theorem Member.Keeps.orKey {member : Member ε α} {holds : α → Prop} (keeps : member.Keeps holds)
    (spelling : String) : (member.orKey spelling).Keeps holds :=
  keeps

section

variable {members : List (Member ε α)} {holds : α → Prop} {start result : α}

theorem setByKey_preserves {fields : List (Option String × Draft)} {seen : List String}
    (keeps : ∀ member ∈ members, member.Keeps holds)
    (read : setByKey members fields seen start = .ok result) (first : holds start) :
    holds result := by
  induction fields generalizing seen start with
  | nil =>
      cases read
      exact first
  | cons field rest ih =>
      obtain ⟨_ | key, draft⟩ := field
      · cases read
      · rw [setByKey] at read
        split at read
        · split at read
          · exact ih read first
          · cases read
        · rename_i member found
          split at read
          · cases read
          · obtain ⟨next, sets, read⟩ := bind_eq_ok_iff.mp read
            exact ih read (keeps member (List.mem_of_find?_eq_some found) draft start next sets first)

theorem setByPosition_preserves {drafts : List Draft}
    (keeps : ∀ member ∈ members, member.Keeps holds)
    (read : setByPosition members drafts start = .ok result) (first : holds start) :
    holds result := by
  induction drafts generalizing members start with
  | nil =>
      cases members <;>
      · cases read
        exact first
  | cons draft rest ih =>
      cases members with
      | nil => cases read
      | cons member members =>
          obtain ⟨next, sets, read⟩ := bind_eq_ok_iff.mp read
          exact ih (fun other inside => keeps other (List.mem_cons_of_mem _ inside)) read
            (keeps member List.mem_cons_self draft start next sets first)

/-- What every member of a structure keeps holds of everything the structure is decoded to. -/
theorem assemble_preserves {draft : Draft} (keeps : ∀ member ∈ members, member.Keeps holds)
    (read : assemble members start draft = .ok result) (first : holds start) : holds result := by
  cases draft with
  | record fields => exact setByKey_preserves keeps read first
  | list drafts => exact setByPosition_preserves keeps read first
  | null | bool | integer | decimal | text | halfPair | broken => cases read

end

end Draft

end CollectiveChoice

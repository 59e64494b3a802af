import CollectiveChoice.Configuration.Reading
import CollectiveChoice.Proofs.Json.RoundTrip
import CollectiveChoice.Proofs.Number.Rounding

/-!
# Plain values

What is written for a configuration or a snapshot has no numbers but integers of one machine word,
and its arrays and objects nest no deeper than some bound.  Such values are plain.

A plain value can be written and read back (`Json.Plain.fitsWords`), and a part of a configuration
that is built as a value before it is looked at is built as the value it was written as
(`Draft.value?_ofJson`).
-/

namespace CollectiveChoice

set_option autoImplicit false

namespace Json

/-- A value without other numbers than integers of one machine word, in which arrays and objects
nest no deeper than the room given. -/
inductive Plain : Nat → Json → Prop where
  | null (room : Nat) : Plain room .null
  | bool (room : Nat) (value : Bool) : Plain room (.bool value)
  | integer (room : Nat) {value : Int} (word : Text.isWord64 value.natAbs = true) :
      Plain room (.integer value)
  | string (room : Nat) (text : String) : Plain room (.string text)
  | array {room : Nat} {items : List Json} (plain : ∀ item ∈ items, Plain room item) :
      Plain (room + 1) (.array items)
  | object {room : Nat} {members : List (String × Json)}
      (plain : ∀ member ∈ members, Plain room member.2) : Plain (room + 1) (.object members)

/-! ## Plain values by their parts -/

section

variable {room : Nat}

@[simp] theorem plain_bool (value : Bool) : Plain room (.bool value) := .bool room value

@[simp] theorem plain_string (text : String) : Plain room (.string text) := .string room text

@[simp] theorem plain_array_iff {items : List Json} :
    Plain (room + 1) (.array items) ↔ ∀ item ∈ items, Plain room item :=
  ⟨fun | .array plain => plain, .array⟩

@[simp] theorem plain_object_iff {members : List (String × Json)} :
    Plain (room + 1) (.object members) ↔ ∀ member ∈ members, Plain room member.2 :=
  ⟨fun | .object plain => plain, .object⟩

@[simp] theorem plain_strings (texts : List String) : Plain (room + 1) (.strings texts) := by
  simp [strings]

/-- The object of a map is plain if the images of its values are. -/
theorem plain_mapValues {α : Type} {map : SortedMap String α} {image : α → Json}
    (plain : ∀ entry ∈ map.toList, Plain room (image entry.2)) :
    Plain (room + 1) (.object (map.mapValues image).toList) := by
  rw [plain_object_iff, SortedMap.mapValues]
  intro member inside
  obtain ⟨entry, stored, rfl⟩ := List.mem_map.mp inside
  exact plain entry stored

theorem plain_orNull {α : Type} {image : α → Json} {value : Option α}
    (plain : ∀ present ∈ value, Plain room (image present)) : Plain room (.orNull image value) := by
  cases value with
  | none => exact .null room
  | some present => exact plain present rfl

end

/-! ## Reading plain values -/

theorem membersFitWords_of_forall {members : List (String × Json)}
    (fit : ∀ member ∈ members, member.2.fitsWords = true) : membersFitWords members = true := by
  induction members with
  | nil => rfl
  | cons member rest ih =>
      simp only [membersFitWords, Bool.and_eq_true]
      exact ⟨fit member List.mem_cons_self,
        ih fun other inside => fit other (List.mem_cons_of_mem _ inside)⟩

/-- A plain value can be written and read back. -/
theorem Plain.fitsWords {room : Nat} {value : Json} (plain : value.Plain room) :
    value.fitsWords = true := by
  induction plain with
  | null => rfl
  | bool => rfl
  | integer => rfl
  | string => rfl
  | array _ ih => exact itemsFitWords_eq_true_iff.mpr ih
  | object _ ih => exact membersFitWords_of_forall ih

end Json

namespace Draft

open Json (Plain)

theorem isFiniteInteger_of_isWord64 {value : Int} (word : Text.isWord64 value.natAbs = true) :
    isFiniteInteger value = true := by
  simp only [isFiniteInteger, Magnitude.kept_toDigits word, Magnitude.isFinite_of_isWord64 word]

theorem valueItems?_ofItems {room : Nat} {items : List Json}
    (each : ∀ item ∈ items, value? room (ofJson item) = some item) :
    valueItems? room (ofItems items) = some items := by
  induction items with
  | nil => rfl
  | cons item rest ih =>
      have first := each item List.mem_cons_self
      have others := ih fun other inside => each other (List.mem_cons_of_mem _ inside)
      simp only [ofItems, valueItems?, first, others]

theorem valueMembers?_ofMembers {room : Nat} {members : List (String × Json)}
    (each : ∀ member ∈ members, value? room (ofJson member.2) = some member.2) :
    valueMembers? room (ofMembers members) = some members := by
  induction members with
  | nil => rfl
  | cons member rest ih =>
      have first := each member List.mem_cons_self
      have others := ih fun other inside => each other (List.mem_cons_of_mem _ inside)
      simp only [ofMembers, valueMembers?, first, others]

/-- **The draft of a plain value stands for that value**, where the room is enough for it. -/
theorem value?_ofJson {room : Nat} {value : Json} (plain : value.Plain room) :
    value? room (ofJson value) = some value := by
  induction plain with
  | null => rfl
  | bool => rfl
  | integer _ word => rw [ofJson, value?, if_pos (isFiniteInteger_of_isWord64 word)]
  | string => rfl
  | array _ ih => rw [ofJson, value?, valueItems?_ofItems ih]; rfl
  | object _ ih => rw [ofJson, value?, valueMembers?_ofMembers ih]; rfl

end Draft

/-- A part that has several forms is read from the value it was written as. -/
theorem Reading.forms_ofJson {α : Type} {room : Nat} {value : Json} (read : Json → Result α)
    (plain : value.Plain room) : forms room read (.ofJson value) = read value := by
  rw [forms, Draft.value?_ofJson plain]

end CollectiveChoice

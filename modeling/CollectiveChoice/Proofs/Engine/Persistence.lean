import CollectiveChoice.Engine.Snapshot
import CollectiveChoice.Proofs.Calendar.RoundTrip
import CollectiveChoice.Proofs.Json.Decoding
import CollectiveChoice.Proofs.Json.Plain

/-!
# Snapshots are read back as they are written

A text that holds no snapshot is replaced by the empty one, so a snapshot that was written and could
not be read back would be lost without notice.  There is none (`Snapshot.parse_write`): whatever
users, items, ids and entries of the history it has, with whatever characters in their texts.

The parts are read back one by one: sets of texts, which are written as lists (`setOf_strings`),
the selections of each user, and the entries of the history, whose timestamps are read back by
`Timestamp.read?_write`.
-/

namespace CollectiveChoice

set_option autoImplicit false

/-! ## Entries of the history -/

namespace HistoryEntry

theorem timestampOf_write (timestamp : Timestamp) :
    timestampOf (.ofJson (.string timestamp.write)) = .ok timestamp := by
  rw [timestampOf, Draft.string_ofJson, ok_bind, timestamp.read?_write]
  rfl

/-- An entry is decoded from what it is written as. -/
theorem ofDraft_toJson (entry : HistoryEntry) : ofDraft (.ofJson entry.toJson) = .ok entry := by
  have timestamp := timestampOf_write entry.timestamp
  have texts := @Draft.array_string_strings Empty
  simp [ofDraft, toJson, members, timestamp, texts, ok_bind, map_ok]
  rfl

theorem plain_toJson (entry : HistoryEntry) (room : Nat) : entry.toJson.Plain (room + 2) := by
  simp [toJson]

end HistoryEntry

namespace Snapshot

/-! ## Choices and ids -/

/-- A set is decoded from the list of its members. -/
theorem setOf_strings (set : SortedSet String) :
    setOf (.ofJson (.strings set.toList)) = .ok set := by
  rw [setOf, Draft.array_string_strings]
  exact congrArg Except.ok set.ofList_toList

/-- Choices are decoded from what they are written as. -/
theorem choicesOf_choicesToJson (choices : Choices) :
    choicesOf (.ofJson (choicesToJson choices)) = .ok choices :=
  Draft.mapping_ofJson fun _ _ => Draft.array_ofJson fun selection _ => setOf_strings selection

/-! ## Snapshots -/

/-- A snapshot is decoded from what it is written as. -/
theorem ofDraft_toJson (snapshot : Snapshot) : ofDraft (.ofJson snapshot.toJson) = .ok snapshot := by
  have choices := choicesOf_choicesToJson snapshot.choices
  have ids := setOf_strings snapshot.ids
  have history : Draft.array HistoryEntry.ofDraft
      (.ofJson (.array (snapshot.history.map HistoryEntry.toJson))) = .ok snapshot.history :=
    Draft.array_ofJson fun entry _ => entry.ofDraft_toJson
  rw [toJson, Draft.ofJson, Draft.ofItems, Draft.ofItems, Draft.ofItems, Draft.ofItems, ofDraft,
    choices, ids, history]
  rfl

theorem plain_toJson (snapshot : Snapshot) : snapshot.toJson.Plain 4 := by
  have choices : (choicesToJson snapshot.choices).Plain 3 :=
    Json.plain_mapValues fun entry _ => by simp
  simp [toJson, choices, HistoryEntry.plain_toJson]

/-- **A snapshot is read back as it is written**, so nothing is lost between writing its text and
going on from it. -/
theorem parse_write (snapshot : Snapshot) : parse snapshot.write = .ok snapshot := by
  rw [parse, write, Draft.Document.read_write snapshot.plain_toJson.fitsWords, Draft.Document.decode,
    snapshot.ofDraft_toJson]
  rfl

end Snapshot

end CollectiveChoice

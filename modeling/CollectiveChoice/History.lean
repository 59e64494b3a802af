import CollectiveChoice.Calendar.Reader
import CollectiveChoice.Json.Decode
import CollectiveChoice.Model

/-!
# The history of compilations

Every compilation leaves one entry: when it took place, whose choices had changed, whether it was
forced, and which models appeared and which disappeared.  The entries in order replay the models
that were to be seen at any time.
-/

namespace CollectiveChoice

set_option autoImplicit false

/-- What one compilation changed. -/
structure HistoryEntry where
  timestamp : Timestamp
  /-- The users whose choices had changed since the compilation before. -/
  changedUsers : List String
  forced : Bool
  /-- The ids of the models that appeared. -/
  newModels : List ModelId
  /-- The ids of the models that disappeared. -/
  lostModels : List ModelId
deriving DecidableEq

namespace HistoryEntry

/-- The entry of a compilation, given the ids before and after it. -/
def ofChange (timestamp : Timestamp) (changed : SortedSet String) (forced : Bool)
    (before after : SortedSet ModelId) : HistoryEntry where
  timestamp := timestamp
  changedUsers := changed.toList
  forced := forced
  newModels := (after.difference before).toList
  lostModels := (before.difference after).toList

/-- Whether any model appeared or disappeared. -/
def changesModels (entry : HistoryEntry) : Bool :=
  !entry.newModels.isEmpty || !entry.lostModels.isEmpty

/-! ## Writing -/

/-- An entry as JSON. -/
def toJson (entry : HistoryEntry) : Json :=
  .object [
    ("timestamp", .string entry.timestamp.write),
    ("changed_users", .strings entry.changedUsers),
    ("forced", .bool entry.forced),
    ("new_models", .strings entry.newModels),
    ("lost_models", .strings entry.lostModels)]

/-! ## Reading -/

open Draft (Member)

/-- An entry whose members may not have been seen yet. -/
structure PartialEntry where
  timestamp : Option Timestamp
  changedUsers : Option (List String)
  forced : Bool
  newModels : Option (List ModelId)
  lostModels : Option (List ModelId)

/-- A timestamp. -/
def timestampOf (draft : Draft) : Except (Fault Empty) Timestamp := do
  match Timestamp.read? (← draft.string) with
  | some timestamp => return timestamp
  | none => throw .malformed

/-- The members of an entry. -/
def members : List (Member Empty PartialEntry) := [
  .of "timestamp" timestampOf fun timestamp entry => { entry with timestamp := some timestamp },
  .of "changed_users" (Draft.array Draft.string)
    fun users entry => { entry with changedUsers := some users },
  .of "forced" Draft.flag fun forced entry => { entry with forced },
  .of "new_models" (Draft.array Draft.string)
    fun ids entry => { entry with newModels := some ids },
  .of "lost_models" (Draft.array Draft.string)
    fun ids entry => { entry with lostModels := some ids }]

/-- Reads an entry.  Only the mark of forced compilations may be missing. -/
def ofDraft (draft : Draft) : Except (Fault Empty) HistoryEntry := do
  match ← draft.assemble members ⟨none, none, false, none, none⟩ with
  | ⟨some timestamp, some changedUsers, forced, some newModels, some lostModels⟩ =>
    return ⟨timestamp, changedUsers, forced, newModels, lostModels⟩
  | _ => throw .malformed

end HistoryEntry

end CollectiveChoice

import CollectiveChoice.Choices
import CollectiveChoice.History

/-!
# Snapshots

A snapshot is what survives a restart: the choices, the ids of the visible models and the history.
It is written as an array of these three.  A text that holds no snapshot never prevents a start; the
empty snapshot takes its place.
-/

namespace CollectiveChoice

set_option autoImplicit false

/-- What survives a restart. -/
@[ext] structure Snapshot where
  choices : Choices
  /-- The ids of the visible models. -/
  ids : SortedSet ModelId
  /-- The history, oldest entry first. -/
  history : List HistoryEntry
deriving DecidableEq

namespace Snapshot

/-- The snapshot without content. -/
def empty : Snapshot := ⟨.empty, .empty, []⟩

/-! ## Writing -/

/-- Choices as JSON. -/
def choicesToJson (choices : Choices) : Json :=
  .object (choices.mapValues fun selections =>
    Json.array (selections.map fun selection => .strings selection.toList)).toList

/-- A snapshot as JSON. -/
def toJson (snapshot : Snapshot) : Json :=
  .array [
    choicesToJson snapshot.choices, .strings snapshot.ids.toList,
    .array (snapshot.history.map HistoryEntry.toJson)]

/-- The text of a snapshot. -/
def write (snapshot : Snapshot) : String :=
  snapshot.toJson.write

/-! ## Reading -/

/-- A set of texts, in any order and with repetitions. -/
def setOf (draft : Draft) : Except (Fault Empty) (SortedSet String) :=
  (draft.array Draft.string).map SortedSet.ofList

/-- Choices. -/
def choicesOf (draft : Draft) : Except (Fault Empty) Choices :=
  draft.mapping (Draft.array setOf)

/-- A snapshot. -/
def ofDraft : Draft → Except (Fault Empty) Snapshot
  | .list [choices, ids, history] => do
    let choices ← choicesOf choices
    let ids ← setOf ids
    let history ← history.array HistoryEntry.ofDraft
    return ⟨choices, ids, history⟩
  | _ => .error .malformed

/-- Reads a snapshot from a text. -/
def parse (text : String) : Except (Fault Empty) Snapshot :=
  (Draft.Document.read text).decode ofDraft

/-- The snapshot a text holds, or the empty one. -/
def recover (text : String) : Snapshot :=
  match parse text with
  | .ok snapshot => snapshot
  | .error _ => .empty

end Snapshot

end CollectiveChoice

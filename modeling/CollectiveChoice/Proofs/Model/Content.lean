import CollectiveChoice.Model
import CollectiveChoice.Proofs.Digest.Naming
import CollectiveChoice.Proofs.Term.RoundTrip

/-!
# The content of models

A model is named by the bytes of its atoms.  Values of three kinds go into two kinds of JSON there:
an integer becomes a number, everything else becomes the string that displays it.  Displaying does
not tell every symbolic term from every string, but it tells apart those that were read, since each
of these is read back from what it displays.  So the bytes of atoms that were read determine the
atoms and their order (`Atom.contentBytes_listToJson_eq_iff`), and a model leaves no trace of the
order but the set (`Model.contentBytes_unambiguous`).
-/

namespace CollectiveChoice

set_option autoImplicit false

theorem eq_of_map_eq_map {α β : Type} {image : α → β} {left right : List α}
    (distinct : ∀ a ∈ left, ∀ b ∈ right, image a = image b → a = b)
    (same : left.map image = right.map image) : left = right := by
  induction left generalizing right with
  | nil => exact (List.map_eq_nil_iff.mp same.symm).symm
  | cons a left ih =>
      cases right with
      | nil => cases same
      | cons b right =>
          obtain ⟨first, rest⟩ := List.cons.inj same
          rw [distinct a List.mem_cons_self b List.mem_cons_self first]
          refine congrArg (b :: ·) (ih (fun c insideLeft d insideRight => ?_) rest)
          exact distinct c (List.mem_cons_of_mem _ insideLeft) d (List.mem_cons_of_mem _ insideRight)

/-! ## Values -/

namespace Value

theorem fitsWords_toJson (value : Value) : value.toJson.fitsWords = true := by
  cases value <;> rfl

/-- Values that are read back from what they display have different images. -/
theorem toJson_injective {left right : Value} (readLeft : ofChars left.chars = left)
    (readRight : ofChars right.chars = right) (same : left.toJson = right.toJson) :
    left = right := by
  have displayed (alike : left.display = right.display) : left = right := by
    rw [← readLeft, ← readRight, String.ofList_injective alike]
  cases left with
  | int n =>
      cases right with
      | int m => exact congrArg Value.int (Json.integer.inj same)
      | sym | str => cases same
  | sym | str =>
      cases right with
      | int m => cases same
      | sym | str => exact displayed (Json.string.inj same)

end Value

/-! ## Atoms -/

namespace Atom

/-- Whether an atom is one that can be read. -/
def IsRead (atom : Atom) : Prop :=
  ∃ text, parse text = .ok atom

theorem Reads.ofChars_chars {chars : List Char} {atom : Atom} (reads : Reads chars atom) :
    ∀ value ∈ atom.args, Value.ofChars value.chars = value := by
  cases reads with
  | constant => exact nofun
  | application =>
      exact List.forall_mem_map.mpr fun part _ => Value.ofChars_chars_ofChars part

theorem IsRead.ofChars_chars {atom : Atom} (read : atom.IsRead) :
    ∀ value ∈ atom.args, Value.ofChars value.chars = value := by
  obtain ⟨text, read⟩ := read
  exact (parse_eq_ok_iff.mp read).ofChars_chars

theorem fitsWords_toJson (atom : Atom) : atom.toJson.fitsWords = true := by
  have args : Json.itemsFitWords (atom.args.map Value.toJson) = true :=
    Json.itemsFitWords_eq_true_iff.mpr
      (List.forall_mem_map.mpr fun value _ => value.fitsWords_toJson)
  simp [toJson, Json.fitsWords, Json.membersFitWords, args]

theorem toJson_injective {left right : Atom} (readLeft : left.IsRead) (readRight : right.IsRead)
    (same : left.toJson = right.toJson) : left = right := by
  simp only [toJson, Json.object.injEq, List.cons.injEq, Prod.mk.injEq, Json.string.injEq,
    Json.array.injEq, true_and, and_true] at same
  obtain ⟨predicates, args⟩ := same
  refine Atom.ext predicates (eq_of_map_eq_map (fun a insideLeft b insideRight => ?_) args)
  exact Value.toJson_injective (readLeft.ofChars_chars a insideLeft)
    (readRight.ofChars_chars b insideRight)

theorem fitsWords_listToJson (atoms : List Atom) : (listToJson atoms).fitsWords = true := by
  rw [listToJson, Json.fitsWords, Json.itemsFitWords_eq_true_iff]
  exact List.forall_mem_map.mpr fun atom _ => atom.fitsWords_toJson

/-- Lists of atoms that were read have the same bytes only if they are the same list. -/
theorem contentBytes_listToJson_eq_iff {left right : List Atom}
    (readLeft : ∀ atom ∈ left, atom.IsRead) (readRight : ∀ atom ∈ right, atom.IsRead) :
    Digest.contentBytes (listToJson left) = Digest.contentBytes (listToJson right)
      ↔ left = right := by
  refine ⟨fun same => ?_, fun same => by rw [same]⟩
  have values := Digest.contentBytes_injective (fitsWords_listToJson left)
    (fitsWords_listToJson right) same
  refine eq_of_map_eq_map (fun a insideLeft b insideRight => ?_) (Json.array.inj values)
  exact toJson_injective (readLeft a insideLeft) (readRight b insideRight)

end Atom

/-! ## Models -/

namespace Model

/-- The bytes a model is named by. -/
def contentBytes (model : Model) : List UInt8 :=
  Digest.contentBytes (Atom.listToJson model.atoms.toList)

theorem mem_ofAtoms {atoms : List Atom} {words : Nat} {atom : Atom} :
    atom ∈ (ofAtoms atoms words).atoms ↔ atom ∈ atoms :=
  SortedSet.mem_ofList

theorem atoms_ofAtoms_eq_iff {left right : List Atom} {words others : Nat} :
    (ofAtoms left words).atoms = (ofAtoms right others).atoms
      ↔ ∀ atom, atom ∈ left ↔ atom ∈ right := by
  refine ⟨fun same atom => ?_, fun same => SortedSet.ext_mem fun atom => ?_⟩
  · rw [← @mem_ofAtoms left words, ← @mem_ofAtoms right others, same]
  · rw [mem_ofAtoms, mem_ofAtoms, same]

theorem isRead_of_mem_ofAtoms {atoms : List Atom} (read : ∀ atom ∈ atoms, atom.IsRead)
    (words : Nat) : ∀ atom ∈ (ofAtoms atoms words).atoms.toList, atom.IsRead :=
  fun atom inside => read atom (mem_ofAtoms.mp inside)

/-- Models of atoms that were read have the same bytes exactly when they hold the same atoms. -/
theorem contentBytes_ofAtoms_eq_iff {left right : List Atom} {words others : Nat}
    (readLeft : ∀ atom ∈ left, atom.IsRead) (readRight : ∀ atom ∈ right, atom.IsRead) :
    (ofAtoms left words).contentBytes = (ofAtoms right others).contentBytes
      ↔ ∀ atom, atom ∈ left ↔ atom ∈ right := by
  have lists := Atom.contentBytes_listToJson_eq_iff (isRead_of_mem_ofAtoms readLeft words)
    (isRead_of_mem_ofAtoms readRight others)
  rw [contentBytes, contentBytes, lists, ← SortedSet.ext_iff, atoms_ofAtoms_eq_iff]

/-- **Content is hashed without ambiguity.**  Lists of atoms that were read have the same bytes only
if they are the same list.  So models of such atoms have the same bytes exactly when they hold the
same atoms, and where they hold different ones and share an id nevertheless, their bytes collide at
every position of it. -/
theorem contentBytes_unambiguous {left right : List Atom}
    (readLeft : ∀ atom ∈ left, atom.IsRead) (readRight : ∀ atom ∈ right, atom.IsRead) :
    (Digest.contentBytes (Atom.listToJson left) = Digest.contentBytes (Atom.listToJson right)
      ↔ left = right) ∧
    ∀ words others : Nat,
      ((ofAtoms left words).contentBytes = (ofAtoms right others).contentBytes
        ↔ ∀ atom, atom ∈ left ↔ atom ∈ right) ∧
      ((ofAtoms left words).id = (ofAtoms right others).id →
        (¬ ∀ atom, atom ∈ left ↔ atom ∈ right) →
        ∀ position < Digest.wordCount words,
          Digest.CollideAt position (ofAtoms left words).contentBytes
            (ofAtoms right others).contentBytes) := by
  refine ⟨Atom.contentBytes_listToJson_eq_iff readLeft readRight, fun words others => ?_⟩
  have bytes := @contentBytes_ofAtoms_eq_iff left right words others readLeft readRight
  exact ⟨bytes, fun same different => Digest.collideAt_of_name_eq (mt bytes.mp different) same⟩

/-- A symbolic term and a string with the same content have different bytes.  With a single word
their models happen to share a name. -/
theorem contentBytes_unambiguous_quotes :
    Digest.contentBytes (Atom.listToJson [⟨"p", [.sym "to"]⟩])
        ≠ Digest.contentBytes (Atom.listToJson [⟨"p", [.str "to"]⟩]) ∧
      (ofAtoms [⟨"p", [.sym "to"]⟩] 1).id = (ofAtoms [⟨"p", [.str "to"]⟩] 1).id ∧
      Digest.CollideAt 0 (ofAtoms [⟨"p", [.sym "to"]⟩] 1).contentBytes
        (ofAtoms [⟨"p", [.str "to"]⟩] 1).contentBytes := by
  have plain : ∀ atom ∈ [(⟨"p", [.sym "to"]⟩ : Atom)], atom.IsRead :=
    List.forall_mem_singleton.mpr ⟨"p(to)", rfl⟩
  have quoted : ∀ atom ∈ [(⟨"p", [.str "to"]⟩ : Atom)], atom.IsRead :=
    List.forall_mem_singleton.mpr ⟨"p(\"to\")", rfl⟩
  obtain ⟨lists, models⟩ := contentBytes_unambiguous plain quoted
  have shared : (ofAtoms [⟨"p", [.sym "to"]⟩] 1).id = (ofAtoms [⟨"p", [.str "to"]⟩] 1).id := by
    decide +kernel
  have different : ¬ ∀ atom, atom ∈ [(⟨"p", [.sym "to"]⟩ : Atom)]
      ↔ atom ∈ [(⟨"p", [.str "to"]⟩ : Atom)] :=
    fun same => absurd ((same ⟨"p", [.sym "to"]⟩).mp List.mem_cons_self) (by decide)
  exact ⟨mt lists.mp (by decide), shared, (models 1 1).2 shared different 0 (by decide)⟩

end Model

end CollectiveChoice

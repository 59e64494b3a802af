import CollectiveChoice.Proofs.Model.Content
import CollectiveChoice.Proofs.Term.Order

/-!
# Canonical form

A collection of atoms, in whatever order and with whatever repetitions, has one canonical form: the
list of its atoms in which each comes before all that stand behind it (`Atom.Canonical`).  A model
keeps its atoms in this form.  So models of two collections are equal, ids included, exactly when
the collections hold the same atoms, and a model is made again from its own atoms
(`canonical_ofAtoms`).
-/

namespace CollectiveChoice

set_option autoImplicit false

/-- A list of the atoms of a collection in which each atom comes before all that stand behind it. -/
structure Atom.Canonical (atoms canonical : List Atom) : Prop where
  ascending : canonical.Pairwise Atom.Before
  complete : ∀ atom, atom ∈ canonical ↔ atom ∈ atoms

/-- The atoms of a set are the canonical form of any collection that it is made from. -/
theorem Atom.canonical_toList_ofList (atoms : List Atom) :
    Canonical atoms (SortedSet.ofList atoms).toList where
  ascending := ascending_iff_pairwise_before.mp (SortedSet.ofList atoms).ascending
  complete := fun _ => SortedSet.mem_ofList

/-- There is no more than one canonical form. -/
theorem Atom.Canonical.eq {atoms canonical other : List Atom} (first : Canonical atoms canonical)
    (second : Canonical atoms other) : canonical = other := by
  apply eq_of_ascending_of_mem_iff
  · exact ascending_iff_pairwise_before.mpr first.ascending
  · exact ascending_iff_pairwise_before.mpr second.ascending
  · intro atom
    rw [first.complete, second.complete]

namespace Model

theorem contains_ofAtoms {atoms : List Atom} {words : Nat} {atom : Atom} :
    (ofAtoms atoms words).contains atom = true ↔ atom ∈ atoms := by
  rw [contains, SortedSet.contains_iff_mem, mem_ofAtoms]

/-- The id adds nothing to what the atoms tell apart. -/
theorem ofAtoms_eq_iff {left right : List Atom} {words : Nat} :
    ofAtoms left words = ofAtoms right words ↔ ∀ atom, atom ∈ left ↔ atom ∈ right := by
  rw [← @atoms_ofAtoms_eq_iff left right words words]
  constructor
  · intro same
    rw [same]
  · intro same
    have sets : SortedSet.ofList left = SortedSet.ofList right := same
    rw [ofAtoms, ofAtoms, sets]

/-- **The canonical form is exact.**  The atoms of a model are the one canonical form of the
collection that it is made from, and looking for an atom in them finds those of the collection.
Models of two collections are equal if these hold the same atoms, and otherwise they have different
atoms.  A model is the model of its own atoms. -/
theorem canonical_ofAtoms (atoms : List Atom) (words : Nat) :
    (∀ list, (ofAtoms atoms words).atoms.toList = list ↔ Atom.Canonical atoms list) ∧
    (∀ atom, (ofAtoms atoms words).contains atom = true ↔ atom ∈ atoms) ∧
    (∀ others, ofAtoms atoms words = ofAtoms others words
      ↔ ∀ atom, atom ∈ atoms ↔ atom ∈ others) ∧
    (∀ others count, (ofAtoms atoms words).atoms.toList = (ofAtoms others count).atoms.toList
      ↔ ∀ atom, atom ∈ atoms ↔ atom ∈ others) ∧
    ofAtoms (ofAtoms atoms words).atoms.toList words = ofAtoms atoms words := by
  have canonical : Atom.Canonical atoms (ofAtoms atoms words).atoms.toList :=
    Atom.canonical_toList_ofList atoms
  refine ⟨?_, ?_, ?_, ?_, ?_⟩
  · intro list
    constructor
    · intro same
      rw [← same]
      exact canonical
    · intro other
      exact canonical.eq other
  · intro atom
    exact contains_ofAtoms
  · intro others
    exact ofAtoms_eq_iff
  · intro others count
    rw [← SortedSet.ext_iff]
    exact atoms_ofAtoms_eq_iff
  · exact ofAtoms_eq_iff.mpr canonical.complete

example : (ofAtoms [⟨"q", []⟩, ⟨"p", [.str "1"]⟩, ⟨"p", [.sym "b"]⟩, ⟨"p", [.int 10]⟩,
      ⟨"p", [.int 9, .int 0]⟩, ⟨"p", [.sym "b"]⟩, ⟨"p", [.int 9]⟩] 3).atoms.toList
    = [⟨"p", [.int 9]⟩, ⟨"p", [.int 9, .int 0]⟩, ⟨"p", [.int 10]⟩, ⟨"p", [.sym "b"]⟩,
      ⟨"p", [.str "1"]⟩, ⟨"q", []⟩] := by
  decide

end Model

end CollectiveChoice

import CollectiveChoice.Proofs.Digest.Naming
import CollectiveChoice.Proofs.Engine.Rearrangement

/-!
# Longer names keep more models apart

Of the models that share an id the first one is kept, so the number of words in an id decides which
models are seen.  A longer id begins with the words of a shorter one, and so it is shared by no more
models: a model that is kept under shorter ids is kept under longer ones, and those that are kept
under both stand in the same order (`longerNames_separate`).

For merging it only matters that one way of naming tells apart whatever another one does
(`Refines`, `sublist_distinct_of_refines`).
-/

namespace CollectiveChoice

set_option autoImplicit false

/-- Whether a way of naming sets of atoms tells apart whatever another one does. -/
def Refines (finer coarser : SortedSet Atom → ModelId) : Prop :=
  ∀ left right, finer left = finer right → coarser left = coarser right

namespace Outcome

/-- What is kept under coarser names is kept under finer ones, in the same order. -/
theorem sublist_distinct_of_refines {finer coarser : SortedSet Atom → ModelId}
    (refines : Refines finer coarser) (solutions : List Solution)
    {seen seenFiner : SortedSet ModelId}
    (known : ∀ atoms, finer atoms ∈ seenFiner → coarser atoms ∈ seen) :
    ((distinct seen (modelsNamed coarser solutions)).map Model.atoms).Sublist
      ((distinct seenFiner (modelsNamed finer solutions)).map Model.atoms) := by
  induction solutions generalizing seen seenFiner with
  | nil => exact .slnil
  | cons solution rest ih =>
      simp only [modelsNamed, List.map_cons, distinct_cons] at ih ⊢
      by_cases old : coarser (.ofList solution.atoms) ∈ seen
      · -- The model is merged under its coarser name, and may be kept under the finer one.
        rw [if_pos (SortedSet.contains_iff_mem.mpr old)]
        split
        · exact ih known
        · refine (ih ?_).cons _
          intro atoms inside
          rcases SortedSet.mem_insert.mp inside with same | inside
          · rw [refines _ _ same]
            exact old
          · exact known atoms inside
      · -- The model is new under its coarser name, so it is under the finer one.
        have new : finer (.ofList solution.atoms) ∉ seenFiner := mt (known _) old
        rw [if_neg (mt SortedSet.contains_iff_mem.mp old),
          if_neg (mt SortedSet.contains_iff_mem.mp new)]
        refine (ih ?_).cons_cons _
        intro atoms inside
        rcases SortedSet.mem_insert.mp inside with same | inside
        · exact SortedSet.mem_insert.mpr (Or.inl (refines _ _ same))
        · exact SortedSet.mem_insert.mpr (Or.inr (known atoms inside))

theorem refines_name {fewer more : Nat} (ordered : fewer ≤ more) :
    Refines (fun atoms => Digest.name (Atom.listToJson atoms.toList) more)
      (fun atoms => Digest.name (Atom.listToJson atoms.toList) fewer) :=
  fun _ _ => Digest.name_eq_of_le ordered

/-- **Longer names merge no more than shorter ones.**  A name of fewer words has the first words of
a name of more words, and the models that are kept where ids have fewer words are among those that
are kept where ids have more, in the same order. -/
theorem longerNames_separate {fewer more : Nat} (least : Digest.minWords ≤ fewer)
    (ordered : fewer ≤ more) (greatest : more ≤ Digest.maxWords) :
    (∀ value : Json,
      ((Digest.name value more).toList.splitOn ' ').length = more ∧
      (Digest.name value fewer).toList.splitOn ' '
        = ((Digest.name value more).toList.splitOn ' ').take fewer) ∧
    ∀ solutions, ((modelsOf fewer solutions).map Model.atoms).Sublist
      ((modelsOf more solutions).map Model.atoms) := by
  have count : Digest.wordCount fewer = fewer :=
    Digest.wordCount_of_bounds least (Nat.le_trans ordered greatest)
  have countMore : Digest.wordCount more = more :=
    Digest.wordCount_of_bounds (Nat.le_trans least ordered) greatest
  constructor
  · intro value
    rw [Digest.splitOn_name, Digest.splitOn_name]
    constructor
    · rw [List.length_map, Digest.nameWords_eq_map, List.length_map, List.length_range, countMore]
    · rw [← List.map_take, ← Digest.take_nameWords value ordered, count]
  · intro solutions
    exact sublist_distinct_of_refines (refines_name ordered) solutions nofun

/-- Two solutions that differ in the quotes of one argument only. -/
def quotedOnce : List Solution :=
  [⟨[⟨"p", [.sym "to"]⟩], []⟩, ⟨[⟨"p", [.str "to"]⟩], []⟩]

/-- One word happens to be the same for both, two words are not. -/
theorem quotedOnce_longerNames_separate :
    (modelsOf 1 quotedOnce).length = 1 ∧ (modelsOf 2 quotedOnce).length = 2 ∧
      ((modelsOf 1 quotedOnce).map Model.atoms).Sublist
        ((modelsOf 2 quotedOnce).map Model.atoms) :=
  ⟨by decide +kernel, by decide +kernel,
    (longerNames_separate (by decide) (by decide) (by decide)).2 quotedOnce⟩

end Outcome

end CollectiveChoice

import CollectiveChoice.Page.Context
import CollectiveChoice.Proofs.Model.Content

/-!
# What models have in common

The atoms common to all models are found from those of the first model, put into one group for each
predicate, and taken out of the groups again where they are counted or written as facts.  Nothing is
lost on the way and nothing moves: groups collect exactly the atoms that were put into them
(`collects_ofAtoms`), whatever their arities, and taken out in order they are the ascending list of
these atoms (`atoms_ofAtoms`).

So the choice of the first model does not show, and all presentations are about one set, that of the
atoms which every model holds (`common_presentations`).
-/

namespace CollectiveChoice

set_option autoImplicit false

namespace AtomsByPredicate

/-! ## What groups hold -/

/-- Whether the arguments of an atom are in the group of its predicate. -/
def Holds (groups : AtomsByPredicate) (atom : Atom) : Prop :=
  ∃ group, groups.find? atom.predicate = some group ∧ atom.args ∈ group

/-- Groups that hold exactly certain atoms, none of the groups being empty. -/
structure Collects (groups : AtomsByPredicate) (inside : Atom → Prop) : Prop where
  holds : ∀ atom, groups.Holds atom ↔ inside atom
  filled : ∀ predicate group, groups.find? predicate = some group → ∃ args, args ∈ group

/-- The groups with one more atom. -/
def add (groups : AtomsByPredicate) (atom : Atom) : AtomsByPredicate :=
  groups.alter atom.predicate fun group => (group.getD .empty).insert atom.args

theorem find?_add (groups : AtomsByPredicate) (atom : Atom) (predicate : String) :
    (groups.add atom).find? predicate = if predicate = atom.predicate
      then some (((groups.find? atom.predicate).getD .empty).insert atom.args)
      else groups.find? predicate :=
  SortedMap.find?_alter groups atom.predicate predicate _

theorem collects_empty : Collects .empty fun _ => False where
  holds := by
    intro atom
    refine iff_of_false ?_ id
    rintro ⟨group, found, -⟩
    cases found
  filled := by
    intro predicate group found
    cases found

theorem Collects.add {groups : AtomsByPredicate} {inside : Atom → Prop}
    (collects : groups.Collects inside) (atom : Atom) :
    (groups.add atom).Collects fun other => other = atom ∨ inside other where
  holds := by
    intro other
    rw [← collects.holds, Holds, find?_add]
    by_cases same : other.predicate = atom.predicate
    · have equal : other = atom ↔ other.args = atom.args :=
        ⟨congrArg Atom.args, Atom.ext same⟩
      rw [if_pos same, equal, Holds, same]
      cases groups.find? atom.predicate with
      | none =>
          have nothing : other.args ∉ (SortedSet.empty : SortedSet (List Value)) := List.not_mem_nil
          simp [SortedSet.mem_insert, nothing]
      | some group => simp [SortedSet.mem_insert]
    · have different : other ≠ atom := fun equal => same (congrArg Atom.predicate equal)
      rw [if_neg same]
      exact (or_iff_right different).symm
  filled := by
    intro predicate group found
    rw [find?_add] at found
    split at found
    · cases found
      exact ⟨atom.args, SortedSet.mem_insert.mpr (Or.inl rfl)⟩
    · exact collects.filled predicate group found

theorem Collects.foldl_add {groups : AtomsByPredicate} {inside : Atom → Prop}
    (collects : groups.Collects inside) (atoms : List Atom) :
    (atoms.foldl AtomsByPredicate.add groups).Collects fun atom => atom ∈ atoms ∨ inside atom := by
  induction atoms generalizing groups inside with
  | nil => simpa using collects
  | cons atom rest ih =>
      have step := ih (collects.add atom)
      simp only [List.foldl_cons, List.mem_cons]
      refine ⟨fun other => ?_, step.filled⟩
      rw [step.holds, or_assoc, or_left_comm]

/-- Groups of atoms collect these atoms. -/
theorem collects_ofAtoms (atoms : List Atom) : (ofAtoms atoms).Collects (· ∈ atoms) := by
  have folded : (atoms.foldl add .empty).Collects fun atom => atom ∈ atoms ∨ False :=
    collects_empty.foldl_add atoms
  simp only [or_false] at folded
  exact folded

/-! ## Taking atoms out of groups -/

theorem mem_atoms {groups : AtomsByPredicate} {atom : Atom} :
    atom ∈ groups.atoms ↔ groups.Holds atom := by
  simp only [atoms, List.mem_flatMap, List.mem_map]
  constructor
  · rintro ⟨⟨predicate, group⟩, entry, args, inside, rfl⟩
    exact ⟨group, SortedMap.find?_eq_some_iff_mem.mpr entry, inside⟩
  · rintro ⟨group, found, inside⟩
    exact ⟨⟨atom.predicate, group⟩, SortedMap.find?_eq_some_iff_mem.mp found, atom.args, inside, rfl⟩

/-- Atoms come out of groups in ascending order. -/
theorem ascending_atoms (groups : AtomsByPredicate) : Ascending groups.atoms := by
  rw [Ascending, atoms, List.pairwise_flatMap]
  constructor
  · intro group entry
    refine List.pairwise_map.mpr (group.2.ascending.imp ?_)
    intro args later less
    rw [Atom.compare_eq, Std.ReflOrd.compare_self]
    exact less
  · refine groups.ascending.imp ?_
    intro group later less atom inside other insideLater
    obtain ⟨args, _, rfl⟩ := List.mem_map.mp inside
    obtain ⟨laterArgs, _, rfl⟩ := List.mem_map.mp insideLater
    rw [Atom.compare_eq, less]
    rfl

/-- Ascending atoms come out of their groups as they were put in. -/
theorem atoms_ofAtoms {atoms : List Atom} (ascending : Ascending atoms) :
    (ofAtoms atoms).atoms = atoms := by
  refine eq_of_ascending_of_mem_iff (ascending_atoms _) ascending ?_
  intro atom
  rw [mem_atoms, (collects_ofAtoms atoms).holds]

theorem length_atoms (groups : AtomsByPredicate) :
    groups.atoms.length = (groups.values.map SortedSet.size).foldr (· + ·) 0 := by
  rw [atoms, List.length_flatMap, SortedMap.values, List.map_map, List.sum]
  refine congrArg _ (List.map_congr_left fun group _ => ?_)
  exact List.length_map _

end AtomsByPredicate

namespace Model

/-! ## Common atoms -/

theorem mem_commonAtoms {first : Model} {others : List Model} {atom : Atom} :
    atom ∈ commonAtoms first others ↔ ∀ model ∈ first :: others, atom ∈ model.atoms := by
  simp only [commonAtoms, List.mem_filter, List.all_eq_true, contains, SortedSet.contains_iff_mem,
    List.forall_mem_cons]
  exact Iff.rfl

/-- The atoms that every model holds, as a set. -/
def shared (first : Model) (others : List Model) : SortedSet Atom where
  toList := commonAtoms first others
  ascending := first.atoms.ascending.filter _

theorem mem_shared {first : Model} {others : List Model} {atom : Atom} :
    atom ∈ shared first others ↔ ∀ model ∈ first :: others, atom ∈ model.atoms :=
  mem_commonAtoms

/-- Another one of the models may come first. -/
theorem common?_of_perm {first : Model} {others models : List Model}
    (perm : models.Perm (first :: others)) : common? models = some (intersection first others) := by
  cases models with
  | nil => exact absurd perm.length_eq nofun
  | cons head tail =>
      have sets : shared head tail = shared first others := by
        apply SortedSet.ext_mem
        intro atom
        rw [mem_shared, mem_shared]
        exact forall_congr' fun model => imp_congr_left perm.mem_iff
      have lists : commonAtoms head tail = commonAtoms first others :=
        congrArg SortedSet.toList sets
      rw [common?, intersection, intersection, lists]

theorem atoms_intersection (first : Model) (others : List Model) :
    (intersection first others).atoms = commonAtoms first others :=
  AtomsByPredicate.atoms_ofAtoms (shared first others).ascending

/-- The figures count the common atoms. -/
theorem commonCount_ofModels (first : Model) (others : List Model) (runtime : Duration) :
    (Statistics.ofModels (first :: others) runtime).commonCount
      = (commonAtoms first others).length :=
  calc (Statistics.ofModels (first :: others) runtime).commonCount
      = (intersection first others).atoms.length :=
        (AtomsByPredicate.length_atoms (intersection first others)).symm
    _ = (commonAtoms first others).length := by rw [atoms_intersection]

/-- **Common atoms are the same in every presentation.**  Models have a set of atoms in common.
Their intersection collects these atoms in groups, none of them empty, and is the same in whatever
order the models are taken.  The figures count the atoms of the set, and write the facts of its
model. -/
theorem common_presentations (first : Model) (others : List Model) :
    ∃ shared : SortedSet Atom,
      (∀ atom, atom ∈ shared ↔ ∀ model ∈ first :: others, atom ∈ model.atoms) ∧
      (intersection first others).Collects (· ∈ shared) ∧
      (∀ models, models.Perm (first :: others) →
        common? models = some (intersection first others)) ∧
      ∀ runtime,
        (Statistics.ofModels (first :: others) runtime).commonCount = shared.size ∧
        ∀ words, (Statistics.ofModels (first :: others) runtime).commonFacts
          = (ofAtoms shared.toList words).facts := by
  refine ⟨shared first others, ?_, AtomsByPredicate.collects_ofAtoms _, ?_, ?_⟩
  · intro atom
    exact mem_shared
  · intro models perm
    exact common?_of_perm perm
  · intro runtime
    constructor
    · exact commonCount_ofModels first others runtime
    · intro words
      calc (Statistics.ofModels (first :: others) runtime).commonFacts
          = Atom.facts (intersection first others).atoms := rfl
        _ = Atom.facts (commonAtoms first others) := by rw [atoms_intersection]
        _ = (ofSet (shared first others) words).facts := rfl
        _ = (ofAtoms (shared first others).toList words).facts := by
            rw [ofAtoms, SortedSet.ofList_toList]

/-- Two days on which the hall is open, and the hours are not the same. -/
def monday : Model :=
  ofAtoms [⟨"open", [.sym "hall", .int 9]⟩, ⟨"open", [.sym "hall"]⟩, ⟨"day", []⟩] 2

def tuesday : Model :=
  ofAtoms [⟨"open", [.sym "hall"]⟩, ⟨"open", [.sym "hall", .int 10]⟩, ⟨"day", []⟩] 2

theorem monday_common_presentations :
    [tuesday, monday].Perm [monday, tuesday] ∧
      common? [tuesday, monday] = some (intersection monday [tuesday]) ∧
      (intersection monday [tuesday]).atoms = [⟨"day", []⟩, ⟨"open", [.sym "hall"]⟩] ∧
      (Statistics.ofModels [monday, tuesday] ⟨0⟩).commonCount = 2 ∧
      (Statistics.ofModels [monday, tuesday] ⟨0⟩).commonFacts = "day. open(hall)." := by
  obtain ⟨-, -, -, presented, -⟩ := common_presentations monday [tuesday]
  have swapped : [tuesday, monday].Perm [monday, tuesday] := .swap monday tuesday []
  exact ⟨swapped, presented _ swapped, by decide +kernel, by decide +kernel, by decide +kernel⟩

end Model

end CollectiveChoice

/-!
# Finite sets in ascending order

A finite set over a linearly ordered type is kept as the strictly ascending list of its members.
The list is canonical: two sets with the same members are the same value, so a set can be printed,
hashed or compared through its list without any further normalization.

Main statements: `mem_insert` and `mem_ofList` say what a set holds, `ext_mem` that its members
determine it, and `contains_iff_mem` that the binary search decides membership.
-/

namespace CollectiveChoice

set_option autoImplicit false

/-! ## Strictly ascending lists -/

section Ascending

variable {α : Type} [Ord α]

/-- Every member comes strictly before all members behind it. -/
def Ascending (members : List α) : Prop :=
  members.Pairwise fun earlier later => compare earlier later = .lt

/-- Places a value into an ascending list, leaving the list as it is when it holds the value. -/
def insertAscending (value : α) : List α → List α
  | [] => [value]
  | head :: tail =>
    match compare value head with
    | .lt => value :: head :: tail
    | .eq => head :: tail
    | .gt => head :: insertAscending value tail

attribute [local simp] insertAscending

variable [Std.LawfulEqOrd α]

theorem mem_insertAscending {value member : α} {members : List α} :
    member ∈ insertAscending value members ↔ member = value ∨ member ∈ members := by
  induction members with
  | nil => simp
  | cons head tail ih =>
    simp only [insertAscending]
    split
    · simp
    · rename_i same
      have : value = head := Std.LawfulEqOrd.eq_of_compare same
      subst this
      simp
    · simp [ih, or_left_comm]

variable [Std.TransOrd α]

theorem ascending_insertAscending {members : List α} (ascending : Ascending members) (value : α) :
    Ascending (insertAscending value members) := by
  induction members with
  | nil => simp [Ascending]
  | cons head tail ih =>
    obtain ⟨before, rest⟩ := List.pairwise_cons.mp ascending
    simp only [insertAscending]
    split
    · rename_i less
      refine List.pairwise_cons.mpr ⟨fun member inside => ?_, ascending⟩
      rcases List.mem_cons.mp inside with rfl | deeper
      · exact less
      · exact Std.TransCmp.lt_trans less (before member deeper)
    · exact ascending
    · rename_i greater
      refine List.pairwise_cons.mpr ⟨fun member inside => ?_, ih rest⟩
      rcases mem_insertAscending.mp inside with rfl | deeper
      · exact Std.OrientedCmp.lt_of_gt greater
      · exact before member deeper

omit [Std.TransOrd α] in
theorem not_mem_of_ascending_cons {head : α} {tail : List α} (ascending : Ascending (head :: tail)) :
    head ∉ tail := fun inside => by
  have less := (List.pairwise_cons.mp ascending).1 head inside
  rw [Std.ReflOrd.compare_self] at less
  cases less

/-- Ascending lists with the same members are equal. -/
theorem eq_of_ascending_of_mem_iff {left right : List α} (leftAscending : Ascending left)
    (rightAscending : Ascending right) (same : ∀ member, member ∈ left ↔ member ∈ right) :
    left = right := by
  induction left generalizing right with
  | nil =>
    cases right with
    | nil => rfl
    | cons head tail => simpa using same head
  | cons head tail ih =>
    cases right with
    | nil => simpa using same head
    | cons head' tail' =>
      obtain ⟨before, rest⟩ := List.pairwise_cons.mp leftAscending
      obtain ⟨before', rest'⟩ := List.pairwise_cons.mp rightAscending
      have heads : head = head' := by
        rcases List.mem_cons.mp ((same head).mp List.mem_cons_self) with equal | inside
        · exact equal
        rcases List.mem_cons.mp ((same head').mpr List.mem_cons_self) with equal | inside'
        · exact equal.symm
        have less := before head' inside'
        rw [Std.OrientedCmp.gt_of_lt (before' head inside)] at less
        cases less
      subst heads
      refine congrArg _ (ih rest rest' fun member => ?_)
      constructor
      · intro inside
        rcases List.mem_cons.mp ((same member).mp (List.mem_cons_of_mem _ inside)) with rfl | deeper
        · exact absurd inside (not_mem_of_ascending_cons leftAscending)
        · exact deeper
      · intro inside
        rcases List.mem_cons.mp ((same member).mpr (List.mem_cons_of_mem _ inside)) with rfl | deeper
        · exact absurd inside (not_mem_of_ascending_cons rightAscending)
        · exact deeper

end Ascending

/-! ## Binary search -/

section Search

variable {α : Type} [Ord α]

/-- Looks for a value among the places from `low` up to, but not including, `high` of an
ascending array, halving the range at every step. -/
def searchBetween (members : Array α) (value : α) (low high : Nat) : Bool :=
  if low < high then
    let middle := low + (high - low) / 2
    match members[middle]? with
    | none => false
    | some member =>
      match compare member value with
      | .eq => true
      | .lt => searchBetween members value (middle + 1) high
      | .gt => searchBetween members value low middle
  else false
termination_by high - low

variable [Std.LawfulEqOrd α] [Std.TransOrd α]

omit [Std.LawfulEqOrd α] in
/-- In an ascending list, what precedes a member comes before it in the order. -/
theorem place_lt_of_compare_lt {members : List α} (ascending : Ascending members)
    {place other : Nat} {member value : α} (atPlace : members[place]? = some member)
    (atOther : members[other]? = some value) (less : compare member value = .lt) :
    place < other := by
  obtain ⟨placeBound, rfl⟩ := List.getElem?_eq_some_iff.mp atPlace
  obtain ⟨otherBound, rfl⟩ := List.getElem?_eq_some_iff.mp atOther
  rcases Nat.lt_trichotomy place other with before | same | after
  · exact before
  · subst same
    rw [Std.ReflOrd.compare_self] at less
    cases less
  · have greater := List.pairwise_iff_getElem.mp ascending other place otherBound placeBound after
    rw [Std.OrientedCmp.gt_of_lt greater] at less
    cases less

/-- The search finds exactly the values that stand at one of the places it looks through. -/
theorem searchBetween_eq_true_iff {members : List α} (ascending : Ascending members) (value : α)
    (low high : Nat) (bounded : high ≤ members.length) :
    searchBetween members.toArray value low high = true
      ↔ ∃ place, low ≤ place ∧ place < high ∧ members[place]? = some value := by
  fun_induction searchBetween members.toArray value low high with
  | case1 low high nonempty middle missing =>
    have within : middle < members.length := by omega
    rw [List.getElem?_toArray, List.getElem?_eq_getElem within] at missing
    cases missing
  | case2 low high nonempty middle member found same =>
    have equal : member = value := Std.LawfulEqOrd.eq_of_compare same
    rw [List.getElem?_toArray, equal] at found
    exact iff_of_true rfl ⟨middle, by omega, by omega, found⟩
  | case3 low high nonempty middle member found less ih =>
    rw [List.getElem?_toArray] at found
    rw [ih bounded]
    constructor
    · rintro ⟨place, above, below, here⟩
      exact ⟨place, by omega, below, here⟩
    · rintro ⟨place, above, below, here⟩
      exact ⟨place, place_lt_of_compare_lt ascending found here less, below, here⟩
  | case4 low high nonempty middle member found greater ih =>
    rw [List.getElem?_toArray] at found
    rw [ih (by omega)]
    constructor
    · rintro ⟨place, above, below, here⟩
      exact ⟨place, above, by omega, here⟩
    · rintro ⟨place, above, below, here⟩
      have less : compare value member = .lt := Std.OrientedCmp.lt_of_gt greater
      exact ⟨place, above, place_lt_of_compare_lt ascending here found less, here⟩
  | case5 low high exhausted =>
    refine iff_of_false (by simp) ?_
    rintro ⟨place, above, below, -⟩
    omega

end Search

/-! ## Sets -/

/-- A finite set, given by the strictly ascending list of its members. -/
@[ext] structure SortedSet (α : Type) [Ord α] where
  /-- The members, in ascending order. -/
  toList : List α
  /-- Members come in strictly ascending order. -/
  ascending : Ascending toList

namespace SortedSet

variable {α : Type} [Ord α]

instance [DecidableEq α] : DecidableEq (SortedSet α) := fun left right =>
  if same : left.toList = right.toList then
    isTrue (SortedSet.ext same)
  else
    isFalse fun equal => same (congrArg SortedSet.toList equal)

instance : Membership α (SortedSet α) where
  mem set value := value ∈ set.toList

/-- The set without members. -/
def empty : SortedSet α where
  toList := []
  ascending := List.Pairwise.nil

instance : EmptyCollection (SortedSet α) where
  emptyCollection := empty

instance : Inhabited (SortedSet α) where
  default := empty

/-- The number of members. -/
def size (set : SortedSet α) : Nat :=
  set.toList.length

/-- Whether the set has no member. -/
def isEmpty (set : SortedSet α) : Bool :=
  set.toList.isEmpty

/-- Whether the set holds a value, by binary search. -/
def contains (set : SortedSet α) (value : α) : Bool :=
  searchBetween set.toList.toArray value 0 set.toList.length

/-- The members that pass a test. -/
def filter (set : SortedSet α) (keep : α → Bool) : SortedSet α where
  toList := set.toList.filter keep
  ascending := List.Pairwise.filter keep set.ascending

/-- The members of the first set that the second one does not hold. -/
def difference (left right : SortedSet α) : SortedSet α :=
  left.filter fun value => !right.contains value

variable [Std.LawfulEqOrd α] [Std.TransOrd α]

/-- The set with one more member. -/
def insert (set : SortedSet α) (value : α) : SortedSet α where
  toList := insertAscending value set.toList
  ascending := ascending_insertAscending set.ascending value

/-- The set of the members of a list. -/
def ofList (values : List α) : SortedSet α :=
  values.foldr (fun value set => set.insert value) empty

/-- The members of either set. -/
def union (left right : SortedSet α) : SortedSet α :=
  right.toList.foldr (fun value set => set.insert value) left

/-! ### What the operations hold -/

omit [Std.LawfulEqOrd α] [Std.TransOrd α] in
theorem mem_toList {set : SortedSet α} {value : α} : value ∈ set.toList ↔ value ∈ set := Iff.rfl

theorem mem_insert {set : SortedSet α} {value member : α} :
    member ∈ set.insert value ↔ member = value ∨ member ∈ set :=
  mem_insertAscending

theorem mem_ofList {values : List α} {member : α} : member ∈ ofList values ↔ member ∈ values := by
  induction values with
  | nil => exact Iff.rfl
  | cons value rest ih =>
    have step : ofList (value :: rest) = (ofList rest).insert value := rfl
    rw [step, mem_insert, ih, List.mem_cons]

/-- A set that the image of each of some items is put into holds these images besides its members. -/
theorem mem_foldl_insert {ι : Type} (image : ι → α) (items : List ι) (set : SortedSet α)
    (member : α) :
    member ∈ items.foldl (fun set item => set.insert (image item)) set
      ↔ member ∈ set ∨ member ∈ items.map image := by
  induction items generalizing set with
  | nil => simp
  | cons item rest ih =>
    rw [List.foldl_cons, ih, mem_insert, List.map_cons, List.mem_cons, or_assoc, or_left_comm]

theorem mem_union {left right : SortedSet α} {member : α} :
    member ∈ left.union right ↔ member ∈ left ∨ member ∈ right := by
  have folded : ∀ values : List α,
      member ∈ values.foldr (fun value set => set.insert value) left
        ↔ member ∈ left ∨ member ∈ values := by
    intro values
    induction values with
    | nil => simp
    | cons value rest ih => rw [List.foldr_cons, mem_insert, ih, List.mem_cons, or_left_comm]
  exact folded right.toList

omit [Std.LawfulEqOrd α] [Std.TransOrd α] in
theorem mem_filter {set : SortedSet α} {keep : α → Bool} {member : α} :
    member ∈ set.filter keep ↔ member ∈ set ∧ keep member = true :=
  List.mem_filter

theorem contains_iff_mem {set : SortedSet α} {value : α} : set.contains value = true ↔ value ∈ set := by
  rw [contains, searchBetween_eq_true_iff set.ascending value 0 _ (Nat.le_refl _), ← mem_toList,
    List.mem_iff_getElem?]
  constructor
  · rintro ⟨place, -, -, here⟩
    exact ⟨place, here⟩
  · rintro ⟨place, here⟩
    exact ⟨place, Nat.zero_le _, (List.getElem?_eq_some_iff.mp here).1, here⟩

theorem mem_difference {left right : SortedSet α} {member : α} :
    member ∈ left.difference right ↔ member ∈ left ∧ member ∉ right := by
  rw [difference, mem_filter, Bool.not_eq_true', ← Bool.not_eq_true, contains_iff_mem]

/-- A set is determined by its members. -/
theorem ext_mem {left right : SortedSet α} (same : ∀ member, member ∈ left ↔ member ∈ right) :
    left = right :=
  SortedSet.ext (eq_of_ascending_of_mem_iff left.ascending right.ascending same)

/-- A set is made up of its members. -/
theorem ofList_toList (set : SortedSet α) : ofList set.toList = set :=
  ext_mem fun _ => mem_ofList

end SortedSet

end CollectiveChoice

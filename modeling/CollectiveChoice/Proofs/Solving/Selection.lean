import CollectiveChoice.Proofs.Order.Lexicographic
import CollectiveChoice.Proofs.Random.Sample
import CollectiveChoice.Solving.Selection

/-!
# What a request keeps of solutions

A request chooses among all solutions, or among those with the least costs in lexicographic order
(`eligible`).  Of these it keeps as many as it wants at most, the first ones or a sample, in the order
in which they were found (`Selected`, `selected_select`).

A sample is found by going along the solutions and the sorted indices at the same time.  That this
meets every index rests on the indices being distinct (`pickAlong_eq_filterMap`), and that there is a
solution at each of them on the indices being below the length.
-/

namespace CollectiveChoice

set_option autoImplicit false

namespace Selecting

open CollectiveChoice.Random (IsSample)

/-! ## Least costs -/

/-- Costs are compared in lexicographic order, where a list comes before those that continue it. -/
theorem compare_eq_lt_iff_lex {left right : List Int} :
    compare left right = .lt ↔ List.Lex (· < ·) left right :=
  compare_list_eq_lt_iff_lex fun _ _ => Int.compare_eq_lt

theorem isLE_compare_iff_not_lex {left right : List Int} :
    (compare left right).isLE = true ↔ ¬ List.Lex (· < ·) right left := by
  rw [← Std.OrientedCmp.isGE_iff_isLE, Ordering.isGE_iff_ne_lt, compare_eq_lt_iff_lex]

theorem leastCosts?_eq_none_iff {all : List (List Int)} : leastCosts? all = none ↔ all = [] := by
  cases all with
  | nil => exact iff_of_true rfl rfl
  | cons costs rest =>
      refine iff_of_false ?_ (List.cons_ne_nil _ _)
      rw [leastCosts?]
      split
      · exact nofun
      · split <;> exact nofun

/-- The costs that are found are the least of the given ones. -/
theorem mem_of_leastCosts? {all : List (List Int)} {least : List Int}
    (found : leastCosts? all = some least) :
    least ∈ all ∧ ∀ costs ∈ all, (compare least costs).isLE = true := by
  induction all generalizing least with
  | nil => cases found
  | cons costs rest ih =>
      have self : (compare costs costs).isLE = true := by
        rw [Std.ReflOrd.compare_self]
        rfl
      rw [leastCosts?] at found
      cases further : leastCosts? rest with
      | none =>
          rw [leastCosts?_eq_none_iff.mp further] at found ⊢
          cases found
          exact ⟨List.mem_cons_self, List.forall_mem_cons.mpr ⟨self, by simp⟩⟩
      | some lower =>
          obtain ⟨inside, bound⟩ := ih further
          simp only [further] at found
          split at found
          · rename_i less
            cases found
            exact ⟨List.mem_cons_of_mem _ inside, List.forall_mem_cons.mpr
              ⟨Ordering.isLE_of_eq_lt (Ordering.isLT_iff_eq_lt.mp less), bound⟩⟩
          · rename_i notLess
            cases found
            have below : (compare costs lower).isLE = true :=
              Std.OrientedCmp.isLE_of_isGE (Ordering.isGE_iff_ne_lt.mpr fun less =>
                notLess (Ordering.isLT_iff_eq_lt.mpr less))
            exact ⟨List.mem_cons_self, List.forall_mem_cons.mpr
              ⟨self, fun other member => Std.TransCmp.isLE_trans below (bound other member)⟩⟩

/-! ## Eligible solutions -/

/-- Whether no solution has costs that come before the given ones in lexicographic order. -/
def areLeast (solutions : List Solution) (costs : List Int) : Bool :=
  solutions.all fun other => !decide (List.Lex (· < ·) other.costs costs)

theorem areLeast_iff {solutions : List Solution} {costs : List Int} :
    areLeast solutions costs = true
      ↔ ∀ other ∈ solutions, (compare costs other.costs).isLE = true := by
  simp only [areLeast, List.all_eq_true, Bool.not_eq_true', decide_eq_false_iff_not,
    isLE_compare_iff_not_lex]

/-- The solutions a request chooses among: all of them, or those with the least costs. -/
def eligible (request : SolveRequest) (solutions : List Solution) : List Solution :=
  if request.optimalsOnly then solutions.filter fun solution => areLeast solutions solution.costs
  else solutions

theorem retainOptimal_eq_filter (solutions : List Solution) :
    retainOptimal solutions
      = solutions.filter fun solution => areLeast solutions solution.costs := by
  unfold retainOptimal
  split
  · rename_i none
    rw [List.map_eq_nil_iff.mp (leastCosts?_eq_none_iff.mp none)]
    rfl
  · rename_i least found
    obtain ⟨inside, bound⟩ := mem_of_leastCosts? found
    obtain ⟨best, member, rfl⟩ := List.mem_map.mp inside
    have lowest : ∀ other ∈ solutions, (compare best.costs other.costs).isLE = true :=
      fun other present => bound _ (List.mem_map_of_mem present)
    refine List.filter_congr fun solution present => Bool.eq_iff_iff.mpr ?_
    rw [beq_iff_eq, areLeast_iff]
    constructor
    · intro same
      rw [same]
      exact lowest
    · intro least
      exact Std.LawfulEqOrd.eq_of_compare
        (Std.OrientedCmp.isLE_antisymm (least best member) (lowest solution present))

/-- Solutions that are all optimal are kept. -/
theorem retainOptimal_of_sublist {solutions kept : List Solution}
    (sublist : kept.Sublist (retainOptimal solutions)) : retainOptimal kept = kept := by
  rw [retainOptimal_eq_filter] at sublist ⊢
  refine List.filter_eq_self.mpr fun solution inside => areLeast_iff.mpr fun other present => ?_
  have least := areLeast_iff.mp (List.mem_filter.mp (sublist.mem inside)).2
  exact least other (List.mem_filter.mp (sublist.mem present)).1

/-! ## Going along indices -/

theorem pickAlong_sublist {α : Type} (place : Nat) (places : List Nat) (entries : List α) :
    (pickAlong place places entries).Sublist entries := by
  fun_induction pickAlong place places entries with
  | case1 place places entry rest ih => exact ih.cons_cons entry
  | case2 place next places entry rest _ ih => exact ih.cons entry
  | case3 => exact List.nil_sublist _

/-- Places behind the first entry are places among the others. -/
theorem filterMap_getElem?_cons {α : Type} {place : Nat} {places : List Nat}
    (behind : ∀ next ∈ places, place + 1 ≤ next) (entry : α) (rest : List α) :
    (places.filterMap fun next => (entry :: rest)[next - place]?)
      = places.filterMap fun next => rest[next - (place + 1)]? := by
  refine List.filterMap_congr fun next inside => ?_
  have later : next - place = next - (place + 1) + 1 := by
    have := behind next inside
    omega
  rw [later, List.getElem?_cons_succ]

/-- Going along ascending places meets each of them. -/
theorem pickAlong_eq_filterMap {α : Type} {place : Nat} {places : List Nat} {entries : List α}
    (ascending : places.Pairwise (· < ·)) (ahead : ∀ next ∈ places, place ≤ next) :
    pickAlong place places entries = places.filterMap fun next => entries[next - place]? := by
  fun_induction pickAlong place places entries with
  | case1 place places entry rest ih =>
      obtain ⟨behind, ascending⟩ := List.pairwise_cons.mp ascending
      rw [List.filterMap_cons, Nat.sub_self, List.getElem?_cons_zero,
        filterMap_getElem?_cons behind, ih ascending behind]
  | case2 place next places entry rest skipped ih =>
      obtain ⟨first, others⟩ := List.forall_mem_cons.mp ahead
      obtain ⟨above, -⟩ := List.pairwise_cons.mp ascending
      have behind : ∀ later ∈ next :: places, place + 1 ≤ later := by
        have here : place + 1 ≤ next := Nat.lt_of_le_of_ne first (Ne.symm skipped)
        exact List.forall_mem_cons.mpr
          ⟨here, fun later inside => Nat.le_trans here (Nat.le_of_lt (above later inside))⟩
      rw [filterMap_getElem?_cons behind, ih ascending behind]
  | case3 entries _ places ended =>
      cases places with
      | nil => rfl
      | cons next places =>
          cases entries with
          | nil => simp
          | cons entry rest => exact absurd rfl (ended next places entry rest rfl)

theorem length_pickAlong {α : Type} {indices : List Nat} {entries : List α}
    (ascending : indices.Pairwise (· < ·)) (below : ∀ index ∈ indices, index < entries.length) :
    (pickAlong 0 indices entries).length = indices.length := by
  rw [pickAlong_eq_filterMap ascending fun index _ => Nat.zero_le index,
    List.filterMap_length_eq_length]
  intro index inside
  rw [Nat.sub_zero, List.getElem?_eq_getElem (below index inside)]
  rfl

/-- Sorting distinct indices makes them ascend. -/
theorem pairwise_lt_mergeSort {indices : List Nat} (nodup : indices.Nodup) :
    indices.mergeSort.Pairwise (· < ·) := by
  have sorted : indices.mergeSort.Pairwise (· ≤ ·) := by
    refine (List.pairwise_mergeSort ?_ ?_ indices).imp fun ordered => of_decide_eq_true ordered
    · simp only [decide_eq_true_eq]
      exact fun _ _ _ => Nat.le_trans
    · simp [Nat.le_total]
  have distinct := (List.mergeSort_perm indices fun a b => decide (a ≤ b)).nodup_iff.mpr nodup
  exact (sorted.and distinct).imp fun both => Nat.lt_of_le_of_ne both.1 both.2

/-! ## Samples -/

/-- Every sample that is picked is one without repetition. -/
def Picker.Samples (pick : Picker) : Prop :=
  ∀ length amount, amount ≤ length → IsSample length amount (pick length amount)

theorem samples_pickerOf (seed : Option UInt64) : Picker.Samples (pickerOf seed) :=
  fun _ _ enough => Random.isSample_sampleIndices _ enough

theorem sample_of_le (pick : Picker) {limit : Nat} {solutions : List Solution}
    (few : limit = 0 ∨ solutions.length ≤ limit) : sample pick limit solutions = solutions :=
  if_pos few

theorem sample_sublist (pick : Picker) (limit : Nat) (solutions : List Solution) :
    (sample pick limit solutions).Sublist solutions := by
  unfold sample
  split
  · exact .refl _
  · exact pickAlong_sublist ..

theorem length_sample {pick : Picker} (samples : pick.Samples) {limit : Nat}
    {solutions : List Solution} (limited : limit ≠ 0) :
    (sample pick limit solutions).length = min limit solutions.length := by
  by_cases few : solutions.length ≤ limit
  · rw [sample_of_le pick (.inr few), Nat.min_eq_right few]
  · have many : limit ≤ solutions.length := Nat.le_of_not_le few
    obtain ⟨count, nodup, below⟩ := samples solutions.length limit many
    have perm := List.mergeSort_perm (pick solutions.length limit) fun a b => decide (a ≤ b)
    rw [sample, if_neg (not_or.mpr ⟨limited, few⟩), length_pickAlong (pairwise_lt_mergeSort nodup),
      perm.length_eq, count, Nat.min_eq_left many]
    exact fun index inside => below index (perm.mem_iff.mp inside)

/-! ## Selecting -/

theorem truncate_of_le {limit : Nat} {solutions : List Solution}
    (few : limit = 0 ∨ solutions.length ≤ limit) : truncate limit solutions = solutions := by
  unfold truncate
  split
  · rfl
  · rename_i limited
    exact List.take_of_length_le (few.resolve_left limited)

/-- What a request keeps of solutions. -/
structure Selected (request : SolveRequest) (solutions kept : List Solution) : Prop where
  /-- Solutions stay in the order in which they were found. -/
  sublist : kept.Sublist solutions
  eligible : kept.Sublist (eligible request solutions)
  /-- As many are kept as are wanted at most, and all of them without a limit. -/
  length_eq : kept.length =
    if request.maxModels = 0 then (Selecting.eligible request solutions).length
    else min request.maxModels (Selecting.eligible request solutions).length
  /-- Unless a sample is taken, these are the first ones. -/
  first : ¬(request.sampling = true ∧ request.optimalsOnly = false) →
    kept = (Selecting.eligible request solutions).take kept.length
  /-- Selecting among them changes nothing, in whatever way samples are picked then. -/
  stable : ∀ again, selectWith again request kept = kept

theorem eligible_sublist (request : SolveRequest) (solutions : List Solution) :
    (eligible request solutions).Sublist solutions := by
  unfold eligible
  split
  · exact List.filter_sublist
  · exact .refl _

/-- Solutions that are eligible and no more than wanted are kept. -/
theorem selectWith_of_le {request : SolveRequest} {solutions kept : List Solution}
    (among : kept.Sublist (eligible request solutions))
    (few : request.maxModels = 0 ∨ kept.length ≤ request.maxModels) (again : Picker) :
    selectWith again request kept = kept := by
  unfold selectWith
  split
  · rename_i optimal
    rw [eligible, if_pos optimal, ← retainOptimal_eq_filter] at among
    rw [retainOptimal_of_sublist among, truncate_of_le few]
  · split
    · exact sample_of_le again few
    · exact truncate_of_le few

/-- Part of the eligible solutions, of the right length, is what a request keeps. -/
theorem Selected.of_length_eq {request : SolveRequest} {solutions kept : List Solution}
    (among : kept.Sublist (Selecting.eligible request solutions))
    (length_eq : kept.length =
      if request.maxModels = 0 then (Selecting.eligible request solutions).length
      else min request.maxModels (Selecting.eligible request solutions).length)
    (first : ¬(request.sampling = true ∧ request.optimalsOnly = false) →
      kept <+: Selecting.eligible request solutions) :
    Selected request solutions kept where
  sublist := among.trans (eligible_sublist request solutions)
  eligible := among
  length_eq := length_eq
  first unsampled := List.prefix_iff_eq_take.mp (first unsampled)
  stable := by
    refine selectWith_of_le among ?_
    rw [length_eq]
    split
    · exact .inl ‹_›
    · exact .inr (Nat.min_le_left _ _)

/-- The first solutions are a part of the right length. -/
theorem selected_truncate (request : SolveRequest) (solutions : List Solution) :
    Selected request solutions (truncate request.maxModels (eligible request solutions)) := by
  have front : truncate request.maxModels (eligible request solutions)
      <+: eligible request solutions := by
    unfold truncate
    split
    · exact List.prefix_rfl
    · exact List.take_prefix _ _
  refine .of_length_eq front.sublist ?_ fun _ => front
  unfold truncate
  split
  · rfl
  · exact List.length_take

theorem selected_sample {pick : Picker} (samples : pick.Samples) {request : SolveRequest}
    (all : request.optimalsOnly = false) (sampled : request.sampling = true)
    (solutions : List Solution) :
    Selected request solutions (sample pick request.maxModels solutions) := by
  have everything : eligible request solutions = solutions := by
    rw [eligible, all]
    rfl
  refine .of_length_eq ?_ ?_ fun unsampled => absurd ⟨sampled, all⟩ unsampled
  · rw [everything]
    exact sample_sublist pick _ solutions
  · rw [everything]
    split
    · rename_i unlimited
      rw [sample_of_le pick (.inl unlimited)]
    · rename_i limited
      exact length_sample samples limited

theorem selected_selectWith {pick : Picker} (samples : pick.Samples) (request : SolveRequest)
    (solutions : List Solution) :
    Selected request solutions (selectWith pick request solutions) := by
  have chosen : selectWith pick request solutions
      = if request.sampling = true ∧ request.optimalsOnly = false then
          sample pick request.maxModels solutions
        else truncate request.maxModels (eligible request solutions) := by
    rw [selectWith, eligible, ← retainOptimal_eq_filter]
    cases request.optimalsOnly <;> cases request.sampling <;> rfl
  rw [chosen]
  split
  · rename_i sampled
    exact selected_sample samples sampled.2 sampled.1 solutions
  · exact selected_truncate request solutions

/-- **A request keeps exactly as many solutions as it wants, in their order**: the first ones, or a
sample, of all solutions or of the optimal ones.  Of the way to pick samples no more is needed than
that they are without repetition. -/
theorem selected_select (request : SolveRequest) (solutions : List Solution) :
    Selected request solutions (select request solutions) ∧
      ∀ pick : Picker, pick.Samples →
        Selected request solutions (selectWith pick request solutions) :=
  ⟨selected_selectWith (samples_pickerOf request.samplingSeed) request solutions,
    fun _ samples => selected_selectWith samples request solutions⟩

end Selecting

end CollectiveChoice

import CollectiveChoice.Proofs.Solving.Selection
import CollectiveChoice.Solving.Answer

/-!
# The limit given to the solver

How many models the solver enumerates is set by its arguments, and which of its solutions are kept
is decided afterwards.  The two agree.  A request that sets no number of models itself is given one,
and the solutions beyond that number would not have been kept (`arguments_setModelCount`): all
solutions are asked for where a choice is made among all of them, and otherwise as many as are
wanted.

Nor is more asked for than is needed.  Under any lower limit the best of some solutions is missed
where it is the last one that is found (`engineLimit_le_of_suffices`).

The definition of a constant stands behind an argument `-c`.  It is no option, even where it looks
like one (`optionsOf`).
-/

namespace CollectiveChoice

set_option autoImplicit false

namespace SolveRequest

open Selecting

/-! ## Options -/

/-- The options among arguments: all of them but the definitions, which stand behind `-c`. -/
def optionsOf : List String → List String
  | "-c" :: _ :: rest => "-c" :: optionsOf rest
  | argument :: rest => argument :: optionsOf rest
  | [] => []

theorem optionsOf_definitions (entries : List (String × String)) (rest : List String) :
    optionsOf ((entries.flatMap fun entry => ["-c", entry.1 ++ "=" ++ entry.2]) ++ rest)
      = entries.map (fun _ => "-c") ++ optionsOf rest := by
  induction entries with
  | nil => rfl
  | cons entry entries ih =>
      exact congrArg ("-c" :: ·) ih

theorem setsModelCount_models (limit : Nat) :
    setsModelCount ("--models=" ++ Text.decimalNat limit) = true := by
  have start : startsWith ("--models=" ++ Text.decimalNat limit) "--models" = true := by
    rw [startsWith, String.toList_append]
    rfl
  rw [setsModelCount, start, Bool.or_true, Bool.true_or]

theorem optionsOf_optimize (rest : List String) :
    optionsOf ("--opt-mode=optN" :: rest) = "--opt-mode=optN" :: optionsOf rest := by
  simp [optionsOf]

theorem optionsOf_models (limit : Nat) :
    optionsOf ["--models=" ++ Text.decimalNat limit] = ["--models=" ++ Text.decimalNat limit] := by
  unfold optionsOf
  rfl

/-- The argument that sets the number of models, where the request does not set it. -/
def counts (request : SolveRequest) : List String :=
  if request.cli.any setsModelCount then []
  else ["--models=" ++ Text.decimalNat request.engineLimit]

/-- The arguments that are added to those of a request. -/
def added (request : SolveRequest) : List String :=
  (request.constants.toList.flatMap fun entry => ["-c", entry.1 ++ "=" ++ entry.2]) ++
    ((if request.optimalsOnly && !request.cli.any setsOptimization then ["--opt-mode=optN"]
      else []) ++ counts request)

theorem arguments_eq (request : SolveRequest) :
    request.arguments = "--outf=2" :: request.cli ++ added request := by
  simp only [arguments, added, counts, List.cons_append, List.append_assoc]

theorem filter_setsModelCount_counts (request : SolveRequest) :
    (optionsOf (counts request)).filter setsModelCount = counts request := by
  unfold counts
  split
  · rfl
  · rw [optionsOf_models, List.filter_cons, setsModelCount_models]
    rfl

/-- Neither definitions nor the mode of optimization set the number of models. -/
theorem filter_setsModelCount_added (request : SolveRequest) :
    (optionsOf (added request)).filter setsModelCount = counts request := by
  have define : setsModelCount "-c" = false := by decide
  have optimize : setsModelCount "--opt-mode=optN" = false := by decide
  have undefined : (request.constants.toList.map fun _ => "-c").filter setsModelCount = [] := by
    rw [List.map_const', List.filter_replicate, define]
    rfl
  rw [added, optionsOf_definitions, List.filter_append, undefined, List.nil_append]
  split
  · rw [List.singleton_append, optionsOf_optimize, List.filter_cons, optimize]
    exact filter_setsModelCount_counts request
  · exact filter_setsModelCount_counts request

/-! ## Limits that suffice -/

/-- The solutions that are enumerated under a limit, of those that are enumerated without.  Zero
sets no limit. -/
def enumerated (limit : Nat) (solutions : List Solution) : List Solution :=
  if limit = 0 then solutions else solutions.take limit

/-- Under a limit that suffices, solutions are kept as without a limit, in whatever way samples are
picked. -/
def Suffices (request : SolveRequest) (limit : Nat) : Prop :=
  ∀ (pick : Picker) (solutions : List Solution),
    selectWith pick request (enumerated limit solutions) = selectWith pick request solutions

theorem truncate_enumerated (limit : Nat) (solutions : List Solution) :
    truncate limit (enumerated limit solutions) = truncate limit solutions := by
  unfold truncate enumerated
  split
  · rfl
  · rw [List.take_take, Nat.min_self]

theorem suffices_engineLimit (request : SolveRequest) : Suffices request request.engineLimit := by
  intro pick solutions
  unfold engineLimit
  split
  · rfl
  · rename_i neither
    obtain ⟨unsampled, all⟩ : request.sampling = false ∧ request.optimalsOnly = false := by
      simpa using neither
    simp only [selectWith, unsampled, all, Bool.false_eq_true, if_false]
    exact truncate_enumerated request.maxModels solutions

/-! ## Limits that do not suffice -/

/-- A solution of some costs. -/
def costing (cost : Int) : Solution :=
  ⟨[], [cost]⟩

/-- Solutions of which the last one is the best. -/
def bestLast (count : Nat) : List Solution :=
  List.replicate count (costing 1) ++ [costing 0]

/-- The way to pick the last indices. -/
def pickLast : Picker :=
  fun length amount => List.range' (length - amount) amount

theorem samples_pickLast : pickLast.Samples := by
  intro length amount enough
  refine ⟨List.length_range', List.nodup_range', fun index inside => ?_⟩
  have bounds := List.mem_range'_1.mp inside
  omega

theorem mem_bestLast (count : Nat) : costing 0 ∈ bestLast count :=
  List.mem_append_right _ List.mem_cons_self

theorem length_bestLast (count : Nat) : (bestLast count).length = count + 1 := by
  rw [bestLast, List.length_append, List.length_replicate, List.length_singleton]

theorem retainOptimal_bestLast (count : Nat) : retainOptimal (bestLast count) = [costing 0] := by
  have last : areLeast (bestLast count) [0] = true := by
    refine areLeast_iff.mpr fun other inside => ?_
    rcases List.mem_append.mp inside with worse | best
    · rw [List.eq_of_mem_replicate worse]
      rfl
    · rw [List.mem_singleton.mp best]
      rfl
  have others : areLeast (bestLast count) [1] = false := by
    refine Bool.eq_false_iff.mpr fun least => ?_
    cases areLeast_iff.mp least _ (mem_bestLast count)
  rw [retainOptimal_eq_filter]
  generalize areLeast (bestLast count) = keeps at last others
  rw [bestLast, List.filter_append, List.filter_replicate]
  simp only [costing, last, others, Bool.false_eq_true, if_false, List.nil_append,
    List.filter_cons_of_pos, List.filter_nil]

/-- A solution is in a sample if its index is picked. -/
theorem mem_sample {pick : Picker} (samples : pick.Samples) {limit index : Nat}
    {solutions : List Solution} {solution : Solution}
    (picked : index ∈ pick solutions.length limit) (there : solutions[index]? = some solution) :
    solution ∈ sample pick limit solutions := by
  unfold sample
  split
  · exact List.mem_of_getElem? there
  · rename_i many
    have nodup := (samples solutions.length limit (by omega)).nodup
    rw [pickAlong_eq_filterMap (pairwise_lt_mergeSort nodup) fun index _ => Nat.zero_le index]
    have sorted := List.mergeSort_perm (pick solutions.length limit) fun a b => decide (a ≤ b)
    exact List.mem_filterMap.mpr ⟨index, sorted.mem_iff.mpr picked, there⟩

theorem best_mem_sample (limit count : Nat) :
    costing 0 ∈ sample pickLast limit (bestLast count) := by
  by_cases unlimited : limit = 0
  · rw [sample_of_le pickLast (.inl unlimited)]
    exact mem_bestLast count
  · have picked : count ∈ pickLast (bestLast count).length limit := by
      rw [length_bestLast]
      exact List.mem_range'_1.mpr (by omega)
    refine mem_sample samples_pickLast picked ?_
    rw [bestLast, List.getElem?_append_right (Nat.le_of_eq List.length_replicate),
      List.length_replicate, Nat.sub_self]
    rfl

/-- The best solution is kept, even as the last one, unless as many as are wanted come first. -/
theorem best_mem_selectWith {request : SolveRequest} {count : Nat}
    (few : request.engineLimit = 0 ∨ count < request.engineLimit) :
    costing 0 ∈ selectWith pickLast request (bestLast count) := by
  unfold selectWith
  split
  · rw [retainOptimal_bestLast, truncate_of_le]
    · exact List.mem_cons_self
    · rw [List.length_singleton]
      omega
  · rename_i all
    split
    · exact best_mem_sample request.maxModels count
    · rename_i unsampled
      have wanted : request.engineLimit = request.maxModels := if_neg (by simp [all, unsampled])
      rw [truncate_of_le]
      · exact mem_bestLast count
      · rw [length_bestLast, ← wanted]
        exact few

/-- A lower limit does not suffice. -/
theorem engineLimit_le_of_suffices {request : SolveRequest} {limit : Nat} (limited : limit ≠ 0)
    (enough : Suffices request limit) :
    request.engineLimit ≠ 0 ∧ request.engineLimit ≤ limit := by
  by_contra lower
  have few : request.engineLimit = 0 ∨ limit < request.engineLimit := by omega
  have kept := best_mem_selectWith few
  have first : enumerated limit (bestLast limit) = List.replicate limit (costing 1) := by
    rw [enumerated, if_neg limited, bestLast, List.take_left' List.length_replicate]
  rw [← enough, first] at kept
  have sublist := (selected_selectWith samples_pickLast request
    (List.replicate limit (costing 1))).sublist
  cases List.eq_of_mem_replicate (sublist.mem kept)

/-- **The number of models that is asked for does not change what is kept.**  Either a request sets
it itself and no option is added that does, or one is added, and then what is kept of the solutions
up to that number is what is kept of all solutions.  No lower number would do. -/
theorem arguments_setModelCount (request : SolveRequest) :
    ∃ further, request.arguments = "--outf=2" :: request.cli ++ further ∧
      (request.cli.any setsModelCount = true ∧ (optionsOf further).filter setsModelCount = [] ∨
        request.cli.any setsModelCount = false ∧
          ∃ limit,
            (optionsOf further).filter setsModelCount = ["--models=" ++ Text.decimalNat limit] ∧
            Suffices request limit ∧
            ∀ other, other ≠ 0 → Suffices request other → limit ≠ 0 ∧ limit ≤ other) := by
  refine ⟨added request, arguments_eq request, ?_⟩
  rw [filter_setsModelCount_added, counts]
  cases request.cli.any setsModelCount with
  | true => exact .inl ⟨rfl, rfl⟩
  | false =>
      exact .inr ⟨rfl, request.engineLimit, rfl, suffices_engineLimit request,
        fun _ => engineLimit_le_of_suffices⟩

end SolveRequest

end CollectiveChoice

import CollectiveChoice.Proofs.Engine.Marks
import CollectiveChoice.Proofs.Success

/-!
# Choices one after the other

Users choose in any order and change their minds.  What is left of it in the end is the last decision
of every user on every group: two series of decisions that agree in these lead from an engine to the
same choices, the same program and the same users with pending changes (`choices_of_recordAll_eq`).

That decisions commute would not be enough, since the series need not have the same length.  Instead
it is said what is stored for a user in a group after a series (`selection?_of_recordAll`): the last
decision on the group, where there is none what was stored before, and where there is nothing either
the default, provided that the user decides on a group behind this one.  None of the three depends on
the order of decisions on different groups.
-/

namespace CollectiveChoice

set_option autoImplicit false

/-! ## Decisions -/

/-- The selection a user makes in a group. -/
structure Decision where
  user : String
  group : Nat
  selection : Selection
deriving DecidableEq

namespace Decision

/-- The selection of the last decision of a user on a group, absent where there is none. -/
def last? (decisions : List Decision) (user : String) (group : Nat) : Option Selection :=
  (decisions.reverse.find? fun decision =>
    decision.user == user && decision.group == group).map Decision.selection

/-- Whether a user decides on a group behind the given one. -/
def passes (decisions : List Decision) (user : String) (group : Nat) : Bool :=
  decisions.any fun decision => decision.user == user && group < decision.group

theorem last?_cons (decision : Decision) (rest : List Decision) (user : String) (group : Nat) :
    last? (decision :: rest) user group = (last? rest user group).or
      (if decision.user = user ∧ decision.group = group then some decision.selection else none) := by
  rw [last?, List.reverse_cons, List.find?_append, Option.map_or, ← last?]
  congr 1
  by_cases its : decision.user = user ∧ decision.group = group
  · simp [its]
  · rw [if_neg its]
    simpa using its

theorem last?_isSome_iff {decisions : List Decision} {user : String} {group : Nat} :
    (last? decisions user group).isSome = true
      ↔ ∃ decision ∈ decisions, decision.user = user ∧ decision.group = group := by
  simp [last?]

/-- Who decides can be told from the last decisions. -/
theorem mem_users_iff {decisions : List Decision} {user : String} :
    user ∈ decisions.map Decision.user
      ↔ ∃ group, (last? decisions user group).isSome = true := by
  simp only [List.mem_map, last?_isSome_iff]
  constructor
  · rintro ⟨decision, inside, rfl⟩
    exact ⟨decision.group, decision, inside, rfl, rfl⟩
  · rintro ⟨group, decision, inside, rfl, rfl⟩
    exact ⟨decision, inside, rfl⟩

/-- How far a user gets can be told from the last decisions. -/
theorem passes_eq_true_iff {decisions : List Decision} {user : String} {group : Nat} :
    passes decisions user group = true
      ↔ ∃ later, group < later ∧ (last? decisions user later).isSome = true := by
  simp only [passes, List.any_eq_true, Bool.and_eq_true, beq_iff_eq, decide_eq_true_eq,
    last?_isSome_iff]
  constructor
  · rintro ⟨decision, inside, rfl, behind⟩
    exact ⟨decision.group, behind, decision, inside, rfl, rfl⟩
  · rintro ⟨later, behind, decision, inside, rfl, rfl⟩
    exact ⟨decision, inside, rfl, behind⟩

end Decision

/-- Selections are told apart group by group, provided it is known who has some. -/
theorem Choices.find?_eq_of_selection?_eq {left right : Choices} {user : String}
    (present : (left.find? user).isSome = (right.find? user).isSome)
    (same : ∀ group, left.selection? user group = right.selection? user group) :
    left.find? user = right.find? user := by
  simp only [selection?] at same
  cases first : left.find? user with
  | none =>
      cases second : right.find? user with
      | none => rfl
      | some selections =>
          rw [first, second] at present
          cases present
  | some selections =>
      cases second : right.find? user with
      | none =>
          rw [first, second] at present
          cases present
      | some others =>
          rw [first, second] at same
          exact congrArg some (List.ext_getElem? same)

namespace Engine

open Decision

/-! ## Series of decisions -/

/-- The engine after decisions one after the other, if each of them is accepted. -/
def recordAll (engine : Engine) (decisions : List Decision) : Except ChoiceError Engine :=
  decisions.foldlM (fun engine decision =>
    (engine.record decision.user decision.group decision.selection).map Prod.fst) engine

theorem recordAll_nil_eq_ok_iff {engine later : Engine} :
    engine.recordAll [] = .ok later ↔ engine = later := by
  rw [recordAll, List.foldlM_nil]
  exact ⟨Except.ok.inj, congrArg Except.ok⟩

/-- The engine with a decision stored. -/
def settle (engine : Engine) (decision : Decision) : Engine :=
  ({ engine with
    choices := engine.choices.store decision.user decision.group decision.selection
      engine.config.defaultSelection } : Engine).mark decision.user

/-- If a series is accepted, the decisions behind the first one are, with that one stored. -/
theorem recordAll_of_cons {engine later : Engine} {decision : Decision} {rest : List Decision}
    (recorded : engine.recordAll (decision :: rest) = .ok later) :
    (engine.settle decision).recordAll rest = .ok later := by
  simp only [recordAll, List.foldlM_cons, bind_eq_ok_iff, map_eq_ok_iff, Prod.exists] at recorded
  obtain ⟨_, ⟨next, last, accepted, rfl⟩, others⟩ := recorded
  obtain ⟨-, rfl, -⟩ := record_eq_ok_iff.mp accepted
  exact others

section

variable {engine later : Engine} {decisions : List Decision}
  (recorded : engine.recordAll decisions = .ok later)

include recorded

theorem config_of_recordAll : later.config = engine.config := by
  induction decisions generalizing engine with
  | nil => rw [recordAll_nil_eq_ok_iff.mp recorded]
  | cons decision rest ih =>
      exact (ih (recordAll_of_cons recorded)).trans rfl

/-- Users who decide are marked, and nobody else. -/
theorem advances_of_recordAll : Advances engine (decisions.map Decision.user) later := by
  induction decisions generalizing engine with
  | nil =>
      rw [recordAll_nil_eq_ok_iff.mp recorded]
      exact .refl
  | cons decision rest ih =>
      have stored : Advances engine [] { engine with
          choices := engine.choices.store decision.user decision.group decision.selection
            engine.config.defaultSelection } :=
        .of_eq rfl rfl
      exact (stored.trans (.mark decision.user)).trans (ih (recordAll_of_cons recorded))

/-- Users who decide have choices, and those who had some before. -/
theorem isSome_find?_of_recordAll (user : String) :
    (later.choices.find? user).isSome = true
      ↔ (engine.choices.find? user).isSome = true ∨ user ∈ decisions.map Decision.user := by
  induction decisions generalizing engine with
  | nil => simp [recordAll_nil_eq_ok_iff.mp recorded]
  | cons decision rest ih =>
      rw [ih (recordAll_of_cons recorded), List.map_cons, List.mem_cons, ← or_assoc, settle, mark,
        Choices.find?_store]
      by_cases mine : user = decision.user <;> simp [mine]

/-- What is stored for a user in a group after a series of decisions: what the last decision on the
group says, or else what was stored before, or else the default where the user gets behind it. -/
theorem selection?_of_recordAll (user : String) (group : Nat) :
    later.choices.selection? user group = (last? decisions user group).or
      ((engine.choices.selection? user group).or
        (if passes decisions user group then some (engine.config.defaultSelection group)
          else none)) := by
  induction decisions generalizing engine with
  | nil =>
      rw [recordAll_nil_eq_ok_iff.mp recorded]
      simp [last?, passes]
  | cons decision rest ih =>
      rw [ih (recordAll_of_cons recorded), last?_cons, Option.or_assoc]
      congr 1
      simp only [settle, mark, Choices.selection?_store, passes, List.any_cons]
      by_cases mine : user = decision.user
      · subst mine
        by_cases here : group = decision.group
        · simp [here]
        · -- The gap before the group decided on and the gaps of the others are filled alike.
          by_cases behind : group < decision.group
          · cases engine.choices.selection? decision.user group <;>
              simp [here, Ne.symm here, behind]
          · simp [here, Ne.symm here, behind]
      · simp [mine, Ne.symm mine]

end

/-- **The order of choices does not matter, nor do choices that were changed later.**  Two series of
decisions are accepted one after the other, from the same engine on.  If the same users decide on the
same groups in both, and the last decision on each is the same, then the choices are the same in the
end, and so are the program and the users with pending changes. -/
theorem choices_of_recordAll_eq {engine left right : Engine} {decisions others : List Decision}
    (recorded : engine.recordAll decisions = .ok left)
    (recorded_others : engine.recordAll others = .ok right)
    (same : ∀ user group, last? decisions user group = last? others user group) :
    left.choices = right.choices ∧ left.encoding = right.encoding ∧
      left.pendingUsers = right.pendingUsers := by
  have users : ∀ user, user ∈ decisions.map Decision.user ↔ user ∈ others.map Decision.user := by
    intro user
    simp only [mem_users_iff, same]
  have gaps : ∀ user group, passes decisions user group = passes others user group := by
    intro user group
    rw [Bool.eq_iff_iff, passes_eq_true_iff, passes_eq_true_iff]
    simp only [same]
  have choices : left.choices = right.choices := by
    apply SortedMap.ext_find?
    intro user
    apply Choices.find?_eq_of_selection?_eq
    · rw [Bool.eq_iff_iff, isSome_find?_of_recordAll recorded,
        isSome_find?_of_recordAll recorded_others, users]
    · intro group
      rw [selection?_of_recordAll recorded, selection?_of_recordAll recorded_others, same, gaps]
  refine ⟨choices, ?_, ?_⟩
  · rw [encoding, encoding, choices, config_of_recordAll recorded,
      config_of_recordAll recorded_others]
  · refine congrArg SortedSet.toList (SortedSet.ext_mem fun user => ?_)
    calc user ∈ left.pendingUsers
      _ ↔ user ∈ engine.pendingUsers ∨ user ∈ decisions.map Decision.user :=
        (advances_of_recordAll recorded).mem_pendingUsers
      _ ↔ user ∈ engine.pendingUsers ∨ user ∈ others.map Decision.user := by rw [users]
      _ ↔ user ∈ right.pendingUsers :=
        (advances_of_recordAll recorded_others).mem_pendingUsers.symm

/-- Guests of the canteen: Anna takes a drink before the dish and then another dish, and Bert comes in
between. -/
def undecided : List Decision := [
  ⟨"anna", 1, .ofList ["tea"]⟩, ⟨"anna", 0, .ofList ["rice"]⟩, ⟨"bert", 1, .ofList ["milk"]⟩,
  ⟨"anna", 0, .ofList ["soup"]⟩]

/-- The same guests: Bert comes first, and Anna goes through the groups in order and once only. -/
def decided : List Decision := [
  ⟨"bert", 1, .ofList ["milk"]⟩, ⟨"anna", 0, .ofList ["soup"]⟩, ⟨"anna", 1, .ofList ["tea"]⟩]

theorem last?_undecided (user : String) (group : Nat) :
    last? undecided user group = last? decided user group := by
  by_cases drink : "anna" = user ∧ 1 = group
  · obtain ⟨rfl, rfl⟩ := drink
    simp [undecided, decided, last?_cons]
  · by_cases milk : "bert" = user ∧ 1 = group
    · obtain ⟨rfl, rfl⟩ := milk
      simp [undecided, decided, last?_cons]
    · by_cases dish : "anna" = user ∧ 0 = group
      · obtain ⟨rfl, rfl⟩ := dish
        simp [undecided, decided, last?_cons]
      · simp only [undecided, decided, last?_cons, if_neg drink, if_neg milk, if_neg dish,
          Option.or_none]

theorem canteen_choices_of_recordAll_eq :
    ∃ left right, (resume Machine.canteen .empty).recordAll undecided = .ok left ∧
      (resume Machine.canteen .empty).recordAll decided = .ok right ∧
      (∀ user group, last? undecided user group = last? decided user group) ∧
      left.choices = right.choices ∧ left.encoding = right.encoding ∧
      left.pendingUsers = right.pendingUsers := by
  have happens : ∃ left, (resume Machine.canteen .empty).recordAll undecided = .ok left := ⟨_, rfl⟩
  have happens' : ∃ right, (resume Machine.canteen .empty).recordAll decided = .ok right := ⟨_, rfl⟩
  obtain ⟨left, recorded⟩ := happens
  obtain ⟨right, recorded'⟩ := happens'
  exact ⟨left, right, recorded, recorded', last?_undecided,
    choices_of_recordAll_eq recorded recorded' last?_undecided⟩

end Engine

end CollectiveChoice

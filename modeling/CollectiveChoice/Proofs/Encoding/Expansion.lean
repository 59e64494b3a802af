import Mathlib.Computability.StateTransition
import CollectiveChoice.Proofs.Encoding.Rounds

/-!
# Expanding a template is walking through a product

A combination takes one place in every domain.  All of them stand in lexicographic order in one list
only (`Enumerates`), and a template is expanded to the facts at these places, one after the other.

The facts are written by two loops over a cursor, which holds a place in every domain
(`Loop.step?`).  The outer loop writes the fact at the cursor.  The inner loop runs back from the
last domain: a place that can move on does so and ends the inner loop, and one that cannot goes back
to zero and leaves the move to the domain before it.  When no domain is left, both loops are over.
No count of combinations enters here, and a cursor that points outside of a domain stops the loops
before their end.

The two levels are taken one at a time.  A run of the inner loop turns the wheels that stand at the
places of the cursor (`Loop.reaches_turned`), so a run of the outer loop follows their course
(`Loop.reaches_done`).  From the start, this ends behind the last combination
(`expand_enumerates_product`).
-/

namespace CollectiveChoice

set_option autoImplicit false

variable {domains : List (String × List String)}

/-! ## Combinations of places -/

/-- One place in every domain. -/
def Combination (domains : List (String × List String)) (places : List Nat) : Prop :=
  List.Forall₂ (fun place domain => place < domain.2.length) places domains

instance (domains : List (String × List String)) (places : List Nat) :
    Decidable (Combination domains places) :=
  inferInstanceAs (Decidable (List.Forall₂ _ places domains))

/-- The combinations of some domains, each once and in lexicographic order. -/
structure Enumerates (domains : List (String × List String)) (combinations : List (List Nat)) :
    Prop where
  mem_iff : ∀ places, places ∈ combinations ↔ Combination domains places
  ascending : combinations.Pairwise (· < ·)

/-- The value under a name at given places: that of the first domain with the name. -/
def valueAt (domains : List (String × List String)) (places : List Nat) (name : String) :
    Option String := do
  let index ← domains.findIdx? fun domain => domain.1 == name
  let domain ← domains[index]?
  let place ← places[index]?
  domain.2[place]?

/-- The fact of a template at given places. -/
def factAt (template : Template) (domains : List (String × List String)) (places : List Nat) :
    String :=
  factOf (template.render (valueAt domains places))

namespace Wheel

variable {wheels : List Wheel}

theorem valueAt_map_place (wheels : List Wheel) (name : String) :
    valueAt (wheels.map domain) (wheels.map place) name = reading wheels name := by
  induction wheels with
  | nil => rfl
  | cons wheel rest ih =>
      rw [valueAt, reading] at ih
      rw [valueAt, reading, List.map_cons, List.map_cons, List.findIdx?_cons, List.find?_cons]
      cases here : wheel.name == name with
      | true => simp [domain, here]
      | false => simpa [domain, here, Option.bind_map, Function.comp_def] using ih

theorem factAt_map_place (template : Template) (reads : Reads domains wheels) :
    factAt template domains (wheels.map place) = factOf (template.render (reading wheels)) := by
  obtain ⟨rfl, -⟩ := reads
  rw [factAt, funext (valueAt_map_place wheels)]

/-- Wheels that stand at one of their values each show a combination. -/
theorem Reads.combination (reads : Reads domains wheels) :
    Combination domains (wheels.map place) := by
  obtain ⟨rfl, inRange⟩ := reads
  rw [Combination, List.forall₂_map_left_iff, List.forall₂_map_right_iff, List.forall₂_same]
  exact inRange

/-- Every combination is shown by some wheels. -/
theorem exists_reads {places : List Nat} (combination : Combination domains places) :
    ∃ wheels, Reads domains wheels ∧ wheels.map place = places := by
  induction combination with
  | nil => exact ⟨[], ⟨rfl, List.forall_mem_nil _⟩, rfl⟩
  | @cons place domain places domains here _ ih =>
      obtain ⟨wheels, ⟨same, inRange⟩, rfl⟩ := ih
      exact ⟨⟨domain.1, domain.2, place⟩ :: wheels,
        ⟨congrArg (domain :: ·) same, List.forall_mem_cons.mpr ⟨here, inRange⟩⟩, rfl⟩

/-- The wheels come to later places, in lexicographic order, all the time. -/
theorem pairwise_rounds (domains : List (String × List String)) :
    (rounds domains).Pairwise fun earlier later => earlier.map place < later.map place := by
  induction domains with
  | nil => exact List.pairwise_singleton _ _
  | cons domain rest ih =>
      rw [rounds, List.pairwise_flatMap]
      constructor
      · intro place _
        rw [List.pairwise_map]
        exact ih.imp fun before => List.cons_lt_cons_iff.mpr (.inr ⟨rfl, before⟩)
      · apply List.pairwise_lt_range.imp
        intro first second before earlier inFirst later inSecond
        obtain ⟨_, -, rfl⟩ := List.mem_map.mp inFirst
        obtain ⟨_, -, rfl⟩ := List.mem_map.mp inSecond
        exact List.cons_lt_cons_iff.mpr (.inl before)

/-- The places the wheels come through are the combinations, in their order. -/
theorem enumerates_rounds (domains : List (String × List String)) :
    Enumerates domains ((rounds domains).map (List.map place)) where
  mem_iff := by
    intro places
    rw [List.mem_map]
    constructor
    · rintro ⟨wheels, reached, rfl⟩
      exact (mem_rounds_iff.mp reached).combination
    · intro combination
      obtain ⟨wheels, reads, same⟩ := exists_reads combination
      exact ⟨wheels, mem_rounds_iff.mpr reads, same⟩
  ascending := List.pairwise_map.mpr (pairwise_rounds domains)

example : ((rounds [("rank", ["1", "2"]), ("user", ["ann", "bob"])]).map (List.map place))
    = [[0, 0], [0, 1], [1, 0], [1, 1]] := by
  decide

/-- Seen from the last wheel, turning on moves that wheel, or rewinds it and turns the others. -/
theorem advance?_concat (front : List Wheel) (wheel : Wheel) :
    advance? (front ++ [wheel])
      = if wheel.place + 1 < wheel.values.length then
          some (front ++ [{ wheel with place := wheel.place + 1 }])
        else (advance? front).map (· ++ [wheel.rewind]) := by
  induction front with
  | nil => rfl
  | cons head rest ih =>
      rw [List.cons_append, advance?, ih]
      by_cases room : wheel.place + 1 < wheel.values.length
      · rw [if_pos room, if_pos room]
        rfl
      · rw [if_neg room, if_neg room, advance?]
        cases advance? rest with
        | some turned => rfl
        | none =>
            rw [Option.map_none, apply_ite (Option.map _), List.map_append]
            rfl

end Wheel

/-- A template is expanded to its facts at the combinations. -/
theorem expand_eq_map_factAt (template : Template) (domains : List (String × List String)) :
    expand template domains
      = ((Wheel.rounds domains).map (List.map Wheel.place)).map (factAt template domains) := by
  rw [expand_eq_map_rounds, List.map_map]
  refine List.map_congr_left fun wheels reached => ?_
  exact (Wheel.factAt_map_place template (Wheel.mem_rounds_iff.mp reached)).symm

/-! ## The loops -/

/-- Where the loops are, with the places of the cursor and the facts written so far. -/
inductive Loop where
  /-- At the head of the outer loop. -/
  | writing (cursor : List Nat) (out : List String)
  /-- At the head of the inner loop, with the domains from an index on done. -/
  | turning (index : Nat) (cursor : List Nat) (out : List String)
  | done (out : List String)
deriving DecidableEq, Repr

namespace Loop

/-- There is nothing to do if a domain is empty.  Otherwise the cursor starts with zeros. -/
def start (domains : List (String × List String)) (out : List String) : Loop :=
  if domains.any fun domain => domain.2.isEmpty then .done out
  else .writing (List.replicate domains.length 0) out

/-- One step of the loops.  There is none at the end, nor from a cursor that points outside of the
domains. -/
def step? (template : Template) (domains : List (String × List String)) : Loop → Option Loop
  | .writing cursor out =>
    if Combination domains cursor then
      some (.turning domains.length cursor (out ++ [factAt template domains cursor]))
    else none
  | .turning 0 _ out => some (.done out)
  | .turning (index + 1) cursor out => do
    let place ← cursor[index]?
    let domain ← domains[index]?
    if place + 1 < domain.2.length then
      some (.writing (cursor.set index (place + 1)) out)
    else some (.turning index (cursor.set index 0) out)
  | .done _ => none

open StateTransition

variable (template : Template) {wheels : List Wheel} {positions : List (List Wheel)}

theorem step?_writing {cursor : List Nat} (combination : Combination domains cursor)
    (out : List String) :
    step? template domains (.writing cursor out)
      = some (.turning domains.length cursor (out ++ [factAt template domains cursor])) :=
  if_pos combination

/-- The inner loop at a wheel whose place comes right before the given ones. -/
theorem step?_turning {front : List Wheel} {wheel : Wheel} {behind : List (String × List String)}
    (same : (front ++ [wheel]).map Wheel.domain ++ behind = domains) (places : List Nat)
    (out : List String) :
    step? template domains
        (.turning (front ++ [wheel]).length ((front ++ [wheel]).map Wheel.place ++ places) out)
      = some (if wheel.place + 1 < wheel.values.length then
          .writing (front.map Wheel.place ++ (wheel.place + 1) :: places) out
        else .turning front.length (front.map Wheel.place ++ 0 :: places) out) := by
  subst same
  rw [List.length_append, List.length_singleton, step?]
  simp [Wheel.domain, apply_ite some]

/-- The inner loop turns the wheels on, or finds that all of them have come back. -/
theorem reaches_turned (behind : List (String × List String))
    (same : wheels.map Wheel.domain ++ behind = domains) (places : List Nat) (out : List String) :
    Reaches (step? template domains)
      (.turning wheels.length (wheels.map Wheel.place ++ places) out)
      ((Wheel.advance? wheels).elim (.done out) fun turned =>
        .writing (turned.map Wheel.place ++ places) out) := by
  induction wheels using List.reverseRecOn generalizing behind places with
  | nil => exact Relation.ReflTransGen.single rfl
  | append_singleton front wheel ih =>
      have next := step?_turning template same places out
      rw [Wheel.advance?_concat]
      by_cases room : wheel.place + 1 < wheel.values.length
      · rw [if_pos room] at next ⊢
        refine Relation.ReflTransGen.single (next.trans ?_)
        simp
      · -- The place goes back to zero and belongs to those behind from now on.
        rw [if_neg room] at next ⊢
        rw [List.map_append, List.append_assoc] at same
        refine Relation.ReflTransGen.head next ?_
        have others := ih _ same (0 :: places)
        cases moved : Wheel.advance? front with
        | none =>
            rw [moved] at others
            exact others
        | some turned =>
            rw [moved] at others
            rw [Option.map_some, Option.elim_some, List.map_append, List.append_assoc]
            exact others

/-- A round of the outer loop writes a fact and turns the wheels on. -/
theorem reaches_round (reads : Wheel.Reads domains wheels) (out : List String) :
    Reaches (step? template domains) (.writing (wheels.map Wheel.place) out)
      ((Wheel.advance? wheels).elim
        (.done (out ++ [factAt template domains (wheels.map Wheel.place)]))
        fun turned => .writing (turned.map Wheel.place)
          (out ++ [factAt template domains (wheels.map Wheel.place)])) := by
  have count : domains.length = wheels.length := by
    rw [← reads.domains, List.length_map]
  have written := step?_writing template reads.combination out
  rw [count] at written
  have all : wheels.map Wheel.domain ++ [] = domains := by
    rw [List.append_nil, reads.domains]
  have turned := reaches_turned template [] all []
    (out ++ [factAt template domains (wheels.map Wheel.place)])
  simp only [List.append_nil] at turned
  exact Relation.ReflTransGen.head written turned

/-- The outer loop writes the facts at all positions of a course. -/
theorem reaches_done (course : Wheel.Course wheels positions) (reads : Wheel.Reads domains wheels)
    (out : List String) :
    Reaches (step? template domains) (.writing (wheels.map Wheel.place) out)
      (.done (out ++ positions.map fun position =>
        factAt template domains (position.map Wheel.place))) := by
  induction course generalizing out with
  | last back =>
      have round := reaches_round template reads out
      rw [back] at round
      exact round
  | @next wheels turned positions next _ ih =>
      have round := reaches_round template reads out
      rw [next] at round
      have others := ih (Wheel.reads_of_advance? reads next)
        (out ++ [factAt template domains (wheels.map Wheel.place)])
      rw [List.append_assoc] at others
      exact round.trans others

theorem map_place_start (domains : List (String × List String)) :
    (domains.map Wheel.start).map Wheel.place = List.replicate domains.length 0 := by
  rw [List.map_map, ← List.map_const']
  rfl

/-- From the start, the loops write the facts a template is expanded to, and that is all. -/
theorem eval_start (domains : List (String × List String)) (out : List String) :
    eval (step? template domains) (start domains out)
      = Part.some (.done (out ++ expand template domains)) := by
  rw [Part.eq_some_iff, mem_eval]
  refine ⟨?_, rfl⟩
  unfold start
  split
  case isTrue empty =>
    have nothing : expand template domains = [] := if_pos empty
    rw [nothing, List.append_nil]
    exact Relation.ReflTransGen.refl
  case isFalse full =>
    have nonempty := Wheel.nonempty_of_not_any full
    have all := reaches_done template (Wheel.course_start nonempty)
      (Wheel.reads_start nonempty) out
    rw [map_place_start] at all
    rw [expand_eq_map_factAt, List.map_map]
    exact all

end Loop

/-- **A template is expanded along the product of its domains.**  The facts are those at the
combinations of places, each once and in lexicographic order: just one if there is no domain, and
none just if a domain is empty.  The loops come to their end and have written these facts behind
what was there before. -/
theorem expand_enumerates_product (template : Template) (domains : List (String × List String))
    (out : List String) :
    (∃ combinations, Enumerates domains combinations ∧
      expand template domains = combinations.map (factAt template domains)) ∧
    StateTransition.eval (Loop.step? template domains) (Loop.start domains out)
      = Part.some (.done (out ++ expand template domains)) ∧
    expand template [] = [factOf (template.render fun _ => none)] ∧
    (expand template domains = [] ↔ ∃ domain ∈ domains, domain.2 = []) := by
  refine ⟨⟨_, Wheel.enumerates_rounds domains, expand_eq_map_factAt template domains⟩,
    Loop.eval_start template domains out, rfl, ?_⟩
  rw [expand_eq_map_rounds, List.map_eq_nil_iff]
  exact Wheel.rounds_eq_nil_iff

end CollectiveChoice

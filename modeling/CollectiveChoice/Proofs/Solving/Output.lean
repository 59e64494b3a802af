import CollectiveChoice.Proofs.Json.Decoding
import CollectiveChoice.Proofs.Json.RoundTrip
import CollectiveChoice.Proofs.Term.Printed
import CollectiveChoice.Solving.Answer
import Mathlib.Data.List.Permutation

/-!
# What a solver writes is understood

The output of a solver is an object that lists calls, each of which lists answers, and an answer
lists the terms it shows and its costs.  Members come in any order, others may stand between them,
and a list without items may be left out.  The answers are found however they are spread over calls
(`witnesses_eq`).

What can fail are the texts of the answers.  The first string that holds an opening parenthesis is
the fault of the whole output; without one there is a solution for every answer, in the order of the
text, with an atom for every term and the costs (`parse_of_describes`).  So one such string among
many answers is enough to lose them all (`parse_stringOutput_ne_ok`).
-/

namespace CollectiveChoice

set_option autoImplicit false

namespace SolverOutput

open Draft

/-! ## Output as JSON -/

/-- An answer that shows printed terms. -/
structure Answer extends Witness where
  printed : ∀ text ∈ texts, Printed text.toList
  fits : ∀ cost ∈ costs, Text.isInt64 cost = true

/-- Members of an object list items under a key.  Where there are no items, the member may be left
out. -/
def Lists (members : List (String × Json)) (key : String) (items : List Json) : Prop :=
  members.filter (·.1 == key) = [(key, .array items)]
    ∨ items = [] ∧ members.filter (·.1 == key) = []

/-- An object is the description of an answer. -/
inductive DescribesAnswer : Json → Answer → Prop where
  | object {members : List (String × Json)} {answer : Answer}
      (texts : Lists members "Value" (answer.texts.map .string))
      (costs : Lists members "Costs" (answer.costs.map .integer)) :
      DescribesAnswer (.object members) answer

/-- An object is the description of a call with its answers. -/
inductive DescribesCall : Json → List Answer → Prop where
  | object {members : List (String × Json)} {items : List Json} {answers : List Answer}
      (listed : Lists members "Witnesses" items)
      (described : List.Forall₂ DescribesAnswer items answers) :
      DescribesCall (.object members) answers

/-- An object is the output of a solver, with the answers of each of its calls. -/
inductive DescribesOutput : Json → List (List Answer) → Prop where
  | object {members : List (String × Json)} {items : List Json} {calls : List (List Answer)}
      (listed : Lists members "Call" items)
      (described : List.Forall₂ DescribesCall items calls) (verdict : Option String)
      (result : members.filter (·.1 == "Result")
        = verdict.toList.map fun text => ("Result", .string text)) :
      DescribesOutput (.object members) calls

/-! ## Decoding -/

/-- The members under either of two keys are, in some order, those under the one and those under the
other. -/
theorem perm_filter_or {key other : String} (apart : key ≠ other)
    (members : List (String × Json)) :
    (members.filter (·.1 == key) ++ members.filter (·.1 == other)).Perm
      (members.filter fun member => member.1 == key || member.1 == other) := by
  have parts := List.filter_append_perm (·.1 == key)
    (members.filter fun member => member.1 == key || member.1 == other)
  have under : ∀ member : String × Json,
      (member.1 == key && (member.1 == key || member.1 == other)) = (member.1 == key) := by
    intro member
    cases member.1 == key <;> rfl
  have beside : ∀ member : String × Json,
      ((!member.1 == key) && (member.1 == key || member.1 == other)) = (member.1 == other) := by
    intro member
    by_cases same : member.1 = other
    · simp [same, apart.symm]
    · cases member.1 == key <;> simp [same]
  simpa only [List.filter_filter, under, beside] using parts

/-- Where two members are known, those of an object come in some order, and the others do not
matter. -/
theorem exists_perm_setByKey {α : Type} {parts : List (Part α)} {key other : String}
    (apart : key ≠ other)
    (known : ∀ spelling,
      parts.any (·.isSpelled spelling) = (spelling == key || spelling == other))
    (members : List (String × Json)) (before : α) :
    ∃ kept, (members.filter (·.1 == key) ++ members.filter (·.1 == other)).Perm kept ∧
      setByKey parts (ofMembers members) [] before
        = setByKey parts (ofMembers kept) [] before := by
  refine ⟨_, perm_filter_or apart members, ?_⟩
  rw [← setByKey_ofMembers_filter]
  simp only [known]

theorem witness_ofJson {described : Json} {answer : Answer}
    (describes : DescribesAnswer described answer) :
    witness (ofJson described) = .ok answer.toWitness := by
  change _ = Except.ok (⟨answer.texts, answer.costs⟩ : Witness)
  cases describes with
  | @object members _ texts costs =>
      have shown : array string (ofJson (.array (answer.texts.map .string)))
          = (.ok answer.texts : Result (List String)) := array_string_strings answer.texts
      have paid : array int64 (ofJson (.array (answer.costs.map .integer)))
          = (.ok answer.costs : Result (List Int)) :=
        array_ofJson fun cost inside => by simp [int64, ofJson, answer.fits cost inside]
      have known : ∀ key,
          witnessParts.any (·.isSpelled key) = (key == "Value" || key == "Costs") := by
        simp [witnessParts]
      obtain ⟨kept, perm, counts⟩ := exists_perm_setByKey (by decide) known members ⟨[], []⟩
      rw [witness, assemble_object, counts]
      -- Each member is there or left out, and two members stand in one of two orders.
      rcases texts with value | ⟨noTexts, value⟩ <;> rcases costs with cost | ⟨noCosts, cost⟩ <;>
        rw [value, cost] at perm
      · rcases List.pair_perm.mp perm with rfl | rfl <;>
          simp [witnessParts, shown, paid, map_ok, ok_bind]
      · cases List.singleton_perm.mp perm
        simp [witnessParts, shown, map_ok, ok_bind, List.map_eq_nil_iff.mp noCosts]
      · cases List.singleton_perm.mp perm
        simp [witnessParts, paid, map_ok, ok_bind, List.map_eq_nil_iff.mp noTexts]
      · cases List.nil_perm.mp perm
        simp [List.map_eq_nil_iff.mp noTexts, List.map_eq_nil_iff.mp noCosts]

/-- What is decoded for the items of a list. -/
theorem array_of_described {α β : Type} {decode : Draft → Result β} {image : α → β}
    {describes : Json → α → Prop}
    {items : List Json} {values : List α} (described : List.Forall₂ describes items values)
    (decodes : ∀ item value, describes item value → decode (ofJson item) = .ok (image value)) :
    array decode (ofJson (.array items)) = .ok (values.map image) :=
  array_ofJson_of_forall₂ (List.forall₂_map_right_iff.mpr (described.imp decodes))

theorem call_ofJson {described : Json} {answers : List Answer}
    (describes : DescribesCall described answers) :
    call (ofJson described) = .ok (answers.map Answer.toWitness) := by
  cases describes with
  | @object members items _ listed described =>
      have decoded := array_of_described described fun _ _ => witness_ofJson
      have known : ∀ key, callParts.any (·.isSpelled key) = (key == "Witnesses") := by
        simp [callParts]
      rw [call, assemble_object, ← setByKey_ofMembers_filter]
      simp only [known]
      rcases listed with listed | ⟨rfl, listed⟩
      · rw [listed]
        simp [callParts, decoded, map_ok, ok_bind]
      · cases described
        rw [listed]
        rfl

/-- **The answers of an output are found**, whatever terms they show. -/
theorem witnesses_eq {text : String} {output : Json} {calls : List (List Answer)}
    (describes : DescribesOutput output calls)
    (read : Document.read text = ⟨ofJson output, true⟩) :
    witnesses text = .ok (calls.flatten.map Answer.toWitness) := by
  cases describes with
  | @object members items _ listed described verdict result =>
      have decoded := array_of_described described fun _ _ => call_ofJson
      have known : ∀ key,
          outputParts.any (·.isSpelled key) = (key == "Call" || key == "Result") := by
        simp [outputParts]
      have assembled : (ofJson (.object members)).assemble outputParts []
          = .ok (calls.map (·.map Answer.toWitness)) := by
        obtain ⟨kept, perm, counts⟩ := exists_perm_setByKey (by decide) known members []
        rw [assemble_object, counts]
        -- As in an answer, each of the two members may be left out.
        rw [result] at perm
        rcases listed with listed | ⟨rfl, listed⟩ <;> cases verdict <;> rw [listed] at perm
        · cases List.singleton_perm.mp perm
          simp [outputParts, decoded, map_ok, ok_bind]
        · rcases List.pair_perm.mp perm with rfl | rfl <;>
            simp [outputParts, decoded, map_ok, ok_bind]
        · cases List.nil_perm.mp perm
          cases described
          rfl
        · cases List.singleton_perm.mp perm
          cases described
          rfl
      simp [witnesses, read, Document.decode, assembled, List.map_flatten, ok_bind]

/-! ## Solutions -/

/-- A solution is what an answer is read as. -/
structure Answer.IsReadAs (answer : Answer) (solution : Solution) : Prop where
  atoms : List.Forall₂ (fun text atom => Atom.parse text = .ok atom) answer.texts solution.atoms
  costs : solution.costs = answer.costs

/-- The texts of answers, in order. -/
def shownTexts (answers : List Answer) : List String :=
  answers.flatMap fun answer => answer.texts

theorem failsAt_solutions (answers : List Answer) :
    FailsAt (firstMisread (shownTexts answers)) (solutions (answers.map Answer.toWitness))
      (List.Forall₂ Answer.IsReadAs answers) := by
  induction answers with
  | nil => exact ⟨[], rfl, .nil⟩
  | cons answer rest ih =>
      rw [shownTexts, List.flatMap_cons, firstMisread_append]
      exact (failsAt_parseAll answer.printed).bind fun atoms each =>
        ih.map fun others read => .cons ⟨each, rfl⟩ read

/-- **Output is rejected for strings that hold an opening parenthesis and for nothing else.**
Without such a string there is one solution for every answer, in the order of the text, with an atom
for every text and the costs of the answer.  With one, the first of them is the fault of the whole
output. -/
theorem parse_of_describes {text : String} {output : Json} {calls : List (List Answer)}
    (describes : DescribesOutput output calls)
    (read : Document.read text = ⟨ofJson output, true⟩) :
    match firstMisread (shownTexts calls.flatten) with
    | none => ∃ solutions, parse text = .ok solutions ∧
        List.Forall₂ Answer.IsReadAs calls.flatten solutions
    | some shown => parse text = .error (.malformedOutput (.atom (.unbalanced shown))) := by
  have fails := failsAt_solutions calls.flatten
  rw [parse, witnesses_eq describes read]
  cases found : firstMisread (shownTexts calls.flatten) with
  | none =>
      rw [found] at fails
      obtain ⟨solutions, readAll, each⟩ := fails
      exact ⟨solutions, by simp only [readAll], each⟩
  | some shown =>
      rw [found, FailsAt] at fails
      simp only [fails]

/-! ## Two outputs -/

/-- The answer that shows ground terms. -/
def Answer.ofGround (terms : List Ground) (costs : List Int)
    (fits : ∀ cost ∈ costs, Text.isInt64 cost = true) : Answer where
  texts := terms.map Ground.display
  costs := costs
  printed := List.forall_mem_map.mpr fun term _ => by
    rw [Ground.display, String.toList_ofList]
    exact term.printed
  fits := fits

/-- An answer with a constant, a compound term that holds a string with a parenthesis, a tuple and a
string, at a cost. -/
def mixedAnswer : Answer :=
  .ofGround [.constant ⟨true, 1, 'q', [], rfl, nofun⟩,
      .compound ⟨false, 0, 'p', [], rfl, nofun⟩ (.string "a(b") [],
      .tuple (.integer (-3) rfl) (.string "\n") [], .string "a)b"]
    [7, -2] (by decide)

/-- The answer in the second of two calls, with members in another order and further ones. -/
def mixedOutput : Json :=
  .object [("Solver", .string "clingo"),
    ("Result", .string "OPTIMUM FOUND"),
    ("Call", .array [.object [("Start", .decimal 2 (-2))],
      .object [("Witnesses", .array [.object [("Time", .decimal 3 (-3)),
        ("Costs", .array [.integer 7, .integer (-2)]),
        ("Value", .strings ["-_q", "p(\"a(b\")", "(-3,\"\\n\")", "\"a)b\""])]])]])]

theorem describesOutput_mixedOutput : DescribesOutput mixedOutput [[], [mixedAnswer]] :=
  .object (.inl rfl)
    (.cons (.object (.inr ⟨rfl, rfl⟩) .nil)
      (.cons (.object (.inl rfl) (.cons (.object (.inl rfl) (.inl rfl)) .nil)) .nil))
    (some "OPTIMUM FOUND") rfl

theorem mixedOutput_parse_of_describes :
    DescribesOutput mixedOutput [[], [mixedAnswer]] ∧
      Document.read mixedOutput.write = ⟨ofJson mixedOutput, true⟩ ∧
      ∃ solutions, parse mixedOutput.write = .ok solutions ∧
        List.Forall₂ Answer.IsReadAs [mixedAnswer] solutions := by
  have read : Document.read mixedOutput.write = ⟨ofJson mixedOutput, true⟩ :=
    Document.read_write (by decide +kernel)
  have noFault : firstMisread (shownTexts [[], [mixedAnswer]].flatten) = none := by
    decide +kernel
  have parsed := parse_of_describes describesOutput_mixedOutput read
  rw [noFault] at parsed
  exact ⟨describesOutput_mixedOutput, read, parsed⟩

/-- An answer that shows a string, as a program can ask for. -/
def stringAnswer : Answer :=
  .ofGround [.string "a(b"] [] nofun

def stringOutput : Json :=
  .object [("Call", .array [.object [("Witnesses", .array [.object
    [("Value", .strings ["\"a(b\""]), ("Costs", .array [])]])]]), ("Result", .string "SATISFIABLE")]

/-- The output is well formed, and yet no solution is found in it. -/
theorem parse_stringOutput_ne_ok :
    DescribesOutput stringOutput [[stringAnswer]] ∧
      Document.read stringOutput.write = ⟨ofJson stringOutput, true⟩ ∧
      ∀ solutions, parse stringOutput.write ≠ .ok solutions := by
  have rejected : parse stringOutput.write
      = .error (.malformedOutput (.atom (.unbalanced "\"a(b\""))) := by
    decide +kernel
  refine ⟨?_, Document.read_write (by decide +kernel), fun solutions accepted => ?_⟩
  · exact .object (.inl rfl)
      (.cons (.object (.inl rfl) (.cons (.object (.inl rfl) (.inl rfl)) .nil)) .nil)
      (some "SATISFIABLE") rfl
  · rw [rejected] at accepted
    cases accepted

end SolverOutput

end CollectiveChoice

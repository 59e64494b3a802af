import CollectiveChoice.Duration
import CollectiveChoice.Json.Decode
import CollectiveChoice.Solving.Selection

/-!
# Calling the solver

The solver is a program that reads an encoding and writes its answers as JSON.  This module says with
which arguments it is called, how its output is read, and what comes of a call, given what the
program did: it may not be found, not start, run out of time, fail, or write something that cannot
be understood.
-/

namespace CollectiveChoice

set_option autoImplicit false

/-! ## Failures -/

/-- Why the output of a solver cannot be understood. -/
inductive OutputFault where
  /-- It is no JSON, or not of the expected shape. -/
  | shape
  /-- One of the texts in it is no atom. -/
  | atom (error : AtomError)
deriving DecidableEq, Repr

/-- Why a solver gives no answers. -/
inductive SolverError where
  /-- No program is configured and none is found under the usual name. -/
  | engineNotFound
  /-- The program cannot be started. -/
  | spawn
  /-- The program ran longer than allowed. -/
  | timeout (limit : Duration)
  /-- The program ended with an exit code that says so, or without one. -/
  | engineFailed (code : Option Nat) (stderr : String)
  | malformedOutput (fault : OutputFault)
  /-- A failure that was asked for. -/
  | injected (message : String)
deriving DecidableEq, Repr

/-- The message of an error, where it has one of its own. -/
def SolverError.message? : SolverError → Option String
  | .engineNotFound => none
  | .spawn => none
  | .timeout limit => some ("solver timed out after " ++ limit.exact)
  | .engineFailed code stderr =>
    let shown := match code with
      | some code => "Some(" ++ Text.decimalNat code ++ ")"
      | none => "None"
    some ("solver failed with exit code " ++ shown ++ ": " ++ stderr)
  | .malformedOutput .shape => none
  | .malformedOutput (.atom error) => some ("malformed solver output: " ++ error.message)
  | .injected message => some ("injected solver failure: " ++ message)

/-! ## Arguments -/

namespace SolveRequest

/-- Whether a text starts with another one. -/
def startsWith (text start : String) : Bool :=
  start.toList.isPrefixOf text.toList

/-- Whether an argument sets the number of models. -/
def setsModelCount (argument : String) : Bool :=
  argument == "-n" || startsWith argument "--models" ||
    (startsWith argument "-n" && (Text.readWord64? (argument.toList.drop 2)).isSome)

/-- Whether an argument sets the mode of optimization. -/
def setsOptimization (argument : String) : Bool :=
  startsWith argument "--opt-mode"

/-- The number of models the program is asked for: all of them where answers are selected
afterwards. -/
def engineLimit (request : SolveRequest) : Nat :=
  if request.sampling || request.optimalsOnly then 0 else request.maxModels

/-- The arguments of the program. -/
def arguments (request : SolveRequest) : List String :=
  "--outf=2" :: request.cli ++
    (request.constants.toList.flatMap fun entry => ["-c", entry.1 ++ "=" ++ entry.2]) ++
    (if request.optimalsOnly && !request.cli.any setsOptimization then ["--opt-mode=optN"]
      else []) ++
    (if request.cli.any setsModelCount then []
      else ["--models=" ++ Text.decimalNat request.engineLimit])

end SolveRequest

/-! ## Output -/

namespace SolverOutput

open Draft (Member)

/-- An answer as written: the texts of its atoms and its costs. -/
structure Witness where
  texts : List String
  costs : List Int
deriving DecidableEq, Repr

/-- The outcome of reading a part of the output. -/
abbrev Result (α : Type) := Except (Fault Empty) α

/-- A member of a part of the output. -/
abbrev Part (α : Type) := Member Empty α

/-- The members of an answer. -/
def witnessParts : List (Part Witness) := [
  .of "Value" (Draft.array Draft.string) fun texts witness => { witness with texts },
  .of "Costs" (Draft.array Draft.int64) fun costs witness => { witness with costs }]

/-- An answer. -/
def witness (draft : Draft) : Result Witness :=
  draft.assemble witnessParts ⟨[], []⟩

/-- The members of a call. -/
def callParts : List (Part (List Witness)) := [
  .of "Witnesses" (Draft.array witness) fun witnesses _ => witnesses]

/-- The answers of one call. -/
def call (draft : Draft) : Result (List Witness) :=
  draft.assemble callParts []

/-- The members of the output. -/
def outputParts : List (Part (List (List Witness))) := [
  .of "Call" (Draft.array call) fun calls _ => calls,
  .of "Result" Draft.string fun _ calls => calls]

/-- The answers of all calls, in order. -/
def witnesses (text : String) : Result (List Witness) := do
  let calls ← (Draft.Document.read text).decode fun draft => draft.assemble outputParts []
  return calls.flatten

/-- The solutions of answers, unless a text is no atom. -/
def solutions : List Witness → Except AtomError (List Solution)
  | [] => .ok []
  | witness :: rest => do
    let atoms ← Atom.parseAll witness.texts
    let others ← solutions rest
    return ⟨atoms, witness.costs⟩ :: others

/-- Reads the solutions in the output of a solver. -/
def parse (text : String) : Except SolverError (List Solution) :=
  match witnesses text with
  | .error _ => .error (.malformedOutput .shape)
  | .ok found =>
    match solutions found with
    | .error error => .error (.malformedOutput (.atom error))
    | .ok result => .ok result

end SolverOutput

/-! ## Calls -/

/-- Where the program is. -/
inductive EngineLocation where
  /-- At a configured path, where there may be nothing to run. -/
  | configured (present : Bool)
  | found
  | notFound
deriving DecidableEq, Repr

/-- What a program that was started did. -/
structure EngineRun where
  elapsed : Duration
  /-- Its exit code, absent where it was killed. -/
  code : Option Nat
  /-- What it wrote to its output. -/
  stdout : String
  /-- What it wrote to its error stream. -/
  stderr : String

namespace EngineLocation

/-- Whether there is a program to run. -/
def isAvailable : EngineLocation → Bool
  | .configured present => present
  | .found => true
  | .notFound => false

/-- The exit codes of searches that came to an end or were interrupted. -/
def acceptedCodes : List Nat := [0, 10, 11, 20, 30]

/-- What comes of a program that was started. -/
def outcome (limit : Duration) (request : SolveRequest) (run : EngineRun) :
    Except SolverError (List Solution) :=
  if limit.nanoseconds ≤ run.elapsed.nanoseconds then .error (.timeout limit)
  else if (run.code.map fun code => acceptedCodes.contains code).getD false then do
    let solutions ← SolverOutput.parse run.stdout
    return Selecting.select request solutions
  else .error (.engineFailed run.code (Text.trim run.stderr))

/-- Whether a text holds the null character, which no argument of a program can hold. -/
def holdsNull (argument : String) : Bool :=
  argument.toList.contains '\x00'

/-- What comes of a call, given what the program does with its arguments and its input. -/
def solve (location : EngineLocation) (limit : Duration) (request : SolveRequest)
    (engine : List String → String → EngineRun) : Except SolverError (List Solution) :=
  match location with
  | .notFound => .error .engineNotFound
  | .configured false => .error .spawn
  | _ =>
    if request.arguments.any holdsNull then .error .spawn
    else outcome limit request (engine request.arguments request.program)

end EngineLocation

end CollectiveChoice

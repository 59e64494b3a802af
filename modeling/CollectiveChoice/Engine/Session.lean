import CollectiveChoice.Engine.Basic
import CollectiveChoice.Solving.Answer

/-!
# Sessions with a prepared solver

A prepared solver answers without running a program: always with the same solutions, or with one
solution that holds facts of the program.  It can be told to fail, and it keeps account of its
calls.  A session is an engine together with such a solver.  Compilations of a session are made one
after the other; while the solver is busy with one of them the session can be used, and the failure
and the answers in force at the end are the ones that count.
-/

namespace CollectiveChoice

set_option autoImplicit false

/-! ## Prepared solvers -/

/-- How a prepared solver answers. -/
inductive Responder where
  /-- With the same solutions each time. -/
  | fixed (solutions : List Solution)
  /-- With one solution: the facts on those lines of the program that start with a text. -/
  | facts (start : String)
deriving DecidableEq

/-- A solver that answers without running a program. -/
structure PreparedSolver where
  responder : Responder
  /-- The message of the failure it was told to answer with, if there is one. -/
  failure : Option String
  calls : Nat
  /-- The number of calls that have not been answered. -/
  active : Nat
  /-- The greatest number of calls that were waiting for an answer together. -/
  peak : Nat
  lastRequest : Option SolveRequest
deriving DecidableEq

namespace Responder

/-- The solution of the facts on some lines of a program. -/
def factsOf (start program : String) : Except SolverError (List Solution) :=
  let chosen := (Text.lines program).filter fun line => start.toList.isPrefixOf line
  let texts := chosen.map fun line => String.ofList (Text.dropEndWhile (· == '.') line)
  match Atom.parseAll texts with
  | .ok atoms => .ok [⟨atoms, []⟩]
  | .error error => .error (.malformedOutput (.atom error))

/-- The solutions for a request, before any are selected. -/
def respond (responder : Responder) (request : SolveRequest) :
    Except SolverError (List Solution) :=
  match responder with
  | .fixed solutions => .ok solutions
  | .facts start => factsOf start request.program

end Responder

namespace PreparedSolver

/-- A solver that has not been called. -/
def ofResponder (responder : Responder) : PreparedSolver :=
  ⟨responder, none, 0, 0, 0, none⟩

/-- The solver when a call has come in. -/
def receive (solver : PreparedSolver) (request : SolveRequest) : PreparedSolver :=
  { solver with
    calls := solver.calls + 1
    active := solver.active + 1
    peak := max solver.peak (solver.active + 1)
    lastRequest := some request }

/-- The solver when a call has been answered. -/
def release (solver : PreparedSolver) : PreparedSolver :=
  { solver with active := solver.active - 1 }

/-- The answer to a request. -/
def answer (solver : PreparedSolver) (request : SolveRequest) :
    Except SolverError (List Solution) :=
  match solver.failure with
  | some message => .error (.injected message)
  | none => (solver.responder.respond request).map (Selecting.select request)

end PreparedSolver

/-! ## Sessions -/

/-- The message of a compilation whose solver failed, where the failure has one. -/
def SolverError.compilationMessage? (error : SolverError) : Option String :=
  error.message?.map fun message => "solving failed: " ++ message

/-- An engine and its solver. -/
structure Session where
  engine : Engine
  solver : PreparedSolver

namespace Session

/-- The result of a compilation: how long it took, or nothing where there was nothing to do. -/
abbrev Compiled := Except SolverError (Option Duration)

/-- Compiles, given what is done with the session while the solver is busy.  Nothing of that is done
if the solver is not called. -/
def compile {β : Type} (session : Session) (moment : Engine.Moment) (forced : Bool)
    (meanwhile : Session → Session × β) : Session × Compiled × Option β :=
  match session.engine.begin? forced with
  | none => (session, .ok none, none)
  | some attempt =>
    let request := session.engine.requestFor attempt
    let (later, done) :=
      meanwhile { session with solver := session.solver.receive request }
    let solver := later.solver.release
    match later.solver.answer request with
    | .error error => ({ later with solver }, .error error, some done)
    | .ok solutions =>
      let engine := (later.engine.publish attempt moment solutions).clear attempt
      (⟨engine, solver⟩, .ok (some moment.runtime), some done)

/-- Compiles before the outcome is read, where the configuration says so. -/
def refresh {β : Type} (session : Session) (moment : Engine.Moment)
    (meanwhile : Session → Session × β) : Session × Compiled × Option β :=
  match session.engine.config.global.compilation with
  | .directAccess => session.compile moment false meanwhile
  | .specificAccess => (session, .ok none, none)

/-- Compiles once for each mark, in order, as compilations that wait for each other do. -/
def compileAll (session : Session) (moment : Engine.Moment) :
    List Bool → Session × List Compiled
  | [] => (session, [])
  | forced :: rest =>
    let (next, result, _) := session.compile moment forced fun busy => (busy, ())
    let (final, results) := next.compileAll moment rest
    (final, result :: results)

/-- Restarts the engine with a configuration; the solver stays. -/
def restart (session : Session) (config : Configuration) : Session :=
  { session with engine := session.engine.restart config }

end Session

end CollectiveChoice

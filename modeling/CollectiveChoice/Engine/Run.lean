import CollectiveChoice.Engine.Basic

/-!
# Runs of an engine

A machine is an engine together with the compilation that is under way, if there is one.  Choosing
and resetting are single actions; a compilation consists of its beginning, the reply of the solver,
the publication and the clearing, and any choice can be made between two of them.  There is one
compilation at a time, and a restart waits until there is none.
-/

namespace CollectiveChoice

set_option autoImplicit false

namespace Engine

/-- How far a compilation is. -/
inductive Phase where
  | idle
  | asked (attempt : Attempt)
  | answered (attempt : Attempt) (solutions : List Solution)
  | published (attempt : Attempt)

/-- An engine and the compilation under way. -/
structure Machine where
  engine : Engine
  phase : Phase

/-- What can happen. -/
inductive Action where
  /-- A user chooses; a refused choice changes nothing. -/
  | record (user : String) (group : Nat) (selection : Selection)
  | reset
  | start (forced : Bool)
  | answer (solutions : List Solution)
  /-- The solver fails, or nobody waits for it any longer. -/
  | abandon
  | publish (moment : Moment)
  /-- The changes taken in are cleared. -/
  | clear
  /-- The engine is restarted from its snapshot, with a configuration. -/
  | restart (config : Configuration)

namespace Machine

/-- What an action leads to, if it can happen. -/
def step? (machine : Machine) : Action → Option Machine
  | .record user group selection =>
    match machine.engine.record user group selection with
    | .ok (engine, _) => some { machine with engine }
    | .error _ => some machine
  | .reset => some { machine with engine := machine.engine.reset }
  | .start forced =>
    match machine.phase, machine.engine.begin? forced with
    | .idle, some attempt => some { machine with phase := .asked attempt }
    | .idle, none => some machine
    | _, _ => none
  | .answer solutions =>
    match machine.phase with
    | .asked attempt => some { machine with phase := .answered attempt solutions }
    | _ => none
  | .abandon =>
    match machine.phase with
    | .asked _ => some { machine with phase := .idle }
    | _ => none
  | .publish moment =>
    match machine.phase with
    | .answered attempt solutions =>
      some ⟨machine.engine.publish attempt moment solutions, .published attempt⟩
    | _ => none
  | .clear =>
    match machine.phase with
    | .published attempt => some ⟨machine.engine.clear attempt, .idle⟩
    | _ => none
  | .restart config =>
    match machine.phase with
    | .idle => some { machine with engine := resume config machine.engine.snapshot }
    | _ => none

/-- What actions lead to, if they can happen one after the other. -/
def run? (machine : Machine) : List Action → Option Machine
  | [] => some machine
  | action :: rest => (machine.step? action).bind fun next => next.run? rest

/-- The machine that starts from a snapshot. -/
def resume (config : Configuration) (snapshot : Snapshot) : Machine :=
  ⟨Engine.resume config snapshot, .idle⟩

end Machine

end Engine

end CollectiveChoice

import Steward.Pipeline.Step

/-!
# Pipelines

Steps in an order in which every slot that a step reads is filled before, be it by the input or by
an earlier step. A run goes through the steps one by one and ends with the first that fails; before
each step it makes sure that the call is still wanted.
-/

namespace Steward

/-- A slot that is read before it is filled, and the step that reads it. -/
structure Gap where
  step : String
  slot : Slot
deriving DecidableEq

/-- The first gap in the order of some steps, when certain slots are filled at the start. -/
def firstGap {Item Input R : Type} (filled : List Slot) : List (Step Item Input R) → Option Gap
  | [] => none
  | step :: steps =>
    match step.contract.requires.find? (!filled.contains ·) with
    | some slot => some ⟨step.name, slot⟩
    | none => firstGap (filled ++ step.contract.provides) steps

/-- The slots that are filled at the start. -/
def seedSlots (seeds : Bool) : List Slot :=
  if seeds then [.newState] else []

structure Pipeline (Item Input R : Type) where
  name : String
  /-- The new state starts out as the input. -/
  seeds : Bool
  steps : List (Step Item Input R)
  gapless : firstGap (seedSlots seeds) steps = none := by rfl

namespace Pipeline

variable {Item Input R : Type}

/-- Puts a pipeline together, if its steps are in a possible order. -/
def build (name : String) (seeds : Bool) (steps : List (Step Item Input R)) :
    Except Failure (Pipeline Item Input R) :=
  match h : firstGap (seedSlots seeds) steps with
  | none => .ok ⟨name, seeds, steps, h⟩
  | some gap => .error (.misconfigured name gap.step gap.slot.text)

/-- Runs steps one by one. -/
def runSteps : List (Step Item Input R) → Work Item Input R Unit
  | [] => pure ()
  | step :: steps => do
    Work.perform (Op.check (← Work.request).call)
    step.run
    runSteps steps

/-- Runs the pipeline on a request. -/
def run (p : Pipeline Item Input R) : Work Item Input R Unit := do
  if p.seeds then Work.modifyRequest Request.seed
  runSteps p.steps

/-- Runs the pipeline on a request in the world, and hands the request back. -/
def execute (p : Pipeline Item Input R) (request : Request Input R) :
    Op Item (Request Input R) := fun w =>
  match p.run.run ⟨w, request⟩ with
  | .ok () s => .ok s.request s.world
  | .error stop s => .error stop s.world

end Pipeline

end Steward

import Steward.Resource.Codec

/-!
# Agents

An agent is a template: instructions, and the model that follows them. Its status records the
instance that was created along with it.
-/

namespace Steward

structure AgentSpec where
  description : String := ""
  instructions : String := ""
  model : String := ""
  maxTurns : Option Nat := none
deriving DecidableEq, Inhabited

structure AgentStatus where
  defaultInstanceId : String := ""
deriving DecidableEq, Inhabited

namespace AgentSpec

def toJson (s : AgentSpec) : Json :=
  .record <|
    [("description", .text s.description), ("instructions", .text s.instructions),
      ("model", .text s.model)] ++
    (match s.maxTurns with
      | none => []
      | some turns => [("max_turns", .nat turns)])

def ofJson? (j : Json) : Option AgentSpec := do
  let fields ← j.fields? ["description", "instructions", "model", "max_turns"]
  return {
    description := ← fields.get "description" Json.text? ""
    instructions := ← fields.get "instructions" Json.text? ""
    model := ← fields.get "model" Json.text? ""
    maxTurns := ← fields.get "max_turns" (Json.optional? (Json.natBelow? 4294967296)) none }

/-- The number of turns, if there is a limit, lies between 1 and 100. -/
def turnsInRange : Option Nat → Finding
  | none => none
  | some turns => Rule.range "spec.max_turns" turns 1 100

def violation? (s : AgentSpec) : Finding :=
  Rule.first [
    Rule.maxLength "spec.description" s.description 1000,
    Rule.pattern "spec.model" s.model Pattern.modelName,
    turnsInRange s.maxTurns]

end AgentSpec

namespace AgentStatus

def toJson (s : AgentStatus) : Json :=
  .record [("default_instance_id", .text s.defaultInstanceId)]

def ofJson? (j : Json) : Option AgentStatus := do
  let fields ← j.fields? ["default_instance_id"]
  return { defaultInstanceId := ← fields.get "default_instance_id" Json.text? "" }

end AgentStatus

/-- An update may change the whole specification of an agent. -/
instance : Managed AgentSpec AgentStatus where
  specForm := ⟨AgentSpec.toJson, AgentSpec.ofJson?, {}⟩
  statusForm := some ⟨AgentStatus.toJson, AgentStatus.ofJson?, {}⟩
  freshStatus := {}
  violation? := AgentSpec.violation?
  merge _ requested := requested

abbrev Agent := Resource AgentSpec AgentStatus

namespace Agent

/-- An agent that has only a name. -/
def named (name : String) : Agent where
  metadata := { name := name }
  spec := {}
  status := {}

end Agent

end Steward

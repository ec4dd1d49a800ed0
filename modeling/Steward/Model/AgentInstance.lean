import Steward.Kind
import Steward.Resource.Codec

/-!
# Agent instances

A configured copy of an agent that can be run. It has no status, and it belongs to one agent for
good.
-/

namespace Steward

structure AgentInstanceSpec where
  agentId : String := ""
  description : String := ""
  environmentRefs : List String := []
deriving DecidableEq, Inhabited

namespace AgentInstanceSpec

def toJson (s : AgentInstanceSpec) : Json :=
  .record <|
    [("agent_id", .text s.agentId), ("description", .text s.description)] ++
    (if s.environmentRefs.isEmpty then []
      else [("environment_refs", .array (s.environmentRefs.map .text))])

def ofJson? (j : Json) : Option AgentInstanceSpec := do
  let fields ← j.fields? ["agent_id", "description", "environment_refs"]
  return {
    agentId := ← fields.get "agent_id" Json.text? ""
    description := ← fields.get "description" Json.text? ""
    environmentRefs := ← fields.get "environment_refs" (Json.listOf? Json.text?) [] }

/-- What the id of an agent begins with. -/
def agentIdStem : String := Kind.agent.idStem ++ "-"

def violation? (s : AgentInstanceSpec) : Finding :=
  Rule.first [
    Rule.required "spec.agent_id" s.agentId,
    Rule.check "spec.agent_id" (agentIdStem.toList.isPrefixOf s.agentId.toList)
      s!"value must start with '{agentIdStem}'",
    Rule.maxLength "spec.description" s.description 1000]

end AgentInstanceSpec

/-- An update changes everything but the owning agent. -/
instance : Managed AgentInstanceSpec Unit where
  specForm := ⟨AgentInstanceSpec.toJson, AgentInstanceSpec.ofJson?, {}⟩
  statusForm := none
  freshStatus := ()
  violation? := AgentInstanceSpec.violation?
  merge stored requested := { requested with agentId := stored.agentId }

abbrev AgentInstance := Resource AgentInstanceSpec Unit

namespace AgentInstance

/-- An instance of an agent that has only a name. -/
def named (name agentId : String) : AgentInstance where
  metadata := { name := name }
  spec := { agentId := agentId }
  status := ()

end AgentInstance

end Steward

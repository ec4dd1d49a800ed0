/-!
# Resource kinds

The eight kinds of resource. A kind is known by its name, which is also where its resources are
stored, by the tag a service declares, and by the letters its ids begin with.
-/

namespace Steward

inductive Kind where
  | agent
  | agentInstance
  | session
  | skill
  | workflow
  | workflowInstance
  | workflowExecution
  | agentExecution
deriving DecidableEq, Inhabited

namespace Kind

def all : List Kind :=
  [agent, agentInstance, session, skill, workflow, workflowInstance, workflowExecution,
    agentExecution]

/-- The display name, under which resources of the kind are stored. -/
def name : Kind → String
  | agent => "Agent"
  | agentInstance => "AgentInstance"
  | session => "Session"
  | skill => "Skill"
  | workflow => "Workflow"
  | workflowInstance => "WorkflowInstance"
  | workflowExecution => "WorkflowExecution"
  | agentExecution => "AgentExecution"

/-- What the ids of the kind begin with. -/
def idStem : Kind → String
  | agent => "agt"
  | agentInstance => "ain"
  | session => "ses"
  | skill => "skl"
  | workflow => "wfl"
  | workflowInstance => "wfi"
  | workflowExecution => "wex"
  | agentExecution => "aex"

/-- The tag a service declares for the kind it serves. -/
def tag : Kind → String
  | agent => "agent"
  | agentInstance => "agent_instance"
  | session => "session"
  | skill => "skill"
  | workflow => "workflow"
  | workflowInstance => "workflow_instance"
  | workflowExecution => "workflow_execution"
  | agentExecution => "agent_execution"

def ofName? (name : String) : Option Kind :=
  all.find? (·.name = name)

def ofTag? (tag : String) : Option Kind :=
  all.find? (·.tag = tag)

/-- The id made of the kind's letters and an identifying text. -/
def id (kind : Kind) (unique : String) : String :=
  kind.idStem ++ "-" ++ unique

theorem ofTag?_eq_some_iff {tag : String} {kind : Kind} :
    ofTag? tag = some kind ↔ kind.tag = tag := by
  constructor
  · intro found
    simpa using List.find?_some found
  · rintro rfl
    cases kind <;> rfl

end Kind

end Steward

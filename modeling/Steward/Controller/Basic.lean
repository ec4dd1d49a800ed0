import Steward.Catalog.Writing

/-!
# Controllers

What can be asked of the service of one type of resource, and the pipelines that most services
share.
-/

namespace Steward

/-- A request to a service. -/
inductive Message (R : Type) where
  | create (resource : R)
  | update (resource : R)
  | apply (resource : R)
  | delete (id : String)
  | get (id : String)
  | getByReference (reference : Reference)

def Message.method {R : Type} : Message R → String
  | create _ => "create"
  | update _ => "update"
  | apply _ => "apply"
  | delete _ => "delete"
  | get _ => "get"
  | getByReference _ => "getByReference"

/-- The operations of a service. Those that a service leaves out are not implemented. -/
structure Controller (Item R : Type) where
  create : Call → R → Op Item R
  update : Call → R → Op Item R
  delete : Call → String → Op Item R
  get : Call → String → Op Item R
  apply : Call → R → Op Item R := fun _ _ => Op.fail (.unimplemented "apply")
  getByReference : Call → Reference → Op Item R :=
    fun _ _ => Op.fail (.unimplemented "get_by_reference")

def Controller.handle {Item R : Type} (c : Controller Item R) (call : Call) :
    Message R → Op Item R
  | .create resource => c.create call resource
  | .update resource => c.update call resource
  | .apply resource => c.apply call resource
  | .delete id => c.delete call id
  | .get id => c.get call id
  | .getByReference reference => c.getByReference call reference

namespace Pipeline

variable {Item Input R : Type}

/-- Runs a pipeline that writes, and answers the state it has built. -/
def write (p : Pipeline Item Input R) (call : Call) (input : Input) : Op Item Input := do
  let request ← p.execute { call := call, input := input }
  Op.ofExcept request.getNewState

/-- Runs a pipeline that leaves a resource as a note, and answers this resource. -/
def answerNote (p : Pipeline Item Input R) (key : String) (call : Call) (input : Input) :
    Op Item R := do
  let request ← p.execute { call := call, input := input }
  match request.find? key Note.resource? with
  | some resource => return resource
  | none => Op.fail (.stateNotSet key)

def query (p : Pipeline Item Input R) (call : Call) (input : Input) : Op Item R :=
  p.answerNote Catalog.targetNote call input

/-- Runs a pipeline that deletes, and answers what was there before. -/
def remove (p : Pipeline Item Input R) (call : Call) (input : Input) : Op Item R :=
  p.answerNote Catalog.existingNote call input

end Pipeline

/-! ## Pipelines that services share -/

namespace Standard

open Catalog

variable {Item Spec Status : Type} [Managed Spec Status]

def createSteps : List (Step Item (Resource Spec Status) (Resource Spec Status)) :=
  [validate, resolveSlug, checkDuplicate, buildNewState, persist]

def updateSteps : List (Step Item (Resource Spec Status) (Resource Spec Status)) :=
  [validate, resolveSlug, loadExisting, buildUpdateState, persist]

def pipelineName (kind : Kind) (operation : String) : String :=
  s!"{kind.tag}.{operation}"

def create (kind : Kind) : Pipeline Item (Resource Spec Status) (Resource Spec Status) where
  name := pipelineName kind "create"
  seeds := true
  steps := createSteps

def update (kind : Kind) : Pipeline Item (Resource Spec Status) (Resource Spec Status) where
  name := pipelineName kind "update"
  seeds := true
  steps := updateSteps

/-- Finds out whether applying means creating or updating. -/
def applyLookup (kind : Kind) : Pipeline Item (Resource Spec Status) (Resource Spec Status) where
  name := pipelineName kind "apply"
  seeds := true
  steps := [validate, resolveSlug, loadForApply]

def get (kind : Kind) : Pipeline Item String (Resource Spec Status) where
  name := pipelineName kind "get"
  seeds := false
  steps := [loadTarget]

def getByReference (kind : Kind) : Pipeline Item Reference (Resource Spec Status) where
  name := pipelineName kind "get_by_reference"
  seeds := false
  steps := [loadByReference]

def delete (kind : Kind) : Pipeline Item String (Resource Spec Status) where
  name := pipelineName kind "delete"
  seeds := false
  steps := [extractResourceId, loadExistingForDelete, deleteResource]

/-- Looks up whether the resource exists and hands it, with what was resolved, to the service's own
operation for creating or for updating. -/
def apply (kind : Kind)
    (create update : Call → Resource Spec Status → Op Item (Resource Spec Status))
    (call : Call) (resource : Resource Spec Status) : Op Item (Resource Spec Status) := do
  let request ← (applyLookup kind).execute { call := call, input := resource }
  let resolved ← Op.ofExcept request.getNewState
  if (request.find? shouldCreateNote Note.flag?).getD true then create call resolved
  else update call resolved

end Standard

end Steward

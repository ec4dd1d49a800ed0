import Steward.Catalog.Writing

/-!
# The whole catalog

The steps that pipelines are put together from, by what they take as input.
-/

namespace Steward.Catalog

variable {Item Spec Status : Type} [Managed Spec Status]

/-- The steps that take a resource and find it in the store or put it there. -/
def resourceSteps : List (Step Item (Resource Spec Status) (Resource Spec Status)) :=
  [validate, resolveSlug, checkDuplicate, buildNewState, persist, loadExisting, buildUpdateState,
    loadForApply]

def idSteps : List (Step Item String (Resource Spec Status)) :=
  [extractResourceId, loadTarget, loadExistingForDelete, deleteResource]

def referenceSteps : List (Step Item Reference (Resource Spec Status)) :=
  [loadByReference]

end Steward.Catalog

import Steward.Proofs.Guarantees

/-!
# Work that tells nobody

Reading and storing hand nothing to those who listen, whatever the store is, whatever it holds, and
however the work ends. Only the last step of a write does. Main statements: `silent_guarantee` and
`ends_tells`.
-/

namespace Steward

/-- The broker is as it was. -/
def Silent {Item : Type} (w w' : World Item) : Prop :=
  w'.broker = w.broker

theorem silent_guarantee {Item : Type} : Guarantee (Silent : World Item → World Item → Prop) where
  refl _ := rfl
  trans first second := second.trans first
  aside _ same := same
  touches _ _ _ := rfl

variable {Spec Status : Type}

/-- Handing on what was written comes last: the answer is told once, or nothing is. -/
theorem ends_tells
    {p : Pipeline (Resource Spec Status) (Resource Spec Status) (Resource Spec Status)}
    {steps : List (Step (Resource Spec Status) (Resource Spec Status) (Resource Spec Status))}
    (published : p.steps = steps ++ [Catalog.publish])
    (silent : ∀ step ∈ steps, StaysWork Silent step.run) (call : Call)
    (input : Resource Spec Status) (w : World (Resource Spec Status)) :
    Ends (p.write call input) w (fun r w' => w'.broker = (w.broker.broadcast r.id r).2)
      fun _ w' => w'.broker = w.broker := by
  unfold Pipeline.write
  rw [ends_bind, ends_execute, published, ends_runSteps_append]
  refine (silent_guarantee.runSteps silent _).imp (fun _ s same => ?_) fun _ _ same => same
  have same : s.world.broker = w.broker := same
  rw [ends_runSteps_cons]
  refine ⟨fun _ => ?_, fun _ _ => same⟩
  simp only [Catalog.publish, ends_bind, ends_newState]
  refine ⟨fun r filled => ?_, fun _ => same⟩
  have answered : s.request.getNewState = .ok r := by rw [Request.getNewState, filled]
  rw [ends_perform, Op.publish, ends_modifyGet, ends_pure, ends_runSteps_nil, answered, ← same]
  exact rfl

end Steward

import Steward.Pipeline.Basic

/-!
# Two runs side by side

Two pieces of work are done from states that are related. Both end with a value, or both with the
same stop, and what they leave behind is related again, in a way that may depend on how they have
ended. There is one rule for each way in which work is put together, up to lines of steps and whole
pipelines. Main statements: `Pairs.bind`, `Pairs.perform`, `Pairs.cons` and `Pairs.execute`.
-/

namespace Steward

section Rules

variable {σ α β : Type}

/-- Two runs have ended: with values and states of which `Post` holds, or with the same stop and
states of which `Halt` holds. -/
inductive EndPair (Post : α → α → σ → σ → Prop) (Halt : σ → σ → Prop) :
    EStateM.Result Stop σ α → EStateM.Result Stop σ α → Prop where
  | ok {a a' : α} {s s' : σ} (holds : Post a a' s s') : EndPair Post Halt (.ok a s) (.ok a' s')
  | error {stop : Stop} {s s' : σ} (holds : Halt s s') :
    EndPair Post Halt (.error stop s) (.error stop s')

/-- From states of which `Pre` holds the two pieces of work end as a pair. -/
def Pairs (Pre : σ → σ → Prop) (work work' : EStateM Stop σ α) (Post : α → α → σ → σ → Prop)
    (Halt : σ → σ → Prop) : Prop :=
  ∀ s s', Pre s s' → EndPair Post Halt (work s) (work' s')

namespace Pairs

variable {Pre Halt : σ → σ → Prop} {Post : α → α → σ → σ → Prop} {work work' : EStateM Stop σ α}

theorem pure {a a' : α} (holds : ∀ s s', Pre s s' → Post a a' s s') :
    Pairs Pre (Pure.pure a : EStateM Stop σ α) (Pure.pure a') Post Halt :=
  fun s s' pre => .ok (holds s s' pre)

theorem throw (stop : Stop) (holds : ∀ s s', Pre s s' → Halt s s') :
    Pairs Pre (MonadExcept.throw stop : EStateM Stop σ α) (MonadExcept.throw stop) Post Halt :=
  fun s s' pre => .error (holds s s' pre)

theorem bind {Mid : β → β → σ → σ → Prop} {first first' : EStateM Stop σ β}
    {next next' : β → EStateM Stop σ α} (pairs : Pairs Pre first first' Mid Halt)
    (rest : ∀ b b', Pairs (Mid b b') (next b) (next' b') Post Halt) :
    Pairs Pre (first >>= next) (first' >>= next') Post Halt := by
  intro s s' pre
  have ended := pairs s s' pre
  simp only [Bind.bind, EStateM.bind]
  generalize first s = result, first' s' = result' at ended
  cases ended with
  | ok holds => exact rest _ _ _ _ holds
  | error holds => exact .error holds

theorem imp {Post' : α → α → σ → σ → Prop} (pairs : Pairs Pre work work' Post Halt)
    (weaker : ∀ a a' s s', Post a a' s s' → Post' a a' s s') :
    Pairs Pre work work' Post' Halt := by
  intro s s' pre
  have ended := pairs s s' pre
  generalize work s = result, work' s' = result' at ended
  cases ended with
  | ok holds => exact .ok (weaker _ _ _ _ holds)
  | error holds => exact .error holds

/-- From one state the same work ends in one state. -/
theorem self (work : EStateM Stop σ α) :
    Pairs Eq work work (fun a a' s s' => a = a' ∧ s = s') Eq := by
  rintro s _ rfl
  cases work s with
  | ok a s' => exact .ok ⟨rfl, rfl⟩
  | error stop s' => exact .error rfl

/-- Work that ends alike from every state is the same. -/
theorem eq (pairs : Pairs Eq work work' (fun a a' s s' => a = a' ∧ s = s') Eq) : work = work' := by
  funext s
  have ended := pairs s s rfl
  generalize work s = result, work' s = result' at ended
  cases ended with
  | ok holds => rw [holds.1, holds.2]
  | error holds => rw [holds]

end Pairs

end Rules

/-! ## Work on requests -/

section Sessions

variable {Item Input R α : Type} {V W H : World Item → World Item → Prop}
  {r r' : Request Input R} {Halt : Session Item Input R → Session Item Input R → Prop}

/-- Two requests, each in its world, where the worlds are related. -/
structure Paired (W : World Item → World Item → Prop) (r r' : Request Input R)
    (s s' : Session Item Input R) : Prop where
  left : s.request = r
  right : s'.request = r'
  worlds : W s.world s'.world

namespace Pairs

/-- What is done with the worlds leaves the requests as they are. -/
theorem perform {op op' : Op Item α} {Post : α → α → World Item → World Item → Prop}
    (pairs : Pairs W op op' Post H) :
    Pairs (Paired W r r') (Work.perform op : Work Item Input R α) (Work.perform op')
      (fun a a' => Paired (Post a a') r r') fun s s' => H s.world s'.world := by
  rintro s s' ⟨left, right, worlds⟩
  have ended := pairs _ _ worlds
  simp only [Work.perform, EStateM.run]
  generalize op s.world = result, op' s'.world = result' at ended
  cases ended with
  | ok holds => exact .ok ⟨left, right, holds⟩
  | error holds => exact .error holds

theorem request : Pairs (Paired W r r') (Work.request : Work Item Input R _) Work.request
    (fun a a' s s' => (a = r ∧ a' = r') ∧ Paired W r r' s s') Halt := by
  rintro s s' ⟨left, right, worlds⟩
  exact .ok ⟨⟨left, right⟩, left, right, worlds⟩

theorem modifyRequest (f f' : Request Input R → Request Input R) :
    Pairs (Paired W r r') (Work.modifyRequest f : Work Item Input R Unit) (Work.modifyRequest f')
      (fun _ _ => Paired W (f r) (f' r')) Halt := by
  rintro s s' ⟨left, right, worlds⟩
  exact .ok ⟨congrArg f left, congrArg f' right, worlds⟩

/-- Both runs look after their call, then comes the first step, then the others. -/
theorem cons {step : Step Item Input R} {steps : List (Step Item Input R)}
    {Mid Post : Unit → Unit → Session Item Input R → Session Item Input R → Prop}
    (checked : Pairs (Paired W r r') (Work.perform (Op.check r.call) : Work Item Input R Unit)
      (Work.perform (Op.check r'.call)) (fun _ _ => Paired W r r') Halt)
    (first : Pairs (Paired W r r') step.run step.run Mid Halt)
    (rest : Pairs (Mid () ()) (Pipeline.runSteps steps) (Pipeline.runSteps steps) Post Halt) :
    Pairs (Paired W r r') (Pipeline.runSteps (step :: steps)) (Pipeline.runSteps (step :: steps))
      Post Halt := by
  refine bind request ?_
  rintro _ _ s s' ⟨⟨rfl, rfl⟩, paired⟩
  exact bind checked (fun _ _ => bind first fun _ _ => rest) s s' paired

/-- A pipeline hands back the requests that its runs end with. -/
theorem execute {p : Pipeline Item Input R} {Q : Request Input R → Request Input R → Prop}
    (run : Pairs (Paired W r r') p.run p.run
      (fun _ _ s s' => V s.world s'.world ∧ Q s.request s'.request)
      fun s s' => H s.world s'.world) :
    Pairs W (p.execute r) (p.execute r') (fun r r' w w' => V w w' ∧ Q r r') H := by
  intro w w' worlds
  have ended := run ⟨w, r⟩ ⟨w', r'⟩ ⟨rfl, rfl, worlds⟩
  simp only [Pipeline.execute, EStateM.run]
  generalize p.run ⟨w, r⟩ = result, p.run ⟨w', r'⟩ = result' at ended
  cases ended with
  | ok holds => exact .ok holds
  | error holds => exact .error holds

end Pairs

end Sessions

end Steward

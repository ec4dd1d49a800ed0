import Steward.Proofs.Services

/-!
# What the service of agents does to the table

The creation of an agent writes three times: the agent, its default instance, and the agent again
with the instance's id. It may stop between any two of these writes, and nothing is undone then.
Main statement: `ends_createAgent`.
-/

namespace Steward

open Store Agents

variable {w : DaemonWorld} {t : Table} (config : Config)

/-- The default instance of an agent as it is asked for. -/
def defaultRequest (agent : Agent) : AgentInstance :=
  (defaultInstance agent).withMetadata fun m =>
    { m with labels := m.labels.insert InstanceClient.createdByLabel InstanceClient.systemActor }

/-- The agent with the id of its default instance recorded. -/
def recorded (agent : Agent) (id : String) : Agent :=
  { agent with status := { agent.status with defaultInstanceId := id } }

theorem nextVersion_recorded {agent : Agent} (held : Holds .agent t agent.id agent) (id : String) :
    NextVersion .agent t agent (recorded agent id) :=
  ⟨⟨agent.id, held⟩, rfl, ⟨rfl, rfl⟩, fun sound => sound.restatus _⟩

section Steps

variable {s : Session WorkflowExecution Agent Agent} {agent : Agent}

/-- The default instance is in place and its id noted, or the step stops, be it before or after the
instance is in place. -/
theorem ends_createDefaultInstance (stored : s.world.store.backing = .memory t)
    (declared : Declared s.world.interceptor) (filled : s.request.newState = some agent) :
    Ends (createDefaultInstance (.ofEndpoint (Daemon.instances config))).run s
      (fun _ s' => ∃ made, Created .agentInstance t s.world.ids (defaultRequest agent) made ∧
        Leads s.world (stow .agentInstance t made) s'.world ∧
        s'.request.call = s.request.call ∧ s'.request.newState = some agent ∧
        s'.request.find? defaultInstanceNote Note.text? = some made.id)
      fun _ s' => Leads s.world t s'.world ∨
        ∃ made, Created .agentInstance t s.world.ids (defaultRequest agent) made ∧
          Leads s.world (stow .agentInstance t made) s'.world := by
  simp only [createDefaultInstance, ends_bind, ends_newState, filled, reduceCtorEq, false_implies,
    and_true, Option.some.injEq, forall_eq', ends_work_unless, ends_request, Work.leave,
    ends_modifyRequest]
  refine ⟨fun _ => Or.inl (.refl stored), fun _ => ?_⟩
  rw [ends_perform, InstanceClient.createAsSystem, ends_bind, Op.child, ends_onTimeline]
  have sent := savesOrStops_send
    (w := { s.world with timeline := (s.world.timeline.child s.request.call).2 })
    config (s.world.timeline.child s.request.call).1 (defaultRequest agent) stored declared
  have passed : Leads s.world t
      { s.world with timeline := (s.world.timeline.child s.request.call).2 } :=
    .pass stored (fun _ still => still.child _) s.world.clock
  refine Ends.imp sent ?_ ?_
  · rintro made w' ⟨created, leads⟩
    have noted : (s.request.leave defaultInstanceNote (.text made.id)).find? defaultInstanceNote
        Note.text? = some made.id := by
      rw [Request.find?_leave_self]
      rfl
    exact ⟨made, created, passed.trans leads, rfl, filled, noted⟩
  · rintro stop w' (leads | ⟨made, created, leads⟩)
    · exact Or.inl (passed.trans leads)
    · exact Or.inr ⟨made, created, passed.trans leads⟩

/-- The agent with the noted id is the new state and in place, or the table is as before. -/
theorem ends_recordDefaultInstance {id : String} (stored : s.world.store.backing = .memory t)
    (own : s.request.call.kind = some .agent) (filled : s.request.newState = some agent)
    (noted : s.request.find? defaultInstanceNote Note.text? = some id) :
    Ends (recordDefaultInstance : Step WorkflowExecution Agent Agent).run s
      (fun _ s' => Leads s.world (stow .agent t (recorded agent id)) s'.world ∧
        s'.request.newState = some (recorded agent id))
      fun _ s' => Leads s.world t s'.world := by
  simp only [recordDefaultInstance, ends_bind, ends_request, noted, ends_newState, filled,
    reduceCtorEq, false_implies, and_true, Option.some.injEq, forall_eq', Work.setNewState,
    ends_modifyRequest]
  refine Ends.imp (ends_persist stored own rfl) ?_ fun _ _ leads => leads
  rintro _ s' ⟨leads, same, -⟩
  exact ⟨leads, by rw [same]; rfl⟩

/-- The steps that follow once an agent is in place. -/
def furnishSteps : List (Step WorkflowExecution Agent Agent) :=
  [createDefaultInstance (.ofEndpoint (Daemon.instances config)), recordDefaultInstance]

/-- They put its default instance in place and record it, or they stop, be it before or after the
instance is in place. -/
theorem ends_furnishSteps (stored : s.world.store.backing = .memory t)
    (declared : Declared s.world.interceptor) (own : s.request.call.kind = some .agent)
    (filled : s.request.newState = some agent) :
    Ends (Pipeline.runSteps (furnishSteps config)) s
      (fun _ s' => ∃ made, Created .agentInstance t s.world.ids (defaultRequest agent) made ∧
        Leads s.world (stow .agent (stow .agentInstance t made) (recorded agent made.id)) s'.world ∧
        s'.request.newState = some (recorded agent made.id))
      fun _ s' => Leads s.world t s'.world ∨
        ∃ made, Created .agentInstance t s.world.ids (defaultRequest agent) made ∧
          Leads s.world (stow .agentInstance t made) s'.world := by
  rw [furnishSteps, ends_runSteps_cons]
  refine ⟨fun _ => ?_, fun _ _ => .inl (.refl stored)⟩
  refine (ends_createDefaultInstance config stored declared filled).imp ?_ fun _ _ half => half
  rintro _ s₂ ⟨made, created, leads₂, call₂, filled₂, noted⟩
  have own₂ : s₂.request.call.kind = some .agent := by rw [call₂]; exact own
  -- From here on the default instance is in place, wherever the steps stop.
  rw [ends_runSteps_cons]
  refine ⟨fun _ => ?_, fun _ _ => .inr ⟨made, created, leads₂⟩⟩
  refine (ends_recordDefaultInstance leads₂.stored own₂ filled₂ noted).imp ?_
    fun _ _ leads₃ => .inr ⟨made, created, leads₂.trans leads₃⟩
  rintro _ s₃ ⟨leads₃, filled₃⟩
  exact ⟨made, created, leads₂.trans leads₃, filled₃⟩

end Steps

variable {call : Call}

/-- What the creation of an agent puts in place: the agent, and its default instance. -/
structure BothCreated (t : Table) (ids : Supply String) (input agent : Agent)
    (made : AgentInstance) : Prop where
  template : Created .agent t ids input agent
  configured : Created .agentInstance (stow .agent t agent) ids (defaultRequest agent) made

/-- The table with an agent and its default instance. -/
def stowBoth (t : Table) (agent : Agent) (made : AgentInstance) : Table :=
  stow .agentInstance (stow .agent t agent) made

section Both

variable {ids : Supply String} {input agent : Agent} {made : AgentInstance}

/-- The default instance is in place under its id. -/
theorem BothCreated.holds_made (both : BothCreated t ids input agent made) :
    Holds .agentInstance (stowBoth t agent made) made.id made :=
  (holds_put both.configured.sound).2 (.inl ⟨rfl, rfl⟩)

/-- In the end the agent is in place with the reference. -/
theorem BothCreated.holds_recorded (both : BothCreated t ids input agent made) :
    Holds .agent (stow .agent (stowBoth t agent made) (recorded agent made.id)) agent.id
      (recorded agent made.id) := by
  have sound : Sound .agent (recorded agent made.id) := both.template.sound.restatus _
  exact (holds_put sound).2 (.inl ⟨rfl, rfl⟩)

end Both

/-- What the creation of an agent leaves when it stops. -/
inductive HalfCreated (t : Table) (ids : Supply String) (input : Agent) : Table → Prop where
  | nothing : HalfCreated t ids input t
  | agent (agent : Agent) (created : Created .agent t ids input agent) :
      HalfCreated t ids input (stow .agent t agent)
  | both (agent : Agent) (made : AgentInstance) (created : BothCreated t ids input agent made) :
      HalfCreated t ids input (stowBoth t agent made)

theorem ends_createAgent (stored : w.store.backing = .memory t) (declared : Declared w.interceptor)
    (own : call.kind = some .agent) (input : Agent) :
    Ends (create (.ofEndpoint (Daemon.instances config)) call input) w
      (fun r w' => ∃ agent made, BothCreated t w.ids input agent made ∧
        r = recorded agent made.id ∧
        Leads w (stow .agent (stowBoth t agent made) (recorded agent made.id)) w' ∧
        checkKey ⟨(Kind.agent).name, agent.id⟩ = .ok ())
      fun _ w' => ∃ t', HalfCreated t w.ids input t' ∧ Leads w t' w' := by
  have steps : (createPipeline (.ofEndpoint (Daemon.instances config))).steps =
    Standard.createSteps ++ furnishSteps config := rfl
  unfold Agents.create Pipeline.write
  rw [ends_bind, ends_execute, steps, ends_runSteps_append]
  refine Ends.imp (stows_createSteps (s := seededSession w call input) stored own rfl) ?_
    fun _ _ leads => ⟨t, .nothing, leads⟩
  rintro _ s₁ ⟨agent, created, leads₁, call₁, filled₁, placed⟩
  have declared₁ : Declared s₁.world.interceptor := Declared.of_leads declared leads₁
  have own₁ : s₁.request.call.kind = some .agent := by rw [call₁]; exact own
  -- From here on the agent is in place, wherever the creation stops.
  refine (ends_furnishSteps config leads₁.stored declared₁ own₁ filled₁).imp ?_ ?_
  · rintro _ s₂ ⟨made, createdMade, leads₂, filled₂⟩
    rw [Request.getNewState, filled₂]
    have both : BothCreated t w.ids input agent made := ⟨created, createdMade.of_leads leads₁⟩
    exact ⟨agent, made, both, rfl, leads₁.trans leads₂, placed.accepted⟩
  · rintro _ s₂ (leads₂ | ⟨made, createdMade, leads₂⟩)
    · exact ⟨_, .agent agent created, leads₁.trans leads₂⟩
    · exact ⟨_, .both agent made ⟨created, createdMade.of_leads leads₁⟩, leads₁.trans leads₂⟩

end Steward

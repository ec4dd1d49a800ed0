import Steward.Model.Agent
import Steward.Model.AgentInstance
import Steward.Model.WorkflowExecution
import Steward.Proofs.Codec

/-!
# The managed types keep their laws

Agents, agent instances and workflow executions can be stored and read, and an update of a valid
specification by a valid one is valid. Main statement: `decode_encode_models`.
-/

namespace Steward

theorem Json.natBelow?_nat {bound n : Nat} (small : n < bound) :
    (Json.nat n).natBelow? bound = some n := by
  simp [Json.natBelow?, Json.nat, Numeral.nat?_ofNat, small]

theorem Json.isPlain_nat (n : Nat) : (Json.nat n).IsPlain :=
  ⟨n, rfl⟩

/-- No rule is violated exactly if no single one is. -/
theorem Rule.first_eq_none {findings : List Finding} :
    Rule.first findings = none ↔ ∀ finding ∈ findings, finding = none := by
  simp [Rule.first, List.findSome?_eq_none_iff]

/-! ## Agents -/

namespace AgentSpec

/-- The number of turns fits 32 bits. -/
def TurnsFit (s : AgentSpec) : Prop :=
  ∀ turns ∈ s.maxTurns, turns < 4294967296

theorem ofJson?_toJson {s : AgentSpec} (fits : s.TurnsFit) : ofJson? s.toJson = some s := by
  obtain ⟨description, instructions, model, turns⟩ := s
  cases turns with
  | none =>
    rw [toJson, ofJson?, Json.fields?_record _ (by simp)]
    simp [Json.given, Fields.get, List.lookup_cons, Json.text?_text]
  | some turns =>
    have read := Json.natBelow?_nat (fits turns rfl)
    rw [toJson, ofJson?, Json.fields?_record _ (by simp)]
    simp only [Json.nat] at read
    simp [Json.given, Fields.get, List.lookup_cons, Json.text?_text, Json.optional?, Json.nat,
      read]

theorem isPlain_toJson (s : AgentSpec) : s.toJson.IsPlain := by
  obtain ⟨description, instructions, model, turns⟩ := s
  cases turns <;> simp [toJson, Json.isPlain_record, Json.isPlain_nat]

theorem turnsFit_of_valid {s : AgentSpec} (valid : s.violation? = none) : s.TurnsFit := by
  intro turns limit
  have inRange : turnsInRange s.maxTurns = none :=
    Rule.first_eq_none.1 valid _ (by simp)
  rw [Option.mem_def.1 limit] at inRange
  simp [turnsInRange, Rule.range, Rule.check] at inRange
  omega

end AgentSpec

theorem AgentStatus.ofJson?_toJson (s : AgentStatus) : ofJson? s.toJson = some s := by
  rw [toJson, ofJson?, Json.fields?_record _ (by simp)]
  simp [Json.given, Fields.get, Json.text?_text]

theorem AgentStatus.isPlain_toJson (s : AgentStatus) : s.toJson.IsPlain := by
  simp [toJson, Json.isPlain_record]

instance : LawfulManaged AgentSpec AgentStatus where
  Fits := AgentSpec.TurnsFit
  lawful_spec := ⟨fun _ fits => AgentSpec.ofJson?_toJson fits, AgentSpec.isPlain_toJson⟩
  lawful_status _ written := by
    cases written
    exact ⟨fun s _ => s.ofJson?_toJson, AgentStatus.isPlain_toJson⟩
  unwritten_status unwritten := by cases unwritten
  fits_of_valid _ valid := AgentSpec.turnsFit_of_valid valid
  valid_merge _ _ _ valid := valid

/-! ## Agent instances -/

namespace AgentInstanceSpec

theorem ofJson?_toJson (s : AgentInstanceSpec) : ofJson? s.toJson = some s := by
  obtain ⟨agentId, description, refs⟩ := s
  cases refs with
  | nil =>
    rw [toJson, ofJson?, Json.fields?_record _ (by simp)]
    simp [Json.given, Fields.get, List.lookup_cons, Json.text?_text]
  | cons ref refs =>
    have read := Json.mapM_text? (ref :: refs)
    rw [toJson, ofJson?, Json.fields?_record _ (by simp)]
    simp only [List.map_cons] at read
    simp [Json.given, Fields.get, List.lookup_cons, Json.text?_text, Json.listOf?, read]

theorem isPlain_toJson (s : AgentInstanceSpec) : s.toJson.IsPlain := by
  have texts := Json.isPlain_texts s.environmentRefs
  unfold toJson
  rw [Json.isPlain_record]
  split <;> simp [texts]

/-- The rules of an instance in terms of its fields. -/
theorem valid_iff (s : AgentInstanceSpec) :
    s.violation? = none ↔ Text.isAllBlank s.agentId = false ∧
      agentIdStem.toList.isPrefixOf s.agentId.toList = true ∧ s.description.length ≤ 1000 := by
  simp [violation?, Rule.first_eq_none, Rule.required, Rule.maxLength, Rule.check]

/-- The rules for the owning agent and those for the rest can be taken from two instances. -/
theorem valid_merge {stored requested : AgentInstanceSpec} (valid : stored.violation? = none)
    (validRequest : requested.violation? = none) :
    AgentInstanceSpec.violation? { requested with agentId := stored.agentId } = none := by
  rw [valid_iff] at valid validRequest ⊢
  exact ⟨valid.1, valid.2.1, validRequest.2.2⟩

end AgentInstanceSpec

instance : LawfulManaged AgentInstanceSpec Unit where
  Fits _ := True
  lawful_spec := ⟨fun s _ => s.ofJson?_toJson, AgentInstanceSpec.isPlain_toJson⟩
  lawful_status _ written := by cases written
  unwritten_status _ _ := rfl
  fits_of_valid _ _ := trivial
  valid_merge _ _ valid validRequest := AgentInstanceSpec.valid_merge valid validRequest

/-! ## Workflow executions -/

theorem Phase.ofJson?_toJson (p : Phase) : ofJson? p.toJson = some p := by
  cases p <;> rfl

theorem ExecutionSpec.ofJson?_toJson (s : ExecutionSpec) : ofJson? s.toJson = some s := by
  rw [toJson, ofJson?, Json.fields?_record _ (by simp)]
  simp [Json.given, Fields.get, List.lookup_cons, Json.text?_text]

theorem ExecutionSpec.isPlain_toJson (s : ExecutionSpec) : s.toJson.IsPlain := by
  simp [toJson, Json.isPlain_record]

theorem ExecutionStatus.ofJson?_toJson (s : ExecutionStatus) : ofJson? s.toJson = some s := by
  rw [toJson, ofJson?, Json.fields?_record _ (by simp)]
  simp [Json.given, Fields.get, List.lookup_cons, Json.text?_text, Phase.ofJson?_toJson]

theorem ExecutionStatus.isPlain_toJson (s : ExecutionStatus) : s.toJson.IsPlain := by
  simp [toJson, Phase.toJson, Json.isPlain_record]

instance : LawfulManaged ExecutionSpec ExecutionStatus where
  Fits _ := True
  lawful_spec := ⟨fun s _ => s.ofJson?_toJson, ExecutionSpec.isPlain_toJson⟩
  lawful_status _ written := by
    cases written
    exact ⟨fun s _ => s.ofJson?_toJson, ExecutionStatus.isPlain_toJson⟩
  unwritten_status unwritten := by cases unwritten
  fits_of_valid _ _ := trivial
  valid_merge _ _ valid _ := valid

/-! ## What is stored is read back -/

/-- Whatever texts, labels, scope and times it has, and whether or not what may be left out is
there. -/
theorem decode_encode_models :
    (∀ agent : Agent, agent.spec.TurnsFit → Resource.decode agent.encode = .ok agent) ∧
      (∀ made : AgentInstance, Resource.decode made.encode = .ok made) ∧
      ∀ execution : WorkflowExecution, Resource.decode execution.encode = .ok execution :=
  ⟨Resource.decode_encode, fun made => Resource.decode_encode made trivial,
    fun execution => Resource.decode_encode execution trivial⟩

/-- An agent of which nothing is left out, with texts that have to be escaped. -/
def labelledAgent : Agent where
  apiVersion := apiVersion
  kindName := "Agent"
  metadata :=
    { id := "agt-1", name := "The \"critic\"", slug := "the-critic"
      scope := .organization "acme", labels := Labels.empty.insert "tier" "gold"
      createdAt := some .epoch, updatedAt := some .epoch }
  spec := { instructions := "Find\tfault.", model := "small", maxTurns := some 4294967295 }
  status := { defaultInstanceId := "ain-1" }

theorem decode_encode_labelledAgent :
    labelledAgent.spec.TurnsFit ∧ Resource.decode labelledAgent.encode = .ok labelledAgent := by
  have fits : labelledAgent.spec.TurnsFit := by
    intro turns limit
    obtain rfl : 4294967295 = turns := Option.some.inj limit
    decide
  exact ⟨fits, decode_encode_models.1 labelledAgent fits⟩

end Steward

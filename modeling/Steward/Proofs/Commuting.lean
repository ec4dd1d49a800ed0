import Mathlib.Data.List.Sort
import Steward.Proofs.Abreast
import Steward.Proofs.Revisions

/-!
# Operations that commute

An operation on one resource looks at what stands under an id, or at what is found for a natural
key, and writes under the id. Whatever another operation writes under another id and for other
natural keys makes no difference to it, although it may list and read all values of the kind. So two
such operations can be done in either order. Main statements: `Place.alike_of_elsewhere`,
`Local.of_ends` and `commute_reached`.
-/

namespace Steward

open Store Catalog

/-! ## What becomes of one value -/

/-- What an operation does to the value under a key. -/
inductive Mark where
  | keep
  | put (value : ByteArray)
  | erase

namespace Mark

def on (key : Key) (t : Table) : Mark → Table
  | keep => t
  | put value => t.put key value
  | erase => t.erase key

/-- An operation that succeeds puts its answer in place. -/
def saved {α : Type} (bytes : α → ByteArray) : Except Stop α → Mark
  | .ok answer => put (bytes answer)
  | .error _ => keep

/-- An operation that succeeds takes away what is there. -/
def removed {α : Type} : Except Stop α → Mark
  | .ok _ => erase
  | .error _ => keep

variable {key key' : Key} {t t' : Table}

theorem get?_on_of_ne (mark : Mark) (other : key' ≠ key) :
    (mark.on key t).get? key' = t.get? key' := by
  cases mark with
  | keep => rfl
  | put value => exact Table.get?_put_of_ne other
  | erase => exact (Table.get?_erase t key key').trans (if_neg other)

/-- What stands under the key afterwards depends only on what stood there before. -/
theorem get?_on_congr (mark : Mark) (same : t.get? key = t'.get? key) :
    (mark.on key t).get? key = (mark.on key t').get? key := by
  cases mark with
  | keep => exact same
  | put value => exact Table.get?_put_self.trans Table.get?_put_self.symm
  | erase => rw [on, on, Table.get?_erase, Table.get?_erase, if_pos rfl, if_pos rfl]

/-- Marks under different keys can be made in either order. -/
theorem on_on_comm (mark mark' : Mark) (apart : key ≠ key') (k : Key) :
    (mark'.on key' (mark.on key t)).get? k = (mark.on key (mark'.on key' t)).get? k := by
  by_cases first : k = key
  · subst first
    rw [get?_on_of_ne mark' apart]
    exact get?_on_congr mark (get?_on_of_ne mark' apart).symm
  · rw [get?_on_of_ne mark first]
    by_cases second : k = key'
    · subst second
      exact get?_on_congr mark' (get?_on_of_ne mark first)
    · rw [get?_on_of_ne mark' second, get?_on_of_ne mark' second, get?_on_of_ne mark first]

end Mark

/-! ## Places -/

/-- Where an operation acts: under an id of a kind, on a resource with one of certain natural
keys. -/
structure Place where
  kind : Kind
  id : String
  Names : OwnerScope → String → Prop

namespace Place

def key (p : Place) : Key :=
  ⟨p.kind.name, p.id⟩

/-- The places have different keys and, if they are of one kind, no natural key in common. -/
structure Apart (p q : Place) : Prop where
  key : p.key ≠ q.key
  names : p.kind = q.kind → ∀ scope slug, p.Names scope slug → ¬ q.Names scope slug

theorem Apart.symm {p q : Place} (apart : p.Apart q) : q.Apart p :=
  ⟨apart.key.symm, fun same scope slug mine yours =>
    apart.names same.symm scope slug yours mine⟩

section Kinds

variable (Spec Status : Type) [Managed Spec Status]

/-- The place of what a table holds under an id. -/
def held (kind : Kind) (t : Table) (id : String) : Place where
  kind := kind
  id := id
  Names scope slug := ∃ r : Resource Spec Status, Holds kind t id r ∧
    r.metadata.scope = scope ∧ r.metadata.slug = slug

/-- Tables alike in what stands at the place and in what is found for its natural keys. -/
structure Alike (p : Place) (t t' : Table) : Prop where
  under : t.get? p.key = t'.get? p.key
  found : ∀ scope slug, p.Names scope slug →
    findings Spec Status p.kind t scope slug = findings Spec Status p.kind t' scope slug

end Kinds

/-- The place of a new resource that is made of an input. -/
def fresh {Spec Status : Type} (kind : Kind) (id : String) (input : Resource Spec Status) :
    Place where
  kind := kind
  id := id
  Names scope slug := input.metadata.scope = scope ∧ resolvedSlug input.metadata = .ok slug

end Place

theorem Kind.eq_of_name {kind kind' : Kind} (same : kind.name = kind'.name) : kind = kind' := by
  revert same
  cases kind <;> cases kind' <;> decide

/-! ### Lookups by natural key -/

section Findings

variable {Spec Status : Type} [Managed Spec Status] {kind : Kind} {t t' : Table}

/-- In a table that is well kept one resource at most is found for a natural key. -/
theorem KindKept.findings (kept : KindKept Spec Status kind t) (scope : OwnerScope)
    (slug : String) : ∃ found, findings Spec Status kind t scope slug = .ok found ∧
      found.Pairwise (fun _ _ => False) ∧
      ∀ r, r ∈ found ↔ (∃ id, Holds kind t id r) ∧ r.metadata.scope = scope ∧
        r.metadata.slug = slug := by
  obtain ⟨resources, decoded⟩ := kept.decodeAll
  have members : ∀ r, r ∈ resources.filter (Resource.hasKey scope slug) ↔
      (∃ id, Holds kind t id r) ∧ r.metadata.scope = scope ∧ r.metadata.slug = slug := by
    intro r
    rw [List.mem_filter, mem_decodeAll decoded, hasKey_iff]
  refine ⟨_, by rw [Steward.findings, decoded]; rfl, ?_, members⟩
  -- Two of them would have different ids, but they have the same natural key.
  have pairwise := (kept.pairwise_decodeAll decoded).filter (Resource.hasKey scope slug)
  refine pairwise.imp_of_mem fun {r r'} inside inside' apart => ?_
  obtain ⟨⟨id, held⟩, scope, slug⟩ := (members r).1 inside
  obtain ⟨⟨id', held'⟩, scope', slug'⟩ := (members r').1 inside'
  have same : id = id' := kept.unique id id' r r' held held'
    ⟨scope.trans scope'.symm, slug.trans slug'.symm⟩
  exact apart ((kept.of_holds held).1.trans (same.trans (kept.of_holds held').1.symm))

theorem findings_congr (kept : KindKept Spec Status kind t) (kept' : KindKept Spec Status kind t')
    {scope : OwnerScope} {slug : String}
    (same : ∀ r : Resource Spec Status, r.metadata.scope = scope → r.metadata.slug = slug →
      ((∃ id, Holds kind t id r) ↔ ∃ id, Holds kind t' id r)) :
    findings Spec Status kind t scope slug = findings Spec Status kind t' scope slug := by
  obtain ⟨found, done, single, members⟩ := kept.findings scope slug
  obtain ⟨found', done', single', members'⟩ := kept'.findings scope slug
  have : Std.Irrefl fun _ _ : Resource Spec Status => False := ⟨fun _ => id⟩
  have : Std.Antisymm fun _ _ : Resource Spec Status => False := ⟨fun _ _ => False.elim⟩
  rw [done, done', single.eq_of_mem_iff single' fun r => ?_]
  rw [members, members']
  exact and_congr_left fun ⟨scope, slug⟩ => same r scope slug

/-- What happens within one place makes no difference to a lookup for another. -/
theorem Place.alike_of_elsewhere {p q : Place} (kept : KindKept Spec Status p.kind t)
    (kept' : KindKept Spec Status p.kind t') (apart : p.key ≠ q.key)
    (elsewhere : ∀ key, key ≠ q.key → t'.get? key = t.get? key)
    (strange : p.kind = q.kind → ∀ r : Resource Spec Status,
      Holds q.kind t q.id r ∨ Holds q.kind t' q.id r →
      ¬ p.Names r.metadata.scope r.metadata.slug) : p.Alike Spec Status t t' := by
  refine ⟨(elsewhere p.key apart).symm, fun scope slug named => ?_⟩
  refine findings_congr kept kept' fun r here called => exists_congr fun id => ?_
  subst here called
  by_cases there : (⟨p.kind.name, id⟩ : Key) = q.key
  · -- The value is in the other place, so it has another natural key both times.
    have same : p.kind = q.kind := Kind.eq_of_name (congrArg Key.kind there)
    obtain rfl : id = q.id := congrArg Key.id there
    rw [same]
    exact iff_of_false (fun held => strange same r (.inl held) named)
      fun held => strange same r (.inr held) named
  · unfold Holds
    rw [elsewhere _ there]

end Findings

/-! ## Operations at a place -/

section Local

variable {α β : Type}

/-- The operation acts at the place, where `mark` says what it does to the value there when it ends
in some way. `t` is the table at the start, and `ids` are the texts for ids that it finds. -/
structure Local (Spec Status : Type) [Managed Spec Status] (t : Table) (ids : Supply String)
    (p : Place) (op : Op WorkflowExecution α) (mark : Except Stop α → Mark) : Prop where
  /-- It looks at the place only. -/
  even : Even (Beside (p.Alike Spec Status)) op fun _ => Beside AnyTables
  /-- It writes at the place only. -/
  leaves : ∀ (w : DaemonWorld) t', w.store.backing = .memory t' → w.ids = ids →
    KindKept Spec Status p.kind t' →
    (op.outcome w).2.store.backing = .memory ((mark (op.outcome w).1).on p.key t')
  /-- What stands at the place, before and afterwards, has one of the natural keys. -/
  names : ∀ w : DaemonWorld, w.store.backing = .memory t → w.ids = ids →
    ∀ r : Resource Spec Status,
      Holds p.kind t p.id r ∨ Holds p.kind ((mark (op.outcome w).1).on p.key t) p.id r →
      p.Names r.metadata.scope r.metadata.slug

variable {Spec Status : Type} [Managed Spec Status] {t : Table} {ids : Supply String} {p : Place}
  {kind : Kind}

/-- The same operation with its answer in another form. -/
theorem Local.answer {op : Op WorkflowExecution α} {mark : Except Stop α → Mark}
    {mark' : Except Stop β → Mark} (acts : Local Spec Status t ids p op mark) (answer : α → β)
    (same : ∀ x, mark' (x.map answer) = mark x) :
    Local Spec Status t ids p (do return answer (← op)) mark' where
  even := .bind acts.even fun _ => .pure fun _ _ beside => beside
  leaves w t' stored drawn kept := by
    rw [outcome_answer, same]
    exact acts.leaves w t' stored drawn kept
  names w stored drawn := by
    rw [outcome_answer, same]
    exact acts.names w stored drawn

theorem Even.outcome {α : Type} {A : Table → Table → Prop} {op : Op WorkflowExecution α}
    {Post : α → DaemonWorld → DaemonWorld → Prop} (even : Even (Beside A) op Post)
    {w w' : DaemonWorld} (beside : Beside A w w') : (op.outcome w).1 = (op.outcome w').1 := by
  have ended := even w w' beside
  simp only [Op.outcome, EStateM.run]
  generalize op w = result, op w' = result' at ended
  cases ended with
  | ok holds => rw [holds.1]
  | error => rfl

/-- What happens elsewhere makes no difference to the answer. -/
theorem Local.unmoved {q : Place} {t' : Table} {op : Op WorkflowExecution α}
    {mark : Except Stop α → Mark} (acts : Local Spec Status t ids p op mark)
    (kept : KindKept Spec Status p.kind t) (kept' : KindKept Spec Status p.kind t')
    (apart : p.key ≠ q.key) (elsewhere : ∀ key, key ≠ q.key → t'.get? key = t.get? key)
    (strange : p.kind = q.kind → ∀ r : Resource Spec Status,
      Holds q.kind t q.id r ∨ Holds q.kind t' q.id r →
      ¬ p.Names r.metadata.scope r.metadata.slug)
    {w w' : DaemonWorld} (beside : ∀ A : Table → Table → Prop, A t t' → Beside A w w') :
    (op.outcome w).1 = (op.outcome w').1 :=
  acts.even.outcome (beside _ (Place.alike_of_elsewhere kept kept' apart elsewhere strange))

section Saving

variable [LawfulManaged Spec Status] {op : Op WorkflowExecution (Resource Spec Status)}

/-- An operation that puts a sound resource at the place, or stops. -/
theorem Local.of_ends (even : Even (Beside (p.Alike Spec Status)) op fun _ => Beside AnyTables)
    (kept : KindKept Spec Status p.kind t)
    (there : ∀ r : Resource Spec Status, Holds p.kind t p.id r →
      p.Names r.metadata.scope r.metadata.slug)
    (ends : ∀ (w : DaemonWorld) t', w.store.backing = .memory t' → w.ids = ids →
      KindKept Spec Status p.kind t' →
      Ends op w (fun r w' => r.id = p.id ∧ Sound p.kind r ∧
          w'.store.backing = .memory (stow p.kind t' r) ∧
          (t' = t → p.Names r.metadata.scope r.metadata.slug))
        fun _ w' => w'.store.backing = .memory t') :
    Local Spec Status t ids p op (.saved Resource.encode) where
  even := even
  leaves w t' stored drawn kept := by
    rcases (ends w t' stored drawn kept).outcome_cases with
      ⟨r, w', done, named, -, stored', -⟩ | ⟨stop, w', halted, stored'⟩
    · rw [done, stored', stow, named]
      rfl
    · rw [halted, stored']
      rfl
  names w stored drawn r held := by
    rcases held with held | held
    · exact there r held
    rcases (ends w t stored drawn kept).outcome_cases with
      ⟨r', w', done, named, sound, -, names⟩ | ⟨stop, w', halted, -⟩
    · rw [done] at held
      have held : Holds p.kind (t.put ⟨p.kind.name, r'.id⟩ r'.encode) r'.id r := by
        rw [named]
        exact held
      rcases (holds_put sound).1 held with ⟨-, rfl⟩ | ⟨other, -⟩
      · exact names rfl
      · exact absurd rfl other
    · rw [halted] at held
      exact there r held

/-- Creating under a new id acts at the place of the new resource. -/
theorem local_create {input : Resource Spec Status} {text : String} (unchosen : input.id = "")
    (vacant : t.get? ⟨kind.name, kind.id text⟩ = none) (kept : KindKept Spec Status kind t)
    (even : Even (Beside ((Place.fresh kind (kind.id text) input).Alike Spec Status)) op
      fun _ => Beside AnyTables)
    (ends : ∀ (w : DaemonWorld) t', w.store.backing = .memory t' →
      Ends op w (fun r w' => Created kind t' w.ids input r ∧
          w'.store.backing = .memory (stow kind t' r)) fun _ w' => w'.store.backing = .memory t') :
    Local Spec Status t ⟨fun _ => text, 0⟩ (.fresh kind (kind.id text) input) op
      (.saved Resource.encode) := by
  refine .of_ends even kept ?_ fun w t' stored drawn _ => ?_
  · rintro r ⟨bytes, found, -⟩
    exact absurd (vacant.symm.trans found) nofun
  refine (ends w t' stored).imp (fun r w' ⟨created, stored'⟩ => ?_) fun _ _ stored' => stored'
  refine ⟨?_, created.sound, stored', fun _ => ?_⟩
  · rcases created.named with ⟨chosen, -⟩ | ⟨-, n, -, named⟩
    · exact absurd unchosen chosen
    · rw [named, drawn]
      rfl
  · obtain ⟨slug, id, now, resolved, rfl⟩ := created.made
    exact ⟨rfl, resolved⟩

/-- Putting a new version of what is held under an id in its place acts at the place of that id. -/
theorem local_renew {id : String} (kept : KindKept Spec Status kind t)
    (even : Even (Beside ((Place.held Spec Status kind t id).Alike Spec Status)) op
      fun _ => Beside AnyTables)
    (ends : ∀ (w : DaemonWorld) t', w.store.backing = .memory t' →
      Ends op w (fun r w' => (∃ old, Holds kind t' id old ∧ NextVersion kind t' old r) ∧
          w'.store.backing = .memory (stow kind t' r)) fun _ w' => w'.store.backing = .memory t') :
    Local Spec Status t ids (.held Spec Status kind t id) op (.saved Resource.encode) := by
  refine .of_ends even kept (fun r held => ⟨r, held, rfl, rfl⟩) fun w t' stored _ kept' => ?_
  refine (ends w t' stored).imp ?_ fun _ _ stored' => stored'
  rintro r w' ⟨⟨old, held, next⟩, stored'⟩
  obtain ⟨named, sound⟩ := kept'.of_holds held
  refine ⟨next.named.trans named, next.sound sound, stored', ?_⟩
  rintro rfl
  exact ⟨old, held, next.same⟩

end Saving

/-- Removing acts at the place of the id without the blanks around it. -/
theorem local_remove {call : Call} (own : call.kind = some kind) (id : String) :
    Local Spec Status t ids (.held Spec Status kind t (Text.trim id))
      ((Standard.delete kind : Pipeline _ String (Resource Spec Status)).remove call id)
      .removed where
  even := even_remove own id fun _ _ alike => alike.under
  leaves w t' stored _ _ := by
    have ends : Ends ((Standard.delete kind : Pipeline _ String (Resource Spec Status)).remove call
      id) w _ _ := ends_remove stored own id
    rcases ends.outcome_cases with ⟨r, w', done, -, leads⟩ | ⟨stop, w', halted, leads⟩
    · rw [done, leads.stored]
      rfl
    · rw [halted, leads.stored]
      rfl
  names w stored _ r held := by
    rcases held with held | held
    · exact ⟨r, held, rfl, rfl⟩
    cases done : (Op.outcome _ w).1 with
    | ok answer =>
      rw [done] at held
      exact absurd rfl (holds_erase.1 held).1
    | error stop =>
      rw [done] at held
      exact ⟨r, held, rfl, rfl⟩

end Local

/-! ## Errands -/

/-- The message is for creating a resource under a new id, which is made of a text, or for updating
or deleting one by its id, and this is its place. -/
inductive Message.ActsAt {Spec Status : Type} [Managed Spec Status] (kind : Kind) (t : Table)
    (text : String) : Message (Resource Spec Status) → Place → Prop where
  | create {input : Resource Spec Status} (unchosen : input.id = "")
    (vacant : t.get? ⟨kind.name, kind.id text⟩ = none) :
    ActsAt kind t text (.create input) (.fresh kind (kind.id text) input)
  | update {input : Resource Spec Status} (chosen : input.id ≠ "") :
    ActsAt kind t text (.update input) (.held Spec Status kind t input.id)
  | delete (id : String) :
    ActsAt kind t text (.delete id) (.held Spec Status kind t (Text.trim id))

namespace Daemon

/-- The same for an operation on an agent instance or on an execution. A change of status is for the
execution with the id of the one given. -/
inductive Operation.ActsAt (t : Table) (text : String) : Operation → Place → Prop where
  | instances {message : Message AgentInstance} {p : Place}
    (acts : message.ActsAt .agentInstance t text p) : ActsAt t text (.instances message) p
  | executions {message : Message WorkflowExecution} {p : Place}
    (acts : message.ActsAt .workflowExecution t text p) : ActsAt t text (.executions message) p
  | status {execution : WorkflowExecution} (chosen : execution.id ≠ "") :
    ActsAt t text (.status execution)
      (.held ExecutionSpec ExecutionStatus .workflowExecution t execution.id)

/-- An operation, what it meets, and the text that is set aside for it to make an id of. -/
structure Errand where
  operation : Operation
  conditions : Conditions
  text : String

namespace Errand

def ids (e : Errand) : Supply String :=
  ⟨fun _ => e.text, 0⟩

def work (config : Config) (e : Errand) : Op WorkflowExecution Answer :=
  e.operation.answer config (e.conditions.served e.operation.kind)

def meet (e : Errand) (w : DaemonWorld) : DaemonWorld :=
  { e.conditions.meet w with ids := e.ids }

/-- The outcome of an errand, with its answer and the world after it. -/
def outcome (config : Config) (w : DaemonWorld) (e : Errand) : Except Stop Answer × DaemonWorld :=
  Op.outcome (e.work config) (e.meet w)

/-- The world after an errand. -/
def take (config : Config) (w : DaemonWorld) (e : Errand) : DaemonWorld :=
  (e.outcome config w).2

theorem tended_take (config : Config) {w : DaemonWorld} (tended : Tended w) (e : Errand) :
    Tended (e.take config w) := by
  have drawn : Tended { w with ids := e.ids } := ⟨tended.kept, tended.declared⟩
  have taken := Steward.tended_take config drawn (e.conditions.turn e.operation)
  rw [Turn.take_eq] at taken
  exact taken

end Errand

def Answer.bytes : Answer → ByteArray
  | agent r => r.encode
  | instance_ r => r.encode
  | execution r => r.encode

end Daemon

open Daemon

/-! ### Services -/

section Services

variable {Spec Status : Type} [Managed Spec Status] {kind : Kind} {t : Table} {p : Place}
  {text : String} {call : Call}

/-- The service creates, updates and deletes resources of the kind as the standard steps do,
whatever it does besides. -/
structure Serves (kind : Kind) (controller : Controller WorkflowExecution (Resource Spec Status)) :
    Prop where
  creates : ∀ {A : Table → Table → Prop} {call : Call} {input : Resource Spec Status},
    call.kind = some kind → (∀ slug, resolvedSlug input.metadata = .ok slug → ∀ t t', A t t' →
      findings Spec Status kind t input.metadata.scope slug =
        findings Spec Status kind t' input.metadata.scope slug) →
    Even (Beside A) (controller.create call input) fun _ => Beside AnyTables
  created : ∀ {w : DaemonWorld} {t : Table} {call : Call} {input : Resource Spec Status},
    w.store.backing = .memory t → call.kind = some kind →
    Ends (controller.create call input) w
      (fun r w' => Created kind t w.ids input r ∧ w'.store.backing = .memory (stow kind t r))
      fun _ w' => w'.store.backing = .memory t
  updates : ∀ {A : Table → Table → Prop} {call : Call} {input : Resource Spec Status},
    call.kind = some kind → input.id ≠ "" →
    (∀ t t', A t t' → t.get? ⟨kind.name, input.id⟩ = t'.get? ⟨kind.name, input.id⟩) →
    Even (Beside A) (controller.update call input) fun _ => Beside AnyTables
  updated : ∀ {w : DaemonWorld} {t : Table} {call : Call} {input : Resource Spec Status},
    w.store.backing = .memory t → call.kind = some kind →
    Ends (controller.update call input) w
      (fun r w' => (∃ old, Revised kind t input old r) ∧
        w'.store.backing = .memory (stow kind t r))
      fun _ w' => w'.store.backing = .memory t
  deletes : controller.delete = (Standard.delete kind).remove

theorem Saves.outlines {op : Op WorkflowExecution (Resource Spec Status)} {w : DaemonWorld}
    {Made : Resource Spec Status → Prop} (saves : Saves op w kind t Made) :
    Ends op w (fun r w' => Made r ∧ w'.store.backing = .memory (stow kind t r))
      fun _ w' => w'.store.backing = .memory t :=
  Ends.imp saves (fun _ _ ⟨made, leads, _⟩ => ⟨made, leads.stored⟩) fun _ _ leads => leads.stored

theorem Announces.outlines {op : Op WorkflowExecution WorkflowExecution} {w : DaemonWorld}
    {Made : WorkflowExecution → Prop} (announces : Announces op w t Made) :
    Ends op w (fun r w' => Made r ∧ w'.store.backing = .memory (stow .workflowExecution t r))
      fun _ w' => w'.store.backing = .memory t :=
  Ends.imp announces (fun _ _ ⟨made, leads, _⟩ => ⟨made, leads.stored⟩)
    fun _ _ leads => leads.stored

theorem serves_instances (config : Config) :
    Serves .agentInstance (Daemon.instances config).controller where
  creates := even_create
  created stored own := (saves_create stored own).outlines
  updates := even_update
  updated stored own := (saves_update stored own).outlines
  deletes := rfl

theorem serves_executions (config : Config) :
    Serves .workflowExecution (Daemon.executions config).controller where
  creates := even_createExecution
  created stored own := (announces_create _ stored own).outlines
  updates := even_updateExecution
  updated stored own := (announces_update _ stored own).outlines
  deletes := rfl

variable [LawfulManaged Spec Status]
  {controller : Controller WorkflowExecution (Resource Spec Status)}

/-- What a message does to the value at its place. -/
def Message.mark {R α : Type} (bytes : α → ByteArray) : Message R → Except Stop α → Mark
  | .delete _ => .removed
  | _ => .saved bytes

/-- It is the same for an answer in another form, if the bytes are the same. -/
theorem Message.mark_map {R α β : Type} {bytes : α → ByteArray} {bytes' : β → ByteArray}
    {answer : α → β} (same : ∀ a, bytes' (answer a) = bytes a) (message : Message R)
    (x : Except Stop α) : message.mark bytes' (x.map answer) = message.mark bytes x := by
  cases x with
  | ok a => cases message <;> simp only [mark, Mark.saved, Mark.removed, Except.map, same]
  | error stop => cases message <;> rfl

theorem Serves.local_handle (serves : Serves kind controller) (own : call.kind = some kind)
    (kept : KindKept Spec Status kind t) {message : Message (Resource Spec Status)}
    (acts : message.ActsAt kind t text p) :
    Local Spec Status t ⟨fun _ => text, 0⟩ p (controller.handle call message)
      (message.mark Resource.encode) := by
  cases acts with
  | create unchosen vacant =>
    refine local_create unchosen vacant kept ?_ fun w t' stored => serves.created stored own
    exact serves.creates own fun slug resolved _ _ alike => alike.found _ slug ⟨rfl, resolved⟩
  | update chosen =>
    refine local_renew kept (serves.updates own chosen fun _ _ alike => alike.under) ?_
    intro w t' stored
    refine (serves.updated stored own).imp ?_ fun _ _ stored' => stored'
    rintro r w' ⟨⟨old, revised⟩, stored'⟩
    -- The input has an id, so it is what is held under it that is updated.
    obtain ⟨state, ⟨slug, -, rfl⟩, ⟨-, held⟩ | ⟨unchosen, -⟩⟩ := revised.meant
    · exact ⟨⟨old, held, revised.nextVersion⟩, stored'⟩
    · exact absurd unchosen chosen
  | delete id =>
    rw [Controller.handle, serves.deletes]
    exact local_remove own id

end Services

theorem local_updateStatus {t : Table} {ids : Supply String} {call : Call}
    {input : WorkflowExecution} (own : call.kind = some .workflowExecution)
    (kept : KindKept ExecutionSpec ExecutionStatus .workflowExecution t) (chosen : input.id ≠ "") :
    Local ExecutionSpec ExecutionStatus t ids
      (.held ExecutionSpec ExecutionStatus .workflowExecution t input.id)
      (Executions.updateStatus call input) (.saved Resource.encode) := by
  refine local_renew kept (even_updateStatus own chosen fun _ _ alike => alike.under) ?_
  intro w t' stored
  refine (announces_updateStatus _ stored own).outlines.imp ?_ fun _ _ stored' => stored'
  rintro r w' ⟨⟨old, moved⟩, stored'⟩
  rcases moved.meant with ⟨-, held⟩ | ⟨unchosen, -⟩
  · exact ⟨⟨old, held, moved.nextVersion⟩, stored'⟩
  · exact absurd unchosen chosen

/-! ### The daemon -/

section Daemon

variable {t : Table} {p : Place} {text : String} {call : Call}

/-- The work acts at the place, on resources of the types that the daemon has for its kind. -/
inductive ActsLocally (t : Table) (ids : Supply String) (p : Place)
    (work : Op WorkflowExecution Answer) (mark : Except Stop Answer → Mark) : Prop where
  | instances (own : p.kind = .agentInstance)
    (acts : Local AgentInstanceSpec Unit t ids p work mark) : ActsLocally t ids p work mark
  | executions (own : p.kind = .workflowExecution)
    (acts : Local ExecutionSpec ExecutionStatus t ids p work mark) : ActsLocally t ids p work mark

/-- What an operation does to the value at its place. -/
def Daemon.Operation.mark : Operation → Except Stop Answer → Mark
  | .agents message => message.mark Answer.bytes
  | .instances message => message.mark Answer.bytes
  | .executions message => message.mark Answer.bytes
  | .status _ => .saved Answer.bytes

theorem actsLocally_answer (config : Config) {operation : Operation} (kept : TableKept t)
    (own : call.kind = some operation.kind) (acts : operation.ActsAt t text p) :
    ActsLocally t ⟨fun _ => text, 0⟩ p (operation.answer config call) operation.mark := by
  cases acts with
  | instances acts =>
    refine .instances (by cases acts <;> rfl) ?_
    exact ((serves_instances config).local_handle own kept.instances acts).answer _
      (Message.mark_map (fun _ => rfl) _)
  | executions acts =>
    refine .executions (by cases acts <;> rfl) ?_
    exact ((serves_executions config).local_handle own kept.executions acts).answer _
      (Message.mark_map (fun _ => rfl) _)
  | status chosen =>
    refine .executions rfl ((local_updateStatus own kept.executions chosen).answer _ fun x => ?_)
    cases x <;> rfl

/-- What the work leaves. -/
theorem ActsLocally.leaves {ids : Supply String} {work : Op WorkflowExecution Answer}
    {mark : Except Stop Answer → Mark} (acts : ActsLocally t ids p work mark) {w : DaemonWorld}
    {t' : Table} (stored : w.store.backing = .memory t') (drawn : w.ids = ids)
    (kept : TableKept t') :
    (work.outcome w).2.store.backing = .memory ((mark (work.outcome w).1).on p.key t') := by
  cases acts with
  | instances own acts => exact acts.leaves w t' stored drawn (own ▸ kept.instances)
  | executions own acts => exact acts.leaves w t' stored drawn (own ▸ kept.executions)

/-- Work at one place answers the same before and after work at another. -/
theorem ActsLocally.unmoved {q : Place} {ids ids' : Supply String}
    {work work' : Op WorkflowExecution Answer} {mark mark' : Except Stop Answer → Mark}
    (acts : ActsLocally t ids p work mark) (others : ActsLocally t ids' q work' mark')
    (apart : p.Apart q) (kept : TableKept t) {u : DaemonWorld}
    (stored : u.store.backing = .memory t) (drawn : u.ids = ids') {t' : Table}
    (left : t' = (mark' (work'.outcome u).1).on q.key t)
    (kept' : TableKept t') {w w' : DaemonWorld}
    (beside : ∀ A : Table → Table → Prop, A t t' → Beside A w w') :
    (work.outcome w).1 = (work.outcome w').1 := by
  have elsewhere : ∀ key, key ≠ q.key → t'.get? key = t.get? key :=
    fun _ other => left ▸ Mark.get?_on_of_ne _ other
  -- What the other work finds and leaves at its place has none of the natural keys looked for.
  cases acts with
  | instances own acts =>
    refine acts.unmoved (own ▸ kept.instances) (own ▸ kept'.instances) apart.key elsewhere
      (fun same r held named => ?_) beside
    cases others with
    | instances _ others =>
      exact apart.names same _ _ named (others.names u stored drawn r (left ▸ held))
    | executions own' _ => cases own.symm.trans (same.trans own')
  | executions own acts =>
    refine acts.unmoved (own ▸ kept.executions) (own ▸ kept'.executions) apart.key elsewhere
      (fun same r held named => ?_) beside
    cases others with
    | instances own' _ => cases own.symm.trans (same.trans own')
    | executions _ others =>
      exact apart.names same _ _ named (others.names u stored drawn r (left ▸ held))

/-! ## Either order -/

/-- The two errands can be run in either order: each of them answers the same, and the same is
stored afterwards. -/
structure Commute (config : Config) (w : DaemonWorld) (a b : Errand) : Prop where
  first : (a.outcome config w).1 = (a.outcome config (b.take config w)).1
  second : (b.outcome config w).1 = (b.outcome config (a.take config w)).1
  stored : ∃ t t', (b.take config (a.take config w)).store.backing = .memory t ∧
    (a.take config (b.take config w)).store.backing = .memory t' ∧
    ∀ key, t.get? key = t'.get? key

variable {config : Config} {w : DaemonWorld} {a b : Errand} {q : Place}

/-- What an errand finds after another is the same but for the table. -/
theorem Daemon.Errand.beside (a : Errand) (stored : w.store.backing = .memory t) {w' : DaemonWorld}
    {t' : Table} (stored' : w'.store.backing = .memory t') (A : Table → Table → Prop)
    (related : A t t') : Beside A (a.meet w) (a.meet w') :=
  ⟨rfl, rfl, rfl, rfl, rfl, t, t', stored, stored', related⟩

theorem Daemon.Errand.actsLocally (config : Config) (kept : TableKept t)
    (acts : a.operation.ActsAt t a.text p) :
    ActsLocally t a.ids p (a.work config) a.operation.mark :=
  actsLocally_answer config kept (a.conditions.kind_served a.operation.kind) acts

/-- What an errand leaves, over the table at the start or over another, is well kept. -/
theorem Daemon.Errand.left (tended : Tended w) {t' : Table} (kept : TableKept t')
    (stored : w.store.backing = .memory t')
    (acts : ActsLocally t a.ids p (a.work config) a.operation.mark) :
    (a.take config w).store.backing =
        .memory ((a.operation.mark (a.outcome config w).1).on p.key t') ∧
      TableKept ((a.operation.mark (a.outcome config w).1).on p.key t') := by
  have met : (a.meet w).store.backing = .memory t' := stored
  have stored' := acts.leaves met rfl kept
  obtain ⟨t'', same, kept'⟩ := (a.tended_take config tended).kept
  obtain rfl := Backing.memory.inj (stored'.symm.trans same)
  exact ⟨stored', kept'⟩

/-- One errand answers the same after the other. -/
theorem Daemon.Errand.unmoved (kept : TableKept t) (tended : Tended w)
    (stored : w.store.backing = .memory t)
    (mine : ActsLocally t a.ids p (a.work config) a.operation.mark)
    (yours : ActsLocally t b.ids q (b.work config) b.operation.mark) (apart : p.Apart q) :
    (a.outcome config w).1 = (a.outcome config (b.take config w)).1 := by
  obtain ⟨stored', kept'⟩ := b.left tended kept stored yours
  have met : (b.meet w).store.backing = .memory t := stored
  exact mine.unmoved yours apart kept met rfl rfl kept' (a.beside stored stored')

theorem commute_of_actsAt (tended : Tended w) (stored : w.store.backing = .memory t)
    (kept : TableKept t) (mine : a.operation.ActsAt t a.text p)
    (yours : b.operation.ActsAt t b.text q) (apart : p.Apart q) : Commute config w a b := by
  have mine := a.actsLocally config kept mine
  have yours := b.actsLocally config kept yours
  have first := a.unmoved kept tended stored mine yours apart
  have second := b.unmoved kept tended stored yours mine apart.symm
  obtain ⟨afterMine, keptMine⟩ := a.left tended kept stored mine
  obtain ⟨afterYours, keptYours⟩ := b.left tended kept stored yours
  -- Each answers the same both times, so it does the same to the value at its place.
  have last : (b.take config (a.take config w)).store.backing =
      .memory ((b.operation.mark (b.outcome config w).1).on q.key
        ((a.operation.mark (a.outcome config w).1).on p.key t)) := by
    rw [second]
    exact (b.left (a.tended_take config tended) keptMine afterMine yours).1
  have last' : (a.take config (b.take config w)).store.backing =
      .memory ((a.operation.mark (a.outcome config w).1).on p.key
        ((b.operation.mark (b.outcome config w).1).on q.key t)) := by
    rw [first]
    exact (a.left (b.tended_take config tended) keptYours afterYours mine).1
  exact ⟨first, second, _, _, last, last', Mark.on_on_comm _ _ apart.key⟩

/-- In every store that is reached, two operations can be done in either order that are for creating
under a new id, for updating by id, for a change of status by id or for deleting by id, and are for
different keys and, if of one kind, for different natural keys. -/
theorem commute_reached (config : Config) (timeline : Timeline) (clock : Supply Timestamp)
    (ids : Supply String) (turns : List Turn) (a b : Errand) (t : Table) (p q : Place)
    (stored : (reached config timeline clock ids turns).store.backing = .memory t)
    (mine : a.operation.ActsAt t a.text p) (yours : b.operation.ActsAt t b.text q)
    (apart : p.Apart q) : Commute config (reached config timeline clock ids turns) a b := by
  have tended := tended_reached config timeline clock ids turns
  obtain ⟨t', stored', kept⟩ := tended.kept
  obtain rfl : t = t' := Backing.memory.inj (stored.symm.trans stored')
  exact commute_of_actsAt tended stored kept mine yours apart

end Daemon

/-- An agent instance with a name, for which nothing else is chosen. -/
def namedInstance (name : String) : AgentInstance where
  metadata := { name := name }
  spec := { agentId := "agt-1" }
  status := ()

/-- Its creation in calm, under an id made of a text. -/
def creation (name text : String) : Errand where
  operation := .instances (.create (namedInstance name))
  conditions := .free
  text := text

/-- Two instances with different names can be created in either order. -/
theorem commute_reached_creations : ∃ t p q,
    (reached {} {} Conditions.free.clock ⟨fun _ => "0", 0⟩ []).store.backing = .memory t ∧
    (creation "First" "1").operation.ActsAt t "1" p ∧
    (creation "Second" "2").operation.ActsAt t "2" q ∧ p.Apart q ∧
    Commute {} (reached {} {} Conditions.free.clock ⟨fun _ => "0", 0⟩ []) (creation "First" "1")
      (creation "Second" "2") := by
  have apart : Place.Apart
      (.fresh .agentInstance (Kind.agentInstance.id "1") (namedInstance "First"))
      (.fresh .agentInstance (Kind.agentInstance.id "2") (namedInstance "Second")) := by
    refine ⟨by decide, ?_⟩
    rintro - scope slug ⟨-, named⟩ ⟨-, named'⟩
    have first : resolvedSlug (namedInstance "First").metadata = .ok "first" := by decide
    have second : resolvedSlug (namedInstance "Second").metadata = .ok "second" := by decide
    have same := Except.ok.inj ((first.symm.trans named).trans (named'.symm.trans second))
    exact absurd same (by decide)
  have first : (creation "First" "1").operation.ActsAt .empty "1" _ :=
    .instances (.create rfl rfl)
  have second : (creation "Second" "2").operation.ActsAt .empty "2" _ :=
    .instances (.create rfl rfl)
  exact ⟨.empty, _, _, rfl, first, second, apart,
    commute_reached _ _ _ _ _ _ _ _ _ _ rfl first second apart⟩

end Steward

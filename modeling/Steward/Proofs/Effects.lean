import Steward.Catalog.All
import Steward.Proofs.Ends
import Steward.Proofs.Holdings
import Steward.Proofs.Waits

/-!
# What operations do to values in memory

The operations of the catalog over a table in memory, whatever the front was told, however long the
store takes and whenever the call is stopped: most of them only read, storing puts one value in
place and removing takes one away. Main statements: `reads_load`, `reads_findByKey`,
`ends_persistResource` and `ends_delete`.
-/

namespace Steward

open Store

/-! ## Interceptors -/

/-- What an interceptor remembers is what it would find. -/
def Interceptor.Agrees (i : Interceptor) : Prop :=
  ∀ service kind, i.remembered.lookup service = some kind → kind = i.lookUp service

/-- An interceptor that remembers what it would find resolves to what it would find. -/
theorem Interceptor.Agrees.resolve {i : Interceptor} (agrees : i.Agrees) (method : String) :
    (i.resolve method).1 = (serviceOf? method).bind i.lookUp ∧ (i.resolve method).2.Agrees ∧
      (i.resolve method).2.declared = i.declared := by
  unfold Interceptor.resolve
  split
  · next missing => simpa [missing] using agrees
  · next service found =>
    split
    · next kind remembered =>
      simpa [found, agrees service kind remembered] using agrees
    · next unknown =>
      refine ⟨by simp [found], ?_, rfl⟩
      intro other kind known
      rw [List.lookup_append] at known
      cases earlier : i.remembered.lookup other with
      | some kind' =>
        rw [earlier, Option.some_or] at known
        rw [← Option.some.inj known]
        exact agrees other kind' earlier
      | none =>
        rw [earlier, Option.none_or, List.lookup_cons] at known
        split at known
        · next same =>
          obtain rfl := eq_of_beq same
          exact (Option.some.inj known).symm
        · cases known

/-- A call about a service with a declared kind gets this kind. -/
theorem Interceptor.Agrees.intercept {i : Interceptor} (agrees : i.Agrees)
    {method service : String} {kind : Kind} (found : serviceOf? method = some service)
    (known : i.lookUp service = some kind) (call : Call) :
    (i.intercept method call).1 = call.withKind kind ∧ (i.intercept method call).2.Agrees ∧
      (i.intercept method call).2.declared = i.declared := by
  obtain ⟨kinds, agrees', same⟩ := agrees.resolve method
  rw [found, Option.bind_some, known] at kinds
  unfold Interceptor.intercept
  split
  · next kind' i' resolved =>
    rw [resolved] at kinds agrees' same
    exact ⟨by rw [Option.some.inj kinds], agrees', same⟩
  · next i' resolved =>
    rw [resolved] at kinds
    cases kinds

/-! ## Worlds with a table -/

section Worlds

variable {Item α β : Type}

/-- `w'` is what may have become of `w`, with `t` as the table in memory: nothing was handed to
those who listen, the same services are declared, what the interceptor remembers is right if it was,
texts have only been drawn, and nothing new is in store for the front of the store or for a call. -/
structure Leads (w : World Item) (t : Table) (w' : World Item) : Prop where
  stored : w'.store.backing = .memory t
  broker : w'.broker = w.broker
  declared : w'.interceptor.declared = w.interceptor.declared
  agrees : w.interceptor.Agrees → w'.interceptor.Agrees
  draw : w'.ids.draw = w.ids.draw
  used : w.ids.used ≤ w'.ids.used
  faultless : w.store.faults = {} → w'.store.faults = {}
  undisturbed : ∀ call, w.timeline.Undisturbed call → w'.timeline.Undisturbed call

variable {w w' w'' : World Item} {t t' : Table}

theorem Leads.refl (stored : w.store.backing = .memory t) : Leads w t w :=
  ⟨stored, rfl, rfl, id, rfl, Nat.le_refl _, id, fun _ still => still⟩

theorem Leads.trans (first : Leads w t w') (second : Leads w' t' w'') : Leads w t' w'' where
  stored := second.stored
  broker := second.broker.trans first.broker
  declared := second.declared.trans first.declared
  agrees := second.agrees ∘ first.agrees
  draw := second.draw.trans first.draw
  used := Nat.le_trans first.used second.used
  faultless := second.faultless ∘ first.faultless
  undisturbed call still := second.undisturbed call (first.undisturbed call still)

/-- Handing something on in both worlds. -/
theorem Leads.announce (leads : Leads w t w') (hand : Broker Item → Broker Item) :
    Leads { w with broker := hand w.broker } t { w' with broker := hand w'.broker } :=
  { leads with broker := congrArg hand leads.broker }

/-- The same as `Leads` but for what was handed to those who listen. -/
def LeadsAside (w : World Item) (t : Table) (w' : World Item) : Prop :=
  ∃ broker, Leads { w with broker := broker } t w'

theorem Leads.aside (leads : Leads w t w') : LeadsAside w t w' :=
  ⟨w.broker, leads⟩

theorem LeadsAside.after (second : LeadsAside w' t' w'') (first : Leads w t w') :
    LeadsAside w t' w'' := by
  obtain ⟨broker, second⟩ := second
  exact ⟨broker, (first.announce fun _ => broker).trans second⟩

/-- What has only happened to the timeline and to the readings of the clock. -/
theorem Leads.pass (stored : w.store.backing = .memory t) {timeline : Timeline}
    (undisturbed : ∀ call, w.timeline.Undisturbed call → timeline.Undisturbed call)
    (clock : Supply Timestamp) :
    Leads w t { w with timeline := timeline, clock := clock } :=
  ⟨stored, rfl, rfl, id, rfl, Nat.le_refl _, id, undisturbed⟩

/-- What has only happened to the store. -/
theorem Leads.keep {store : Store} (stored : store.backing = .memory t)
    (faultless : w.store.faults = {} → store.faults = {}) :
    Leads w t { w with store := store } :=
  ⟨stored, rfl, rfl, id, rfl, Nat.le_refl _, faultless, fun _ still => still⟩

/-- The operation leaves the table as it is, however it ends. If it ends with a value, `Q` holds of
the value. -/
def Reads (op : Op Item α) (w : World Item) (t : Table) (Q : α → Prop) : Prop :=
  Ends op w (fun a w' => Leads w t w' ∧ Q a) fun _ w' => Leads w t w'

namespace Reads

variable {P : β → Prop} {Q : α → Prop}

theorem pure (stored : w.store.backing = .memory t) {a : α} (holds : Q a) :
    Reads (Pure.pure a : Op Item α) w t Q :=
  ⟨.refl stored, holds⟩

theorem fail (stored : w.store.backing = .memory t) (failure : Failure) :
    Reads (Op.fail failure : Op Item α) w t Q :=
  Leads.refl stored

theorem modifyGet {f : World Item → α × World Item} (leads : Leads w t (f w).2)
    (holds : Q (f w).1) : Reads (MonadState.modifyGet f : Op Item α) w t Q :=
  ⟨leads, holds⟩

theorem ends {op : Op Item β} {Q' : β → World Item → Prop} {E : Stop → World Item → Prop}
    (reads : Reads op w t P) (next : ∀ b w', Leads w t w' → P b → Q' b w')
    (halted : ∀ stop w', Leads w t w' → E stop w') : Ends op w Q' E :=
  Ends.imp reads (fun b w' ⟨leads, holds⟩ => next b w' leads holds) halted

theorem bind {op : Op Item β} {next : β → Op Item α} (first : Reads op w t P)
    (rest : ∀ b w', Leads w t w' → P b → Reads (next b) w' t Q) : Reads (op >>= next) w t Q := by
  unfold Reads
  rw [ends_bind]
  refine first.ends (fun b w' leads holds => ?_) fun _ _ leads => leads
  refine (rest b w' leads holds).ends (fun a w'' more holds' => ?_) fun _ _ more => leads.trans more
  exact ⟨leads.trans more, holds'⟩

end Reads

/-! ## Operations of the store -/

/-- The stop is one with which the call breaks off what is done on its behalf, and something was in
store for the call. -/
structure Halts (call : Call) (w : World Item) (stop : Stop) : Prop where
  halt : stop = .failed .cancelled ∨ stop = .failed .deadlineExceeded
  disturbed : ¬ w.timeline.Undisturbed call

theorem Halts.of_leads {call : Call} {stop : Stop} (leads : Leads w t w')
    (halts : Halts call w' stop) : Halts call w stop :=
  ⟨halts.halt, fun still => halts.disturbed (leads.undisturbed call still)⟩

theorem halts_of_check {call : Call} {failure : Failure}
    (failed : w.timeline.check call = .error failure) : Halts call w (.failed failure) := by
  refine ⟨(Timeline.stopped_check failed).imp (congrArg _) (congrArg _), fun still => ?_⟩
  rw [still.check] at failed
  cases failed

/-- A guarded effect happens later, while the call is alive, or the call is stopped before it. -/
theorem ends_guarded {call : Call} {duration : Nat} {effect : Op Item α}
    {Q : α → World Item → Prop} {E : Stop → World Item → Prop}
    (stored : w.store.backing = .memory t)
    (happens : ∀ timeline, Leads w t { w with timeline := timeline } →
      timeline.check call = .ok () → Ends effect { w with timeline := timeline } Q E)
    (stopped : ∀ stop timeline, Leads w t { w with timeline := timeline } → Halts call w stop →
      E stop { w with timeline := timeline }) :
    Ends (Op.guarded call duration effect) w Q E := by
  have leads : Leads w t { w with
      timeline := (w.timeline.await call (some (w.timeline.wake duration))).2 } :=
    .pass stored (fun _ still => still.await _ _) w.clock
  unfold Op.guarded
  rw [ends_bind, ends_onTimeline]
  split
  · next failure halted =>
    refine stopped _ _ leads ⟨(Timeline.stopped_await halted).imp (congrArg _) (congrArg _), ?_⟩
    intro still
    rw [still.await_over] at halted
    cases halted
  · next running =>
    refine happens _ leads (Timeline.check_of_await ?_)
    rcases ended : (w.timeline.await call (some (w.timeline.wake duration))).1 with _ | failure | _
    · rfl
    · exact absurd ended (running failure)
    · exact absurd ended (Timeline.await_ne_endless _)

/-- An operation of the store is guarded for as long as the store takes. -/
theorem ends_delayed {call : Call} {effect : Op Item α} {Q : α → World Item → Prop}
    {E : Stop → World Item → Prop} (stored : w.store.backing = .memory t)
    (happens : ∀ timeline, Leads w t { w with timeline := timeline } →
      timeline.check call = .ok () → Ends effect { w with timeline := timeline } Q E)
    (stopped : ∀ stop timeline, Leads w t { w with timeline := timeline } → Halts call w stop →
      E stop { w with timeline := timeline }) :
    Ends (do Op.guarded call (← Op.storeDelay) effect : Op Item α) w Q E := by
  unfold Op.storeDelay
  simp only [ends_bind, ends_get, ends_pure]
  exact ends_guarded stored happens stopped

variable (call : Call) (key : Key)

theorem reads_fetch (stored : w.store.backing = .memory t) :
    Reads (Op.fetch call key : Op Item _) w t fun answer =>
      ∀ bytes, answer = .ok bytes → t.get? key = some bytes := by
  refine ends_delayed stored (fun timeline leads _ => ?_) fun stop timeline leads _ => leads
  rw [ends_onStore]
  unfold Store.get
  dsimp only
  split
  · next failure told =>
    refine ⟨leads.trans (.keep stored fun none => ?_), nofun⟩
    rw [none] at told
    cases told
  · rw [stored]
    dsimp only
    refine ⟨leads, fun bytes found => ?_⟩
    unfold Table.fetch at found
    split at found
    · next value there =>
      cases found
      exact there
    · cases found

theorem reads_list (stored : w.store.backing = .memory t) (name : String) :
    Reads (Op.list call name : Op Item _) w t fun answer =>
      ∀ values, answer = .ok values → values = t.valuesOf name := by
  refine ends_delayed stored (fun timeline leads _ => ?_) fun stop timeline leads _ => leads
  rw [ends_onStore]
  unfold Store.list
  dsimp only
  split
  · next failure told =>
    refine ⟨leads.trans (.keep stored fun none => ?_), nofun⟩
    rw [none] at told
    cases told
  · refine ⟨leads, fun values found => ?_⟩
    unfold Store.contents at found
    dsimp only at found
    rw [stored] at found
    exact (Except.ok.inj found).symm

/-- A value that is accepted is in place afterwards, and the call is still alive. -/
theorem ends_put (stored : w.store.backing = .memory t) (value : ByteArray) :
    Ends (Op.put call key value : Op Item _) w
      (fun answer w' => (answer = .ok () ∧ Leads w (t.put key value) w' ∧
          checkKey key = .ok () ∧ w'.timeline.check call = .ok ()) ∨
        ((∃ failure, answer = .error failure) ∧ Leads w t w'))
      fun _ w' => Leads w t w' := by
  refine ends_delayed stored (fun timeline leads live => ?_) fun stop timeline leads _ => leads
  unfold Op.storePut
  rw [ends_bind, ends_get]
  dsimp only
  rw [stored]
  dsimp only
  rw [ends_onStore]
  unfold Store.put
  dsimp only
  split
  · next failure told =>
    refine Or.inr ⟨⟨_, rfl⟩, leads.trans (.keep stored fun none => ?_)⟩
    rw [none] at told
    cases told
  · rw [stored]
    dsimp only
    unfold Table.store
    cases accepted : checkKey key with
    | ok done => exact Or.inl ⟨rfl, leads.trans (.keep rfl id), rfl, live⟩
    | error failure => exact Or.inr ⟨⟨failure, rfl⟩, leads⟩

/-- A value that is removed is gone afterwards. -/
theorem ends_delete (stored : w.store.backing = .memory t) :
    Ends (Op.delete call key : Op Item _) w
      (fun answer w' => (answer = .ok () ∧ Leads w (t.erase key) w') ∨
        ((∃ failure, answer = .error failure) ∧ Leads w t w'))
      fun _ w' => Leads w t w' := by
  refine ends_delayed stored (fun timeline leads _ => ?_) fun stop timeline leads _ => leads
  rw [ends_onStore]
  unfold Store.delete
  dsimp only
  split
  · next failure told =>
    refine Or.inr ⟨⟨_, rfl⟩, leads.trans (.keep stored fun none => ?_)⟩
    rw [none] at told
    cases told
  · rw [stored]
    dsimp only
    unfold Table.remove
    cases t.get? key with
    | some value => exact Or.inl ⟨rfl, leads.trans (.keep rfl id)⟩
    | none => exact Or.inr ⟨⟨_, rfl⟩, leads⟩

end Worlds

/-! ## Operations of the catalog -/

section Catalog

open Catalog

variable {Item Spec Status : Type} [Managed Spec Status] {w : World Item} {t : Table} (call : Call)
  (kind : Kind)

theorem reads_load (stored : w.store.backing = .memory t) (id : String) :
    Reads (load call kind id : Op Item (Resource Spec Status)) w t (Holds kind t id) := by
  refine (reads_fetch call _ stored).bind fun answer w' leads found => ?_
  cases answer with
  | error failure => exact .fail leads.stored _
  | ok bytes =>
    cases read : (Resource.decode bytes : Except _ (Resource Spec Status)) with
    | error failure => simpa only [read] using .fail leads.stored _
    | ok r => simpa only [read] using .pure leads.stored ⟨bytes, found bytes rfl, read⟩

/-- What is found for a natural key is what is held under it. -/
theorem reads_findByKey (stored : w.store.backing = .memory t) (scope : OwnerScope)
    (slug : String) :
    Reads (findByKey call kind scope slug : Op Item (List (Resource Spec Status))) w t
      fun found => ∀ r, r ∈ found ↔
        (∃ id, Holds kind t id r) ∧ r.metadata.scope = scope ∧ r.metadata.slug = slug := by
  refine (reads_list call stored kind.name).bind fun answer w' leads listed => ?_
  cases read : (answer.bind decodeAll : Except _ (List (Resource Spec Status))) with
  | error failure => simpa only [read] using .fail leads.stored _
  | ok resources =>
    cases answer with
    | error failure => cases read
    | ok values =>
      obtain rfl := listed values rfl
      refine .pure leads.stored fun r => ?_
      rw [List.mem_filter, mem_decodeAll read, hasKey_iff]

omit [Managed Spec Status] in
/-- The only resource among those found, where there are not several. -/
theorem reads_unique? (stored : w.store.backing = .memory t) (slug : String) (scope : OwnerScope)
    (found : List (Resource Spec Status)) :
    Reads (unique? kind slug scope found : Op Item _) w t fun only => found = only.toList := by
  match found with
  | [] => exact .pure stored rfl
  | [resource] => exact .pure stored rfl
  | _ :: _ :: _ => exact .fail stored _

theorem reads_loadByKey (stored : w.store.backing = .memory t) (scope : OwnerScope)
    (slug : String) :
    Reads (loadByKey call kind scope slug : Op Item (Resource Spec Status)) w t fun r =>
      (∃ id, Holds kind t id r) ∧ r.metadata.scope = scope ∧ r.metadata.slug = slug := by
  refine (reads_findByKey call kind stored scope slug).bind fun found w' leads listed => ?_
  refine (reads_unique? kind leads.stored slug scope found).bind fun only w'' more same => ?_
  cases only with
  | none => exact .fail more.stored _
  | some r => exact .pure more.stored ((listed r).1 (by simp [same]))

/-- The id of a new resource is the one that the caller chose, or else made of a text that was not
drawn before. -/
def IdFor (kind : Kind) (ids : Supply String) (chosen id : String) : Prop :=
  (chosen ≠ "" ∧ id = chosen) ∨
    (chosen = "" ∧ ∃ n, ids.used ≤ n ∧ id = kind.id (ids.draw n))

/-- A text drawn later was not drawn before either. -/
theorem IdFor.of_leads {kind : Kind} {w w' : World Item} {t : Table} {chosen id : String}
    (leads : Leads w t w') (named : IdFor kind w'.ids chosen id) : IdFor kind w.ids chosen id := by
  refine named.imp_right fun ⟨unchosen, n, later, made⟩ => ?_
  rw [leads.draw] at made
  exact ⟨unchosen, n, Nat.le_trans leads.used later, made⟩

theorem reads_idOrNew (stored : w.store.backing = .memory t) (chosen : String) :
    Reads (idOrNew kind chosen : Op Item String) w t (IdFor kind w.ids chosen) := by
  unfold idOrNew
  split
  · next none =>
    refine Reads.bind (P := fun unique => unique = w.ids.draw w.ids.used) (.modifyGet ?_ rfl) ?_
    · exact ⟨stored, rfl, rfl, id, rfl, Nat.le_succ _, id, fun _ still => still⟩
    · rintro unique w' leads rfl
      exact .pure leads.stored (Or.inr ⟨none, w.ids.used, Nat.le_refl _, rfl⟩)
  · next some => exact .pure stored (Or.inl ⟨some, rfl⟩)

/-- A resource that is stored is in place under its id afterwards, and the call is still alive. -/
theorem ends_persistResource (stored : w.store.backing = .memory t) (r : Resource Spec Status) :
    Ends (persistResource call kind r : Op Item Unit) w
      (fun _ w' => Leads w (t.put ⟨kind.name, r.id⟩ r.encode) w' ∧
        checkKey ⟨kind.name, r.id⟩ = .ok () ∧ w'.timeline.check call = .ok ())
      fun _ w' => Leads w t w' := by
  simp only [persistResource, ends_unless]
  refine ⟨fun _ => .refl stored, fun _ => ?_⟩
  rw [ends_bind]
  refine (ends_put call _ stored r.encode).imp (fun answer w' done => ?_) fun _ _ leads => leads
  rcases done with ⟨rfl, placed⟩ | ⟨⟨failure, rfl⟩, leads⟩
  · exact placed
  · exact leads

end Catalog

end Steward

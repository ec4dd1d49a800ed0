import Steward.Proofs.Alterations

/-!
# All or nothing

A message to the service of agent instances that is answered with a failure has changed nothing in
the table, whenever the call was stopped and whatever the store was told to fail at: the one
operation that changes the table comes last, and once it has happened nothing stops the call any
more. A message that is answered with a resource has changed the table under the key of this
resource and nowhere else. Main statement: `atomic_reached`.
-/

namespace Steward

open Store Daemon

/-! ## Tables that differ under one key -/

/-- The tables differ under the key, and there alone. -/
structure DifferAt (key : Key) (t t' : Table) : Prop where
  there : t'.get? key ≠ t.get? key
  elsewhere : ∀ other, other ≠ key → t'.get? other = t.get? other

section Tables

variable {t : Table} {key : Key}

theorem differAt_put {value : ByteArray} (other : t.get? key ≠ some value) :
    DifferAt key t (t.put key value) := by
  constructor
  · rw [Table.get?_put_self]
    exact Ne.symm other
  · intro k apart
    exact Table.get?_put_of_ne apart

theorem differAt_erase {value : ByteArray} (found : t.get? key = some value) :
    DifferAt key t (t.erase key) := by
  constructor
  · rw [Table.get?_erase, if_pos rfl, found]
    exact nofun
  · intro k apart
    rw [Table.get?_erase, if_neg apart]

end Tables

section Values

variable {Spec Status : Type} [Managed Spec Status] [LawfulManaged Spec Status] {kind : Kind}
  {t t' : Table} {input old r : Resource Spec Status}

/-- What was under the id of a new resource, if anything, was another resource. -/
theorem Created.differAt {ids : Supply String} (created : Created kind t ids input r) :
    DifferAt ⟨kind.name, r.id⟩ t (stow kind t r) := by
  refine differAt_put fun taken => ?_
  have other : r.encode ≠ r.encode := ne_encode_of_free created.sound created.free taken
  exact other rfl

omit [Managed Spec Status] [LawfulManaged Spec Status] in
theorem ChangedLater.ne (later : ChangedLater old r) : r ≠ old := by
  rintro rfl
  obtain ⟨before, moment, changed, changed', less⟩ := later
  obtain rfl : before = moment := Option.some.inj (changed.symm.trans changed')
  exact Timestamp.lt_irrefl before less

/-- The next version of a resource was changed later, so it is another value. -/
theorem Revised.differAt [Permanent Spec Status] (kept : KindKept Spec Status kind t)
    (revised : Revised kind t input old r) : DifferAt ⟨kind.name, r.id⟩ t (stow kind t r) := by
  have advances := revised.advances kept
  obtain ⟨bytes, found, read⟩ := advances.before
  obtain ⟨bytes', found', read'⟩ := advances.after
  obtain rfl : r.encode = bytes' := Option.some.inj (Table.get?_put_self.symm.trans found')
  refine differAt_put fun taken => ?_
  obtain rfl : bytes = r.encode := Option.some.inj (found.symm.trans taken)
  exact advances.later.ne (Except.ok.inj (read'.symm.trans read))

end Values

/-! ## Messages that are answered -/

section Messages

variable {Spec Status : Type} [Managed Spec Status]

/-- What is under the key of the answer once a message that writes is answered: nothing after a
removal, and otherwise the answer. -/
def Message.leaves (r : Resource Spec Status) :
    Message (Resource Spec Status) → Option ByteArray
  | .delete _ => none
  | _ => some r.encode

/-- What a message asks for was done with the answer given, or nothing was done. -/
structure Atomic (kind : Kind) (message : Message (Resource Spec Status)) (t t' : Table)
    (answer : Except Stop (Resource Spec Status)) : Prop where
  halted : ∀ stop, answer = .error stop → t' = t
  read : ∀ r, answer = .ok r → message.Reads → t' = t
  written : ∀ r, answer = .ok r → ¬ message.Reads →
    DifferAt ⟨kind.name, r.id⟩ t t' ∧ t'.get? ⟨kind.name, r.id⟩ = message.leaves r

variable {kind : Kind} {t t' : Table} {message : Message (Resource Spec Status)}
  {r : Resource Spec Status}

theorem Atomic.of_halted {stop : Stop} : Atomic kind message t t (.error stop) := by
  refine ⟨fun _ _ => rfl, fun r same => ?_, fun r same => ?_⟩
  all_goals cases same

/-- What calls for a creation or for an update does not delete. -/
theorem Message.Creating.leaves {input : Resource Spec Status}
    (creating : message.Creating kind t input) : message.leaves r = some r.encode := by
  cases creating <;> rfl

theorem Message.Updating.leaves {input : Resource Spec Status}
    (updating : message.Updating kind t input) : message.leaves r = some r.encode := by
  cases updating <;> rfl

variable [LawfulManaged Spec Status] [Permanent Spec Status]

/-- A message is atomic if the creation that it may call for adds one resource. -/
theorem Message.Writes.atomic {ids : Supply String} (kept : KindKept Spec Status kind t)
    (writes : message.Writes kind t
      (fun input r t' => Created kind t ids input r ∧ t' = stow kind t r) r t') :
    Atomic kind message t t' (.ok r) := by
  refine ⟨fun stop same => absurd same nofun, fun r' same reads => ?_, fun r' same changes => ?_⟩
  · cases writes with
    | create creating => exact absurd reads creating.not_reads
    | update updating => exact absurd reads updating.not_reads
    | delete held => cases reads
    | read => rfl
  · obtain rfl : r = r' := Except.ok.inj same
    cases writes with
    | create creating makes =>
      obtain ⟨created, rfl⟩ := makes
      rw [creating.leaves]
      exact ⟨created.differAt, Table.get?_put_self⟩
    | update updating revised =>
      rw [updating.leaves]
      exact ⟨revised.differAt kept, Table.get?_put_self⟩
    | @delete id _ held =>
      have named : r.id = Text.trim id := (kept.of_holds held).1
      obtain ⟨bytes, found, -⟩ := held
      rw [named]
      refine ⟨differAt_erase found, ?_⟩
      rw [Table.get?_erase, if_pos rfl]
      rfl
    | read reads => exact absurd reads changes

end Messages

/-! ## Every store that is reached -/

/-- In every store that is reached, whatever the call meets: an answer with a failure leaves the
table as it was. An answer with a resource to what asks for a write leaves the table different under
the key of this resource alone, where this resource is now, or nothing if it was to be deleted. -/
theorem atomic_reached (config : Config) (timeline : Timeline) (clock : Supply Timestamp)
    (ids : Supply String) (turns : List Turn) (c : Conditions) (message : Message AgentInstance) :
    ∃ t t', (reached config timeline clock ids turns).store.backing = .memory t ∧
      (((Daemon.instances config).controller.handle (c.served .agentInstance) message).outcome
        (c.meet (reached config timeline clock ids turns))).2.store.backing = .memory t' ∧
      Atomic .agentInstance message t t'
        (((Daemon.instances config).controller.handle (c.served .agentInstance) message).outcome
          (c.meet (reached config timeline clock ids turns))).1 := by
  obtain ⟨t, stored, kept⟩ := (tended_reached config timeline clock ids turns).kept
  have met : (c.meet (reached config timeline clock ids turns)).store.backing = .memory t := stored
  have ends := ends_handleInstances config met (c.kind_served .agentInstance) message
  obtain ⟨r, w', outcome, t', written, leads⟩ | ⟨stop, w', outcome, leads⟩ := ends.outcome_cases
  · rw [outcome]
    exact ⟨t, t', stored, leads.stored, written.atomic kept.instances⟩
  · rw [outcome]
    exact ⟨t, t, stored, leads.stored, .of_halted⟩

end Steward

import Mathlib.Data.List.Induction
import Mathlib.Data.Set.Lattice
import Mathlib.Logic.Relation
import Mathlib.Order.Bounds.Basic
import Steward.Transport.Endpoint

/-!
# Derivations

A family of calls: some are begun, the others are derived from calls that are there already, and
any of them can be cancelled at any time. What becomes of a call is what its line says, the calls
that it comes from up to the one that was begun. Calls share or inherit tokens by the way they were
derived, so `Follows` speaks of derivations only. Main statements: `Sound.act` for one action,
`sound_after` for a history of them, `Sound.share_iff` and `Sound.mem_ancestors` for tokens, and
`follows_line`.
-/

namespace Steward

/-! ## Families of calls -/

/-- How a call is derived from another. -/
inductive Derivation where
  | copy
  | child
  | kind (kind : Kind)
  | deadline (moment : Nat)
  | timeout (duration : Nat)
  /-- The call leaves a client, which may have a timeout. -/
  | send (timeout : Option Nat)
deriving DecidableEq

def Timeline.derive (t : Timeline) (call : Call) : Derivation → Call × Timeline
  | .copy => (call, t)
  | .child => t.child call
  | .kind kind => (call.withKind kind, t)
  | .deadline moment => (call.withDeadline moment, t)
  | .timeout duration => (t.withTimeout call duration, t)
  | .send timeout => (t.outbound timeout call, t)

/-- Where a call comes from: the number of its parent, how it was derived, and when. -/
structure Origin where
  parent : Nat
  derivation : Derivation
  moment : Nat
deriving DecidableEq

/-- The deadline that is set with the derivation. -/
def Origin.limit (o : Origin) : Option Nat :=
  match o.derivation with
  | .deadline moment => some moment
  | .timeout duration => some (o.moment + duration)
  | .send timeout => timeout.map (o.moment + ·)
  | _ => none

/-- The derivation makes no child. -/
def Origin.Shares (o : Origin) : Prop :=
  o.derivation ≠ .child

/-- The derivation makes no child and sets no kind. -/
def Origin.KeepsKind (o : Origin) : Prop :=
  o.derivation ≠ .child ∧ ∀ kind, o.derivation ≠ .kind kind

/-- A call of a family, without an origin if it was begun. -/
structure Member where
  origin : Option Origin := none
  call : Call
deriving DecidableEq

/-- Calls in the order in which they were made, and the numbers of those that were cancelled. -/
structure Family where
  timeline : Timeline := {}
  members : List Member := []
  stopped : List Nat := []

namespace Family

inductive Action where
  | begin
  | derive (parent : Nat) (derivation : Derivation)
  | cancel (member : Nat)
  | elapse (duration : Nat)

/-- Takes in a call along with the timeline that its making leaves. -/
def join (f : Family) (origin : Option Origin) (made : Call × Timeline) : Family :=
  { f with timeline := made.2, members := f.members ++ [⟨origin, made.1⟩] }

/-- The family as an action leaves it. Nothing happens to calls that are not there. -/
def act (f : Family) : Action → Family
  | .begin => f.join none f.timeline.background
  | .derive parent derivation =>
    match f.members[parent]? with
    | some member => f.join (some ⟨parent, derivation, f.timeline.now⟩)
        (f.timeline.derive member.call derivation)
    | none => f
  | .cancel n =>
    match f.members[n]? with
    | some member =>
      { f with timeline := f.timeline.cancel member.call, stopped := n :: f.stopped }
    | none => f
  | .elapse duration => { f with timeline := f.timeline.jump duration }

/-- A family after a history of actions, the first action first. -/
def after (history : List Action) : Family :=
  history.foldl act {}

/-! ## Lines -/

/-- The call `n` has such an origin, and `m` is its parent. -/
def Stage (f : Family) (such : Origin → Prop) (m n : Nat) : Prop :=
  ∃ o call, f.members[n]? = some ⟨some o, call⟩ ∧ o.parent = m ∧ such o

/-- The call `n` comes from `m`, or it is `m`. -/
def Line (f : Family) : Nat → Nat → Prop :=
  Relation.ReflTransGen (f.Stage fun _ => True)

/-- On the line of `n` there is such an origin, and all that come after it are like those that
follow. -/
def Along (f : Family) (such follow : Origin → Prop) (n : Nat) : Prop :=
  ∃ c o call, f.members[c]? = some ⟨some o, call⟩ ∧ such o ∧
    Relation.ReflTransGen (f.Stage follow) c n

/-- Only derivations that make no child lie between the calls, in whichever direction. -/
def Share (f : Family) : Nat → Nat → Prop :=
  Relation.EqvGen (f.Stage Origin.Shares)

/-- The call `n` is a child of `a` or comes from one. -/
def ChildOf (f : Family) (a n : Nat) : Prop :=
  f.Along (fun o => o.derivation = .child ∧ o.parent = a) (fun _ => True) n

/-- The call `m` shares with `n` or with a call that `n` is a child of. -/
def Reaches (f : Family) (m n : Nat) : Prop :=
  ∃ a, f.Share m a ∧ (a = n ∨ f.ChildOf a n)

/-- The call `m` is a child of one that shares with `n`, or comes from such a child. -/
def Below (f : Family) (m n : Nat) : Prop :=
  ∃ a, f.Share a n ∧ f.ChildOf a m

/-- The calls are, or share with, different children of one parent. -/
def Beside (f : Family) (m n : Nat) : Prop :=
  ∃ a b c d, f.Share a b ∧ f.Stage (·.derivation = .child) a c ∧
    f.Stage (·.derivation = .child) b d ∧ c ≠ d ∧ f.Share c m ∧ f.Share d n

/-- The deadlines that were set on the line of a call. -/
def limits (f : Family) (n : Nat) : Set Nat :=
  {moment | f.Along (·.limit = some moment) (fun _ => True) n}

/-- The earliest of some moments, if there are any. -/
def Earliest (moments : Set Nat) : Option Nat → Prop
  | some moment => IsLeast moments moment
  | none => moments = ∅

/-- The call is what its line says. -/
structure Follows (f : Family) (n : Nat) (call : Call) : Prop where
  /-- It is cancelled if and only if a call was cancelled that reaches it. -/
  cancelled : f.timeline.isCancelled call = true ↔ ∃ m ∈ f.stopped, f.Reaches m n
  /-- Neither a descendant nor a sibling takes it along. -/
  spared : ∀ m other, f.members[m]? = some other → f.Below m n ∨ f.Beside m n →
    (f.timeline.cancel other.call).isCancelled call = f.timeline.isCancelled call
  deadline : Earliest (f.limits n) call.deadline
  /-- It does not outlive a call that it comes from. -/
  within : ∀ m other, f.members[m]? = some other → f.Line m n → ∀ moment ∈ other.call.deadline,
    ∃ moment' ∈ call.deadline, moment' ≤ moment
  /-- Its kind is the last one that was set since it was a child. -/
  kind : ∀ kind, call.kind = some kind ↔ f.Along (·.derivation = .kind kind) Origin.KeepsKind n

/-! ## What derived calls inherit -/

/-- What a derived call has from its parent. -/
structure Inherits (o : Origin) (parent call : Call) : Prop where
  ancestors : o.derivation = .child → call.ancestors = parent.tokens
  tokens : o.Shares → call.tokens = parent.tokens
  deadline : call.deadline = Timeline.earlier parent.deadline o.limit
  kind : ∀ kind, call.kind = some kind ↔
    o.derivation = .kind kind ∨ o.KeepsKind ∧ parent.kind = some kind

section Inherits

variable {o : Origin} {call : Call}

/-- A derivation that neither makes a child nor sets a kind keeps the kind there is. -/
theorem kind_iff_of_keepsKind (keeps : o.KeepsKind) (kind : Kind) :
    call.kind = some kind ↔
      o.derivation = .kind kind ∨ o.KeepsKind ∧ call.kind = some kind := by
  simp [keeps, keeps.2 kind]

theorem inherits_self (keeps : o.KeepsKind) (unlimited : o.limit = none) :
    Inherits o call call where
  ancestors child := absurd child keeps.1
  tokens _ := rfl
  deadline := by rw [unlimited]; cases call.deadline <;> rfl
  kind := kind_iff_of_keepsKind keeps

theorem inherits_withDeadline {moment : Nat} (keeps : o.KeepsKind)
    (limited : o.limit = some moment) : Inherits o call (call.withDeadline moment) where
  ancestors child := absurd child keeps.1
  tokens _ := rfl
  deadline := by rw [limited, Call.withDeadline]; cases call.deadline <;> rfl
  kind := kind_iff_of_keepsKind keeps

theorem inherits_derive (t : Timeline) (call : Call) (parent : Nat) (derivation : Derivation) :
    Inherits ⟨parent, derivation, t.now⟩ call (t.derive call derivation).1 := by
  have keep : Timeline.earlier call.deadline none = call.deadline := by cases call.deadline <;> rfl
  cases derivation with
  | copy => exact inherits_self ⟨nofun, nofun⟩ rfl
  | child =>
    refine ⟨fun _ => rfl, fun shares => absurd rfl shares, keep.symm, fun kind => ?_⟩
    simp [Timeline.derive, Timeline.child, Origin.KeepsKind]
  | kind kind =>
    refine ⟨nofun, fun _ => rfl, keep.symm, fun kind' => ?_⟩
    simp [Timeline.derive, Call.withKind, Origin.KeepsKind]
  | deadline moment => exact inherits_withDeadline ⟨nofun, nofun⟩ rfl
  | timeout duration => exact inherits_withDeadline ⟨nofun, nofun⟩ rfl
  | send timeout =>
    cases timeout with
    | none => exact inherits_self ⟨nofun, nofun⟩ rfl
    | some duration => exact inherits_withDeadline ⟨nofun, nofun⟩ rfl

end Inherits

/-! ## Families that have come about -/

/-- How a call joins those that are there. A call that was begun and a child have a token of their
own, which is newer than all others. -/
inductive Joined (others : List Member) : Member → Prop where
  | begun {token : Nat} (new : ∀ other ∈ others, other.call.token < token) :
    Joined others ⟨none, { token }⟩
  | derived {o : Origin} {parent : Member} {call : Call} (there : others[o.parent]? = some parent)
    (inherits : Inherits o parent.call call)
    (new : o.derivation = .child → ∀ other ∈ others, other.call.token < call.token) :
    Joined others ⟨some o, call⟩

/-- Every call has joined those before it, the tokens that are cancelled are those of the calls that
were, and nobody else has been asked to cancel anything. -/
structure Sound (f : Family) : Prop where
  joined : ∀ n member, f.members[n]? = some member → Joined (f.members.take n) member
  issued : ∀ member ∈ f.members, member.call.token < f.timeline.issued
  known : ∀ n ∈ f.stopped, n < f.members.length
  cancelled : ∀ token, token ∈ f.timeline.cancelled ↔
    ∃ n ∈ f.stopped, ∃ member, f.members[n]? = some member ∧ member.call.token = token
  unasked : f.timeline.asked = []
  unscheduled : f.timeline.scheduled = []

section Actions

variable {f : Family}

theorem sound_empty : Sound {} where
  joined n member there := by simp at there
  issued member inside := by simp at inside
  known n inside := by simp at inside
  cancelled token := by simp
  unasked := rfl
  unscheduled := rfl

/-- A call that joins changes nothing for the others, as long as its token has been handed out. -/
theorem Sound.join (sound : Sound f) {origin : Option Origin} {made : Call × Timeline}
    (joined : Joined f.members ⟨origin, made.1⟩) (issued : Nat)
    (left : made.2 = { f.timeline with issued }) (grown : f.timeline.issued ≤ issued)
    (own : made.1.token < issued) : Sound (f.join origin made) where
  joined n member there := by
    rcases lt_trichotomy n f.members.length with before | rfl | after
    · rw [Family.join, List.getElem?_append_left before] at there
      rw [Family.join, List.take_append_of_le_length before.le]
      exact sound.joined n member there
    · rw [Family.join, List.getElem?_concat_length, Option.some_inj] at there
      rw [Family.join, List.take_left, ← there]
      exact joined
    · rw [Family.join, List.getElem?_eq_none (by simp; omega)] at there
      cases there
  issued member inside := by
    rw [Family.join, left]
    rcases List.mem_append.1 inside with old | new
    · exact (sound.issued member old).trans_le grown
    · obtain rfl := List.mem_singleton.1 new
      exact own
  known n inside := by
    rw [Family.join, List.length_append]
    exact (sound.known n inside).trans_le (Nat.le_add_right _ _)
  cancelled token := by
    simp only [Family.join, left]
    rw [sound.cancelled]
    refine exists_congr fun n => and_congr_right fun inside => ?_
    rw [List.getElem?_append_left (sound.known n inside)]
  unasked := by
    rw [Family.join, left]
    exact sound.unasked
  unscheduled := by
    rw [Family.join, left]
    exact sound.unscheduled

theorem Sound.derive (sound : Sound f) {parent : Nat} {member : Member}
    (there : f.members[parent]? = some member) (derivation : Derivation) :
    Sound (f.join (some ⟨parent, derivation, f.timeline.now⟩)
      (f.timeline.derive member.call derivation)) := by
  have inherits := inherits_derive f.timeline member.call parent derivation
  have known := sound.issued member (List.mem_of_getElem? there)
  by_cases child : derivation = .child
  · subst child
    exact sound.join (.derived there inherits fun _ => sound.issued) _ rfl (Nat.le_succ _)
      (Nat.lt_succ_self _)
  · have tokens := inherits.tokens child
    refine sound.join (.derived there inherits fun made => absurd made child) f.timeline.issued ?_
      le_rfl ?_
    · cases derivation with
      | child => exact absurd rfl child
      | _ => rfl
    · rw [(List.cons.inj tokens).1]
      exact known

theorem Sound.cancel (sound : Sound f) {n : Nat} {member : Member}
    (there : f.members[n]? = some member) :
    Sound { f with timeline := f.timeline.cancel member.call, stopped := n :: f.stopped } where
  joined := sound.joined
  issued := sound.issued
  known := List.forall_mem_cons.2 ⟨(List.getElem?_eq_some_iff.1 there).1, sound.known⟩
  cancelled token := by
    simp only [Timeline.cancel, Timeline.cancelToken, List.mem_cons, exists_eq_or_imp, there,
      Option.some_inj, exists_eq_left', ← sound.cancelled, @eq_comm _ token]
  unasked := sound.unasked
  unscheduled := sound.unscheduled

/-- Where nobody has been asked to cancel anything, time passes and nothing else. -/
theorem jump_eq {t : Timeline} (unasked : t.asked = []) (unscheduled : t.scheduled = [])
    (duration : Nat) : t.jump duration = { t with now := t.now + duration } := by
  by_cases none : duration = 0
  · simp [Timeline.jump, none, Timeline.giveWay, Timeline.schedule, Timeline.fire, unasked,
      unscheduled]
  · simp [Timeline.jump, none, Timeline.schedule, Timeline.fire, unasked, unscheduled]

/-- An action keeps a family sound. -/
theorem Sound.act (sound : Sound f) (action : Action) : Sound (f.act action) := by
  cases action with
  | begin => exact sound.join (.begun sound.issued) _ rfl (Nat.le_succ _) (Nat.lt_succ_self _)
  | derive parent derivation =>
    simp only [Family.act]
    split
    · next member there => exact sound.derive there derivation
    · exact sound
  | cancel n =>
    simp only [Family.act]
    split
    · next member there => exact sound.cancel there
    · exact sound
  | elapse duration =>
    rw [Family.act, jump_eq sound.unasked sound.unscheduled]
    exact { sound with }

theorem sound_after (history : List Action) : Sound (after history) := by
  induction history using List.reverseRecOn with
  | nil => exact sound_empty
  | append_singleton history action ih =>
    rw [after, List.foldl_append]
    exact ih.act action

end Actions

/-! ## Going up a line -/

section Lines

variable {f : Family} {such follow : Origin → Prop} {n : Nat} {o : Origin} {call : Call}

/-- The line of a call that was begun holds nothing but this call. -/
theorem not_along (begun : f.members[n]? = some ⟨none, call⟩) : ¬ f.Along such follow n := by
  rintro ⟨c, o, call', from_c, -, line⟩
  rcases line.cases_tail with rfl | ⟨m, -, o', call'', from_n, -⟩
  · rw [begun] at from_c
    cases from_c
  · rw [begun] at from_n
    cases from_n

/-- What is on the line of a derived call is its own origin or on the line of its parent. -/
theorem along_iff (derived : f.members[n]? = some ⟨some o, call⟩) :
    f.Along such follow n ↔ such o ∨ follow o ∧ f.Along such follow o.parent := by
  constructor
  · rintro ⟨c, o', call', from_c, holds, line⟩
    rcases line.cases_tail with rfl | ⟨m, line, o'', call'', from_n, rfl, follows⟩
    · rw [derived] at from_c
      cases from_c
      exact .inl holds
    · rw [derived] at from_n
      cases from_n
      exact .inr ⟨follows, c, o', call', from_c, holds, line⟩
  · rintro (holds | ⟨follows, c, o', call', from_c, holds, line⟩)
    · exact ⟨n, o, call, derived, holds, .refl⟩
    · exact ⟨c, o', call', from_c, holds, line.tail ⟨o, call, derived, rfl, follows⟩⟩

end Lines

/-! ## Tokens -/

section Tokens

variable {f : Family} {m n : Nat} {other member : Member}

/-- The parent of a derived call was there before it. -/
theorem Sound.derived (sound : Sound f) {o : Origin} {call : Call}
    (there : f.members[n]? = some ⟨some o, call⟩) :
    ∃ parent, o.parent < n ∧ f.members[o.parent]? = some parent ∧
      Inherits o parent.call call := by
  cases sound.joined n _ there with
  | @derived o parent call place inherits new =>
    rw [List.getElem?_take] at place
    split at place
    · next before => exact ⟨parent, before, place, inherits⟩
    · cases place

/-- What holds of calls that were begun and goes from a parent to what is derived from it holds of
all calls. -/
theorem Sound.induction {motive : Nat → Member → Prop} (sound : Sound f)
    (begun : ∀ n token, f.members[n]? = some ⟨none, { token }⟩ → motive n ⟨none, { token }⟩)
    (derived : ∀ n o parent call, f.members[n]? = some ⟨some o, call⟩ → o.parent < n →
      f.members[o.parent]? = some parent → Inherits o parent.call call → motive o.parent parent →
        motive n ⟨some o, call⟩) :
    ∀ n member, f.members[n]? = some member → motive n member := by
  intro n
  induction n using Nat.strong_induction_on with
  | _ n ih =>
    intro member there
    cases sound.joined n member there with
    | begun new => exact begun n _ there
    | derived =>
      obtain ⟨parent, before, place, inherits⟩ := sound.derived there
      exact derived n _ parent _ there before place inherits (ih _ before _ place)

/-- The token of a call that was begun or made as a child is newer than all before it. -/
theorem Sound.new (sound : Sound f) (there : f.members[n]? = some member)
    (own : ∀ o ∈ member.origin, o.derivation = .child) (before : m < n)
    (found : f.members[m]? = some other) : other.call.token < member.call.token := by
  have inside : other ∈ f.members.take n :=
    List.mem_of_getElem? ((List.getElem?_take_of_lt before).trans found)
  cases sound.joined n member there with
  | begun new => exact new other inside
  | derived _ _ new => exact new (own _ rfl) other inside

/-- A call is newer than all that it inherits. -/
theorem Sound.token_lt (sound : Sound f) (there : f.members[n]? = some member) :
    ∀ token ∈ member.call.ancestors, token < member.call.token := by
  refine sound.induction (motive := fun _ member =>
    ∀ token ∈ member.call.ancestors, token < member.call.token) ?_ ?_ n member there
  · intro n token there
    simp
  · intro n o parent call there before place inherits ih token inside
    by_cases child : o.derivation = .child
    · have newer : parent.call.token < call.token :=
        sound.new there (by simpa using child) before place
      rw [inherits.ancestors child] at inside
      rcases List.mem_cons.1 inside with rfl | further
      · exact newer
      · exact (ih token further).trans newer
    · obtain ⟨same, rest⟩ := List.cons.inj (inherits.tokens child)
      rw [rest] at inside
      rw [same]
      exact ih token inside

/-- Inherited tokens are those of the calls that the call is a child of, however remote. -/
theorem Sound.mem_ancestors (sound : Sound f) (there : f.members[n]? = some member) (token : Nat) :
    token ∈ member.call.ancestors ↔
      ∃ a ancestor, f.members[a]? = some ancestor ∧ f.ChildOf a n ∧
        ancestor.call.token = token := by
  refine sound.induction (motive := fun n member => token ∈ member.call.ancestors ↔
    ∃ a ancestor, f.members[a]? = some ancestor ∧ f.ChildOf a n ∧ ancestor.call.token = token)
    ?_ ?_ n member there
  · intro n own there
    refine iff_of_false List.not_mem_nil ?_
    rintro ⟨a, ancestor, -, child, -⟩
    exact not_along there child
  · intro n o parent call there before place inherits ih
    simp only [ChildOf, along_iff there, true_and] at ih ⊢
    by_cases child : o.derivation = .child
    · rw [inherits.ancestors child, Call.tokens, List.mem_cons, ih]
      constructor
      · rintro (rfl | ⟨a, ancestor, found, above, same⟩)
        · exact ⟨o.parent, parent, place, .inl ⟨child, rfl⟩, rfl⟩
        · exact ⟨a, ancestor, found, .inr above, same⟩
      · rintro ⟨a, ancestor, found, ⟨-, rfl⟩ | above, same⟩
        · obtain rfl := Option.some.inj (place.symm.trans found)
          exact .inl same.symm
        · exact .inr ⟨a, ancestor, found, above, same⟩
    · rw [(List.cons.inj (inherits.tokens child)).2, ih]
      simp [child]

/-- Calls that share have all tokens in common. -/
theorem Sound.tokens_of_share (sound : Sound f) (share : f.Share m n) :
    f.members[m]?.map (·.call.tokens) = f.members[n]?.map (·.call.tokens) := by
  induction share with
  | rel m n stage =>
    obtain ⟨o, call, there, rfl, shares⟩ := stage
    obtain ⟨parent, -, place, inherits⟩ := sound.derived there
    rw [place, there, Option.map_some, Option.map_some, inherits.tokens shares]
  | refl => rfl
  | symm m n _ ih => exact ih.symm
  | trans m n k _ _ first second => exact first.trans second

/-- Whatever shares with a call of the family is one of its calls. -/
theorem Sound.exists_of_share (sound : Sound f) (share : f.Share m n)
    (there : f.members[n]? = some member) :
    ∃ other, f.members[m]? = some other ∧ other.call.tokens = member.call.tokens := by
  have same := sound.tokens_of_share share
  rwa [there, Option.map_some, Option.map_eq_some_iff] at same

theorem Sound.tokens_eq (sound : Sound f) (share : f.Share m n)
    (found : f.members[m]? = some other) (there : f.members[n]? = some member) :
    other.call.tokens = member.call.tokens := by
  obtain ⟨other', found', same⟩ := sound.exists_of_share share there
  rw [found] at found'
  cases found'
  exact same

/-- A call shares with one that was begun or made as a child. -/
theorem Sound.exists_own (sound : Sound f) (there : f.members[n]? = some member) :
    ∃ r first, f.members[r]? = some first ∧ (∀ o ∈ first.origin, o.derivation = .child) ∧
      f.Share r n := by
  refine sound.induction (motive := fun n _ => ∃ r first, f.members[r]? = some first ∧
    (∀ o ∈ first.origin, o.derivation = .child) ∧ f.Share r n) ?_ ?_ n member there
  · intro n token there
    exact ⟨n, _, there, by simp, .refl n⟩
  · intro n o parent call there before place inherits ih
    by_cases child : o.derivation = .child
    · exact ⟨n, _, there, by simpa using child, .refl n⟩
    · obtain ⟨r, first, found, own, share⟩ := ih
      exact ⟨r, first, found, own, share.trans _ _ _ (.rel _ _ ⟨o, call, there, rfl, child⟩)⟩

/-- Calls have one token if and only if they share. -/
theorem Sound.share_iff (sound : Sound f) (found : f.members[m]? = some other)
    (there : f.members[n]? = some member) :
    f.Share m n ↔ other.call.token = member.call.token := by
  constructor
  · intro share
    exact (List.cons.inj (sound.tokens_eq share found there)).1
  · intro same
    -- Either call shares with one that has a token of its own, and just one call owns a token.
    obtain ⟨r, first, found_r, own, share⟩ := sound.exists_own found
    obtain ⟨r', first', found_r', own', share'⟩ := sound.exists_own there
    have one : first.call.token = first'.call.token := by
      have left := (List.cons.inj (sound.tokens_eq share found_r found)).1
      have right := (List.cons.inj (sound.tokens_eq share' found_r' there)).1
      rw [left, right, same]
    rcases lt_trichotomy r r' with before | rfl | after
    · exact absurd one (sound.new found_r' own' before found_r).ne
    · exact (share.symm _ _).trans _ _ _ share'
    · exact absurd one.symm (sound.new found_r own after found_r').ne

/-- One call reaches another if and only if it holds one of the other's tokens. -/
theorem Sound.reaches_iff (sound : Sound f) (found : f.members[m]? = some other)
    (there : f.members[n]? = some member) :
    f.Reaches m n ↔ other.call.token ∈ member.call.tokens := by
  rw [Call.tokens, List.mem_cons, sound.mem_ancestors there]
  constructor
  · rintro ⟨a, share, rfl | child⟩
    · exact .inl ((sound.share_iff found there).1 share)
    · obtain ⟨ancestor, place, same⟩ := sound.exists_of_share (share.symm _ _) found
      exact .inr ⟨a, ancestor, place, child, (List.cons.inj same).1⟩
  · rintro (same | ⟨a, ancestor, place, child, same⟩)
    · exact ⟨n, (sound.share_iff found there).2 same, .inl rfl⟩
    · exact ⟨a, (sound.share_iff found place).2 same.symm, .inr child⟩

theorem Sound.not_mem_tokens_of_below (sound : Sound f) (found : f.members[m]? = some other)
    (there : f.members[n]? = some member) (below : f.Below m n) :
    other.call.token ∉ member.call.tokens := by
  obtain ⟨a, share, child⟩ := below
  obtain ⟨ancestor, place, same⟩ := sound.exists_of_share share there
  have newer : member.call.token < other.call.token := by
    rw [← (List.cons.inj same).1]
    exact sound.token_lt found _ ((sound.mem_ancestors found _).2 ⟨a, ancestor, place, child, rfl⟩)
  intro inside
  rcases List.mem_cons.1 inside with own | inherited
  · omega
  · have older := sound.token_lt there _ inherited
    omega

/-- A child inherits all tokens of its parent. -/
theorem Sound.ancestors_of_child (sound : Sound f) {o : Origin} {call : Call}
    (there : f.members[n]? = some ⟨some o, call⟩) (child : o.derivation = .child) :
    f.members[o.parent]?.map (·.call.tokens) = some call.ancestors := by
  obtain ⟨parent, -, place, inherits⟩ := sound.derived there
  rw [place, inherits.ancestors child]
  rfl

theorem Sound.not_mem_tokens_of_beside (sound : Sound f) (found : f.members[m]? = some other)
    (there : f.members[n]? = some member) (beside : f.Beside m n) :
    other.call.token ∉ member.call.tokens := by
  obtain ⟨a, b, c, d, parents, ⟨o, call, place, rfl, child⟩, ⟨o', call', place', rfl, child'⟩,
    apart, share, share'⟩ := beside
  have inherited : call.ancestors = call'.ancestors := by
    have same := sound.tokens_of_share parents
    rwa [sound.ancestors_of_child place child, sound.ancestors_of_child place' child',
      Option.some_inj] at same
  have different : call.token ≠ call'.token := by
    rcases Nat.lt_or_gt_of_ne apart with before | after
    · exact (sound.new place' (by simpa using child') before place).ne
    · exact (sound.new place (by simpa using child) after place').ne'
  rw [← sound.tokens_eq share' place' there, ← (sound.share_iff place found).1 share]
  intro inside
  rcases List.mem_cons.1 inside with own | older
  · exact different own
  · rw [← inherited] at older
    exact lt_irrefl _ (sound.token_lt place _ older)

/-! ## Cancellation -/

/-- Cancelling a call cancels those that hold its token. -/
theorem isCancelled_cancel (t : Timeline) (call other : Call) :
    (t.cancel other).isCancelled call =
      (t.isCancelled call || call.tokens.contains other.token) := by
  rw [Bool.eq_iff_iff]
  simp only [Timeline.isCancelled, Timeline.cancel, Timeline.cancelToken, List.any_eq_true,
    List.contains_iff_mem, List.mem_cons, Bool.or_eq_true]
  constructor
  · rintro ⟨token, inside, rfl | before⟩
    · exact .inr inside
    · exact .inl ⟨token, inside, before⟩
  · rintro (⟨token, inside, before⟩ | inside)
    · exact ⟨token, inside, .inr before⟩
    · exact ⟨_, inside, .inl rfl⟩

/-- A call is cancelled if and only if one that reaches it was. -/
theorem Sound.isCancelled_iff (sound : Sound f) (there : f.members[n]? = some member) :
    f.timeline.isCancelled member.call = true ↔ ∃ m ∈ f.stopped, f.Reaches m n := by
  simp only [Timeline.isCancelled, List.any_eq_true, List.contains_iff_mem, sound.cancelled]
  constructor
  · rintro ⟨token, inside, m, stopped, other, found, rfl⟩
    exact ⟨m, stopped, (sound.reaches_iff found there).2 inside⟩
  · rintro ⟨m, stopped, reaches⟩
    have found := List.getElem?_eq_getElem (sound.known m stopped)
    exact ⟨_, (sound.reaches_iff found there).1 reaches, m, stopped, _, found, rfl⟩

theorem Sound.spared (sound : Sound f) (found : f.members[m]? = some other)
    (there : f.members[n]? = some member) (apart : f.Below m n ∨ f.Beside m n) :
    (f.timeline.cancel other.call).isCancelled member.call =
      f.timeline.isCancelled member.call := by
  have foreign : other.call.token ∉ member.call.tokens :=
    apart.elim (sound.not_mem_tokens_of_below found there)
      (sound.not_mem_tokens_of_beside found there)
  simp [isCancelled_cancel, foreign]

/-! ## Deadlines -/

theorem earliest_of_option (moment : Option Nat) : Earliest {m | moment = some m} moment := by
  cases moment with
  | none => simp [Earliest]
  | some m => exact ⟨rfl, fun m' same => (Option.some.inj same).le⟩

theorem Earliest.union {s s' : Set Nat} {a b : Option Nat} (first : Earliest s a)
    (second : Earliest s' b) : Earliest (s ∪ s') (Timeline.earlier a b) := by
  cases a with
  | none =>
    rw [show s = ∅ from first, Set.empty_union]
    exact second
  | some a =>
    cases b with
    | none =>
      rw [show s' = ∅ from second, Set.union_empty]
      exact first
    | some b => exact IsLeast.union first second

/-- The deadline of a call is the earliest that was set on its line. -/
theorem Sound.earliest (sound : Sound f) (there : f.members[n]? = some member) :
    Earliest (f.limits n) member.call.deadline := by
  refine sound.induction (motive := fun n member => Earliest (f.limits n) member.call.deadline)
    ?_ ?_ n member there
  · intro n token there
    exact Set.eq_empty_of_forall_notMem fun moment => not_along there
  · intro n o parent call there before place inherits ih
    have limits : f.limits n = f.limits o.parent ∪ {moment | o.limit = some moment} := by
      ext moment
      simp only [Family.limits, Set.mem_ofPred_eq, Set.mem_union,
        along_iff there, true_and, or_comm]
    rw [limits, inherits.deadline]
    exact ih.union (earliest_of_option o.limit)

/-- What was set on a line is on every line that goes on from it. -/
theorem limits_subset (line : f.Line m n) : f.limits m ⊆ f.limits n := by
  rintro moment ⟨c, o, call, place, set, before⟩
  exact ⟨c, o, call, place, set, before.trans line⟩

theorem Sound.within (sound : Sound f) (found : f.members[m]? = some other)
    (there : f.members[n]? = some member) (line : f.Line m n) {moment : Nat}
    (set : moment ∈ other.call.deadline) : ∃ moment' ∈ member.call.deadline, moment' ≤ moment := by
  have above := sound.earliest found
  have below := sound.earliest there
  rw [Option.mem_def] at set
  rw [set] at above
  have inherited : moment ∈ f.limits n := limits_subset line above.1
  cases deadline : member.call.deadline with
  | none =>
    rw [deadline] at below
    rw [show f.limits n = ∅ from below] at inherited
    cases inherited
  | some moment' =>
    rw [deadline] at below
    exact ⟨moment', rfl, below.2 inherited⟩

/-! ## Kinds -/

theorem Sound.kind_iff (sound : Sound f) (there : f.members[n]? = some member) (kind : Kind) :
    member.call.kind = some kind ↔
      f.Along (·.derivation = .kind kind) Origin.KeepsKind n := by
  refine sound.induction (motive := fun n member => member.call.kind = some kind ↔
    f.Along (·.derivation = .kind kind) Origin.KeepsKind n) ?_ ?_ n member there
  · intro n token there
    exact iff_of_false nofun (not_along there)
  · intro n o parent call there before place inherits ih
    rw [along_iff there, ← ih]
    exact inherits.kind kind

end Tokens

/-- Whatever is done to a family, its calls are what their lines say. -/
theorem follows_line (history : List Action) {n : Nat} {member : Member}
    (there : (after history).members[n]? = some member) :
    Follows (after history) n member.call :=
  have sound := sound_after history
  { cancelled := sound.isCancelled_iff there
    spared := fun _ _ found apart => sound.spared found there apart
    deadline := sound.earliest there
    within := fun _ _ found line _ set => sound.within found there line set
    kind := sound.kind_iff there }

/-- What a client sends for the second of two children: its own timeout comes before the deadline
that the children have, their parent's kind is gone, and the first child is cancelled alone. -/
theorem follows_line_of_sent :
    let f := after [.begin, .derive 0 (.kind .agent), .derive 1 (.timeout 50), .elapse 10,
      .derive 2 .child, .derive 2 .child, .cancel 3, .derive 4 (.send (some 20))]
    let call : Call := { token := 2, ancestors := [0], deadline := some 30 }
    f.members[5]? = some ⟨some ⟨4, .send (some 20), 10⟩, call⟩ ∧ Follows f 5 call := by
  intro f call
  have there : f.members[5]? = some ⟨some ⟨4, .send (some 20), 10⟩, call⟩ := by decide
  exact ⟨there, follows_line _ there⟩

end Family

end Steward

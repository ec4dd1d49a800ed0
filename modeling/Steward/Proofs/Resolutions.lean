import Mathlib.Data.Finset.Card
import Steward.Proofs.Delivery

/-!
# Resolutions

What an interceptor answers after everything that it has been asked, compared with what the history
alone says: a method is about the kind whose tag its service has declared last. What is remembered
never gets out of date, whatever is declared again, looked up in vain or asked over and over. Main
statements: `Coherent.act` for one action, `coherent_after` for a history of them, and
`never_stale`.
-/

namespace Steward.Interceptor

/-! ## Histories -/

/-- What can be asked of an interceptor. -/
inductive Action where
  | declare (service tag : String)
  | resolve (method : String)
  | intercept (method : String) (call : Call)

/-- The method that an action looks up. -/
def Action.method? : Action → Option String
  | .declare .. => none
  | .resolve method => some method
  | .intercept method _ => some method

/-- The interceptor as an action leaves it. -/
def act (i : Interceptor) : Action → Interceptor
  | .declare service tag => i.declare service tag
  | .resolve method => (i.resolve method).2
  | .intercept method call => (i.intercept method call).2

/-- A new interceptor after a history of actions, the first action first. -/
def after (history : List Action) : Interceptor :=
  history.foldl act {}

/-- Some such action has been taken, and the service has not been declared after it. -/
def Since (history : List Action) (service : String) (such : Action → Prop) : Prop :=
  ∃ before action later, history = before ++ action :: later ∧ such action ∧
    ∀ tag, .declare service tag ∉ later

/-- The tag is the one that the service has declared last. -/
def LastDeclared (history : List Action) (service tag : String) : Prop :=
  Since history service (· = .declare service tag)

/-- A method of the service has been looked up since the service was declared last. -/
def Asked (history : List Action) (service : String) : Prop :=
  Since history service fun action => ∃ method, action.method? = some method ∧ Names method service

/-- The method names a service, and the tag of the kind is the one that this service has declared
last. -/
def Serves (history : List Action) (method : String) (kind : Kind) : Prop :=
  ∃ service, Names method service ∧ LastDeclared history service kind.tag

/-- The interceptor knows what the history says, and remembers just what it says to have been
asked. -/
structure Coherent (history : List Action) (i : Interceptor) : Prop where
  declared : ∀ service tag, i.declared.lookup service = some tag ↔ LastDeclared history service tag
  agrees : i.Agrees
  once : (i.remembered.map (·.1)).Nodup
  remembered : ∀ service, service ∈ i.remembered.map (·.1) ↔ Asked history service

section Steps

variable {history : List Action} {i : Interceptor} {service : String}

theorem since_nil {such : Action → Prop} : ¬ Since [] service such := by
  rintro ⟨before, action, later, nothing, -⟩
  cases before <;> cases nothing

/-- The last action is such an action, or one was taken before and the last is no declaration. -/
theorem since_concat {action : Action} {such : Action → Prop} :
    Since (history ++ [action]) service such ↔
      such action ∨ Since history service such ∧ ∀ tag, action ≠ .declare service tag := by
  constructor
  · rintro ⟨before, found, later, place, holds, silent⟩
    rcases List.eq_nil_or_concat later with rfl | ⟨later, last, rfl⟩
    · obtain ⟨-, same⟩ := List.append_inj' place rfl
      cases same
      exact .inl holds
    · rw [List.concat_eq_append, ← List.cons_append, ← List.append_assoc] at place
      obtain ⟨earlier, same⟩ := List.append_inj' place rfl
      cases same
      have apart := fun tag => silent tag
      simp only [List.concat_eq_append, List.mem_append, List.mem_singleton, not_or] at apart
      exact .inr ⟨⟨before, found, later, earlier, holds, fun tag => (apart tag).1⟩,
        fun tag same => (apart tag).2 same.symm⟩
  · rintro (holds | ⟨⟨before, found, later, rfl, holds, silent⟩, apart⟩)
    · exact ⟨history, action, [], rfl, holds, fun _ => List.not_mem_nil⟩
    · refine ⟨before, found, later ++ [action], by simp, holds, fun tag inside => ?_⟩
      rcases List.mem_append.1 inside with inside | last
      · exact silent tag inside
      · exact apart tag (List.mem_singleton.1 last).symm

/-! ## One action -/

theorem coherent_nil : Coherent [] {} where
  declared service tag := iff_of_false nofun since_nil
  agrees service kind known := by cases known
  once := List.nodup_nil
  remembered service := iff_of_false List.not_mem_nil since_nil

theorem Coherent.declare (coherent : Coherent history i) (service tag : String) :
    Coherent (history ++ [.declare service tag]) (i.declare service tag) where
  declared other tag' := by
    simp only [LastDeclared, since_concat, Interceptor.declare, lookup_assign]
    by_cases same : other = service
    · subst same
      simp
    · have before := coherent.declared other tag'
      simp only [LastDeclared] at before
      simp [same, Ne.symm same, before]
  agrees := coherent.agrees.declare service tag
  once := coherent.once.sublist (List.filter_sublist.map _)
  remembered other := by
    have before := coherent.remembered other
    simp only [Asked, since_concat, Interceptor.declare, Action.method?] at before ⊢
    rw [← before]
    simp only [List.mem_map, List.mem_filter, decide_eq_true_eq]
    constructor
    · rintro ⟨entry, ⟨inside, apart⟩, rfl⟩
      refine .inr ⟨⟨entry, inside, rfl⟩, fun tag' same => ?_⟩
      cases same
      exact apart rfl
    · rintro (⟨method, none, -⟩ | ⟨⟨entry, inside, rfl⟩, apart⟩)
      · cases none
      · refine ⟨entry, ⟨inside, fun same => ?_⟩, rfl⟩
        subst same
        exact apart tag rfl

/-- Looking a method up declares nothing, and asks for the service that the method names. -/
theorem lastDeclared_concat_of_method {action : Action} {method tag : String}
    (looks : action.method? = some method) :
    LastDeclared (history ++ [action]) service tag ↔ LastDeclared history service tag := by
  rw [LastDeclared, since_concat]
  cases action with
  | declare => cases looks
  | resolve => simp [LastDeclared]
  | intercept => simp [LastDeclared]

theorem asked_concat_of_method {action : Action} {method : String}
    (looks : action.method? = some method) :
    Asked (history ++ [action]) service ↔ Names method service ∨ Asked history service := by
  rw [Asked, since_concat]
  cases action with
  | declare => cases looks
  | resolve => cases looks; simp [Asked, Action.method?]
  | intercept => cases looks; simp [Asked, Action.method?]

/-- What a resolution adds to what is remembered is the service that the method names, if it was not
remembered before. -/
theorem remembered_resolve (method : String) :
    (i.resolve method).2.remembered = i.remembered ∧
        (∀ service, Names method service → service ∈ i.remembered.map (·.1)) ∨
      ∃ service kind, Names method service ∧ service ∉ i.remembered.map (·.1) ∧
        (i.resolve method).2.remembered = i.remembered ++ [(service, kind)] := by
  unfold Interceptor.resolve
  split
  · next missing =>
    refine .inl ⟨rfl, fun service named => ?_⟩
    rw [serviceOf?_eq_some_iff.2 named] at missing
    cases missing
  · next service found =>
    have named := serviceOf?_eq_some_iff.1 found
    split
    · next kind known =>
      refine .inl ⟨rfl, fun other named' => ?_⟩
      obtain rfl : service = other :=
        Option.some.inj (found.symm.trans (serviceOf?_eq_some_iff.2 named'))
      obtain ⟨before, after, place, -⟩ := List.lookup_eq_some_iff.1 known
      simp [place]
    · next unknown =>
      refine .inr ⟨service, i.lookUp service, named, fun inside => ?_, rfl⟩
      obtain ⟨entry, held, rfl⟩ := List.mem_map.1 inside
      simpa using List.lookup_eq_none_iff.1 unknown entry held

theorem Coherent.look (coherent : Coherent history i) {action : Action} {method : String}
    (looks : action.method? = some method) :
    Coherent (history ++ [action]) (i.resolve method).2 := by
  obtain ⟨-, agrees, declared⟩ := coherent.agrees.resolve method
  refine ⟨fun service tag => ?_, agrees, ?_, fun service => ?_⟩
  · rw [declared, lastDeclared_concat_of_method looks, coherent.declared]
  · rcases remembered_resolve (i := i) method with ⟨same, -⟩ | ⟨service, kind, -, new, same⟩
    · rw [same]
      exact coherent.once
    · rw [same, List.map_append]
      exact coherent.once.append (List.nodup_singleton _) (by simpa using new)
  · rw [asked_concat_of_method looks, ← coherent.remembered]
    rcases remembered_resolve (i := i) method with ⟨same, old⟩ | ⟨other, kind, named, new, same⟩
    · rw [same]
      exact ⟨.inr, fun either => either.elim (old service) id⟩
    · have only : Names method service ↔ service = other := by
        rw [← serviceOf?_eq_some_iff, serviceOf?_eq_some_iff.2 named, Option.some_inj, eq_comm]
      rw [same, only, List.map_append, List.mem_append, or_comm]
      simp

theorem intercept_snd (i : Interceptor) (method : String) (call : Call) :
    (i.intercept method call).2 = (i.resolve method).2 := by
  unfold Interceptor.intercept
  split
  · next resolved => rw [resolved]
  · next resolved => rw [resolved]

/-- An action keeps an interceptor coherent with the history. -/
theorem Coherent.act (coherent : Coherent history i) (action : Action) :
    Coherent (history ++ [action]) (i.act action) := by
  cases action with
  | declare service tag => exact coherent.declare service tag
  | resolve method => exact coherent.look rfl
  | intercept method call =>
    rw [Interceptor.act, intercept_snd]
    exact coherent.look rfl

/-! ## All actions -/

theorem coherent_after (history : List Action) : Coherent history (after history) := by
  induction history using List.reverseRecOn with
  | nil => exact coherent_nil
  | append_singleton history action ih =>
    rw [after, List.foldl_append]
    exact ih.act action

/-- What is declared for a method is the kind that the history says. -/
theorem Coherent.declaredKind (coherent : Coherent history i) (method : String) (kind : Kind) :
    i.declaredKind method = some kind ↔ Serves history method kind := by
  simp only [Interceptor.declaredKind, Option.bind_eq_some_iff, serviceOf?_eq_some_iff, lookUp,
    Kind.ofTag?_eq_some_iff, coherent.declared, Serves]
  constructor
  · rintro ⟨service, named, tag, last, rfl⟩
    exact ⟨service, named, last⟩
  · rintro ⟨service, named, last⟩
    exact ⟨service, named, kind.tag, last, rfl⟩

/-- After any history, a method resolves to the kind that the history alone says it is about, and to
none if the history says none; a call gets that kind, or stays as it is; and as many services are
remembered as have been asked for since they were declared last. -/
theorem never_stale (history : List Action) :
    (∀ method, ∃ found : Option Kind,
      (∀ kind, found = some kind ↔ Serves history method kind) ∧
        ((after history).resolve method).1 = found ∧
        ∀ call, ((after history).intercept method call).1 = found.elim call call.withKind) ∧
      ∃ services : Finset String, (∀ service, service ∈ services ↔ Asked history service) ∧
        (after history).rememberedCount = services.card := by
  have coherent := coherent_after history
  refine ⟨fun method => ⟨(after history).declaredKind method, coherent.declaredKind method,
    (coherent.agrees.resolve method).1, fun call => ?_⟩,
    ((after history).remembered.map (·.1)).toFinset, fun service => ?_, ?_⟩
  · rw [coherent.agrees.intercept_fst]
    cases (after history).declaredKind method <;> rfl
  · rw [List.mem_toFinset]
    exact coherent.remembered service
  · rw [List.toFinset_card_of_nodup coherent.once, List.length_map]
    rfl

/-- What was found under an earlier declaration is not found again. -/
example : ((after [.declare "a.B" "agent", .resolve "/a.B/get", .declare "a.B" "skill"]).resolve
    "/a.B/get").1 = some .skill := by decide

end Steps

end Steward.Interceptor

import Mathlib.Data.List.Basic
import Steward.Call.Timeline

/-!
# Waits

What becomes of a call while somebody waits on its behalf. A wait that is over leaves the call
alive; a wait that is stopped was stopped by a cancellation or by the deadline. A call for which
nothing is in store goes through every wait. Main statements: `check_of_await`, `stopped_await` and
`Undisturbed.await`.
-/

namespace Steward.Timeline

variable {t : Timeline} {call : Call}

/-- A call is broken off by a cancellation or by its deadline. -/
theorem stopped_check {failure : Failure} (failed : t.check call = .error failure) :
    failure = .cancelled ∨ failure = .deadlineExceeded := by
  unfold check at failed
  split at failed
  · cases failed
    exact Or.inl rfl
  split at failed
  · split at failed
    · cases failed
      exact Or.inr rfl
    · cases failed
  · cases failed

/-- A wait that is stopped is stopped by a cancellation or by the deadline. -/
theorem stopped_await {ready : Option Nat} {failure : Failure}
    (stopped : (t.await call ready).1 = .stopped failure) :
    failure = .cancelled ∨ failure = .deadlineExceeded := by
  unfold await at stopped
  split at stopped
  · next failure' failed =>
    cases stopped
    exact stopped_check failed
  · simp only at stopped
    repeat' split at stopped
    all_goals first
      | (cases stopped; exact Or.inl rfl)
      | (cases stopped; exact Or.inr rfl)
      | cases stopped

/-- A wait for what comes at some moment does not go on for ever. -/
theorem await_ne_endless (ready : Nat) : (t.await call (some ready)).1 ≠ .endless := by
  unfold await
  split
  · exact nofun
  · cases call.deadline <;> simp only [Option.map, earlier] <;> repeat' split
    all_goals exact nofun

/-! ## Calls that stay alive -/

/-- A call is alive if it is not cancelled and its deadline has not come. -/
theorem check_eq_ok :
    t.check call = .ok () ↔ t.isCancelled call = false ∧ ∀ d ∈ call.deadline, t.now < d := by
  unfold check
  cases t.isCancelled call <;> cases call.deadline <;> simp

/-- A scheduled cancellation concerns the call and is due. -/
def strikes (call : Call) (isDue : Nat → Bool) (s : Nat × Nat) : Bool :=
  isDue s.1 && call.tokens.contains s.2

theorem isCancelled_fire (isDue : Nat → Bool) :
    (t.fire isDue).isCancelled call =
      (t.isCancelled call || t.scheduled.any (strikes call isDue)) := by
  rw [Bool.eq_iff_iff]
  simp only [isCancelled, fire, strikes, List.any_eq_true, List.contains_iff_mem, List.mem_append,
    List.mem_map, List.mem_filter, Bool.or_eq_true, Bool.and_eq_true]
  constructor
  · rintro ⟨token, inside, ⟨s, ⟨there, due⟩, rfl⟩ | before⟩
    · exact .inr ⟨s, there, due, inside⟩
    · exact .inl ⟨token, inside, before⟩
  · rintro (⟨token, inside, before⟩ | ⟨s, there, due, inside⟩)
    · exact ⟨token, inside, .inr before⟩
    · exact ⟨s.2, inside, .inl ⟨s, ⟨there, due⟩, rfl⟩⟩

/-- Where no cancellation of the call comes before a limit, none is due before it. -/
theorem any_strikes_of_firstCancellation {limit : Nat}
    (first : t.firstCancellation call (some limit) = none) :
    t.scheduled.any (strikes call (· < limit)) = false := by
  rw [firstCancellation, List.min?_eq_none_iff, List.filterMap_eq_nil_iff] at first
  rw [List.any_eq_false]
  intro s inside hits
  have found := first s inside
  simp only [strikes, Bool.and_eq_true, decide_eq_true_eq] at hits
  rw [if_pos (by rw [hits.2]; simpa using hits.1)] at found
  cases found

/-- Others have their turn on the way to a moment, and what comes due after that waits. -/
theorem isCancelled_advanceTo {moment : Nat} (live : t.isCancelled call = false)
    (first : t.schedule.firstCancellation call (some moment) = none) :
    (t.schedule.advanceTo moment).isCancelled call = false := by
  unfold advanceTo
  split
  · exact live
  · have again : t.schedule.schedule = t.schedule := by simp [schedule]
    show (t.schedule.schedule.fire (· < moment)).isCancelled call = false
    rw [again, isCancelled_fire, any_strikes_of_firstCancellation first, Bool.or_false]
    exact live

theorem now_advanceTo (moment : Nat) : (t.advanceTo moment).now = max t.now moment := by
  unfold advanceTo
  split
  · next passed => exact (Nat.max_eq_left passed).symm
  · next ahead => exact (Nat.max_eq_right (Nat.le_of_not_le ahead)).symm

/-- Among whole milliseconds, all alarms ring in time but those that are set too late. -/
theorem alarm_one (moment : Nat) : alarm moment = min moment lastAlarm := by
  simp [alarm]

theorem alarm_le (moment : Nat) : alarm moment ≤ moment := by
  rw [alarm_one]
  exact Nat.min_le_left _ _

/-- A wait that is over leaves the call alive. -/
theorem check_of_await {ready : Nat} :
    (t.await call (some ready)).1 = .over → (t.await call (some ready)).2.check call = .ok () := by
  unfold await
  cases alive : t.check call with
  | error failure => exact nofun
  | ok =>
    obtain ⟨live, early⟩ := check_eq_ok.1 alive
    simp only
    split
    · exact nofun
    split
    · exact fun _ => alive
    split
    · exact nofun
    next first =>
    -- Whatever limit there is, the wait is over only if what is waited for comes first.
    cases deadline : call.deadline with
    | none =>
      rw [deadline] at first
      intro _
      exact check_eq_ok.2 ⟨isCancelled_advanceTo live first, by simp [deadline]⟩
    | some d =>
      rw [deadline] at first
      simp only [Option.map_some, earlier, Option.any_some, decide_eq_true_eq] at first ⊢
      split
      · exact nofun
      · next before =>
        intro _
        have soon : ready < alarm d := by omega
        rw [Nat.min_eq_right (Nat.le_of_lt soon)] at first ⊢
        refine check_eq_ok.2 ⟨isCancelled_advanceTo live first, ?_⟩
        rintro d' found
        obtain rfl : d = d' := Option.some.inj (deadline.symm.trans found)
        rw [now_advanceTo]
        exact Nat.max_lt.2 ⟨early d deadline, Nat.lt_of_lt_of_le soon (alarm_le d)⟩

/-! ## Calls for which nothing is in store -/

/-- The call has no deadline, and nobody has cancelled it or been asked to. -/
structure Undisturbed (t : Timeline) (call : Call) : Prop where
  endless : call.deadline = none
  live : ∀ token ∈ call.tokens, token ∉ t.cancelled
  unasked : ∀ token ∈ call.tokens, token ∉ t.asked.map (·.2)
  spared : ∀ token ∈ call.tokens, token ∉ t.scheduled.map (·.2)

namespace Undisturbed

theorem schedule (still : t.Undisturbed call) : t.schedule.Undisturbed call where
  endless := still.endless
  live := still.live
  unasked token inside := by simp [Timeline.schedule]
  spared token inside := by
    simp only [Timeline.schedule, List.map_append, List.map_map, List.mem_append]
    exact not_or.2 ⟨still.spared token inside, still.unasked token inside⟩

theorem fire (still : t.Undisturbed call) (isDue : Nat → Bool) :
    (t.fire isDue).Undisturbed call where
  endless := still.endless
  live token inside := by
    simp only [Timeline.fire, List.mem_append]
    refine not_or.2 ⟨fun struck => still.spared token inside ?_, still.live token inside⟩
    obtain ⟨s, there, same⟩ := List.mem_map.1 struck
    exact List.mem_map.2 ⟨s, List.mem_of_mem_filter there, same⟩
  unasked := still.unasked
  spared token inside left := by
    obtain ⟨s, there, same⟩ := List.mem_map.1 left
    exact still.spared token inside (List.mem_map.2 ⟨s, List.mem_of_mem_filter there, same⟩)

theorem at_ (still : t.Undisturbed call) (now : Nat) : Undisturbed { t with now := now } call :=
  ⟨still.endless, still.live, still.unasked, still.spared⟩

theorem giveWay (still : t.Undisturbed call) : t.giveWay.Undisturbed call :=
  still.schedule.fire _

theorem advanceTo (still : t.Undisturbed call) (moment : Nat) :
    (t.advanceTo moment).Undisturbed call := by
  unfold Timeline.advanceTo
  split
  · exact still
  · exact (still.schedule.fire _).at_ moment

theorem child (still : t.Undisturbed call) (parent : Call) : (t.child parent).2.Undisturbed call :=
  ⟨still.endless, still.live, still.unasked, still.spared⟩

/-- Whoever waits, and for whatever, does nothing to the call. -/
theorem await (still : t.Undisturbed call) (waiting : Call) (ready : Option Nat) :
    (t.await waiting ready).2.Undisturbed call := by
  unfold Timeline.await
  split
  · exact still
  dsimp only
  repeat' split
  all_goals first
    | exact still
    | exact still.schedule
    | exact still.schedule.advanceTo _
    | exact (still.schedule.fire _).at_ _

theorem isCancelled (still : t.Undisturbed call) : t.isCancelled call = false := by
  simp only [Timeline.isCancelled, List.any_eq_false, List.contains_iff_mem]
  exact still.live

theorem check (still : t.Undisturbed call) : t.check call = .ok () :=
  check_eq_ok.2 ⟨still.isCancelled, by simp [still.endless]⟩

theorem firstCancellation (still : t.Undisturbed call) (limit : Option Nat) :
    t.firstCancellation call limit = none := by
  rw [Timeline.firstCancellation, List.min?_eq_none_iff, List.filterMap_eq_nil_iff]
  intro s inside
  have apart : s.2 ∉ call.tokens := fun own =>
    still.spared s.2 own (List.mem_map_of_mem inside)
  simp [apart]

/-- The call goes through every wait for something that comes. -/
theorem await_over (still : t.Undisturbed call) (ready : Nat) :
    (t.await call (some ready)).1 = .over := by
  unfold Timeline.await
  rw [still.check]
  simp only [still.endless, Option.map_none, Option.any_none, Bool.false_eq_true, if_false,
    still.schedule.firstCancellation, earlier]
  split <;> rfl

end Undisturbed

end Steward.Timeline

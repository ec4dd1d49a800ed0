import Mathlib.Data.ENat.Basic
import Mathlib.Data.List.MinMax
import Mathlib.Order.Lattice.Nat
import Steward.Proofs.Ends
import Steward.Proofs.Waits

/-!
# Races

While somebody waits on behalf of a call, a cancellation, the deadline and the end of what is waited
for race against each other, and each of them may come never. Who wins is a matter of three moments
alone: a cancellation wins if it comes before the other two, the deadline wins a tie against the
end, and a call that is cancelled or has run out of time is not waited for at all. The deadline
counts from the moment at which its alarm rings. This is not always the deadline itself, which is
what is promised: alarms ring at whole milliseconds only, so that a deadline in between is heard too
late, and a deadline beyond the last alarm is heard too early. What is guarded takes effect exactly
if the wait is over, and at the moment at which it is there. Main statements: `ending_await`,
`verdict_alarm_eq_iff` and `decidesRace`.
-/

namespace Steward.Timeline

variable {t : Timeline} {call : Call} {ready : Option ℕ} {grain : ℕ}

/-! ## The three moments -/

/-- A moment, or never. -/
def comes : Option ℕ → WithTop ℕ
  | some m => m
  | none => ⊤

/-- The moment at which the call is going to be cancelled: that of the first cancellation that
others have been asked for or are waiting to make. What is due already is made at once. -/
def cancellation (t : Timeline) (call : Call) (grain : ℕ) : WithTop ℕ :=
  (((t.schedule grain).scheduled.filter fun s => call.tokens.contains s.2).map fun s =>
    max t.now s.1).minimum

/-- The moment at which the deadline of the call is heard, if it has one. -/
def ringing (rings : ℕ → ℕ) (call : Call) : WithTop ℕ :=
  comes (call.deadline.map rings)

/-- The moment at which those who wait find what they wait for: at once if it has come before. -/
def arrival (t : Timeline) (ready : Option ℕ) : WithTop ℕ :=
  max t.now (comes ready)

/-- How the race is to end: by the deadline itself. -/
def promised (t : Timeline) (call : Call) (ready : Option ℕ) (grain : ℕ) : Wait :=
  if t.isCancelled call ∨ t.cancellation call grain < min (comes call.deadline) (t.arrival ready)
  then .stopped .cancelled
  else if ∃ d ∈ call.deadline, d ≤ t.now ∨ d ≤ t.arrival ready then .stopped .deadlineExceeded
  else if ready = none then .endless
  else .over

/-- How the race ends if a deadline that has not come yet is heard at the moment that `rings`
tells. -/
def verdict (t : Timeline) (rings : ℕ → ℕ) (call : Call) (ready : Option ℕ) (grain : ℕ) : Wait :=
  if t.isCancelled call then .stopped .cancelled
  else if ∃ d ∈ call.deadline, d ≤ t.now then .stopped .deadlineExceeded
  else if t.cancellation call grain < min (ringing rings call) (t.arrival ready) then
    .stopped .cancelled
  else if ∃ d ∈ call.deadline, rings d ≤ t.arrival ready then .stopped .deadlineExceeded
  else if ready = none then .endless
  else .over

theorem coe_min (m m' : ℕ) : ((min m m' : ℕ) : WithTop ℕ) = min (m : WithTop ℕ) m' :=
  WithTop.coe_mono.map_min

theorem comes_earlier (a b : Option ℕ) : comes (earlier a b) = min (comes a) (comes b) := by
  cases a with
  | none => exact (min_eq_right le_top).symm
  | some m =>
    cases b with
    | none => exact (min_eq_left le_top).symm
    | some m' => exact coe_min m m'

@[simp]
theorem arrival_none : t.arrival none = ⊤ :=
  max_eq_right le_top

theorem arrival_some (m : ℕ) : t.arrival (some m) = (max t.now m : ℕ) :=
  (WithTop.coe_max t.now m).symm

theorem ringing_of_none {rings : ℕ → ℕ} (timeless : call.deadline = none) :
    ringing rings call = ⊤ := by
  rw [ringing, timeless]
  rfl

theorem ringing_of_some {rings : ℕ → ℕ} {d : ℕ} (due : call.deadline = some d) :
    ringing rings call = rings d := by
  rw [ringing, due]
  rfl

theorem any_le (a : Option ℕ) (m : ℕ) : a.any (· ≤ m) = true ↔ comes a ≤ m := by
  cases a <;> simp [comes]

theorem now_le_arrival : (t.now : WithTop ℕ) ≤ t.arrival ready :=
  le_max_left _ _

theorem le_cancellation {m : WithTop ℕ} :
    m ≤ t.cancellation call grain ↔
      ∀ s ∈ (t.schedule grain).scheduled, s.2 ∈ call.tokens → m ≤ (max t.now s.1 : ℕ) := by
  constructor
  · intro below s inside own
    refine below.trans (List.minimum_le_of_mem' (List.mem_map.2 ⟨s, ?_, rfl⟩))
    exact List.mem_filter.2 ⟨inside, List.contains_iff_mem.2 own⟩
  · intro below
    refine List.le_minimum_of_forall_le fun m' there => ?_
    obtain ⟨s, inside, rfl⟩ := List.mem_map.1 there
    obtain ⟨inside, own⟩ := List.mem_filter.1 inside
    exact below s inside (List.contains_iff_mem.1 own)

theorem now_le_cancellation : (t.now : WithTop ℕ) ≤ t.cancellation call grain :=
  le_cancellation.2 fun _ _ _ => WithTop.coe_le_coe.2 (Nat.le_max_left _ _)

/-- Whoever is asked to cancel the call after some time does so then, unless it has been cancelled
before. -/
theorem cancellation_cancelAfter (delay : ℕ) :
    (t.cancelAfter call delay).cancellation call grain =
      min (t.cancellation call grain) (max t.now (t.wake delay grain) : ℕ) := by
  have more : ((t.cancelAfter call delay).schedule grain).scheduled =
      (t.schedule grain).scheduled ++ [(t.wake delay grain, call.token)] := by
    simp [cancelAfter, schedule, wake]
  have own : call.tokens.contains call.token = true := List.contains_iff_mem.2 List.mem_cons_self
  unfold cancellation
  rw [more, List.filter_append, List.map_append, List.minimum_append, List.filter_singleton, own]
  rfl

/-- Those who wait look through the cancellations of the call that come before a limit. -/
theorem firstCancellation_eq_min? (limit : Option ℕ) :
    t.firstCancellation call limit = ((t.scheduled.filter fun s =>
      call.tokens.contains s.2 && decide ((s.1 : WithTop ℕ) < comes limit)).map (·.1)).min? := by
  unfold firstCancellation
  congr 1
  rw [← List.filterMap_eq_map, ← List.filterMap_eq_filter, List.filterMap_filterMap]
  refine List.filterMap_congr fun s _ => ?_
  cases limit <;> simp [comes, Option.guard] <;> split <;> simp_all

theorem mem_candidates {limit : Option ℕ} {m : ℕ} :
    m ∈ (t.scheduled.filter fun s =>
      call.tokens.contains s.2 && decide ((s.1 : WithTop ℕ) < comes limit)).map (·.1) ↔
      (m : WithTop ℕ) < comes limit ∧ ∃ token ∈ call.tokens, (m, token) ∈ t.scheduled := by
  simp only [List.mem_map, List.mem_filter, Bool.and_eq_true, List.contains_iff_mem,
    decide_eq_true_eq]
  constructor
  · rintro ⟨s, ⟨inside, own, soon⟩, rfl⟩
    exact ⟨soon, s.2, own, inside⟩
  · rintro ⟨soon, token, own, inside⟩
    exact ⟨(m, token), ⟨inside, own, soon⟩, rfl⟩

/-- The first cancellation before a limit that lies ahead is the one that comes. -/
theorem cancellation_of_first {limit : Option ℕ} {m : ℕ} (ahead : t.now < comes limit)
    (first : (t.schedule grain).firstCancellation call limit = some m) :
    t.cancellation call grain = (max t.now m : ℕ) ∧
      t.cancellation call grain < comes limit := by
  rw [firstCancellation_eq_min?] at first
  obtain ⟨there, least⟩ := List.min?_eq_some_iff.1 first
  obtain ⟨soon, token, own, inside⟩ := mem_candidates.1 there
  have comesFirst : t.cancellation call grain = (max t.now m : ℕ) := by
    refine le_antisymm (le_cancellation.1 le_rfl _ inside own) (le_cancellation.2 ?_)
    intro s scheduled own'
    refine WithTop.coe_le_coe.2 (max_le_max_left _ ?_)
    by_contra earlier
    have sooner : (s.1 : WithTop ℕ) < comes limit :=
      (WithTop.coe_lt_coe.2 (Nat.lt_of_not_le earlier)).trans soon
    exact earlier (least s.1 (mem_candidates.2 ⟨sooner, s.2, own', scheduled⟩))
  refine ⟨comesFirst, ?_⟩
  rw [comesFirst]
  exact (WithTop.coe_max t.now m).trans_lt (max_lt ahead soon)

theorem le_cancellation_of_first {limit : Option ℕ}
    (first : (t.schedule grain).firstCancellation call limit = none) :
    comes limit ≤ t.cancellation call grain := by
  rw [firstCancellation_eq_min?, List.min?_eq_none_iff] at first
  refine le_cancellation.2 fun s inside own => ?_
  have late : ¬ (s.1 : WithTop ℕ) < comes limit := by
    intro soon
    have there := mem_candidates.2 ⟨soon, s.2, own, inside⟩
    rw [first] at there
    cases there
  exact (not_lt.1 late).trans (WithTop.coe_le_coe.2 (le_max_right _ _))

/-! ## The race -/

/-- How a wait ends and what timeline it leaves, by what comes first. -/
inductive Ending (t : Timeline) (call : Call) (ready : Option ℕ) (grain : ℕ) :
    Wait → Timeline → Prop where
  /-- Nobody waits for a call that is cancelled or has run out of time. -/
  | refused {failure : Failure} (dead : t.check call = .error failure) :
      Ending t call ready grain (.stopped failure) t
  | struck {t' : Timeline} (alive : t.check call = .ok ())
      (first : t.cancellation call grain <
        min (ringing (alarm · grain) call) (t.arrival ready))
      (now : t'.now = t.cancellation call grain) :
      Ending t call ready grain (.stopped .cancelled) t'
  | late {t' : Timeline} {d : ℕ} (alive : t.check call = .ok ()) (due : call.deadline = some d)
      (uncancelled : alarm d grain ≤ t.cancellation call grain)
      (first : alarm d grain ≤ t.arrival ready) (now : t'.now = max t.now (alarm d grain)) :
      Ending t call ready grain (.stopped .deadlineExceeded) t'
  | done {t' : Timeline} {m : ℕ} (alive : t.check call = .ok ()) (there : ready = some m)
      (uncancelled : t.arrival ready ≤ t.cancellation call grain)
      (first : t.arrival ready < ringing (alarm · grain) call) (now : t'.now = max t.now m) :
      Ending t call ready grain .over t'
  | never {t' : Timeline} (alive : t.check call = .ok ())
      (uncancelled : t.cancellation call grain = ⊤) (timeless : call.deadline = none)
      (absent : ready = none) : Ending t call ready grain .endless t'

theorem ending_await (t : Timeline) (call : Call) (ready : Option ℕ) (grain : ℕ) :
    Ending t call ready grain (t.await call ready grain).1 (t.await call ready grain).2 := by
  unfold await
  cases alive : t.check call with
  | error failure => exact .refused alive
  | ok =>
    dsimp only
    split
    case isTrue rung =>
      rw [any_le] at rung
      cases due : call.deadline with
      | none => simp [due, comes] at rung
      | some d =>
        rw [due] at rung
        have past : alarm d grain ≤ t.now := WithTop.coe_le_coe.1 rung
        exact .late alive due (rung.trans now_le_cancellation) (rung.trans now_le_arrival)
          (max_eq_left past).symm
    case isFalse awake =>
      rw [any_le, not_le] at awake
      split
      case isTrue there =>
        rw [any_le] at there
        have atOnce : t.arrival ready = t.now := max_eq_left there
        cases ready with
        | none => simp [comes] at there
        | some m =>
          refine .done alive rfl ?_ ?_ (max_eq_left (WithTop.coe_le_coe.1 there)).symm
          · exact atOnce.trans_le now_le_cancellation
          · exact atOnce.trans_lt awake
      case isFalse unready =>
        rw [any_le, not_le] at unready
        have ahead : t.now < comes (earlier (call.deadline.map (alarm · grain)) ready) := by
          rw [comes_earlier]
          exact lt_min awake unready
        have same : comes (earlier (call.deadline.map (alarm · grain)) ready) =
            min (ringing (alarm · grain) call) (t.arrival ready) := by
          rw [comes_earlier, arrival, max_eq_right unready.le]
          rfl
        split
        case h_1 m first =>
          obtain ⟨now, soon⟩ := cancellation_of_first ahead first
          exact .struck alive (same ▸ soon) now.symm
        case h_2 none =>
          have uncancelled := le_cancellation_of_first none
          rw [same] at uncancelled
          -- Nothing stops the wait before the earlier of the other two moments.
          cases due : call.deadline with
          | none =>
            rw [ringing_of_none due, min_eq_right le_top] at uncancelled
            cases ready with
            | none => exact .never alive (top_le_iff.1 (arrival_none.ge.trans uncancelled)) due rfl
            | some m =>
              refine .done alive rfl uncancelled ?_ (now_advanceTo m)
              rw [ringing_of_none due, arrival_some]
              exact WithTop.coe_lt_top _
          | some d =>
            rw [ringing_of_some due] at uncancelled
            cases ready with
            | none =>
              rw [arrival_none, min_eq_left le_top] at uncancelled
              simp only [Option.map_some, earlier, Option.any_some, le_refl, decide_true, if_true]
              exact .late alive due uncancelled le_top (now_advanceTo _)
            | some m =>
              have later : t.now < m := WithTop.coe_lt_coe.1 unready
              rw [arrival_some, max_eq_right later.le, ← coe_min] at uncancelled
              simp only [Option.map_some, earlier, Option.any_some, decide_eq_true_eq]
              split
              case isTrue before =>
                rw [min_eq_left (le_min_iff.1 before).2] at uncancelled ⊢
                refine .late alive due uncancelled ?_ (now_advanceTo _)
                rw [arrival_some]
                exact WithTop.coe_le_coe.2 ((le_min_iff.1 before).2.trans (le_max_right _ _))
              case isFalse after =>
                have sooner : m < alarm d grain := by omega
                rw [min_eq_right sooner.le] at uncancelled ⊢
                refine .done alive rfl ?_ ?_ (now_advanceTo m)
                · rwa [arrival_some, max_eq_right later.le]
                · rw [arrival_some, ringing_of_some due, max_eq_right later.le]
                  exact WithTop.coe_lt_coe.2 sooner

/-- A call that is not alive is cancelled, or its deadline has come. -/
theorem check_eq_error {failure : Failure} (dead : t.check call = .error failure) :
    t.isCancelled call = true ∧ failure = .cancelled ∨
      t.isCancelled call = false ∧ failure = .deadlineExceeded ∧
        ∃ d ∈ call.deadline, d ≤ t.now := by
  unfold check at dead
  cases cancelled : t.isCancelled call with
  | true =>
    rw [cancelled] at dead
    cases dead
    exact .inl ⟨rfl, rfl⟩
  | false =>
    cases due : call.deadline with
    | none => simp [cancelled, due] at dead
    | some d =>
      by_cases past : d ≤ t.now
      · simp only [cancelled, due, past, Bool.false_eq_true, if_false, if_true] at dead
        cases dead
        exact .inr ⟨rfl, rfl, d, rfl, past⟩
      · simp [cancelled, due, past] at dead

namespace Ending

variable {wait : Wait} {t' : Timeline}

/-- How a wait ends is what the three moments decide, with the deadline heard at its alarm. -/
theorem verdict (ends : Ending t call ready grain wait t') :
    wait = t.verdict (alarm · grain) call ready grain := by
  -- While the call is alive, the first two questions do not arise.
  have unasked (alive : t.check call = .ok ()) :
      ¬t.isCancelled call ∧ ¬∃ d ∈ call.deadline, d ≤ t.now := by
    obtain ⟨live, early⟩ := check_eq_ok.1 alive
    exact ⟨by simp [live], fun ⟨d, due, past⟩ => (early d due).not_ge past⟩
  unfold Timeline.verdict
  cases ends with
  | refused dead =>
    obtain ⟨cancelled, rfl⟩ | ⟨live, rfl, past⟩ := check_eq_error dead
    · rw [if_pos cancelled]
    · rw [if_neg (by simp [live]), if_pos past]
  | struck alive first =>
    rw [if_neg (unasked alive).1, if_neg (unasked alive).2, if_pos first]
  | @late _ d alive due uncancelled first =>
    have heard : ringing (alarm · grain) call = alarm d grain := ringing_of_some due
    rw [if_neg (unasked alive).1, if_neg (unasked alive).2,
      if_neg (min_le_of_left_le (heard.trans_le uncancelled)).not_gt, if_pos ⟨d, due, first⟩]
  | done alive there uncancelled first =>
    have timely : ¬∃ d ∈ call.deadline, alarm d grain ≤ t.arrival ready := by
      rintro ⟨d, due, rung⟩
      rw [ringing_of_some due] at first
      exact first.not_ge rung
    rw [if_neg (unasked alive).1, if_neg (unasked alive).2,
      if_neg (min_le_of_right_le uncancelled).not_gt, if_neg timely, if_neg (by simp [there])]
  | never alive uncancelled timeless absent =>
    rw [if_neg (unasked alive).1, if_neg (unasked alive).2, if_neg (by simp [uncancelled]),
      if_neg (by simp [timeless]), if_pos absent]

/-- A wait that is over is so at the moment at which that is there which was waited for. -/
theorem arrives (ends : Ending t call ready grain .over t') : t'.now = t.arrival ready := by
  cases ends with
  | done alive there uncancelled first now => rw [now, there, arrival_some]

end Ending

/-! ## What is promised -/

/-- What is promised is how the race ends if each deadline is heard when it comes. -/
theorem promised_eq : t.promised call ready grain = t.verdict id call ready grain := by
  have heard : ringing id call = comes call.deadline := by rw [ringing, Option.map_id, id]
  unfold promised verdict
  rw [heard]
  by_cases cancelled : t.isCancelled call = true
  · rw [if_pos (.inl cancelled), if_pos cancelled]
  by_cases past : ∃ d ∈ call.deadline, d ≤ t.now
  · obtain ⟨d, due, gone⟩ := past
    have behind : comes call.deadline ≤ t.cancellation call grain := by
      rw [due]
      exact (WithTop.coe_le_coe.2 gone).trans now_le_cancellation
    rw [if_neg (not_or.2 ⟨cancelled, (min_le_of_left_le behind).not_gt⟩),
      if_pos ⟨d, due, .inl gone⟩, if_neg cancelled, if_pos ⟨d, due, gone⟩]
  · have ahead : (∃ d ∈ call.deadline, d ≤ t.now ∨ d ≤ t.arrival ready) ↔
        ∃ d ∈ call.deadline, id d ≤ t.arrival ready :=
      exists_congr fun d => and_congr_right fun due =>
        or_iff_right fun gone => past ⟨d, due, gone⟩
    simp only [cancelled, past, ahead, Bool.false_eq_true, false_or, if_false]

/-- A moment at which alarms ring: a whole millisecond that is not after the last one. -/
def Audible (grain moment : ℕ) : Prop :=
  grain ∣ moment ∧ moment ≤ lastAlarm * grain

/-- An alarm rings at the moment that it is set for exactly if alarms ring at this moment. -/
theorem alarm_eq_iff {d : ℕ} (some : 0 < grain) : alarm d grain = d ↔ Audible grain d := by
  unfold alarm Audible
  constructor
  · intro rings
    refine ⟨⟨_, rings.symm.trans (Nat.mul_comm _ _)⟩, ?_⟩
    rw [← rings]
    exact Nat.mul_le_mul_right grain (Nat.min_le_right _ _)
  · rintro ⟨⟨m, rfl⟩, early⟩
    have full : (grain * m + (grain - 1)) / grain = m := by
      rw [Nat.mul_add_div some, Nat.div_eq_of_lt (Nat.sub_lt some Nat.one_pos), Nat.add_zero]
    rw [full, Nat.min_eq_left, Nat.mul_comm]
    exact Nat.le_of_mul_le_mul_right ((Nat.mul_comm m grain).trans_le early) some

/-- The race ends in the same way if deadlines that are still to come are heard at the same
moments. -/
theorem verdict_congr {rings rings' : ℕ → ℕ}
    (same : ∀ d ∈ call.deadline, t.now < d → rings d = rings' d) :
    t.verdict rings call ready grain = t.verdict rings' call ready grain := by
  unfold verdict
  by_cases past : ∃ d ∈ call.deadline, d ≤ t.now
  · simp only [if_pos past]
  · have alike : ∀ d ∈ call.deadline, rings d = rings' d := fun d due =>
      same d due (Nat.lt_of_not_le fun gone => past ⟨d, due, gone⟩)
    have heard : ringing rings call = ringing rings' call :=
      congrArg comes (Option.map_congr alike)
    have late : (∃ d ∈ call.deadline, rings d ≤ t.arrival ready) ↔
        ∃ d ∈ call.deadline, rings' d ≤ t.arrival ready :=
      exists_congr fun d => and_congr_right fun due => by rw [alike d due]
    simp only [heard, late]

/-- What is promised is kept for a call whose deadline is heard in time. -/
theorem verdict_alarm_eq (timely : ∀ d ∈ call.deadline, t.now < d → alarm d grain = d) :
    t.verdict (alarm · grain) call ready grain = t.promised call ready grain :=
  (verdict_congr timely).trans promised_eq.symm

/-- For a call that nobody cancels, the deadline races against what is waited for alone. -/
theorem verdict_of_uncancelled {rings : ℕ → ℕ} {d m : ℕ} (live : t.isCancelled call = false)
    (uncancelled : t.cancellation call grain = ⊤) (due : call.deadline = some d)
    (ahead : t.now < d) : t.verdict rings call (some m) grain =
      if rings d ≤ max t.now m then .stopped .deadlineExceeded else .over := by
  have early : ¬d ≤ t.now := ahead.not_ge
  simp [verdict, live, uncancelled, due, early, arrival_some]

/-- If nobody cancels the call, what is promised is kept, whatever is waited for, exactly if its
deadline has come or is heard in time. -/
theorem verdict_alarm_eq_iff (live : t.isCancelled call = false)
    (uncancelled : t.cancellation call grain = ⊤) :
    (∀ ready, t.verdict (alarm · grain) call ready grain = t.promised call ready grain) ↔
      ∀ d ∈ call.deadline, t.now < d → alarm d grain = d := by
  refine ⟨fun kept d due ahead => ?_, fun timely ready => verdict_alarm_eq timely⟩
  have alike (m : ℕ) : alarm d grain ≤ max t.now m ↔ d ≤ max t.now m := by
    have same := kept (some m)
    rw [promised_eq, verdict_of_uncancelled live uncancelled due ahead,
      verdict_of_uncancelled live uncancelled due ahead] at same
    split_ifs at same with heard come come
    · exact iff_of_true heard come
    · exact iff_of_false heard come
  refine le_antisymm (((alike d).2 (le_max_right _ _)).trans_eq (max_eq_right ahead.le)) ?_
  have come := (alike (alarm d grain)).1 (le_max_right _ _)
  exact (le_max_iff.1 come).resolve_left ahead.not_ge

end Steward.Timeline

namespace Steward

/-! ## What is guarded -/

variable {Item α : Type}

/-- Runs something that takes effect at some moment, or never, unless the call is stopped before
that. There is no value if nothing ever happens. -/
def Op.race (call : Call) (ready : Option ℕ) (effect : Op Item α) (grain : ℕ) :
    Op Item (Option α) := do
  let wait ← onTimeline fun t => t.await call ready grain
  match wait with
  | .over => return some (← effect)
  | .stopped failure => fail failure
  | .endless => return none

/-- The world in which somebody has waited on behalf of the call. -/
def World.waited (w : World Item) (call : Call) (ready : Option ℕ) (grain : ℕ := 1) : World Item :=
  { w with timeline := (w.timeline.await call ready grain).2 }

/-- Guards decide the race of the call: by the three moments alone, with the effect of what is
guarded exactly where its value is the answer. There are `grain` moments to a millisecond. -/
structure DecidesRace (w : World Item) (call : Call) (grain : ℕ) : Prop where
  /-- A cancellation that others are asked for comes in its time. -/
  asked : ∀ delay, (w.timeline.cancelAfter call delay).cancellation call grain =
    min (w.timeline.cancellation call grain)
      (max w.timeline.now (w.timeline.wake delay grain) : ℕ)
  verdict : ∀ ready, (w.timeline.await call ready grain).1 =
    w.timeline.verdict (Timeline.alarm · grain) call ready grain
  /-- What is promised is kept unless the deadline lies between two milliseconds, or after the last
  one that alarms know. -/
  timely : 0 < grain → (∀ d ∈ call.deadline, Timeline.Audible grain d) → ∀ ready,
    w.timeline.verdict (Timeline.alarm · grain) call ready grain =
      w.timeline.promised call ready grain
  /-- Such a deadline, if it is still to come and nobody cancels the call, breaks the promise for
  something that may be waited for. -/
  untimely : 0 < grain → w.timeline.isCancelled call = false →
    w.timeline.cancellation call grain = ⊤ →
    (∃ d ∈ call.deadline, w.timeline.now < d ∧ ¬Timeline.Audible grain d) →
    ∃ ready, w.timeline.verdict (Timeline.alarm · grain) call ready grain ≠
      w.timeline.promised call ready grain
  /-- The effect takes place if the wait is over, and at the moment of arrival. -/
  completed : ∀ {α : Type} ready (effect : Op Item α),
    w.timeline.verdict (Timeline.alarm · grain) call ready grain = .over →
      (w.waited call ready grain).timeline.now = w.timeline.arrival ready ∧
        (Op.race call ready effect grain).outcome w =
          ((effect.outcome (w.waited call ready grain)).1.map some,
            (effect.outcome (w.waited call ready grain)).2)
  stopped : ∀ {α : Type} ready (effect : Op Item α) failure,
    w.timeline.verdict (Timeline.alarm · grain) call ready grain = .stopped failure →
      (Op.race call ready effect grain).outcome w =
        (.error (.failed failure), w.waited call ready grain)
  endless : ∀ {α : Type} ready (effect : Op Item α),
    w.timeline.verdict (Timeline.alarm · grain) call ready grain = .endless →
      (Op.race call ready effect grain).outcome w = (.ok none, w.waited call ready grain)
  /-- Nothing is begun for a call that is cancelled or has run out of time. -/
  unstarted : ∀ ready,
    w.timeline.isCancelled call ∨ (∃ d ∈ call.deadline, d ≤ w.timeline.now) →
      w.waited call ready grain = w
  /-- The operations of the store race in this way, among whole milliseconds. -/
  guarded : ∀ {α : Type} duration (effect : Op Item α),
    (Op.race call (some (w.timeline.wake duration)) effect 1).outcome w =
      (((Op.guarded call duration effect).outcome w).1.map some,
        ((Op.guarded call duration effect).outcome w).2)

theorem outcome_onTimeline {β : Type} (f : Timeline → β × Timeline) (next : β → Op Item α)
    (w : World Item) : (Op.onTimeline f >>= next).outcome w =
      (next (f w.timeline).1).outcome { w with timeline := (f w.timeline).2 } :=
  rfl

theorem outcome_race (w : World Item) (call : Call) (ready : Option ℕ) (effect : Op Item α)
    (grain : ℕ) : (Op.race call ready effect grain).outcome w =
      match (w.timeline.await call ready grain).1 with
      | .over => ((effect.outcome (w.waited call ready grain)).1.map some,
          (effect.outcome (w.waited call ready grain)).2)
      | .stopped failure => (.error (.failed failure), w.waited call ready grain)
      | .endless => (.ok none, w.waited call ready grain) := by
  rw [Op.race, outcome_onTimeline]
  rcases (w.timeline.await call ready grain).1 with _ | failure | _
  · exact outcome_answer some
  · rfl
  · rfl

/-- The operations of the store race for the moment at which they are through. -/
theorem outcome_race_wake (w : World Item) (call : Call) (duration : ℕ) (effect : Op Item α) :
    (Op.race call (some (w.timeline.wake duration)) effect 1).outcome w =
      (((Op.guarded call duration effect).outcome w).1.map some,
        ((Op.guarded call duration effect).outcome w).2) := by
  rw [outcome_race, Op.guarded, outcome_onTimeline]
  rcases wait : (w.timeline.await call (some (w.timeline.wake duration))).1 with _ | failure | _
  · rfl
  · rfl
  · exact absurd wait (Timeline.await_ne_endless _)

/-- Whoever does not wait leaves everything as it is. -/
theorem waited_of_dead {w : World Item} {call : Call} {failure : Failure}
    (dead : w.timeline.check call = .error failure) (ready : Option ℕ) (grain : ℕ) :
    w.waited call ready grain = w := by
  unfold World.waited Timeline.await
  rw [dead]

/-- Whatever is waited for, by whichever call and on a clock of whichever grain. -/
theorem decidesRace (w : World Item) (call : Call) (grain : ℕ) : DecidesRace w call grain where
  asked := Timeline.cancellation_cancelAfter
  verdict ready := (Timeline.ending_await _ _ _ _).verdict
  timely some audible ready := Timeline.verdict_alarm_eq fun d due _ =>
    (Timeline.alarm_eq_iff some).2 (audible d due)
  untimely some live uncancelled := by
    rintro ⟨d, due, ahead, inaudible⟩
    by_contra kept
    simp only [ne_eq, not_exists, not_not] at kept
    exact inaudible ((Timeline.alarm_eq_iff some).1
      ((Timeline.verdict_alarm_eq_iff live uncancelled).1 kept d due ahead))
  completed ready effect wins := by
    have ending := Timeline.ending_await w.timeline call ready grain
    rw [← ending.verdict] at wins
    rw [wins] at ending
    refine ⟨ending.arrives, ?_⟩
    rw [outcome_race, wins]
  stopped ready effect failure wins := by
    rw [outcome_race, (Timeline.ending_await _ _ _ _).verdict, wins]
  endless ready effect wins := by
    rw [outcome_race, (Timeline.ending_await _ _ _ _).verdict, wins]
  unstarted ready dead := by
    cases alive : w.timeline.check call with
    | error failure => exact waited_of_dead alive ready grain
    | ok =>
      obtain ⟨live, early⟩ := Timeline.check_eq_ok.1 alive
      rcases dead with cancelled | ⟨d, due, past⟩
      · exact absurd cancelled (Bool.eq_false_iff.1 live)
      · exact absurd past (early d due).not_ge
  guarded duration effect := outcome_race_wake w call duration effect

/-! ## Alarms that ring too early or too late -/

/-- A moment after the last one that alarms know. -/
def pastAlarms : Timeline where
  now := 18446744073709551615

/-- A call that has five milliseconds left at that moment. -/
def hurriedCall : Call where
  token := 0
  deadline := some 18446744073709551620

/-- A call whose deadline lies between two milliseconds, in nanoseconds. -/
def betweenCall : Call where
  token := 0
  deadline := some 1500000

/-- After the last alarm, a deadline stops a wait that would be over before it, while the call stays
alive. Between two milliseconds, a wait is over after the deadline of a call that is then no longer
alive. -/
theorem stopped_past_alarms :
    (pastAlarms.promised hurriedCall (some (pastAlarms.wake 3)) 1 = .over ∧
      (pastAlarms.await hurriedCall (some (pastAlarms.wake 3))).1 = .stopped .deadlineExceeded ∧
      (pastAlarms.await hurriedCall (some (pastAlarms.wake 3))).2.check hurriedCall = .ok ()) ∧
    Timeline.promised {} betweenCall (some 1600000) 1000000 = .stopped .deadlineExceeded ∧
      (Timeline.await {} betweenCall (some 1600000) 1000000).1 = .over ∧
      (Timeline.await {} betweenCall (some 1600000) 1000000).2.check betweenCall =
        .error .deadlineExceeded := by
  decide

end Steward

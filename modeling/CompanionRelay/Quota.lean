import CompanionRelay.Effects
import CompanionRelay.Host
import CompanionRelay.Turns
import CompanionRelay.WriteBehind

/-!
The daily byte quota of a room whose memory comes and goes. overQuota is a counter that is
written behind, once for each Room instance of the room and once for all in its kv row.
-/

namespace Relay

open WriteBehind (Memory)

section Statement
variable (env : Env) (state : State)

/-- The Room instance that runs. -/
def room : ContextId := state.live.getD 0

/-- A call of overQuota in the instance that runs, or the loss of the instance and a new one
that a get() makes. -/
def quotaStep (state : State) : WriteBehind.Event → State
  | .spend now size => replay (room state) state (meterQuota env now (room state) state size)
  | .lose _ => newContext state.nextId state

abbrev quotaSteps : List WriteBehind.Event → List (State × WriteBehind.Event) :=
  Machine.steps (quotaStep env) state

/-- The call returns true. -/
def returnsTrue (met : State × WriteBehind.Event) : Bool :=
  match met.2 with
  | .spend now size => overQuota env now (room met.1) met.1 size
  | .lose _ => false

/-- The start of the window in which the call counts. -/
def dayOf (met : State × WriteBehind.Event) : Nat :=
  (rolledQuota met.2.now (room met.1) met.1).1.dayStart

def inDay (from_ : Nat) (event : WriteBehind.Event) : Bool :=
  from_ ≤ event.now && event.now < from_ + quotaWindowMs

/-- The sizes of the calls of the interval that returned false. -/
def letThrough (from_ : Nat) (met : List (State × WriteBehind.Event)) : Nat :=
  (met.map fun met =>
    match met.2 with
    | .spend _ size => if inDay from_ met.2 && !returnsTrue env met then size else 0
    | .lose _ => 0).sum

/-- The instance drops of the interval. -/
def drops (from_ : Nat) (met : List (State × WriteBehind.Event)) : Nat :=
  met.countP fun met =>
    match met.2 with
    | .spend _ _ => false
    | .lose _ => inDay from_ met.2

/-- Once a call has returned true, every later call of its window does. -/
def StaysOver (events : List WriteBehind.Event) : Prop :=
  ∀ before first between later after, quotaSteps env state events =
      before ++ first :: between ++ later :: after →
    returnsTrue env first = true → later.2.now < dayOf first + quotaWindowMs →
    (∃ now size, later.2 = .spend now size) → returnsTrue env later = true

def BoundedPerDay (bound : Int) (events : List WriteBehind.Event) : Prop :=
  ∀ from_, (letThrough env from_ (quotaSteps env state events) : Int) ≤
    2 * bound + drops from_ (quotaSteps env state events) * quotaFlushBytes

end Statement

section Follows
variable {env : Env} {now : Nat} {ctx : ContextId} {state : State}

def Quota.count (quota : Quota) : WriteBehind.Count := ⟨quota.dayStart, quota.bytes⟩

/-- The three copies of the quota: in memory, last flushed, and stored. -/
def State.copies (state : State) (ctx : ContextId) : Memory where
  live := (state.quota ctx).map Quota.count
  flushed := state.quotaFlushedBytes ctx
  kept := state.store.quota.map Quota.count

theorem load_copies : WriteBehind.load now (state.copies ctx) =
    ((loadedQuota now ctx state).1.count, (loadedQuota now ctx state).2) := by
  unfold WriteBehind.load loadedQuota State.copies
  cases state.quota ctx with
  | some quota => rfl
  | none => cases state.store.quota <;> rfl

theorem rolls_copies : WriteBehind.rolls quotaWindowMs now (state.copies ctx) =
    decide (now - (loadedQuota now ctx state).1.dayStart ≥ quotaWindowMs) := by
  rw [WriteBehind.rolls, load_copies]
  rfl

theorem roll_copies : WriteBehind.roll quotaWindowMs now (state.copies ctx) =
    ((rolledQuota now ctx state).1.count, (rolledQuota now ctx state).2) := by
  unfold WriteBehind.roll rolledQuota
  rw [rolls_copies, load_copies]
  simp only [decide_eq_true_eq]
  split <;> rfl

theorem exceeds_copies (size : Nat) :
    WriteBehind.exceeds quotaWindowMs (dailyByteLimit env) now size (state.copies ctx) =
      overQuota env now ctx state size := by
  unfold WriteBehind.exceeds overQuota
  rw [roll_copies]
  rfl

theorem closeAll_copies (target : ContextId) (code : Nat) (reason : String) (other : State) :
    (replay ctx other (closeAll target state code reason)).copies ctx = other.copies ctx := by
  refine Script.replay_keeps (perform ctx) (fun state => state.copies ctx) _ ?_ other
  intro act member after
  obtain ⟨ws, _, rfl⟩ := List.mem_map.mp member
  rfl

theorem opening_stores :
    (replay ctx state
      ((if (state.quota ctx).isNone
          then [.get, .meter (loadedQuota now ctx state).1 (loadedQuota now ctx state).2] else []) ++
        if now - (loadedQuota now ctx state).1.dayStart ≥ quotaWindowMs
          then [.meter (rolledQuota now ctx state).1 (rolledQuota now ctx state).2,
            .put (.quota (rolledQuota now ctx state).1)] else [])).store.quota =
      if now - (loadedQuota now ctx state).1.dayStart ≥ quotaWindowMs
        then some (rolledQuota now ctx state).1 else state.store.quota := by
  split <;> split <;> simp [perform, Store.put]

theorem meter_copies (quota : Quota) (flushed : Nat) :
    (perform ctx state (.meter quota flushed)).copies ctx =
      ⟨some quota.count, flushed, state.store.quota.map Quota.count⟩ := by
  simp [perform, State.copies]

theorem put_copies (quota : Quota) :
    (perform ctx state (.put (.quota quota))).copies ctx =
      { state.copies ctx with kept := some quota.count } := by
  simp [perform, State.copies, Store.put]

-- overQuota does with the three copies what the counter does.
theorem meterQuota_copies (env : Env) (now : Nat) (ctx : ContextId) (state : State) (size : Nat) :
    (replay ctx state (meterQuota env now ctx state size)).copies ctx =
      WriteBehind.spend quotaWindowMs quotaFlushBytes (dailyByteLimit env) now size
        (state.copies ctx) := by
  unfold WriteBehind.spend meterQuota
  rw [exceeds_copies, rolls_copies, roll_copies]
  dsimp only [Quota.count]
  rw [replay_append]
  cases overQuota env now ctx state size with
  | true =>
      simp only [if_true]
      rw [replay_append, closeAll_copies]
      simp only [replay_cons, replay_nil, put_copies, meter_copies]
      rfl
  | false =>
      simp only [Bool.false_eq_true, if_false]
      by_cases flushes : (rolledQuota now ctx state).1.bytes + size - (rolledQuota now ctx state).2 ≥
          quotaFlushBytes
      · rw [if_pos flushes]
        simp only [replay_cons, replay_nil, put_copies, meter_copies]
        rw [if_pos flushes]
        rfl
      · rw [if_neg flushes]
        simp only [replay_cons, replay_nil, meter_copies, opening_stores]
        rw [if_neg flushes]
        simp only [decide_eq_true_eq]
        split <;> rfl

theorem quotaStep_copies (event : WriteBehind.Event) :
    (quotaStep env state event).copies (room (quotaStep env state event)) =
      WriteBehind.step quotaWindowMs quotaFlushBytes (dailyByteLimit env)
        (state.copies (room state)) event := by
  cases event with
  | spend now size =>
      have same : room (replay (room state) state (meterQuota env now (room state) state size)) =
          room state := by
        rw [room, replay_live]
        rfl
      simp only [quotaStep]
      rw [same]
      exact meterQuota_copies env now (room state) state size
  | lose now =>
      simp [quotaStep, newContext, room, State.copies, WriteBehind.step, WriteBehind.lose]

/-- What the counter meets along a run of calls and drops. -/
def counted (met : State × WriteBehind.Event) : Memory × WriteBehind.Event :=
  (met.1.copies (room met.1), met.2)

theorem quotaSteps_counted (events : List WriteBehind.Event) :
    (quotaSteps env state events).map counted =
      Machine.steps (WriteBehind.step quotaWindowMs quotaFlushBytes (dailyByteLimit env))
        (state.copies (room state)) events :=
  (Machine.run_simulates (quotaStep env) _ (fun state => state.copies (room state))
    (fun _ => quotaStep_copies) state events).2

theorem letThrough_counted (from_ : Nat) (met : List (State × WriteBehind.Event)) :
    letThrough env from_ met =
      WriteBehind.spentTotal quotaWindowMs (dailyByteLimit env) from_ (met.map counted) := by
  unfold letThrough WriteBehind.spentTotal
  rw [List.map_map]
  congr 1
  refine List.map_congr_left fun met _ => ?_
  obtain ⟨before, event⟩ := met
  cases event with
  | spend now size =>
      simp only [Function.comp, WriteBehind.spentIn, counted, exceeds_copies, returnsTrue, inDay,
        Bool.and_eq_true, Bool.not_eq_true', decide_eq_true_eq, and_assoc]
      rfl
  | lose now => rfl

theorem drops_counted (from_ : Nat) (met : List (State × WriteBehind.Event)) :
    drops from_ met = WriteBehind.losses quotaWindowMs from_ (met.map counted) := by
  unfold drops WriteBehind.losses
  rw [List.countP_map]
  congr 1
  funext met
  obtain ⟨before, event⟩ := met
  cases event with
  | spend now size => rfl
  | lose now => exact (Bool.decide_and _ _).symm

end Follows

-- Once the quota of a window is exceeded it stays exceeded, whichever instances come and go.
theorem stays_over (env : Env) (state : State) (events : List WriteBehind.Event)
    (ordered : events.Pairwise fun first second => first.now ≤ second.now) :
    StaysOver env state events := by
  intro before first between later after split over_ early call
  rw [List.append_assoc, List.cons_append] at split
  obtain ⟨earlier, rest, rfl, -, -, later_⟩ := Machine.steps_split _ state events before
    (between ++ later :: after) first split
  obtain ⟨middle, last, rfl, -, reached, -⟩ :=
    Machine.steps_split _ _ rest between after later later_.symm
  have sorted := (List.pairwise_append.mp ordered).2.1
  have times := (List.pairwise_append.mp (List.pairwise_cons.mp sorted).2).2.2
  obtain ⟨now', size', called⟩ := call
  obtain ⟨start, event⟩ := first
  obtain ⟨reach, event'⟩ := later
  obtain rfl := called
  cases event with
  | lose now => exact Bool.noConfusion over_
  | spend now size =>
      have follows := (Machine.run_simulates (quotaStep env) _ (fun state => state.copies (room state))
        (fun _ => quotaStep_copies) (quotaStep env start (.spend now size)) middle).1
      rw [← reached, quotaStep_copies] at follows
      have stays := WriteBehind.refused_stays quotaWindowMs quotaFlushBytes (dailyByteLimit env)
        (by decide) (start.copies (room start)) now size ((exceeds_copies size).trans over_)
        middle now' size' (fun event member => times event member (.spend now' size') (by simp))
        (by rw [roll_copies]; exact early)
      exact (exceeds_copies size').symm.trans (by rwa [follows])

/-- overQuota over the loss of the room's memory. -/
theorem quota_survives (env : Env) (state : State) (fresh : state.quota (room state) = none)
    (events : List WriteBehind.Event)
    (ordered : events.Pairwise fun first second => first.now ≤ second.now) :
    StaysOver env state events ∧ BoundedPerDay env state (max (dailyByteLimit env) 0) events := by
  refine ⟨stays_over env state events ordered, fun from_ => ?_⟩
  have bounded := WriteBehind.spent_bounded quotaWindowMs quotaFlushBytes (dailyByteLimit env)
    (by decide) (by decide) (state.copies (room state))
    (by simp [State.copies, fresh]) events ordered from_
  rw [← quotaSteps_counted, ← letThrough_counted, ← drops_counted] at bounded
  exact bounded

theorem drop_between_survives :
    StaysOver (sampleEnv false) {} [.spend 0 60, .lose 1, .spend 2 70] ∧
      BoundedPerDay (sampleEnv false) {} (max (dailyByteLimit (sampleEnv false)) 0)
        [.spend 0 60, .lose 1, .spend 2 70] :=
  quota_survives (sampleEnv false) {} rfl [.spend 0 60, .lose 1, .spend 2 70] (by decide)

def negativeQuotaEnv : Env := { sampleEnv false with dailyByteQuota := some (-1) }

/-- Below a negative limit nothing is let through, and nothing is still more than the bound. -/
theorem negative_quota_exceeds :
    ¬ ∀ (env : Env) (state : State), state.quota (room state) = none →
      ∀ events : List WriteBehind.Event,
        (events.Pairwise fun first second => first.now ≤ second.now) →
          StaysOver env state events ∧ BoundedPerDay env state (dailyByteLimit env) events := by
  intro all
  have bounded := (all negativeQuotaEnv {} rfl [.spend 0 1] (List.pairwise_singleton _ _)).2 0
  exact absurd bounded (by decide)

end Relay

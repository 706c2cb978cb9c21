import CompanionRelay.Housekeeping

/-!
The alarm row and the timer of the registered context over a run. setAlarm and deleteAlarm move
both of them, _fire takes the timer and leaves the row, init() arms the timer from the row.
`Pace` tells, from the turns of alarm() and the changes of the alarm time alone, whether the
timer still keeps up with the row.
-/

namespace Relay

/-- What a run has left of the room's alarm: a time that the timer keeps, the retry of an
alarm() that threw, or a time that no timer stands for. -/
inductive Pace
  | kept
  | retry (at_ : Nat)
  | lost
  deriving DecidableEq

def Pace.after (registered : Bool) (pace : Pace) : Act → Pace
  -- a context that has been evicted sets the row without the timer of the registered one
  | .setAlarm _ => if registered then .kept else .lost
  | .deleteAlarm => .kept
  | .rearm at_ => if registered then .retry at_ else pace
  | _ => pace

/-- A context is made, or the process is: the timer is armed from the row. -/
def Event.loads : Event → Bool
  | .get _ | .restart _ => true
  | _ => false

-- An alarm() of the registered context uses up its time before it does anything.
def Pace.starting (event : Event) (registered : Bool) (pace : Pace) : Pace :=
  if event.loads then .kept else if event.isAlarm && registered then .lost else pace

def paceAfter (env : Env) (pace : Pace) (met : State × Event) : Pace :=
  match turn env met.1 met.2 with
  | none => pace
  | some turned =>
      let registered := decide (turned.start.live = some turned.ctx)
      turned.acts.foldl (Pace.after registered) (pace.starting met.2 registered)

def pace (env : Env) (events : List Event) : Pace :=
  (steps env events).foldl (paceAfter env) .kept

/-- The timer of the registered context is as the pace has it, unless its alarm() is running. -/
def Paced (state : State) (pace : Pace) : Prop :=
  ∀ resident, state.live = some resident → state.alarming = some resident ∨
    match pace with
    | .kept => state.alarmRow = none ∨
        ∃ armed, state.timer resident = some armed ∧ ∀ at_ ∈ state.alarmRow, armed ≤ at_
    | .retry at_ => ∃ armed, state.timer resident = some armed ∧ armed ≤ at_
    | .lost => True

section Turns
variable {env : Env} {state : State} {event : Event} {met : Turn} {ctx : ContextId} {pace : Pace}

theorem Paced.lost : Paced state .lost := fun _ _ => .inr trivial

theorem Paced.of_parts {after : State} (paced : Paced state pace)
    (live : ∀ resident, after.live = some resident → state.live = some resident)
    (alarming : after.alarming = state.alarming) (row : after.alarmRow = state.alarmRow)
    (timer : after.timer = state.timer) : Paced after pace := by
  intro resident registered
  rw [alarming, row, timer]
  exact paced resident (live resident registered)

theorem paced_perform (ctx : ContextId) (paced : Paced state pace) (act : Act) :
    Paced (perform ctx state act) (pace.after (decide (state.live = some ctx)) act) := by
  have same : ∀ {after : State}, after.live = state.live → after.alarming = state.alarming →
      after.alarmRow = state.alarmRow → after.timer = state.timer → Paced after pace :=
    fun live => paced.of_parts (fun _ registered => live ▸ registered)
  cases act with
  | setAlarm at_ =>
      by_cases here : state.live = some ctx
      · intro resident registered
        obtain rfl : ctx = resident := Option.some.inj (here.symm.trans registered)
        simp [perform, Pace.after, here]
      · simp only [Pace.after, here, decide_false, Bool.false_eq_true, if_false]
        exact .lost
  | deleteAlarm => exact fun resident _ => .inr (.inl rfl)
  | rearm at_ =>
      by_cases here : state.live = some ctx
      · intro resident registered
        obtain rfl : ctx = resident := Option.some.inj (here.symm.trans registered)
        simp [perform, Pace.after, here]
      · intro resident registered
        have apart : resident ≠ ctx := fun same => here (same ▸ registered)
        simpa [perform, Pace.after, here, Function.update_of_ne apart] using
          paced resident registered
  | _ => exact same rfl rfl rfl rfl

theorem paced_replay (ctx : ContextId) (paced : Paced state pace) (script : List Act) :
    Paced (replay ctx state script)
      (script.foldl (Pace.after (decide (state.live = some ctx))) pace) := by
  induction script generalizing state pace with
  | nil => exact paced
  | cons act rest ih =>
      have next := ih (paced_perform ctx paced act)
      rwa [perform_live] at next

theorem paced_init (now : Nat) (row : state.alarmRow ≠ none → state.live = some ctx) :
    Paced (init now ctx state) .kept := by
  intro resident registered
  rw [init_keeps] at registered
  unfold init
  cases stored : state.alarmRow with
  | none => exact .inr (.inl stored)
  | some at_ =>
      obtain rfl : ctx = resident :=
        Option.some.inj ((row (by simp [stored])).symm.trans registered)
      by_cases due : at_ ≤ now
      · exact .inl (by simp [due])
      · exact .inr (.inr ⟨at_, by simp [due], by simp [due]⟩)

theorem paced_evict (paced : Paced state pace) : Paced (maybeEvict ctx state) pace := by
  unfold maybeEvict
  split
  · intro resident registered
    cases registered
  · exact paced

theorem Turns.paced_start (turns : Turns env state event met) (paced : Paced state pace) :
    Paced met.start (pace.starting event (decide (met.start.live = some met.ctx))) := by
  cases turns with
  | get now absent quiet => exact paced_init now fun _ => rfl
  | restart now =>
      simp only [Pace.starting, Event.loads, if_true]
      unfold Relay.restart
      dsimp only
      split
      · intro resident registered
        cases registered
      · exact paced_evict (paced_init now fun _ => rfl)
  | chunk ws frames tail attached hears upgraded quiet =>
      rw [hang_up_keeps]
      exact paced.of_parts (fun _ registered => registered) rfl rfl rfl
  | ended ws attached open_ quiet => exact paced_evict paced
  | fire now ctx at_ fault armed due quiet =>
      by_cases here : state.live = some ctx
      · simp only [Pace.starting, Event.loads, Event.isAlarm, alarmTurn, here, decide_true]
        exact .lost
      · intro resident registered
        have apart : resident ≠ ctx := fun same => here (same ▸ registered)
        simpa [Pace.starting, Event.loads, alarmTurn, here, Function.update_of_ne apart] using
          paced resident registered
  | alarm now ctx fault started =>
      by_cases here : state.live = some ctx
      · simp only [Pace.starting, Event.loads, Event.isAlarm, alarmTurn, here, decide_true]
        exact .lost
      · intro resident registered
        have apart : resident ≠ ctx := fun same => here (same ▸ registered)
        have before := (paced resident registered).resolve_left fun running =>
          apart (Option.some.inj (running.symm.trans started))
        simpa [Pace.starting, Event.loads, alarmTurn, here] using before
  | task now ws task rest drained free next => cases task <;> exact paced
  | _ => exact paced

theorem paced_step (paced : Paced state pace) :
    Paced (step env state event) (paceAfter env pace (state, event)) := by
  cases happens : turn env state event with
  | none => simpa [step, paceAfter, happens] using paced
  | some met =>
      have turns := turn_turns happens
      have result : step env state event = met.result := by rw [step, happens]
      have replayed := paced_replay met.ctx (turns.paced_start paced) met.acts
      rw [result]
      simp only [paceAfter, happens]
      unfold Turn.result
      rcases turns.finish_keeps (replay met.ctx met.start met.acts) with same | evicted
      · rw [same]
        exact replayed
      · rw [evicted]
        exact paced_evict replayed

end Turns

theorem pace_append (env : Env) (events : List Event) (event : Event) :
    pace env (events ++ [event]) = paceAfter env (pace env events) (run env events, event) := by
  simp [pace, steps, Machine.steps_append, run]

-- The row and the timer keep the pace of the run, whatever its alarms have done.
theorem paced_run (env : Env) (events : List Event) : Paced (run env events) (pace env events) := by
  induction events using List.reverseRecOn with
  | nil => exact fun resident registered => by cases registered
  | append_singleton before event ih =>
      rw [pace_append, run, Machine.run_append]
      exact paced_step ih

end Relay

import CompanionRelay.Footprint

/-!
What a step can do, said once: the turns an event can have, with the guards under
which it has them, and the parts of the state that only the acts of a turn change.
-/

namespace Relay

open Function (update)

/-- The turns of the events that can happen. -/
inductive Turns (env : Env) (state : State) : Event → Turn → Prop
  | get (now : Nat) (absent : state.live = none) (quiet : state.alarming = none) :
      Turns env state (.get now)
        { ctx := state.nextId
          start := init now state.nextId
            { newContext state.nextId state with loading := some state.nextId } }
  | connect (now : Nat) (ws : SocketId) (ctx : ContextId) (resident : state.live = some ctx)
      (unseen : state.attachment ws = none) :
      Turns env state (.connect now ws)
        { ctx := ctx
          start := (freshSocket ws state).enter
          script := handleUpgrade env now state.nextId ws }
  | chunk (ws : SocketId) (frames : List (Frame × Bytes × Option Nat)) (tail : Tail)
      (attached : (state.attachment ws).isSome) (hears : state.deaf ws = false)
      (upgraded : state.upgrading ws = false) (quiet : state.draining = none) :
      Turns env state (.chunk ws frames tail)
        { ctx := state.home ws
          start := hangUp ws tail (state.push ws (frameTasks frames tail)) }
  | ended (ws : SocketId) (attached : (state.attachment ws).isSome)
      (open_ : state.ended ws = false) (quiet : state.draining = none) :
      Turns env state (.ended ws)
        { ctx := state.home ws
          start := maybeEvict (state.home ws) (endSocket ws
            (state.push ws (if state.serverClosed ws then [] else [.closed]))) }
  | idle (now : Nat) (ws : SocketId) (drained : state.draining = some ws)
      (stopped : state.verifying ws = true ∨ state.chain ws = []) :
      Turns env state (.run now)
        { ctx := state.home ws, start := { state with draining := none } }
  | task (now : Nat) (ws : SocketId) (task : Task) (rest : List Task)
      (drained : state.draining = some ws) (free : state.verifying ws = false)
      (next : state.chain ws = task :: rest) :
      Turns env state (.run now)
        (taskTurn env now (state.pop ws rest) ws state.nextId task)
  | resume (now id : Nat) (random : Bytes) (fault : Option Nat) (handler : Suspended)
      (found : state.find id = some handler) (quiet : state.draining = none) :
      Turns env state (.resume now id random fault)
        { ctx := handler.ctx
          start := state.wake id handler.await.drains
          script := continuation env now handler.ctx (state.wake id handler.await.drains) random id
            handler.await
          fault := fault
          onThrow := handler.await.onThrow id
          finish := maybeEvict handler.ctx }
  | request (now : Nat) (request : Request) (random : Bytes) (fault : Option Nat)
      (ctx : ContextId) (resident : state.live = some ctx) :
      Turns env state (.request now request random fault)
        { ctx := ctx
          start := state.enter
          script := handleHttp env now state.enter state.nextId random request
          fault := fault
          onThrow := [.reply state.nextId request.endpoint 500 (.error "internal error")]
          finish := maybeEvict ctx }
  | fire (now : Nat) (ctx : ContextId) (at_ : Nat) (fault : Option Nat)
      (armed : state.timer ctx = some at_) (due : at_ ≤ now) (quiet : state.alarming = none) :
      Turns env state (.fire now ctx fault)
        (alarmTurn env now ctx { state with timer := update state.timer ctx none }
          (preAuth ctx state) fault)
  | alarm (now : Nat) (ctx : ContextId) (fault : Option Nat)
      (started : state.alarming = some ctx) :
      Turns env state (.alarm now fault)
        (alarmTurn env now ctx { state with alarming := none } [] fault)
  | drain (ctx : ContextId) (resident : state.live = some ctx) :
      Turns env state .drain
        { ctx := ctx, start := state, script := closeAll ctx state wsReshardCode "reshard" }
  | restart (now : Nat) : Turns env state (.restart now) { ctx := 0, start := restart now state }

variable {env : Env} {state : State} {event : Event} {met : Turn}

theorem run_turns {now : Nat} {ws : SocketId} (drained : state.draining = some ws) :
    Turns env state (.run now) (runTurn env now state ws) := by
  unfold runTurn
  by_cases verifying : state.verifying ws = true
  · simp only [verifying, if_true]
    exact .idle now ws drained (.inl verifying)
  · simp only [verifying, Bool.false_eq_true, if_false]
    cases tasks : state.chain ws with
    | nil => exact .idle now ws drained (.inr tasks)
    | cons task rest => exact .task now ws task rest drained (by simpa using verifying) tasks

theorem turn_turns (happens : turn env state event = some met) : Turns env state event met := by
  unfold turn at happens
  split at happens
  · simp at happens
  rename_i free
  cases event with
  | get now =>
      simp only [quietTurn, State.busy, Bool.or_eq_true, not_or] at happens free
      split at happens
      · simp at happens
      · rename_i absent
        cases happens
        exact .get now (by simpa using absent) (by simpa using free.1.2)
  | connect now ws =>
      simp only [quietTurn] at happens
      split at happens
      · simp at happens
      · rename_i ctx resident
        split at happens
        · simp at happens
        · rename_i unseen
          cases happens
          exact .connect now ws ctx resident (by simpa using unseen)
  | chunk ws frames tail =>
      simp only [quietTurn, State.busy, Bool.or_eq_true, not_or] at happens free
      split at happens
      · simp at happens
      · rename_i ready
        cases happens
        simp only [not_or] at ready
        exact .chunk ws frames tail (by simpa [Option.isSome_iff_ne_none] using ready.1.1)
          (by simpa using ready.1.2) (by simpa using ready.2) (by simpa using free.1.1)
  | ended ws =>
      simp only [quietTurn, State.busy, Bool.or_eq_true, not_or] at happens free
      split at happens
      · simp at happens
      · rename_i ready
        cases happens
        simp only [not_or] at ready
        exact .ended ws (by simpa [Option.isSome_iff_ne_none] using ready.1)
          (by simpa using ready.2) (by simpa using free.1.1)
  | run now =>
      obtain ⟨ws, drained, rfl⟩ := Option.map_eq_some_iff.mp happens
      exact run_turns drained
  | resume now id random fault =>
      simp only [State.busy, Bool.or_eq_true, not_or] at free
      obtain ⟨handler, found, rfl⟩ := Option.map_eq_some_iff.mp happens
      exact .resume now id random fault handler found (by simpa using free.1.1)
  | request now request random fault =>
      obtain ⟨ctx, resident, rfl⟩ := Option.map_eq_some_iff.mp happens
      exact .request now request random fault ctx resident
  | fire now ctx fault =>
      simp only [quietTurn, State.busy, Bool.or_eq_true, not_or] at happens free
      split at happens
      · simp at happens
      · rename_i at_ armed
        split at happens
        · rename_i due
          cases happens
          exact .fire now ctx at_ fault armed due (by simpa using free.1.2)
        · simp at happens
  | alarm now fault =>
      obtain ⟨ctx, started, rfl⟩ := Option.map_eq_some_iff.mp happens
      exact .alarm now ctx fault started
  | drain =>
      obtain ⟨ctx, resident, rfl⟩ := Option.map_eq_some_iff.mp happens
      exact .drain ctx resident
  | restart now =>
      cases happens
      exact .restart now

theorem mem_acts {act : Act} (member : act ∈ acts env state event) :
    ∃ met, Turns env state event met ∧ act ∈ met.acts := by
  unfold acts at member
  cases happens : turn env state event with
  | none => simp [happens] at member
  | some met => exact ⟨met, turn_turns happens, by simpa [happens] using member⟩

theorem turn_act {act : Act} (member : act ∈ met.acts) :
    act ∈ met.script ∨ act ∈ met.onThrow := by
  unfold Turn.acts at member
  rcases List.mem_append.mp member with ran | caught
  · exact .inl (Script.done_subset _ _ ran)
  · split at caught
    · exact .inr caught
    · simp at caught

theorem Turn.acts_whole (finished : threw met.fault met.script = false) :
    met.acts = met.script := by
  simp only [Turn.acts, finished, Bool.false_eq_true, if_false, List.append_nil]
  exact Script.done_of_not_threw _ _ _ _ finished

@[simp] def catchVerbs : List Verb := [.close, .reply, .rearm]

theorem Turns.on_throw (turns : Turns env state event met) : Within catchVerbs met.onThrow := by
  cases turns with
  | task now ws task rest drained free next => cases task <;> simp [taskTurn]
  | resume now id random fault handler found quiet =>
      cases await : handler.await <;> simp [Await.onThrow]
  | fire => simp [alarmTurn]
  | alarm => simp [alarmTurn]
  | request => simp
  | get => exact Within.nil
  | connect => exact Within.nil
  | chunk => exact Within.nil
  | ended => exact Within.nil
  | idle => exact Within.nil
  | drain => exact Within.nil
  | restart => exact Within.nil

theorem Turns.within {verbs : List Verb} (turns : Turns env state event met)
    (fits : Within verbs met.script) : Within (catchVerbs ++ verbs) met.acts := by
  constructor
  intro act member
  rcases turn_act member with ran | caught
  · exact List.mem_append_right _ (fits.each act ran)
  · exact List.mem_append_left _ (turns.on_throw.each act caught)

theorem Turns.script_within (turns : Turns env state event met) :
    Within (footprint env state event) met.script := by
  cases turns with
  | get now absent quiet => exact Within.nil
  | connect now ws ctx resident unseen => exact handleUpgrade_within ..
  | chunk ws frames tail attached hears upgraded quiet => exact Within.nil
  | ended ws attached open_ quiet => exact Within.nil
  | idle now ws drained stopped => exact Within.nil
  | task now ws task rest drained free next =>
      cases task with
      | message frame random fault =>
          simp only [footprint, drained, Option.map_some, next]
          exact webSocketMessage_within ..
      | closed =>
          simp only [footprint, drained, Option.map_some, next]
          exact closePeerOf_within ..
      | errored =>
          simp only [footprint, drained, Option.map_some, next]
          exact closePeerOf_within ..
  | resume now id random fault handler found quiet =>
      simp only [footprint, found, Option.map_some, Option.getD_some]
      exact continuation_within ..
  | request now request random fault ctx resident => exact handleHttp_within ..
  | fire now ctx at_ fault armed due quiet => exact alarm_within ..
  | alarm now ctx fault started => exact alarm_within ..
  | drain ctx resident => exact closeAll_within ..
  | restart now => exact Within.nil

theorem acts_within (env : Env) (state : State) (event : Event) :
    Within (catchVerbs ++ footprint env state event) (acts env state event) := by
  constructor
  intro act member
  obtain ⟨met, turns, inside⟩ := mem_acts member
  exact (turns.within turns.script_within).each act inside

/-- The kinds of act that an event performs other than by a request or by a handler that goes
on. -/
@[simp] def plainTurnVerbs : List Verb :=
  catchVerbs ++ messageVerbs ++ alarmVerbs ++ [.accept, .attach, .suspend]

-- An act of another kind, if it is none of a request, is that of a handler that goes on.
theorem resumes_of_verb {act : Act} (member : act ∈ acts env state event)
    (apart : act.verb ∉ plainTurnVerbs) (unasked : ∀ request : Request, act.verb ∉ request.verbs env) :
    ∃ now id random fault handler, event = .resume now id random fault ∧
      state.find id = some handler ∧
      act ∈ continuation env now handler.ctx (state.wake id handler.await.drains) random id
        handler.await := by
  obtain ⟨met, turns, inside⟩ := mem_acts member
  have ran : act ∈ met.script := by
    rcases turn_act inside with ran | caught
    · exact ran
    · have thrown := turns.on_throw.each _ caught
      exact absurd (by simp at thrown ⊢; tauto) apart
  have elsewhere : ∀ verbs, Within verbs met.script → verbs ⊆ plainTurnVerbs → False :=
    fun verbs fits inside => apart (inside (fits.each _ ran))
  have fits := turns.script_within
  cases turns with
  | resume now id random fault handler found quiet =>
      exact ⟨now, id, random, fault, handler, rfl, found, ran⟩
  | request now request random fault ctx resident =>
      exact absurd (fits.each _ ran) (unasked request)
  | task now ws task rest drained free next =>
      simp only [footprint] at fits
      split at fits
      · exact (elsewhere _ fits (by simp)).elim
      · exact (elsewhere _ fits (by simp)).elim
      · exact (elsewhere _ fits (by simp)).elim
      · exact (elsewhere _ fits (by simp)).elim
      · exact (elsewhere _ fits (by simp)).elim
  | connect => exact (elsewhere _ fits (by simp [footprint])).elim
  | fire => exact (elsewhere _ fits (by simp [footprint])).elim
  | alarm => exact (elsewhere _ fits (by simp [footprint])).elim
  | drain => exact (elsewhere _ fits (by simp [footprint])).elim
  | _ => exact absurd ran List.not_mem_nil

theorem step_cases (env : Env) (state : State) (event : Event) :
    (acts env state event = [] ∧ step env state event = state) ∨
      ∃ met, Turns env state event met ∧ acts env state event = met.acts ∧
        step env state event = met.result := by
  unfold acts step
  cases happens : turn env state event with
  | none => exact .inl ⟨rfl, rfl⟩
  | some met => exact .inr ⟨met, turn_turns happens, rfl, rfl⟩

theorem turn_free (happens : turn env state event = some met) : state.busy event = false := by
  unfold turn at happens
  split at happens
  · simp at happens
  · rename_i free
    simpa using free

theorem step_met (env : Env) (state : State) (event : Event) :
    (acts env state event = [] ∧ step env state event = state) ∨
      ∃ met, Turns env state event met ∧ state.busy event = false ∧
        acts env state event = met.acts ∧ step env state event = met.result := by
  unfold acts step
  cases happens : turn env state event with
  | none => exact .inl ⟨rfl, rfl⟩
  | some met => exact .inr ⟨met, turn_turns happens, turn_free happens, rfl, rfl⟩

/-- A storage call of the turn, or the handler itself, throws. -/
def cutShort (env : Env) (state : State) (event : Event) : Bool :=
  match turn env state event with
  | none => false
  | some turn => threw turn.fault turn.script

section Parts

/-- An act's effect on the rows of the room. -/
def Store.after (store : Store) : Act → Store
  | .put row => store.put row
  | .delete key => store.delete key
  | .deleteAll => {}
  | _ => store

/-- An act's effect on the alarm row. -/
def rowAfter (row : Option Nat) : Act → Option Nat
  | .setAlarm at_ => some at_
  | .deleteAlarm => none
  | _ => row

/-- An act's effect on the attachments. -/
def attachmentAfter (attachment : SocketId → Option Attachment) :
    Act → SocketId → Option Attachment
  | .attach ws value => update attachment ws (some value)
  | _ => attachment

theorem perform_store (ctx : ContextId) (state : State) (act : Act) :
    (perform ctx state act).store = state.store.after act := by
  cases act <;> rfl

theorem perform_alarm_row (ctx : ContextId) (state : State) (act : Act) :
    (perform ctx state act).alarmRow = rowAfter state.alarmRow act := by
  cases act <;> rfl

theorem perform_attachment (ctx : ContextId) (state : State) (act : Act) :
    (perform ctx state act).attachment = attachmentAfter state.attachment act := by
  cases act <;> rfl

@[simp] theorem perform_live (ctx : ContextId) (state : State) (act : Act) :
    (perform ctx state act).live = state.live := by
  cases act <;> rfl

@[simp] theorem perform_chain (ctx : ContextId) (state : State) (act : Act) :
    (perform ctx state act).chain = state.chain := by
  cases act <;> rfl

@[simp] theorem perform_draining (ctx : ContextId) (state : State) (act : Act) :
    (perform ctx state act).draining = state.draining := by
  cases act <;> rfl

@[simp] theorem perform_alarming (ctx : ContextId) (state : State) (act : Act) :
    (perform ctx state act).alarming = state.alarming := by
  cases act <;> rfl

@[simp] theorem perform_loading (ctx : ContextId) (state : State) (act : Act) :
    (perform ctx state act).loading = state.loading := by
  cases act <;> rfl

@[simp] theorem perform_next_id (ctx : ContextId) (state : State) (act : Act) :
    (perform ctx state act).nextId = state.nextId := by
  cases act <;> rfl

theorem maybe_evict_live (ctx : ContextId) (state : State) :
    maybeEvict ctx state = { state with live := (maybeEvict ctx state).live } := by
  unfold maybeEvict
  split <;> rfl

@[simp] theorem maybe_evict_store (ctx : ContextId) (state : State) :
    (maybeEvict ctx state).store = state.store := by
  rw [maybe_evict_live]

@[simp] theorem maybe_evict_alarm_row (ctx : ContextId) (state : State) :
    (maybeEvict ctx state).alarmRow = state.alarmRow := by
  rw [maybe_evict_live]

@[simp] theorem maybe_evict_attachment (ctx : ContextId) (state : State) :
    (maybeEvict ctx state).attachment = state.attachment := by
  rw [maybe_evict_live]

theorem init_keeps (now : Nat) (ctx : ContextId) (state : State) :
    init now ctx state =
      { state with
        timer := (init now ctx state).timer
        alarming := (init now ctx state).alarming } := by
  unfold init
  split
  · rfl
  · split <;> rfl

theorem hang_up_keeps (ws : SocketId) (tail : Tail) (state : State) :
    hangUp ws tail state =
      { state with
        closeFrameReceived := (hangUp ws tail state).closeFrameReceived
        deaf := (hangUp ws tail state).deaf
        serverClosed := (hangUp ws tail state).serverClosed
        sockets := (hangUp ws tail state).sockets } := by
  cases tail <;> rfl

theorem Turns.start_keeps (turns : Turns env state event met) :
    met.start.store = state.store ∧ met.start.alarmRow = state.alarmRow ∧
      met.start.attachment = state.attachment := by
  cases turns with
  | get now absent quiet => exact ⟨by rw [init_keeps]; rfl, by rw [init_keeps]; rfl,
      by rw [init_keeps]; rfl⟩
  | connect now ws ctx resident unseen => exact ⟨rfl, rfl, rfl⟩
  | chunk ws frames tail attached hears upgraded quiet =>
      exact ⟨by rw [hang_up_keeps]; rfl, by rw [hang_up_keeps]; rfl, by rw [hang_up_keeps]; rfl⟩
  | ended ws attached open_ quiet => simp [endSocket, State.push]
  | idle now ws drained stopped => exact ⟨rfl, rfl, rfl⟩
  | task now ws task rest drained free next => cases task <;> exact ⟨rfl, rfl, rfl⟩
  | resume now id random fault handler found quiet => exact ⟨rfl, rfl, rfl⟩
  | request now request random fault ctx resident => exact ⟨rfl, rfl, rfl⟩
  | fire now ctx at_ fault armed due quiet => exact ⟨rfl, rfl, rfl⟩
  | alarm now ctx fault started => exact ⟨rfl, rfl, rfl⟩
  | drain ctx resident => exact ⟨rfl, rfl, rfl⟩
  | restart now =>
      dsimp only [Relay.restart]
      split
      · exact ⟨rfl, rfl, rfl⟩
      · simp only [maybe_evict_store, maybe_evict_alarm_row, maybe_evict_attachment]
        exact ⟨by rw [init_keeps]; rfl, by rw [init_keeps]; rfl, by rw [init_keeps]; rfl⟩

theorem Turns.finish_keeps (turns : Turns env state event met) (after : State) :
    met.finish after = after ∨ met.finish after = maybeEvict met.ctx after := by
  cases turns with
  | task now ws task rest drained free next =>
      cases task with
      | message frame random fault => exact .inr rfl
      | closed => exact .inl rfl
      | errored => exact .inl rfl
  | resume => exact .inr rfl
  | request => exact .inr rfl
  | fire => exact .inr rfl
  | alarm => exact .inr rfl
  | get => exact .inl rfl
  | connect => exact .inl rfl
  | chunk => exact .inl rfl
  | ended => exact .inl rfl
  | idle => exact .inl rfl
  | drain => exact .inl rfl
  | restart => exact .inl rfl

-- The rows of a room change by the acts of its handlers and by nothing else.
theorem step_store (env : Env) (state : State) (event : Event) :
    (step env state event).store = (acts env state event).foldl Store.after state.store := by
  rcases step_cases env state event with ⟨none_, same⟩ | ⟨met, turns, performed, result⟩
  · rw [none_, same]
    rfl
  · have replayed := Script.replay_part (perform met.ctx) State.store Store.after
      (perform_store met.ctx) met.acts met.start
    rw [performed, result, Turn.result, ← turns.start_keeps.1, ← replayed]
    rcases turns.finish_keeps (replay met.ctx met.start met.acts) with same | evicted
    · rw [same]
    · rw [evicted, maybe_evict_store]

theorem step_alarm_row (env : Env) (state : State) (event : Event) :
    (step env state event).alarmRow = (acts env state event).foldl rowAfter state.alarmRow := by
  rcases step_cases env state event with ⟨none_, same⟩ | ⟨met, turns, performed, result⟩
  · rw [none_, same]
    rfl
  · have replayed := Script.replay_part (perform met.ctx) State.alarmRow rowAfter
      (perform_alarm_row met.ctx) met.acts met.start
    rw [performed, result, Turn.result, ← turns.start_keeps.2.1, ← replayed]
    rcases turns.finish_keeps (replay met.ctx met.start met.acts) with same | evicted
    · rw [same]
    · rw [evicted, maybe_evict_alarm_row]

theorem step_attachment (env : Env) (state : State) (event : Event) :
    (step env state event).attachment =
      (acts env state event).foldl attachmentAfter state.attachment := by
  rcases step_cases env state event with ⟨none_, same⟩ | ⟨met, turns, performed, result⟩
  · rw [none_, same]
    rfl
  · have replayed := Script.replay_part (perform met.ctx) State.attachment attachmentAfter
      (perform_attachment met.ctx) met.acts met.start
    rw [performed, result, Turn.result, ← turns.start_keeps.2.2, ← replayed]
    rcases turns.finish_keeps (replay met.ctx met.start met.acts) with same | evicted
    · rw [same]
    · rw [evicted, maybe_evict_attachment]

end Parts
end Relay

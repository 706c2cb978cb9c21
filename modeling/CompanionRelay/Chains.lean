import CompanionRelay.Fifo
import CompanionRelay.SlotExclusivity

/-!
The promise chain of a socket. The frames of a socket wait on it and are handed to
webSocketMessage one by one, each once and in the order in which they arrived, whatever the
handlers before them wait for.
-/

namespace Relay

def Task.frame : Task → Option Frame
  | .message frame _ _ => some frame
  | .closed | .errored => none

/-- The frames that wait on the promise chain of a socket. -/
def queued (ws : SocketId) (state : State) : List Frame := (state.chain ws).filterMap Task.frame

def Event.isRun : Event → Bool
  | .run _ => true
  | _ => false

def Event.isRestart : Event → Bool
  | .restart _ => true
  | _ => false

section Chain
variable (env : Env) (ws : SocketId) (met : State × Event)

/-- The frames that a read of the socket delivers. -/
def delivered : List Frame :=
  match met.2 with
  | .chunk target frames _ =>
      if target = ws ∧ (turn env met.1 met.2).isSome then frames.map (·.1) else []
  | _ => []

/-- The frame of the socket whose handler starts. -/
def handled : List Frame :=
  match met.2 with
  | .run _ =>
      if met.1.draining = some ws ∧ met.1.verifying ws = false
        then ((met.1.chain ws).head?.bind Task.frame).toList else []
  | _ => []

end Chain

section Order
variable {env : Env} {state : State} {event : Event} {met : Turn}

theorem frame_tasks (frames : List (Frame × Bytes × Option Nat)) (tail : Tail) :
    (frameTasks frames tail).filterMap Task.frame = frames.map (·.1) := by
  have plain : (frames.map fun item => Task.message item.1 item.2.1 item.2.2).filterMap Task.frame =
      frames.map (·.1) := by
    induction frames with
    | nil => rfl
    | cons item rest ih => simpa [Task.frame] using ih
  unfold frameTasks
  rw [List.filterMap_append, plain]
  split <;> simp [Task.frame]

theorem handled_run {ws : SocketId} {now : Nat} :
    handled ws (state, .run now) =
      if state.draining = some ws ∧ state.verifying ws = false
        then ((state.chain ws).head?.bind Task.frame).toList else [] := rfl

-- The turn of an event that runs no task leaves the chain of an upgraded socket as it was,
-- but for what it puts behind it.
theorem Turns.start_queued (turns : Turns env state event met) {ws : SocketId}
    (happens : turn env state event = some met) (attached : state.attachment ws ≠ none)
    (process : event.isRestart = false) :
    queued ws state ++ delivered env ws (state, event) =
      handled ws (state, event) ++ (met.start.chain ws).filterMap Task.frame := by
  cases turns with
  | get now absent quiet =>
      rw [init_keeps]
      exact List.append_nil _
  | connect now opened ctx resident unseen =>
      have apart : ws ≠ opened := by
        rintro rfl
        exact attached unseen
      simp [queued, delivered, handled, State.enter, freshSocket, Function.update_of_ne apart]
  | chunk target frames tail heard hears upgraded quiet =>
      rw [hang_up_keeps]
      simp only [delivered, handled, happens, Option.isSome_some, and_true, State.push,
        List.nil_append, Function.update_apply]
      by_cases same : target = ws
      · subst same
        rw [if_pos rfl, if_pos rfl, List.filterMap_append, frame_tasks, queued]
      · rw [if_neg same, if_neg (Ne.symm same), List.append_nil, queued]
  | ended target heard open_ quiet =>
      rw [maybe_evict_live]
      simp only [delivered, handled, endSocket, State.push, List.nil_append, Function.update_apply,
        List.append_nil]
      split
      · rename_i same
        subst same
        rw [List.filterMap_append, queued]
        split <;> simp [Task.frame]
      · rfl
  | idle now target drained stopped =>
      have none_ : handled ws (state, .run now) = [] := by
        rw [handled_run]
        split
        · rename_i running
          rw [drained] at running
          obtain rfl : target = ws := by simpa using running.1
          rcases stopped with verifying | empty
          · rw [running.2] at verifying
            exact Bool.noConfusion verifying
          · simp [empty]
        · rfl
      rw [none_]
      exact List.append_nil _
  | task now target task rest drained free next =>
      have popped : (taskTurn env now (state.pop target rest) target state.nextId task).start.chain ws
          = if ws = target then rest else state.chain ws := by
        cases task <;> exact Function.update_apply ..
      rw [popped, handled_run, drained]
      by_cases same : ws = target
      · subst same
        simp only [free, and_self, if_true, queued, next, delivered, List.append_nil,
          List.head?_cons, Option.bind_some]
        cases task <;> rfl
      · have apart : ¬ some target = some ws := by simpa using Ne.symm same
        simp [same, apart, queued, delivered]
  | restart now => simp [Event.isRestart] at process
  | _ => exact List.append_nil _

theorem step_queues {ws : SocketId} (attached : state.attachment ws ≠ none)
    (process : event.isRestart = false) :
    Fifo.Queues (step env) (queued ws) (delivered env ws) (handled ws) state event := by
  unfold Fifo.Queues
  cases happens : turn env state event with
  | some met =>
      have turns := turn_turns happens
      have after : queued ws (step env state event) = (met.start.chain ws).filterMap Task.frame := by
        rw [step, happens]
        exact congrArg (fun chain => (chain ws).filterMap Task.frame) turns.result_close.2.2
      rw [after]
      exact turns.start_queued happens attached process
  | none =>
      have same : step env state event = state := by
        rw [step, happens]
      have idle : delivered env ws (state, event) = [] ∧ handled ws (state, event) = [] := by
        cases event with
        | chunk target frames tail => simp [delivered, handled, happens]
        | run now =>
            cases drained : state.draining with
            | none => simp [delivered, handled, drained]
            | some target => simp [turn, State.busy, quietTurn, drained] at happens
        | _ => exact ⟨rfl, rfl⟩
      rw [same, idle.1, idle.2, List.append_nil, List.nil_append]

end Order

end Relay

import CompanionRelay.Machine

/-!
First in, first out. Where each step of a machine takes items off the front of a queue and puts
items behind it, a run hands on what was queued and what arrived, in that order, each item once.
-/

namespace Relay.Fifo

universe u v w
variable {State : Type u} {Event : Type v} {Item : Type w}
variable (step : State → Event → State) (queue : State → List Item)
variable (arrived handled : State × Event → List Item)

/-- What one step does to the queue. -/
def Queues (state : State) (event : Event) : Prop :=
  queue state ++ arrived (state, event) = handled (state, event) ++ queue (step state event)

theorem run_queues (start : State) (events : List Event)
    (queues : ∀ met ∈ Machine.steps step start events,
      Queues step queue arrived handled met.1 met.2) :
    queue start ++ (Machine.steps step start events).flatMap arrived =
      (Machine.steps step start events).flatMap handled ++
        queue (Machine.run step start events) := by
  induction events generalizing start with
  | nil => simp
  | cons event rest ih =>
      simp only [Machine.steps_cons, List.forall_mem_cons] at queues
      have later := ih (step start event) queues.2
      simp only [Machine.steps_cons, Machine.run_cons, List.flatMap_cons]
      rw [← List.append_assoc, queues.1, List.append_assoc, later, List.append_assoc]

end Relay.Fifo

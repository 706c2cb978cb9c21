import Mathlib.Data.List.Basic

/-!
Runs of a deterministic machine. `steps` keeps each event of a run together
with the state that met it, so a statement about what a step does, about every
reachable state or about the order of two steps is a statement about one list.
The invariant rules take the condition a run is assumed to meet as a predicate
on its steps, or on its steps and the history before them.
-/

namespace Relay.Machine

universe u v
variable {State : Type u} {Event : Type v} (step : State → Event → State)

def run (start : State) (events : List Event) : State := events.foldl step start

def steps : State → List Event → List (State × Event)
  | _, [] => []
  | state, event :: rest => (state, event) :: steps (step state event) rest

@[simp] theorem run_nil (start : State) : run step start [] = start := rfl

@[simp] theorem run_cons (start : State) (event : Event) (rest : List Event) :
    run step start (event :: rest) = run step (step start event) rest := rfl

@[simp] theorem run_append (start : State) (before after : List Event) :
    run step start (before ++ after) = run step (run step start before) after := by
  simp [run]

@[simp] theorem steps_nil (start : State) : steps step start [] = [] := rfl

@[simp] theorem steps_cons (start : State) (event : Event) (rest : List Event) :
    steps step start (event :: rest) =
      (start, event) :: steps step (step start event) rest := rfl

theorem steps_append (start : State) (before after : List Event) :
    steps step start (before ++ after) =
      steps step start before ++ steps step (run step start before) after := by
  induction before generalizing start with
  | nil => rfl
  | cons event rest ih => simp [ih]

-- Every step of a run is met after some prefix of its events.
theorem steps_split (start : State) (events : List Event)
    (before after : List (State × Event)) (met : State × Event)
    (split : steps step start events = before ++ met :: after) :
    ∃ earlier later, events = earlier ++ met.2 :: later ∧
      before = steps step start earlier ∧ met.1 = run step start earlier ∧
      after = steps step (step met.1 met.2) later := by
  induction before generalizing start events with
  | nil =>
      cases events with
      | nil => simp at split
      | cons event rest =>
          obtain ⟨rfl, rfl⟩ := List.cons.inj split
          exact ⟨[], rest, rfl, rfl, rfl, rfl⟩
  | cons first others ih =>
      cases events with
      | nil => simp at split
      | cons event rest =>
          obtain ⟨same, tail⟩ := List.cons.inj split
          obtain ⟨earlier, later, whole, befores, state, afters⟩ := ih _ rest tail
          refine ⟨event :: earlier, later, ?_, ?_, ?_, afters⟩
          · simp [whole]
          · simp [befores, ← same]
          · simpa using state

theorem steps_mem (start : State) (events : List Event) (met : State × Event)
    (member : met ∈ steps step start events) :
    ∃ earlier later, events = earlier ++ met.2 :: later ∧ met.1 = run step start earlier := by
  obtain ⟨before, after, split⟩ := List.append_of_mem member
  obtain ⟨earlier, later, whole, _, state, _⟩ := steps_split step start events before after met split
  exact ⟨earlier, later, whole, state⟩

-- A function of the state that follows another machine carries its runs over.
theorem run_simulates {State' : Type*} (step' : State' → Event → State') (view : State → State')
    (follows : ∀ state event, view (step state event) = step' (view state) event) (start : State)
    (events : List Event) :
    view (run step start events) = run step' (view start) events ∧
      (steps step start events).map (fun met => (view met.1, met.2)) =
        steps step' (view start) events := by
  induction events generalizing start with
  | nil => exact ⟨rfl, rfl⟩
  | cons event rest ih =>
      obtain ⟨ends, meets⟩ := ih (step start event)
      rw [follows] at ends meets
      exact ⟨ends, congrArg _ meets⟩

-- The states of a run are those that its events meet and the last one.
theorem states_iff (Holds : State → Prop) (start : State) (events : List Event) :
    (∀ lead, lead <+: events → Holds (run step start lead)) ↔
      (∀ met ∈ steps step start events, Holds met.1) ∧ Holds (run step start events) := by
  induction events generalizing start with
  | nil => simp
  | cons event rest ih =>
      simp only [steps_cons, List.forall_mem_cons, run_cons]
      rw [and_assoc, ← ih]
      constructor
      · intro all
        exact ⟨all [] List.nil_prefix, fun lead short =>
          all (event :: lead) ((List.prefix_cons_inj event).mpr short)⟩
      · rintro ⟨first, later⟩ lead short
        rcases List.prefix_cons_iff.mp short with rfl | ⟨others, rfl, shorter⟩
        · exact first
        · exact later others shorter

-- An invariant that every admissible step keeps holds at the end of a run
-- whose steps are all admissible.
theorem run_invariant (Inv : State → Prop) (Admissible : State → Event → Prop)
    (kept : ∀ state event, Inv state → Admissible state event → Inv (step state event))
    (start : State) (initially : Inv start) (events : List Event)
    (admissible : ∀ met ∈ steps step start events, Admissible met.1 met.2) :
    Inv (run step start events) := by
  induction events generalizing start with
  | nil => exact initially
  | cons event rest ih =>
      simp only [steps_cons, List.forall_mem_cons] at admissible
      exact ih _ (kept start event initially admissible.1) admissible.2

theorem steps_invariant (Inv : State → Prop) (Admissible : State → Event → Prop)
    (kept : ∀ state event, Inv state → Admissible state event → Inv (step state event))
    (start : State) (initially : Inv start) (events : List Event)
    (admissible : ∀ met ∈ steps step start events, Admissible met.1 met.2) :
    ∀ met ∈ steps step start events, Inv met.1 := by
  induction events generalizing start with
  | nil => simp
  | cons event rest ih =>
      simp only [steps_cons, List.forall_mem_cons] at admissible ⊢
      exact ⟨initially, ih _ (kept start event initially admissible.1) admissible.2⟩

-- The same rule for an invariant that speaks of the steps taken so far.
theorem history_invariant (Inv : List (State × Event) → State → Prop)
    (Admissible : List (State × Event) → State → Event → Prop)
    (kept : ∀ past state event, Inv past state → Admissible past state event →
      Inv (past ++ [(state, event)]) (step state event))
    (past : List (State × Event)) (start : State) (initially : Inv past start)
    (events : List Event)
    (admissible : ∀ before met after, steps step start events = before ++ met :: after →
      Admissible (past ++ before) met.1 met.2) :
    Inv (past ++ steps step start events) (run step start events) := by
  induction events generalizing past start with
  | nil => simpa using initially
  | cons event rest ih =>
      have first := admissible [] (start, event) _ rfl
      rw [List.append_nil] at first
      have later := ih (past ++ [(start, event)]) (step start event)
        (kept past start event initially first) (by
          intro before met after split
          have whole := admissible ((start, event) :: before) met after (by simp [split])
          simpa using whole)
      simpa using later

end Relay.Machine

import CompanionRelay.Machine

/-!
One-time values. A machine keeps a value from its issue until it is taken or dropped, with
the time until which it is good. If it takes only what it keeps, in time, and keeps nothing
that it has taken, it takes a value no more often than it has issued it.
-/

namespace Relay.OneTime

universe u v
variable {State : Type u} {Event : Type v}

/-- Over a run, what is taken was issued before, as often, and is not out of date. -/
structure UsedOnce (issued : State × Event → List Nat) (taken : State × Event → Option Nat)
    (met : List (State × Event)) : Prop where
  once : (met.filterMap taken).length ≤ (met.flatMap issued).length
  issued : ∀ before taking after now, met = before ++ taking :: after → taken taking = some now →
    ∃ issuing ∈ before, ∃ expiresAt ∈ issued issuing, now ≤ expiresAt

section Discipline
variable (step : State → Event → State) (kept : State → Option Nat)
variable (issued : State × Event → List Nat) (taken : State × Event → Option Nat)

/-- What each step does to the value that is kept. -/
structure Discipline : Prop where
  takes : ∀ state event now, taken (state, event) = some now →
    (∃ expiresAt, kept state = some expiresAt ∧ now ≤ expiresAt) ∧ kept (step state event) = none
  keeps : ∀ state event, kept (step state event) = none ∨ kept (step state event) = kept state ∨
    ∃ expiresAt ∈ issued (state, event), kept (step state event) = some expiresAt

/-- A value that is kept was issued and is still to be taken. -/
structure Accounted (past : List (State × Event)) (state : State) : Prop where
  balance : (past.filterMap taken).length + (kept state).toList.length ≤
    (past.flatMap issued).length
  origin : ∀ expiresAt, kept state = some expiresAt →
    ∃ issuing ∈ past, expiresAt ∈ issued issuing

variable {step kept issued taken}

theorem Accounted.after_step (discipline : Discipline step kept issued taken)
    {past : List (State × Event)} {state : State} (accounted : Accounted kept issued taken past state)
    (event : Event) :
    Accounted kept issued taken (past ++ [(state, event)]) (step state event) := by
  have balance := accounted.balance
  constructor
  · simp only [List.filterMap_append, List.flatMap_append, List.length_append, List.filterMap_cons,
      List.filterMap_nil, List.flatMap_cons, List.flatMap_nil, List.append_nil]
    cases takes : taken (state, event) with
    | some now =>
        obtain ⟨⟨expiresAt, here, _⟩, gone⟩ := discipline.takes state event now takes
        simp only [here, gone, Option.toList_some, Option.toList_none, List.length_singleton,
          List.length_nil] at balance ⊢
        omega
    | none =>
        rcases discipline.keeps state event with gone | same | ⟨expiresAt, fresh, next⟩
        · simp only [gone, Option.toList_none, List.length_nil]
          omega
        · simp only [same, List.length_nil]
          omega
        · have one := List.length_pos_of_mem fresh
          simp only [next, Option.toList_some, List.length_singleton, List.length_nil]
          omega
  · intro expiresAt here
    rcases discipline.keeps state event with gone | same | ⟨fresh, member, next⟩
    · rw [gone] at here
      cases here
    · obtain ⟨issuing, member, given⟩ := accounted.origin expiresAt (same.symm.trans here)
      exact ⟨issuing, List.mem_append_left _ member, given⟩
    · obtain rfl : fresh = expiresAt := Option.some.inj (next.symm.trans here)
      exact ⟨_, List.mem_append_right _ (List.mem_singleton.mpr rfl), member⟩

theorem Accounted.after_run (discipline : Discipline step kept issued taken) {start : State}
    (empty : kept start = none) (events : List Event) :
    Accounted kept issued taken (Machine.steps step start events)
      (Machine.run step start events) := by
  have accounted := Machine.history_invariant step (Accounted kept issued taken)
    (fun _ _ _ => True) (fun _ _ event accounted _ => accounted.after_step discipline event) [] start
    ⟨by simp [empty], by simp [empty]⟩ events (fun _ _ _ _ => trivial)
  simpa using accounted

-- The rule for whole runs, from a state that keeps nothing.
theorem used_once (discipline : Discipline step kept issued taken) {start : State}
    (empty : kept start = none) (events : List Event) :
    UsedOnce issued taken (Machine.steps step start events) := by
  constructor
  · exact Nat.le_trans (Nat.le_add_right _ _) (Accounted.after_run discipline empty events).balance
  · intro before taking after now split takes
    obtain ⟨earlier, _, _, rfl, state, _⟩ := Machine.steps_split step start events _ _ _ split
    obtain ⟨expiresAt, here, timely⟩ := (discipline.takes taking.1 taking.2 now takes).1
    rw [state] at here
    obtain ⟨issuing, member, given⟩ :=
      (Accounted.after_run discipline empty earlier).origin expiresAt here
    exact ⟨issuing, member, expiresAt, given, timely⟩

end Discipline
end Relay.OneTime

import Mathlib.Data.List.Induction
import Mathlib.Data.List.ReduceOption
import CompanionRelay.Machine

/-!
Counting the failures in a row of a check that a run makes at each of its steps, and that a
step may leave out. The count says how many of the last performed checks failed: it reaches
a limit at a failed check just when the performed checks up to it end in that many failures.
-/

namespace Relay.Debounce

/-- The count after one more check: none if it is left out, true inside if it failed. -/
def count (streak : Nat) : Option Bool → Nat
  | none => streak
  | some false => 0
  | some true => streak + 1

/-- The last check was performed and failed, and so did the `limit - 1` performed before it. -/
def FailsLast (limit : Nat) (checks : List (Option Bool)) : Prop :=
  checks.getLast? = some (some true) ∧ List.replicate limit true <:+ checks.reduceOption

instance (limit : Nat) (checks : List (Option Bool)) : Decidable (FailsLast limit checks) :=
  inferInstanceAs (Decidable (_ ∧ _))

theorem le_counted_iff (limit : Nat) (checks : List (Option Bool)) :
    limit ≤ checks.foldl count 0 ↔ List.replicate limit true <:+ checks.reduceOption := by
  induction checks using List.reverseRecOn generalizing limit with
  | nil => simp [List.reduceOption]
  | append_singleton checks check ih =>
      rw [List.foldl_concat, List.reduceOption_append]
      cases check with
      | none => simpa [count, List.reduceOption] using ih limit
      | some failed =>
          -- A performed check ends the suffix: a failed one makes it longer, a passed one breaks it.
          cases limit with
          | zero => simp
          | succ limit =>
              have last : [some failed].reduceOption = [failed] := rfl
              rw [List.replicate_succ', last, List.suffix_concat_iff]
              cases failed with
              | false => simp [count]
              | true => simpa [count] using ih limit

theorem failsLast_concat (limit : Nat) (checks : List (Option Bool)) (check : Option Bool) :
    FailsLast limit (checks ++ [check]) ↔
      check = some true ∧ limit ≤ count (checks.foldl count 0) check := by
  have counted : (checks ++ [check]).foldl count 0 = count (checks.foldl count 0) check :=
    List.foldl_concat ..
  rw [FailsLast, List.getLast?_concat, Option.some.injEq, ← le_counted_iff, counted]

section Runs
universe u v
variable {State : Type u} {Event : Type v} (step : State → Event → State)

/-- The checks that a run makes, one for each step. -/
def checks (check : State → Event → Option Bool) (start : State) (events : List Event) :
    List (Option Bool) :=
  (Machine.steps step start events).map fun met => check met.1 met.2

/-- The rule of a debounced check, over every stretch of a run in which what it watches is
present, from a step at which it was absent or from the start: an alert is raised at a step
just when the check fails there and in each of the `limit - 1` performed checks before it. -/
def Exact (start : State) (limit : Nat) (Absent Present : State → Event → Prop)
    (check : State → Event → Option Bool) (Raised : State → Event → Prop) (events : List Event) :
    Prop :=
  ∀ before during event after, events = before ++ (during ++ event :: after) →
    (∀ last ∈ (Machine.steps step start before).getLast?, Absent last.1 last.2) →
    (∀ met ∈ Machine.steps step (Machine.run step start before) (during ++ [event]),
      Present met.1 met.2) →
    (Raised (Machine.run step start (before ++ during)) event ↔
      FailsLast limit (checks step check (Machine.run step start before) (during ++ [event])))

variable {step} {start : State} {limit : Nat} {Absent Present : State → Event → Prop}
  {check : State → Event → Option Bool} {Raised : State → Event → Prop} {streak : State → Nat}
  {events : List Event}

-- A count that each step of a run carries on is the count of the run's checks.
theorem counted_run (follows : ∀ met ∈ Machine.steps step start events,
      streak (step met.1 met.2) = count (streak met.1) (check met.1 met.2)) :
    streak (Machine.run step start events) =
      (checks step check start events).foldl count (streak start) := by
  induction events generalizing start with
  | nil => rfl
  | cons event rest ih =>
      simp only [Machine.steps_cons, List.forall_mem_cons] at follows
      rw [Machine.run_cons, ih follows.2, follows.1]
      rfl

/-- What each step has to do for the rule to hold: drop the count when the watched thing is
absent, carry it on while it is present, and raise the alert from the limit on. -/
structure Carries (limit : Nat) (Absent Present : State → Event → Prop)
    (check : State → Event → Option Bool) (Raised : State → Event → Prop) (streak : State → Nat)
    (state : State) (event : Event) (after : State) : Prop where
  drops : Absent state event → streak after = 0
  follows : Present state event → streak after = count (streak state) (check state event)
  raises : Present state event → (Raised state event ↔
    check state event = some true ∧ limit ≤ count (streak state) (check state event))

variable (streak) in
theorem exact_of_carries (initially : streak start = 0)
    (carries : ∀ met ∈ Machine.steps step start events,
      Carries limit Absent Present check Raised streak met.1 met.2 (step met.1 met.2)) :
    Exact step start limit Absent Present check Raised events := by
  intro before during event after whole absent present
  subst whole
  simp only [Machine.steps_append, List.forall_mem_append, Machine.steps_cons,
    List.forall_mem_cons] at carries present
  -- The stretch begins at the start or after a step that dropped the count.
  have zero : streak (Machine.run step start before) = 0 := by
    cases before using List.reverseRecOn with
    | nil => exact initially
    | append_singleton lead last =>
        simp only [Machine.steps_append, Machine.steps_cons, Machine.steps_nil,
          List.getLast?_concat] at absent carries
        rw [Machine.run_append]
        apply (carries.1 (Machine.run step start lead, last) (by simp)).drops
        exact absent _ rfl
  have counted : streak (Machine.run step (Machine.run step start before) during) =
      (checks step check (Machine.run step start before) during).foldl count 0 := by
    rw [← zero]
    apply counted_run
    intro met inside
    exact (carries.2.1 met inside).follows (present.1 met inside)
  have here := carries.2.2.1
  have listed : checks step check (Machine.run step start before) (during ++ [event]) =
      checks step check (Machine.run step start before) during ++
        [check (Machine.run step (Machine.run step start before) during) event] := by
    simp [checks, Machine.steps_append]
  rw [listed, failsLast_concat, ← counted, Machine.run_append]
  exact here.raises present.2.1

end Runs

end Relay.Debounce

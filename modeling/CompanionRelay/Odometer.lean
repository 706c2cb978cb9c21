import Mathlib.Algebra.Order.BigOperators.Group.List
import Mathlib.Algebra.Order.Group.Defs
import CompanionRelay.Adjacent

/-!
Counters that are set back to zero now and then, which their readings do not tell. The rises from
each reading to the next one never add up to more than was counted between the first and the last,
and add up to all of it if the counter was not set back.
-/

namespace Relay.Odometer

open Adjacent (pairs)

universe u
variable {Amount : Type u} [AddCommGroup Amount] [LinearOrder Amount]

/-- What a counter shows, what it has counted in all, and how often it was set back. -/
structure Reading (Amount : Type u) where
  value : Amount
  grand : Amount
  resets : Nat

variable {old new first last : Reading Amount} {readings : List (Reading Amount)}

def Reading.count (reading : Reading Amount) (amount : Amount) : Reading Amount :=
  ⟨reading.value + amount, reading.grand + amount, reading.resets⟩

def Reading.reset (reading : Reading Amount) : Reading Amount :=
  ⟨0, reading.grand, reading.resets + 1⟩

/-- The second reading comes after the first one of the same counter. -/
structure Before (old new : Reading Amount) : Prop where
  start : 0 ≤ old.value
  goes : old.resets = new.resets ∧ old.value ≤ new.value ∧
      new.grand - old.grand = new.value - old.value ∨
    old.resets < new.resets ∧ 0 ≤ new.value ∧ new.value ≤ new.grand - old.grand

theorem Before.self {reading : Reading Amount} (start : 0 ≤ reading.value) : Before reading reading :=
  ⟨start, .inl ⟨rfl, le_refl _, by rw [sub_self, sub_self]⟩⟩

theorem Before.positive (before : Before old new) : 0 ≤ new.value := by
  rcases before.goes with ⟨_, rises, _⟩ | ⟨_, positive, _⟩
  · exact before.start.trans rises
  · exact positive

theorem Before.resets_le (before : Before old new) : old.resets ≤ new.resets := by
  rcases before.goes with ⟨same, _⟩ | ⟨later, _⟩
  · exact same.le
  · exact later.le

/-- How far a reading is above the one before; a fall counts for nothing. -/
def rise (old new : Reading Amount) : Amount := max 0 (new.value - old.value)

/-- The rises from each reading to the next. -/
def total (readings : List (Reading Amount)) : Amount :=
  ((pairs readings).map fun pair => rise pair.1 pair.2).sum

theorem total_cons (second : Reading Amount) (rest : List (Reading Amount)) :
    total (first :: second :: rest) = rise first second + total (second :: rest) := rfl

variable [IsOrderedAddMonoid Amount]

theorem Before.count (before : Before old new) {amount : Amount} (up : 0 ≤ amount) :
    Before old (new.count amount) := by
  refine ⟨before.start, ?_⟩
  rcases before.goes with ⟨same, rises, counted⟩ | ⟨later, positive, counted⟩
  · refine .inl ⟨same, rises.trans (le_add_of_nonneg_right up), ?_⟩
    simp only [Reading.count]
    rw [add_sub_right_comm, counted, ← add_sub_right_comm]
  · refine .inr ⟨later, add_nonneg positive up, ?_⟩
    simp only [Reading.count]
    rw [add_sub_right_comm]
    exact add_le_add_left counted amount

theorem Before.reset (before : Before old new) : Before old new.reset := by
  refine ⟨before.start, .inr ?_⟩
  rcases before.goes with ⟨same, rises, counted⟩ | ⟨later, positive, counted⟩
  · refine ⟨same ▸ Nat.lt_succ_self _, le_refl _, ?_⟩
    exact counted ▸ sub_nonneg.mpr rises
  · exact ⟨later.trans (Nat.lt_succ_self _), le_refl _, positive.trans counted⟩

theorem Before.rise_le (before : Before old new) : rise old new ≤ new.grand - old.grand := by
  rcases before.goes with ⟨_, rises, counted⟩ | ⟨_, positive, counted⟩
  · rw [counted, rise, max_eq_right (sub_nonneg.mpr rises)]
  · refine max_le (positive.trans counted) (le_trans ?_ counted)
    exact sub_le_self _ before.start

theorem Before.rise_eq (before : Before old new) (same : old.resets = new.resets) :
    rise old new = new.grand - old.grand := by
  rcases before.goes with ⟨_, rises, counted⟩ | ⟨later, _⟩
  · rw [counted, rise, max_eq_right (sub_nonneg.mpr rises)]
  · exact absurd same later.ne

theorem total_le (ordered : readings.Pairwise Before) (starts : readings.head? = some first)
    (ends : readings.getLast? = some last) :
    first.resets ≤ last.resets ∧ total readings ≤ last.grand - first.grand ∧
      (first.resets = last.resets → total readings = last.grand - first.grand) := by
  induction readings generalizing first with
  | nil => cases starts
  | cons reading rest ih =>
      obtain rfl := Option.some.inj starts
      obtain ⟨behind, later⟩ := List.pairwise_cons.mp ordered
      cases rest with
      | nil =>
          have same : reading = last := by simpa using ends
          subst same
          have nothing : total [reading] = 0 := rfl
          rw [nothing, sub_self]
          exact ⟨le_refl _, le_refl _, fun _ => rfl⟩
      | cons second rest =>
          rw [List.getLast?_cons_cons] at ends
          obtain ⟨grows, most, all⟩ := ih later rfl ends
          have before := behind second (by simp)
          have split : last.grand - reading.grand =
              (second.grand - reading.grand) + (last.grand - second.grand) :=
            (sub_add_sub_cancel' _ _ _).symm
          rw [total_cons, split]
          refine ⟨before.resets_le.trans grows, add_le_add before.rise_le most, fun same => ?_⟩
          have even := le_antisymm before.resets_le (same ▸ grows)
          rw [before.rise_eq even, all (even ▸ same)]

end Relay.Odometer

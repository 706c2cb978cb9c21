import Mathlib.Algebra.BigOperators.Group.List.Basic
import Mathlib.Algebra.Order.Field.Basic
import Mathlib.Tactic.Linarith
import Mathlib.Tactic.Ring

/-!
Token buckets: tokens accrue at a rate up to a cap, and every draw takes no more than there
is. What is drawn in an interval is then at most the cap and what accrues in the interval,
however the draws are spread.
-/

namespace Relay.TokenBucket

universe u

/-- The tokens that are left, and when they were last counted. -/
structure Level (K : Type u) where
  tokens : K
  counted : K

structure Draw (K : Type u) where
  now : K
  amount : K

variable {K : Type u} [Field K] [LinearOrder K] (cap rate : K)

def Level.accrued (level : Level K) (now : K) : K :=
  min cap (level.tokens + (now - level.counted) * rate)

def Level.draw (level : Level K) (draw : Draw K) : Level K :=
  ⟨level.accrued cap rate draw.now - draw.amount, draw.now⟩

/-- The draws come in the order of time, and each is paid for. -/
def Affordable : Level K → List (Draw K) → Prop
  | _, [] => True
  | level, draw :: rest =>
      level.counted ≤ draw.now ∧ 0 ≤ draw.amount ∧ draw.amount ≤ level.accrued cap rate draw.now ∧
        Affordable (level.draw cap rate draw) rest

/-- What is drawn from one time to another. -/
def drawn (from_ until_ : K) (draws : List (Draw K)) : K :=
  ((draws.filter fun draw => from_ ≤ draw.now ∧ draw.now ≤ until_).map Draw.amount).sum

variable {cap rate} {level : Level K} {from_ until_ : K} {draws : List (Draw K)}

@[simp] theorem drawn_nil : drawn from_ until_ ([] : List (Draw K)) = 0 := rfl

theorem drawn_inside {draw : Draw K} (after : from_ ≤ draw.now) (before : draw.now ≤ until_) :
    drawn from_ until_ (draw :: draws) = draw.amount + drawn from_ until_ draws := by
  simp [drawn, after, before]

theorem drawn_outside {draw : Draw K} (outside : ¬ (from_ ≤ draw.now ∧ draw.now ≤ until_)) :
    drawn from_ until_ (draw :: draws) = drawn from_ until_ draws := by
  simp only [drawn, List.filter_cons, outside, decide_false, Bool.false_eq_true, if_false]

theorem Level.accrued_le (level : Level K) (now : K) :
    level.accrued cap rate now ≤ level.tokens + (now - level.counted) * rate := min_le_right _ _

theorem drawn_after (affordable : Affordable cap rate level draws)
    (late : until_ < level.counted) : drawn from_ until_ draws = 0 := by
  induction draws generalizing level with
  | nil => rfl
  | cons draw rest ih =>
      obtain ⟨later, _, _, tail⟩ := affordable
      rw [drawn_outside fun inside => absurd (lt_of_lt_of_le late later) (not_lt.mpr inside.2)]
      exact ih tail (lt_of_lt_of_le late later)

variable [IsStrictOrderedRing K]

theorem Level.accrued_nonneg (solvent : 0 ≤ level.tokens) (bounded : 0 ≤ cap) (growing : 0 ≤ rate)
    {now : K} (later : level.counted ≤ now) : 0 ≤ level.accrued cap rate now := by
  have elapsed : 0 ≤ (now - level.counted) * rate := mul_nonneg (sub_nonneg.mpr later) growing
  exact le_min bounded (by linarith)

-- What is left, and what accrues until then, pays for what is drawn.
theorem drawn_paid (growing : 0 ≤ rate) (affordable : Affordable cap rate level draws)
    (solvent : 0 ≤ level.tokens) (begun : from_ ≤ level.counted) (open_ : level.counted ≤ until_) :
    drawn from_ until_ draws ≤ level.tokens + rate * (until_ - level.counted) := by
  induction draws generalizing level with
  | nil =>
      have accrues : 0 ≤ rate * (until_ - level.counted) :=
        mul_nonneg growing (sub_nonneg.mpr open_)
      rw [drawn_nil]
      linarith
  | cons draw rest ih =>
      obtain ⟨later, _, paid, tail⟩ := affordable
      have accrued : level.accrued cap rate draw.now ≤ _ := level.accrued_le draw.now
      by_cases before : draw.now ≤ until_
      · rw [drawn_inside (begun.trans later) before]
        have left : 0 ≤ (level.draw cap rate draw).tokens := sub_nonneg.mpr paid
        have others := ih tail left (begun.trans later) before
        simp only [Level.draw] at others
        calc draw.amount + drawn from_ until_ rest
            ≤ draw.amount + (level.accrued cap rate draw.now - draw.amount +
                rate * (until_ - draw.now)) := by linarith
          _ ≤ level.tokens + (draw.now - level.counted) * rate + rate * (until_ - draw.now) := by
              linarith
          _ = level.tokens + rate * (until_ - level.counted) := by ring
      -- The first draw after the interval: those behind it are later still.
      · have outside := lt_of_not_ge before
        rw [drawn_outside fun inside => before inside.2, drawn_after tail outside]
        have accrues : 0 ≤ rate * (until_ - level.counted) :=
          mul_nonneg growing (sub_nonneg.mpr open_)
        linarith

-- In any interval the cap, and what accrues in the interval, pays for what is drawn.
theorem drawn_bounded (bounded : 0 ≤ cap) (growing : 0 ≤ rate)
    (affordable : Affordable cap rate level draws) (ordered : from_ ≤ until_) :
    drawn from_ until_ draws ≤ cap + rate * (until_ - from_) := by
  have accrues : 0 ≤ rate * (until_ - from_) := mul_nonneg growing (sub_nonneg.mpr ordered)
  induction draws generalizing level with
  | nil =>
      rw [drawn_nil]
      linarith
  | cons draw rest ih =>
      obtain ⟨_, _, paid, tail⟩ := affordable
      -- The first draw of the interval finds at most the cap; what accrues pays for the rest.
      by_cases inside : from_ ≤ draw.now ∧ draw.now ≤ until_
      · rw [drawn_inside inside.1 inside.2]
        have left : 0 ≤ (level.draw cap rate draw).tokens := sub_nonneg.mpr paid
        have others := drawn_paid growing tail left inside.1 inside.2
        have capped : level.accrued cap rate draw.now ≤ cap := min_le_left _ _
        have late : rate * (until_ - draw.now) ≤ rate * (until_ - from_) :=
          mul_le_mul_of_nonneg_left (by linarith [inside.1]) growing
        simp only [Level.draw] at others
        linarith
      · rw [drawn_outside inside]
        exact ih tail

end Relay.TokenBucket

import Mathlib.Algebra.Order.Field.Basic
import Mathlib.Tactic.Linarith

/-!
Quantiles of a cumulative histogram. The search goes through the bounds in order and stops at
the first count that reaches the rank, carrying along the count and the bound before it. The
counts need not rise: whatever was carried was below the rank, so the bucket that is found has
something in it, and the estimate stays inside it and follows the rank.
-/

namespace Relay.Quantile

universe u
variable {Value : Type u} [LinearOrder Value]

/-- A stretch of the histogram, up to `bound` with `count` in all and from `prevBound` with
`prevCount`. -/
structure Bucket (Value : Type u) where
  prevCount : Value
  prevBound : Value
  count : Value
  bound : Value
  deriving DecidableEq

def search (rank prevCount prevBound : Value) : List (Value × Value) → Option (Bucket Value)
  | [] => none
  | (bound, count) :: rest =>
      if rank ≤ count then some ⟨prevCount, prevBound, count, bound⟩
      else search rank count bound rest

/-- A bucket that the rank falls into. -/
structure Bucket.Holds (bucket : Bucket Value) (rank : Value) : Prop where
  above : bucket.prevCount < rank
  within : rank ≤ bucket.count
  rising : bucket.prevBound < bucket.bound

section Search
variable {rank lower upper prevCount prevBound : Value} {buckets : List (Value × Value)}
  {bucket low high : Bucket Value}

theorem search_holds (below : prevCount < rank)
    (rising : List.IsChain (· < ·) (prevBound :: buckets.map Prod.fst))
    (found : search rank prevCount prevBound buckets = some bucket) :
    bucket.Holds rank ∧ prevBound ≤ bucket.prevBound ∧
      bucket.prevBound ∈ prevBound :: buckets.map Prod.fst ∧
      bucket.bound ∈ buckets.map Prod.fst := by
  induction buckets generalizing prevCount prevBound with
  | nil => cases found
  | cons entry rest ih =>
      obtain ⟨bound, count⟩ := entry
      rw [List.map_cons, List.isChain_cons_cons] at rising
      rw [search] at found
      split at found
      · rename_i reached
        cases found
        exact ⟨⟨below, reached, rising.1⟩, le_refl _, List.mem_cons_self, List.mem_cons_self⟩
      · rename_i short
        obtain ⟨holds, later, begins, ends⟩ := ih (not_le.mp short) rising.2 found
        exact ⟨holds, rising.1.le.trans later, List.mem_cons_of_mem _ begins,
          List.mem_cons_of_mem _ ends⟩

-- A higher rank is found in the same bucket or in one that begins where that one ended or
-- later; and what a lower rank does not reach, it does not reach.
theorem search_ordered (ranks : lower ≤ upper) (below : prevCount < lower)
    (rising : List.IsChain (· < ·) (prevBound :: buckets.map Prod.fst))
    (found : search upper prevCount prevBound buckets = some high) :
    ∃ low, search lower prevCount prevBound buckets = some low ∧
      (low = high ∨ low.bound ≤ high.prevBound) := by
  induction buckets generalizing prevCount prevBound with
  | nil => cases found
  | cons entry rest ih =>
      obtain ⟨bound, count⟩ := entry
      rw [List.map_cons, List.isChain_cons_cons] at rising
      rw [search] at found ⊢
      by_cases reached : lower ≤ count
      · rw [if_pos reached]
        refine ⟨_, rfl, ?_⟩
        split at found
        · cases found
          exact .inl rfl
        · rename_i short
          exact .inr (search_holds (not_le.mp short) rising.2 found).2.1
      · have short : ¬ upper ≤ count := fun within => reached (ranks.trans within)
        rw [if_neg short] at found
        rw [if_neg reached]
        exact ih (not_le.mp reached) rising.2 found

end Search

section Interpolate
variable [Field Value]

/-- The point of the bucket that lies as far along it as the rank. -/
def Bucket.interpolate (bucket : Bucket Value) (rank : Value) : Value :=
  bucket.prevBound + (bucket.bound - bucket.prevBound) *
    ((rank - bucket.prevCount) / (bucket.count - bucket.prevCount))

variable [IsStrictOrderedRing Value] {rank lower upper : Value} {bucket : Bucket Value}

theorem Bucket.Holds.divisor (holds : bucket.Holds rank) : 0 < bucket.count - bucket.prevCount := by
  have above := holds.above
  have within := holds.within
  linarith

theorem Bucket.Holds.weight (holds : bucket.Holds rank) :
    0 ≤ (rank - bucket.prevCount) / (bucket.count - bucket.prevCount) ∧
      (rank - bucket.prevCount) / (bucket.count - bucket.prevCount) ≤ 1 := by
  constructor
  · exact div_nonneg (sub_nonneg.mpr holds.above.le) holds.divisor.le
  · rw [div_le_one holds.divisor]
    exact sub_le_sub_right holds.within _

theorem Bucket.Holds.inside (holds : bucket.Holds rank) :
    bucket.prevBound ≤ bucket.interpolate rank ∧ bucket.interpolate rank ≤ bucket.bound := by
  have width : 0 ≤ bucket.bound - bucket.prevBound := sub_nonneg.mpr holds.rising.le
  obtain ⟨least, most⟩ := holds.weight
  have forward := mul_nonneg width least
  have short := mul_le_mul_of_nonneg_left most width
  rw [Bucket.interpolate]
  constructor
  · linarith
  · linarith

theorem Bucket.Holds.ordered (holds : bucket.Holds upper) (ranks : lower ≤ upper) :
    bucket.interpolate lower ≤ bucket.interpolate upper := by
  have width : 0 ≤ bucket.bound - bucket.prevBound := sub_nonneg.mpr holds.rising.le
  have weight := div_le_div_of_nonneg_right (sub_le_sub_right ranks bucket.prevCount) holds.divisor.le
  have further := mul_le_mul_of_nonneg_left weight width
  rw [Bucket.interpolate, Bucket.interpolate]
  linarith

end Interpolate

end Relay.Quantile

import CompanionRelay.Dashboard
import CompanionRelay.Quantile

/-!
src/dashboard/series.js for the samples of the push relay: the tiles, the charts, and the
latency quantiles of both, which are read from cumulative counts that a restart seen in some
columns only can leave out of order.
-/

namespace Relay.Dashboard.Push

open Adjacent (pairs)
open Function (update)
open Quantile (search)

inductive Column
  | register
  | registerWritten
  | registerSkipped
  | registerRejected
  | push
  | pushDelivered
  | pushFailed
  | pushBadSecret
  | pushUnknownToken
  | pushApnsError
  | rateLimited
  | apnsConnects
  | apnsThrottled
  | apnsSessionErrors
  | apnsDiscardIdle
  | apnsDiscardTimeout
  | apnsTimeouts
  | latCount
  | latLe50
  | latLe100
  | latLe250
  | latLe500
  | latLe1000
  | latLe2500
  | latLe5000
  | latLe10000
  | rejBadToken
  | rejUnregistered
  | rejWrongTopic
  | rejTooMany
  | rejExpiredJwt
  | rejInvalidJwt
  | rejApple500
  | rejUnavailable
  | rejOther
  deriving DecidableEq

/-- LAT_BOUNDS_MS -/
def latBoundsMs : List Rat := [50, 100, 250, 500, 1000, 2500, 5000, 10000]

/-- LAT_COLUMNS -/
def latColumns : List Column :=
  [.latLe50, .latLe100, .latLe250, .latLe500, .latLe1000, .latLe2500, .latLe5000, .latLe10000]

/-- REJECT_FIELDS with their REJECT_LABELS -/
def rejectFields : List (Column × String) :=
  [(.rejBadToken, "BadDeviceToken"), (.rejUnregistered, "Unregistered"),
    (.rejWrongTopic, "DeviceTokenNotForTopic"), (.rejTooMany, "TooManyRequests"),
    (.rejExpiredJwt, "ExpiredProviderToken"), (.rejInvalidJwt, "InvalidProviderToken"),
    (.rejApple500, "InternalServerError"), (.rejUnavailable, "ServiceUnavailable"),
    (.rejOther, "other")]

/-- A row of push_samples: its gauges, and the cumulative counters by column. -/
structure Row where
  ts : Int
  devices : Rat
  apnsSessions : Rat
  apnsOldestSessionS : Rat
  lastDeliveryTs : Rat
  counter : Column → Rat

def step (prev cur : Row) (field : Column) : Rat :=
  let d := cur.counter field - prev.counter field
  if d < 0 then 0 else d

def windowTotal (rows : List Row) (field : Column) : Rat :=
  ((pairs rows).map fun pair => step pair.1 pair.2 field).sum

/-- `Math.round` -/
def mathRound (value : Rat) : Rat := ⌊value + 1 / 2⌋

def latencyQuantile (q : Rat) (cum : List Rat) (total : Rat) : Option Rat :=
  if 0 < total then
    let rank := q * total
    match search rank 0 0 (latBoundsMs.zip cum) with
    | some bucket =>
        if bucket.count - bucket.prevCount ≤ 0 then some bucket.bound
        else some (mathRound (bucket.interpolate rank))
    | none => latBoundsMs.getLast?
  else none

section Slots

structure GaugeAcc where
  devices : Rat
  apnsSessions : Rat
  apnsOldestSessionS : Rat
  n : Nat

structure RateAcc where
  elapsedMs : Int
  rate : Column → Rat

def gaugeAdd (chart : Chart) (acc : Nat → GaugeAcc) (r : Row) : Nat → GaugeAcc :=
  let b := acc (chart.idx r.ts)
  update acc (chart.idx r.ts)
    { devices := b.devices + r.devices
      apnsSessions := b.apnsSessions + r.apnsSessions
      apnsOldestSessionS := b.apnsOldestSessionS + r.apnsOldestSessionS
      n := b.n + 1 }

def gaugeAcc (chart : Chart) (rows : List Row) : Nat → GaugeAcc :=
  rows.foldl (gaugeAdd chart) fun _ => ⟨0, 0, 0, 0⟩

/-- Every column is one of PUSH_RATE_FIELDS. -/
def rateAdd (chart : Chart) (acc : Nat → RateAcc) (pair : Row × Row) : Nat → RateAcc :=
  let b := acc (chart.idx pair.2.ts)
  update acc (chart.idx pair.2.ts)
    { elapsedMs := b.elapsedMs + max 0 (pair.2.ts - pair.1.ts)
      rate := fun f => b.rate f + step pair.1 pair.2 f }

def rateAcc (chart : Chart) (rows : List Row) : Nat → RateAcc :=
  (pairs rows).foldl (rateAdd chart) fun _ => ⟨0, fun _ => 0⟩

def gaugeSeries (chart : Chart) (rows : List Row) (pick : GaugeAcc → Rat) : List Point :=
  (List.range chart.buckets).map fun i =>
    let b := gaugeAcc chart rows i
    ⟨chart.center i, if b.n = 0 then none else some (toFixed 2 (pick b / b.n))⟩

def rateSeries (chart : Chart) (rows : List Row) (field : Column) : List Point :=
  (List.range chart.buckets).map fun i =>
    let a := rateAcc chart rows i
    ⟨chart.center i,
      if a.elapsedMs > 0 then some (toFixed 3 (a.rate field / a.elapsedMs * 60000)) else none⟩

def quantile (chart : Chart) (rows : List Row) (q : Rat) : List Point :=
  (List.range chart.buckets).map fun i =>
    let a := rateAcc chart rows i
    ⟨chart.center i, latencyQuantile q (latColumns.map a.rate) (a.rate .latCount)⟩

structure Series where
  devices : List Point
  registerWrittenRate : List Point
  registerSkippedRate : List Point
  pushDeliveredRate : List Point
  pushFailedRate : List Point
  pushBadSecretRate : List Point
  apnsConnectsRate : List Point
  apnsTimeoutsRate : List Point
  apnsSessions : List Point
  apnsLatencyP50 : List Point
  apnsLatencyP95 : List Point

def bucketizePush (chart : Chart) (rows : List Row) : Series where
  devices := gaugeSeries chart rows (·.devices)
  registerWrittenRate := rateSeries chart rows .registerWritten
  registerSkippedRate := rateSeries chart rows .registerSkipped
  pushDeliveredRate := rateSeries chart rows .pushDelivered
  pushFailedRate := rateSeries chart rows .pushFailed
  pushBadSecretRate := rateSeries chart rows .pushBadSecret
  apnsConnectsRate := rateSeries chart rows .apnsConnects
  apnsTimeoutsRate := rateSeries chart rows .apnsTimeouts
  apnsSessions := gaugeSeries chart rows (·.apnsSessions)
  apnsLatencyP50 := quantile chart rows (1 / 2)
  apnsLatencyP95 := quantile chart rows (95 / 100)

end Slots

section Payload

structure Options where
  latest : Option Row
  chart : Chart
  nowMs : Int

structure Reason where
  reason : String
  count : Rat

structure Tiles where
  devices : Rat
  registrations : Rat
  writes : Rat
  skips : Rat
  skipPct : Rat
  pushes : Rat
  delivered : Rat
  deliverPct : Rat
  failed : Rat
  successPct : Option Rat
  badSecret : Rat
  unknownToken : Rat
  apnsErrors : Rat
  rateLimited : Rat
  reasons : List Reason
  rejectedTotal : Rat
  latencyP50Ms : Option Rat
  latencyP95Ms : Option Rat
  latencySamples : Rat
  apnsSessions : Rat
  apnsSessionAgeS : Rat
  apnsConnects : Rat
  apnsThrottled : Rat
  apnsTimeouts : Rat
  apnsSessionErrors : Rat
  apnsDiscarded : Rat
  lastDeliveryAgeMs : Option Rat
  lastSampleTs : Option Int
  staleMs : Option Int

/-- The rejections by reason, the most frequent first. -/
def reasons (rows : List Row) : List Reason :=
  let counts := rejectFields.map fun field => Reason.mk field.2 (windowTotal rows field.1)
  (counts.filter (0 < ·.count)).mergeSort fun a b => b.count ≤ a.count

/-- A relay that has not delivered since its start reports 0. -/
def lastDeliveryAgeMs (cur : Row) : Option Rat :=
  if 0 < cur.lastDeliveryTs then some (max 0 (cur.ts - cur.lastDeliveryTs * 1000)) else none

def tiles (rows : List Row) (options : Options) : Tiles :=
  let cur := options.latest.or rows.getLast?
  let gauge (read : Row → Rat) : Rat := (cur.map read).getD 0
  let registrations := windowTotal rows .register
  let skips := windowTotal rows .registerSkipped
  let pushes := windowTotal rows .push
  let delivered := windowTotal rows .pushDelivered
  let failed := windowTotal rows .pushFailed
  let attempts := delivered + failed
  let latCum := latColumns.map (windowTotal rows)
  let latCount := windowTotal rows .latCount
  { devices := gauge (·.devices)
    registrations := registrations
    writes := windowTotal rows .registerWritten
    skips := skips
    skipPct := percent 1 skips registrations
    pushes := pushes
    delivered := delivered
    deliverPct := percent 1 delivered pushes
    failed := failed
    successPct := if attempts > 0 then some (toFixed 1 (delivered / attempts * 100)) else none
    badSecret := windowTotal rows .pushBadSecret
    unknownToken := windowTotal rows .pushUnknownToken
    apnsErrors := windowTotal rows .pushApnsError
    rateLimited := windowTotal rows .rateLimited
    reasons := reasons rows
    rejectedTotal := ((reasons rows).map (·.count)).sum
    latencyP50Ms := latencyQuantile (1 / 2) latCum latCount
    latencyP95Ms := latencyQuantile (95 / 100) latCum latCount
    latencySamples := latCount
    apnsSessions := gauge (·.apnsSessions)
    apnsSessionAgeS := gauge (·.apnsOldestSessionS)
    apnsConnects := windowTotal rows .apnsConnects
    apnsThrottled := windowTotal rows .apnsThrottled
    apnsTimeouts := windowTotal rows .apnsTimeouts
    apnsSessionErrors := windowTotal rows .apnsSessionErrors
    apnsDiscarded := windowTotal rows .apnsDiscardIdle + windowTotal rows .apnsDiscardTimeout
    lastDeliveryAgeMs := cur.bind Push.lastDeliveryAgeMs
    lastSampleTs := cur.map (·.ts)
    staleMs :=
      if options.nowMs = 0 then none else options.latest.map fun latest => options.nowMs - latest.ts }

structure Payload where
  tiles : Tiles
  series : Series

def buildPush (rows : List Row) (options : Options) : Payload where
  tiles := tiles rows options
  series := bucketizePush options.chart rows

end Payload

section Round
variable {first second value : Rat}

theorem mathRound_mono (ordered : first ≤ second) : mathRound first ≤ mathRound second := by
  have floors : ⌊first + 1 / 2⌋ ≤ ⌊second + 1 / 2⌋ := Int.floor_mono (by linarith)
  rw [mathRound, mathRound]
  exact_mod_cast floors

theorem mathRound_whole (whole : value.den = 1) : mathRound value = value := by
  have same : ((value.num : Int) : Rat) = value := Rat.coe_int_num_of_den_eq_one whole
  have floor : ⌊(value.num : Rat) + 1 / 2⌋ = value.num := by
    rw [Int.floor_eq_iff]
    constructor <;> linarith
  rw [mathRound, ← same, floor]

end Round

/-- What the quantile of some counts is: a number up to the last bound, and where a bucket is
chosen, a point of it, with a divisor above zero. -/
structure Estimates (q : Rat) (cum : List Rat) (total : Rat) : Prop where
  bounded : ∃ value, latencyQuantile q cum total = some value ∧ 0 ≤ value ∧
    ∀ last ∈ latBoundsMs.getLast?, value ≤ last
  inside : ∀ bucket, search (q * total) 0 0 (latBoundsMs.zip cum) = some bucket →
    0 < bucket.count - bucket.prevCount ∧
    (bucket.prevBound ≤ bucket.interpolate (q * total) ∧
      bucket.interpolate (q * total) ≤ bucket.bound) ∧
    ∃ value, latencyQuantile q cum total = some value ∧
      bucket.prevBound ≤ value ∧ value ≤ bucket.bound

section Quantiles
variable {q q1 q2 total : Rat} {cum : List Rat} {bucket : Quantile.Bucket Rat}

theorem bounds_of_zip (length : cum.length = latBoundsMs.length) :
    (latBoundsMs.zip cum).map Prod.fst = latBoundsMs :=
  List.map_fst_zip (le_of_eq length.symm)

theorem length_columns (count : Column → Rat) :
    (latColumns.map count).length = latBoundsMs.length := by
  rw [List.length_map]
  rfl

theorem bounds_rise (length : cum.length = latBoundsMs.length) :
    List.IsChain (· < ·) (0 :: (latBoundsMs.zip cum).map Prod.fst) := by
  rw [bounds_of_zip length]
  decide +kernel

-- Everything there is to say of a bucket that the loop stops at.
theorem chosen_bucket (length : cum.length = latBoundsMs.length) (observed : 0 < total)
    (positive : 0 < q) (found : search (q * total) 0 0 (latBoundsMs.zip cum) = some bucket) :
    bucket.Holds (q * total) ∧ bucket.prevBound ∈ 0 :: latBoundsMs ∧ bucket.bound ∈ latBoundsMs ∧
      latencyQuantile q cum total = some (mathRound (bucket.interpolate (q * total))) := by
  obtain ⟨holds, _, begins, ends⟩ :=
    Quantile.search_holds (mul_pos positive observed) (bounds_rise length) found
  rw [bounds_of_zip length] at begins ends
  refine ⟨holds, begins, ends, ?_⟩
  unfold latencyQuantile
  simp only [observed, if_true, found, not_le.mpr holds.divisor, if_false]

theorem rounded_inside (holds : bucket.Holds (q * total)) (begins : bucket.prevBound ∈ 0 :: latBoundsMs)
    (ends : bucket.bound ∈ latBoundsMs) :
    bucket.prevBound ≤ mathRound (bucket.interpolate (q * total)) ∧
      mathRound (bucket.interpolate (q * total)) ≤ bucket.bound := by
  have whole : ∀ bound ∈ 0 :: latBoundsMs, bound.den = 1 := by decide +kernel
  obtain ⟨least, most⟩ := holds.inside
  have low := mathRound_mono least
  have high := mathRound_mono most
  rw [mathRound_whole (whole _ begins)] at low
  rw [mathRound_whole (whole _ (List.mem_cons_of_mem _ ends))] at high
  exact ⟨low, high⟩

theorem estimates (length : cum.length = latBoundsMs.length) (observed : 0 < total)
    (positive : 0 < q) : Estimates q cum total := by
  have last : ∀ bound ∈ latBoundsMs, ∀ last ∈ latBoundsMs.getLast?, bound ≤ last := by
    decide +kernel
  have least : ∀ bound ∈ 0 :: latBoundsMs, 0 ≤ bound := by decide +kernel
  constructor
  case bounded =>
    cases found : search (q * total) 0 0 (latBoundsMs.zip cum) with
    | none =>
        refine ⟨10000, ?_, by norm_num, ?_⟩
        · simp only [latencyQuantile, observed, if_true, found]
          rfl
        · intro bound ends
          cases ends
          exact le_refl _
    | some bucket =>
        obtain ⟨holds, begins, ends, value⟩ := chosen_bucket length observed positive found
        obtain ⟨low, high⟩ := rounded_inside holds begins ends
        exact ⟨_, value, (least _ begins).trans low,
          fun bound member => high.trans (last _ ends bound member)⟩
  case inside =>
    intro bucket found
    obtain ⟨holds, begins, ends, value⟩ := chosen_bucket length observed positive found
    exact ⟨holds.divisor, holds.inside, _, value, rounded_inside holds begins ends⟩

theorem latencyQuantile_ordered (length : cum.length = latBoundsMs.length) (observed : 0 < total)
    (positive : 0 < q1) (ordered : q1 ≤ q2) :
    ∃ low high, latencyQuantile q1 cum total = some low ∧
      latencyQuantile q2 cum total = some high ∧ low ≤ high := by
  have ranks : q1 * total ≤ q2 * total := mul_le_mul_of_nonneg_right ordered observed.le
  cases found : search (q2 * total) 0 0 (latBoundsMs.zip cum) with
  | none =>
      obtain ⟨low, value, _, most⟩ := (estimates length observed positive).bounded
      refine ⟨low, 10000, value, ?_, most 10000 rfl⟩
      simp only [latencyQuantile, observed, if_true, found]
      rfl
  | some upper =>
      obtain ⟨holds, begins, ends, value⟩ :=
        chosen_bucket length observed (positive.trans_le ordered) found
      obtain ⟨lower, found', place⟩ :=
        Quantile.search_ordered ranks (mul_pos positive observed) (bounds_rise length) found
      obtain ⟨holds', begins', ends', value'⟩ := chosen_bucket length observed positive found'
      refine ⟨_, _, value', value, ?_⟩
      rcases place with rfl | apart
      · exact mathRound_mono (holds.ordered ranks)
      -- The lower rank is in a bucket that ends where the other begins, or sooner.
      · calc mathRound (lower.interpolate (q1 * total)) ≤ lower.bound :=
              (rounded_inside holds' begins' ends').2
          _ ≤ upper.prevBound := apart
          _ ≤ mathRound (upper.interpolate (q2 * total)) := (rounded_inside holds begins ends).1

theorem p50_le_p95 (length : cum.length = latBoundsMs.length) {p50 p95 : Rat}
    (median : latencyQuantile (1 / 2) cum total = some p50)
    (tail : latencyQuantile (95 / 100) cum total = some p95) : p50 ≤ p95 := by
  by_cases observed : 0 < total
  · obtain ⟨low, high, first, second, ordered⟩ :=
      latencyQuantile_ordered length observed (by norm_num : (0 : Rat) < 1 / 2)
        (by norm_num : (1 / 2 : Rat) ≤ 95 / 100)
    rw [median] at first
    rw [tail] at second
    cases first
    cases second
    exact ordered
  · rw [latencyQuantile, if_neg observed] at median
    cases median

end Quantiles

/-- Whatever the counts, the quantiles stay in the buckets that the ranks choose and follow the
ranks; so no window shows a p50 above its p95, on the tiles or in a slot of the chart. -/
theorem latency_quantiles :
    (∀ cum : List Rat, cum.length = latBoundsMs.length → ∀ total, 0 < total →
      ∀ q1 q2, 0 < q1 → q1 ≤ q2 → Estimates q1 cum total ∧ Estimates q2 cum total ∧
        ∃ low high, latencyQuantile q1 cum total = some low ∧
          latencyQuantile q2 cum total = some high ∧ low ≤ high) ∧
    ∀ rows options,
      (∀ p50 p95, (buildPush rows options).tiles.latencyP50Ms = some p50 →
        (buildPush rows options).tiles.latencyP95Ms = some p95 → p50 ≤ p95) ∧
      ∀ (slot : Nat) (p50 p95 : Point) (low high : Rat),
        (buildPush rows options).series.apnsLatencyP50[slot]? = some p50 →
        (buildPush rows options).series.apnsLatencyP95[slot]? = some p95 →
        p50.v = some low → p95.v = some high → low ≤ high := by
  constructor
  · intro cum length total observed q1 q2 positive ordered
    exact ⟨estimates length observed positive,
      estimates length observed (positive.trans_le ordered),
      latencyQuantile_ordered length observed positive ordered⟩
  · intro rows options
    constructor
    · intro p50 p95 median tail
      exact p50_le_p95 (length_columns _) median tail
    · intro slot p50 p95 low high first second median tail
      change ((List.range _).map _)[slot]? = _ at first second
      rw [List.getElem?_map] at first second
      obtain ⟨i, here, rfl⟩ := Option.map_eq_some_iff.mp first
      obtain ⟨j, there, rfl⟩ := Option.map_eq_some_iff.mp second
      rw [here] at there
      cases there
      exact p50_le_p95 (length_columns _) median tail

/-- Counts out of order: the rank 6 is first reached by the fourth, above a third of 3. -/
theorem latency_quantiles_unordered :
    latencyQuantile (1 / 2) [5, 3, 3, 10, 4, 4, 4, 4] 12 = some 357 ∧
      ∃ low high, latencyQuantile (1 / 2) [5, 3, 3, 10, 4, 4, 4, 4] 12 = some low ∧
        latencyQuantile (95 / 100) [5, 3, 3, 10, 4, 4, 4, 4] 12 = some high ∧ low ≤ high :=
  ⟨by decide +kernel,
    (latency_quantiles.1 [5, 3, 3, 10, 4, 4, 4, 4] rfl 12 (by norm_num) (1 / 2) (95 / 100)
      (by norm_num) (by norm_num)).2.2⟩

end Relay.Dashboard.Push

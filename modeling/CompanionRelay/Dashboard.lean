import Mathlib.Algebra.Order.BigOperators.Group.List
import Mathlib.Algebra.Order.Field.Rat
import Mathlib.Tactic.Linarith
import CompanionRelay.Adjacent
import CompanionRelay.MonitorChecks

/-!
src/dashboard/series.js for the relay's samples: the window totals of its counters, the slots
of the charts, and the tiles. A restart of the relay is seen in one column at a time, so two
columns of one sample can be read as restarted and not restarted.
-/

namespace Relay.Dashboard

open Adjacent (pairs)
open Function (update)

inductive Column
  | wsUpgrades
  | wsRejected
  | httpRequests
  | httpErrors
  | exceptions
  | pushErrors
  | lifeLe1
  | lifeCount
  | lifeSum
  | quotaExceeded
  | shardReject
  | shardMapReloads
  | shardMapFetchErrors
  deriving DecidableEq

/-- A stored sample: the gauges by name, and the cumulative counters by column. -/
structure Row where
  ts : Int
  socketsLive : Rat
  roomsLive : Rat
  roomsBoth : Rat
  roomsMacOnly : Rat
  roomsPhoneOnly : Rat
  shardMapVersion : Rat
  shardOwnedBuckets : Rat
  shardDrainingBuckets : Rat
  counter : Column → Rat

def step (prev cur : Row) (field : Column) : Rat :=
  let d := cur.counter field - prev.counter field
  if d < 0 then 0 else d

def windowTotal (rows : List Row) (field : Column) : Rat :=
  ((pairs rows).map fun pair => step pair.1 pair.2 field).sum

/-- `+value.toFixed(digits)`: of two nearest numbers the one farther from 0. -/
def toFixed (digits : Nat) (value : Rat) : Rat :=
  let nearest (value : Rat) : Rat := ⌊value * 10 ^ digits + 1 / 2⌋ / 10 ^ digits
  if value < 0 then -nearest (-value) else nearest value

section Slots

structure GaugeAcc where
  sockets : Rat
  rooms : Rat
  both : Rat
  macOnly : Rat
  n : Nat

structure RateAcc where
  elapsedMs : Int
  rate : Column → Rat
  closed : Rat
  shortLived : Rat

/-- The window of a chart and how many slots it has. -/
structure Chart where
  fromMs : Int
  toMs : Int
  buckets : Nat

def Chart.width (chart : Chart) : Rat := (max 1 (chart.toMs - chart.fromMs) : Int) / chart.buckets

def Chart.idx (chart : Chart) (ts : Int) : Nat :=
  (min (chart.buckets - 1 : Int) (max 0 ⌊((ts - chart.fromMs : Int) : Rat) / chart.width⌋)).toNat

def Chart.center (chart : Chart) (slot : Nat) : Int :=
  ⌊chart.fromMs + chart.width * (slot + 1 / 2) + 1 / 2⌋

def gaugeAdd (chart : Chart) (acc : Nat → GaugeAcc) (r : Row) : Nat → GaugeAcc :=
  let b := acc (chart.idx r.ts)
  update acc (chart.idx r.ts)
    { sockets := b.sockets + r.socketsLive
      rooms := b.rooms + r.roomsLive
      both := b.both + r.roomsBoth
      macOnly := b.macOnly + r.roomsMacOnly
      n := b.n + 1 }

def gaugeAcc (chart : Chart) (rows : List Row) : Nat → GaugeAcc :=
  rows.foldl (gaugeAdd chart) fun _ => ⟨0, 0, 0, 0, 0⟩

def rateFields : List Column :=
  [.wsUpgrades, .wsRejected, .httpRequests, .httpErrors, .exceptions, .quotaExceeded]

/-- A step counts for the slot of its later sample. -/
def rateAdd (chart : Chart) (acc : Nat → RateAcc) (pair : Row × Row) : Nat → RateAcc :=
  let b := acc (chart.idx pair.2.ts)
  update acc (chart.idx pair.2.ts)
    { elapsedMs := b.elapsedMs + max 0 (pair.2.ts - pair.1.ts)
      rate := fun f => if f ∈ rateFields then b.rate f + step pair.1 pair.2 f else b.rate f
      closed := b.closed + step pair.1 pair.2 .lifeCount
      shortLived := b.shortLived + step pair.1 pair.2 .lifeLe1 }

def rateAcc (chart : Chart) (rows : List Row) : Nat → RateAcc :=
  (pairs rows).foldl (rateAdd chart) fun _ => ⟨0, fun _ => 0, 0, 0⟩

structure Point where
  t : Int
  v : Option Rat

def gaugeSeries (chart : Chart) (rows : List Row) (pick : GaugeAcc → Rat) : List Point :=
  (List.range chart.buckets).map fun i =>
    let b := gaugeAcc chart rows i
    ⟨chart.center i, if b.n = 0 then none else some (toFixed 2 (pick b / b.n))⟩

def rateSeries (chart : Chart) (rows : List Row) (field : Column) : List Point :=
  (List.range chart.buckets).map fun i =>
    let a := rateAcc chart rows i
    ⟨chart.center i,
      if a.elapsedMs > 0 then some (toFixed 3 (a.rate field / a.elapsedMs * 60000)) else none⟩

/-- The fraction of the connections of a slot that closed within a second. -/
def shortLivedFrac (chart : Chart) (rows : List Row) : List Point :=
  (List.range chart.buckets).map fun i =>
    let a := rateAcc chart rows i
    ⟨chart.center i, if a.closed > 0 then some (toFixed 3 (a.shortLived / a.closed)) else none⟩

structure Series where
  socketsLive : List Point
  roomsLive : List Point
  roomsBoth : List Point
  roomsMacOnly : List Point
  upgradeRate : List Point
  requestRate : List Point
  errorRate : List Point
  rejectedRate : List Point
  quotaRate : List Point
  shortLivedFrac : List Point

def bucketize (chart : Chart) (rows : List Row) : Series where
  socketsLive := gaugeSeries chart rows (·.sockets)
  roomsLive := gaugeSeries chart rows (·.rooms)
  roomsBoth := gaugeSeries chart rows (·.both)
  roomsMacOnly := gaugeSeries chart rows (·.macOnly)
  upgradeRate := rateSeries chart rows .wsUpgrades
  requestRate := rateSeries chart rows .httpRequests
  errorRate := rateSeries chart rows .httpErrors
  rejectedRate := rateSeries chart rows .wsRejected
  quotaRate := rateSeries chart rows .quotaExceeded
  shortLivedFrac := Dashboard.shortLivedFrac chart rows

end Slots

section Payload

/-- The options of buildDashboard, with caps and errorCfg flat. -/
structure Options where
  latest : Option Row
  chart : Chart
  nowMs : Int
  socketsCap : Rat
  roomsCap : Rat
  warnFrac : Rat
  critFrac : Rat
  ratioThreshold : Rat
  minRequests : Rat
  exceptionThreshold : Rat

structure Tiles where
  socketsLive : Rat
  roomsLive : Rat
  roomsBoth : Rat
  roomsMacOnly : Rat
  roomsPhoneOnly : Rat
  upgrades : Rat
  rejected : Rat
  requests : Rat
  errors : Rat
  errorPct : Rat
  exceptions : Rat
  pushErrors : Rat
  quotaCloses : Rat
  shardMapVersion : Rat
  shardOwnedBuckets : Rat
  shardDrainingBuckets : Rat
  shardRejects : Rat
  shardMapReloads : Rat
  shardMapFetchErrors : Rat
  closed : Rat
  shortLivedPct : Rat
  avgLifetimeS : Rat
  lastSampleTs : Option Int
  staleMs : Option Int

def percent (digits : Nat) (part whole : Rat) : Rat :=
  if whole > 0 then toFixed digits (part / whole * 100) else 0

def tiles (rows : List Row) (options : Options) : Tiles :=
  let cur := options.latest.or rows.getLast?
  let gauge (read : Row → Rat) : Rat := (cur.map read).getD 0
  let requests := windowTotal rows .httpRequests
  let errors := windowTotal rows .httpErrors
  let closed := windowTotal rows .lifeCount
  { socketsLive := gauge (·.socketsLive)
    roomsLive := gauge (·.roomsLive)
    roomsBoth := gauge (·.roomsBoth)
    roomsMacOnly := gauge (·.roomsMacOnly)
    roomsPhoneOnly := gauge (·.roomsPhoneOnly)
    upgrades := windowTotal rows .wsUpgrades
    rejected := windowTotal rows .wsRejected
    requests := requests
    errors := errors
    errorPct := percent 2 errors requests
    exceptions := windowTotal rows .exceptions
    pushErrors := windowTotal rows .pushErrors
    quotaCloses := windowTotal rows .quotaExceeded
    shardMapVersion := (cur.map (·.shardMapVersion)).getD (-1)
    shardOwnedBuckets := gauge (·.shardOwnedBuckets)
    shardDrainingBuckets := gauge (·.shardDrainingBuckets)
    shardRejects := windowTotal rows .shardReject
    shardMapReloads := windowTotal rows .shardMapReloads
    shardMapFetchErrors := windowTotal rows .shardMapFetchErrors
    closed := closed
    shortLivedPct := percent 1 (windowTotal rows .lifeLe1) closed
    avgLifetimeS := if closed > 0 then toFixed 1 (windowTotal rows .lifeSum / closed) else 0
    lastSampleTs := cur.map (·.ts)
    staleMs :=
      if options.nowMs = 0 then none else options.latest.map fun latest => options.nowMs - latest.ts }

/-- The health panel: the checks of the monitor over the same window. -/
def health (rows : List Row) (options : Options) : List Monitor.Alert :=
  let caps (cur : Row) : List Monitor.Alert := Monitor.capAlerts
    [⟨"sockets", cur.socketsLive, options.socketsCap, options.warnFrac, options.critFrac,
        Monitor.plain_sockets⟩,
      ⟨"rooms", cur.roomsLive, options.roomsCap, options.warnFrac, options.critFrac,
        Monitor.plain_rooms⟩]
  ((options.latest.or rows.getLast?).map caps).getD [] ++
    (Monitor.errorAlert (windowTotal rows .httpRequests) (windowTotal rows .httpErrors)
      options.ratioThreshold options.minRequests).toList ++
    (Monitor.exceptionAlert (windowTotal rows .exceptions) options.exceptionThreshold).toList

structure Payload where
  window : Chart
  tiles : Tiles
  alerts : List Monitor.Alert
  series : Series

def buildDashboard (rows : List Row) (options : Options) : Payload where
  window := options.chart
  tiles := tiles rows options
  alerts := health rows options
  series := bucketize options.chart rows

/-- `DashboardDB.range` of the stored series. -/
def range (series : List Row) (fromMs toMs : Int) : List Row :=
  series.filter fun row => fromMs ≤ row.ts ∧ row.ts ≤ toMs

end Payload

section Claims

/-- The two parts of a sample stay within their wholes. -/
def Proper (row : Row) : Prop :=
  row.counter .lifeLe1 ≤ row.counter .lifeCount ∧ row.counter .httpErrors ≤ row.counter .httpRequests

/-- How far a counter is above its value in the sample before. -/
def growth (pair : Row × Row) (field : Column) : Rat :=
  pair.2.counter field - pair.1.counter field

/-- No restart between two samples. -/
def Grows (pair : Row × Row) : Prop :=
  (∀ field, 0 ≤ growth pair field) ∧ growth pair .lifeLe1 ≤ growth pair .lifeCount ∧
    growth pair .httpErrors ≤ growth pair .httpRequests

/-- The counters were set to zero between two samples and grew again. -/
def Restarts (pair : Row × Row) : Prop := ∀ field, 0 ≤ pair.2.counter field

structure Consistent (series : List Row) : Prop where
  samples : ∀ row ∈ series, Proper row
  steps : ∀ pair ∈ pairs series, Grows pair ∨ Restarts pair

/-- What the page shows of a window stays within 100 percent. -/
structure RatiosHold (rows : List Row) (options : Options) : Prop where
  shortLived : windowTotal rows .lifeLe1 ≤ windowTotal rows .lifeCount
  errors : windowTotal rows .httpErrors ≤ windowTotal rows .httpRequests
  slots : ∀ slot, (rateAcc options.chart rows slot).shortLived ≤
      (rateAcc options.chart rows slot).closed ∧
    (rateAcc options.chart rows slot).rate .httpErrors ≤
      (rateAcc options.chart rows slot).rate .httpRequests
  shortLivedPct : (buildDashboard rows options).tiles.shortLivedPct ≤ 100
  errorPct : (buildDashboard rows options).tiles.errorPct ≤ 100
  shortLivedFrac : ∀ point ∈ (buildDashboard rows options).series.shortLivedFrac,
    ∀ v, point.v = some v → v ≤ 1

/-- Across a restart a part has not grown past its old value, or by no more than its whole. -/
def Trails (pair : Row × Row) (part whole : Column) : Prop :=
  growth pair part ≤ 0 ∨ growth pair part ≤ growth pair whole

end Claims

section Totals
variable {rows window series : List Row} {part whole : Column} {pair : Row × Row}

theorem step_eq_max (prev cur : Row) (field : Column) :
    step prev cur field = max 0 (growth (prev, cur) field) := by
  change (if growth (prev, cur) field < 0 then 0 else growth (prev, cur) field) = _
  split
  · rename_i fell
    exact (max_eq_left (le_of_lt fell)).symm
  · rename_i grew
    exact (max_eq_right (not_lt.mp grew)).symm

theorem step_le_iff :
    step pair.1 pair.2 part ≤ step pair.1 pair.2 whole ↔ Trails pair part whole := by
  rw [step_eq_max, step_eq_max, Trails, max_le_iff, le_max_iff, le_max_iff]
  simp

theorem Grows.trails (grows : Grows pair) :
    Trails pair .lifeLe1 .lifeCount ∧ Trails pair .httpErrors .httpRequests :=
  ⟨.inr grows.2.1, .inr grows.2.2⟩

theorem windowTotal_le (each : ∀ pair ∈ pairs rows, Trails pair part whole) :
    windowTotal rows part ≤ windowTotal rows whole := by
  apply List.sum_le_sum
  intro pair member
  exact step_le_iff.mpr (each pair member)

theorem windowTotal_pair (prev cur : Row) (field : Column) :
    windowTotal [prev, cur] field = step prev cur field := by
  simp [windowTotal]

theorem rateAcc_le (chart : Chart)
    (each : ∀ pair ∈ pairs rows, Trails pair .lifeLe1 .lifeCount ∧
      Trails pair .httpErrors .httpRequests) (slot : Nat) :
    (rateAcc chart rows slot).shortLived ≤ (rateAcc chart rows slot).closed ∧
      (rateAcc chart rows slot).rate .httpErrors ≤ (rateAcc chart rows slot).rate .httpRequests := by
  have folded : ∀ steps : List (Row × Row), (∀ pair ∈ steps, Trails pair .lifeLe1 .lifeCount ∧
      Trails pair .httpErrors .httpRequests) → ∀ acc : Nat → RateAcc,
      (acc slot).shortLived ≤ (acc slot).closed ∧
        (acc slot).rate .httpErrors ≤ (acc slot).rate .httpRequests →
      (steps.foldl (rateAdd chart) acc slot).shortLived ≤
          (steps.foldl (rateAdd chart) acc slot).closed ∧
        (steps.foldl (rateAdd chart) acc slot).rate .httpErrors ≤
          (steps.foldl (rateAdd chart) acc slot).rate .httpRequests := by
    intro steps each
    induction steps with
    | nil => exact fun _ within => within
    | cons pair rest ih =>
        intro acc within
        obtain ⟨⟨lives, errors⟩, later⟩ := List.forall_mem_cons.mp each
        apply ih later
        unfold rateAdd
        -- A pair adds to the one slot of its later sample.
        by_cases here : slot = chart.idx pair.2.ts
        · subst here
          rw [Function.update_self]
          have listed : Column.httpErrors ∈ rateFields ∧ Column.httpRequests ∈ rateFields := by decide
          simp only [listed, if_true]
          exact ⟨add_le_add within.1 (step_le_iff.mpr lives),
            add_le_add within.2 (step_le_iff.mpr errors)⟩
        · rw [Function.update_of_ne here]
          exact within
  exact folded (pairs rows) each _ ⟨le_refl _, le_refl _⟩

end Totals

section Percentages

theorem toFixed_le (digits limit : Nat) {value : Rat} (below : value ≤ limit) :
    toFixed digits value ≤ limit := by
  have scale : (0 : Rat) < 10 ^ digits := by positivity
  unfold toFixed
  dsimp only
  split
  · rename_i negative
    have rounded : (0 : Int) ≤ ⌊-value * 10 ^ digits + 1 / 2⌋ := by
      apply Int.floor_nonneg.mpr
      have product : 0 ≤ -value * 10 ^ digits := mul_nonneg (by linarith) scale.le
      linarith
    have nonneg : (0 : Rat) ≤ (⌊-value * 10 ^ digits + 1 / 2⌋ : Rat) / 10 ^ digits :=
      div_nonneg (by exact_mod_cast rounded) scale.le
    have room : (0 : Rat) ≤ limit := Nat.cast_nonneg limit
    linarith
  · rw [div_le_iff₀ scale]
    have product : value * 10 ^ digits ≤ limit * 10 ^ digits := mul_le_mul_of_nonneg_right below scale.le
    have rounded : ⌊value * 10 ^ digits + 1 / 2⌋ < ((limit * 10 ^ digits : Nat) : Int) + 1 := by
      rw [Int.floor_lt]
      push_cast
      linarith
    have whole : ⌊value * 10 ^ digits + 1 / 2⌋ ≤ ((limit * 10 ^ digits : Nat) : Int) := by omega
    exact_mod_cast whole

theorem ratio_le_one {part whole : Rat} (within : part ≤ whole) (some_ : 0 < whole) :
    part / whole ≤ 1 := (div_le_one some_).mpr within

theorem percent_le (digits : Nat) {part whole : Rat} (within : part ≤ whole) :
    percent digits part whole ≤ 100 := by
  unfold percent
  split
  · rename_i some_
    apply toFixed_le digits 100
    have ratio := ratio_le_one within some_
    push_cast
    linarith
  · norm_num

end Percentages

section Ratios
variable {rows series : List Row}

theorem ratiosHold (options : Options)
    (each : ∀ pair ∈ pairs rows, Trails pair .lifeLe1 .lifeCount ∧
      Trails pair .httpErrors .httpRequests) : RatiosHold rows options := by
  have shortLived : windowTotal rows .lifeLe1 ≤ windowTotal rows .lifeCount :=
    windowTotal_le fun pair member => (each pair member).1
  have errors : windowTotal rows .httpErrors ≤ windowTotal rows .httpRequests :=
    windowTotal_le fun pair member => (each pair member).2
  constructor
  case shortLived => exact shortLived
  case errors => exact errors
  case slots => exact rateAcc_le options.chart each
  case shortLivedPct => exact percent_le 1 shortLived
  case errorPct => exact percent_le 2 errors
  case shortLivedFrac =>
    intro point member v shown
    obtain ⟨slot, _, rfl⟩ := List.mem_map.mp member
    obtain ⟨some_, ⟨⟩⟩ := Option.ite_none_right_eq_some.mp shown
    have ratio := ratio_le_one (rateAcc_le options.chart each slot).1 some_
    exact_mod_cast toFixed_le 3 1 (by exact_mod_cast ratio)

/-- The ratios of every window hold just when at each restart of the relay neither part has
grown past its old value by more than its whole. -/
theorem ratios_iff (series : List Row) :
    (∀ window, window <:+: series → ∀ options, RatiosHold window options) ↔
      ∀ pair ∈ pairs series, ¬ Grows pair →
        Trails pair .lifeLe1 .lifeCount ∧ Trails pair .httpErrors .httpRequests := by
  constructor
  -- Two neighbours alone are a window, and its total is their step.
  · rintro hold ⟨prev, cur⟩ member _
    have ratios := hold [prev, cur] (Adjacent.mem_pairs_iff.mp member)
      ⟨none, ⟨0, 0, 0⟩, 0, 0, 0, 0, 0, 0, 0, 0⟩
    have shortLived := ratios.shortLived
    have errors := ratios.errors
    rw [windowTotal_pair, windowTotal_pair] at shortLived errors
    exact ⟨step_le_iff.mp shortLived, step_le_iff.mp errors⟩
  · intro restarts window inside options
    apply ratiosHold
    intro pair member
    -- Without a restart the parts grow no faster than their wholes.
    by_cases grows : Grows pair
    · exact grows.trails
    · exact restarts pair (Adjacent.pairs_window inside member) grows

section Sample

def sample (ts : Int) (lifeCount lifeLe1 : Rat) : Row where
  ts := ts
  socketsLive := 0
  roomsLive := 0
  roomsBoth := 0
  roomsMacOnly := 0
  roomsPhoneOnly := 0
  shardMapVersion := -1
  shardOwnedBuckets := 0
  shardDrainingBuckets := 0
  counter
    | .lifeCount => lifeCount
    | .lifeLe1 => lifeLe1
    | _ => 0

def sampleOptions : Options := ⟨none, ⟨0, 60000, 60⟩, 60000, 200000, 200000, 7 / 10, 9 / 10, 1 / 20, 100, 1⟩

/-- A restart between the two samples: 10 connections before it, 2 of them short, and then 15,
14 of them short. The page shows 240 percent of short-lived connections. -/
theorem regrown_past_percent :
    Consistent [sample 0 10 2, sample 60000 15 14] ∧
      (buildDashboard [sample 0 10 2, sample 60000 15 14] sampleOptions).tiles.shortLivedPct = 240 ∧
      ¬ ∀ window, window <:+: [sample 0 10 2, sample 60000 15 14] →
        ∀ options, RatiosHold window options := by
  have shown : (buildDashboard [sample 0 10 2, sample 60000 15 14] sampleOptions).tiles.shortLivedPct =
      240 := by decide +kernel
  refine ⟨⟨?_, ?_⟩, shown, ?_⟩
  · simp only [List.forall_mem_cons]
    exact ⟨⟨by decide +kernel, by decide +kernel⟩, ⟨by decide +kernel, by decide +kernel⟩, by simp⟩
  · intro pair member
    obtain rfl := List.mem_singleton.mp member
    right
    rintro (_ | _) <;> decide +kernel
  · intro hold
    have percent := (hold _ (List.infix_refl _) sampleOptions).shortLivedPct
    rw [shown] at percent
    exact absurd percent (by decide +kernel)

end Sample

end Ratios

end Relay.Dashboard

import CompanionRelay.Collector
import CompanionRelay.Dashboard
import CompanionRelay.ExpositionAgreement
import CompanionRelay.Odometer
import CompanionRelay.Tally

/-!
The dashboard beside a relay that counts, restarts and answers its scrapes: what the page totals of
a window never is more than the relay counted between the first and the last sample of it.
-/

namespace Relay.Dashboard

open Exposition (Call Counter Field Gauges Hosted Labeled Line Metrics Runtime Text parseMetrics)
open Odometer (Reading)

section Columns

abbrev Scrape := Field → Rat

def Column.field : Column → Field
  | .wsUpgrades => .wsUpgrades
  | .wsRejected => .wsRejected
  | .httpRequests => .httpRequests
  | .httpErrors => .httpErrors
  | .exceptions => .exceptions
  | .pushErrors => .pushErrors
  | .lifeLe1 => .lifeLe 1
  | .lifeCount => .lifeCount
  | .lifeSum => .lifeSum
  | .quotaExceeded => .quotaExceeded
  | .shardReject => .shardReject
  | .shardMapReloads => .shardMapReloads
  | .shardMapFetchErrors => .shardMapFetchErrors

/-- A sample as the page reads it. -/
def Row.of (sample : Int × Scrape) : Row where
  ts := sample.1
  socketsLive := sample.2 .socketsLive
  roomsLive := sample.2 .roomsLive
  roomsBoth := sample.2 .roomsBoth
  roomsMacOnly := sample.2 .roomsMacOnly
  roomsPhoneOnly := sample.2 .roomsPhoneOnly
  shardMapVersion := sample.2 .shardMapVersion
  shardOwnedBuckets := sample.2 .shardOwnedBuckets
  shardDrainingBuckets := sample.2 .shardDrainingBuckets
  counter := fun column => sample.2 column.field

/-- The counter that is scraped for a column, if it is a plain one. -/
def Column.source : Column → Option Counter
  | .wsUpgrades => some .wsUpgradesTotal
  | .httpRequests => some .httpRequestsTotal
  | .httpErrors => some .httpErrorsTotal
  | .exceptions => some .processExceptionsTotal
  | .pushErrors => some .metricsPushErrorsTotal
  | .quotaExceeded => some .quotaExceededTotal
  | .shardReject => some .shardRejectTotal
  | .shardMapReloads => some .shardMapReloadsTotal
  | .shardMapFetchErrors => some .shardMapFetchErrorsTotal
  | .wsRejected => none
  | .lifeLe1 => none
  | .lifeCount => none
  | .lifeSum => none

/-- What the relay has counted for a column since it was started. -/
def held (metrics : Metrics) (column : Column) : Rat :=
  match column.source with
  | some counter => metrics.count counter
  | none =>
      if column = .wsRejected then metrics.rejected
      else if column = .lifeLe1 then metrics.bucketCounts.headD 0
      else if column = .lifeCount then metrics.lifetimeInf
      else metrics.lifetimeSum

/-- What a call counts for a column. -/
def gain (column : Column) : Call → Rat
  | .inc counter value => if column.source = some counter then value else 0
  | .incReason labeled _ _ =>
      if labeled = .wsUpgradesRejectedTotal ∧ column = .wsRejected then 1 else 0
  | .observeSocketLifetime seconds =>
      if column = .lifeCount then 1
      else if column = .lifeSum then seconds
      else if column = .lifeLe1 ∧ seconds ≤ 1 then 1
      else 0

end Columns

section Counts
variable {metrics : Metrics} {runtime : Runtime} {gauges : Gauges} {column : Column}

theorem held_new : held .new column = 0 := by
  cases column <;> rfl

theorem rejected_other (reason : Text) :
    (metrics.incReason Labeled.shardMapFetchErrorsByCauseTotal.name reason).rejected =
      metrics.rejected := by
  have unlisted : Exposition.isRejection
      (Exposition.reasonKey Labeled.shardMapFetchErrorsByCauseTotal.name reason) = false := by
    rfl
  have sum := metrics.counters.sumOver_add Exposition.isRejection
    (Exposition.reasonKey Labeled.shardMapFetchErrorsByCauseTotal.name reason) 1
  rw [unlisted] at sum
  simpa [Metrics.rejected, Metrics.incReason, Metrics.inc, OrderedMap.sumOver,
    Exposition.isRejection] using sum

theorem head_observe (hosted : Hosted metrics) (seconds : Rat) :
    (metrics.observeSocketLifetime seconds).bucketCounts.headD 0 =
      metrics.bucketCounts.headD 0 + if seconds ≤ 1 then 1 else 0 := by
  obtain ⟨observed, _, counts⟩ := hosted.lifetimes
  rw [Metrics.observeSocketLifetime, counts]
  simp only [Exposition.lifetimeBuckets, List.map_cons, List.zipWith_cons_cons, List.headD_cons,
    Nat.cast_one]
  split <;> rfl

theorem held_call (hosted : Hosted metrics) (call : Call) :
    held (metrics.call call) column = held metrics column + gain column call := by
  cases source : column.source with
  | some counter =>
      have plain : column ≠ .wsRejected ∧ column ≠ .lifeCount ∧ column ≠ .lifeSum ∧
          column ≠ .lifeLe1 := by
        refine ⟨?_, ?_, ?_, ?_⟩ <;> rintro rfl <;> cases source
      simp only [held, source]
      cases call with
      | inc given value =>
          rw [Metrics.call, Exposition.count_inc, gain, source]
          simp only [Option.some.injEq, eq_comm]
      | incReason labeled reason listed =>
          rw [Metrics.call, Exposition.count_incReason, gain, if_neg (fun here => plain.1 here.2),
            add_zero]
      | observeSocketLifetime seconds =>
          rw [Metrics.call, Exposition.count_observe, gain, if_neg plain.2.1, if_neg plain.2.2.1,
            if_neg (fun here => plain.2.2.2 here.1), add_zero]
  | none =>
      simp only [held, source]
      cases call with
      | inc given value =>
          simp only [Metrics.call, Exposition.rejected_inc, gain, source, reduceCtorEq, if_false,
            add_zero]
          rfl
      | incReason labeled reason listed =>
          simp only [Metrics.call, gain]
          cases labeled with
          | wsUpgradesRejectedTotal =>
              rw [Exposition.rejected_incReason]
              by_cases here : column = .wsRejected
              · simp [here]
              · simp only [here, if_false, and_false, add_zero]
                rfl
          | shardMapFetchErrorsByCauseTotal =>
              simp only [rejected_other, reduceCtorEq, false_and, if_false, add_zero]
              rfl
      | observeSocketLifetime seconds =>
          simp only [Metrics.call, gain, Exposition.rejected_observe, Exposition.lifetimes_observe,
            head_observe hosted]
          cases column with
          | wsRejected => simp
          | lifeLe1 => split <;> simp_all
          | lifeCount => simp
          | lifeSum => simp [Metrics.observeSocketLifetime]
          | _ => cases source

theorem source_listed {counter : Counter} (source : column.source = some counter) :
    (String.ofList ("relay_".toList ++ counter.name), column.field) ∈ Exposition.plainFields ∧
      Exposition.unset column.field = 0 := by
  cases column <;> cases source <;> decide

theorem sum_values (runtime : Runtime) (gauges : Gauges) (hosted : Hosted metrics) :
    Exposition.valuesOf (Exposition.lifetimeName ++ "_sum".toList)
      (metrics.points runtime gauges) = [metrics.lifetimeSum] := by
  obtain ⟨observed, _, counts⟩ := hosted.lifetimes
  have apart : Exposition.bucketName ≠ Exposition.lifetimeName ++ "_sum".toList ∧
      Exposition.countName ≠ Exposition.lifetimeName ++ "_sum".toList := by decide
  have own : Exposition.valuesOf (Exposition.lifetimeName ++ "_sum".toList)
      metrics.lifetimeSamples = [metrics.lifetimeSum] := by
    rw [Exposition.bucket_samples counts, Exposition.valuesOf_append, Exposition.valuesOf_nil,
      List.nil_append, Exposition.valuesOf, List.filter_cons_of_neg (by simpa using apart.1),
      List.filter_cons_of_pos (by simp), List.filter_cons_of_neg (by simpa using apart.2)]
    · rfl
    · intro sample member
      obtain ⟨_, _, rfl⟩ := List.mem_map.mp member
      exact apart.1
  rw [Metrics.points, Exposition.valuesOf_append, own, Exposition.valuesOf_nil, List.nil_append]
  intro sample member
  obtain ⟨series, same⟩ := Exposition.series_samples runtime gauges hosted sample member
  exact same ▸ Exposition.series_apart series "_sum".toList

theorem scraped_held (hosted : Hosted metrics)
    (exact_ : ∀ sample, Line.sample sample ∈ metrics.lines runtime gauges →
      runtime.Exact sample.value) (column : Column) :
    parseMetrics runtime (metrics.render runtime gauges) column.field = held metrics column := by
  have clean := Exposition.lines_clean hosted fun sample member =>
    exact_ sample (Exposition.mem_points.mpr member)
  obtain ⟨observed, length, counts⟩ := hosted.lifetimes
  rw [(Exposition.parse_render clean).2]
  cases source : column.source with
  | some counter =>
      obtain ⟨listed, unset⟩ := source_listed source
      have values : (Exposition.Series.counter counter).values metrics gauges =
          (metrics.counters.get? counter.name).toList := rfl
      have single := Exposition.single_values runtime hosted values
      have charted := Exposition.chart_single listed single
      rw [charted, unset, held, source]
      rfl
  | none =>
      rw [held, source]
      cases column with
      | wsRejected => exact Exposition.chart_quantity runtime gauges hosted .wsUpgradesRejectedTotal
      | lifeLe1 =>
          have listed : 1 ∈ Exposition.lifetimeBuckets.map Prod.fst := by decide
          have charted := Exposition.chart_bucket runtime gauges hosted counts listed
          refine charted.trans ?_
          simp only [counts]
          rfl
      | lifeCount => exact Exposition.chart_count runtime gauges hosted counts
      | lifeSum =>
          have listed : (String.ofList ("relay_".toList ++
              (Exposition.lifetimeName ++ "_sum".toList)), Field.lifeSum) ∈
                Exposition.plainFields := by decide
          have single : Exposition.valuesOf (Exposition.lifetimeName ++ "_sum".toList)
              (metrics.points runtime gauges) = (some metrics.lifetimeSum).toList :=
            sum_values runtime gauges hosted
          exact Exposition.chart_single listed single
      | _ => cases source

end Counts

section Site

/-- A text that is under way is known by the order in which the scrapes were answered. -/
inductive Event
  | call (call : Call)
  | restart
  | scrape (gauges : Gauges)
  | lost (slot : Nat)
  | arrives (slot : Nat) (ts : Int) (inserts : Bool) (now : Int) (prunes : Bool)
  | fails (now : Int) (prunes : Bool)

/-- The counters of the relay that runs, the texts that are under way, and the database. -/
structure Site where
  metrics : Metrics
  asked : List Text
  samples : Samples Scrape

def Site.start : Site := ⟨.new, [], ⟨.empty, 0, 0⟩⟩

def Site.step (runtime : Runtime) (collector : Collector) (site : Site) : Event → Site
  | .call call => { site with metrics := site.metrics.call call }
  | .restart => { site with metrics := .new }
  | .scrape gauges => { site with asked := site.asked ++ [site.metrics.render runtime gauges] }
  | .lost slot => { site with asked := site.asked.eraseIdx slot }
  | .arrives slot ts inserts now prunes =>
      { site with
          asked := site.asked.eraseIdx slot
          samples := collector.tick site.samples
            ⟨site.asked[slot]?.map (parseMetrics runtime), ts, inserts, now, prunes⟩ }
  | .fails now prunes =>
      { site with samples := collector.tick site.samples ⟨none, now, true, now, prunes⟩ }

def Site.run (runtime : Runtime) (collector : Collector) (events : List Event) : Site :=
  events.foldl (step runtime collector) .start

/-- The stored samples, as the page reads them. -/
def Site.series (site : Site) : List Row := site.samples.table.rows.map Row.of

/-- No call counts down, the numbers of a text can be read back, and the texts arrive in the order
in which they were written, under a clock that does not go back. -/
def Site.Steady (runtime : Runtime) (site : Site) : Event → Prop
  | .call call => ∀ column, 0 ≤ gain column call
  | .scrape gauges => ∀ sample, Line.sample sample ∈ site.metrics.lines runtime gauges →
      runtime.Exact sample.value
  | .arrives slot ts _ _ _ => slot = 0 ∧ ∀ row ∈ site.samples.table.rows, row.1 ≤ ts
  | _ => True

def Site.SteadyRun (runtime : Runtime) (collector : Collector) (site : Site) : List Event → Prop
  | [] => True
  | event :: rest => site.Steady runtime event ∧
      (site.step runtime collector event).SteadyRun runtime collector rest

def Event.gain (column : Column) : Event → Rat
  | .call made => Dashboard.gain column made
  | _ => 0

/-- What the relay counts for a column in the course of some events. -/
def counted (column : Column) (events : List Event) : Rat := (events.map (Event.gain column)).sum

/-- What a column counts on the relay, the relay's restarts setting it back. -/
def Event.read (column : Column) (reading : Reading Rat) : Event → Reading Rat
  | .call made => reading.count (Dashboard.gain column made)
  | .restart => reading.reset
  | _ => reading

def meter (column : Column) (events : List Event) : Reading Rat :=
  events.foldl (Event.read column) ⟨0, 0, 0⟩

end Site

section Meters
variable {runtime : Runtime} {collector : Collector} {column : Column} {early between : List Event}
  {event : Event}

theorem site_snoc : Site.run runtime collector (early ++ [event]) =
    (Site.run runtime collector early).step runtime collector event := by
  rw [Site.run, Site.run, List.foldl_append, List.foldl_cons, List.foldl_nil]

theorem meter_snoc : meter column (early ++ [event]) = event.read column (meter column early) := by
  rw [meter, meter, List.foldl_append, List.foldl_cons, List.foldl_nil]

theorem hosted_site (events : List Event) : Hosted (Site.run runtime collector events).metrics := by
  induction events using List.reverseRecOn with
  | nil => exact Exposition.hosted_new
  | append_singleton events event ih =>
      rw [site_snoc]
      cases event with
      | call made => exact Exposition.hosted_call ih made
      | restart => exact Exposition.hosted_new
      | _ => exact ih

theorem meter_held (events : List Event) :
    (meter column events).value = held (Site.run runtime collector events).metrics column := by
  induction events using List.reverseRecOn with
  | nil => exact held_new.symm
  | append_singleton events event ih =>
      rw [site_snoc, meter_snoc]
      cases event with
      | call made => exact (congrArg (· + gain column made) ih).trans (held_call (hosted_site events) made).symm
      | restart => exact held_new.symm
      | _ => exact ih

theorem meter_grand : (meter column (early ++ between)).grand =
    (meter column early).grand + counted column between := by
  induction between using List.reverseRecOn with
  | nil => simp [counted]
  | append_singleton between event ih =>
      have split : counted column (between ++ [event]) =
          counted column between + event.gain column := by simp [counted]
      rw [← List.append_assoc, meter_snoc, split, ← add_assoc, ← ih]
      cases event with
      | call made => rfl
      | _ => exact (add_zero _).symm

theorem meter_resets (running : Event.restart ∉ between) :
    (meter column (early ++ between)).resets = (meter column early).resets := by
  induction between using List.reverseRecOn with
  | nil => rw [List.append_nil]
  | append_singleton between event ih =>
      rw [List.mem_append, not_or, List.mem_singleton] at running
      rw [← List.append_assoc, meter_snoc, ← ih running.1]
      cases event with
      | restart => exact absurd rfl running.2
      | _ => rfl

/-- Every event counts up. -/
def Climbs (events : List Event) : Prop := ∀ event ∈ events, ∀ column, 0 ≤ event.gain column

theorem meter_before {reading : Reading Rat} (before : Odometer.Before reading (meter column early))
    (climbs : Climbs between) : Odometer.Before reading (meter column (early ++ between)) := by
  induction between using List.reverseRecOn with
  | nil => rwa [List.append_nil]
  | append_singleton between event ih =>
      have up := climbs event (by simp) column
      have before := ih fun other member => climbs other (List.mem_append_left _ member)
      rw [← List.append_assoc, meter_snoc]
      cases event with
      | call made => exact before.count up
      | restart => exact before.reset
      | _ => exact before

theorem meter_ordered {late : List Event} (leads : early <+: late) (climbs : Climbs late) :
    Odometer.Before (meter column early) (meter column late) := by
  obtain ⟨between, rfl⟩ := leads
  have start : Odometer.Before (meter column []) (meter column []) := .self (le_refl _)
  have positive := (meter_before start fun event member =>
    climbs event (List.mem_append_left _ member)).positive
  exact meter_before (.self positive) fun event member => climbs event (List.mem_append_right _ member)

end Meters

section Traces
variable {runtime : Runtime} {collector : Collector} {past : List Event} {event : Event} {site : Site}

/-- A scrape that the relay answered: what had happened, and the gauges. -/
structure Answer where
  after : List Event
  gauges : Gauges

def Answer.text (runtime : Runtime) (collector : Collector) (answer : Answer) : Text :=
  (Site.run runtime collector answer.after).metrics.render runtime answer.gauges

def Answer.scrape (runtime : Runtime) (collector : Collector) (answer : Answer) : Scrape :=
  parseMetrics runtime (answer.text runtime collector)

def Answer.Readable (runtime : Runtime) (collector : Collector) (answer : Answer) : Prop :=
  ∀ sample, Line.sample sample ∈
    (Site.run runtime collector answer.after).metrics.lines runtime answer.gauges →
      runtime.Exact sample.value

/-- The answers that are stored and under way, in the order of the events that they came after. -/
structure Traced (runtime : Runtime) (collector : Collector) (past : List Event) (site : Site)
    (stored : List (Int × Answer)) (asked : List Answer) : Prop where
  rows : site.samples.table.rows = stored.map fun row => (row.1, row.2.scrape runtime collector)
  texts : site.asked = asked.map (Answer.text runtime collector)
  ordered : (stored.map Prod.snd ++ asked).Pairwise fun first second => first.after <+: second.after
  answered : ∀ answer ∈ stored.map Prod.snd ++ asked,
    answer.after ++ [.scrape answer.gauges] <+: past ∧ answer.Readable runtime collector

-- A tick keeps some of the rows, puts its sample behind them, and prunes by the time.
theorem tick_rows (collector : Collector) {samples : Samples Scrape} {tick : Tick Scrape}
    (steady : tick.stored = none ∨ ∀ row ∈ samples.table.rows, row.1 ≤ tick.ts) :
    ∃ keep spare : Int → Bool, (collector.tick samples tick).table.rows =
      (samples.table.rows.filter (fun row => keep row.1) ++
        (tick.stored.map fun scrape => (tick.ts, scrape)).toList).filter fun row => spare row.1 := by
  have sampled : ∃ keep : Int → Bool, (samples.sample tick).table.rows =
      samples.table.rows.filter (fun row => keep row.1) ++
        (tick.stored.map fun scrape => (tick.ts, scrape)).toList := by
    rw [Samples.sample]
    cases stored : tick.stored with
    | none => exact ⟨fun _ => true, by simp⟩
    | some scrape =>
        have steady := steady.resolve_left (by simp [stored])
        have none : samples.table.rows.filter (fun row => tick.ts < row.1) = [] := by
          rw [List.filter_eq_nil_iff]
          intro row member
          simpa using steady row member
        refine ⟨fun time => time < tick.ts, ?_⟩
        simp [Table.insert, none]
  obtain ⟨keep, rows⟩ := sampled
  refine ⟨keep, ?_⟩
  rw [← rows, Collector.tick]
  split
  · split
    · exact ⟨fun time => tick.now - collector.retentionMs ≤ time, rfl⟩
    · exact ⟨fun _ => true, by simp⟩
  · exact ⟨fun _ => true, by simp⟩

theorem Traced.tick {stored : List (Int × Answer)} {asked rest : List Answer}
    (traced : Traced runtime collector past site stored asked) (tick : Tick Scrape)
    (fresh : List (Int × Answer))
    (steady : tick.stored = none ∨ ∀ row ∈ site.samples.table.rows, row.1 ≤ tick.ts)
    (sampled : (tick.stored.map fun scrape => (tick.ts, scrape)).toList =
      fresh.map fun row => (row.1, row.2.scrape runtime collector))
    (left : (fresh.map Prod.snd ++ rest).Sublist asked) :
    ∃ stored, Traced runtime collector past
      { site with
          asked := rest.map (Answer.text runtime collector)
          samples := collector.tick site.samples tick } stored rest := by
  obtain ⟨keep, spare, rows⟩ := tick_rows collector steady
  have fewer : (((stored.filter (fun row => keep row.1) ++ fresh).filter fun row =>
      spare row.1).map Prod.snd ++ rest).Sublist (stored.map Prod.snd ++ asked) := by
    have kept := (List.filter_sublist (p := fun row : Int × Answer => spare row.1)
      (l := stored.filter (fun row => keep row.1) ++ fresh)).map Prod.snd
    refine (kept.append_right rest).trans ?_
    rw [List.map_append, List.append_assoc]
    exact (List.filter_sublist.map Prod.snd).append left
  refine ⟨(stored.filter (fun row => keep row.1) ++ fresh).filter fun row => spare row.1, ?_, rfl,
    traced.ordered.sublist fewer, fun answer member => traced.answered answer (fewer.subset member)⟩
  rw [rows, traced.rows, sampled, List.filter_map, ← List.map_append, List.filter_map]
  rfl

theorem Traced.later {stored : List (Int × Answer)} {asked : List Answer}
    (traced : Traced runtime collector past site stored asked) (metrics : Metrics) (event : Event) :
    Traced runtime collector (past ++ [event]) { site with metrics := metrics } stored asked :=
  ⟨traced.rows, traced.texts, traced.ordered, fun answer member =>
    ⟨(traced.answered answer member).1.trans (List.prefix_append past [event]),
      (traced.answered answer member).2⟩⟩

theorem Traced.step {stored : List (Int × Answer)} {asked : List Answer}
    (traced : Traced runtime collector past (Site.run runtime collector past) stored asked)
    (steady : (Site.run runtime collector past).Steady runtime event) :
    ∃ stored asked, Traced runtime collector (past ++ [event])
      (Site.run runtime collector (past ++ [event])) stored asked := by
  rw [site_snoc]
  cases event with
  | call made => exact ⟨stored, asked, traced.later _ _⟩
  | restart => exact ⟨stored, asked, traced.later _ _⟩
  | scrape gauges =>
      have later := traced.later (Site.run runtime collector past).metrics (.scrape gauges)
      refine ⟨stored, asked ++ [⟨past, gauges⟩], later.rows, ?_, ?_, ?_⟩
      · rw [List.map_append, ← traced.texts]
        rfl
      · rw [← List.append_assoc, List.pairwise_append]
        refine ⟨traced.ordered, List.pairwise_singleton _ _, ?_⟩
        intro answer member last here
        obtain rfl := List.mem_singleton.mp here
        exact (List.prefix_append _ _).trans (traced.answered answer member).1
      · intro answer member
        rw [← List.append_assoc, List.mem_append, List.mem_singleton] at member
        rcases member with member | rfl
        · exact later.answered answer member
        · exact ⟨List.prefix_refl _, steady⟩
  | lost slot =>
      have later := traced.later (Site.run runtime collector past).metrics (.lost slot)
      have fewer : (stored.map Prod.snd ++ asked.eraseIdx slot).Sublist
          (stored.map Prod.snd ++ asked) := (List.Sublist.refl _).append (List.eraseIdx_sublist _ _)
      refine ⟨stored, asked.eraseIdx slot, later.rows, ?_, later.ordered.sublist fewer,
        fun answer member => later.answered answer (fewer.subset member)⟩
      exact (congrArg (List.eraseIdx · slot) traced.texts).trans (List.eraseIdx_map ..)
  | arrives slot ts inserts now prunes =>
      obtain ⟨rfl, clock⟩ := steady
      have later := traced.later (Site.run runtime collector past).metrics
        (.arrives 0 ts inserts now prunes)
      cases asked with
      -- No text is under way, and the scrape comes to nothing.
      | nil =>
          have same : (Site.run runtime collector past).step runtime collector
              (.arrives 0 ts inserts now prunes) =
                { Site.run runtime collector past with
                  asked := [].map (Answer.text runtime collector)
                  samples := collector.tick (Site.run runtime collector past).samples
                    ⟨none, ts, inserts, now, prunes⟩ } := by
            rw [Site.step, traced.texts]
            rfl
          have stored : Tick.stored ⟨none, ts, inserts, now, prunes⟩ = (none : Option Scrape) := by
            simp [Tick.stored]
          obtain ⟨kept, traced⟩ := later.tick ⟨none, ts, inserts, now, prunes⟩ [] (.inl stored)
            (by rw [stored]; rfl) (List.Sublist.refl _)
          exact ⟨kept, [], same ▸ traced⟩
      | cons answer rest =>
          have same : (Site.run runtime collector past).step runtime collector
              (.arrives 0 ts inserts now prunes) =
                { Site.run runtime collector past with
                  asked := rest.map (Answer.text runtime collector)
                  samples := collector.tick (Site.run runtime collector past).samples
                    ⟨some (answer.scrape runtime collector), ts, inserts, now, prunes⟩ } := by
            rw [Site.step, traced.texts]
            rfl
          rw [same]
          cases inserts with
          | true =>
              obtain ⟨kept, traced⟩ := later.tick
                ⟨some (answer.scrape runtime collector), ts, true, now, prunes⟩ [(ts, answer)]
                (.inr clock) rfl (List.Sublist.refl _)
              exact ⟨kept, rest, traced⟩
          | false =>
              obtain ⟨kept, traced⟩ := later.tick
                ⟨some (answer.scrape runtime collector), ts, false, now, prunes⟩ []
                (.inl rfl) rfl (List.sublist_cons_self answer rest)
              exact ⟨kept, rest, traced⟩
  | fails now prunes =>
      have later := traced.later (Site.run runtime collector past).metrics (.fails now prunes)
      obtain ⟨kept, traced⟩ := later.tick ⟨none, now, true, now, prunes⟩ []
        (.inl rfl) rfl (List.Sublist.refl asked)
      rw [← later.texts] at traced
      exact ⟨kept, asked, traced⟩

theorem run_traced {events : List Event} {stored : List (Int × Answer)} {asked : List Answer}
    (traced : Traced runtime collector past (Site.run runtime collector past) stored asked)
    (steady : (Site.run runtime collector past).SteadyRun runtime collector events) :
    ∃ stored asked, Traced runtime collector (past ++ events)
      (Site.run runtime collector (past ++ events)) stored asked := by
  induction events generalizing past stored asked with
  | nil => exact ⟨stored, asked, by rwa [List.append_nil]⟩
  | cons event rest ih =>
      obtain ⟨kept, under, later⟩ := traced.step steady.1
      rw [List.append_cons]
      exact ih later (site_snoc ▸ steady.2)

theorem run_climbs {events : List Event} (steady : site.SteadyRun runtime collector events) :
    Climbs events := by
  induction events generalizing site with
  | nil =>
      intro event member
      cases member
  | cons event rest ih =>
      intro other member
      rcases List.mem_cons.mp member with rfl | later
      · cases other with
        | call made => exact steady.1
        | _ => exact fun _ => le_refl _
      · exact ih steady.2 other later

end Traces

section Windows
variable {runtime : Runtime} {collector : Collector} {events : List Event}

/-- A row was read off the text of a scrape of the run that the relay answered after its first
events. -/
def Written (runtime : Runtime) (collector : Collector) (events early : List Event) (row : Row) :
    Prop :=
  ∃ gauges, early ++ [.scrape gauges] <+: events ∧ row = .of (row.ts,
    parseMetrics runtime ((Site.run runtime collector early).metrics.render runtime gauges))

def Answer.row (runtime : Runtime) (collector : Collector) (stored : Int × Answer) : Row :=
  .of (stored.1, stored.2.scrape runtime collector)

theorem Answer.written (stored : Int × Answer)
    (answered : stored.2.after ++ [.scrape stored.2.gauges] <+: events) :
    Written runtime collector events stored.2.after (Answer.row runtime collector stored) :=
  ⟨stored.2.gauges, answered, rfl⟩

theorem Answer.counter {stored : Int × Answer} (readable : stored.2.Readable runtime collector)
    (column : Column) : (Answer.row runtime collector stored).counter column =
      (meter column stored.2.after).value :=
  (scraped_held (hosted_site _) readable column).trans (meter_held _).symm

-- The page's total of a column is that of the readings of its meter.
theorem total_readings {window : List (Int × Answer)} (column : Column)
    (readable : ∀ stored ∈ window, stored.2.Readable runtime collector) :
    windowTotal (window.map (Answer.row runtime collector)) column =
      Odometer.total (window.map fun stored => meter column stored.2.after) := by
  induction window with
  | nil => rfl
  | cons first rest ih =>
      obtain ⟨here, later⟩ := List.forall_mem_cons.mp readable
      cases rest with
      | nil => rfl
      | cons second rest =>
          have next := Answer.counter (later second (by simp)) column
          have head : windowTotal ((first :: second :: rest).map (Answer.row runtime collector)) column =
              step (Answer.row runtime collector first) (Answer.row runtime collector second) column +
                windowTotal ((second :: rest).map (Answer.row runtime collector)) column := rfl
          rw [head, ih later, step_eq_max, growth, next, Answer.counter here]
          rfl

theorem leads_last {window : List (Int × Answer)} {first last : Int × Answer}
    (ordered : window.Pairwise fun first second => first.2.after <+: second.2.after)
    (starts : window.head? = some first) (ends : window.getLast? = some last) :
    first.2.after <+: last.2.after := by
  cases window with
  | nil => cases starts
  | cons head rest =>
      obtain rfl := Option.some.inj starts
      rcases List.mem_cons.mp (List.mem_of_getLast? ends) with rfl | later
      · exact List.prefix_refl _
      · exact (List.pairwise_cons.mp ordered).1 last later

/-- The total that the page shows of a window is at most what the relay counted from the answer
that its first sample is of to the answer of its last one, and is all of it when the relay was not
restarted in between. -/
theorem charts_counted (steady : Site.start.SteadyRun runtime collector events)
    (fromMs toMs : Int) {first last : Row}
    (starts : (range (Site.run runtime collector events).series fromMs toMs).head? = some first)
    (ends : (range (Site.run runtime collector events).series fromMs toMs).getLast? = some last) :
    ∃ early between, early ++ between <+: events ∧ Written runtime collector events early first ∧
      Written runtime collector events (early ++ between) last ∧ ∀ column,
        windowTotal (range (Site.run runtime collector events).series fromMs toMs) column ≤
            counted column between ∧
          (.restart ∉ between →
            windowTotal (range (Site.run runtime collector events).series fromMs toMs) column =
              counted column between) := by
  have blank : Traced runtime collector [] (Site.run runtime collector []) [] [] :=
    ⟨rfl, rfl, .nil, fun answer member => absurd member List.not_mem_nil⟩
  obtain ⟨stored, asked, traced⟩ := run_traced blank steady
  rw [List.nil_append] at traced
  have shown : ∃ window : List (Int × Answer), window.Sublist stored ∧
      range (Site.run runtime collector events).series fromMs toMs =
        window.map (Answer.row runtime collector) := by
    refine ⟨stored.filter fun row => fromMs ≤ row.1 ∧ row.1 ≤ toMs, List.filter_sublist, ?_⟩
    rw [range, Site.series, traced.rows, List.map_map, List.filter_map]
    rfl
  obtain ⟨window, inside, same⟩ := shown
  rw [same, List.head?_map, Option.map_eq_some_iff] at starts
  rw [same, List.getLast?_map, Option.map_eq_some_iff] at ends
  obtain ⟨first, starts, rfl⟩ := starts
  obtain ⟨last, ends, rfl⟩ := ends
  have ordered : window.Pairwise fun first second => first.2.after <+: second.2.after :=
    ((List.pairwise_append.mp traced.ordered).1.of_map Prod.snd fun _ _ leads => leads).sublist inside
  have scraped : ∀ stored ∈ window, stored.2.after ++ [.scrape stored.2.gauges] <+: events ∧
      stored.2.Readable runtime collector :=
    fun row member => traced.answered row.2
      (List.mem_append_left _ (List.mem_map_of_mem (inside.subset member)))
  have answered : ∀ stored ∈ window, stored.2.after <+: events ∧
      stored.2.Readable runtime collector :=
    fun row member => ⟨(List.prefix_append _ _).trans (scraped row member).1, (scraped row member).2⟩
  obtain ⟨between, split⟩ := leads_last ordered starts ends
  refine ⟨first.2.after, between, ?_, Answer.written first (scraped first ?_).1,
    split ▸ Answer.written last (scraped last (List.mem_of_getLast? ends)).1, ?_⟩
  · exact split ▸ (answered last (List.mem_of_getLast? ends)).1
  · exact List.mem_of_head? starts
  intro column
  have climbs := run_climbs steady
  have readings : (window.map fun stored => meter column stored.2.after).Pairwise Odometer.Before := by
    refine List.pairwise_map.mpr (ordered.imp_of_mem ?_)
    intro _ late _ member leads
    exact meter_ordered leads fun event inside =>
      climbs event ((answered late member).1.subset inside)
  obtain ⟨_, most, all⟩ := Odometer.total_le readings
    (by rw [List.head?_map, starts, Option.map_some]) (by rw [List.getLast?_map, ends, Option.map_some])
  rw [same, total_readings column fun row member => (answered row member).2]
  rw [← split, meter_grand, add_sub_cancel_left] at most all
  exact ⟨most, fun running => all (meter_resets running).symm⟩

section Restarted

/-- Two connections, a scrape, a restart, another connection and another scrape. -/
def restarted : List Event :=
  [.call (.inc .wsUpgradesTotal 2), .scrape Exposition.watching, .arrives 0 1000 true 1000 true,
    .restart, .call (.inc .wsUpgradesTotal 1), .scrape Exposition.watching,
    .arrives 0 31000 true 31000 true]

theorem decimal_exact {metrics : Metrics} {gauges : Gauges}
    (every : (metrics.split.plain.entries.map Prod.snd ++
      metrics.split.labeled.entries.flatMap (fun family => family.2.map Prod.snd) ++
      gauges.entries.map Prod.snd ++ metrics.lifetimeSamples.map Exposition.Sample.value).all
        (fun value => (Exposition.decimal.print value).all
            (fun char => decide (char ∈ "+-.0123456789e".toList)) &&
          decide (Exposition.decimal.print value ≠ []) &&
          decide (Exposition.decimal.number (Exposition.decimal.print value) = some value)) = true) :
    ∀ sample, Line.sample sample ∈ metrics.lines Exposition.decimal gauges →
      Exposition.decimal.Exact sample.value := by
  intro sample member
  have value := Exposition.points_values Exposition.decimal metrics gauges sample
    (Exposition.mem_points.mp member)
  have exact_ := List.all_eq_true.mp every _ value
  simp only [Bool.and_eq_true, decide_eq_true_eq] at exact_
  exact ⟨Exposition.forall_of_all exact_.1.1, exact_.1.2, exact_.2⟩

theorem charts_counted_restarted : ∃ first last early between, early ++ between <+: restarted ∧
    Written Exposition.decimal ⟨30000, 7776000000⟩ restarted early first ∧
    Written Exposition.decimal ⟨30000, 7776000000⟩ restarted (early ++ between) last ∧ ∀ column,
      windowTotal (range (Site.run Exposition.decimal ⟨30000, 7776000000⟩ restarted).series
          0 60000) column ≤ counted column between ∧
        (.restart ∉ between →
          windowTotal (range (Site.run Exposition.decimal ⟨30000, 7776000000⟩ restarted).series
            0 60000) column = counted column between) := by
  have up : ∀ (value : Rat), 0 ≤ value → ∀ column, 0 ≤ gain column (.inc .wsUpgradesTotal value) := by
    intro value positive column
    rw [gain]
    split
    · exact positive
    · exact le_refl _
  have steady : Site.start.SteadyRun Exposition.decimal ⟨30000, 7776000000⟩ restarted := by
    refine ⟨up 2 (by decide), decimal_exact (by decide +kernel), ⟨rfl, ?_⟩, trivial,
      up 1 (by decide), decimal_exact (by decide +kernel), ⟨rfl, ?_⟩, trivial⟩
    · intro row member
      cases member
    · intro row member
      obtain rfl := List.mem_singleton.mp member
      decide
  exact ⟨_, _, charts_counted steady 0 60000 rfl rfl⟩

end Restarted

end Windows

end Relay.Dashboard

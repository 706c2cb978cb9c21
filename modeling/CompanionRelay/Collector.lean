import Mathlib.Algebra.BigOperators.Group.List.Basic
import Mathlib.Algebra.Order.Floor.Div
import Mathlib.Data.List.Induction

/-!
src/dashboard/collector.js over the samples of src/dashboard/db.js: of every scrape one sample,
under its time, and about every hour the samples that are older than the retention go. A tick is
one step, taken when its scrape is over.
-/

namespace Relay.Dashboard

section Table
variable {Snapshot : Type}

/-- The samples by their primary key. -/
structure Table (Snapshot : Type) where
  rows : List (Int × Snapshot)
  sorted : rows.Pairwise fun first second => first.1 < second.1

def Table.empty : Table Snapshot := ⟨[], .nil⟩

/-- INSERT OR REPLACE -/
def Table.insert (table : Table Snapshot) (ts : Int) (snapshot : Snapshot) : Table Snapshot where
  rows := table.rows.filter (·.1 < ts) ++ (ts, snapshot) :: table.rows.filter (ts < ·.1)
  sorted := by
    rw [List.pairwise_append, List.pairwise_cons]
    refine ⟨table.sorted.filter _, ⟨?_, table.sorted.filter _⟩, ?_⟩
    · intro row member
      simpa using (List.mem_filter.mp member).2
    · intro early before late after
      have below : early.1 < ts := by simpa using (List.mem_filter.mp before).2
      rcases List.mem_cons.mp after with rfl | after
      · exact below
      · have above : ts < late.1 := by simpa using (List.mem_filter.mp after).2
        exact below.trans above

def Table.prune (table : Table Snapshot) (cutoffMs : Int) : Table Snapshot where
  rows := table.rows.filter (cutoffMs ≤ ·.1)
  sorted := table.sorted.filter _

variable {table : Table Snapshot} {row : Int × Snapshot} {ts : Int} {snapshot : Snapshot}

theorem Table.mem_insert :
    row ∈ (table.insert ts snapshot).rows ↔ row = (ts, snapshot) ∨ row ∈ table.rows ∧ row.1 ≠ ts := by
  simp only [Table.insert, List.mem_append, List.mem_cons, List.mem_filter, decide_eq_true_eq]
  constructor
  · rintro (⟨inside, below⟩ | here | ⟨inside, above⟩)
    · exact .inr ⟨inside, below.ne⟩
    · exact .inl here
    · exact .inr ⟨inside, above.ne'⟩
  · rintro (here | ⟨inside, apart⟩)
    · exact .inr (.inl here)
    · rcases lt_or_gt_of_ne apart with below | above
      · exact .inl ⟨inside, below⟩
      · exact .inr (.inr ⟨inside, above⟩)

theorem Table.mem_prune {cutoffMs : Int} :
    row ∈ (table.prune cutoffMs).rows ↔ row ∈ table.rows ∧ cutoffMs ≤ row.1 := by
  rw [Table.prune, List.mem_filter, decide_eq_true_eq]

end Table

section Ticks

structure Collector where
  intervalMs : Nat
  retentionMs : Nat

/-- What came of a scrape, the clock at its sample and at its end, and whether the database did
what it was asked. -/
structure Tick (Snapshot : Type) where
  scraped : Option Snapshot
  ts : Int
  inserts : Bool
  now : Int
  prunes : Bool

/-- The database, the time since it was pruned, and how many errors were reported. -/
structure Samples (Snapshot : Type) where
  table : Table Snapshot
  pruneAccum : Nat
  errors : Nat

variable {Snapshot : Type}

def Tick.stored (tick : Tick Snapshot) : Option Snapshot :=
  if tick.inserts then tick.scraped else none

def Samples.sample (samples : Samples Snapshot) (tick : Tick Snapshot) : Samples Snapshot :=
  match tick.stored with
  | some snapshot => { samples with table := samples.table.insert tick.ts snapshot }
  | none => { samples with errors := samples.errors + 1 }

def Collector.tick (collector : Collector) (samples : Samples Snapshot) (tick : Tick Snapshot) :
    Samples Snapshot :=
  let samples := samples.sample tick
  let pruneAccum := samples.pruneAccum + collector.intervalMs
  if pruneAccum ≥ 3600000 then
    if tick.prunes then
      { samples with table := samples.table.prune (tick.now - collector.retentionMs), pruneAccum := 0 }
    else { samples with pruneAccum := 0, errors := samples.errors + 1 }
  else { samples with pruneAccum := pruneAccum }

def Collector.run (collector : Collector) (ticks : List (Tick Snapshot)) : Samples Snapshot :=
  ticks.foldl collector.tick ⟨.empty, 0, 0⟩

/-- How many ticks there are from one pruning to the next. -/
def Collector.period (collector : Collector) : Nat := 3600000 ⌈/⌉ collector.intervalMs

/-- The ticks that prune, counted from 0. -/
def Collector.Due (collector : Collector) (n : Nat) : Prop := (n + 1) % collector.period = 0

instance (collector : Collector) (n : Nat) : Decidable (collector.Due n) :=
  inferInstanceAs (Decidable ((n + 1) % collector.period = 0))

/-- The errors of a tick. -/
def Collector.failures (collector : Collector) (n : Nat) (tick : Tick Snapshot) : Nat :=
  (if tick.stored.isNone then 1 else 0) + if collector.Due n ∧ tick.prunes = false then 1 else 0

/-- The last tick that stored a sample under a time was this one, and no pruning since had the
time behind its cutoff. -/
structure Collector.Kept (collector : Collector) (ticks : List (Tick Snapshot)) (ts : Int)
    (snapshot : Snapshot) (n : Nat) : Prop where
  stored : ∃ tick, ticks[n]? = some tick ∧ tick.ts = ts ∧ tick.stored = some snapshot
  last : ∀ m later, n < m → ticks[m]? = some later → later.stored = none ∨ later.ts ≠ ts
  unpruned : ∀ m later, n ≤ m → ticks[m]? = some later → collector.Due m → later.prunes = true →
    later.now - collector.retentionMs ≤ ts

end Ticks

section Retention
variable {Snapshot : Type} {collector : Collector} {ticks : List (Tick Snapshot)}
  {tick : Tick Snapshot} {samples : Samples Snapshot} {ts : Int} {snapshot : Snapshot}

theorem run_snoc : collector.run (ticks ++ [tick]) = collector.tick (collector.run ticks) tick := by
  rw [Collector.run, Collector.run, List.foldl_append, List.foldl_cons, List.foldl_nil]

theorem mod_succ {period : Nat} (positive : 0 < period) (n : Nat) :
    (n + 1) % period = if period ≤ n % period + 1 then 0 else n % period + 1 := by
  have inside := Nat.mod_lt n positive
  conv_lhs => rw [← Nat.mod_add_div n period, Nat.add_right_comm, Nat.add_mul_mod_self_left]
  split
  · have full : n % period + 1 = period := by omega
    rw [full, Nat.mod_self]
  · exact Nat.mod_eq_of_lt (by omega)

theorem period_le (positive : 0 < collector.intervalMs) (n : Nat) :
    collector.period ≤ n ↔ 3600000 ≤ n * collector.intervalMs := by
  rw [Collector.period, ceilDiv_le_iff_le_mul positive, Nat.mul_comm]

theorem period_pos (positive : 0 < collector.intervalMs) : 0 < collector.period := by
  rw [Nat.pos_iff_ne_zero]
  intro none
  have all := (period_le positive 0).mp none.le
  omega

theorem accumulates (collector : Collector) (n : Nat) :
    (3600000 ≤ n % collector.period * collector.intervalMs + collector.intervalMs ↔ collector.Due n) ∧
      (n + 1) % collector.period * collector.intervalMs =
        if collector.Due n then 0
        else n % collector.period * collector.intervalMs + collector.intervalMs := by
  simp only [← Nat.succ_mul, Collector.Due]
  rcases Nat.eq_zero_or_pos collector.intervalMs with never | positive
  -- With no time between its ticks the collector never prunes.
  · have period : collector.period = 0 := by rw [Collector.period, never, ceilDiv_zero]
    simp [period, never]
  · rw [Nat.succ_eq_add_one, ← period_le positive, mod_succ (period_pos positive)]
    by_cases full : collector.period ≤ n % collector.period + 1
    · simp [full]
    · simp [full]

theorem sample_accum : (samples.sample tick).pruneAccum = samples.pruneAccum := by
  rw [Samples.sample]
  split <;> rfl

theorem run_accum : (collector.run ticks).pruneAccum =
    ticks.length % collector.period * collector.intervalMs := by
  induction ticks using List.reverseRecOn with
  | nil => simp [Collector.run]
  | append_singleton ticks tick ih =>
      obtain ⟨due, next⟩ := accumulates collector ticks.length
      rw [run_snoc, List.length_append, List.length_singleton, next, Collector.tick]
      simp only [sample_accum, ih, ge_iff_le, due]
      by_cases full : collector.Due ticks.length
      · simp only [full, if_true]
        split <;> rfl
      · simp only [full, if_false]

theorem mem_sample {row : Int × Snapshot} : row ∈ (samples.sample tick).table.rows ↔
    tick.ts = row.1 ∧ tick.stored = some row.2 ∨
      row ∈ samples.table.rows ∧ (tick.stored = none ∨ tick.ts ≠ row.1) := by
  obtain ⟨ts, snapshot⟩ := row
  rw [Samples.sample]
  cases tick.stored with
  | none => simp
  | some stored =>
      simp only [Table.mem_insert, Prod.mk.injEq, Option.some.injEq, reduceCtorEq, false_or]
      constructor
      · rintro (⟨rfl, rfl⟩ | ⟨inside, apart⟩)
        · exact .inl ⟨rfl, rfl⟩
        · exact .inr ⟨inside, apart.symm⟩
      · rintro (⟨rfl, rfl⟩ | ⟨inside, apart⟩)
        · exact .inl ⟨rfl, rfl⟩
        · exact .inr ⟨inside, apart.symm⟩

theorem mem_tick {row : Int × Snapshot} :
    row ∈ (collector.run (ticks ++ [tick])).table.rows ↔
      row ∈ ((collector.run ticks).sample tick).table.rows ∧
        (collector.Due ticks.length → tick.prunes = true →
          tick.now - collector.retentionMs ≤ row.1) := by
  rw [run_snoc, Collector.tick]
  simp only [sample_accum, run_accum, ge_iff_le, (accumulates collector ticks.length).1]
  by_cases due : collector.Due ticks.length
  · cases pruned : tick.prunes with
    | true => simp [due, Table.mem_prune]
    | false => simp [due]
  · simp [due]

theorem sample_errors : (samples.sample tick).errors =
    samples.errors + if tick.stored.isNone then 1 else 0 := by
  rw [Samples.sample]
  cases tick.stored with
  | none => rfl
  | some stored => rfl

theorem run_errors : (collector.run ticks).errors = (ticks.mapIdx collector.failures).sum := by
  induction ticks using List.reverseRecOn with
  | nil => rfl
  | append_singleton ticks tick ih =>
      rw [run_snoc, Collector.tick, List.mapIdx_concat, List.sum_append, List.sum_singleton, ← ih]
      simp only [sample_accum, sample_errors, run_accum, ge_iff_le, (accumulates collector ticks.length).1,
        Collector.failures, ← Nat.add_assoc]
      by_cases due : collector.Due ticks.length
      · cases pruned : tick.prunes with
        | true => simp [due]
        | false => simp [due]
      · simp [due]

-- What is kept after one more tick: what it stored, and what was kept before, if the tick has
-- not stored over it; and a pruning at this tick spares it.
theorem kept_snoc : (∃ n, collector.Kept (ticks ++ [tick]) ts snapshot n) ↔
    (tick.ts = ts ∧ tick.stored = some snapshot ∨
      (∃ n, collector.Kept ticks ts snapshot n) ∧ (tick.stored = none ∨ tick.ts ≠ ts)) ∧
    (collector.Due ticks.length → tick.prunes = true → tick.now - collector.retentionMs ≤ ts) := by
  have here : (ticks ++ [tick])[ticks.length]? = some tick := List.getElem?_concat_length
  have before : ∀ {n : Nat} {other : Tick Snapshot}, ticks[n]? = some other →
      n < ticks.length ∧ (ticks ++ [tick])[n]? = some other := by
    intro n other found
    have inside := (List.getElem?_eq_some_iff.mp found).1
    exact ⟨inside, (List.getElem?_append_left inside).trans found⟩
  have cases_ : ∀ {n : Nat} {other : Tick Snapshot}, (ticks ++ [tick])[n]? = some other →
      n = ticks.length ∧ other = tick ∨ ticks[n]? = some other := by
    intro n other found
    rcases lt_or_ge n ticks.length with inside | past
    · exact .inr ((List.getElem?_append_left inside).symm.trans found)
    · rw [List.getElem?_append_right past, List.getElem?_singleton,
        Option.ite_none_right_eq_some, Option.some.injEq] at found
      exact .inl ⟨by omega, found.2.symm⟩
  constructor
  · rintro ⟨n, ⟨other, found, time, stored⟩, last, unpruned⟩
    rcases cases_ found with ⟨rfl, rfl⟩ | old
    · exact ⟨.inl ⟨time, stored⟩, unpruned _ _ (le_refl _) here⟩
    · have inside := (before old).1
      refine ⟨.inr ⟨⟨n, ⟨other, old, time, stored⟩, ?_, ?_⟩, last _ _ inside here⟩,
        unpruned _ _ inside.le here⟩
      · exact fun m later after found => last m later after (before found).2
      · exact fun m later after found => unpruned m later after (before found).2
  · rintro ⟨⟨time, stored⟩ | ⟨⟨n, ⟨other, old, time, stored⟩, last, unpruned⟩, apart⟩, spared⟩
    · refine ⟨ticks.length, ⟨tick, here, time, stored⟩, ?_, ?_⟩
      · intro m later after found
        rcases cases_ found with ⟨rfl, rfl⟩ | old
        · exact absurd after (lt_irrefl _)
        · exact absurd (before old).1 (by omega)
      · intro m later after found
        rcases cases_ found with ⟨rfl, rfl⟩ | old
        · exact spared
        · exact absurd (before old).1 (by omega)
    · refine ⟨n, ⟨other, (before old).2, time, stored⟩, ?_, ?_⟩
      · intro m later after found
        rcases cases_ found with ⟨rfl, rfl⟩ | kept
        · exact apart
        · exact last m later after kept
      · intro m later after found
        rcases cases_ found with ⟨rfl, rfl⟩ | kept
        · exact spared
        · exact unpruned m later after kept

theorem run_rows : (ts, snapshot) ∈ (collector.run ticks).table.rows ↔
    ∃ n, collector.Kept ticks ts snapshot n := by
  induction ticks using List.reverseRecOn with
  | nil =>
      constructor
      · intro inside
        cases inside
      · rintro ⟨n, ⟨tick, found, _⟩, _⟩
        cases found
  | append_singleton ticks tick ih => rw [mem_tick, mem_sample, kept_snoc, ih]

/-- After any ticks the database holds of each time the sample that was stored under it last,
unless a tick that was due to prune has since then, and every failure was reported once. -/
theorem samples_retained (collector : Collector) (ticks : List (Tick Snapshot)) :
    (collector.run ticks).errors = (ticks.mapIdx collector.failures).sum ∧
      ∀ ts snapshot, (ts, snapshot) ∈ (collector.run ticks).table.rows ↔
        ∃ n, collector.Kept ticks ts snapshot n :=
  ⟨run_errors, fun _ _ => run_rows⟩

end Retention

end Relay.Dashboard

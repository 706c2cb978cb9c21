import CompanionRelay.DrainScheduler
import CompanionRelay.Machine
import CompanionRelay.TokenBucket

/-!
A scheduler over its calls: relinquish, reacquire and run, with whatever liveRooms answers
from one run to the next. The tokens of the scheduler are a token bucket, from which a run
draws one token for each room it closes. The clock is in whole milliseconds from 0 on.
-/

namespace Relay
namespace DrainScheduler

/-- A call of the scheduler, with the clock it reads. A run finds the rooms as they are. -/
inductive Call (Rooms : Type)
  | relinquish (now : Nat) (bucket : Int)
  | reacquire (now : Nat) (bucket : Int)
  | run (now : Nat) (rooms : Rooms)

def Call.now {Rooms : Type} : Call Rooms → Nat
  | .relinquish now _ | .reacquire now _ | .run now _ => now

/-- The scheduler as it is constructed. -/
def constructed (drainDelayMs : Nat) (rate : Rat) (now : Nat) : DrainScheduler :=
  { drainDelayMs := drainDelayMs, rate := rate, lastRunMs := now }

section Calls
variable {Rooms : Type} (liveRooms : Rooms → Int → List String)
  (evict : Rooms → String → Rooms)

def step (scheduler : DrainScheduler) : Call Rooms → DrainScheduler
  | .relinquish now bucket => scheduler.relinquish now bucket
  | .reacquire _ bucket => scheduler.reacquire bucket
  | .run now rooms => (scheduler.run liveRooms evict now rooms).1

/-- The rooms that a call closes. -/
def evictions (scheduler : DrainScheduler) : Call Rooms → List String
  | .run now rooms => (scheduler.run liveRooms evict now rooms).2.2
  | _ => []

/-- The clock of the calls does not run backwards. -/
def Steady (start : Nat) (calls : List (Call Rooms)) : Prop :=
  (start :: calls.map Call.now).Pairwise (· ≤ ·)

instance (start : Nat) (calls : List (Call Rooms)) : Decidable (Steady start calls) :=
  inferInstanceAs (Decidable (List.Pairwise _ _))

abbrev calling : DrainScheduler → List (Call Rooms) → DrainScheduler :=
  Machine.run (step liveRooms evict)

abbrev called : DrainScheduler → List (Call Rooms) → List (DrainScheduler × Call Rooms) :=
  Machine.steps (step liveRooms evict)

/-- How many rooms the runs from one time to another close. -/
def evictionsWithin (from_ until_ : Rat) (met : List (DrainScheduler × Call Rooms)) : Nat :=
  ((met.filter fun met => from_ ≤ met.2.now ∧ (met.2.now : Rat) ≤ until_).map
    fun met => (evictions liveRooms evict met.1 met.2).length).sum

/-- The token balance stays between nothing and the cap, also right after it has accrued for a
run, and what the runs of any interval close is bounded by the rate. -/
structure Paced (drainDelayMs : Nat) (rate : Rat) (start : Nat) (calls : List (Call Rooms)) :
    Prop where
  balance : ∀ lead, lead <+: calls →
    0 ≤ (calling liveRooms evict (constructed drainDelayMs rate start) lead).tokens ∧
      (calling liveRooms evict (constructed drainDelayMs rate start) lead).tokens ≤ max 1 rate
  accrual : ∀ met ∈ called liveRooms evict (constructed drainDelayMs rate start) calls,
    ∀ now rooms, met.2 = .run now rooms →
      0 ≤ met.1.accrued now ∧ met.1.accrued now ≤ max 1 rate
  bounded : ∀ from_ until_ : Rat, from_ ≤ until_ →
    (evictionsWithin liveRooms evict from_ until_
      (called liveRooms evict (constructed drainDelayMs rate start) calls) : Rat) ≤
        max 1 rate + rate * (until_ - from_) / 1000

end Calls

section Tokens
variable {Rooms : Type} {liveRooms : Rooms → Int → List String} {evict : Rooms → String → Rooms}

variable (evict) in
theorem drainRooms_tokens (ids : List String) (pass : Pass Rooms) (solvent : 0 ≤ pass.tokens) :
    ∃ fresh, (drainRooms evict pass ids).1.closed = pass.closed ++ fresh ∧
      (drainRooms evict pass ids).1.tokens = pass.tokens - fresh.length ∧
      0 ≤ (drainRooms evict pass ids).1.tokens := by
  induction ids generalizing pass with
  | nil => exact ⟨[], by simp [drainRooms], by simp [drainRooms], solvent⟩
  | cons id rest ih =>
      unfold drainRooms
      by_cases already : id ∈ pass.evicted
      · rw [if_pos already]
        exact ih pass solvent
      · rw [if_neg already]
        -- Without a whole token the bucket is starved, and nothing more is paid.
        by_cases poor : pass.tokens < 1
        · rw [if_pos poor]
          exact ⟨[], by simp, by simp, solvent⟩
        · rw [if_neg poor]
          obtain ⟨fresh, closed, tokens, left⟩ := ih
            { rooms := evict pass.rooms id
              tokens := pass.tokens - 1
              evicted := pass.evicted.add id
              closed := pass.closed ++ [id] } (sub_nonneg.mpr (not_lt.mp poor))
          refine ⟨id :: fresh, by rw [closed, List.append_assoc]; rfl, ?_, left⟩
          rw [tokens, List.length_cons, Nat.cast_add, Nat.cast_one]
          ring

variable (liveRooms evict) in
theorem drainBuckets_tokens (now : Nat) (entries : List (Int × Episode)) (sweep : Sweep Rooms)
    (solvent : 0 ≤ sweep.tokens) :
    ∃ fresh, (drainBuckets liveRooms evict now sweep entries).closed = sweep.closed ++ fresh ∧
      (drainBuckets liveRooms evict now sweep entries).tokens = sweep.tokens - fresh.length ∧
      0 ≤ (drainBuckets liveRooms evict now sweep entries).tokens := by
  induction entries generalizing sweep with
  | nil => exact ⟨[], by simp [drainBuckets], by simp [drainBuckets], solvent⟩
  | cons entry rest ih =>
      obtain ⟨bucket, episode⟩ := entry
      unfold drainBuckets
      by_cases early : episode.deadline > now
      · rw [if_pos early]
        exact ih sweep solvent
      · rw [if_neg early]
        dsimp only
        obtain ⟨fresh, closed, tokens, left⟩ := drainRooms_tokens evict
          (liveRooms sweep.rooms bucket)
          ⟨sweep.rooms, sweep.tokens, episode.evicted, sweep.closed⟩ solvent
        generalize drainRooms evict ⟨sweep.rooms, sweep.tokens, episode.evicted, sweep.closed⟩
          (liveRooms sweep.rooms bucket) = after at closed tokens left ⊢
        -- A starved bucket ends the run; after any other the next one has what is left.
        split
        · exact ⟨fresh, closed, tokens, left⟩
        · obtain ⟨others, closedToo, tokensToo, leftToo⟩ := ih
            { rooms := after.1.rooms
              tokens := after.1.tokens
              draining := sweep.draining.delete bucket
              closed := after.1.closed } left
          refine ⟨fresh ++ others, ?_, ?_, leftToo⟩
          · rw [closedToo, closed, List.append_assoc]
          · rw [tokensToo, tokens, List.length_append, Nat.cast_add]
            ring

variable (liveRooms evict) in
theorem run_tokens (scheduler : DrainScheduler) (now : Nat) (rooms : Rooms)
    (solvent : 0 ≤ scheduler.accrued now) :
    (scheduler.run liveRooms evict now rooms).1.tokens =
        scheduler.accrued now - (scheduler.run liveRooms evict now rooms).2.2.length ∧
      0 ≤ (scheduler.run liveRooms evict now rooms).1.tokens := by
  obtain ⟨fresh, closed, tokens, left⟩ := drainBuckets_tokens liveRooms evict
    now scheduler.draining.entries
    ⟨rooms, scheduler.accrued now, scheduler.draining, []⟩ solvent
  refine ⟨?_, left⟩
  change (scheduler.sweep liveRooms evict now rooms).tokens =
    scheduler.accrued now - (scheduler.sweep liveRooms evict now rooms).closed.length
  have closed : (scheduler.sweep liveRooms evict now rooms).closed = fresh := closed
  rw [closed]
  exact tokens

end Tokens

section Pace
variable {Rooms : Type} {liveRooms : Rooms → Int → List String} {evict : Rooms → String → Rooms}
  {scheduler : DrainScheduler} {calls : List (Call Rooms)}

/-- What the scheduler keeps of its tokens, as a token bucket. -/
def level (scheduler : DrainScheduler) : TokenBucket.Level Rat :=
  ⟨scheduler.tokens, scheduler.lastRunMs⟩

theorem accrued_level (scheduler : DrainScheduler) (now : Nat) :
    scheduler.accrued now =
      scheduler.level.accrued scheduler.cap (scheduler.rate / 1000) now := by
  unfold accrued TokenBucket.Level.accrued level
  rw [mul_div_assoc]

variable (liveRooms evict) in
/-- The draws of the runs of a list of calls. -/
def draws (met : List (DrainScheduler × Call Rooms)) : List (TokenBucket.Draw Rat) :=
  met.filterMap fun met =>
    match met.2 with
    | .run now _ => some ⟨now, (evictions liveRooms evict met.1 met.2).length⟩
    | _ => none

@[simp] theorem step_rate (call : Call Rooms) :
    (scheduler.step liveRooms evict call).rate = scheduler.rate := by
  cases call <;> rfl

theorem Steady.tail {start : Nat} {call : Call Rooms} (steady : Steady start (call :: calls)) :
    start ≤ call.now ∧ Steady start calls ∧ Steady call.now calls := by
  simp only [Steady, List.map_cons, List.pairwise_cons, List.mem_cons, forall_eq_or_imp] at steady ⊢
  exact ⟨steady.1.1, ⟨steady.1.2, steady.2.2⟩, steady.2.1, steady.2.2⟩

/-- The scheduler between two calls: it can pay, and has counted its tokens by `now`. -/
structure Solvent (rate : Rat) (now : Nat) (scheduler : DrainScheduler) : Prop where
  paced : scheduler.rate = rate
  counted : scheduler.lastRunMs ≤ now
  tokens : 0 ≤ scheduler.tokens
  capped : scheduler.tokens ≤ max 1 rate

variable {rate : Rat} {now : Nat}

theorem cap_eq (same : scheduler.rate = rate) : scheduler.cap = max 1 rate := by
  rw [cap, same]

theorem Solvent.accrued (solvent : Solvent rate now scheduler) (positive : 0 < rate) :
    0 ≤ scheduler.accrued now ∧ scheduler.accrued now ≤ max 1 rate := by
  constructor
  · rw [accrued_level]
    apply TokenBucket.Level.accrued_nonneg solvent.tokens
    · exact zero_le_one.trans (le_max_left _ _)
    · rw [solvent.paced]
      positivity
    · exact Nat.cast_le.mpr solvent.counted
  · rw [← cap_eq solvent.paced]
    exact min_le_left _ _

theorem Solvent.later {next : Nat} (solvent : Solvent rate now scheduler) (later : now ≤ next) :
    Solvent rate next scheduler :=
  { solvent with counted := solvent.counted.trans later }

variable (liveRooms evict) in
theorem Solvent.step (solvent : Solvent rate now scheduler) (positive : 0 < rate)
    {call : Call Rooms} (later : now ≤ call.now) :
    Solvent rate call.now (scheduler.step liveRooms evict call) := by
  have here := solvent.later later
  cases call with
  | relinquish now bucket => exact ⟨here.paced, here.counted, here.tokens, here.capped⟩
  | reacquire now bucket => exact ⟨here.paced, here.counted, here.tokens, here.capped⟩
  | run now rooms =>
      -- Only a run counts the tokens: it pays for its rooms from what has accrued by then.
      obtain ⟨enough, capped⟩ := here.accrued positive
      obtain ⟨paid, left⟩ := run_tokens liveRooms evict scheduler now
        rooms enough
      refine ⟨here.paced, le_refl now, left, ?_⟩
      change (scheduler.run liveRooms evict now rooms).1.tokens ≤ max 1 rate
      rw [paid]
      exact (sub_le_self _ (Nat.cast_nonneg _)).trans capped

variable (liveRooms evict) in
theorem Solvent.affordable (solvent : Solvent rate now scheduler) (positive : 0 < rate)
    (steady : Steady now calls) : TokenBucket.Affordable (max 1 rate) (rate / 1000)
      scheduler.level (draws liveRooms evict (called liveRooms evict scheduler calls)) := by
  induction calls generalizing scheduler now with
  | nil => trivial
  | cons call rest ih =>
      obtain ⟨later, _, tail⟩ := steady.tail
      have others := ih (solvent.step liveRooms evict positive later) tail
      cases call with
      | relinquish now bucket => exact others
      | reacquire now bucket => exact others
      | run time rooms =>
          have here : Solvent rate time scheduler := solvent.later later
          obtain ⟨enough, _⟩ := here.accrued positive
          obtain ⟨paid, left⟩ := run_tokens liveRooms evict scheduler time
            rooms enough
          have same := scheduler.accrued_level time
          rw [cap_eq solvent.paced, solvent.paced] at same
          refine ⟨Nat.cast_le.mpr here.counted, Nat.cast_nonneg _, ?_, ?_⟩
          · change ((scheduler.run liveRooms evict time rooms).2.2.length : Rat) ≤ _
            rw [← same]
            linarith
          -- What the run leaves in the scheduler is what the draw leaves in the bucket.
          · have next : scheduler.level.draw (max 1 rate) (rate / 1000)
                ⟨time, (evictions liveRooms evict scheduler (.run time rooms)).length⟩ =
                (scheduler.step liveRooms evict (.run time rooms)).level := by
              unfold TokenBucket.Level.draw
              rw [← same]
              exact congrArg (TokenBucket.Level.mk · _) paid.symm
            rw [next]
            exact others

theorem evictionsWithin_drawn (from_ until_ : Rat) (met : List (DrainScheduler × Call Rooms)) :
    (evictionsWithin liveRooms evict from_ until_ met : Rat) =
      TokenBucket.drawn from_ until_ (draws liveRooms evict met) := by
  induction met with
  | nil => rfl
  | cons first rest ih =>
      obtain ⟨scheduler, call⟩ := first
      by_cases inside : from_ ≤ call.now ∧ (call.now : Rat) ≤ until_
      · have counted : evictionsWithin liveRooms evict from_ until_ ((scheduler, call) :: rest) =
            (evictions liveRooms evict scheduler call).length +
              evictionsWithin liveRooms evict from_ until_ rest := by
          simp [evictionsWithin, inside]
        rw [counted, Nat.cast_add, ih]
        cases call with
        | relinquish now bucket => simp [evictions, draws]
        | reacquire now bucket => simp [evictions, draws]
        | run now rooms =>
            have drawn : TokenBucket.drawn from_ until_
                (⟨now, (evictions liveRooms evict scheduler (.run now rooms)).length⟩ ::
                  draws liveRooms evict rest) = _ := TokenBucket.drawn_inside inside.1 inside.2
            exact drawn.symm
      · have skipped : evictionsWithin liveRooms evict from_ until_ ((scheduler, call) :: rest) =
            evictionsWithin liveRooms evict from_ until_ rest := by
          simp only [evictionsWithin, List.filter_cons, inside, decide_false, Bool.false_eq_true,
            if_false]
        rw [skipped, ih]
        cases call with
        | relinquish now bucket => rfl
        | reacquire now bucket => rfl
        | run now rooms => exact (TokenBucket.drawn_outside inside).symm

theorem Solvent.constructed (drainDelayMs : Nat) (rate : Rat) (start : Nat) :
    Solvent rate start (constructed drainDelayMs rate start) :=
  ⟨rfl, le_refl start, le_refl 0, zero_le_one.trans (le_max_left _ _)⟩

variable (liveRooms evict) in
theorem Solvent.calling (solvent : Solvent rate now scheduler) (positive : 0 < rate)
    (steady : Steady now calls) :
    (∀ met ∈ called liveRooms evict scheduler calls, Solvent rate met.2.now met.1) ∧
      ∃ until_, Solvent rate until_ (calling liveRooms evict scheduler calls) := by
  induction calls generalizing scheduler now with
  | nil => exact ⟨by simp, now, solvent⟩
  | cons call rest ih =>
      obtain ⟨later, _, tail⟩ := steady.tail
      obtain ⟨others, ends⟩ := ih (solvent.step liveRooms evict positive later) tail
      refine ⟨?_, ends⟩
      rw [called, Machine.steps_cons, List.forall_mem_cons]
      exact ⟨solvent.later later, others⟩

variable (liveRooms evict) in
theorem Solvent.resumed (solvent : Solvent rate now scheduler) (positive : 0 < rate)
    {lead rest : List (Call Rooms)} (steady : Steady now (lead ++ rest)) :
    ∃ until_, Solvent rate until_ (DrainScheduler.calling liveRooms evict scheduler lead) ∧
      Steady until_ rest := by
  induction lead generalizing scheduler now with
  | nil => exact ⟨now, solvent, steady⟩
  | cons call lead ih =>
      obtain ⟨later, _, tail⟩ := Steady.tail steady
      exact ih (solvent.step liveRooms evict positive later) tail

theorem Steady.lead {start : Nat} {lead : List (Call Rooms)} (steady : Steady start calls)
    (short : lead <+: calls) : Steady start lead :=
  List.Pairwise.sublist ((short.sublist.map Call.now).cons_cons start) steady

/-- Drain rate bound. -/
theorem drain_paced (liveRooms : Rooms → Int → List String) (evict : Rooms → String → Rooms)
    (drainDelayMs : Nat) (rate : Rat) (positive : 0 < rate) (start : Nat)
    (calls : List (Call Rooms)) (steady : Steady start calls) :
    Paced liveRooms evict drainDelayMs rate start calls := by
  have solvent := Solvent.constructed drainDelayMs rate start
  constructor
  · intro lead short
    obtain ⟨_, until_, ends⟩ := solvent.calling liveRooms evict positive (steady.lead short)
    exact ⟨ends.tokens, ends.capped⟩
  · intro met member now rooms same
    have here := (solvent.calling liveRooms evict positive steady).1 met member
    rw [same] at here
    exact here.accrued positive
  · intro from_ until_ ordered
    rw [evictionsWithin_drawn]
    have bound := TokenBucket.drawn_bounded (zero_le_one.trans (le_max_left 1 rate)) (by positivity)
      (solvent.affordable liveRooms evict positive steady) ordered
    calc _ ≤ max 1 rate + rate / 1000 * (until_ - from_) := bound
      _ = max 1 rate + rate * (until_ - from_) / 1000 := by ring

theorem slow_drain_paced : Paced (fun (_ : Unit) _ => ["stuck"]) (fun rooms _ => rooms)
    20000 (1 / 2) 0 [.relinquish 0 1, .run 20000 (), .reacquire 20500 1, .run 21000 ()] :=
  drain_paced _ _ 20000 (1 / 2) (by norm_num) 0 _ (by decide)

end Pace

end DrainScheduler
end Relay

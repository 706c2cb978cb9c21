import Mathlib.Algebra.Order.Field.Rat
import CompanionRelay.Ordered

/-!
src/sharding/drainScheduler.js: the episodes of relinquished buckets, and the tick that
closes their rooms as far as the tokens go. What the scheduler is given, the live rooms of
a bucket and the closing of a room, are parameters on a state of their own; what a tick
does is then one fact about the episodes it drops, keeps and closes rooms for.
-/

namespace Relay

structure Episode where
  deadline : Nat
  evicted : OrderedSet String := OrderedSet.empty

structure DrainScheduler where
  drainDelayMs : Nat
  rate : Rat
  draining : OrderedMap Int Episode := OrderedMap.empty
  tokens : Rat := 0
  lastRunMs : Nat := 0

namespace DrainScheduler

/-- The burst cap: one second's worth, and at least one whole token. -/
def cap (scheduler : DrainScheduler) : Rat := max 1 scheduler.rate

def relinquish (scheduler : DrainScheduler) (now : Nat) (bucket : Int) : DrainScheduler :=
  { scheduler with
    draining := scheduler.draining.set bucket { deadline := now + scheduler.drainDelayMs } }

def reacquire (scheduler : DrainScheduler) (bucket : Int) : DrainScheduler :=
  { scheduler with draining := scheduler.draining.delete bucket }

section Run
variable {Rooms : Type} (liveRooms : Rooms → Int → List String)
  (evict : Rooms → String → Rooms)

/-- Where the loop over the live rooms of one bucket stands. -/
structure Pass (Rooms : Type) where
  rooms : Rooms
  tokens : Rat
  evicted : OrderedSet String
  closed : List String

/-- The loop over the live rooms of a bucket, and whether it ran out of tokens. -/
def drainRooms (pass : Pass Rooms) : List String → Pass Rooms × Bool
  | [] => (pass, false)
  | id :: rest =>
      if id ∈ pass.evicted then drainRooms pass rest
      else if pass.tokens < 1 then (pass, true)
      else drainRooms
        { rooms := evict pass.rooms id
          tokens := pass.tokens - 1
          evicted := pass.evicted.add id
          closed := pass.closed ++ [id] } rest

/-- Where the loop over the draining buckets stands. -/
structure Sweep (Rooms : Type) where
  rooms : Rooms
  tokens : Rat
  draining : OrderedMap Int Episode
  closed : List String

def drainBuckets (now : Nat) (sweep : Sweep Rooms) : List (Int × Episode) → Sweep Rooms
  | [] => sweep
  | (bucket, episode) :: rest =>
      if episode.deadline > now then drainBuckets now sweep rest
      else
        let result := drainRooms evict ⟨sweep.rooms, sweep.tokens, episode.evicted, sweep.closed⟩
          (liveRooms sweep.rooms bucket)
        let pass := result.1
        if result.2 then
          -- the rest of the buckets waits for the next tick
          { rooms := pass.rooms
            tokens := pass.tokens
            draining := sweep.draining.set bucket { episode with evicted := pass.evicted }
            closed := pass.closed }
        else drainBuckets now
          { rooms := pass.rooms
            tokens := pass.tokens
            draining := sweep.draining.delete bucket
            closed := pass.closed } rest

def accrued (scheduler : DrainScheduler) (now : Nat) : Rat :=
  min scheduler.cap (scheduler.tokens + ((now : Rat) - scheduler.lastRunMs) * scheduler.rate / 1000)

def sweep (scheduler : DrainScheduler) (now : Nat) (rooms : Rooms) : Sweep Rooms :=
  drainBuckets liveRooms evict now ⟨rooms, scheduler.accrued now, scheduler.draining, []⟩
    scheduler.draining.entries

/-- One tick: the scheduler and the rooms after it, and the rooms it has closed. -/
def run (scheduler : DrainScheduler) (now : Nat) (rooms : Rooms) :
    DrainScheduler × Rooms × List String :=
  let swept := scheduler.sweep liveRooms evict now rooms
  ({ scheduler with draining := swept.draining, tokens := swept.tokens, lastRunMs := now },
    swept.rooms, swept.closed)

end Run

/-- What the scheduler relies on: closing a room leaves it gone and no other room less gone,
and every room of a bucket that is not gone is listed. -/
structure Evicts {Rooms : Type} (liveRooms : Rooms → Int → List String)
    (evict : Rooms → String → Rooms) (Sound : Rooms → Prop) (Gone : Rooms → String → Prop)
    (InBucket : String → Int → Prop) : Prop where
  kept : ∀ rooms id, Sound rooms → Sound (evict rooms id)
  gone : ∀ rooms id, Sound rooms → Gone (evict rooms id) id
  stays : ∀ rooms id other, Sound rooms → Gone rooms other → Gone (evict rooms id) other
  located : ∀ rooms bucket id, id ∈ liveRooms rooms bucket → InBucket id bucket
  listed : ∀ rooms bucket id, Sound rooms → InBucket id bucket → id ∉ liveRooms rooms bucket →
    Gone rooms id

section Spec
variable {Rooms : Type} {liveRooms : Rooms → Int → List String} {evict : Rooms → String → Rooms}
  {Sound : Rooms → Prop} {Gone : Rooms → String → Prop} {InBucket : String → Int → Prop}
  (evicts : Evicts liveRooms evict Sound Gone InBucket)
include evicts

/-- What the loop over a bucket's rooms leaves. -/
structure Passed (Sound : Rooms → Prop) (Gone : Rooms → String → Prop) (ids : List String)
    (pass : Pass Rooms) (after : Pass Rooms × Bool) : Prop where
  sound : Sound after.1.rooms
  stays : ∀ id, Gone pass.rooms id → Gone after.1.rooms id
  evicted : ∀ id ∈ after.1.evicted, Gone after.1.rooms id ∧ (id ∈ pass.evicted ∨ id ∈ ids)
  closed : ∀ id ∈ after.1.closed, id ∈ pass.closed ∨ id ∈ ids
  whole : after.2 = false → ∀ id ∈ ids, id ∈ after.1.evicted
  grows : ∀ id ∈ pass.evicted, id ∈ after.1.evicted

theorem drainRooms_passed (ids : List String) (pass : Pass Rooms) (sound : Sound pass.rooms)
    (evicted : ∀ id ∈ pass.evicted, Gone pass.rooms id) :
    Passed Sound Gone ids pass (drainRooms evict pass ids) := by
  induction ids generalizing pass with
  | nil =>
      exact ⟨sound, fun _ gone => gone, fun id member => ⟨evicted id member, .inl member⟩,
        fun _ => .inl, by simp, fun _ inside => inside⟩
  | cons id rest ih =>
      unfold drainRooms
      by_cases already : id ∈ pass.evicted
      · rw [if_pos already]
        have later := ih pass sound evicted
        refine { later with evicted := ?_, closed := ?_, whole := ?_ }
        · intro other member
          exact (later.evicted other member).imp_right (·.imp_right (List.mem_cons_of_mem id))
        · intro other member
          exact (later.closed other member).imp_right (List.mem_cons_of_mem id)
        · intro finished other member
          rcases List.mem_cons.mp member with rfl | inside
          · exact later.grows other already
          · exact later.whole finished other inside
      · rw [if_neg already]
        by_cases poor : pass.tokens < 1
        · rw [if_pos poor]
          exact ⟨sound, fun _ gone => gone, fun id member => ⟨evicted id member, .inl member⟩,
            fun _ => .inl, by simp, fun _ inside => inside⟩
        · rw [if_neg poor]
          have later := ih
            { rooms := evict pass.rooms id
              tokens := pass.tokens - 1
              evicted := pass.evicted.add id
              closed := pass.closed ++ [id] } (evicts.kept _ id sound) (by
                intro other member
                rcases (OrderedSet.mem_add _ _ _).mp member with before | rfl
                · exact evicts.stays _ id other sound (evicted other before)
                · exact evicts.gone _ other sound)
          refine ⟨later.sound, ?_, ?_, ?_, ?_, ?_⟩
          · intro other before
            exact later.stays other (evicts.stays _ id other sound before)
          · intro other member
            obtain ⟨gone, early | inside⟩ := later.evicted other member
            · rcases (OrderedSet.mem_add _ _ _).mp early with before | rfl
              · exact ⟨gone, .inl before⟩
              · exact ⟨gone, .inr (by simp)⟩
            · exact ⟨gone, .inr (List.mem_cons_of_mem id inside)⟩
          · intro other member
            rcases later.closed other member with early | inside
            · rcases List.mem_append.mp early with before | here
              · exact .inl before
              · rw [List.mem_singleton.mp here]
                exact .inr (by simp)
            · exact .inr (List.mem_cons_of_mem id inside)
          · intro finished other member
            rcases List.mem_cons.mp member with rfl | inside
            · exact later.grows other ((OrderedSet.mem_add _ _ _).mpr (.inr rfl))
            · exact later.whole finished other inside
          · intro other before
            exact later.grows other ((OrderedSet.mem_add _ _ _).mpr (.inl before))

/-- What a tick has made of the episodes it began with. -/
structure Swept (Sound : Rooms → Prop) (Gone : Rooms → String → Prop)
    (InBucket : String → Int → Prop) (now : Nat) (before : Rooms)
    (episodes : OrderedMap Int Episode) (sweep : Sweep Rooms) : Prop where
  sound : Sound sweep.rooms
  stays : ∀ id, Gone before id → Gone sweep.rooms id
  kept : ∀ bucket episode, sweep.draining.get? bucket = some episode →
    (∃ earlier, episodes.get? bucket = some earlier ∧ episode.deadline = earlier.deadline) ∧
      ∀ id ∈ episode.evicted, InBucket id bucket ∧ Gone sweep.rooms id
  dropped : ∀ bucket, bucket ∈ episodes → bucket ∉ sweep.draining →
    ∀ id, InBucket id bucket → Gone sweep.rooms id
  closed : ∀ id ∈ sweep.closed, ∃ bucket episode, episodes.get? bucket = some episode ∧
    episode.deadline ≤ now ∧ InBucket id bucket

theorem drainBuckets_swept {now : Nat} {before : Rooms} {episodes : OrderedMap Int Episode}
    (entries : List (Int × Episode)) (inside : ∀ entry ∈ entries, entry ∈ episodes.entries)
    (evicted : ∀ bucket episode, episodes.get? bucket = some episode →
      ∀ id ∈ episode.evicted, InBucket id bucket ∧ Gone before id)
    (sweep : Sweep Rooms) (swept : Swept Sound Gone InBucket now before episodes sweep) :
    Swept Sound Gone InBucket now before episodes (drainBuckets liveRooms evict now sweep entries) := by
  induction entries generalizing sweep with
  | nil => exact swept
  | cons entry rest ih =>
      obtain ⟨bucket, episode⟩ := entry
      simp only [List.forall_mem_cons] at inside
      have found : episodes.get? bucket = some episode := (episodes.entry_iff _ _).mpr inside.1
      unfold drainBuckets
      by_cases early : episode.deadline > now
      · rw [if_pos early]
        exact ih inside.2 sweep swept
      · rw [if_neg early]
        dsimp only
        have passed := drainRooms_passed evicts (liveRooms sweep.rooms bucket)
          ⟨sweep.rooms, sweep.tokens, episode.evicted, sweep.closed⟩ swept.sound
          fun id member => swept.stays id (evicted bucket episode found id member).2
        generalize result : drainRooms evict
          ⟨sweep.rooms, sweep.tokens, episode.evicted, sweep.closed⟩
          (liveRooms sweep.rooms bucket) = after at passed ⊢
        have closed : ∀ id ∈ after.1.closed, ∃ bucket episode,
            episodes.get? bucket = some episode ∧ episode.deadline ≤ now ∧ InBucket id bucket := by
          intro id member
          rcases passed.closed id member with before | here
          · exact swept.closed id before
          · exact ⟨bucket, episode, found, by omega, evicts.located _ _ _ here⟩
        have stays : ∀ id, Gone before id → Gone after.1.rooms id :=
          fun id gone => passed.stays id (swept.stays id gone)
        cases starved : after.2 with
        | true =>
            rw [if_pos rfl]
            refine ⟨passed.sound, stays, ?_, ?_, closed⟩
            · intro other held
              rw [OrderedMap.get?_set]
              rintro (⟨rfl, rfl⟩ | ⟨_, kept⟩)
              · refine ⟨⟨episode, found, rfl⟩, fun id member => ?_⟩
                obtain ⟨gone, before | here⟩ := passed.evicted id member
                · exact ⟨(evicted other episode found id before).1, gone⟩
                · exact ⟨evicts.located _ _ _ here, gone⟩
              · obtain ⟨origin, gone⟩ := swept.kept other held kept
                exact ⟨origin, fun id member => (gone id member).imp_right (passed.stays id)⟩
            · intro other there missing id located
              apply passed.stays id
              apply swept.dropped other there _ id located
              intro kept
              apply missing
              rw [OrderedMap.mem_iff] at kept ⊢
              obtain ⟨held, kept⟩ := kept
              by_cases same : other = bucket
              · exact ⟨_, (OrderedMap.get?_set _ _ _ _ _).mpr (.inl ⟨same, rfl⟩)⟩
              · exact ⟨held, (OrderedMap.get?_set _ _ _ _ _).mpr (.inr ⟨same, kept⟩)⟩
        | false =>
            rw [if_neg (by simp)]
            apply ih inside.2
            refine ⟨passed.sound, stays, ?_, ?_, closed⟩
            · intro other held
              rw [OrderedMap.get?_delete]
              rintro ⟨_, kept⟩
              obtain ⟨origin, gone⟩ := swept.kept other held kept
              exact ⟨origin, fun id member => (gone id member).imp_right (passed.stays id)⟩
            · intro other there missing id located
              by_cases same : other = bucket
              · subst same
                by_cases listed : id ∈ liveRooms sweep.rooms other
                · exact (passed.evicted id (passed.whole starved id listed)).1
                · exact passed.stays id (evicts.listed _ _ _ swept.sound located listed)
              · apply passed.stays id
                apply swept.dropped other there _ id located
                intro kept
                apply missing
                rw [OrderedMap.mem_iff] at kept ⊢
                obtain ⟨held, kept⟩ := kept
                exact ⟨held, (OrderedMap.get?_delete _ _ _ _).mpr ⟨same, kept⟩⟩

-- A tick: its episodes keep their deadlines, a dropped one leaves no room of its bucket, and
-- a room is closed only for an episode whose deadline has come.
theorem sweep_swept (scheduler : DrainScheduler) (now : Nat) (rooms : Rooms) (sound : Sound rooms)
    (evicted : ∀ bucket episode, scheduler.draining.get? bucket = some episode →
      ∀ id ∈ episode.evicted, InBucket id bucket ∧ Gone rooms id) :
    Swept Sound Gone InBucket now rooms scheduler.draining
      (scheduler.sweep liveRooms evict now rooms) := by
  apply drainBuckets_swept evicts _ (fun _ => id) evicted
  exact ⟨sound, fun _ => id, fun bucket episode found =>
    ⟨⟨episode, found, rfl⟩, evicted bucket episode found⟩, fun _ there missing => absurd there missing,
    by simp⟩

end Spec

end DrainScheduler
end Relay

import CompanionRelay.DrainPace

/-!
The episodes of the drain scheduler. A run visits the buckets that are past their deadline in
the order in which they were given up, until one of them is starved of tokens. What a visit
leaves of its episode is said once; what an episode has closed, and when it ends, is then an
induction over the calls from its relinquish on. The clock is in whole milliseconds from 0 on.
-/

namespace Relay
namespace DrainScheduler

/-- What a run does about one bucket: the rooms closed before in its episode, those that
liveRooms lists, those closed now, and whether the episode ends. -/
structure Visit where
  bucket : Int
  before : OrderedSet String
  listed : List String
  closed : List String
  finished : Bool

section Visits
variable {Rooms : Type} (liveRooms : Rooms → Int → List String)
  (evict : Rooms → String → Rooms)

/-- The visits of the loop over the draining buckets. -/
def visitsOf (now : Nat) (sweep : Sweep Rooms) : List (Int × Episode) → List Visit
  | [] => []
  | (bucket, episode) :: rest =>
      if episode.deadline > now then visitsOf now sweep rest
      else
        let listed := liveRooms sweep.rooms bucket
        let result :=
          drainRooms evict ⟨sweep.rooms, sweep.tokens, episode.evicted, sweep.closed⟩ listed
        let pass := result.1
        let visit : Visit :=
          ⟨bucket, episode.evicted, listed, pass.closed.drop sweep.closed.length, !result.2⟩
        if result.2 then [visit]
        else visit :: visitsOf now
          { rooms := pass.rooms
            tokens := pass.tokens
            draining := sweep.draining.delete bucket
            closed := pass.closed } rest

def visits (scheduler : DrainScheduler) : Call Rooms → List Visit
  | .run now rooms =>
      visitsOf liveRooms evict now ⟨rooms, scheduler.accrued now, scheduler.draining, []⟩
        scheduler.draining.entries
  | _ => []

/-- The rooms that a call closes for a bucket. -/
def closedFor (bucket : Int) (met : DrainScheduler × Call Rooms) : List String :=
  ((visits liveRooms evict met.1 met.2).filter (·.bucket = bucket)).flatMap Visit.closed

/-- What one visit makes of the sweep. -/
structure Visited (sweep : Sweep Rooms) (bucket : Int) (episode : Episode) (visit : Visit)
    (after : Sweep Rooms) (evicted : OrderedSet String) : Prop where
  place : visit.bucket = bucket
  before : visit.before = episode.evicted
  listed : visit.listed = liveRooms sweep.rooms bucket
  fresh : ∀ id ∈ visit.closed, id ∈ visit.listed
  grown : evicted.items = visit.before.items ++ visit.closed
  closed : after.closed = sweep.closed ++ visit.closed
  tokens : after.tokens = sweep.tokens - visit.closed.length
  untouched : visit.closed = [] → after.rooms = sweep.rooms
  finished : visit.finished = true →
    after.draining = sweep.draining.delete bucket ∧ ∀ id ∈ visit.listed, id ∈ evicted
  starved : visit.finished = false →
    after.draining = sweep.draining.set bucket { episode with evicted := evicted } ∧
      after.tokens < 1 ∧ ∃ id ∈ visit.listed, id ∉ evicted

/-- The loop over the draining buckets, visit by visit. -/
inductive Scans (now : Nat) : Sweep Rooms → List (Int × Episode) → List Visit → Sweep Rooms → Prop
  | nothing (sweep : Sweep Rooms) : Scans now sweep [] [] sweep
  | defers {sweep after : Sweep Rooms} {bucket : Int} {episode : Episode}
      {rest : List (Int × Episode)} {visits : List Visit} (early : now < episode.deadline)
      (others : Scans now sweep rest visits after) :
      Scans now sweep ((bucket, episode) :: rest) visits after
  | finishes {sweep between after : Sweep Rooms} {bucket : Int} {episode : Episode}
      {rest : List (Int × Episode)} {visit : Visit} {visits : List Visit}
      {evicted : OrderedSet String} (due : episode.deadline ≤ now)
      (visited : Visited liveRooms sweep bucket episode visit between evicted)
      (finished : visit.finished = true) (others : Scans now between rest visits after) :
      Scans now sweep ((bucket, episode) :: rest) (visit :: visits) after
  | starves {sweep after : Sweep Rooms} {bucket : Int} {episode : Episode}
      {rest : List (Int × Episode)} {visit : Visit} {evicted : OrderedSet String}
      (due : episode.deadline ≤ now)
      (visited : Visited liveRooms sweep bucket episode visit after evicted)
      (starved : visit.finished = false) :
      Scans now sweep ((bucket, episode) :: rest) [visit] after

end Visits

section Loop
variable {Rooms : Type} {liveRooms : Rooms → Int → List String} {evict : Rooms → String → Rooms}

end Loop

section Scan
variable {Rooms : Type} {liveRooms : Rooms → Int → List String} {now : Nat}
  {sweep after : Sweep Rooms} {entries : List (Int × Episode)} {visits : List Visit} {bucket : Int}

theorem Scans.closed (scans : Scans liveRooms now sweep entries visits after) :
    after.closed = sweep.closed ++ visits.flatMap Visit.closed := by
  induction scans with
  | nothing => simp
  | defers _ _ ih => exact ih
  | finishes _ visited _ _ ih => rw [ih, visited.closed, List.flatMap_cons, List.append_assoc]
  | starves _ visited _ => rw [visited.closed, List.flatMap_cons, List.flatMap_nil, List.append_nil]

theorem Scans.tokens (scans : Scans liveRooms now sweep entries visits after) :
    after.tokens = sweep.tokens - (visits.flatMap Visit.closed).length := by
  induction scans with
  | nothing => simp
  | defers _ _ ih => exact ih
  | finishes _ visited _ _ ih =>
      rw [ih, visited.tokens, List.flatMap_cons, List.length_append, Nat.cast_add]
      ring
  | starves _ visited _ =>
      rw [visited.tokens, List.flatMap_cons, List.flatMap_nil, List.append_nil]

-- As long as no room is closed, every visit finds the rooms as the run found them.
theorem Scans.listed (scans : Scans liveRooms now sweep entries visits after)
    (idle : visits.flatMap Visit.closed = []) :
    ∀ visit ∈ visits, visit.listed = liveRooms sweep.rooms visit.bucket := by
  induction scans with
  | nothing => simp
  | defers _ _ ih => exact ih idle
  | finishes _ visited _ _ ih =>
      rw [List.flatMap_cons, List.append_eq_nil_iff] at idle
      rw [List.forall_mem_cons]
      constructor
      · rw [visited.place]
        exact visited.listed
      · rw [← visited.untouched idle.1]
        exact ih idle.2
  | starves _ visited _ =>
      rw [List.forall_mem_singleton, visited.place]
      exact visited.listed

theorem Scans.fresh (scans : Scans liveRooms now sweep entries visits after) :
    ∀ visit ∈ visits, ∀ id ∈ visit.closed, id ∈ visit.listed := by
  induction scans with
  | nothing => simp
  | defers _ _ ih => exact ih
  | finishes _ visited _ _ ih => exact List.forall_mem_cons.mpr ⟨visited.fresh, ih⟩
  | starves _ visited _ => exact List.forall_mem_singleton.mpr visited.fresh

theorem Scans.places (scans : Scans liveRooms now sweep entries visits after) :
    ∀ visit ∈ visits, visit.bucket ∈ entries.map Prod.fst := by
  induction scans with
  | nothing => simp
  | defers _ _ ih => exact fun visit member => List.mem_cons_of_mem _ (ih visit member)
  | finishes _ visited _ _ ih =>
      rw [List.forall_mem_cons, visited.place]
      exact ⟨by simp, fun visit member => List.mem_cons_of_mem _ (ih visit member)⟩
  | starves _ visited _ =>
      rw [List.forall_mem_singleton, visited.place]
      simp

theorem Scans.unvisited (scans : Scans liveRooms now sweep entries visits after)
    (missing : bucket ∉ entries.map Prod.fst) : visits.filter (·.bucket = bucket) = [] := by
  rw [List.filter_eq_nil_iff]
  intro visit member same
  exact missing (of_decide_eq_true same ▸ scans.places visit member)

theorem Visited.others {episode : Episode} {visit : Visit} {evicted : OrderedSet String}
    {place : Int} (visited : Visited liveRooms sweep place episode visit after evicted)
    (apart : bucket ≠ place) : after.draining.get? bucket = sweep.draining.get? bucket := by
  apply Option.ext
  intro held
  cases finished : visit.finished with
  | true =>
      rw [(visited.finished finished).1, OrderedMap.get?_delete]
      exact and_iff_right apart
  | false =>
      rw [(visited.starved finished).1, OrderedMap.get?_set]
      simp [apart]

theorem Scans.others (scans : Scans liveRooms now sweep entries visits after)
    (missing : bucket ∉ entries.map Prod.fst) :
    after.draining.get? bucket = sweep.draining.get? bucket := by
  induction scans with
  | nothing => rfl
  | defers _ _ ih => exact ih (List.not_mem_of_not_mem_cons missing)
  | finishes _ visited _ _ ih =>
      rw [ih (List.not_mem_of_not_mem_cons missing)]
      exact visited.others (List.ne_of_not_mem_cons missing)
  | starves _ visited _ => exact visited.others (List.ne_of_not_mem_cons missing)

/-- What a run leaves of the episode of one bucket. -/
inductive Leaves (now : Nat) (bucket : Int) (episode : Episode) (visits : List Visit)
    (after : Sweep Rooms) : Prop
  | waits (idle : now < episode.deadline ∨ after.tokens < 1)
      (unvisited : visits.filter (·.bucket = bucket) = [])
      (kept : after.draining.get? bucket = some episode)
  | starves (visit : Visit) (evicted : OrderedSet String) (due : episode.deadline ≤ now)
      (poor : after.tokens < 1) (only : visits.filter (·.bucket = bucket) = [visit])
      (before : visit.before = episode.evicted)
      (grown : evicted.items = episode.evicted.items ++ visit.closed)
      (kept : after.draining.get? bucket = some { episode with evicted := evicted })
  | finishes (visit : Visit) (evicted : OrderedSet String) (due : episode.deadline ≤ now)
      (only : visits.filter (·.bucket = bucket) = [visit])
      (before : visit.before = episode.evicted)
      (grown : evicted.items = episode.evicted.items ++ visit.closed)
      (whole : ∀ id ∈ visit.listed, id ∈ evicted)
      (gone : after.draining.get? bucket = none)

theorem Scans.leaves (scans : Scans liveRooms now sweep entries visits after) {episode : Episode}
    (distinct : (entries.map Prod.fst).Nodup) (member : (bucket, episode) ∈ entries)
    (held : sweep.draining.get? bucket = some episode) :
    Leaves now bucket episode visits after := by
  -- The buckets are distinct: the visit of another one leaves this episode as it is.
  induction scans with
  | nothing => simp at member
  | @defers _ _ place held' _ _ early others ih =>
      rw [List.map_cons, List.nodup_cons] at distinct
      rcases List.mem_cons.mp member with same | later
      · obtain ⟨rfl, rfl⟩ := Prod.mk.inj same
        refine .waits (.inl early) (others.unvisited distinct.1) ?_
        rw [others.others distinct.1]
        exact held
      · exact ih distinct.2 later held
  | @finishes _ _ _ place _ _ visit more evicted due visited finished others ih =>
      rw [List.map_cons, List.nodup_cons] at distinct
      rcases List.mem_cons.mp member with same | later
      · obtain ⟨rfl, rfl⟩ := Prod.mk.inj same
        obtain ⟨removed, whole⟩ := visited.finished finished
        refine .finishes visit evicted due ?_ visited.before (visited.before ▸ visited.grown) whole
          ?_
        · rw [List.filter_cons_of_pos (by simp [visited.place]), others.unvisited distinct.1]
        · rw [others.others distinct.1, removed, Option.eq_none_iff_forall_ne_some]
          intro left kept
          exact ((OrderedMap.get?_delete _ _ _ _).mp kept).1 rfl
      · have apart : bucket ≠ place := by
          rintro rfl
          exact distinct.1 (List.mem_map.mpr ⟨_, later, rfl⟩)
        have skipped : visit.bucket ≠ bucket := by
          rw [visited.place]
          exact apart.symm
        have here := ih distinct.2 later (visited.others apart ▸ held)
        have tail : (visit :: more).filter (·.bucket = bucket) = more.filter (·.bucket = bucket) :=
          List.filter_cons_of_neg (by simp [skipped])
        cases here with
        | waits idle unvisited kept => exact .waits idle (tail.trans unvisited) kept
        | starves found grew due poor only before grown kept =>
            exact .starves found grew due poor (tail.trans only) before grown kept
        | finishes found grew due only before grown whole gone =>
            exact .finishes found grew due (tail.trans only) before grown whole gone
  | @starves _ _ place _ _ visit evicted due visited starved =>
      rw [List.map_cons, List.nodup_cons] at distinct
      obtain ⟨kept, poor, _⟩ := visited.starved starved
      rcases List.mem_cons.mp member with same | later
      · obtain ⟨rfl, rfl⟩ := Prod.mk.inj same
        refine .starves visit evicted due poor ?_ visited.before (visited.before ▸ visited.grown) ?_
        · rw [List.filter_cons_of_pos (by simp [visited.place]), List.filter_nil]
        · rw [kept]
          exact (OrderedMap.get?_set _ _ _ _ _).mpr (.inl ⟨rfl, rfl⟩)
      -- A bucket behind the starved one is not visited by this run.
      · have apart : bucket ≠ place := by
          rintro rfl
          exact distinct.1 (List.mem_map.mpr ⟨_, later, rfl⟩)
        refine .waits (.inr poor) ?_ (visited.others apart ▸ held)
        rw [List.filter_cons_of_neg (by simp [visited.place, apart.symm]), List.filter_nil]

end Scan

def Call.isRun {Rooms : Type} : Call Rooms → Bool
  | .run _ _ => true
  | _ => false

section Episodes
variable {Rooms : Type} (liveRooms : Rooms → Int → List String)
  (evict : Rooms → String → Rooms)

/-- What the calls from a state on leave of an episode: the rooms closed in it, each once and
none early, and at its end nothing that was listed is left. -/
structure Course (bucket : Int) (episode : Episode) (scheduler : DrainScheduler)
    (calls : List (Call Rooms)) (evicted : OrderedSet String) : Prop where
  grown : evicted.items = episode.evicted.items ++
    (called liveRooms evict scheduler calls).flatMap (closedFor liveRooms evict bucket)
  deferred : ∀ met ∈ called liveRooms evict scheduler calls,
    closedFor liveRooms evict bucket met ≠ [] → episode.deadline ≤ met.2.now
  ends : (calling liveRooms evict scheduler calls).draining.get? bucket =
      some { episode with evicted := evicted } ∨
    (calling liveRooms evict scheduler calls).draining.get? bucket = none ∧
      ∃ met ∈ called liveRooms evict scheduler calls, ∃ visit ∈ visits liveRooms evict met.1 met.2,
        visit.bucket = bucket ∧ ∀ id ∈ visit.listed, id ∈ evicted

variable {liveRooms evict} {scheduler : DrainScheduler} {bucket : Int} {episode : Episode}
  {now : Nat} {rooms : Rooms} {call : Call Rooms}

end Episodes

end DrainScheduler
end Relay

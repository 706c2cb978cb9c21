import CompanionRelay.Closing
import CompanionRelay.DrainScheduler
import CompanionRelay.ShardMapStore

/-!
One distributed relay of host/server.js: the shard map store, the drain scheduler and the
rooms of the process under one step function. A poll and a drain tick are macrotasks, so
they find no room amid its microtasks; an upgrade reads the ownership gate in the turn in
which it is accepted. What holds over a run is one invariant about the draining buckets,
the owned ones and the rooms with a routable socket.
-/

namespace Relay

section Rooms
variable {env : Env} {state : State} {event : Event} {met : Turn}

theorem step_drain_keeps (env : Env) (state : State) :
    (step env state .drain).live = state.live ∧
      (step env state .drain).busy .drain = state.busy .drain := by
  rcases step_cases env state .drain with ⟨_, same⟩ | ⟨met, turns, _, result⟩
  · rw [same]
    exact ⟨rfl, rfl⟩
  · rw [result]
    cases turns with
    | drain ctx resident =>
        have keeps : ∀ {Part : Type} (part : State → Part),
            (∀ act other, part (perform ctx other act) = part other) → ∀ acts,
            part (replay ctx state acts) = part state :=
          fun part each acts => Script.replay_keeps _ part acts (fun act _ => each act) state
        simp only [Turn.result, id_eq, State.busy]
        rw [keeps State.live (by simp), keeps State.draining (by simp),
          keeps State.alarming (by simp), keeps State.loading (by simp)]
        exact ⟨rfl, rfl⟩

theorem drained_unroutable (wired : Wired env state) (idle : state.busy .drain = false)
    (ws : SocketId) : ¬ (step env state .drain).routable ws := by
  intro routed
  have before := step_routable env state .drain (by simp) routed
  have anchor := (wired.anchored _ ws before).1
  let closing : Turn :=
    { ctx := state.home ws, start := state,
      script := closeAll (state.home ws) state wsReshardCode "reshard" }
  have turns : turn env state .drain = some closing := by
    simp [turn, idle, quietTurn, anchor, closing]
  have result : step env state .drain = closing.result := by
    unfold step
    rw [turns]
  rw [result] at routed
  apply (turn_turns turns).closed_unroutable wired _ routed
  have done_ : done closing.fault closing.script = closing.script := by
    apply Script.done_safe
    intro act member
    obtain ⟨other, _, rfl⟩ := List.mem_map.mp member
    exact ⟨rfl, rfl⟩
  rw [Turn.acts, done_, closes_append]
  exact List.mem_append_left _ (mem_closeAll.mpr before)

end Rooms

/-- runtime.rooms in its order of insertion, and the state of every room name. -/
structure RoomTable where
  order : OrderedSet String
  room : String → State

/-- Runtime.roomsInBucket asks a room for at least one socket. -/
def State.occupied (state : State) : Bool :=
  match state.live with
  | none => false
  | some ctx => !(state.sockets ctx).isEmpty

def roomsInBucket (rooms : RoomTable) (bucket : Int) : List String :=
  rooms.order.items.filter fun name =>
    (rooms.room name).occupied && bucketForRoomName name = some bucket

section Box
open Function (update)

/-- What createServer is given: `env` for each room name, and JSON.parse for the map. -/
structure BoxConfig where
  selfHost : String
  drainDelayMs : Nat
  evictionRate : Rat
  parse : String → Option Json
  env : String → Env

structure Box where
  store : ShardMapStore
  drain : DrainScheduler
  rooms : RoomTable

variable (config : BoxConfig)

def closeRoom (rooms : RoomTable) (name : String) : RoomTable :=
  if name ∈ rooms.order then
    { rooms with room := update rooms.room name (step (config.env name) (rooms.room name) .drain) }
  else rooms

inductive BoxEvent
  -- a fetch completes
  | poll (now : Nat) (result : Option String)
  | tick (now : Nat)
  | room (name : String) (event : Event)

/-- No room is amid its microtasks, so the next macrotask of the process can begin. -/
def RoomTable.settled (rooms : RoomTable) : Bool :=
  rooms.order.items.all fun name => !(rooms.room name).busy .drain

def applyShardDiff (drain : DrainScheduler) (now : Nat) (diff : OwnedDiff) : DrainScheduler :=
  diff.acquired.items.foldl DrainScheduler.reacquire
    (diff.relinquished.items.foldl (·.relinquish now ·) drain)

/-- The ownership gate of an upgrade. -/
def ownershipGate (box : Box) (name : String) : Bool :=
  (ownershipDecision .distributed name box.store.ownsBucket).admitted

/-- A request may find its room long after its own gate, so only an upgrade is gated; the
drain closes rooms by itself, and the process does not restart. -/
def enters (box : Box) (name : String) : Event → Bool
  | .connect _ _ => ownershipGate box name
  | .drain | .restart _ => false
  | _ => true

def stepRoom (rooms : RoomTable) (name : String) (event : Event) : RoomTable :=
  let after := step (config.env name) (rooms.room name) event
  { order := if after.live.isSome then rooms.order.add name else rooms.order.delete name
    room := update rooms.room name after }

/-- The diff of the map that a poll adopts. -/
def adoption (box : Box) : BoxEvent → Option (Nat × OwnedDiff)
  | .poll now result =>
      if box.rooms.settled then
        (fetchOnce config.parse box.store result).2.diff.map fun diff => (now, diff)
      else none
  | _ => none

/-- The rooms that a tick closes. -/
def closedRooms (box : Box) : BoxEvent → List String
  | .tick now =>
      if box.rooms.settled then
        (box.drain.run roomsInBucket (closeRoom config) now box.rooms).2.2
      else []
  | _ => []

def boxStep (box : Box) (event : BoxEvent) : Box :=
  match event with
  | .poll _ result =>
      if box.rooms.settled then
        { box with
          store := (fetchOnce config.parse box.store result).1
          drain := match adoption config box event with
            | none => box.drain
            | some (now, diff) => applyShardDiff box.drain now diff }
      else box
  | .tick now =>
      if box.rooms.settled then
        let result := box.drain.run roomsInBucket (closeRoom config) now box.rooms
        { box with drain := result.1, rooms := result.2.1 }
      else box
  | .room name event =>
      if enters box name event then { box with rooms := stepRoom config box.rooms name event }
      else box

/-- The relay as it boots: the rooms that have state, rehydrated from what earlier processes
left them, and no map. -/
def bootedBox (now : Nat) (names : OrderedSet String) (earlier : String → List Event) : Box :=
  let room name : State :=
    if name ∈ names then restart now (run (config.env name) (earlier name)) else initial
  { store := booted config.selfHost
    drain :=
      { drainDelayMs := config.drainDelayMs, rate := config.evictionRate, lastRunMs := now }
    rooms :=
      { order := OrderedSet.empty.addAll (names.items.filter fun name => (room name).live.isSome)
        room := room } }

/-- A step that adopts a map without the bucket, where the one before had it. -/
def Relinquishes (met : Box × BoxEvent) (now : Nat) (bucket : Int) : Prop :=
  ∃ diff, adoption config met.1 met.2 = some (now, diff) ∧ bucket ∈ diff.relinquished

def Acquires (met : Box × BoxEvent) (bucket : Int) : Prop :=
  ∃ now diff, adoption config met.1 met.2 = some (now, diff) ∧ bucket ∈ diff.acquired

/-- The bucket was relinquished at the time, and has not come back since. -/
def RelinquishedSince (past : List (Box × BoxEvent)) (now : Nat) (bucket : Int) : Prop :=
  ∃ before met after, past = before ++ met :: after ∧ Relinquishes config met now bucket ∧
    ∀ later ∈ after, ¬ Acquires config later bucket

/-- Every room that a tick closes is in a bucket that is not owned, and was given up long
enough before. -/
def ClosesRelinquished (past : List (Box × BoxEvent)) (met : Box × BoxEvent) : Prop :=
  ∀ now, met.2 = .tick now → ∀ name ∈ closedRooms config met.1 met.2, ∃ bucket since,
    bucketForRoomName name = some bucket ∧ bucket ∉ met.1.store.owned ∧
      RelinquishedSince config past since bucket ∧ since + config.drainDelayMs ≤ now

/-- No bucket is owned and draining. -/
def Box.apart (box : Box) : Prop := ∀ bucket ∈ box.drain.draining, bucket ∉ box.store.owned

/-- A room with a routable socket is in a bucket that is owned or draining. -/
def Box.homed (box : Box) : Prop :=
  ∀ name ws, (box.rooms.room name).routable ws → ∃ bucket,
    bucketForRoomName name = some bucket ∧
      (bucket ∈ box.store.owned ∨ bucket ∈ box.drain.draining)

section Drain
variable (drain : DrainScheduler) (now : Nat) (bucket : Int) (episode : Episode)

theorem relinquish_all (buckets : List Int) :
    (buckets.foldl (·.relinquish now ·) drain).drainDelayMs = drain.drainDelayMs ∧
      ((buckets.foldl (·.relinquish now ·) drain).draining.get? bucket = some episode ↔
        (bucket ∈ buckets ∧ episode = { deadline := now + drain.drainDelayMs }) ∨
          (bucket ∉ buckets ∧ drain.draining.get? bucket = some episode)) := by
  induction buckets generalizing drain with
  | nil => simp
  | cons first rest ih =>
      have later := ih (drain.relinquish now first)
      refine ⟨later.1, ?_⟩
      rw [List.foldl_cons, later.2]
      simp only [DrainScheduler.relinquish, OrderedMap.get?_set, List.mem_cons]
      by_cases here : bucket = first
      · subst here
        by_cases there : bucket ∈ rest <;> simp [there]
      · simp [here]

theorem reacquire_all (buckets : List Int) :
    (buckets.foldl DrainScheduler.reacquire drain).drainDelayMs = drain.drainDelayMs ∧
      ((buckets.foldl DrainScheduler.reacquire drain).draining.get? bucket = some episode ↔
        bucket ∉ buckets ∧ drain.draining.get? bucket = some episode) := by
  induction buckets generalizing drain with
  | nil => simp
  | cons first rest ih =>
      have later := ih (drain.reacquire first)
      refine ⟨later.1, ?_⟩
      rw [List.foldl_cons, later.2]
      simp only [DrainScheduler.reacquire, OrderedMap.get?_delete, List.mem_cons, not_or]
      constructor
      · rintro ⟨missing, apart, held⟩
        exact ⟨⟨apart, missing⟩, held⟩
      · rintro ⟨⟨apart, missing⟩, held⟩
        exact ⟨missing, apart, held⟩

-- The draining buckets after a diff: a bucket that came back has no episode, and one that
-- was given up has a new one.
theorem applyShardDiff_draining (diff : OwnedDiff) :
    (applyShardDiff drain now diff).drainDelayMs = drain.drainDelayMs ∧
      ((applyShardDiff drain now diff).draining.get? bucket = some episode ↔
        bucket ∉ diff.acquired ∧
          ((bucket ∈ diff.relinquished ∧ episode = { deadline := now + drain.drainDelayMs }) ∨
            (bucket ∉ diff.relinquished ∧ drain.draining.get? bucket = some episode))) := by
  have given := relinquish_all drain now bucket episode diff.relinquished.items
  have back := reacquire_all (diff.relinquished.items.foldl (·.relinquish now ·) drain)
    bucket episode diff.acquired.items
  refine ⟨back.1.trans given.1, ?_⟩
  unfold applyShardDiff
  rw [back.2, given.2]
  exact Iff.rfl

end Drain

/-- No socket of the room is routable. -/
def RoomTable.deserted (rooms : RoomTable) (name : String) : Prop :=
  ∀ ws, ¬ (rooms.room name).routable ws

/-- The rooms between two macrotasks. -/
structure Idle (rooms : RoomTable) : Prop where
  wired : ∀ name, Wired (config.env name) (rooms.room name)
  listed : ∀ name, (rooms.room name).live.isSome → name ∈ rooms.order
  settled : ∀ name ∈ rooms.order, (rooms.room name).busy .drain = false

variable {config}

theorem routable_occupied {env : Env} {state : State} (wired : Wired env state) {ws : SocketId}
    (routed : state.routable ws) : state.live.isSome ∧ state.occupied = true := by
  have anchor := (wired.anchored _ ws routed).1
  refine ⟨by simp [anchor], ?_⟩
  unfold State.routable at routed
  simp only [State.occupied, anchor, Bool.not_eq_true', List.isEmpty_eq_false_iff]
  exact List.ne_nil_of_mem routed

@[simp] theorem closeRoom_order (rooms : RoomTable) (name : String) :
    (closeRoom config rooms name).order = rooms.order := by
  unfold closeRoom
  split <;> rfl

theorem closeRoom_room (rooms : RoomTable) (name other : String) :
    ((closeRoom config rooms name).room other = rooms.room other ∧
      (other = name → other ∉ rooms.order)) ∨
    (other = name ∧ other ∈ rooms.order ∧ (closeRoom config rooms name).room other =
      step (config.env other) (rooms.room other) .drain) := by
  unfold closeRoom
  by_cases held : name ∈ rooms.order
  · by_cases same : other = name
    · subst same
      exact .inr ⟨rfl, held, by simp [held]⟩
    · exact .inl ⟨by simp [held, same], fun equal => absurd equal same⟩
  · refine .inl ⟨by simp [held], ?_⟩
    rintro rfl
    exact held

theorem closeRoom_evicts : DrainScheduler.Evicts roomsInBucket (closeRoom config) (Idle config)
    RoomTable.deserted fun name bucket => bucketForRoomName name = some bucket where
  kept := by
    intro rooms name idle
    constructor
    · intro other
      rcases closeRoom_room rooms name other with ⟨same, _⟩ | ⟨_, _, closed⟩
      · rw [same]
        exact idle.wired other
      · rw [closed]
        exact wired_step (idle.wired other)
    · intro other live
      rw [closeRoom_order]
      rcases closeRoom_room rooms name other with ⟨same, _⟩ | ⟨_, held, _⟩
      · rw [same] at live
        exact idle.listed other live
      · exact held
    · intro other held
      rw [closeRoom_order] at held
      rcases closeRoom_room rooms name other with ⟨same, _⟩ | ⟨_, _, closed⟩
      · rw [same]
        exact idle.settled other held
      · rw [closed, (step_drain_keeps _ _).2]
        exact idle.settled other held
  gone := by
    intro rooms name idle ws
    rcases closeRoom_room rooms name name with ⟨same, unheld⟩ | ⟨_, held, closed⟩
    · rw [same]
      intro routed
      exact unheld rfl (idle.listed name (routable_occupied (idle.wired name) routed).1)
    · rw [closed]
      exact drained_unroutable (idle.wired name) (idle.settled name held) ws
  stays := by
    intro rooms name other idle deserted ws
    rcases closeRoom_room rooms name other with ⟨same, _⟩ | ⟨_, _, closed⟩
    · rw [same]
      exact deserted ws
    · rw [closed]
      intro routed
      exact deserted ws (step_routable _ _ .drain (by simp) routed)
  located := by
    intro rooms bucket name member
    have found := (List.mem_filter.mp member).2
    simp only [Bool.and_eq_true, decide_eq_true_eq] at found
    exact found.2
  listed := by
    intro rooms bucket name idle located missing ws routed
    obtain ⟨live, occupied⟩ := routable_occupied (idle.wired name) routed
    apply missing
    exact List.mem_filter.mpr ⟨idle.listed name live, by simp [occupied, located]⟩

variable (config)

/-- What holds after any run of the relay. -/
structure Resharding (past : List (Box × BoxEvent)) (box : Box) : Prop where
  wired : ∀ name, Wired (config.env name) (box.rooms.room name)
  listed : ∀ name, (box.rooms.room name).live.isSome → name ∈ box.rooms.order
  delay : box.drain.drainDelayMs = config.drainDelayMs
  apart : box.apart
  homed : box.homed
  evicted : ∀ bucket episode, box.drain.draining.get? bucket = some episode →
    ∀ name ∈ episode.evicted, bucketForRoomName name = some bucket ∧ box.rooms.deserted name
  origin : ∀ bucket episode, box.drain.draining.get? bucket = some episode →
    ∃ since, RelinquishedSince config past since bucket ∧
      episode.deadline = since + config.drainDelayMs

variable {config} {past : List (Box × BoxEvent)} {box : Box}

theorem RelinquishedSince.extend {since : Nat} {bucket : Int} {met : Box × BoxEvent}
    (given : RelinquishedSince config past since bucket) (kept : ¬ Acquires config met bucket) :
    RelinquishedSince config (past ++ [met]) since bucket := by
  obtain ⟨before, origin, after, rfl, relinquished, since_⟩ := given
  refine ⟨before, origin, after ++ [met], by simp, relinquished, ?_⟩
  intro later member
  rcases List.mem_append.mp member with earlier | last
  · exact since_ later earlier
  · rw [List.mem_singleton.mp last]
    exact kept

theorem not_acquires {event : BoxEvent} (quiet : adoption config box event = none) (bucket : Int) :
    ¬ Acquires config (box, event) bucket := by
  rintro ⟨now, diff, adopted, _⟩
  rw [quiet] at adopted
  cases adopted

theorem Resharding.later {event : BoxEvent} (inv : Resharding config past box)
    (quiet : adoption config box event = none) : Resharding config (past ++ [(box, event)]) box :=
  { inv with
    origin := by
      intro bucket episode found
      obtain ⟨since, given, deadline⟩ := inv.origin bucket episode found
      exact ⟨since, given.extend (not_acquires quiet bucket), deadline⟩ }

theorem Resharding.polled (inv : Resharding config past box) (now : Nat) (result : Option String) :
    Resharding config (past ++ [(box, .poll now result)])
      (boxStep config box (.poll now result)) := by
  by_cases settled : box.rooms.settled = true
  · rcases fetchOnce_cases config.parse box.store result with
      ⟨same, quiet, _⟩ | ⟨map, _, _, same, diff⟩
    · have none_ : adoption config box (.poll now result) = none := by
        simp [adoption, settled, quiet]
      have after : boxStep config box (.poll now result) = box := by
        simp only [boxStep, settled, if_true, none_, same]
      rw [after]
      exact inv.later none_
    · have adopted : adoption config box (.poll now result) =
          some (now, diffOwned box.store.owned (ownedBuckets map box.store.selfHost)) := by
        simp [adoption, settled, diff]
      generalize owned : ownedBuckets map box.store.selfHost = new at same adopted
      have store : (boxStep config box (.poll now result)).store.owned = new := by
        simp only [boxStep, settled, if_true, same]
      have rooms : (boxStep config box (.poll now result)).rooms = box.rooms := by
        simp only [boxStep, settled, if_true]
      have drain : (boxStep config box (.poll now result)).drain =
          applyShardDiff box.drain now (diffOwned box.store.owned new) := by
        simp only [boxStep, settled, if_true, adopted]
      have draining := fun bucket episode => (applyShardDiff_draining box.drain now bucket
        episode (diffOwned box.store.owned new)).2
      rw [← drain] at draining
      have outside : ∀ bucket episode,
          (boxStep config box (.poll now result)).drain.draining.get? bucket = some episode →
          ¬ Acquires config (box, .poll now result) bucket := by
        rintro bucket episode found ⟨_, _, again, acquired⟩
        rw [adopted] at again
        cases again
        exact ((draining bucket episode).mp found).1 acquired
      refine ⟨?_, ?_, ?_, ?_, ?_, ?_, ?_⟩
      · rw [rooms]
        exact inv.wired
      · rw [rooms]
        exact inv.listed
      · rw [drain]
        exact (applyShardDiff_draining _ _ 0 ⟨0, OrderedSet.empty⟩ _).1.trans inv.delay
      · intro bucket inside
        obtain ⟨episode, found⟩ := (OrderedMap.mem_iff _ _).mp inside
        obtain ⟨missing, ⟨given, _⟩ | ⟨_, before⟩⟩ := (draining bucket episode).mp found
        · rw [store]
          exact (mem_relinquished.mp given).2
        · have unowned := inv.apart bucket ((OrderedMap.mem_iff _ _).mpr ⟨episode, before⟩)
          rw [store]
          intro owned
          exact missing (mem_acquired.mpr ⟨owned, unowned⟩)
      · intro name ws routed
        rw [rooms] at routed
        obtain ⟨bucket, located, home⟩ := inv.homed name ws routed
        refine ⟨bucket, located, ?_⟩
        rw [store]
        by_cases owned : bucket ∈ new
        · exact .inl owned
        right
        rw [OrderedMap.mem_iff]
        have missing : bucket ∉ (diffOwned box.store.owned new).acquired :=
          fun acquired => owned (mem_acquired.mp acquired).1
        by_cases given : bucket ∈ (diffOwned box.store.owned new).relinquished
        · exact ⟨_, (draining bucket _).mpr ⟨missing, .inl ⟨given, rfl⟩⟩⟩
        · rcases home with before | before
          · exact absurd (mem_relinquished.mpr ⟨before, owned⟩) given
          · obtain ⟨episode, found⟩ := (OrderedMap.mem_iff _ _).mp before
            exact ⟨episode, (draining bucket episode).mpr ⟨missing, .inr ⟨given, found⟩⟩⟩
      · intro bucket episode found name member
        rw [rooms]
        obtain ⟨_, ⟨_, rfl⟩ | ⟨_, before⟩⟩ := (draining bucket episode).mp found
        · exact absurd member (OrderedSet.not_mem_empty name)
        · exact inv.evicted bucket episode before name member
      · intro bucket episode found
        have kept := outside bucket episode found
        obtain ⟨_, ⟨given, rfl⟩ | ⟨_, before⟩⟩ := (draining bucket episode).mp found
        · exact ⟨now, ⟨past, _, [], rfl, ⟨_, adopted, given⟩, by simp⟩, by rw [inv.delay]⟩
        · obtain ⟨since, origin, deadline⟩ := inv.origin bucket episode before
          exact ⟨since, origin.extend kept, deadline⟩
  · have none_ : adoption config box (.poll now result) = none := by
      simp [adoption, settled]
    have after : boxStep config box (.poll now result) = box := by
      simp [boxStep, settled]
    rw [after]
    exact inv.later none_

theorem Resharding.idle (inv : Resharding config past box) (settled : box.rooms.settled = true) :
    Idle config box.rooms := by
  refine ⟨inv.wired, inv.listed, ?_⟩
  intro name held
  simpa using List.all_eq_true.mp settled name held

theorem Resharding.swept (inv : Resharding config past box) (now : Nat)
    (settled : box.rooms.settled = true) :
    DrainScheduler.Swept (Idle config) RoomTable.deserted
      (fun name bucket => bucketForRoomName name = some bucket) now box.rooms box.drain.draining
      (box.drain.sweep roomsInBucket (closeRoom config) now box.rooms) :=
  DrainScheduler.sweep_swept closeRoom_evicts box.drain now box.rooms (inv.idle settled) inv.evicted

theorem Resharding.ticked (inv : Resharding config past box) (now : Nat) :
    Resharding config (past ++ [(box, .tick now)]) (boxStep config box (.tick now)) := by
  have none_ : adoption config box (.tick now) = none := rfl
  by_cases settled : box.rooms.settled = true
  · have swept := inv.swept now settled
    have store : (boxStep config box (.tick now)).store = box.store := by
      simp only [boxStep, settled, if_true]
    have rooms : (boxStep config box (.tick now)).rooms =
        (box.drain.sweep roomsInBucket (closeRoom config) now box.rooms).rooms := by
      simp only [boxStep, settled, if_true]
      rfl
    have draining : (boxStep config box (.tick now)).drain.draining =
        (box.drain.sweep roomsInBucket (closeRoom config) now box.rooms).draining := by
      simp only [boxStep, settled, if_true]
      rfl
    have delay : (boxStep config box (.tick now)).drain.drainDelayMs = box.drain.drainDelayMs := by
      simp only [boxStep, settled, if_true]
      rfl
    generalize box.drain.sweep roomsInBucket (closeRoom config) now box.rooms = sweep
      at swept rooms draining
    obtain ⟨sound, stays, kept, dropped, _⟩ := swept
    rw [← rooms] at sound stays kept dropped
    rw [← draining] at kept dropped
    refine ⟨?_, ?_, delay.trans inv.delay, ?_, ?_, fun bucket episode found =>
      (kept bucket episode found).2, ?_⟩
    · exact sound.wired
    · exact sound.listed
    · intro bucket inside
      obtain ⟨episode, found⟩ := (OrderedMap.mem_iff _ _).mp inside
      obtain ⟨⟨earlier, before, _⟩, _⟩ := kept bucket episode found
      rw [store]
      exact inv.apart bucket ((OrderedMap.mem_iff _ _).mpr ⟨earlier, before⟩)
    · intro name ws routed
      have before : ∃ other, (box.rooms.room name).routable other := by
        by_contra none_
        exact stays name (not_exists.mp none_) ws routed
      obtain ⟨other, before⟩ := before
      obtain ⟨bucket, located, home⟩ := inv.homed name other before
      refine ⟨bucket, located, ?_⟩
      rw [store]
      rcases home with owned | drained
      · exact .inl owned
      · right
        by_contra missing
        exact dropped bucket drained missing name located ws routed
    · intro bucket episode found
      obtain ⟨⟨earlier, before, same⟩, _⟩ := kept bucket episode found
      obtain ⟨since, origin, deadline⟩ := inv.origin bucket earlier before
      exact ⟨since, origin.extend (not_acquires none_ bucket), same.trans deadline⟩
  · have after : boxStep config box (.tick now) = box := by
      simp [boxStep, settled]
    rw [after]
    exact inv.later none_

theorem Resharding.closes (inv : Resharding config past box) (event : BoxEvent) :
    ClosesRelinquished config past (box, event) := by
  rintro now rfl name member
  by_cases settled : box.rooms.settled = true
  · simp only [closedRooms, settled, if_true] at member
    obtain ⟨bucket, episode, found, due, located⟩ := (inv.swept now settled).closed name member
    obtain ⟨since, origin, deadline⟩ := inv.origin bucket episode found
    refine ⟨bucket, since, located, inv.apart bucket ?_, origin, deadline ▸ due⟩
    exact (OrderedMap.mem_iff _ _).mpr ⟨episode, found⟩
  · simp [closedRooms, settled] at member

theorem admitted_owned {name : String} (admitted : ownershipGate box name = true) :
    ∃ bucket, bucketForRoomName name = some bucket ∧ bucket ∈ box.store.owned := by
  unfold ownershipGate ownershipDecision at admitted
  cases located : bucketForRoomName name with
  | none => simp [located, Decision.admitted] at admitted
  | some bucket =>
      refine ⟨bucket, rfl, ?_⟩
      by_contra unowned
      simp [located, ShardMapStore.ownsBucket, unowned, Decision.admitted] at admitted

theorem Resharding.entered (inv : Resharding config past box) (name : String) (event : Event) :
    Resharding config (past ++ [(box, .room name event)])
      (boxStep config box (.room name event)) := by
  have none_ : adoption config box (.room name event) = none := rfl
  by_cases inside : enters box name event = true
  · have later := inv.later none_
    -- a routable socket of the room was routable before, or the gate has just let it in
    have routed : ∀ ws, (step (config.env name) (box.rooms.room name) event).routable ws →
        (box.rooms.room name).routable ws ∨ ownershipGate box name = true := by
      intro ws routed
      cases event with
      | connect now fresh => exact .inr inside
      | _ => exact .inl (step_routable _ _ _ (by simp) routed)
    have after : boxStep config box (.room name event) =
        { box with rooms := stepRoom config box.rooms name event } := by
      simp only [boxStep, inside, if_true]
    rw [after]
    refine { later with wired := ?_, listed := ?_, homed := ?_, evicted := ?_ }
    · intro other
      simp only [stepRoom, Function.update_apply]
      split
      · rename_i same
        subst same
        exact wired_step (inv.wired other)
      · exact inv.wired other
    · intro other live
      simp only [stepRoom, Function.update_apply] at live ⊢
      by_cases same : other = name
      · rw [if_pos same] at live
        rw [if_pos live]
        exact (OrderedSet.mem_add _ _ _).mpr (.inr same)
      · rw [if_neg same] at live
        have held := inv.listed other live
        split
        · exact (OrderedSet.mem_add _ _ _).mpr (.inl held)
        · exact (OrderedSet.mem_delete _ _ _).mpr ⟨held, same⟩
    · intro other ws reached
      simp only [stepRoom, Function.update_apply] at reached
      split at reached
      · rename_i same
        subst same
        rcases routed ws reached with before | admitted
        · exact inv.homed other ws before
        · obtain ⟨bucket, located, owned⟩ := admitted_owned admitted
          exact ⟨bucket, located, .inl owned⟩
      · exact inv.homed other ws reached
    · intro bucket episode found other member
      obtain ⟨located, deserted⟩ := inv.evicted bucket episode found other member
      refine ⟨located, ?_⟩
      intro ws reached
      simp only [stepRoom, Function.update_apply] at reached
      split at reached
      · rename_i same
        subst same
        rcases routed ws reached with before | admitted
        · exact deserted ws before
        · obtain ⟨home, there, owned⟩ := admitted_owned admitted
          rw [located] at there
          cases there
          exact inv.apart bucket ((OrderedMap.mem_iff _ _).mpr ⟨episode, found⟩) owned
      · exact deserted ws reached
  · have after : boxStep config box (.room name event) = box := by
      simp [boxStep, inside]
    rw [after]
    exact inv.later none_

theorem Resharding.step (inv : Resharding config past box) (event : BoxEvent) :
    Resharding config (past ++ [(box, event)]) (boxStep config box event) := by
  cases event with
  | poll now result => exact inv.polled now result
  | tick now => exact inv.ticked now
  | room name event => exact inv.entered name event

theorem Resharding.booted (config : BoxConfig) (now : Nat) (names : OrderedSet String)
    (earlier : String → List Event) :
    Resharding config [] (bootedBox config now names earlier) := by
  have fresh : ∀ bucket episode, (bootedBox config now names earlier).drain.draining.get? bucket ≠
      some episode := by
    intro bucket episode found
    simp [bootedBox, OrderedMap.empty, OrderedMap.get?] at found
  refine ⟨?_, ?_, rfl, ?_, ?_, fun bucket episode found => absurd found (fresh bucket episode),
    fun bucket episode found => absurd found (fresh bucket episode)⟩
  · intro name
    simp only [bootedBox]
    split
    · exact wired_restart now
    · exact Wired.initial _
  · intro name live
    simp only [bootedBox, OrderedSet.mem_addAll, OrderedSet.not_mem_empty, false_or,
      List.mem_filter] at live ⊢
    refine ⟨?_, live⟩
    by_contra unknown
    have unknown : name ∉ names := unknown
    rw [if_neg unknown] at live
    simp [initial] at live
  · intro bucket inside
    obtain ⟨episode, found⟩ := (OrderedMap.mem_iff _ _).mp inside
    exact absurd found (fresh bucket episode)
  · intro name ws routed
    simp only [bootedBox] at routed
    split at routed
    · exact absurd routed (restart_unroutable _ _ ws)
    · simp [initial, State.routable] at routed

/-- In every run of a relay, a tick closes only rooms of buckets that it gave up long enough
before and that have not come back; no bucket is owned and draining; and no room is left
with a routable socket in a bucket that is neither. -/
theorem reshard_safe (config : BoxConfig) (now : Nat) (names : OrderedSet String)
    (earlier : String → List Event) (events : List BoxEvent) :
    (∀ before met after, Machine.steps (boxStep config) (bootedBox config now names earlier) events =
        before ++ met :: after → ClosesRelinquished config before met) ∧
      (Machine.run (boxStep config) (bootedBox config now names earlier) events).apart ∧
      (Machine.run (boxStep config) (bootedBox config now names earlier) events).homed := by
  have start := Resharding.booted config now names earlier
  have reached : ∀ events, Resharding config
      (Machine.steps (boxStep config) (bootedBox config now names earlier) events)
      (Machine.run (boxStep config) (bootedBox config now names earlier) events) := by
    intro events
    have run := Machine.history_invariant (boxStep config) (Resharding config) (fun _ _ _ => True)
      (fun _ _ event inv _ => inv.step event) [] _ start events (fun _ _ _ _ => trivial)
    simpa using run
  refine ⟨?_, (reached events).apart, (reached events).homed⟩
  intro before met after split
  obtain ⟨lead, rest, _, rfl, state, _⟩ := Machine.steps_split _ _ _ _ _ _ split
  have inv := (reached lead).closes met.2
  rwa [← state] at inv

end Box
end Relay

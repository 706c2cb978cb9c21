import CompanionRelay.Reshard

/-!
The boxes of a fleet that read one shard map from a cache. A box starts with two poll intervals
between the loss of a bucket and the closing of its rooms, and that is enough: by then every box
whose polls come through on time holds the map by which the bucket was lost, or a newer one. On
time means with a slack that, put to the age of a cached text, is at most one poll interval. All
boxes read one clock.
-/

namespace Relay.Handover

section Boot

/-- SHARDMAP_POLL_INTERVAL_MS, RESHARD_DRAIN_DELAY_MS and RESHARD_EVICTION_RATE -/
def shardmapPollIntervalMs : Nat := 10000

def reshardDrainDelayMs : Nat := 20000

def reshardEvictionRate : Rat := 10

/-- What createRelay is given for sharding; an empty text is as good as none. -/
structure Options where
  shardMapUrl : String
  selfHost : String
  relayOrigin : String
  pollIntervalMs : Option Nat
  drainDelayMs : Option Nat
  evictionRate : Option Rat

inductive BootError
  | halfDistributed (hasUrl hasHost : Bool)
  | originMismatch (configured expected : String)
  | drainTooShort (drainMs pollMs : Nat)
  | rateNotPositive (rate : Rat)
  deriving DecidableEq

def resolveMode (options : Options) : Except BootError Mode :=
  let hasUrl := !options.shardMapUrl.isEmpty
  let hasHost := !options.selfHost.isEmpty
  if hasUrl && hasHost then .ok .distributed
  else if !hasUrl && !hasHost then .ok .direct
  else .error (.halfDistributed hasUrl hasHost)

def originForHost (host : String) : String := "https://" ++ host

def Options.pollMs (options : Options) : Nat := options.pollIntervalMs.getD shardmapPollIntervalMs

def Options.drainMs (options : Options) : Nat := options.drainDelayMs.getD reshardDrainDelayMs

def Options.rate (options : Options) : Rat := options.evictionRate.getD reshardEvictionRate

/-- The checks of createRelay, in its order. -/
def shardMode (options : Options) : Except BootError Mode :=
  match resolveMode options with
  | .error error => .error error
  | .ok .direct => .ok .direct
  | .ok .distributed =>
      if options.relayOrigin ≠ originForHost options.selfHost then
        .error (.originMismatch options.relayOrigin (originForHost options.selfHost))
      else if options.drainMs < 2 * options.pollMs then
        .error (.drainTooShort options.drainMs options.pollMs)
      else if options.rate ≤ 0 then .error (.rateNotPositive options.rate)
      else .ok .distributed

variable {options : Options}

theorem shardMode_distributed (boots : shardMode options = .ok .distributed) :
    options.relayOrigin = originForHost options.selfHost ∧
      2 * options.pollMs ≤ options.drainMs ∧ 0 < options.rate := by
  rw [shardMode] at boots
  cases resolved : resolveMode options with
  | error error => simp [resolved] at boots
  | ok mode =>
      cases mode with
      | direct => simp [resolved] at boots
      | distributed =>
          rw [resolved] at boots
          dsimp only at boots
          split at boots
          · cases boots
          · rename_i origin
            split at boots
            · cases boots
            · rename_i delay
              split at boots
              · cases boots
              · rename_i rate
                exact ⟨not_not.mp origin, not_lt.mp delay, not_le.mp rate⟩

end Boot

section Fleet
open Function (update)

/-- The boxes by their hosts, and the text that is published at each time. -/
structure Network where
  options : String → Options
  parse : String → Option Json
  env : String → String → Env
  bootMs : String → Nat
  names : String → OrderedSet String
  earlier : String → String → List Event
  published : Nat → String

variable (network : Network)

def Network.config (host : String) : BoxConfig where
  selfHost := (network.options host).selfHost
  drainDelayMs := (network.options host).drainMs
  evictionRate := (network.options host).rate
  parse := network.parse
  env := network.env host

/-- A poll that comes through has the text that was published at some time. -/
inductive FleetEvent
  | poll (host : String) (askedMs now : Nat) (served : Option Nat)
  | tick (host : String) (now : Nat)
  | room (host name : String) (event : Event)

def FleetEvent.host : FleetEvent → String
  | .poll host _ _ _ => host
  | .tick host _ => host
  | .room host _ _ => host

def FleetEvent.onBox (published : Nat → String) : FleetEvent → BoxEvent
  | .poll _ _ now served => .poll now (served.map published)
  | .tick _ now => .tick now
  | .room _ name event => .room name event

abbrev Fleet := String → Box

def Network.start : Fleet := fun host =>
  bootedBox (network.config host) (network.bootMs host) (network.names host) (network.earlier host)

def Network.step (fleet : Fleet) (event : FleetEvent) : Fleet :=
  update fleet event.host
    (boxStep (network.config event.host) (fleet event.host) (event.onBox network.published))

def Network.run (events : List FleetEvent) : Fleet := events.foldl network.step network.start

/-- What of the events is about the box of a host. -/
def Network.ofHost (host : String) (events : List FleetEvent) : List BoxEvent :=
  (events.filter (·.host = host)).map (·.onBox network.published)

end Fleet

section Timing

/-- Every published text is a valid map, and a later one is newer or is the same map. -/
structure Published (network : Network) (map : Nat → ShardMap) : Prop where
  valid : ∀ ms, fetchedMap network.parse (some (network.published ms)) = some (map ms)
  newer : ∀ first second, first ≤ second → (map first).version ≤ (map second).version
  same : ∀ first second, (map first).version = (map second).version → map first = map second

/-- A text is served for some time after it was replaced, and never before it was published. -/
def FleetEvent.Fresh (ttlMs : Nat) : FleetEvent → Prop
  | .poll _ askedMs now (some ms) => ms ≤ now ∧ askedMs ≤ ms + ttlMs
  | _ => True

def FleetEvent.time : FleetEvent → Option Nat
  | .poll _ _ now _ => some now
  | .tick _ now => some now
  | .room _ _ _ => none

/-- The clock does not go back. -/
def Clocked (events : List FleetEvent) : Prop :=
  events.Pairwise fun first second => ∀ before now, first.time = some before →
    second.time = some now → before ≤ now

/-- In every span of the length a poll that was asked for within it has come through, and the box
has taken it. -/
def Punctual (network : Network) (spanMs : Nat) (host : String) (events : List FleetEvent)
    (now : Nat) : Prop :=
  ∀ since, since + spanMs ≤ now → ∃ lead askedMs at_ ms,
    lead ++ [.poll host askedMs at_ (some ms)] <+: events ∧ since ≤ askedMs ∧
      (network.run lead host).rooms.settled = true

end Timing

section Boxes
variable {network : Network} {host : String} {events : List FleetEvent}

theorem run_host (events : List FleetEvent) : network.run events host =
    Machine.run (boxStep (network.config host)) (network.start host)
      (network.ofHost host events) := by
  induction events using List.reverseRecOn with
  | nil => rfl
  | append_singleton events event ih =>
      rw [Network.run, List.foldl_append, List.foldl_cons, List.foldl_nil]
      change network.step (network.run events) event host = _
      rw [Network.ofHost, List.filter_append, List.map_append, Machine.run_append]
      change _ = Machine.run _ (Machine.run _ _ (network.ofHost host events)) _
      rw [← ih, Network.step]
      by_cases here : event.host = host
      · subst here
        rw [Function.update_self, List.filter_cons_of_pos (by simp)]
        rfl
      · rw [Function.update_of_ne (Ne.symm here), List.filter_cons_of_neg (by simpa using here)]
        rfl

theorem mem_ofHost {event : BoxEvent} (member : event ∈ network.ofHost host events) :
    ∃ origin ∈ events, origin.host = host ∧ origin.onBox network.published = event := by
  obtain ⟨origin, kept, same⟩ := List.mem_map.mp member
  obtain ⟨inside, here⟩ := List.mem_filter.mp kept
  exact ⟨origin, inside, by simpa using here, same⟩

theorem ofHost_append (first second : List FleetEvent) : network.ofHost host (first ++ second) =
    network.ofHost host first ++ network.ofHost host second := by
  rw [Network.ofHost, List.filter_append, List.map_append]
  rfl

end Boxes

section Stores
variable {config : BoxConfig} {box : Box} {seen : List ShardMap}

/-- The map that a step of the box fetches. -/
def heard (config : BoxConfig) (met : Box × BoxEvent) : Option ShardMap :=
  match met.2 with
  | .poll _ result => if met.1.rooms.settled then fetchedMap config.parse result else none
  | _ => none

theorem step_converged (converged : Converged config.selfHost seen box.store) (event : BoxEvent) :
    Converged config.selfHost (seen ++ (heard config (box, event)).toList)
      (boxStep config box event).store := by
  have idle : Converged config.selfHost (seen ++ (none : Option ShardMap).toList) box.store := by
    rwa [Option.toList_none, List.append_nil]
  cases event with
  | poll now result =>
      cases settled : box.rooms.settled with
      | true =>
          simp only [heard, boxStep, settled, if_true]
          exact converged.polled config.parse result
      | false => simpa [heard, boxStep, settled] using idle
  | tick now =>
      have same : (boxStep config box (.tick now)).store = box.store := by
        rw [boxStep]
        split <;> rfl
      rw [same]
      exact idle
  | room name event =>
      have same : (boxStep config box (.room name event)).store = box.store := by
        rw [boxStep]
        split <;> rfl
      rw [same]
      exact idle

theorem box_converged (config : BoxConfig) (now : Nat) (names : OrderedSet String)
    (earlier : String → List Event) (events : List BoxEvent) :
    Converged config.selfHost
      ((Machine.steps (boxStep config) (bootedBox config now names earlier) events).filterMap
        (heard config))
      (Machine.run (boxStep config) (bootedBox config now names earlier) events).store := by
  induction events using List.reverseRecOn with
  | nil => exact Converged.booted config.selfHost
  | append_singleton events event ih =>
      rw [Machine.steps_append, Machine.run_append, List.filterMap_append]
      have last : (Machine.steps (boxStep config) (Machine.run (boxStep config)
          (bootedBox config now names earlier) events) [event]).filterMap (heard config) =
            (heard config (Machine.run (boxStep config) (bootedBox config now names earlier) events,
              event)).toList := by
        rw [Machine.steps_cons, Machine.steps_nil]
        cases found : heard config (Machine.run (boxStep config)
          (bootedBox config now names earlier) events, event) <;> simp [found]
      rw [last]
      exact step_converged ih event

theorem box_resharding (config : BoxConfig) (now : Nat) (names : OrderedSet String)
    (earlier : String → List Event) (events : List BoxEvent) :
    Resharding config (Machine.steps (boxStep config) (bootedBox config now names earlier) events)
      (Machine.run (boxStep config) (bootedBox config now names earlier) events) := by
  have run := Machine.history_invariant (boxStep config) (Resharding config) (fun _ _ _ => True)
    (fun _ _ event inv _ => inv.step event) [] _ (Resharding.booted config now names earlier) events
    (fun _ _ _ _ => trivial)
  rwa [List.nil_append] at run

theorem owned_of_host {map : ShardMap} {host : String} {bucket : Int}
    (owner : hostForBucket map bucket = some host) : bucket ∈ ownedBuckets map host := by
  rw [hostForBucket] at owner
  split at owner
  · cases owner
  · obtain ⟨range, found, same⟩ := Option.map_eq_some_iff.mp owner
    exact mem_ownedBuckets.mpr ⟨range, List.mem_of_find?_eq_some found, same,
      by simpa using List.find?_some found⟩

theorem gate_admits {map : ShardMap} {name : String} {bucket : Int}
    (converged : Converged config.selfHost seen box.store) (held : box.store.map = some map)
    (located : bucketForRoomName name = some bucket)
    (owner : hostForBucket map bucket = some config.selfHost) : ownershipGate box name = true := by
  have owned : bucket ∈ box.store.owned := by
    rw [converged.owned, held]
    exact owned_of_host owner
  simp [ownershipGate, ownershipDecision, located, ShardMapStore.ownsBucket, owned,
    Decision.admitted]

end Stores

section Handed
variable {network : Network} {map : Nat → ShardMap} {events : List FleetEvent} {ttlMs : Nat}

theorem given_published (published : Published network map)
    (fresh : ∀ event ∈ events, event.Fresh ttlMs) {host : String} {since : Nat} {bucket : Int}
    (given : RelinquishedSince (network.config host) (Machine.steps (boxStep (network.config host))
      (network.start host) (network.ofHost host events)) since bucket) :
    ∃ ms ≤ since, hostForBucket (map ms) bucket ≠ some (network.options host).selfHost := by
  obtain ⟨before, met, after, split, ⟨diff, adopted, lost⟩, _⟩ := given
  obtain ⟨lead, rest, whole, _, state, _⟩ := Machine.steps_split _ _ _ _ _ _ split
  have member : met.2 ∈ network.ofHost host events := by
    rw [whole]
    simp
  obtain ⟨origin, inside, _, same⟩ := mem_ofHost member
  have identity := (box_converged (network.config host) (network.bootMs host) (network.names host)
    (network.earlier host) lead).identity
  rw [← same] at adopted
  cases origin with
  | poll other askedMs now served =>
      simp only [FleetEvent.onBox, adoption, Option.ite_none_right_eq_some,
        Option.map_eq_some_iff, Prod.mk.injEq] at adopted
      obtain ⟨_, found, taken, rfl, rfl⟩ := adopted
      cases served with
      | none => cases taken
      | some ms =>
          refine ⟨ms, (fresh _ inside).1, fun owner => ?_⟩
          have valid := published.valid ms
          rcases fetchOnce_cases (network.config host).parse met.1.store
            (some (network.published ms)) with ⟨_, quiet, _⟩ | ⟨other, fetched, _, _, diff⟩
          · cases quiet.symm.trans taken
          · cases valid.symm.trans fetched
            cases diff.symm.trans taken
            have self : met.1.store.selfHost = (network.options host).selfHost :=
              (congrArg (·.store.selfHost) state).trans identity
            rw [self] at lost
            exact (mem_relinquished.mp lost).2 (owned_of_host owner)
  | tick host now => cases adopted
  | room host name event => cases adopted

theorem heard_published (published : Published network map)
    (fresh : ∀ event ∈ events, event.Fresh ttlMs) {host : String} {now : Nat}
    (times : ∀ event ∈ events, ∀ time, event.time = some time → time ≤ now) {found : ShardMap}
    (member : found ∈ (Machine.steps (boxStep (network.config host)) (network.start host)
      (network.ofHost host events)).filterMap (heard (network.config host))) :
    ∃ ms ≤ now, found = map ms := by
  obtain ⟨met, stepped, fetched⟩ := List.mem_filterMap.mp member
  obtain ⟨lead, rest, whole, _⟩ := Machine.steps_mem _ _ _ _ stepped
  have inside : met.2 ∈ network.ofHost host events := by
    rw [whole]
    simp
  obtain ⟨origin, inside, _, same⟩ := mem_ofHost inside
  rw [heard, ← same] at fetched
  cases origin with
  | poll host askedMs at_ served =>
      obtain ⟨_, fetched⟩ := Option.ite_none_right_eq_some.mp fetched
      cases served with
      | none => cases fetched
      | some ms =>
          have valid := published.valid ms
          rw [Option.map_some] at fetched
          refine ⟨ms, (fresh _ inside).1.trans (times _ inside at_ rfl), ?_⟩
          exact Option.some.inj (fetched.symm.trans valid)
  | tick host now => cases fetched
  | room host name event => cases fetched

-- A punctual box holds a map that was published since a time, if that is a span and the time to
-- live ago.
theorem punctual_holds (published : Published network map)
    (fresh : ∀ event ∈ events, event.Fresh ttlMs) {host : String} {spanMs now : Nat}
    (punctual : Punctual network spanMs host events now) (given : Nat) (due : given + ttlMs + spanMs ≤ now)
    (times : ∀ event ∈ events, ∀ time, event.time = some time → time ≤ now) :
    ∃ ms, given ≤ ms ∧ ms ≤ now ∧ (network.run events host).store.map = some (map ms) := by
  obtain ⟨lead, askedMs, at_, served, ⟨rest, whole⟩, asked, settled⟩ := punctual _ due
  have inside : .poll host askedMs at_ (some served) ∈ events := by
    rw [← whole]
    simp
  have recent : served ≤ at_ ∧ askedMs ≤ served + ttlMs := fresh _ inside
  have past := times _ inside at_ rfl
  -- The poll is a step of the box, so its map is among those that the box has fetched.
  have fetched : map served ∈ (Machine.steps (boxStep (network.config host)) (network.start host)
      (network.ofHost host events)).filterMap (heard (network.config host)) := by
    rw [← whole, ofHost_append, ofHost_append, List.append_assoc, Machine.steps_append,
      ← run_host, List.filterMap_append]
    have here : network.ofHost host [.poll host askedMs at_ (some served)] =
        [.poll at_ (some (network.published served))] := by
      simp [Network.ofHost, FleetEvent.host, FleetEvent.onBox]
    have found : heard (network.config host)
        (network.run lead host, .poll at_ (some (network.published served))) = some (map served) := by
      simp only [heard, settled, if_true]
      exact published.valid served
    rw [here, List.singleton_append, Machine.steps_cons, List.filterMap_cons_some found]
    simp
  have converged := box_converged (network.config host) (network.bootMs host) (network.names host)
    (network.earlier host) (network.ofHost host events)
  rw [run_host]
  cases held : (Machine.run (boxStep (network.config host)) (network.start host)
      (network.ofHost host events)).store.map with
  | none =>
      have empty := List.argmax_eq_none.mp (converged.map.symm.trans held)
      exact absurd (empty ▸ fetched) List.not_mem_nil
  | some top =>
      have highest := converged.map.symm.trans held
      obtain ⟨ms, before, rfl⟩ := heard_published published fresh times (List.argmax_mem highest)
      have above := List.le_of_mem_argmax fetched highest
      rcases le_or_gt given ms with since | earlier
      · exact ⟨ms, since, before, rfl⟩
      -- An older text with no older version is the same map.
      · have below := published.newer ms served (by omega)
        refine ⟨served, by omega, by omega, ?_⟩
        rw [published.same ms served (le_antisymm below above)]

/-- Every room that a box closes because of the map is in a bucket that it lost at least two poll
intervals after the map was published; and every punctual box to which the maps since then have
given the bucket is letting its rooms in. -/
theorem handed_over (network : Network) (map : Nat → ShardMap) (published : Published network map)
    (lead : List FleetEvent) (host : String) (now ttlMs slackMs : Nat)
    (booted : shardMode (network.options host) = .ok .distributed)
    (margin : ttlMs + slackMs ≤ (network.options host).pollMs)
    (clocked : Clocked (lead ++ [.tick host now])) (fresh : ∀ event ∈ lead, event.Fresh ttlMs) :
    ∀ name ∈ closedRooms (network.config host) (network.run lead host) (.tick now),
      ∃ bucket given, bucketForRoomName name = some bucket ∧
        given + 2 * (network.options host).pollMs ≤ now ∧
        hostForBucket (map given) bucket ≠ some (network.options host).selfHost ∧
        ownershipGate (network.run lead host) name = false ∧
        ∀ gaining, Punctual network ((network.options host).pollMs + slackMs) gaining lead now →
          (∀ ms, given ≤ ms → ms ≤ now →
            hostForBucket (map ms) bucket = some (network.options gaining).selfHost) →
          ownershipGate (network.run lead gaining) name = true := by
  intro name closed
  have times : ∀ event ∈ lead, ∀ time, event.time = some time → time ≤ now := by
    intro event member time at_
    exact (List.pairwise_append.mp clocked).2.2 event member _ (List.mem_singleton_self _) time now
      at_ rfl
  have resharding := box_resharding (network.config host) (network.bootMs host)
    (network.names host) (network.earlier host) (network.ofHost host lead)
  rw [run_host] at closed ⊢
  obtain ⟨bucket, since, located, unowned, given, due⟩ := resharding.closes (.tick now) now rfl name closed
  obtain ⟨ms, before, elsewhere⟩ := given_published published fresh given
  have delay := (shardMode_distributed booted).2.1
  have due : since + (network.options host).drainMs ≤ now := due
  refine ⟨bucket, ms, located, by omega, elsewhere, ?_, ?_⟩
  · rw [Bool.eq_false_iff]
    intro admitted
    obtain ⟨home, there, owned⟩ := admitted_owned admitted
    rw [located] at there
    cases there
    exact unowned owned
  · intro gaining punctual owners
    obtain ⟨held, later, earlier, store⟩ := punctual_holds published fresh punctual ms (by omega) times
    rw [run_host] at store ⊢
    have converged := box_converged (network.config gaining) (network.bootMs gaining)
      (network.names gaining) (network.earlier gaining) (network.ofHost gaining lead)
    exact gate_admits converged store located (owners held later earlier)

end Handed

section Sample

/-- relay1 has the first bucket, and loses it. -/
def movingMap (host : String) (version : Int) : ShardMap :=
  ⟨version, [⟨0, 0, host⟩, ⟨1, 65535, "relay2"⟩]⟩

def movingJson (host : String) (version : Int) : Json :=
  .obj [("version", .num version), ("ranges", .arr
    [.obj [("low", .num 0), ("high", .num 0), ("host", .str host)],
      .obj [("low", .num 1), ("high", .num 65535), ("host", .str "relay2")]])]

def moving : Network where
  options host :=
    { shardMapUrl := "https://resolver/shardmap.json"
      selfHost := host
      relayOrigin := "https://" ++ host
      pollIntervalMs := none
      drainDelayMs := none
      evictionRate := none }
  parse text :=
    if text = "old" then some (movingJson "relay1" 1)
    else if text = "new" then some (movingJson "relay2" 2)
    else none
  env _ _ := sampleEnv false
  bootMs _ := 0
  names _ := .empty
  earlier _ _ := []
  published ms := if ms < 10000 then "old" else "new"

def movingRoom : String := "0000000000000000000000000000000000000000000000000000000000000000"

def moved : List FleetEvent :=
  [.poll "relay1" 0 0 (some 0), .poll "relay2" 0 0 (some 0),
    .room "relay1" movingRoom (.get 1), .room "relay1" movingRoom (.connect 1 1),
    .room "relay1" movingRoom (.resume 1 0 [] none),
    .poll "relay1" 20000 20000 (some 20000), .poll "relay2" 25000 25000 (some 25000)]

def movingAt (ms : Nat) : ShardMap := if ms < 10000 then movingMap "relay1" 1 else movingMap "relay2" 2

theorem moving_published : Published moving movingAt where
  valid ms := by
    by_cases early : ms < 10000
    · have text : moving.published ms = "old" := if_pos early
      rw [text, movingAt, if_pos early]
      decide +kernel
    · have text : moving.published ms = "new" := if_neg early
      rw [text, movingAt, if_neg early]
      decide +kernel
  newer first second ordered := by
    rw [movingAt, movingAt]
    split <;> split <;> first | omega | decide
  same first second versions := by
    by_cases early : first < 10000 <;> by_cases late : second < 10000 <;>
      simp [movingAt, movingMap, early, late] at versions ⊢

/-- relay1 closes the room when it has been without its bucket for 20 seconds, and relay2 has
polled 15 seconds before. -/
theorem room_handed_over :
    movingRoom ∈ closedRooms (moving.config "relay1") (moving.run moved "relay1") (.tick 40000) ∧
      ownershipGate (moving.run moved "relay1") movingRoom = false ∧
      ownershipGate (moving.run moved "relay2") movingRoom = true := by
  have closed : movingRoom ∈
      closedRooms (moving.config "relay1") (moving.run moved "relay1") (.tick 40000) := by
    rw [run_host]
    decide +kernel
  have clocked : Clocked (moved ++ [.tick "relay1" 40000]) := by
    simp [Clocked, moved, FleetEvent.time]
  have fresh : ∀ event ∈ moved, event.Fresh 5000 := by
    simp [moved, FleetEvent.Fresh]
  have punctual : Punctual moving 15000 "relay2" moved 40000 := by
    intro since due
    refine ⟨moved.dropLast, 25000, 25000, 25000, List.prefix_refl _, by omega, ?_⟩
    rw [run_host]
    decide +kernel
  obtain ⟨bucket, given, located, _, lost, refused, admitted⟩ := handed_over moving movingAt
    moving_published moved "relay1" 40000 5000 5000 rfl (by decide) clocked fresh movingRoom closed
  have first : bucket = 0 := by
    have here : bucketForRoomName movingRoom = some 0 := by decide +kernel
    exact Option.some.inj (located.symm.trans here)
  subst first
  refine ⟨closed, refused, admitted "relay2" punctual ?_⟩
  intro ms since _
  have late : ¬ given < 10000 := by
    intro early
    rw [movingAt, if_pos early] at lost
    exact lost (by decide +kernel)
  rw [movingAt, if_neg (by omega)]
  decide +kernel

end Sample

end Relay.Handover

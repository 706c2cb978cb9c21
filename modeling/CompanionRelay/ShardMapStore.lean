import Mathlib.Data.Int.ConditionallyCompleteOrder
import Mathlib.Data.List.MinMax
import Mathlib.Order.ConditionallyCompleteLattice.Basic
import CompanionRelay.Machine
import CompanionRelay.OneOwner

/-!
src/sharding/shardMapStore.js and one completed fetch of shardMapPoller.js. The polls of a
relay may overlap; the store changes only where a fetch completes, so a run is the list of
results in the order in which they arrive. The store then holds the argmax of what it has
seen, and its owned set is a function of the map it holds.
-/

namespace Relay

structure ShardMapStore where
  selfHost : String
  map : Option ShardMap := none
  owned : OrderedSet Int := OrderedSet.empty

namespace ShardMapStore

def version (store : ShardMapStore) : Int :=
  match store.map with
  | none => -1
  | some map => map.version

def ownsBucket (store : ShardMapStore) (bucket : Int) : Bool := bucket ∈ store.owned

/-- applyFetched: the next store, and the diff of an adopted map. -/
def applyFetched (store : ShardMapStore) (map : ShardMap) : ShardMapStore × Option OwnedDiff :=
  let adopted : ShardMapStore × Option OwnedDiff :=
    ({ store with map := some map, owned := ownedBuckets map store.selfHost },
      some (diffOwned store.owned (ownedBuckets map store.selfHost)))
  match store.map with
  | none => adopted
  | some held => if map.version ≤ held.version then (store, none) else adopted

end ShardMapStore

/-- What fetchOnce returns. -/
inductive Poll
  | failed
  | invalid (error : ShardMapError)
  | ok (diff : Option OwnedDiff) (version : Int)

/-- The diff with which fetchOnce calls onAdopt. -/
def Poll.diff : Poll → Option OwnedDiff
  | .ok diff _ => diff
  | _ => none

section Fetch
variable (parse : String → Option Json)

/-- The map of a fetched text, if it parses and validates. -/
def acceptedMap (text : String) : Except ShardMapError ShardMap :=
  match parseShardMap parse text with
  | .error error => .error error
  | .ok map =>
      match validateShardMap map with
      | .error error => .error error
      | .ok () => .ok map

/-- ShardMapPoller.fetchOnce from the moment its fetch is over; `none` is a failed fetch. -/
def fetchOnce (store : ShardMapStore) : Option String → ShardMapStore × Poll
  | none => (store, .failed)
  | some text =>
      match acceptedMap parse text with
      | .error error => (store, .invalid error)
      | .ok map => ((store.applyFetched map).1, .ok (store.applyFetched map).2 map.version)

def poll (store : ShardMapStore) (result : Option String) : ShardMapStore :=
  (fetchOnce parse store result).1

/-- The valid map of a result, if there is one. -/
def fetchedMap (result : Option String) : Option ShardMap :=
  match result with
  | none => none
  | some text => (acceptedMap parse text).toOption

def booted (selfHost : String) : ShardMapStore := { selfHost := selfHost }

def polled (selfHost : String) (results : List (Option String)) : ShardMapStore :=
  Machine.run (poll parse) (booted selfHost) results

/-- The diffs that onAdopt is called with, in order. -/
def adoptions (selfHost : String) (results : List (Option String)) : List OwnedDiff :=
  (Machine.steps (poll parse) (booted selfHost) results).filterMap
    fun met => (fetchOnce parse met.1 met.2).2.diff

end Fetch

/-- A set after one diff. -/
def OwnedDiff.apply (diff : OwnedDiff) (set : OrderedSet Int) : OrderedSet Int :=
  OrderedSet.empty.addAll (set.items.filter (· ∉ diff.relinquished) ++ diff.acquired.items)

section Diff
variable {old new : OrderedSet Int} {bucket : Int}

theorem mem_acquired : bucket ∈ (diffOwned old new).acquired ↔ bucket ∈ new ∧ bucket ∉ old := by
  simp only [diffOwned, OrderedSet.mem_addAll, OrderedSet.not_mem_empty, false_or,
    List.mem_filter, decide_eq_true_eq]
  exact Iff.rfl

theorem mem_relinquished :
    bucket ∈ (diffOwned old new).relinquished ↔ bucket ∈ old ∧ bucket ∉ new := by
  simp only [diffOwned, OrderedSet.mem_addAll, OrderedSet.not_mem_empty, false_or,
    List.mem_filter, decide_eq_true_eq]
  exact Iff.rfl

theorem mem_apply {diff : OwnedDiff} : bucket ∈ diff.apply old ↔
    (bucket ∈ old ∧ bucket ∉ diff.relinquished) ∨ bucket ∈ diff.acquired := by
  simp only [OwnedDiff.apply, OrderedSet.mem_addAll, OrderedSet.not_mem_empty, false_or,
    List.mem_append, List.mem_filter, decide_eq_true_eq]
  exact Iff.rfl

-- A diff takes every set with the old members to the new members.
theorem diff_applied {set : OrderedSet Int} (same : ∀ bucket, bucket ∈ set ↔ bucket ∈ old)
    (bucket : Int) : bucket ∈ (diffOwned old new).apply set ↔ bucket ∈ new := by
  rw [mem_apply, mem_acquired, mem_relinquished, same]
  by_cases before : bucket ∈ old <;> by_cases after : bucket ∈ new <;> simp [before, after]

end Diff

section Poll
variable {parse : String → Option Json} {store : ShardMapStore} {result : Option String}

theorem fetched_valid {map : ShardMap} (fetched : fetchedMap parse result = some map) :
    validateShardMap map = .ok () := by
  cases result with
  | none => simp [fetchedMap] at fetched
  | some text =>
      simp only [fetchedMap, acceptedMap] at fetched
      cases parsed : parseShardMap parse text with
      | error error => simp [parsed, Except.toOption] at fetched
      | ok found =>
          cases valid : validateShardMap found with
          | error error => simp [parsed, valid, Except.toOption] at fetched
          | ok accepted =>
              obtain rfl : found = map := by simpa [parsed, valid, Except.toOption] using fetched
              exact valid

theorem fetched_version {map : ShardMap} (fetched : fetchedMap parse result = some map) :
    0 ≤ map.version :=
  (valid_iff.mp (fetched_valid fetched)).1

theorem fetchOnce_cases (parse : String → Option Json) (store : ShardMapStore)
    (result : Option String) :
    ((fetchOnce parse store result).1 = store ∧ (fetchOnce parse store result).2.diff = none ∧
      ∀ map, fetchedMap parse result = some map →
        ∃ held, store.map = some held ∧ map.version ≤ held.version) ∨
    ∃ map, fetchedMap parse result = some map ∧
      (∀ held, store.map = some held → held.version < map.version) ∧
      (fetchOnce parse store result).1 =
        { store with map := some map, owned := ownedBuckets map store.selfHost } ∧
      (fetchOnce parse store result).2.diff =
        some (diffOwned store.owned (ownedBuckets map store.selfHost)) := by
  cases result with
  | none => exact .inl ⟨rfl, rfl, by simp [fetchedMap]⟩
  | some text =>
      simp only [fetchOnce, fetchedMap]
      cases acceptedMap parse text with
      | error error => exact .inl ⟨rfl, rfl, by simp [Except.toOption]⟩
      | ok map =>
          simp only [Except.toOption, ShardMapStore.applyFetched, Poll.diff]
          cases held : store.map with
          | none => exact .inr ⟨map, rfl, by simp, rfl, rfl⟩
          | some current =>
              by_cases stale : map.version ≤ current.version
              · simp only [stale, if_true, true_and]
                left
                rintro found ⟨⟩
                exact ⟨current, rfl, stale⟩
              · simp only [stale, if_false]
                right
                refine ⟨map, rfl, ?_, rfl, rfl⟩
                rintro found ⟨⟩
                omega

theorem poll_unchanged (nothing : fetchedMap parse result = none) :
    (fetchOnce parse store result).1 = store := by
  rcases fetchOnce_cases parse store result with ⟨same, _, _⟩ | ⟨map, fetched, _⟩
  · exact same
  · rw [nothing] at fetched
    cases fetched

theorem poll_version :
    store.version ≤ (poll parse store result).version ∧
      ((fetchOnce parse store result).2.diff ≠ none →
        store.version < (poll parse store result).version) := by
  rcases fetchOnce_cases parse store result with ⟨same, quiet, _⟩ | ⟨map, fetched, newer, same, _⟩
  · simp [poll, same, quiet]
  · have above := fetched_version fetched
    have grows : store.version < map.version := by
      unfold ShardMapStore.version
      cases held : store.map with
      | none => simp only; omega
      | some current => exact newer current held
    have after : (poll parse store result).version = map.version := by
      simp [poll, same, ShardMapStore.version]
    rw [after]
    exact ⟨grows.le, fun _ => grows⟩

end Poll

section Run
variable (parse : String → Option Json)

def fetchedMaps (results : List (Option String)) : List ShardMap :=
  results.filterMap (fetchedMap parse)

/-- The store is what the maps seen so far make it. -/
structure Converged (selfHost : String) (seen : List ShardMap) (store : ShardMapStore) : Prop where
  identity : store.selfHost = selfHost
  map : store.map = seen.argmax ShardMap.version
  owned : store.owned = match store.map with
    | none => OrderedSet.empty
    | some map => ownedBuckets map selfHost

theorem Converged.booted (selfHost : String) : Converged selfHost [] (Relay.booted selfHost) :=
  ⟨rfl, rfl, rfl⟩

theorem Converged.polled {selfHost : String} {seen : List ShardMap} {store : ShardMapStore}
    (converged : Converged selfHost seen store) (result : Option String) :
    Converged selfHost (seen ++ (fetchedMap parse result).toList) (poll parse store result) := by
  rcases fetchOnce_cases parse store result with ⟨same, _, stale⟩ | ⟨map, fetched, newer, same, _⟩
  · have kept : (seen ++ (fetchedMap parse result).toList).argmax ShardMap.version =
        seen.argmax ShardMap.version := by
      cases fetched : fetchedMap parse result with
      | none => simp
      | some map =>
          obtain ⟨held, found, older⟩ := stale map fetched
          rw [converged.map] at found
          rw [Option.toList_some, List.argmax_concat, found]
          simp only
          rw [if_neg (not_lt.mpr older)]
    rw [poll, same]
    exact { converged with map := converged.map.trans kept.symm }
  · have adopts : (seen ++ (fetchedMap parse result).toList).argmax ShardMap.version = some map := by
      rw [fetched, Option.toList_some, List.argmax_concat, ← converged.map]
      cases held : store.map with
      | none => rfl
      | some current =>
          simp only
          rw [if_pos (newer current held)]
    rw [poll, same]
    exact ⟨converged.identity, adopts.symm, by simp only [converged.identity]⟩

theorem run_converged {selfHost : String} {seen : List ShardMap} {store : ShardMapStore}
    (converged : Converged selfHost seen store) (results : List (Option String)) :
    Converged selfHost (seen ++ fetchedMaps parse results)
      (Machine.run (poll parse) store results) := by
  induction results generalizing seen store with
  | nil => simpa [fetchedMaps] using converged
  | cons result rest ih =>
      have later := ih (converged.polled parse result)
      have split : fetchedMaps parse (result :: rest) =
          (fetchedMap parse result).toList ++ fetchedMaps parse rest := by
        cases fetched : fetchedMap parse result <;> simp [fetchedMaps, fetched]
      rw [split, ← List.append_assoc]
      exact later

theorem polled_converged (selfHost : String) (results : List (Option String)) :
    Converged selfHost (fetchedMaps parse results) (polled parse selfHost results) :=
  run_converged parse (Converged.booted selfHost) results

-- From any store: a set with its owned buckets, after the diffs of a run, has the owned
-- buckets of its end.
theorem run_diffs (store : ShardMapStore) (results : List (Option String)) (set : OrderedSet Int)
    (same : ∀ bucket, bucket ∈ set ↔ bucket ∈ store.owned) (bucket : Int) :
    bucket ∈ ((Machine.steps (poll parse) store results).filterMap
        fun met => (fetchOnce parse met.1 met.2).2.diff).foldl (fun set diff => diff.apply set) set ↔
      bucket ∈ (Machine.run (poll parse) store results).owned := by
  induction results generalizing store set with
  | nil => exact same bucket
  | cons result rest ih =>
      simp only [Machine.steps_cons, Machine.run_cons, List.filterMap_cons]
      rcases fetchOnce_cases parse store result with ⟨kept, quiet, _⟩ | ⟨map, _, _, adopted, diff⟩
      · have here : poll parse store result = store := kept
        rw [quiet, here]
        exact ih store set same
      · have here : (poll parse store result).owned = ownedBuckets map store.selfHost := by
          rw [poll, adopted]
        rw [diff]
        simp only [List.foldl_cons]
        apply ih
        intro other
        rw [here]
        exact diff_applied same other

/-- The claims about one run: versions, the held map, the owned set and the diffs. -/
structure Convergence (selfHost : String) (results : List (Option String)) : Prop where
  versions : ∀ met ∈ Machine.steps (poll parse) (Relay.booted selfHost) results,
    met.1.version ≤ (poll parse met.1 met.2).version ∧
      ((fetchOnce parse met.1 met.2).2.diff ≠ none →
        met.1.version < (poll parse met.1 met.2).version)
  held : (polled parse selfHost results).map = (fetchedMaps parse results).argmax ShardMap.version
  owned : ∀ bucket, bucket ∈ (polled parse selfHost results).owned ↔
    ∃ map, (polled parse selfHost results).map = some map ∧
      ∃ range ∈ map.ranges, range.host = selfHost ∧ range.covers bucket = true
  diffs : ∀ bucket, bucket ∈ (adoptions parse selfHost results).foldl
      (fun set diff => diff.apply set) OrderedSet.empty ↔
    bucket ∈ (polled parse selfHost results).owned

theorem convergence (selfHost : String) (results : List (Option String)) :
    Convergence parse selfHost results where
  versions := fun _ _ => poll_version
  held := (polled_converged parse selfHost results).map
  owned := by
    intro bucket
    rw [(polled_converged parse selfHost results).owned]
    cases held : (polled parse selfHost results).map with
    | none => simp
    | some map => simp [mem_ownedBuckets]
  diffs := run_diffs parse (Relay.booted selfHost) results OrderedSet.empty (by simp [Relay.booted])

theorem argmax_unique {maps others : List ShardMap} (same : ∀ map, map ∈ maps ↔ map ∈ others)
    (distinct : ∀ first ∈ maps, ∀ second ∈ maps, first.version = second.version → first = second) :
    maps.argmax ShardMap.version = others.argmax ShardMap.version := by
  cases highest : maps.argmax ShardMap.version with
  | none =>
      have empty := List.argmax_eq_none.mp highest
      symm
      rw [List.argmax_eq_none, List.eq_nil_iff_forall_not_mem]
      intro map member
      have inside := (same map).mpr member
      simp [empty] at inside
  | some map =>
      have member := List.argmax_mem highest
      cases highest' : others.argmax ShardMap.version with
      | none =>
          have inside := (same map).mp member
          simp [List.argmax_eq_none.mp highest'] at inside
      | some other =>
          have member' := (same other).mpr (List.argmax_mem highest')
          have below := List.le_of_mem_argmax member' highest
          have above := List.le_of_mem_argmax ((same map).mp member) highest'
          rw [distinct map member other member' (le_antisymm above below)]

/-- A failed or invalid fetch changes nothing; a run converges; and two runs that have seen
the same maps of distinct versions end in the same store. -/
theorem shard_map_converges (selfHost : String) :
    (∀ store result, fetchedMap parse result = none → (fetchOnce parse store result).1 = store) ∧
    (∀ results, Convergence parse selfHost results) ∧
    ∀ results results',
      (∀ map, map ∈ fetchedMaps parse results ↔ map ∈ fetchedMaps parse results') →
      (∀ first ∈ fetchedMaps parse results, ∀ second ∈ fetchedMaps parse results,
        first.version = second.version → first = second) →
      (polled parse selfHost results).map = (polled parse selfHost results').map ∧
        (polled parse selfHost results).owned = (polled parse selfHost results').owned := by
  refine ⟨fun _ _ => poll_unchanged, convergence parse selfHost, ?_⟩
  intro results results' same distinct
  have first := polled_converged parse selfHost results
  have second := polled_converged parse selfHost results'
  have maps : (polled parse selfHost results).map = (polled parse selfHost results').map := by
    rw [first.map, second.map]
    exact argmax_unique same distinct
  refine ⟨maps, ?_⟩
  rw [first.owned, second.owned, maps]

def wholeSpace (version : Int) (host : String) : ShardMap := ⟨version, [⟨0, 65535, host⟩]⟩

/-- JSON.parse on the texts of two maps. -/
def parsePublished (text : String) : Option Json :=
  let written (version : Rat) (host : String) : Json :=
    .obj [("version", .num version),
      ("ranges", .arr [.obj [("low", .num 0), ("high", .num 65535), ("host", .str host)]])]
  if text = "older" then some (written 1 "relay1")
  else if text = "newer" then some (written 2 "relay2")
  else none

/-- Two maps with a failed fetch between them; and the other way round, with a text that is no
map. -/
theorem shard_map_converges_reordered :
    (polled parsePublished "relay1" [some "older", none, some "newer"]).map =
        (polled parsePublished "relay1" [some "newer", some "page", some "older"]).map ∧
      (polled parsePublished "relay1" [some "older", none, some "newer"]).owned =
        (polled parsePublished "relay1" [some "newer", some "page", some "older"]).owned := by
  have older : fetchedMap parsePublished (some "older") = some (wholeSpace 1 "relay1") := by
    decide +kernel
  have newer : fetchedMap parsePublished (some "newer") = some (wholeSpace 2 "relay2") := by
    decide +kernel
  have page : fetchedMap parsePublished (some "page") = none := by decide +kernel
  have failed : fetchedMap parsePublished none = none := rfl
  have first : fetchedMaps parsePublished [some "older", none, some "newer"] =
      [wholeSpace 1 "relay1", wholeSpace 2 "relay2"] := by
    simp [fetchedMaps, older, newer, failed]
  have second : fetchedMaps parsePublished [some "newer", some "page", some "older"] =
      [wholeSpace 2 "relay2", wholeSpace 1 "relay1"] := by
    simp [fetchedMaps, older, newer, page]
  apply (shard_map_converges parsePublished "relay1").2.2
  · simp [first, second, or_comm]
  · simp [first, wholeSpace]

end Run

end Relay

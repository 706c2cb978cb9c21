import CompanionRelay.MonitorRun

/-!
The shard map as the monitor and as the relays take it. The relays refuse a document that
parseShardMap or validateShardMap rejects; run() takes whatever JSON.parse returns. The
theorem says for which answers of the map's address the two agree that the map has failed.
-/

namespace Relay.Monitor.Fleet

/-- The document of an answer, none for one that fetchMap throws on. -/
def fetchMap (parse : String → Option Json) (answer : Option String) : Option Json :=
  answer.bind parse

/-- A relay or a client can adopt the text. -/
def Adoptable (parse : String → Option Json) (text : String) : Prop :=
  ∃ map, parseShardMap parse text = .ok map ∧ validateShardMap map = .ok ()

/-- A tick that treats the map as failed. -/
structure TreatsAsFailed (state : State) (outcome : Outcome) : Prop where
  error : outcome.mapError = true
  streak : outcome.state.mapFailStreak = state.mapFailStreak + 1
  hosts : outcome.hosts = state.hosts.keys
  kept : ∀ host, (state.hosts.get? host).isSome → (outcome.state.hosts.get? host).isSome

def MapFails (tick : Tick) (state : State) : Prop :=
  ∃ outcome, run tick state = some outcome ∧ TreatsAsFailed state outcome

section Agreement
variable {parse : String → Option Json} {text : String} {tick : Tick} {state : State}

theorem mem_keys_iff {Value : Type} (object : Object Value) (key : String) :
    key ∈ object.keys ↔ (object.get? key).isSome := by
  rw [Option.isSome_iff_exists]
  exact OrderedMap.mem_iff object.entries key

theorem map_eq_none (failed : tick.mapError = true) : tick.map = none := by
  rw [Tick.mapError, Bool.and_eq_true, Option.isNone_iff_eq_none] at failed
  rw [Tick.map, failed.1, if_pos rfl, failed.2]
  rfl

theorem watchedHosts_of_mapError (failed : tick.mapError = true) :
    watchedHosts tick state = some state.hosts.keys := by
  have fleet : tick.fleet = true := (Bool.and_eq_true _ _ ▸ failed).1
  rw [watchedHosts, if_pos fleet, map_eq_none failed]

-- A failed fetch is treated as a map failure on every tick that completes.
theorem treatsAsFailed {outcome : Outcome} (failed : tick.mapError = true)
    (done : run tick state = some outcome) : TreatsAsFailed state outcome := by
  have completes := run_completes done
  have fleet : tick.fleet = true := (Bool.and_eq_true _ _ ▸ failed).1
  have hosts : outcome.hosts = state.hosts.keys :=
    Option.some.inj (completes.hosts.symm.trans (watchedHosts_of_mapError failed))
  constructor
  case error => rw [completes.map_error, failed]
  case streak => rw [completes.map_streak, nextMapFailStreak, if_pos fleet, if_pos failed]
  case hosts => exact hosts
  case kept =>
    intro host inside
    -- It was a key of a stored object, so it is one that an object keeps.
    have watched : host ∈ outcome.hosts := hosts ▸ (mem_keys_iff _ _).mpr inside
    have ordinary : host ≠ "__proto__" := by
      rintro rfl
      exact state.hosts.ordinary ((mem_keys_iff _ _).mpr inside)
    obtain ⟨report, read⟩ := completes.watched host watched
    rw [completes.host_stored host watched ordinary, read]
    rfl

theorem mapFails_iff (fleet : tick.fleet = true) :
    MapFails tick state ↔ tick.fetched = none ∧
      ∀ host ∈ state.hosts.keys, freshSnapshot tick host ≠ some none := by
  constructor
  -- Forward: only a failed fetch sets mapError, and run() has completed over the old hosts.
  · rintro ⟨outcome, done, fails⟩
    have failed : tick.mapError = true := (run_completes done).map_error ▸ fails.error
    refine ⟨?_, ?_⟩
    · simpa [Tick.mapError, fleet] using failed
    · obtain ⟨hosts, resolved, clean⟩ := (run_isSome tick state).mp (by rw [done]; rfl)
      rw [watchedHosts_of_mapError failed] at resolved
      rwa [← Option.some.inj resolved] at clean
  · rintro ⟨missing, clean⟩
    have failed : tick.mapError = true := by simp [Tick.mapError, fleet, missing]
    have done : (run tick state).isSome :=
      (run_isSome tick state).mpr ⟨_, watchedHosts_of_mapError failed, clean⟩
    obtain ⟨outcome, done⟩ := Option.isSome_iff_exists.mp done
    exact ⟨outcome, done, treatsAsFailed failed done⟩

/-- For every text that the map's address can serve: a text that the relays reject makes the
tick a map failure only where it is no JSON at all and the tick completes. -/
theorem map_agreement (fleet : tick.fleet = true)
    (fetched : tick.fetched = fetchMap parse (some text)) :
    (¬ Adoptable parse text → MapFails tick state) ↔
      Adoptable parse text ∨
        (parse text = none ∧ ∀ host ∈ state.hosts.keys, freshSnapshot tick host ≠ some none) := by
  have fails : MapFails tick state ↔
      parse text = none ∧ ∀ host ∈ state.hosts.keys, freshSnapshot tick host ≠ some none := by
    rw [mapFails_iff fleet, fetched]
    rfl
  rw [fails, ← or_iff_not_imp_left]

section Sample

def mapOf (ranges : List Json) : Json := .obj [("version", .num 1), ("ranges", .arr ranges)]

def rangeOf (low high : Int) (host : String) : Json :=
  .obj [("low", .num low), ("high", .num high), ("host", .str host)]

def wholeMap : Json := mapOf [rangeOf 0 65535 "relay1"]

def sampleDraw : Draw where
  prefix60 := String.ofList (List.replicate 60 '0')
  canonical := by
    constructor
    · rw [String.length_ofList, List.length_replicate]
    · rw [String.toList_ofList]
      intro char inside
      rw [List.eq_of_mem_replicate inside]
      decide
  randUnit := 0
  unit := by decide +kernel

def fleetEnv : Env where
  text name := if name = "SHARD_MAP_URL" then some "https://map" else none
  number _ := none

/-- A tick in fleet mode: every relay has just pushed zeros and lets the probe through. -/
def fleetTick (now : Nat) (fetched : Option Json) : Tick where
  env := fleetEnv
  now := now
  fetched := fetched
  latest _ := some ⟨now, some ⟨none, none, none, none, none, none⟩⟩
  draw _ := sampleDraw
  probeOne _ _ := true
  scrapePush _ := none
  probePush _ := true
  sends := true

/-- The map's address answers with no JSON. -/
theorem broken_text_noticed :
    (¬ Adoptable (fun _ => none) "<html>" → MapFails (fleetTick 0 none) State.empty) ↔
      Adoptable (fun _ => none) "<html>" ∨
        ((fun _ : String => (none : Option Json)) "<html>" = none ∧
          ∀ host ∈ State.empty.hosts.keys, freshSnapshot (fleetTick 0 none) host ≠ some none) :=
  map_agreement (by decide +kernel) rfl

/-- One relay owns the ring; then the map is served without any range. No host is watched, the
state of the relay is gone, and the tick reports no map error. -/
theorem empty_ranges_unnoticed :
    ¬ (¬ Adoptable (fun _ => some (mapOf [])) "map" →
      MapFails (fleetTick 300000 (some (mapOf []))) (storedAfter [fleetTick 0 (some wholeMap)])) ∧
    ((storedAfter [fleetTick 0 (some wholeMap)]).hosts.get? "relay1").isSome ∧
    ∃ outcome,
      run (fleetTick 300000 (some (mapOf []))) (storedAfter [fleetTick 0 (some wholeMap)]) =
        some outcome ∧
      outcome.mapError = false ∧ outcome.hosts = [] ∧
        (outcome.state.hosts.get? "relay1").isNone := by
  refine ⟨?_, by decide +kernel, _, rfl, by decide +kernel, by decide +kernel, by decide +kernel⟩
  intro agrees
  have rejected : ¬ Adoptable (fun _ => some (mapOf [])) "map" := by
    rintro ⟨map, read, valid⟩
    have empty : map = ⟨1, []⟩ := by
      apply Except.ok.inj
      rw [← read]
      rfl
    rw [empty] at valid
    cases valid
  have failed := (mapFails_iff (by decide +kernel)).mp (agrees rejected)
  cases failed.1

end Sample

end Agreement

end Relay.Monitor.Fleet

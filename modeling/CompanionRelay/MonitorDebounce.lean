import CompanionRelay.Debounce
import CompanionRelay.MonitorAgreement

/-!
The five debounced checks of run() over a run of the monitor: liveness and the probe of each
watched host, the fetch of the map, and the scrape and the probe of each push relay. Each
keeps its count in the stored state; the module says for each what one tick makes of it.
-/

namespace Relay.Monitor.Fleet

section Watches

def Watched (host : String) (state : State) (tick : Tick) : Prop :=
  ∃ outcome, run tick state = some outcome ∧ host ∈ outcome.hosts

/-- The alert is among those that the checks of the tick raise. -/
def Raises (source : Source) (alert : Alert) (state : State) (tick : Tick) : Prop :=
  ∃ outcome, run tick state = some outcome ∧ ⟨source, alert⟩ ∈ outcome.findings

def livenessCheck (host : String) (_ : State) (tick : Tick) : Option Bool :=
  some (isStale tick host)

def probeCheck (host : String) (_ : State) (tick : Tick) : Option Bool :=
  (hostProbe tick host).map (!·)

def fetchCheck (_ : State) (tick : Tick) : Option Bool :=
  if tick.fleet then some tick.fetched.isNone else none

def labelled (tick : Tick) (label : String) : List PushRelay :=
  (pushRelaysFromEnv tick.env).filter (·.label = label)

def scrapeCheck (label : String) (_ : State) (tick : Tick) : Option Bool :=
  (labelled tick label).head?.map fun relay => (tick.scrapePush relay).isNone

def pushProbeCheck (label : String) (_ : State) (tick : Tick) : Option Bool :=
  (labelled tick label).head?.bind fun relay => (pushProbe tick relay).map (!·)

/-- Debounce over a run of the monitor, with a limit of `k` failures. -/
structure DebounceExact (k : Nat) (ticks : List Tick) : Prop where
  liveness : ∀ host, Debounce.Exact stored State.empty k
    (fun state tick => ¬ Watched host state tick) (Watched host) (livenessCheck host)
    (Raises (.host host) livenessAlert) ticks
  probe : ∀ host, Debounce.Exact stored State.empty k
    (fun state tick => ¬ Watched host state tick) (Watched host) (probeCheck host)
    (Raises (.host host) probeAlert) ticks
  map : Debounce.Exact stored State.empty k (fun _ _ => False) (fun _ _ => True) fetchCheck
    (Raises .map probeAlert) ticks
  scrape : ∀ label, Debounce.Exact stored State.empty k
    (fun _ tick => labelled tick label = []) (fun _ tick => (labelled tick label).length = 1)
    (scrapeCheck label) (Raises (.push label) livenessAlert) ticks
  pushProbe : ∀ label, Debounce.Exact stored State.empty k
    (fun _ tick => labelled tick label = []) (fun _ tick => (labelled tick label).length = 1)
    (pushProbeCheck label) (Raises (.push label) probeAlert) ticks

/-- What a tick has to meet for its counts to be exact: run() completes, no name is the one
key that an object does not keep, and the two checks that have no way to be left out, the
fetch and the probe of a push relay, are left out only when they have nothing to count. -/
structure Steady (state : State) (tick : Tick) : Prop where
  iterable : ∀ map, tick.map = some map → (mapHostsFrom map).isSome
  readable : ∀ hosts, watchedHosts tick state = some hosts →
    ∀ host ∈ hosts, freshSnapshot tick host ≠ some none
  hosts : ∀ hosts, watchedHosts tick state = some hosts → "__proto__" ∉ hosts
  labels : ∀ relay ∈ pushRelaysFromEnv tick.env, relay.label ≠ "__proto__"
  fetches : tick.fleet = false → state.mapFailStreak = 0
  probes : ∀ relay ∈ pushRelaysFromEnv tick.env, relay.probeUrl = none →
    (storedPush state relay).probeFailStreak = 0

end Watches

section Ticks
variable {tick : Tick} {state : State} {outcome : Outcome} {k : Nat}

theorem Steady.completes (steady : Steady state tick) : ∃ outcome, run tick state = some outcome := by
  rw [← Option.isSome_iff_exists, run_isSome]
  have resolved : ∃ hosts, watchedHosts tick state = some hosts := by
    unfold watchedHosts
    split
    · split
      · rename_i map found
        obtain ⟨hosts, read⟩ := Option.isSome_iff_exists.mp (steady.iterable map found)
        exact ⟨hosts.items, by rw [read]; rfl⟩
      · exact ⟨_, rfl⟩
    · exact ⟨_, rfl⟩
  obtain ⟨hosts, resolved⟩ := resolved
  exact ⟨hosts, resolved, steady.readable hosts resolved⟩

theorem stored_eq (done : run tick state = some outcome) : stored state tick = outcome.state := by
  rw [stored, done]

theorem watched_iff (done : run tick state = some outcome) (host : String) :
    Watched host state tick ↔ host ∈ outcome.hosts := by
  simp [Watched, done]

theorem raises_iff (done : run tick state = some outcome) (source : Source) (alert : Alert) :
    Raises source alert state tick ↔ ⟨source, alert⟩ ∈ outcome.findings := by
  simp [Raises, done]

theorem mem_debounced (cfg : Config) (limit : cfg.alertFailStreak = k) (streak : Nat)
    (raised alert : Alert) :
    raised ∈ debounced cfg streak alert ↔ raised = alert ∧ k ≤ streak := by
  unfold debounced
  rw [limit]
  by_cases reached : k ≤ streak
  · simp [reached]
  · simp [reached]

end Ticks

section Hosts
variable {tick : Tick} {state : State} {outcome : Outcome} {k : Nat} {host : String}

theorem freshSnapshot_eq_none (tick : Tick) (host : String) :
    freshSnapshot tick host = none ↔ isStale tick host = true := by
  unfold freshSnapshot
  split
  · rename_i stale
    simp [stale]
  · rename_i fresh
    cases found : tick.latest host with
    | none => simp [isStale, found] at fresh
    | some latest => simpa using fresh

/-- What the checks of a host make of its two counts. -/
structure HostCounts (k : Nat) (tick : Tick) (host : String) (hs : HostState)
    (report : Report HostState) : Prop where
  liveness : report.next.livenessFailStreak =
    Debounce.count hs.livenessFailStreak (some (isStale tick host))
  probe : report.next.probeFailStreak =
    Debounce.count hs.probeFailStreak ((hostProbe tick host).map (!·))
  silent : livenessAlert ∈ report.alerts ↔
    isStale tick host = true ∧ k ≤ report.next.livenessFailStreak
  failing : probeAlert ∈ report.alerts ↔
    hostProbe tick host = some false ∧ k ≤ report.next.probeFailStreak

theorem not_mem_analysis {alert : Alert} (tick : Tick) (hs : HostState) (snap : Snapshot)
    (other : alert.key ∉ analysisKeys) : alert ∉ (analysisOf tick hs snap).alerts :=
  fun raised => other (analyze_keys raised)

/-- The push side settles liveness; what it leaves of the probe's count is the count or 0. -/
structure PushCounts (k : Nat) (tick : Tick) (host : String) (hs : HostState)
    (report : Report HostState) : Prop where
  liveness : report.next.livenessFailStreak =
    Debounce.count hs.livenessFailStreak (some (isStale tick host))
  silent : livenessAlert ∈ report.alerts ↔
    isStale tick host = true ∧ k ≤ report.next.livenessFailStreak
  quiet : probeAlert ∉ report.alerts
  probe : report.next.probeFailStreak = hs.probeFailStreak ∨ report.next.probeFailStreak = 0

theorem pushSide_counts {hs : HostState} {report : Report HostState}
    (limit : tick.cfg.alertFailStreak = k) (read : pushSide tick host hs = some report) :
    PushCounts k tick host hs report := by
  unfold pushSide at read
  split at read
  · rename_i missing
    have stale := (freshSnapshot_eq_none tick host).mp missing
    cases read
    constructor
    case liveness => rw [stale, Debounce.count]
    case silent => simp [mem_debounced tick.cfg limit, stale]
    case quiet =>
      intro raised
      exact absurd ((mem_debounced tick.cfg limit _ _ _).mp raised).1 (by decide)
    case probe => exact .inl rfl
  · cases read
  · rename_i snap found
    have fresh : isStale tick host = false := by
      rw [Bool.eq_false_iff]
      intro stale
      rw [(freshSnapshot_eq_none tick host).mpr stale] at found
      cases found
    cases read
    constructor
    case liveness => rw [fresh, Debounce.count]
    case silent =>
      rw [fresh]
      simpa using not_mem_analysis tick hs snap (by decide)
    case quiet => exact not_mem_analysis tick hs snap (by decide)
    case probe => exact .inr rfl

theorem inboundSide_counts {hs : HostState} {report : Report HostState}
    (limit : tick.cfg.alertFailStreak = k) (push : PushCounts k tick host hs report) :
    HostCounts k tick host hs (inboundSide tick host hs report) := by
  unfold inboundSide
  cases probed : hostProbe tick host with
  | none =>
      -- The probe is not run: the fresh branch has dropped the count, and it is put back.
      dsimp only
      split
      · rename_i zero
        constructor
        case liveness => exact push.liveness
        case silent => exact push.silent
        case probe =>
          rw [probed, zero]
          rcases push.probe with kept | dropped
          · rw [kept, zero]
            rfl
          · exact dropped
        case failing => simp [probed, push.quiet]
      · constructor
        case liveness => exact push.liveness
        case silent => exact push.silent
        case probe =>
          rw [probed]
          rfl
        case failing => simp [probed, push.quiet]
  | some ok =>
      constructor
      case liveness => exact push.liveness
      case probe =>
        rw [probed]
        cases ok <;> rfl
      case silent =>
        cases ok with
        | true => simpa using push.silent
        | false =>
            have other : livenessAlert ≠ probeAlert := by decide
            simp [mem_debounced tick.cfg limit, other, push.silent]
      case failing =>
        cases ok with
        | true => simp [probed, push.quiet]
        | false => simp [mem_debounced tick.cfg limit, probed, push.quiet]

theorem watchHost_counts {report : Report HostState} (limit : tick.cfg.alertFailStreak = k)
    (read : watchHost tick state host = some report) :
    HostCounts k tick host (storedHost state host) report := by
  obtain ⟨push, pushed, rfl⟩ := Option.map_eq_some_iff.mp read
  exact inboundSide_counts limit (pushSide_counts limit pushed)

end Hosts

section Pushes
variable {tick : Tick} {state : State} {k : Nat} {relay : PushRelay}

/-- What the checks of a push relay make of its two counts. -/
structure RelayCounts (k : Nat) (tick : Tick) (relay : PushRelay) (ps : PushState)
    (report : Report PushState) : Prop where
  scrape : report.next.scrapeFailStreak =
    Debounce.count ps.scrapeFailStreak (some (tick.scrapePush relay).isNone)
  probe : report.next.probeFailStreak =
    Debounce.count ps.probeFailStreak ((pushProbe tick relay).map (!·))
  silent : livenessAlert ∈ report.alerts ↔
    tick.scrapePush relay = none ∧ k ≤ report.next.scrapeFailStreak
  failing : probeAlert ∈ report.alerts ↔
    pushProbe tick relay = some false ∧ k ≤ report.next.probeFailStreak

theorem mem_watchPush {alert : Alert} (other : alert.key ∉ pushKeys) :
    alert ∈ (watchPush tick state relay).alerts ↔
      (tick.scrapePush relay = none ∧
        alert ∈ debounced tick.cfg (watchPush tick state relay).next.scrapeFailStreak livenessAlert) ∨
      (pushProbe tick relay = some false ∧
        alert ∈ debounced tick.cfg (watchPush tick state relay).next.probeFailStreak probeAlert) := by
  have rates : ∀ interval, alert ∉ pushAlerts interval tick.cfg :=
    fun _ raised => other (pushAlerts_keys raised)
  have peers : ∀ peer prevPeer streak since,
      alert ∉ peerAlerts peer prevPeer streak tick.cfg tick.now since :=
    fun _ _ _ _ raised => other (peerAlerts_keys raised)
  unfold watchPush
  cases tick.scrapePush relay <;> rcases pushProbe tick relay with _ | _ | _ <;>
    simp [rates, peers]

-- A probe that is left out drops the count; the count is exact where there is none to drop.
theorem watchPush_counts (limit : tick.cfg.alertFailStreak = k)
    (kept : relay.probeUrl = none → (storedPush state relay).probeFailStreak = 0) :
    RelayCounts k tick relay (storedPush state relay) (watchPush tick state relay) := by
  have differ : livenessAlert ≠ probeAlert := by decide
  constructor
  case scrape =>
    unfold watchPush
    cases tick.scrapePush relay <;> rfl
  case probe =>
    have stored : (watchPush tick state relay).next.probeFailStreak =
        if (pushProbe tick relay).getD true then 0
          else (storedPush state relay).probeFailStreak + 1 := by
      unfold watchPush
      cases tick.scrapePush relay <;> rfl
    rw [stored]
    unfold pushProbe
    cases url : relay.probeUrl with
    -- Here the source resets the count, where that of a host would be kept.
    | none => simp [Debounce.count, kept url]
    | some url => cases tick.probePush relay <;> simp [Debounce.count]
  case silent =>
    rw [mem_watchPush (by decide), mem_debounced tick.cfg limit, mem_debounced tick.cfg limit]
    simp [differ]
  case failing =>
    rw [mem_watchPush (by decide), mem_debounced tick.cfg limit, mem_debounced tick.cfg limit]
    simp [differ.symm]

end Pushes

section Runs
variable {k : Nat} {tick : Tick} {state : State}

-- An older monitor's one push relay is in no state that a run reaches.
theorem stored_push (ticks : List Tick) :
    ∀ met ∈ Machine.steps stored State.empty ticks, met.1.push = none := by
  apply Machine.steps_invariant stored (·.push = none) (fun _ _ => True)
  · intro state tick before _
    cases done : run tick state with
    | none => rwa [stored, done]
    | some outcome => rw [stored_eq done, (run_completes done).push_moved]
  · rfl
  · exact fun _ _ => trivial

def hostCount (count : HostState → Nat) (host : String) (state : State) : Nat :=
  count (storedHost state host)

def relayCount (count : PushState → Nat) (label : String) (state : State) : Nat :=
  count ((state.pushes.get? label).getD PushState.empty)

theorem host_carries (host : String) (steady : Steady state tick)
    (limit : tick.cfg.alertFailStreak = k) (count : HostState → Nat)
    (check : State → Tick → Option Bool) (alert : Alert) (zero : count HostState.empty = 0)
    (follows : ∀ report, HostCounts k tick host (storedHost state host) report →
      count report.next = Debounce.count (count (storedHost state host)) (check state tick))
    (raises : ∀ report, HostCounts k tick host (storedHost state host) report →
      (alert ∈ report.alerts ↔ check state tick = some true ∧ k ≤ count report.next)) :
    Debounce.Carries k (fun state tick => ¬ Watched host state tick) (Watched host) check
      (Raises (.host host) alert) (hostCount count host) state tick (stored state tick) := by
  obtain ⟨outcome, done⟩ := steady.completes
  have completes := run_completes done
  -- A watched host is stored with the report of its checks; any other is pruned.
  have next : ∀ report, host ∈ outcome.hosts → watchHost tick state host = some report →
      hostCount count host (stored state tick) = count report.next := by
    intro report inside read
    have ordinary : host ≠ "__proto__" := by
      rintro rfl
      exact steady.hosts outcome.hosts completes.hosts inside
    rw [hostCount, storedHost, stored_eq done, completes.host_stored host inside ordinary, read]
    rfl
  constructor
  case drops =>
    intro absent
    rw [watched_iff done] at absent
    rw [hostCount, storedHost, stored_eq done, completes.host_dropped host absent]
    exact zero
  case follows =>
    intro present
    have inside := (watched_iff done host).mp present
    obtain ⟨report, read⟩ := completes.watched host inside
    exact (next report inside read).trans (follows report (watchHost_counts limit read))
  case raises =>
    intro present
    have inside := (watched_iff done host).mp present
    obtain ⟨report, read⟩ := completes.watched host inside
    have counts := watchHost_counts limit read
    have raised : Raises (.host host) alert state tick ↔ alert ∈ report.alerts := by
      rw [raises_iff done, completes.host_raised, and_iff_right inside, read]
      simp
    rw [raised, raises report counts, follows report counts]
    rfl

theorem labelled_single {label : String} (single : (labelled tick label).length = 1) :
    ∃ relay ∈ pushRelaysFromEnv tick.env, relay.label = label ∧ labelled tick label = [relay] ∧
      ∀ other ∈ pushRelaysFromEnv tick.env, other.label = label → other = relay := by
  obtain ⟨relay, only⟩ := List.length_eq_one_iff.mp single
  have here : relay ∈ labelled tick label := only ▸ List.mem_singleton.mpr rfl
  obtain ⟨listed, named⟩ := List.mem_filter.mp here
  refine ⟨relay, listed, by simpa using named, only, ?_⟩
  intro other inside same
  have again : other ∈ labelled tick label := List.mem_filter.mpr ⟨inside, by simpa using same⟩
  rw [only] at again
  exact List.mem_singleton.mp again

theorem relayCount_eq (count : PushState → Nat) (moved : state.push = none) (relay : PushRelay) :
    relayCount count relay.label state = count (storedPush state relay) := by
  rw [relayCount, storedPush, moved, ite_self, Option.or_none]

theorem relay_carries (label : String) (steady : Steady state tick)
    (limit : tick.cfg.alertFailStreak = k) (moved : state.push = none) (count : PushState → Nat)
    (check : State → Tick → Option Bool) (alert : Alert) (zero : count PushState.empty = 0)
    (follows : ∀ relay report, labelled tick label = [relay] →
      RelayCounts k tick relay (storedPush state relay) report →
      count report.next = Debounce.count (count (storedPush state relay)) (check state tick))
    (raises : ∀ relay report, labelled tick label = [relay] →
      RelayCounts k tick relay (storedPush state relay) report →
      (alert ∈ report.alerts ↔ check state tick = some true ∧ k ≤ count report.next)) :
    Debounce.Carries k (fun _ tick => labelled tick label = [])
      (fun _ tick => (labelled tick label).length = 1) check (Raises (.push label) alert)
      (relayCount count label) state tick (stored state tick) := by
  obtain ⟨outcome, done⟩ := steady.completes
  have completes := run_completes done
  constructor
  case drops =>
    intro absent
    have missing : ∀ relay ∈ pushRelaysFromEnv tick.env, relay.label ≠ label := by
      intro relay inside named
      have listed : relay ∈ labelled tick label :=
        List.mem_filter.mpr ⟨inside, by simpa using named⟩
      rw [absent] at listed
      exact List.not_mem_nil listed
    rw [relayCount, stored_eq done, completes.push_dropped label missing]
    exact zero
  case follows =>
    intro present
    obtain ⟨relay, inside, rfl, single, only⟩ := labelled_single present
    have counts := watchPush_counts limit (steady.probes relay inside)
    rw [relayCount_eq count moved relay, relayCount, stored_eq done,
      completes.push_stored relay inside (steady.labels relay inside) only]
    exact follows relay _ single counts
  case raises =>
    intro present
    obtain ⟨relay, inside, rfl, single, only⟩ := labelled_single present
    have counts := watchPush_counts limit (steady.probes relay inside)
    have raised : Raises (.push relay.label) alert state tick ↔
        alert ∈ (watchPush tick state relay).alerts := by
      rw [raises_iff done, completes.push_raised]
      constructor
      · rintro ⟨other, listed, same, raised⟩
        rwa [only other listed same] at raised
      · exact fun raised => ⟨relay, inside, rfl, raised⟩
    rw [raised, raises relay _ single counts, follows relay _ single counts,
      relayCount_eq count moved relay]

theorem map_carries (steady : Steady state tick) (limit : tick.cfg.alertFailStreak = k) :
    Debounce.Carries k (fun _ _ => False) (fun _ _ => True) fetchCheck (Raises .map probeAlert)
      State.mapFailStreak state tick (stored state tick) := by
  obtain ⟨outcome, done⟩ := steady.completes
  have completes := run_completes done
  have follows : outcome.state.mapFailStreak =
      Debounce.count state.mapFailStreak (fetchCheck state tick) := by
    rw [completes.map_streak, nextMapFailStreak, Tick.mapError, fetchCheck]
    cases fleet : tick.fleet with
    | false => simp [Debounce.count, steady.fetches fleet]
    | true => cases tick.fetched <;> rfl
  constructor
  case drops => exact False.elim
  case follows =>
    intro _
    rw [stored_eq done, follows]
  case raises =>
    intro _
    rw [raises_iff done, completes.map_raised, mapAlerts, ← completes.map_streak, follows]
    -- A tick in direct mode makes no fetch and raises nothing.
    have failed : tick.mapError = true ↔ fetchCheck state tick = some true := by
      rw [Tick.mapError, fetchCheck]
      cases tick.fleet <;> cases tick.fetched <;> simp
    by_cases error : tick.mapError = true
    · simp [error, mem_debounced tick.cfg limit, failed.mp error]
    · simp [error, ← failed]

/-- On a run whose ticks are steady, each of the five alerts is raised at a tick just when its
check fails there and in each of the `k - 1` performed checks before it. -/
theorem debounce_exact (ticks : List Tick)
    (limit : ∀ tick ∈ ticks, tick.cfg.alertFailStreak = k)
    (steady : ∀ met ∈ Machine.steps stored State.empty ticks, Steady met.1 met.2) :
    DebounceExact k ticks := by
  have limits : ∀ met ∈ Machine.steps stored State.empty ticks, met.2.cfg.alertFailStreak = k := by
    intro met inside
    obtain ⟨before, after, whole, _⟩ := Machine.steps_mem _ _ _ _ inside
    exact limit met.2 (whole ▸ List.mem_append_right _ List.mem_cons_self)
  constructor
  case liveness =>
    intro host
    apply Debounce.exact_of_carries (hostCount HostState.livenessFailStreak host) rfl
    intro met inside
    apply host_carries host (steady met inside) (limits met inside) _ _ _ rfl
    · exact fun report counts => counts.liveness
    · intro report counts
      rw [counts.silent, livenessCheck, Option.some.injEq]
  case probe =>
    intro host
    apply Debounce.exact_of_carries (hostCount HostState.probeFailStreak host) rfl
    intro met inside
    apply host_carries host (steady met inside) (limits met inside) _ _ _ rfl
    · exact fun report counts => counts.probe
    · intro report counts
      rw [counts.failing, probeCheck]
      rcases hostProbe met.2 host with _ | _ | _ <;> simp
  case map =>
    apply Debounce.exact_of_carries State.mapFailStreak rfl
    exact fun met inside => map_carries (steady met inside) (limits met inside)
  case scrape =>
    intro label
    apply Debounce.exact_of_carries (relayCount PushState.scrapeFailStreak label) rfl
    intro met inside
    apply relay_carries label (steady met inside) (limits met inside)
      (stored_push ticks met inside) _ _ _ rfl
    · intro relay report single counts
      rw [counts.scrape, scrapeCheck, single]
      rfl
    · intro relay report single counts
      rw [counts.silent, scrapeCheck, single]
      simp
  case pushProbe =>
    intro label
    apply Debounce.exact_of_carries (relayCount PushState.probeFailStreak label) rfl
    intro met inside
    apply relay_carries label (steady met inside) (limits met inside)
      (stored_push ticks met inside) _ _ _ rfl
    · intro relay report single counts
      rw [counts.probe, pushProbeCheck, single]
      rfl
    · intro relay report single counts
      rw [counts.failing, pushProbeCheck, single]
      rcases probed : pushProbe met.2 relay with _ | _ | _ <;> simp [probed]

end Runs

section Sample

/-- One relay owns the ring, its inbound path works, and it does not push. -/
def silentTick (now : Nat) : Tick := { fleetTick now (some wholeMap) with latest := fun _ => none }

theorem silentTick_steady (state : State) (now : Nat) : Steady state (silentTick now) := by
  have named : watchedHosts (silentTick now) state = some ["relay1"] := rfl
  have alone : pushRelaysFromEnv (silentTick now).env = [] :=
    show pushRelaysFromEnv fleetEnv = [] by decide +kernel
  have fleet : (silentTick now).fleet = true :=
    show (truthy (fleetEnv.text "SHARD_MAP_URL")).isSome = true by decide +kernel
  constructor
  case iterable =>
    rintro map ⟨⟩
    rfl
  case readable =>
    intro hosts _ host _
    have stale : freshSnapshot (silentTick now) host = none := rfl
    simp [stale]
  case hosts =>
    rw [named]
    rintro hosts ⟨⟩
    decide
  case labels => simp [alone]
  case fetches => exact fun direct => Bool.noConfusion (fleet.symm.trans direct)
  case probes => simp [alone]

theorem silent_relay_raised :
    Raises (.host "relay1") livenessAlert (storedAfter [silentTick 0]) (silentTick 300000) := by
  have exact_ : DebounceExact 2 [silentTick 0, silentTick 300000] := by
    apply debounce_exact
    · decide +kernel
    · intro met inside
      simp only [Machine.steps_cons, Machine.steps_nil, List.mem_cons, List.not_mem_nil,
        or_false] at inside
      rcases inside with rfl | rfl <;> exact silentTick_steady _ _
  have watched : ∀ state now, Watched "relay1" state (silentTick now) := by
    intro state now
    obtain ⟨outcome, done⟩ := (silentTick_steady state now).completes
    have hosts : some outcome.hosts = some ["relay1"] := (run_completes done).hosts.symm
    rw [watched_iff done, Option.some.inj hosts]
    exact .head _
  apply (exact_.liveness "relay1" [] [silentTick 0] (silentTick 300000) [] rfl (by simp) _).mpr
  · decide +kernel
  · intro met inside
    simp only [List.singleton_append, Machine.steps_cons, Machine.steps_nil, List.mem_cons,
      List.not_mem_nil, or_false] at inside
    rcases inside with rfl | rfl <;> exact watched _ _

/-- A push relay whose probe fails; its address is in the environment or not. -/
def forwarderTick (now : Nat) (probed : Bool) : Tick :=
  { fleetTick now none with
    env :=
      { text := fun name =>
          if name = "PUSH_METRICS_URL" then some "http://127.0.0.1/metrics"
          else if name = "PUSH_PROBE_URL" ∧ probed then some "https://push" else none
        number := fun _ => none }
    scrapePush := fun _ => some ⟨⟨0, 0, 0, 0, 0⟩, none⟩
    probePush := fun _ => false }

/-- The probe of the push relay fails, is left out, and fails again. -/
def unprobed : List Tick := [forwarderTick 0 true, forwarderTick 300000 false]

/-- The map cannot be fetched, then it can, but the push of the one relay is the document null. -/
def rejected : List Tick :=
  [fleetTick 0 none,
    { fleetTick 300000 (some wholeMap) with latest := fun _ => some ⟨300000, none⟩ }]

/-- A left-out probe of a push relay starts its count afresh, and a tick on which run() rejects
keeps the count of a fetch that went through. -/
theorem counts_off :
    ((∀ tick ∈ unprobed ++ [forwarderTick 600000 true], tick.cfg.alertFailStreak = 2) ∧
      ¬ DebounceExact 2 (unprobed ++ [forwarderTick 600000 true])) ∧
    ((∀ tick ∈ rejected ++ [fleetTick 600000 none], tick.cfg.alertFailStreak = 2) ∧
      ¬ DebounceExact 2 (rejected ++ [fleetTick 600000 none])) := by
  refine ⟨⟨by decide +kernel, ?_⟩, by decide +kernel, ?_⟩
  · intro holds
    have raised := (holds.pushProbe "push" [] unprobed (forwarderTick 600000 true) [] rfl (by simp)
      (by decide +kernel)).mpr (by decide +kernel)
    obtain ⟨outcome, done, inside⟩ := raised
    have findings : (run (forwarderTick 600000 true)
        (Machine.run stored State.empty ([] ++ unprobed))).map Outcome.findings = some [] := by
      decide +kernel
    rw [done, Option.map_some, Option.some.injEq] at findings
    exact List.not_mem_nil (findings ▸ inside)
  · intro holds
    have findings : (run (fleetTick 600000 none)
        (Machine.run stored State.empty ([] ++ rejected))).map Outcome.findings =
        some [⟨.map, probeAlert⟩] := by decide +kernel
    obtain ⟨outcome, done, raised⟩ := Option.map_eq_some_iff.mp findings
    have failed := (holds.map [] rejected (fleetTick 600000 none) [] rfl (by simp)
      (fun _ _ => trivial)).mp ⟨outcome, done, raised ▸ List.mem_singleton.mpr rfl⟩
    revert failed
    decide +kernel

end Sample

end Relay.Monitor.Fleet

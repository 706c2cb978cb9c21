import CompanionRelay.MonitorChecks
import CompanionRelay.MonitorMap

/-!
src/monitor/src/core.js: one tick of run() that is not dry. A tick reads the shard map, the
latest snapshot of each host and the two probes; its outcome is the state that it stores and
the alerts that its checks raise. A tick on which run() rejects stores nothing.
-/

namespace Relay.Monitor.Fleet

section Objects

/-- An object with string keys that run() fills by assignment. -/
structure Object (Value : Type) where
  entries : OrderedMap String Value
  ordinary : "__proto__" ∉ entries

variable {Value : Type}

def Object.empty : Object Value := ⟨OrderedMap.empty, List.not_mem_nil⟩

def Object.get? (object : Object Value) (key : String) : Option Value := object.entries.get? key

def Object.keys (object : Object Value) : List String := object.entries.keys

theorem Object.ordinary_set (object : Object Value) {key : String} (value : Value)
    (ordinary : key ≠ "__proto__") : "__proto__" ∉ object.entries.set key value := by
  rw [OrderedMap.mem_iff]
  rintro ⟨stored, found⟩
  rcases (OrderedMap.get?_set ..).mp found with ⟨same, _⟩ | ⟨_, before⟩
  · exact ordinary same.symm
  · exact object.ordinary ((OrderedMap.mem_iff _ _).mpr ⟨stored, before⟩)

theorem Object.key_ordinary (object : Object Value) {key : String} {value : Value}
    (found : object.get? key = some value) : key ≠ "__proto__" := by
  rintro rfl
  exact object.ordinary ((OrderedMap.mem_iff _ _).mpr ⟨value, found⟩)

/-- `object[key] = value`: under the key `__proto__` it sets the prototype and adds no entry. -/
def Object.assign (object : Object Value) (key : String) (value : Value) : Object Value :=
  if ordinary : key = "__proto__" then object
  else ⟨object.entries.set key value, object.ordinary_set value ordinary⟩

def Object.assignAll (object : Object Value) (items : List (String × Value)) : Object Value :=
  items.foldl (fun object item => object.assign item.1 item.2) object

end Objects

def directHost : String := "__direct__"

/-- A stored push; a snapshot of none is the JSON document null. -/
structure Latest where
  receivedAt : Nat
  snapshot : Option Snapshot
  deriving DecidableEq

structure PushState where
  prev : Option PushCounters
  prevPeer : Option Peer
  peerOutboxStreak : Nat
  peerNeverSince : Option Nat
  scrapeFailStreak : Nat
  probeFailStreak : Nat
  deriving DecidableEq

def PushState.empty : PushState := ⟨none, none, 0, none, 0, 0⟩

/-- The stored state; `push` is where an older monitor kept its one push relay. -/
structure State where
  hosts : Object HostState
  mapFailStreak : Nat
  pushes : Object PushState
  push : Option PushState
  sentAt : SentAt

def State.empty : State := ⟨Object.empty, 0, Object.empty, none, fun _ => none⟩

/-- What a tick gets from outside. `fetched` is the document of fetchMap, none if it rejects;
a scrape is none if it throws; a probe is true if it goes through. -/
structure Tick where
  env : Env
  now : Nat
  fetched : Option Json
  latest : String → Option Latest
  draw : String → Draw
  probeOne : String → Option String → Bool
  scrapePush : PushRelay → Option PushMetrics
  probePush : PushRelay → Bool
  sends : Bool

def Tick.cfg (tick : Tick) : Config := parseConfig tick.env

def Tick.fleet (tick : Tick) : Bool := (truthy (tick.env.text "SHARD_MAP_URL")).isSome

def Tick.mapError (tick : Tick) : Bool := tick.fleet && tick.fetched.isNone

/-- The map of a tick that counts as one: null, false, 0 and "" are no map. -/
def Tick.map (tick : Tick) : Option Json :=
  if tick.fleet then tick.fetched.filter Json.truthy else none

def watchedHosts (tick : Tick) (state : State) : Option (List String) :=
  if tick.fleet then
    match tick.map with
    | some map => (mapHostsFrom map).map OrderedSet.items
    | none => some state.hosts.keys
  else some [directHost]

/-- Where an alert comes from: the map, the checks of a host or those of a push relay. -/
inductive Source
  | map
  | host (host : String)
  | push (label : String)
  deriving DecidableEq

structure Finding where
  source : Source
  alert : Alert
  deriving DecidableEq

theorem plain_under (label key : String) (plain : ¬ ":sev".toList <:+ key.toList) :
    ¬ ":sev".toList <:+ (label ++ "|" ++ key).toList := by
  intro short
  have whole : (label ++ "|" ++ key).toList = label.toList ++ ('|' :: key.toList) := by
    simp [String.toList_append]
  rw [whole] at short
  rcases List.suffix_or_suffix_of_suffix short (List.suffix_append _ _) with inside | inside
  · rcases List.suffix_cons_iff.mp inside with same | shorter
    · exact absurd (List.cons.inj same).1 (by decide)
    · exact plain shorter
  · exact absurd (inside.subset List.mem_cons_self) (by decide)

/-- `hostAlert(label, true, alert)` -/
def hostAlert (label : String) (alert : Alert) : Alert :=
  ⟨label ++ "|" ++ alert.key, alert.severity, plain_under label alert.key alert.plain⟩

/-- The alert as run() keeps it: in direct mode the keys of the one host stay bare. -/
def Finding.rendered (fleet : Bool) (finding : Finding) : Alert :=
  match finding.source with
  | .map => finding.alert
  | .host host => if fleet then hostAlert host finding.alert else finding.alert
  | .push label => hostAlert label finding.alert

/-- A check that has failed `streak` times in a row raises its alert from the limit on. -/
def debounced (cfg : Config) (streak : Nat) (alert : Alert) : List Alert :=
  if streak ≥ cfg.alertFailStreak then [alert] else []

def nextMapFailStreak (tick : Tick) (state : State) : Nat :=
  if tick.fleet then if tick.mapError then state.mapFailStreak + 1 else 0 else 0

def mapAlerts (tick : Tick) (state : State) : List Alert :=
  if tick.mapError then debounced tick.cfg (nextMapFailStreak tick state) probeAlert else []

section Hosts

def isStale (tick : Tick) (host : String) : Bool :=
  match tick.latest host with
  | none => true
  | some latest => ((tick.now : Int) - latest.receivedAt : Int) > tick.cfg.staleMs

/-- The snapshot that a host's analysis reads at a tick: none if the push is stale, and none
inside for the document null. -/
def freshSnapshot (tick : Tick) (host : String) : Option (Option Snapshot) :=
  if isStale tick host then none else (tick.latest host).map (·.snapshot)

/-- The outcome of the probe of a host, if it is run. -/
def hostProbe (tick : Tick) (host : String) : Option Bool :=
  if tick.fleet then
    tick.map.bind fun map => (ownedRoomForHost map host (tick.draw host)).map fun room =>
      tick.probeOne ("https://" ++ host ++ "/") (some room)
  else
    (truthy (tick.env.text "RELAY_PROBE_URL")).map fun url => tick.probeOne url none

/-- The alerts of a host or a push relay at a tick, and the state stored for it. -/
structure Report (Stored : Type) where
  alerts : List Alert
  next : Stored

def rollOf (tick : Tick) (hs : HostState) (snap : Snapshot) : Roll :=
  rollHour hs.hourAnchor (normalizeSnapshot snap).counters (hourKey tick.now)

def analysisOf (tick : Tick) (hs : HostState) (snap : Snapshot) : Analysis :=
  analyze (normalizeSnapshot snap).gauges (deltas hs.prev (normalizeSnapshot snap).counters)
    (rollOf tick hs snap).lastHour hs tick.cfg

/-- The push side of the loop over the hosts. -/
def pushSide (tick : Tick) (host : String) (hs : HostState) : Option (Report HostState) :=
  match freshSnapshot tick host with
  | none =>
      let livenessFailStreak := hs.livenessFailStreak + 1
      some
        { alerts := debounced tick.cfg livenessFailStreak livenessAlert
          next := { hs with livenessFailStreak := livenessFailStreak } }
  | some none => none
  | some (some snap) =>
      let analyzed := analysisOf tick hs snap
      some
        { alerts := analyzed.alerts
          next :=
            { prev := some (normalizeSnapshot snap).counters
              hourAnchor := some (rollOf tick hs snap).anchor
              history := analyzed.history
              lastRecordedHour := analyzed.lastRecordedHour
              livenessFailStreak := 0
              probeFailStreak := 0 } }

/-- The inbound side: what it adds to the report of the push side. -/
def inboundSide (tick : Tick) (host : String) (hs : HostState) (report : Report HostState) :
    Report HostState :=
  match hostProbe tick host with
  | some ok =>
      let probeFailStreak := if ok then 0 else hs.probeFailStreak + 1
      { alerts := report.alerts ++
          if ok then [] else debounced tick.cfg probeFailStreak probeAlert
        next := { report.next with probeFailStreak := probeFailStreak } }
  | none =>
      if hs.probeFailStreak = 0 then report
      else { report with next := { report.next with probeFailStreak := hs.probeFailStreak } }

def storedHost (state : State) (host : String) : HostState :=
  (state.hosts.get? host).getD HostState.empty

def watchHost (tick : Tick) (state : State) (host : String) : Option (Report HostState) :=
  (pushSide tick host (storedHost state host)).map
    (inboundSide tick host (storedHost state host))

end Hosts

section Pushes

def storedPush (state : State) (relay : PushRelay) : PushState :=
  ((state.pushes.get? relay.label).or (if relay.index = 1 then state.push else none)).getD
    PushState.empty

def pushProbe (tick : Tick) (relay : PushRelay) : Option Bool :=
  relay.probeUrl.map fun _ => tick.probePush relay

def watchPush (tick : Tick) (state : State) (relay : PushRelay) : Report PushState :=
  let ps := storedPush state relay
  let cur := tick.scrapePush relay
  let scrapeFailStreak := if cur.isSome then 0 else ps.scrapeFailStreak + 1
  let probe := pushProbe tick relay
  let probeFailStreak := if probe.getD true then 0 else ps.probeFailStreak + 1
  let interval := cur.bind fun cur => pushDeltas ps.prev cur.counters
  let peer := cur.bind (·.peer)
  let peerOutboxStreak :=
    if peer.any (fun peer => peer.outbox > 0) then ps.peerOutboxStreak + 1 else 0
  let peerNeverSince :=
    if peer.any (fun peer => peer.hasLastOk && peer.lastOkTs = 0)
      then some (ps.peerNeverSince.getD tick.now) else none
  { alerts :=
      (if cur.isSome then [] else debounced tick.cfg scrapeFailStreak livenessAlert) ++
      (if probe.getD true then [] else debounced tick.cfg probeFailStreak probeAlert) ++
      pushAlerts interval tick.cfg ++
      peerAlerts peer ps.prevPeer peerOutboxStreak tick.cfg tick.now peerNeverSince
    next :=
      match cur with
      | some cur =>
          { prev := some cur.counters
            prevPeer := cur.peer
            peerOutboxStreak := peerOutboxStreak
            peerNeverSince := peerNeverSince
            scrapeFailStreak := scrapeFailStreak
            probeFailStreak := probeFailStreak }
      | none =>
          { ps with
            scrapeFailStreak := scrapeFailStreak
            probeFailStreak := probeFailStreak } }

end Pushes

section Whole

abbrev Reports (Stored : Type) := List (String × Report Stored)

def pushReports (tick : Tick) (state : State) : Reports PushState :=
  (pushRelaysFromEnv tick.env).map fun relay => (relay.label, watchPush tick state relay)

def found (source : Source) (alerts : List Alert) : List Finding := alerts.map (⟨source, ·⟩)

/-- The list `alerts` of run(), in its order. -/
def findingsOf (tick : Tick) (state : State) (reports : Reports HostState) : List Finding :=
  found .map (mapAlerts tick state) ++
    (reports.flatMap (fun report => found (.host report.1) report.2.alerts) ++
      (pushReports tick state).flatMap fun report => found (.push report.1) report.2.alerts)

def storeAll {Stored : Type} (reports : Reports Stored) : Object Stored :=
  Object.empty.assignAll (reports.map fun report => (report.1, report.2.next))

/-- The end of the tick: what dueAlerts gets. -/
def closing (tick : Tick) (findings : List Finding) : Monitor.Tick :=
  ⟨tick.now, findings.map (Finding.rendered tick.fleet), tick.sends⟩

def cooldown (tick : Tick) : Nat := ⌈tick.cfg.cooldownMs⌉.toNat

structure Outcome where
  state : State
  mapError : Bool
  hosts : List String
  findings : List Finding
  due : List Alert

def outcomeOf (tick : Tick) (state : State) (hosts : List String) (reports : Reports HostState) :
    Outcome :=
  let findings := findingsOf tick state reports
  { state :=
      { hosts := storeAll reports
        mapFailStreak := nextMapFailStreak tick state
        pushes := storeAll (pushReports tick state)
        push := none
        sentAt := Monitor.run (cooldown tick) state.sentAt (closing tick findings) }
    mapError := tick.mapError
    hosts := hosts
    findings := findings
    due := Monitor.due (cooldown tick) state.sentAt (closing tick findings) }

/-- The state and the health document of a tick; none if run() rejects. -/
def run (tick : Tick) (state : State) : Option Outcome := do
  let hosts ← watchedHosts tick state
  let reports ← hosts.mapM fun host => (watchHost tick state host).map (host, ·)
  return outcomeOf tick state hosts reports

end Whole

/-- The state that the next tick reads. -/
def stored (state : State) (tick : Tick) : State :=
  match run tick state with
  | some outcome => outcome.state
  | none => state

def storedAfter (ticks : List Tick) : State := Machine.run stored State.empty ticks

section Reads
variable {Value : Type}

theorem Object.get?_assign (object : Object Value) (key other : String) (value : Value) :
    (object.assign key value).get? other =
      if other = key ∧ key ≠ "__proto__" then some value else object.get? other := by
  unfold Object.assign Object.get?
  split
  · rename_i proto
    rw [if_neg fun both => both.2 proto]
  · rename_i ordinary
    apply Option.ext
    intro stored
    rw [OrderedMap.get?_set]
    by_cases same : other = key
    · rw [if_pos ⟨same, ordinary⟩]
      simp [same, eq_comm]
    · rw [if_neg fun both => same both.1]
      simp [same]

theorem Object.get?_assignAll (object : Object Value) (items : List (String × Value))
    {key : String} (ordinary : key ≠ "__proto__") :
    (object.assignAll items).get? key = (items.reverse.lookup key).or (object.get? key) := by
  induction items generalizing object with
  | nil => rfl
  | cons item rest ih =>
      obtain ⟨first, value⟩ := item
      have step : object.assignAll ((first, value) :: rest) =
          (object.assign first value).assignAll rest := rfl
      rw [step, ih, List.reverse_cons, List.lookup_append, Object.get?_assign, Option.or_assoc]
      -- The item stands last in the reversed list, so a later assignment of its key goes first.
      congr 1
      by_cases same : key = first
      · subst same
        rw [if_pos ⟨rfl, ordinary⟩, List.lookup_cons_self, Option.some_or]
      · have apart : (key == first) = false := by simpa using same
        rw [if_neg fun both => same both.1, List.lookup_cons, apart, List.lookup_nil, Option.none_or]

theorem lookup_of_unique {items : List (String × Value)} {key : String} {value : Value}
    (inside : (key, value) ∈ items)
    (only : ∀ item ∈ items, item.1 = key → item.2 = value) : items.lookup key = some value := by
  induction items with
  | nil => exact absurd inside List.not_mem_nil
  | cons item rest ih =>
      simp only [List.forall_mem_cons] at only
      rw [List.lookup_cons]
      by_cases same : key = item.1
      · simp [same, only.1 same.symm]
      · have apart : (key == item.1) = false := by simpa using same
        rw [apart]
        apply ih _ only.2
        rcases List.mem_cons.mp inside with here | later
        · exact absurd (congrArg Prod.fst here) same
        · exact later

theorem lookup_eq_none {items : List (String × Value)} {key : String}
    (absent : ∀ item ∈ items, item.1 ≠ key) : items.lookup key = none := by
  rw [List.lookup_eq_none_iff]
  intro item inside
  simpa using (absent item inside).symm

end Reads

section Stores
variable {Stored : Type} {reports : Reports Stored} {key : String}

theorem get?_storeAll {report : Report Stored} (inside : (key, report) ∈ reports)
    (only : ∀ other ∈ reports, other.1 = key → other.2 = report) (ordinary : key ≠ "__proto__") :
    (storeAll reports).get? key = some report.next := by
  have found : (reports.map fun report => (report.1, report.2.next)).reverse.lookup key =
      some report.next := by
    apply lookup_of_unique
    · exact List.mem_reverse.mpr (List.mem_map.mpr ⟨_, inside, rfl⟩)
    · intro item inside same
      obtain ⟨other, member, rfl⟩ := List.mem_map.mp (List.mem_reverse.mp inside)
      exact congrArg Report.next (only other member same)
  rw [storeAll, Object.get?_assignAll _ _ ordinary, found, Option.some_or]

theorem get?_storeAll_absent (absent : ∀ other ∈ reports, other.1 ≠ key) :
    (storeAll reports).get? key = none := by
  by_cases ordinary : key = "__proto__"
  · by_contra stored
    obtain ⟨value, found⟩ := Option.ne_none_iff_exists'.mp stored
    exact Object.key_ordinary _ found ordinary
  · have missing : (reports.map fun report => (report.1, report.2.next)).reverse.lookup key =
        none := by
      apply lookup_eq_none
      intro item inside same
      obtain ⟨other, member, rfl⟩ := List.mem_map.mp (List.mem_reverse.mp inside)
      exact absent other member same
    rw [storeAll, Object.get?_assignAll _ _ ordinary, missing, Option.none_or]
    rfl

end Stores

section Outcomes
variable {tick : Tick} {state : State} {outcome : Outcome}

/-- What a tick that run() completes has checked, host by host, and what it stores of it. -/
structure Completes (tick : Tick) (state : State) (outcome : Outcome) : Prop where
  hosts : watchedHosts tick state = some outcome.hosts
  watched : ∀ host ∈ outcome.hosts, ∃ report, watchHost tick state host = some report
  host_raised : ∀ host alert, ⟨.host host, alert⟩ ∈ outcome.findings ↔
    host ∈ outcome.hosts ∧ ∃ report, watchHost tick state host = some report ∧ alert ∈ report.alerts
  host_stored : ∀ host ∈ outcome.hosts, host ≠ "__proto__" →
    outcome.state.hosts.get? host = (watchHost tick state host).map (·.next)
  host_dropped : ∀ host, host ∉ outcome.hosts → outcome.state.hosts.get? host = none
  map_raised : ∀ alert, ⟨.map, alert⟩ ∈ outcome.findings ↔ alert ∈ mapAlerts tick state
  map_streak : outcome.state.mapFailStreak = nextMapFailStreak tick state
  map_error : outcome.mapError = tick.mapError
  push_raised : ∀ label alert, ⟨.push label, alert⟩ ∈ outcome.findings ↔
    ∃ relay ∈ pushRelaysFromEnv tick.env, relay.label = label ∧
      alert ∈ (watchPush tick state relay).alerts
  push_stored : ∀ relay ∈ pushRelaysFromEnv tick.env, relay.label ≠ "__proto__" →
    (∀ other ∈ pushRelaysFromEnv tick.env, other.label = relay.label → other = relay) →
    outcome.state.pushes.get? relay.label = some (watchPush tick state relay).next
  push_dropped : ∀ label, (∀ relay ∈ pushRelaysFromEnv tick.env, relay.label ≠ label) →
    outcome.state.pushes.get? label = none
  push_moved : outcome.state.push = none

theorem reports_of_mapM {hosts : List String} {reports : List (String × Report HostState)}
    (all : hosts.mapM (fun host => (watchHost tick state host).map (host, ·)) = some reports) :
    reports.map Prod.fst = hosts ∧
      ∀ report ∈ reports, watchHost tick state report.1 = some report.2 := by
  induction hosts generalizing reports with
  | nil =>
      cases all
      exact ⟨rfl, by simp⟩
  | cons host rest ih =>
      rw [List.mapM_cons] at all
      obtain ⟨report, first, all⟩ := Option.bind_eq_some_iff.mp all
      obtain ⟨others, later, all⟩ := Option.bind_eq_some_iff.mp all
      obtain ⟨watched, here, rfl⟩ := Option.map_eq_some_iff.mp first
      cases all
      obtain ⟨hosts, reads⟩ := ih later
      exact ⟨by rw [List.map_cons, hosts], List.forall_mem_cons.mpr ⟨here, reads⟩⟩

theorem mem_found {source other : Source} {alerts : List Alert} {alert : Alert} :
    ⟨source, alert⟩ ∈ found other alerts ↔ source = other ∧ alert ∈ alerts := by
  simp only [found, List.mem_map, Finding.mk.injEq]
  constructor
  · rintro ⟨met, inside, rfl, rfl⟩
    exact ⟨rfl, inside⟩
  · rintro ⟨rfl, inside⟩
    exact ⟨alert, inside, rfl, rfl⟩

theorem mem_findingsOf {reports : Reports HostState} {source : Source} {alert : Alert} :
    ⟨source, alert⟩ ∈ findingsOf tick state reports ↔
      (source = .map ∧ alert ∈ mapAlerts tick state) ∨
        (∃ report ∈ reports, source = .host report.1 ∧ alert ∈ report.2.alerts) ∨
          ∃ relay ∈ pushRelaysFromEnv tick.env, source = .push relay.label ∧
            alert ∈ (watchPush tick state relay).alerts := by
  simp only [findingsOf, pushReports, List.mem_append, List.mem_flatMap, List.mem_map, mem_found,
    exists_exists_and_eq_and]

theorem run_completes (done : run tick state = some outcome) : Completes tick state outcome := by
  unfold run at done
  obtain ⟨hosts, resolved, done⟩ := Option.bind_eq_some_iff.mp done
  obtain ⟨reports, all, done⟩ := Option.bind_eq_some_iff.mp done
  cases done
  obtain ⟨rfl, reads⟩ := reports_of_mapM all
  have entry : ∀ host ∈ reports.map Prod.fst,
      ∃ report, (host, report) ∈ reports ∧ watchHost tick state host = some report := by
    intro host inside
    obtain ⟨report, member, rfl⟩ := List.mem_map.mp inside
    exact ⟨report.2, member, reads report member⟩
  constructor
  case hosts => exact resolved
  case watched =>
    intro host inside
    obtain ⟨report, _, read⟩ := entry host inside
    exact ⟨report, read⟩
  -- The two sides of each membership: the report of the list is the one that watchHost gives.
  case host_raised =>
    intro host alert
    refine mem_findingsOf.trans ?_
    simp only [reduceCtorEq, false_and, and_false, exists_false, or_false, false_or,
      Source.host.injEq]
    constructor
    · rintro ⟨report, member, rfl, raised⟩
      exact ⟨List.mem_map_of_mem member, report.2, reads report member, raised⟩
    · rintro ⟨inside, report, read, raised⟩
      obtain ⟨met, member, again⟩ := entry host inside
      obtain rfl := Option.some.inj (again.symm.trans read)
      exact ⟨_, member, rfl, raised⟩
  case host_stored =>
    intro host inside ordinary
    obtain ⟨report, member, read⟩ := entry host inside
    rw [read, Option.map_some]
    apply get?_storeAll member _ ordinary
    rintro other again rfl
    exact Option.some.inj ((reads other again).symm.trans read)
  case host_dropped =>
    intro host outside
    apply get?_storeAll_absent
    rintro report member rfl
    exact outside (List.mem_map_of_mem member)
  case map_raised =>
    intro alert
    refine mem_findingsOf.trans ?_
    simp only [reduceCtorEq, false_and, and_false, exists_false, or_false, true_and]
  case map_streak => rfl
  case map_error => rfl
  case push_raised =>
    intro label alert
    refine mem_findingsOf.trans ?_
    simp only [reduceCtorEq, false_and, and_false, exists_false, false_or, Source.push.injEq]
    constructor
    · rintro ⟨relay, member, rfl, raised⟩
      exact ⟨relay, member, rfl, raised⟩
    · rintro ⟨relay, member, rfl, raised⟩
      exact ⟨relay, member, rfl, raised⟩
  case push_stored =>
    intro relay member ordinary only
    apply get?_storeAll (List.mem_map.mpr ⟨relay, member, rfl⟩) _ ordinary
    intro report inside same
    obtain ⟨other, listed, rfl⟩ := List.mem_map.mp inside
    rw [only other listed same]
  case push_dropped =>
    intro label absent
    apply get?_storeAll_absent
    intro report inside same
    obtain ⟨relay, member, rfl⟩ := List.mem_map.mp inside
    exact absent relay member same
  case push_moved => rfl

theorem watchHost_isSome (tick : Tick) (state : State) (host : String) :
    (watchHost tick state host).isSome ↔ freshSnapshot tick host ≠ some none := by
  rw [watchHost, Option.isSome_map, pushSide]
  split <;> simp [*]

-- run() rejects only on a map whose ranges cannot be gone through and on a fresh push of the
-- document null.
theorem run_isSome (tick : Tick) (state : State) :
    (run tick state).isSome ↔ ∃ hosts, watchedHosts tick state = some hosts ∧
      ∀ host ∈ hosts, freshSnapshot tick host ≠ some none := by
  have all : ∀ hosts : List String,
      (hosts.mapM fun host => (watchHost tick state host).map (host, ·)).isSome ↔
        ∀ host ∈ hosts, freshSnapshot tick host ≠ some none := by
    intro hosts
    induction hosts with
    | nil => simp
    | cons host rest ih =>
        rw [List.mapM_cons, List.forall_mem_cons, ← watchHost_isSome tick state host, ← ih]
        cases watchHost tick state host with
        | none => simp
        | some report =>
            cases rest.mapM fun host => (watchHost tick state host).map (host, ·) <;> simp
  unfold run
  cases watchedHosts tick state with
  | none => simp
  | some hosts =>
      simp only [Option.some.injEq, exists_eq_left', ← all hosts, bind, pure, Option.bind_some]
      cases hosts.mapM fun host => (watchHost tick state host).map (host, ·) <;> rfl

end Outcomes

end Relay.Monitor.Fleet

import Mathlib.Algebra.Order.Floor.Ring
import Mathlib.Data.List.Sort
import Mathlib.Data.Rat.Floor
import CompanionRelay.Alerts
import CompanionRelay.Wire

/-!
src/monitor/src/monitor.js: what a tick reads, its configuration, and the checks that turn
the counters of two readings and the history of an hour of the week into alerts. A counter
is a whole number, a threshold any number. An hour key is the number of its clock hour.
-/

namespace Relay.Monitor

/-- The variables of the environment, as text and as the finite numbers that `n` reads. -/
structure Env where
  text : String → Option String
  number : String → Option Rat

structure Config where
  staleMs : Rat
  socketsCap : Rat
  roomsCap : Rat
  capWarnFrac : Rat
  capCritFrac : Rat
  errorRatio : Rat
  errorMinRequests : Rat
  exceptionThreshold : Rat
  shardFetchThreshold : Rat
  spikeFactor : Rat
  dropFactor : Rat
  minBaseline : Rat
  minSamples : Rat
  maxSamples : Rat
  cooldownMs : Rat
  alertFailStreak : Rat
  pushTimeoutCrit : Rat
  pushFailMinAttempts : Rat
  pushFailRatio : Rat
  peerOutboxStreak : Rat
  peerSkewWarnMs : Rat
  peerSkewCritMs : Rat
  peerSilentMs : Rat

def parseConfig (env : Env) : Config :=
  let n (name : String) (d : Rat) : Rat := (env.number name).getD d
  let minSamples := n "MIN_SAMPLES" 4
  let maxSamples := n "MAX_SAMPLES" 8
  { staleMs := n "STALE_MINUTES" 5 * 60 * 1000
    socketsCap := n "SOCKETS_CAP" 200000
    roomsCap := n "ROOMS_CAP" 200000
    capWarnFrac := n "CAP_WARN_FRAC" (7 / 10)
    capCritFrac := n "CAP_CRIT_FRAC" (9 / 10)
    errorRatio := n "ERROR_RATIO" (5 / 100)
    errorMinRequests := n "ERROR_MIN_REQUESTS" 100
    exceptionThreshold := n "EXCEPTION_THRESHOLD" 1
    shardFetchThreshold := n "SHARD_FETCH_THRESHOLD" 1
    spikeFactor := n "SPIKE_FACTOR" 3
    dropFactor := n "DROP_FACTOR" (3 / 10)
    minBaseline := n "MIN_BASELINE" 50
    minSamples := minSamples
    maxSamples := max maxSamples minSamples
    cooldownMs := n "COOLDOWN_MINUTES" 360 * 60 * 1000
    alertFailStreak := max 1 (n "ALERT_FAIL_STREAK" 2)
    pushTimeoutCrit := n "PUSH_TIMEOUT_CRIT" 3
    pushFailMinAttempts := n "PUSH_FAIL_MIN_ATTEMPTS" 5
    pushFailRatio := n "PUSH_FAIL_RATIO" (8 / 10)
    peerOutboxStreak := max 1 (n "PUSH_PEER_OUTBOX_STREAK" 3)
    peerSkewWarnMs := n "PUSH_PEER_SKEW_WARN_MS" 2000
    peerSkewCritMs := n "PUSH_PEER_SKEW_CRIT_MS" 30000
    peerSilentMs := n "PUSH_PEER_SILENT_MS" (10 * 60 * 1000) }

section Readings

structure Counters where
  requests : Int
  errors : Int
  exceptions : Int
  shardMapFetchErrors : Int
  deriving DecidableEq

structure Gauges where
  socketsLive : Int
  roomsLive : Int
  deriving DecidableEq

/-- The fields of a pushed snapshot that the checks read. -/
structure Snapshot where
  httpRequestsTotal : Option Int
  httpErrorsTotal : Option Int
  processExceptionsTotal : Option Int
  shardMapFetchErrorsTotal : Option Int
  socketsLive : Option Int
  roomsLive : Option Int
  deriving DecidableEq

structure Normalized where
  counters : Counters
  gauges : Gauges
  deriving DecidableEq

def normalizeSnapshot (s : Snapshot) : Normalized where
  counters :=
    { requests := s.httpRequestsTotal.getD 0
      errors := s.httpErrorsTotal.getD 0
      exceptions := s.processExceptionsTotal.getD 0
      shardMapFetchErrors := s.shardMapFetchErrorsTotal.getD 0 }
  gauges := { socketsLive := s.socketsLive.getD 0, roomsLive := s.roomsLive.getD 0 }

structure Interval where
  reset : Bool
  requests : Int
  errors : Int
  exceptions : Int
  shardMapFetchErrors : Int
  deriving DecidableEq

def deltas (prev : Option Counters) (cur : Counters) : Interval :=
  let reset : Interval := ⟨true, 0, 0, 0, 0⟩
  match prev with
  | none => reset
  | some prev =>
      if cur.requests < prev.requests ∨ cur.errors < prev.errors ∨
          cur.exceptions < prev.exceptions ∨ cur.shardMapFetchErrors < prev.shardMapFetchErrors then
        reset
      else
        { reset := false
          requests := cur.requests - prev.requests
          errors := cur.errors - prev.errors
          exceptions := cur.exceptions - prev.exceptions
          shardMapFetchErrors := cur.shardMapFetchErrors - prev.shardMapFetchErrors }

end Readings

section Hours

def hourMs : Nat := 3600000

def hourKey (ms : Nat) : Nat := ms / hourMs

/-- The epoch is a Thursday, day 4 of getUTCDay. -/
def hourOfWeek (key : Nat) : Nat :=
  let day := (key / 24 + 4) % 7
  let dow := (day + 6) % 7
  dow * 24 + key % 24

/-- The counters at the start of a clock hour, and the growth of a completed one. -/
structure Hour where
  key : Nat
  requests : Int
  errors : Int
  deriving DecidableEq

structure Roll where
  lastHour : Option Hour
  anchor : Hour
  deriving DecidableEq

def rollHour (anchor : Option Hour) (cur : Counters) (nowHourKey : Nat) : Roll :=
  let seed : Hour := ⟨nowHourKey, cur.requests, cur.errors⟩
  match anchor with
  | none => ⟨none, seed⟩
  | some anchor =>
      if cur.requests < anchor.requests then ⟨none, seed⟩
      else if nowHourKey = anchor.key then ⟨none, anchor⟩
      else
        ⟨some ⟨anchor.key, cur.requests - anchor.requests, cur.errors - anchor.errors⟩, seed⟩

end Hours

section History

/-- The samples of each hour of the week; an hour without any has none. -/
abbrev History := Nat → List Int

/-- Array.prototype.slice from a start that may count from the end. -/
def slice {Item : Type} (start : Int) (items : List Item) : List Item :=
  if start < 0 then items.drop (items.length - start.natAbs) else items.drop start.toNat

def truncate (value : Rat) : Int := value.num.tdiv value.den

def pushSample (history : History) (hourOfWeek : Nat) (value : Int) (maxSamples : Rat) : History :=
  Function.update history hourOfWeek
    (slice (truncate (-maxSamples)) (history hourOfWeek ++ [value]))

def median (nums : List Int) : Option Rat :=
  let s := nums.insertionSort (· ≤ ·)
  let mid := s.length / 2
  if nums = [] then none
  else if s.length % 2 = 1 then some (s.getD mid 0)
  else some ((s.getD (mid - 1) 0 + s.getD mid 0 : Int) / 2)

end History

section Checks

theorem plain_errors : ¬ ":sev".toList <:+ "errors".toList := by decide

theorem plain_probe : ¬ ":sev".toList <:+ "probe".toList := by decide

theorem plain_sockets : ¬ ":sev".toList <:+ ("cap:" ++ "sockets").toList := by decide

theorem plain_rooms : ¬ ":sev".toList <:+ ("cap:" ++ "rooms").toList := by decide

structure Meter where
  key : String
  used : Rat
  cap : Rat
  warnFrac : Rat
  critFrac : Rat
  plain : ¬ ":sev".toList <:+ ("cap:" ++ key).toList

def capAlert (m : Meter) : Option Alert :=
  if m.cap = 0 then none
  else if m.used / m.cap ≥ m.critFrac then some ⟨"cap:" ++ m.key, .critical, m.plain⟩
  else if m.used / m.cap ≥ m.warnFrac then some ⟨"cap:" ++ m.key, .warn, m.plain⟩
  else none

def capAlerts (meters : List Meter) : List Alert := meters.filterMap capAlert

def errorAlert (requests errors : Rat) (ratioThreshold minRequests : Rat) : Option Alert :=
  let ratio : Rat := if requests > 0 then errors / requests else 0
  if requests < minRequests then none
  else if ratio < ratioThreshold then none
  else some ⟨"errors", if ratio ≥ ratioThreshold * 2 then .critical else .warn, plain_errors⟩

/-- An alert on a count since the last check, critical from five times its threshold. -/
def countAlert (alert : Severity → Alert) (count : Rat) (threshold : Rat) : Option Alert :=
  if count = 0 ∨ count < threshold then none
  else some (alert (if count ≥ threshold * 5 then .critical else .warn))

def exceptionAlert (count : Rat) (threshold : Rat) : Option Alert :=
  countAlert (⟨"exceptions", ·, by decide⟩) count threshold

def shardFetchErrorAlert (count : Rat) (threshold : Rat) : Option Alert :=
  countAlert (⟨"shard_fetch", ·, by decide⟩) count threshold

def livenessAlert : Alert := ⟨"liveness", .critical, by decide⟩

def probeAlert : Alert := ⟨"probe", .critical, plain_probe⟩

def anomalyAlert (current : Int) (samples : List Int) (config : Config) : Option Alert :=
  if samples.length < config.minSamples then none
  else
    match median samples with
    | none => none
    | some base =>
        if base < config.minBaseline then none
        else if current ≥ base * config.spikeFactor ∨ current ≤ base * config.dropFactor then
          some ⟨"anomaly:requests", .warn, by decide⟩
        else none

end Checks

/-- The stored state of a watched host. -/
structure HostState where
  prev : Option Counters
  hourAnchor : Option Hour
  history : History
  lastRecordedHour : Option Nat
  livenessFailStreak : Nat
  probeFailStreak : Nat

def HostState.empty : HostState := ⟨none, none, fun _ => [], none, 0, 0⟩

structure Analysis where
  alerts : List Alert
  history : History
  lastRecordedHour : Option Nat

/-- The part of analyze that reads the gauges. -/
def gaugeAlerts (gauges : Gauges) (config : Config) : List Alert :=
  capAlerts
    [⟨"sockets", gauges.socketsLive, config.socketsCap, config.capWarnFrac, config.capCritFrac,
        plain_sockets⟩,
      ⟨"rooms", gauges.roomsLive, config.roomsCap, config.capWarnFrac, config.capCritFrac,
        plain_rooms⟩]

/-- The part of analyze that reads the interval since the previous counters. -/
def intervalAlerts (interval : Interval) (config : Config) : List Alert :=
  if interval.reset then []
  else
    (errorAlert interval.requests interval.errors config.errorRatio
        config.errorMinRequests).toList ++
      (exceptionAlert interval.exceptions config.exceptionThreshold).toList ++
      (shardFetchErrorAlert interval.shardMapFetchErrors config.shardFetchThreshold).toList

def analyze (gauges : Gauges) (interval : Interval) (lastHour : Option Hour) (state : HostState)
    (config : Config) : Analysis :=
  let alerts := gaugeAlerts gauges config ++ intervalAlerts interval config
  match lastHour with
  | none => ⟨alerts, state.history, state.lastRecordedHour⟩
  | some hour =>
      let how := hourOfWeek hour.key
      let an := (anomalyAlert hour.requests (state.history how) config).toList
      if some hour.key = state.lastRecordedHour then
        ⟨alerts ++ an, state.history, state.lastRecordedHour⟩
      else
        ⟨alerts ++ an, pushSample state.history how hour.requests config.maxSamples,
          some hour.key⟩

section PushRelay

structure PushRelay where
  index : Nat
  label : String
  metricsUrl : String
  probeUrl : Option String
  deriving DecidableEq

def pushRelaysFromEnv (env : Env) : List PushRelay :=
  (List.range' 1 9).filterMap fun n =>
    let p := if n = 1 then "PUSH_" else "PUSH" ++ toString n ++ "_"
    (truthy (env.text (p ++ "METRICS_URL"))).map fun metricsUrl =>
      { index := n
        label := (truthy (env.text (p ++ "HOST_LABEL"))).getD
          (if n = 1 then "push" else "push" ++ toString n)
        metricsUrl := metricsUrl
        probeUrl := truthy (env.text (p ++ "PROBE_URL")) }

structure PushCounters where
  pushes : Int
  delivered : Int
  failed : Int
  timeouts : Int
  authRejects : Int
  deriving DecidableEq

structure Peer where
  outbox : Int
  skewMs : Int
  dropped : Int
  rejected : Int
  lastOkTs : Int
  hasLastOk : Bool
  deriving DecidableEq

/-- What parsePushMetrics reads of a scrape for the checks. -/
structure PushMetrics where
  counters : PushCounters
  peer : Option Peer
  deriving DecidableEq

def pushDeltas (prev : Option PushCounters) (cur : PushCounters) : Option PushCounters :=
  prev.bind fun prev =>
    let out : PushCounters :=
      { pushes := cur.pushes - prev.pushes
        delivered := cur.delivered - prev.delivered
        failed := cur.failed - prev.failed
        timeouts := cur.timeouts - prev.timeouts
        authRejects := cur.authRejects - prev.authRejects }
    if out.pushes < 0 ∨ out.delivered < 0 ∨ out.failed < 0 ∨ out.timeouts < 0 ∨ out.authRejects < 0
      then none else some out

def pushAlerts (interval : Option PushCounters) (cfg : Config) : List Alert :=
  match interval with
  | none => []
  | some interval =>
      let attempts := interval.delivered + interval.failed
      (if interval.timeouts ≥ 1 then
        [⟨"apns_timeouts",
          if interval.timeouts ≥ cfg.pushTimeoutCrit ∨ interval.delivered = 0
            then .critical else .warn, by decide⟩] else []) ++
      (if interval.authRejects ≥ 1 then [⟨"apns_auth", .critical, by decide⟩] else []) ++
      (if attempts ≥ cfg.pushFailMinAttempts ∧ 0 < attempts ∧
          (interval.failed : Rat) / attempts ≥ cfg.pushFailRatio then
        [⟨"push_failures", .warn, by decide⟩] else [])

def peerAlerts (peer prevPeer : Option Peer) (outboxStreak : Nat) (cfg : Config) (now : Nat)
    (neverAnsweredSince : Option Nat) : List Alert :=
  match peer with
  | none => []
  | some peer =>
      let silentMs : Int :=
        if peer.lastOkTs > 0 then now - peer.lastOkTs * 1000
        else now - neverAnsweredSince.getD now
      (if peer.hasLastOk ∧ silentMs ≥ cfg.peerSilentMs then
        [⟨"peer_silent", .warn, by decide⟩] else []) ++
      (if outboxStreak ≥ cfg.peerOutboxStreak then [⟨"peer_outbox", .warn, by decide⟩] else []) ++
      (if (peer.skewMs.natAbs : Rat) ≥ cfg.peerSkewWarnMs then
        [⟨"peer_skew", if (peer.skewMs.natAbs : Rat) ≥ cfg.peerSkewCritMs
          then .critical else .warn, by decide⟩] else []) ++
      (match prevPeer with
      | none => []
      | some prevPeer =>
          (if peer.dropped - prevPeer.dropped > 0 then
            [⟨"peer_dropped", .warn, by decide⟩] else []) ++
          (if peer.rejected - prevPeer.rejected > 0 then
            [⟨"peer_rejected", .warn, by decide⟩] else []))

end PushRelay

section Keys
variable {alert : Alert}

theorem key_of_capAlert {m : Meter} (raised : capAlert m = some alert) :
    alert.key = "cap:" ++ m.key := by
  unfold capAlert at raised
  split at raised
  · cases raised
  · split at raised
    · cases raised
      rfl
    · split at raised <;> cases raised
      rfl

theorem key_of_errorAlert {requests errors : Rat} {ratioThreshold minRequests : Rat}
    (raised : errorAlert requests errors ratioThreshold minRequests = some alert) :
    alert.key = "errors" := by
  simp only [errorAlert, Option.ite_none_left_eq_some, Option.some.injEq] at raised
  obtain ⟨_, _, rfl⟩ := raised
  rfl

theorem key_of_countAlert {key : String} {make : Severity → Alert} {count threshold : Rat}
    (made : ∀ severity, (make severity).key = key)
    (raised : countAlert make count threshold = some alert) : alert.key = key := by
  simp only [countAlert, Option.ite_none_left_eq_some, Option.some.injEq] at raised
  obtain ⟨_, rfl⟩ := raised
  exact made _

theorem key_of_anomalyAlert {current : Int} {samples : List Int} {config : Config}
    (raised : anomalyAlert current samples config = some alert) :
    alert.key = "anomaly:requests" := by
  unfold anomalyAlert at raised
  split at raised
  · cases raised
  · split at raised
    · cases raised
    · simp only [Option.ite_none_left_eq_some, Option.ite_none_right_eq_some,
        Option.some.injEq] at raised
      obtain ⟨_, _, rfl⟩ := raised
      rfl

/-- The keys of the alerts that the analysis of a fresh push raises. -/
def analysisKeys : List String :=
  ["cap:sockets", "cap:rooms", "errors", "exceptions", "shard_fetch", "anomaly:requests"]

theorem gaugeAlerts_keys {gauges : Gauges} {config : Config}
    (raised : alert ∈ gaugeAlerts gauges config) : alert.key ∈ analysisKeys := by
  obtain ⟨m, listed, raised⟩ := List.mem_filterMap.mp raised
  rw [key_of_capAlert raised]
  simp only [List.mem_cons, List.not_mem_nil, or_false] at listed
  rcases listed with rfl | rfl
  · exact .head _
  · exact .tail _ (.head _)

theorem intervalAlerts_keys {interval : Interval} {config : Config}
    (raised : alert ∈ intervalAlerts interval config) : alert.key ∈ analysisKeys := by
  unfold intervalAlerts at raised
  split at raised
  · exact absurd raised List.not_mem_nil
  · simp only [List.mem_append, Option.mem_toList] at raised
    rcases raised with (raised | raised) | raised
    · rw [key_of_errorAlert raised]
      simp [analysisKeys]
    · rw [key_of_countAlert (fun _ => rfl) raised]
      simp [analysisKeys]
    · rw [key_of_countAlert (fun _ => rfl) raised]
      simp [analysisKeys]

theorem analyze_keys {gauges : Gauges} {interval : Interval} {lastHour : Option Hour}
    {state : HostState} {config : Config}
    (raised : alert ∈ (analyze gauges interval lastHour state config).alerts) :
    alert.key ∈ analysisKeys := by
  have always : alert ∈ gaugeAlerts gauges config ++ intervalAlerts interval config →
      alert.key ∈ analysisKeys := by
    intro raised
    rcases List.mem_append.mp raised with raised | raised
    · exact gaugeAlerts_keys raised
    · exact intervalAlerts_keys raised
  cases lastHour with
  | none => exact always raised
  | some hour =>
      have either : alert ∈ gaugeAlerts gauges config ++ intervalAlerts interval config ++
          (anomalyAlert hour.requests (state.history (hourOfWeek hour.key)) config).toList := by
        simp only [analyze] at raised
        split at raised <;> exact raised
      rcases List.mem_append.mp either with raised | raised
      · exact always raised
      · rw [key_of_anomalyAlert (Option.mem_toList.mp raised)]
        simp [analysisKeys]

/-- The keys of the alerts that the counters of a push relay and its peer raise. -/
def pushKeys : List String :=
  ["apns_timeouts", "apns_auth", "push_failures", "peer_silent", "peer_outbox", "peer_skew",
    "peer_dropped", "peer_rejected"]

theorem mem_ite_singleton {condition : Prop} [Decidable condition] {made : Alert}
    (raised : alert ∈ if condition then [made] else []) : alert = made := by
  split at raised
  · exact List.mem_singleton.mp raised
  · exact absurd raised List.not_mem_nil

theorem pushAlerts_keys {interval : Option PushCounters} {cfg : Config}
    (raised : alert ∈ pushAlerts interval cfg) : alert.key ∈ pushKeys := by
  unfold pushAlerts at raised
  split at raised
  · exact absurd raised List.not_mem_nil
  · simp only [List.mem_append] at raised
    rcases raised with (raised | raised) | raised <;>
      rw [mem_ite_singleton raised] <;> simp [pushKeys]

theorem peerAlerts_keys {peer prevPeer : Option Peer} {outboxStreak now : Nat} {cfg : Config}
    {neverAnsweredSince : Option Nat}
    (raised : alert ∈ peerAlerts peer prevPeer outboxStreak cfg now neverAnsweredSince) :
    alert.key ∈ pushKeys := by
  unfold peerAlerts at raised
  split at raised
  · exact absurd raised List.not_mem_nil
  · simp only [List.mem_append] at raised
    rcases raised with ((raised | raised) | raised) | raised
    · rw [mem_ite_singleton raised]
      simp [pushKeys]
    · rw [mem_ite_singleton raised]
      simp [pushKeys]
    · rw [mem_ite_singleton raised]
      simp [pushKeys]
    · split at raised
      · exact absurd raised List.not_mem_nil
      · rcases List.mem_append.mp raised with raised | raised <;>
          rw [mem_ite_singleton raised] <;> simp [pushKeys]

end Keys

end Relay.Monitor

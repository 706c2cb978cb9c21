import Mathlib.Algebra.Order.Ring.Rat
import CompanionRelay.Ordered

/-!
src/host/metrics.js: the counters of a relay, the snapshot that it pushes and the text that it
renders of them. A reason stands in the key of its counter behind a NUL, and the text is kept as
its lines, each written out by Line.text.
-/

namespace Relay.Exposition

abbrev Text := List Char

section Names

/-- The counters that the host counts with inc. -/
inductive Counter
  | wsUpgradesTotal
  | httpRequestsTotal
  | httpErrorsTotal
  | processExceptionsTotal
  | metricsPushErrorsTotal
  | quotaExceededTotal
  | phoneNoMacTotal
  | wsKeepaliveTerminatedTotal
  | shardRejectTotal
  | shardMapReloadsTotal
  | shardMapFetchErrorsTotal
  | shardMapFetchRetriesTotal
  deriving DecidableEq

def Counter.name : Counter → Text
  | .wsUpgradesTotal => "ws_upgrades_total".toList
  | .httpRequestsTotal => "http_requests_total".toList
  | .httpErrorsTotal => "http_errors_total".toList
  | .processExceptionsTotal => "process_exceptions_total".toList
  | .metricsPushErrorsTotal => "metrics_push_errors_total".toList
  | .quotaExceededTotal => "quota_exceeded_total".toList
  | .phoneNoMacTotal => "phone_no_mac_total".toList
  | .wsKeepaliveTerminatedTotal => "ws_keepalive_terminated_total".toList
  | .shardRejectTotal => "shard_reject_total".toList
  | .shardMapReloadsTotal => "shard_map_reloads_total".toList
  | .shardMapFetchErrorsTotal => "shard_map_fetch_errors_total".toList
  | .shardMapFetchRetriesTotal => "shard_map_fetch_retries_total".toList

/-- The counters that the host counts with incReason. -/
inductive Labeled
  | wsUpgradesRejectedTotal
  | shardMapFetchErrorsByCauseTotal
  deriving DecidableEq

def Labeled.name : Labeled → Text
  | .wsUpgradesRejectedTotal => "ws_upgrades_rejected_total".toList
  | .shardMapFetchErrorsByCauseTotal => "shard_map_fetch_errors_by_cause_total".toList

/-- The reasons of reject in host/server.js and the causes of classifyShardFetchError. -/
def Labeled.reasons : Labeled → List String
  | .wsUpgradesRejectedTotal => ["gate", "rate_limited", "ip_cap", "total_cap", "room_cap"]
  | .shardMapFetchErrorsByCauseTotal =>
      ["other", "http_5xx", "http_4xx", "http_other", "parse", "timeout", "dns", "conn", "tls"]

inductive Gauge
  | roomsLive
  | socketsLive
  | roomsBoth
  | roomsMacOnly
  | roomsPhoneOnly
  | roomsNeither
  | shardMapVersion
  | shardOwnedBuckets
  | shardDrainingBuckets
  deriving DecidableEq

def Gauge.name : Gauge → Text
  | .roomsLive => "rooms_live".toList
  | .socketsLive => "sockets_live".toList
  | .roomsBoth => "rooms_both".toList
  | .roomsMacOnly => "rooms_mac_only".toList
  | .roomsPhoneOnly => "rooms_phone_only".toList
  | .roomsNeither => "rooms_neither".toList
  | .shardMapVersion => "shard_map_version".toList
  | .shardOwnedBuckets => "shard_owned_buckets".toList
  | .shardDrainingBuckets => "shard_draining_buckets".toList

def counterHelp : List (String × String) :=
  [("ws_upgrades_total", "WebSocket upgrades accepted."),
    ("ws_upgrades_rejected_total", "WebSocket upgrades rejected before handshake, by reason."),
    ("http_requests_total", "HTTP (non-upgrade) requests received."),
    ("http_errors_total", "HTTP requests that threw and returned 500."),
    ("process_exceptions_total", "Process-level exceptions swallowed to keep serving."),
    ("metrics_push_errors_total",
      "Outbound metrics-push attempts that failed (network or non-2xx)."),
    ("quota_exceeded_total", "Sockets closed because their room exceeded its daily byte quota."),
    ("phone_no_mac_total",
      "Phones turned away because no mac was parked in their room (admit -> \"mac offline\")."),
    ("ws_keepalive_terminated_total",
      "Sockets terminated by keepalive after a missed ping/pong (dead peer or path)."),
    ("shard_reject_total",
      "Requests rejected because this box does not own the bucket (reject-on-doubt)."),
    ("shard_map_reloads_total", "Shard-map versions adopted (distributed mode)."),
    ("shard_map_fetch_errors_total",
      "Shard-map fetch polls that failed after all retries (kept last-known-good)."),
    ("shard_map_fetch_errors_by_cause_total",
      "Shard-map fetch failures by cause (dns/timeout/conn/tls/http_5xx/http_4xx/parse/other), for attributing an outage after the fact."),
    ("shard_map_fetch_retries_total",
      "Shard-map fetch attempts retried after a transient failure (per-attempt; a climbing rate with a flat errors_total means the path is lossy but retries are absorbing it).")]

def gaugeHelp : List (String × String) :=
  [("rooms_live", "Rooms currently resident in memory."),
    ("sockets_live", "WebSocket connections currently open."),
    ("rooms_both", "Resident rooms with both a mac and a phone admitted (spliced)."),
    ("rooms_mac_only", "Resident rooms with a mac parked but no phone."),
    ("rooms_phone_only",
      "Resident rooms with a phone admitted but no mac (should stay 0; invariant tripwire)."),
    ("rooms_neither",
      "Resident rooms with no admitted socket (pre-auth only, or idle established)."),
    ("shard_map_version", "Adopted shard-map version, or -1 if none (distributed mode)."),
    ("shard_owned_buckets", "Buckets this box currently owns (distributed mode)."),
    ("shard_draining_buckets", "Buckets currently draining after a reshard (distributed mode).")]

/-- LIFETIME_BUCKETS, each with the text of its number. -/
def lifetimeBuckets : List (Nat × String) :=
  [(1, "1"), (5, "5"), (15, "15"), (60, "60"), (300, "300"), (1800, "1800")]

end Names

section Counting

structure Metrics where
  counters : OrderedMap Text Rat
  bucketCounts : List Nat
  lifetimeInf : Nat
  lifetimeSum : Rat

def Metrics.new : Metrics := ⟨.empty, lifetimeBuckets.map fun _ => 0, 0, 0⟩

def Metrics.inc (metrics : Metrics) (name : Text) (value : Rat) : Metrics :=
  { metrics with
      counters := metrics.counters.set name ((metrics.counters.get? name).getD 0 + value) }

/-- `${name}\x00${reason}` -/
def reasonKey (name reason : Text) : Text := name ++ '\x00' :: reason

def Metrics.incReason (metrics : Metrics) (name reason : Text) : Metrics :=
  metrics.inc (reasonKey name reason) 1

def Metrics.observeSocketLifetime (metrics : Metrics) (seconds : Rat) : Metrics :=
  { metrics with
      lifetimeInf := metrics.lifetimeInf + 1
      lifetimeSum := metrics.lifetimeSum + seconds
      bucketCounts := List.zipWith
        (fun bucket count => if seconds ≤ (bucket.1 : Rat) then count + 1 else count)
        lifetimeBuckets metrics.bucketCounts }

/-- What the host calls, with the names and the reasons that it has. -/
inductive Call
  | inc (counter : Counter) (value : Rat)
  | incReason (labeled : Labeled) (reason : String) (listed : reason ∈ labeled.reasons)
  | observeSocketLifetime (seconds : Rat)

def Metrics.call (metrics : Metrics) : Call → Metrics
  | .inc counter value => metrics.inc counter.name value
  | .incReason labeled reason _ => metrics.incReason labeled.name reason.toList
  | .observeSocketLifetime seconds => metrics.observeSocketLifetime seconds

def Metrics.run (calls : List Call) : Metrics := calls.foldl Metrics.call .new

abbrev Gauges := OrderedMap Gauge Rat

end Counting

section Snapshot

/-- The keys of a snapshot. -/
inductive Quantity
  | wsUpgradesTotal
  | wsUpgradesRejectedTotal
  | httpRequestsTotal
  | httpErrorsTotal
  | processExceptionsTotal
  | quotaExceededTotal
  | roomsLive
  | socketsLive
  | shardRejectTotal
  | shardMapReloadsTotal
  | shardMapFetchErrorsTotal
  | shardMapVersion
  | shardOwnedBuckets
  | shardDrainingBuckets
  deriving DecidableEq

def Metrics.count (metrics : Metrics) (counter : Counter) : Rat :=
  (metrics.counters.get? counter.name).getD 0

/-- The sum over the keys that start with the name and a NUL. -/
def Metrics.rejected (metrics : Metrics) : Rat :=
  ((metrics.counters.entries.filter fun entry =>
    (reasonKey Labeled.wsUpgradesRejectedTotal.name []).isPrefixOf entry.1).map Prod.snd).sum

def Metrics.snapshot (metrics : Metrics) (gauges : Gauges) : Quantity → Rat
  | .wsUpgradesTotal => metrics.count .wsUpgradesTotal
  | .wsUpgradesRejectedTotal => metrics.rejected
  | .httpRequestsTotal => metrics.count .httpRequestsTotal
  | .httpErrorsTotal => metrics.count .httpErrorsTotal
  | .processExceptionsTotal => metrics.count .processExceptionsTotal
  | .quotaExceededTotal => metrics.count .quotaExceededTotal
  | .roomsLive => (gauges.get? .roomsLive).getD 0
  | .socketsLive => (gauges.get? .socketsLive).getD 0
  | .shardRejectTotal => metrics.count .shardRejectTotal
  | .shardMapReloadsTotal => metrics.count .shardMapReloadsTotal
  | .shardMapFetchErrorsTotal => metrics.count .shardMapFetchErrorsTotal
  | .shardMapVersion => (gauges.get? .shardMapVersion).getD (-1)
  | .shardOwnedBuckets => (gauges.get? .shardOwnedBuckets).getD 0
  | .shardDrainingBuckets => (gauges.get? .shardDrainingBuckets).getD 0

end Snapshot

section Render

/-- The parts of the JavaScript runtime that the text goes through: `${number}`, Number(text)
with none for what is not finite, and a.localeCompare(b) <= 0. -/
structure Runtime where
  print : Rat → Text
  number : Text → Option Rat
  localeLe : Text → Text → Bool

structure Sample where
  name : Text
  label : Option (Text × Text)
  value : Rat

inductive Line
  | help (name text : Text)
  | type (name kind : Text)
  | sample (sample : Sample)

def Sample.labelText (sample : Sample) : Text :=
  match sample.label with
  | none => []
  | some (key, value) => '{' :: key ++ "=\"".toList ++ value ++ "\"\x7d".toList

def Line.text (runtime : Runtime) : Line → Text
  | .help name text => "# HELP relay_".toList ++ name ++ ' ' :: text
  | .type name kind => "# TYPE relay_".toList ++ name ++ ' ' :: kind
  | .sample point =>
      "relay_".toList ++ point.name ++ point.labelText ++ ' ' :: runtime.print point.value

/-- The lines so far and emittedHelp. -/
structure Output where
  lines : List Line
  emitted : List Text

def Output.push (output : Output) (sample : Sample) : Output :=
  { output with lines := output.lines ++ [.sample sample] }

def helpOf (name : Text) : Option String :=
  (counterHelp.lookup (String.ofList name)).or (gaugeHelp.lookup (String.ofList name))

def Output.help (output : Output) (name : Text) (kind : String) : Output :=
  if name ∈ output.emitted then output
  else
    { lines := output.lines ++ ((helpOf name).map fun text => Line.help name text.toList).toList ++
        [.type name kind.toList]
      emitted := name :: output.emitted }

/-- The counters of a Metrics apart: the plain ones and, by their name, the reason-labeled ones. -/
structure Split where
  plain : OrderedMap Text Rat
  labeled : OrderedMap Text (List (Text × Rat))

/-- What is before the first NUL of a key, and what is behind it if there is one. -/
def splitKey (key : Text) : Text × Option Text :=
  match key.dropWhile (· ≠ '\x00') with
  | [] => (key, none)
  | _ :: reason => (key.takeWhile (· ≠ '\x00'), some reason)

def Split.add (split : Split) (entry : Text × Rat) : Split :=
  match splitKey entry.1 with
  | (name, none) => { split with plain := split.plain.set name entry.2 }
  | (name, some reason) =>
      let entries := (split.labeled.get? name).getD [] ++ [(reason, entry.2)]
      { split with labeled := split.labeled.set name entries }

def Metrics.split (metrics : Metrics) : Split :=
  metrics.counters.entries.foldl Split.add ⟨.empty, .empty⟩

def plainSample (entry : Text × Rat) : Sample := ⟨entry.1, none, entry.2⟩

/-- The labeled counters of a name, sorted by their reasons. -/
def labeledSamples (runtime : Runtime) (entry : Text × List (Text × Rat)) : List Sample :=
  (entry.2.mergeSort fun a b => runtime.localeLe a.1 b.1).map fun labeled =>
    ⟨entry.1, some ("reason".toList, labeled.1), labeled.2⟩

def gaugeSample (entry : Gauge × Rat) : Sample := ⟨entry.1.name, none, entry.2⟩

def lifetimeName : Text := "socket_lifetime_seconds".toList

def Metrics.lifetimeSamples (metrics : Metrics) : List Sample :=
  List.zipWith (fun bucket (count : Nat) =>
      ⟨lifetimeName ++ "_bucket".toList, some ("le".toList, bucket.2.toList), count⟩)
    lifetimeBuckets metrics.bucketCounts ++
  [⟨lifetimeName ++ "_bucket".toList, some ("le".toList, "+Inf".toList), metrics.lifetimeInf⟩,
    ⟨lifetimeName ++ "_sum".toList, none, metrics.lifetimeSum⟩,
    ⟨lifetimeName ++ "_count".toList, none, metrics.lifetimeInf⟩]

/-- One sample of its name under one help. -/
def Output.single (kind : String) (output : Output) (sample : Sample) : Output :=
  (output.help sample.name kind).push sample

def Output.family (runtime : Runtime) (output : Output) (entry : Text × List (Text × Rat)) : Output :=
  (labeledSamples runtime entry).foldl Output.push (output.help entry.1 "counter")

def Metrics.lines (runtime : Runtime) (metrics : Metrics) (gauges : Gauges) : List Line :=
  let output := (metrics.split.plain.entries.map plainSample).foldl (Output.single "counter") ⟨[], []⟩
  let output := metrics.split.labeled.entries.foldl (Output.family runtime) output
  let output := (gauges.entries.map gaugeSample).foldl (Output.single "gauge") output
  output.lines ++
    [.help lifetimeName "How long WebSocket connections lived.".toList,
      .type lifetimeName "histogram".toList] ++
    metrics.lifetimeSamples.map .sample

def Metrics.render (runtime : Runtime) (metrics : Metrics) (gauges : Gauges) : Text :=
  ['\n'].intercalate ((metrics.lines runtime gauges).map (Line.text runtime)) ++ ['\n']

end Render

end Relay.Exposition

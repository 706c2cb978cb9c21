import CompanionRelay.ShardMapStore
import CompanionRelay.Tally
import Mathlib.Data.List.DropRight
import Mathlib.Tactic.Linarith
import Mathlib.Tactic.Ring

/-!
How a relay of a fleet gets its shard map: the attempts of a fetch, the cause of its failure, what
is counted and logged of an outage, and the boot that waits for the first map. An attempt is what
the network answers and how long it takes; the clock of the log is any clock.
-/

namespace Relay.ShardFetch
open Exposition

section Fault

/-- What is read of an error that was thrown. -/
structure Fault where
  name : String
  message : String
  -- where it is a number
  httpStatus : Option Int := none
  cfRay : String := ""
  kind : String := ""
  -- String(code) of the error and of its causes, empty where it is falsy
  codes : List String := []
  deriving DecidableEq

/-- errCode: the first code of an error and three causes. -/
def errCode (fault : Fault) : String := ((fault.codes.take 4).find? (· ≠ "")).getD ""

inductive Cause
  | other
  | http5xx
  | http4xx
  | httpOther
  | parse
  | timeout
  | dns
  | conn
  | tls
  deriving DecidableEq

def Cause.text : Cause → String
  | .other => "other"
  | .http5xx => "http_5xx"
  | .http4xx => "http_4xx"
  | .httpOther => "http_other"
  | .parse => "parse"
  | .timeout => "timeout"
  | .dns => "dns"
  | .conn => "conn"
  | .tls => "tls"

def timeoutCodes : List String :=
  ["ETIMEDOUT", "UND_ERR_CONNECT_TIMEOUT", "UND_ERR_HEADERS_TIMEOUT", "UND_ERR_BODY_TIMEOUT"]

def connCodes : List String :=
  ["ECONNREFUSED", "ECONNRESET", "EHOSTUNREACH", "ENETUNREACH", "EPIPE", "ECONNABORTED"]

def tlsPrefixes : List String :=
  ["CERT_", "ERR_TLS", "EPROTO", "DEPTH_ZERO", "SELF_SIGNED", "UNABLE_TO_VERIFY", "ERR_SSL"]

/-- `text.slice(0, units)` as the log writes it, the half of a surrogate pair as U+FFFD. -/
def sliceUnits : (units : Nat) → List Char → List Char
  | _, [] => []
  | units, char :: rest =>
      let size := utf16Length char.toString
      if units = 0 then []
      else if units < size then ['\uFFFD']
      else char :: sliceUnits (units - size) rest

example : sliceUnits 2 ['a', '😀', 'b'] = ['a', '\uFFFD'] := by decide

/-- The error of a rejected fetch, or undefined where no attempt was made. -/
abbrev Thrown := Option Fault

def classifyShardFetchError : Thrown → Cause × String
  | none => (.other, "unknown")
  | some fault =>
      match fault.httpStatus with
      | some status =>
          (if status ≥ 500 then .http5xx else if status ≥ 400 then .http4xx else .httpOther,
            if fault.cfRay = "" then "HTTP " ++ toString status
            else "HTTP " ++ toString status ++ " cf-ray=" ++ fault.cfRay)
      | none =>
          if fault.kind ≠ "" then (.parse, fault.kind)
          else if fault.name = "SyntaxError" then (.parse, "json")
          else if fault.name = "AbortError" then (.timeout, "abort")
          else
            let code := errCode fault
            if code ∈ ["ENOTFOUND", "EAI_AGAIN"] then (.dns, code)
            else if code ∈ timeoutCodes then (.timeout, code)
            else if code ∈ connCodes then (.conn, code)
            else if tlsPrefixes.any fun start => start.toList.isPrefixOf code.toList then
              (.tls, code)
            else
              (.other, if code ≠ "" then code
                else if fault.message ≠ "" then String.ofList (sliceUnits 80 fault.message.toList)
                else "unknown")

def shouldRetryShardFetch (fault : Fault) : Bool :=
  match fault.httpStatus with
  | some status => !(status ≥ 400 && status < 500)
  | none => true

end Fault

section Attempt

/-- What an attempt comes to if it is not aborted, and when. -/
structure Answer where
  tookMs : Nat
  -- a status with the cf-ray of the response and what its body reads as
  response : Except Fault (Nat × String × Except Fault String)

def abortError : Fault where
  name := "AbortError"
  message := "This operation was aborted"
  codes := ["20"]

def fetchShardMapOnce (timeoutMs : Nat) (answer : Answer) : Except Fault String :=
  if timeoutMs ≤ answer.tookMs then .error abortError
  else
    match answer.response with
    | .error fault => .error fault
    | .ok (status, cfRay, body) =>
        if 200 ≤ status && status ≤ 299 then body
        else .error {
          name := "Error"
          message := "shardmap HTTP " ++ toString status
          httpStatus := some status
          cfRay := cfRay }

/-- What fetchShardMapWithRetry settles with, the calls of onRetry, and how long it takes. -/
structure Fetch where
  result : Except Thrown String
  retries : List (Fault × Nat) := []
  tookMs : Nat := 0

variable (timeoutMs attempts : Nat) (wire : Nat → Answer)

/-- The loop of fetchShardMapWithRetry, with the iterations that are left. -/
def fetchLoop : (left attempt : Nat) → Thrown → Fetch
  | 0, _, last => { result := .error last }
  | left + 1, attempt, _ =>
      let took := min timeoutMs (wire attempt).tookMs
      match fetchShardMapOnce timeoutMs (wire attempt) with
      | .ok text => { result := .ok text, tookMs := took }
      | .error fault =>
          if attempt ≥ attempts || !shouldRetryShardFetch fault then
            { result := .error (some fault), tookMs := took }
          else
            let rest := fetchLoop left (attempt + 1) (some fault)
            { rest with
                retries := (fault, attempt) :: rest.retries
                tookMs := took + rest.tookMs }

def fetchShardMapWithRetry : Fetch := fetchLoop timeoutMs attempts wire attempts 1 none

def attemptTimeoutMs : Nat := 3000

def fetchAttempts : Nat := 3

def pollIntervalMs : Nat := 10000

/-- The attempts before this one failed, each with an error that is worth another one. -/
def Absorbs (attempt : Nat) : Prop :=
  ∀ earlier, 1 ≤ earlier → earlier < attempt → ∃ fault,
    fetchShardMapOnce timeoutMs (wire earlier) = .error fault ∧ shouldRetryShardFetch fault = true

/-- What a fetch makes of the attempts: the first that succeeds, or the first failure that no other
attempt is made for. -/
structure Retries (fetch : Fetch) : Prop where
  answers : ∀ text, fetch.result = .ok text ↔ ∃ attempt, 1 ≤ attempt ∧ attempt ≤ attempts ∧
    Absorbs timeoutMs wire attempt ∧ fetchShardMapOnce timeoutMs (wire attempt) = .ok text
  fails : ∀ fault, fetch.result = .error (some fault) ↔
    ∃ attempt, 1 ≤ attempt ∧ attempt ≤ attempts ∧ Absorbs timeoutMs wire attempt ∧
      fetchShardMapOnce timeoutMs (wire attempt) = .error fault ∧
      (attempt = attempts ∨ shouldRetryShardFetch fault = false)
  -- onRetry is called once for each failure that was absorbed, and for no other
  absorbed : ∀ fault attempt, (fault, attempt) ∈ fetch.retries ↔
    1 ≤ attempt ∧ attempt < attempts ∧ Absorbs timeoutMs wire (attempt + 1) ∧
      fetchShardMapOnce timeoutMs (wire attempt) = .error fault
  once : (fetch.retries.map Prod.snd).Nodup
  took : fetch.tookMs ≤ (fetch.retries.length + 1) * timeoutMs
  few : fetch.retries.length + 1 ≤ max 1 attempts

section Loop
variable {timeoutMs attempts : Nat} {wire : Nat → Answer}

/-- The attempt that is the last one. -/
structure Stops (timeoutMs attempts : Nat) (wire : Nat → Answer) (attempt : Nat) : Prop where
  first : 1 ≤ attempt
  allowed : attempt ≤ attempts
  absorbs : Absorbs timeoutMs wire attempt
  last : ∀ fault, fetchShardMapOnce timeoutMs (wire attempt) = .error fault →
    attempt = attempts ∨ shouldRetryShardFetch fault = false

theorem Stops.unique {attempt other : Nat} (stops : Stops timeoutMs attempts wire attempt)
    (halts : Stops timeoutMs attempts wire other) : attempt = other := by
  have later : ∀ {one two : Nat}, Stops timeoutMs attempts wire one →
      Stops timeoutMs attempts wire two → ¬ one < two := by
    intro one two stops halts before
    obtain ⟨fault, failed, again⟩ := halts.absorbs one stops.first before
    rcases stops.last fault failed with here | never
    · exact absurd halts.allowed (by omega)
    · rw [again] at never
      exact Bool.noConfusion never
  exact le_antisymm (Nat.not_lt.mp (later halts stops)) (Nat.not_lt.mp (later stops halts))

/-- What the loop has done when it stops at an attempt. -/
structure Looped (timeoutMs attempts : Nat) (wire : Nat → Answer) (first last : Nat)
    (fetch : Fetch) : Prop where
  stops : Stops timeoutMs attempts wire last
  result : fetch.result = (fetchShardMapOnce timeoutMs (wire last)).mapError some
  numbers : fetch.retries.map Prod.snd = List.range' first (last - first)
  faults : ∀ retried ∈ fetch.retries,
    fetchShardMapOnce timeoutMs (wire retried.2) = .error retried.1
  took : fetch.tookMs ≤ (last - first + 1) * timeoutMs

theorem loop_stops {left attempt : Nat} (last : Thrown) (whole : attempt + left = attempts + 1)
    (some_ : 1 ≤ left) (first : 1 ≤ attempt) (absorbs : Absorbs timeoutMs wire attempt) :
    ∃ stop, attempt ≤ stop ∧
      Looped timeoutMs attempts wire attempt stop
        (fetchLoop timeoutMs attempts wire left attempt last) := by
  induction left generalizing attempt last with
  | zero => omega
  | succ left ih =>
      have took : min timeoutMs (wire attempt).tookMs ≤ timeoutMs := min_le_left _ _
      have here : ∀ {fetch : Fetch}, Stops timeoutMs attempts wire attempt →
          fetch.result = (fetchShardMapOnce timeoutMs (wire attempt)).mapError some →
          fetch.retries = [] → fetch.tookMs = min timeoutMs (wire attempt).tookMs →
          ∃ stop, attempt ≤ stop ∧ Looped timeoutMs attempts wire attempt stop fetch := by
        intro fetch stops result none_ spent
        refine ⟨attempt, le_rfl, stops, result, ?_, ?_, ?_⟩
        · simp [none_]
        · simp [none_]
        · rw [spent, Nat.sub_self, Nat.zero_add, Nat.one_mul]
          exact took
      rw [fetchLoop]
      cases answered : fetchShardMapOnce timeoutMs (wire attempt) with
      | ok text =>
          refine here ⟨first, by omega, absorbs, fun fault failed => ?_⟩ (by rw [answered]; rfl)
            rfl rfl
          rw [answered] at failed
          cases failed
      | error fault =>
          dsimp only
          by_cases final : (attempt ≥ attempts || !shouldRetryShardFetch fault) = true
          · rw [if_pos final]
            refine here ⟨first, by omega, absorbs, fun other failed => ?_⟩ (by rw [answered]; rfl)
              rfl rfl
            rw [answered] at failed
            obtain rfl := Except.error.inj failed
            simp only [Bool.or_eq_true, decide_eq_true_eq, Bool.not_eq_true'] at final
            rcases final with reached | never
            · exact .inl (by omega)
            · exact .inr never
          · rw [if_neg final]
            simp only [Bool.or_eq_true, decide_eq_true_eq, Bool.not_eq_true', not_or,
              Bool.not_eq_false] at final
            have next : Absorbs timeoutMs wire (attempt + 1) := by
              intro earlier positive before
              by_cases same : earlier = attempt
              · subst same
                exact ⟨fault, answered, final.2⟩
              · exact absorbs earlier positive (by omega)
            obtain ⟨stop, later, looped⟩ :=
              ih (some fault) (by omega) (by omega) (by omega) next
            refine ⟨stop, by omega, looped.stops, looped.result, ?_, ?_, ?_⟩
            · have length : stop - attempt = stop - (attempt + 1) + 1 := by omega
              rw [List.map_cons, looped.numbers, length, List.range'_succ]
            · intro retried member
              rcases List.mem_cons.mp member with rfl | tail
              · exact answered
              · exact looped.faults retried tail
            · have rest := looped.took
              have length : stop - attempt + 1 = (stop - (attempt + 1) + 1) + 1 := by omega
              rw [length, Nat.add_one_mul]
              dsimp only
              omega

end Loop

theorem fetch_retries (timeoutMs attempts : Nat) (wire : Nat → Answer) :
    Retries timeoutMs attempts wire (fetchShardMapWithRetry timeoutMs attempts wire) := by
  have begun : Absorbs timeoutMs wire 1 := fun earlier positive before => by omega
  rcases Nat.eq_zero_or_pos attempts with rfl | some_
  · refine ⟨fun text => ?_, fun fault => ?_, fun fault attempt => ?_, ?_, ?_, ?_⟩
    · simp [fetchShardMapWithRetry, fetchLoop]
    · simp [fetchShardMapWithRetry, fetchLoop]
    · simp [fetchShardMapWithRetry, fetchLoop]
    · simp [fetchShardMapWithRetry, fetchLoop]
    · simp [fetchShardMapWithRetry, fetchLoop]
    · simp [fetchShardMapWithRetry, fetchLoop]
  · obtain ⟨stop, later, looped⟩ :=
      loop_stops none (Nat.add_comm 1 attempts) some_ le_rfl begun
    rw [← fetchShardMapWithRetry] at looped
    generalize fetchShardMapWithRetry timeoutMs attempts wire = fetch at looped
    have stops := looped.stops
    have length : fetch.retries.length = stop - 1 := by
      rw [← List.length_map Prod.snd, looped.numbers, List.length_range']
    refine ⟨fun text => ⟨fun given => ?_, ?_⟩, fun fault => ⟨fun given => ?_, ?_⟩,
      fun fault attempt => ⟨fun member => ?_, ?_⟩, ?_, ?_, ?_⟩
    · rw [looped.result] at given
      refine ⟨stop, stops.first, stops.allowed, stops.absorbs, ?_⟩
      cases answered : fetchShardMapOnce timeoutMs (wire stop) with
      | ok same =>
          rw [answered] at given
          exact congrArg _ (Except.ok.inj given)
      | error fault =>
          rw [answered] at given
          cases given
    · rintro ⟨attempt, first, allowed, absorbs, answered⟩
      obtain rfl := stops.unique ⟨first, allowed, absorbs, fun fault failed => by
        rw [answered] at failed; cases failed⟩
      rw [looped.result, answered]
      rfl
    · rw [looped.result] at given
      cases answered : fetchShardMapOnce timeoutMs (wire stop) with
      | ok text =>
          rw [answered] at given
          cases given
      | error same =>
          rw [answered] at given
          obtain rfl := Option.some.inj (Except.error.inj given)
          exact ⟨stop, stops.first, stops.allowed, stops.absorbs, answered,
            stops.last _ answered⟩
    · rintro ⟨attempt, first, allowed, absorbs, answered, final⟩
      obtain rfl := stops.unique ⟨first, allowed, absorbs, fun other failed => by
        rw [answered] at failed
        obtain rfl := Except.error.inj failed
        exact final⟩
      rw [looped.result, answered]
      rfl
    · have listed : attempt ∈ fetch.retries.map Prod.snd := List.mem_map_of_mem member
      rw [looped.numbers, List.mem_range'_1] at listed
      refine ⟨listed.1, ?_, ?_, looped.faults _ member⟩
      · have allowed := stops.allowed
        omega
      · exact fun earlier positive before => stops.absorbs earlier positive (by omega)
    · rintro ⟨first, more, absorbs, answered⟩
      have before : attempt < stop := by
        by_contra reached
        obtain ⟨other, failed, again⟩ := absorbs stop stops.first (by omega)
        rcases stops.last other failed with here | never
        · omega
        · rw [again] at never
          exact Bool.noConfusion never
      have listed : attempt ∈ fetch.retries.map Prod.snd := by
        rw [looped.numbers, List.mem_range'_1]
        omega
      obtain ⟨⟨same, _⟩, member, rfl⟩ := List.mem_map.mp listed
      have failed := looped.faults _ member
      rw [answered] at failed
      obtain rfl := Except.error.inj failed
      exact member
    · rw [looped.numbers]
      exact List.nodup_range'
    · rw [length]
      exact looped.took
    · have allowed := stops.allowed
      have first := stops.first
      rw [length]
      omega

end Attempt

section Outage

/-- The lines of a failing fetch that are logged whatever RELAY_LOG says. -/
inductive Line
  | failing (cause : Cause) (detail : String)
  | still (cause : Cause) (detail : String) (streak : Nat) (elapsed : Int)
  | recovered (streak : Nat) (elapsed : Int)
  deriving DecidableEq

structure Config where
  parse : String → Option Json
  selfHost : String
  timeoutMs : Nat := attemptTimeoutMs
  attempts : Nat := fetchAttempts

/-- A poll: what its attempts meet, and the time when its fetch is over. -/
structure Poll where
  now : Int
  wire : Nat → Answer

/-- The part of createRelay that polls the map. -/
structure Fetcher where
  store : ShardMapStore
  metrics : Metrics := .new
  shardErrStreak : Nat := 0
  shardErrSince : Int := 0
  shardErrLastLog : Int := 0

def logWindowMs : Int := 60000

/-- Math.round of a duration in seconds. -/
def seconds (ms : Int) : Int := (ms + 500) / 1000

def noteShardFetchError (fetcher : Fetcher) (now : Int) (error : Thrown) :
    Fetcher × Option Line :=
  let (cause, detail) := classifyShardFetchError error
  let fetcher :=
    { fetcher with
        metrics := (fetcher.metrics.inc Counter.shardMapFetchErrorsTotal.name 1).incReason
          Labeled.shardMapFetchErrorsByCauseTotal.name cause.text.toList
        shardErrStreak := fetcher.shardErrStreak + 1 }
  if fetcher.shardErrStreak = 1 then
    ({ fetcher with shardErrSince := now, shardErrLastLog := now }, some (.failing cause detail))
  else if now - fetcher.shardErrLastLog ≥ logWindowMs then
    ({ fetcher with shardErrLastLog := now },
      some (.still cause detail fetcher.shardErrStreak (seconds (now - fetcher.shardErrSince))))
  else (fetcher, none)

def noteShardFetchOk (fetcher : Fetcher) (now : Int) : Fetcher × Option Line :=
  if fetcher.shardErrStreak > 0 then
    ({ fetcher with shardErrStreak := 0 },
      some (.recovered fetcher.shardErrStreak (seconds (now - fetcher.shardErrSince))))
  else (fetcher, none)

/-- The kind of a ShardMapValidationError. -/
def kindText : ShardMapError → String
  | .negativeVersion => "negativeVersion"
  | .emptyRanges => "emptyRanges"
  | .emptyHost => "emptyHost"
  | .invalidHost _ => "invalidHost"
  | .invalidRange _ _ => "invalidRange"
  | .gapOrOverlap => "gapOrOverlap"
  | .malformed _ => "malformed"

def detailText : ShardMapError → String
  | .invalidHost host => host
  | .invalidRange low high => toString low ++ ".." ++ toString high
  | .malformed detail => detail
  | _ => ""

def validationError (error : ShardMapError) : Fault where
  name := "ShardMapValidationError"
  message := if detailText error = "" then kindText error
    else kindText error ++ ": " ++ detailText error
  kind := kindText error

variable (config : Config)

def Poll.fetch (poll : Poll) : Fetch :=
  fetchShardMapWithRetry config.timeoutMs config.attempts poll.wire

def retried (metrics : Metrics) (fetch : Fetch) : Metrics :=
  fetch.retries.foldl (fun metrics _ => metrics.inc Counter.shardMapFetchRetriesTotal.name 1)
    metrics

/-- fetchOnce with the callbacks that createRelay gives it. -/
def poll (fetcher : Fetcher) (poll : Poll) : Fetcher × Option Line :=
  let fetch := poll.fetch config
  let fetcher := { fetcher with metrics := retried fetcher.metrics fetch }
  match fetch.result with
  | .error error => noteShardFetchError fetcher poll.now error
  | .ok text =>
      match acceptedMap config.parse text with
      | .error error => noteShardFetchError fetcher poll.now (some (validationError error))
      | .ok map =>
          let adopted := fetcher.store.applyFetched map
          let metrics := if adopted.2.isSome
            then fetcher.metrics.inc Counter.shardMapReloadsTotal.name 1 else fetcher.metrics
          noteShardFetchOk { fetcher with store := adopted.1, metrics := metrics } poll.now

def step (fetcher : Fetcher) (event : Poll) : Fetcher := (poll config fetcher event).1

def fresh : Fetcher := { store := booted config.selfHost }

abbrev run (polls : List Poll) : Fetcher := Machine.run (step config) (fresh config) polls

/-- What a poll logs that comes after others. -/
def line (before : List Poll) (event : Poll) : Option Line :=
  (poll config (run config before) event).2

/-- What a poll comes to: a map, or an error. -/
def Poll.outcome (poll : Poll) : Except Thrown ShardMap :=
  match (poll.fetch config).result with
  | .error error => .error error
  | .ok text =>
      match acceptedMap config.parse text with
      | .error error => .error (some (validationError error))
      | .ok map => .ok map

def Poll.fails (poll : Poll) : Bool := !(poll.outcome config).isOk

/-- The failures in a row with which a list of polls ends. -/
def streak (polls : List Poll) : List Poll := polls.rtakeWhile (Poll.fails config)

/-- The poll is the last one of the streak that was logged. -/
structure LastLogged (before lead : List Poll) (past : Poll) (tail : List Poll) : Prop where
  split : before = lead ++ past :: tail
  failing : ∀ poll ∈ past :: tail, poll.fails config = true
  logged : (line config lead past).isSome
  quiet : ∀ first poll rest, tail = first ++ poll :: rest →
    line config (lead ++ past :: first) poll = none

/-- What is logged of a poll, and what has been counted before it. -/
structure Reported (before : List Poll) (event : Poll) : Prop where
  began : ∀ error, event.outcome config = .error error → streak config before = [] →
    line config before event =
      some (.failing (classifyShardFetchError error).1 (classifyShardFetchError error).2)
  -- one line a minute while it fails
  continued : ∀ error first rest, event.outcome config = .error error →
    streak config before = first :: rest → ∃ lead past tail,
      LastLogged config before lead past tail ∧
      line config before event =
        if logWindowMs ≤ event.now - past.now then
          some (.still (classifyShardFetchError error).1 (classifyShardFetchError error).2
            ((streak config before).length + 1) (seconds (event.now - first.now)))
        else none
  -- and one that ends the streak
  recovered : ∀ map, event.outcome config = .ok map →
    line config before event = (streak config before).head?.map fun first =>
      .recovered (streak config before).length (seconds (event.now - first.now))
  errors : (run config before).metrics.count .shardMapFetchErrorsTotal =
    (before.countP (Poll.fails config) : Nat)
  causes : ∀ cause, (run config before).metrics.valueOf
      (reasonKey Labeled.shardMapFetchErrorsByCauseTotal.name cause.text.toList) =
    (before.countP fun poll => match poll.outcome config with
      | .error error => (classifyShardFetchError error).1 = cause
      | .ok _ => false : Nat)
  retries : (run config before).metrics.count .shardMapFetchRetriesTotal =
    ((before.map fun poll => (poll.fetch config).retries.length).sum : Nat)
  reloads : (run config before).metrics.count .shardMapReloadsTotal =
    ((adoptions config.parse config.selfHost
      (before.map fun poll => (poll.fetch config).result.toOption)).length : Nat)
  store : (run config before).store =
    polled config.parse config.selfHost
      (before.map fun poll => (poll.fetch config).result.toOption)

section Lines
variable {config : Config} {before : List Poll} {event : Poll}

theorem poll_outcome (fetcher : Fetcher) (event : Poll) :
    poll config fetcher event =
      match event.outcome config with
      | .error error =>
          noteShardFetchError
            { fetcher with metrics := retried fetcher.metrics (event.fetch config) } event.now error
      | .ok map =>
          noteShardFetchOk
            { fetcher with
                store := (fetcher.store.applyFetched map).1
                metrics := if (fetcher.store.applyFetched map).2.isSome
                  then (retried fetcher.metrics (event.fetch config)).inc
                    Counter.shardMapReloadsTotal.name 1
                  else retried fetcher.metrics (event.fetch config) } event.now := by
  simp only [poll, Poll.outcome]
  cases (event.fetch config).result with
  | error error => rfl
  | ok text =>
      dsimp only
      cases acceptedMap config.parse text with
      | error error => rfl
      | ok map => rfl

section Notes
variable (fetcher : Fetcher) (now : Int) (error : Thrown)

theorem noteOk_streak : (noteShardFetchOk fetcher now).1.shardErrStreak = 0 := by
  unfold noteShardFetchOk
  split
  · rfl
  · dsimp only
    omega

theorem noteError_streak :
    (noteShardFetchError fetcher now error).1.shardErrStreak = fetcher.shardErrStreak + 1 := by
  simp only [noteShardFetchError]
  split
  · rfl
  · split <;> rfl

theorem noteError_since :
    (noteShardFetchError fetcher now error).1.shardErrSince =
      if fetcher.shardErrStreak = 0 then now else fetcher.shardErrSince := by
  simp only [noteShardFetchError, Nat.add_eq_right]
  split
  · rfl
  · split <;> rfl

theorem noteError_lastLog :
    (noteShardFetchError fetcher now error).1.shardErrLastLog =
      if (noteShardFetchError fetcher now error).2.isSome then now
      else fetcher.shardErrLastLog := by
  simp only [noteShardFetchError, Nat.add_eq_right]
  split
  · rfl
  · split <;> rfl

theorem noteError_line :
    (noteShardFetchError fetcher now error).2 =
      if fetcher.shardErrStreak = 0 then
        some (.failing (classifyShardFetchError error).1 (classifyShardFetchError error).2)
      else if logWindowMs ≤ now - fetcher.shardErrLastLog then
        some (.still (classifyShardFetchError error).1 (classifyShardFetchError error).2
          (fetcher.shardErrStreak + 1) (seconds (now - fetcher.shardErrSince)))
      else none := by
  simp only [noteShardFetchError, Nat.add_eq_right]
  split
  · rfl
  · split <;> rfl

theorem noteOk_line :
    (noteShardFetchOk fetcher now).2 =
      if fetcher.shardErrStreak = 0 then none
      else some (.recovered fetcher.shardErrStreak (seconds (now - fetcher.shardErrSince))) := by
  unfold noteShardFetchOk
  split
  · rw [if_neg (by omega)]
  · rw [if_pos (by omega)]

end Notes

theorem fails_iff : event.fails config = true ↔ ∃ error, event.outcome config = .error error := by
  unfold Poll.fails
  cases event.outcome config with
  | error error => simp [Except.isOk, Except.toBool]
  | ok map => simp [Except.isOk, Except.toBool]

theorem streak_failed (failed : event.fails config = true) :
    streak config (before ++ [event]) = streak config before ++ [event] :=
  List.rtakeWhile_concat_pos _ _ _ failed

theorem streak_ok (ok : event.fails config = false) : streak config (before ++ [event]) = [] :=
  List.rtakeWhile_concat_neg _ _ _ (by simp [ok])

/-- What the variables of the log hold after a list of polls. -/
structure Tracks (config : Config) (before : List Poll) (fetcher : Fetcher) : Prop where
  streak : fetcher.shardErrStreak = (streak config before).length
  since : ∀ first rest, ShardFetch.streak config before = first :: rest →
    fetcher.shardErrSince = first.now
  last : ShardFetch.streak config before ≠ [] → ∃ lead past tail,
    LastLogged config before lead past tail ∧ fetcher.shardErrLastLog = past.now

theorem LastLogged.here (failed : event.fails config = true)
    (logged : (line config before event).isSome) :
    LastLogged config (before ++ [event]) before event [] := by
  refine ⟨rfl, ?_, logged, ?_⟩
  · intro poll member
    rw [List.mem_singleton.mp member]
    exact failed
  · intro first poll rest split
    exact absurd split (by simp)

theorem LastLogged.quieter {lead tail : List Poll} {past : Poll}
    (last : LastLogged config before lead past tail) (failed : event.fails config = true)
    (unlogged : line config before event = none) :
    LastLogged config (before ++ [event]) lead past (tail ++ [event]) := by
  refine ⟨by simp [last.split], ?_, last.logged, ?_⟩
  · intro poll member
    rw [← List.cons_append, List.mem_append, List.mem_singleton] at member
    rcases member with early | rfl
    · exact last.failing poll early
    · exact failed
  · intro first poll rest split
    rcases List.eq_nil_or_concat rest with rfl | ⟨others, final, rfl⟩
    · obtain ⟨rfl, same⟩ := List.append_inj' split rfl
      obtain rfl := (List.cons.inj same).1
      rw [← last.split]
      exact unlogged
    · rw [List.concat_eq_append, ← List.cons_append, ← List.append_assoc] at split
      exact last.quiet first poll others (List.append_inj' split rfl).1

theorem tracks_run (config : Config) (before : List Poll) :
    Tracks config before (run config before) := by
  induction before using List.reverseRecOn with
  | nil =>
      refine ⟨rfl, fun first rest given => ?_, fun some_ => absurd rfl some_⟩
      simp [streak] at given
  | append_singleton before event ih =>
      have after : run config (before ++ [event]) = (poll config (run config before) event).1 :=
        Machine.run_append ..
      have logs : line config before event = (poll config (run config before) event).2 := rfl
      rw [after]
      rw [poll_outcome] at logs ⊢
      cases outcome : event.outcome config with
      | error error =>
          have failed : event.fails config = true := fails_iff.mpr ⟨error, outcome⟩
          rw [outcome] at logs
          dsimp only at logs ⊢
          generalize noted : Fetcher.mk .. = fetcher at logs ⊢
          have same : fetcher.shardErrStreak = (run config before).shardErrStreak ∧
              fetcher.shardErrSince = (run config before).shardErrSince ∧
              fetcher.shardErrLastLog = (run config before).shardErrLastLog := by
            rw [← noted]
            exact ⟨rfl, rfl, rfl⟩
          refine ⟨?_, fun first rest given => ?_, fun _ => ?_⟩
          · rw [noteError_streak, same.1, ih.streak, streak_failed failed, List.length_append]
            rfl
          · rw [noteError_since, same.1, same.2.1, ih.streak]
            rw [streak_failed failed] at given
            cases begun : streak config before with
            | nil =>
                rw [begun] at given
                rw [← (List.cons.inj given).1]
                rfl
            | cons oldest others =>
                rw [begun] at given
                rw [if_neg (by simp), ih.since oldest others begun, (List.cons.inj given).1]
          · rw [noteError_lastLog, ← logs, same.2.2]
            cases logged : line config before event with
            | some given => exact ⟨before, event, [], .here failed (by rw [logged]; rfl), rfl⟩
            | none =>
                have some_ : streak config before ≠ [] := by
                  intro none_
                  rw [logs, noteError_line, same.1, ih.streak, none_] at logged
                  cases logged
                obtain ⟨lead, past, tail, last, time⟩ := ih.last some_
                exact ⟨lead, past, tail ++ [event], last.quieter failed logged, time⟩
      | ok map =>
          have ok : event.fails config = false := by
            simp [Poll.fails, outcome, Except.isOk, Except.toBool]
          have ended : streak config (before ++ [event]) = [] := streak_ok ok
          refine ⟨?_, fun first rest given => ?_, fun some_ => absurd ended some_⟩
          · rw [ended]
            exact noteOk_streak ..
          · rw [ended] at given
            cases given

end Lines

section Tallies
variable {config : Config} {before : List Poll} {event : Poll} {fetcher : Fetcher}

/-- What fetchOnce is given of a poll. -/
abbrev Poll.text (config : Config) (event : Poll) : Option String :=
  (event.fetch config).result.toOption

theorem note_kept (now : Int) (error : Thrown) :
    (noteShardFetchError fetcher now error).1.store = fetcher.store ∧
      (noteShardFetchError fetcher now error).1.metrics =
        (fetcher.metrics.inc Counter.shardMapFetchErrorsTotal.name 1).incReason
          Labeled.shardMapFetchErrorsByCauseTotal.name
          (classifyShardFetchError error).1.text.toList ∧
      (noteShardFetchOk fetcher now).1.store = fetcher.store ∧
      (noteShardFetchOk fetcher now).1.metrics = fetcher.metrics := by
  refine ⟨?_, ?_, ?_, ?_⟩
  · simp only [noteShardFetchError]
    split
    · rfl
    · split <;> rfl
  · simp only [noteShardFetchError]
    split
    · rfl
    · split <;> rfl
  · unfold noteShardFetchOk
    split <;> rfl
  · unfold noteShardFetchOk
    split <;> rfl

theorem fetched_outcome (store : ShardMapStore) (event : Poll) :
    (fetchOnce config.parse store (event.text config)).1 =
        (match event.outcome config with
          | .error _ => store
          | .ok map => (store.applyFetched map).1) ∧
      (fetchOnce config.parse store (event.text config)).2.diff =
        match event.outcome config with
        | .error _ => none
        | .ok map => (store.applyFetched map).2 := by
  simp only [Poll.outcome, Poll.text]
  cases (event.fetch config).result with
  | error error => exact ⟨rfl, rfl⟩
  | ok text =>
      simp only [Except.toOption, fetchOnce]
      cases acceptedMap config.parse text with
      | error error => exact ⟨rfl, rfl⟩
      | ok map => exact ⟨rfl, rfl⟩

theorem retried_valueOf (metrics : Metrics) (fetch : Fetch) (key : Text) :
    (retried metrics fetch).valueOf key = metrics.valueOf key +
      if key = Counter.shardMapFetchRetriesTotal.name then (fetch.retries.length : Rat) else 0 := by
  unfold retried
  induction fetch.retries generalizing metrics with
  | nil => simp
  | cons first rest ih =>
      rw [List.foldl_cons, ih, valueOf_inc]
      by_cases same : key = Counter.shardMapFetchRetriesTotal.name
      · rw [if_pos same, if_pos same, if_pos same, List.length_cons]
        push_cast
        ring
      · rw [if_neg same, if_neg same, if_neg same]
        ring

/-- What a poll adds to the value under a key. -/
def added (config : Config) (store : ShardMapStore) (event : Poll) (key : Text) : Rat :=
  (if key = Counter.shardMapFetchRetriesTotal.name then
    ((event.fetch config).retries.length : Rat) else 0) +
    match event.outcome config with
    | .error error =>
        (if key = Counter.shardMapFetchErrorsTotal.name then 1 else 0) +
          if key = reasonKey Labeled.shardMapFetchErrorsByCauseTotal.name
            (classifyShardFetchError error).1.text.toList then 1 else 0
    | .ok map =>
        if key = Counter.shardMapReloadsTotal.name ∧ (store.applyFetched map).2.isSome
          then 1 else 0

theorem poll_counts (fetcher : Fetcher) (event : Poll) (key : Text) :
    (poll config fetcher event).1.store =
        (fetchOnce config.parse fetcher.store (event.text config)).1 ∧
      (poll config fetcher event).1.metrics.valueOf key =
        fetcher.metrics.valueOf key + added config fetcher.store event key := by
  rw [poll_outcome, added, (fetched_outcome _ _).1]
  cases event.outcome config with
  | error error =>
      refine ⟨(note_kept ..).1, ?_⟩
      dsimp only
      rw [(note_kept ..).2.1, Metrics.incReason, valueOf_inc, valueOf_inc, retried_valueOf]
      ring
  | ok map =>
      refine ⟨(note_kept _ none).2.2.1, ?_⟩
      dsimp only
      rw [(note_kept _ none).2.2.2]
      dsimp only
      cases (fetcher.store.applyFetched map).2.isSome with
      | true =>
          rw [if_pos rfl, valueOf_inc, retried_valueOf]
          simp only [and_true]
          ring
      | false =>
          rw [if_neg Bool.false_ne_true, retried_valueOf]
          simp

theorem store_run (before : List Poll) :
    (run config before).store =
      polled config.parse config.selfHost (before.map (Poll.text config)) := by
  induction before using List.reverseRecOn with
  | nil => rfl
  | append_singleton before event ih =>
      rw [run, Machine.run_append, List.map_append, polled, Machine.run_append]
      refine (poll_counts (run config before) event []).1.trans ?_
      rw [ih]
      rfl

theorem valueOf_run (config : Config) (key : Text) (tally : List Poll → Rat) (none_ : tally [] = 0)
    (grows : ∀ before event, tally (before ++ [event]) =
      tally before + added config (run config before).store event key) (before : List Poll) :
    (run config before).metrics.valueOf key = tally before := by
  induction before using List.reverseRecOn with
  | nil => rw [none_]; rfl
  | append_singleton before event ih =>
      rw [run, Machine.run_append, grows, ← ih]
      exact (poll_counts (run config before) event key).2

theorem adoptions_append (results : List (Option String)) (result : Option String) :
    adoptions config.parse config.selfHost (results ++ [result]) =
      adoptions config.parse config.selfHost results ++
        (fetchOnce config.parse (polled config.parse config.selfHost results) result).2.diff.toList := by
  rw [adoptions, Machine.steps_append, List.filterMap_append, ← adoptions]
  rfl

end Tallies

theorem Cause.text_inj {cause given : Cause} (same : cause.text.toList = given.text.toList) :
    cause = given := by
  cases cause <;> cases given <;> first | rfl | exact absurd same (by decide)

section Logged
variable {config : Config} {before : List Poll} {event : Poll}

theorem line_failed {error : Thrown} (failed : event.outcome config = .error error) :
    line config before event =
      if (run config before).shardErrStreak = 0 then
        some (.failing (classifyShardFetchError error).1 (classifyShardFetchError error).2)
      else if logWindowMs ≤ event.now - (run config before).shardErrLastLog then
        some (.still (classifyShardFetchError error).1 (classifyShardFetchError error).2
          ((run config before).shardErrStreak + 1)
          (seconds (event.now - (run config before).shardErrSince)))
      else none := by
  rw [line, poll_outcome, failed]
  exact noteError_line ..

theorem line_ok {map : ShardMap} (ok : event.outcome config = .ok map) :
    line config before event =
      if (run config before).shardErrStreak = 0 then none
      else some (.recovered (run config before).shardErrStreak
        (seconds (event.now - (run config before).shardErrSince))) := by
  rw [line, poll_outcome, ok]
  exact noteOk_line ..

end Logged

theorem fetches_reported (config : Config) (before : List Poll) (event : Poll) :
    Reported config before event := by
  have tracks := tracks_run config before
  refine ⟨fun error failed none_ => ?_, fun error first rest failed begun => ?_,
    fun map ok => ?_, ?_, fun cause => ?_, ?_, ?_, store_run before⟩
  · rw [line_failed failed, if_pos (by rw [tracks.streak, none_]; rfl)]
  · obtain ⟨lead, past, tail, last, time⟩ := tracks.last (by rw [begun]; simp)
    refine ⟨lead, past, tail, last, ?_⟩
    rw [line_failed failed, if_neg (by rw [tracks.streak, begun]; simp), time, tracks.streak,
      tracks.since first rest begun]
  · rw [line_ok ok, tracks.streak]
    cases begun : streak config before with
    | nil => rfl
    | cons first rest =>
        rw [if_neg (by simp), tracks.since first rest begun]
        rfl
  · refine valueOf_run config _ (fun polls => (polls.countP (Poll.fails config) : Nat)) rfl ?_ before
    intro before event
    simp only [added, name_inj, reasonKey_ne]
    cases outcome : event.outcome config with
    | error error => simp [List.countP_append, Poll.fails, outcome, Except.isOk, Except.toBool]
    | ok map => simp [List.countP_append, Poll.fails, outcome, Except.isOk, Except.toBool]
  · refine valueOf_run config _ (fun polls => (polls.countP fun poll =>
      match poll.outcome config with
      | .error error => (classifyShardFetchError error).1 = cause
      | .ok _ => false : Nat)) rfl ?_ before
    intro before event
    have keys : ∀ given : Cause, reasonKey Labeled.shardMapFetchErrorsByCauseTotal.name
        cause.text.toList = reasonKey Labeled.shardMapFetchErrorsByCauseTotal.name
          given.text.toList ↔ given = cause := by
      intro given
      refine ⟨fun same => ?_, fun same => by rw [same]⟩
      exact (Cause.text_inj (List.cons.inj (List.append_cancel_left same)).2).symm
    simp only [added, keys, (reasonKey_ne _ _).symm]
    cases outcome : event.outcome config with
    | error error => simp [List.countP_append, outcome, List.countP_singleton]
    | ok map => simp [List.countP_append, outcome]
  · refine valueOf_run config _
      (fun polls => ((polls.map fun poll => (poll.fetch config).retries.length).sum : Nat)) rfl ?_
      before
    intro before event
    simp only [added, name_inj, reasonKey_ne]
    cases outcome : event.outcome config with
    | error error => simp
    | ok map => simp
  · refine valueOf_run config _ (fun polls => ((adoptions config.parse config.selfHost
      (polls.map (Poll.text config))).length : Nat)) rfl ?_ before
    intro before event
    rw [List.map_append, List.map_singleton, adoptions_append, ← store_run, List.length_append]
    rw [(fetched_outcome _ _).2]
    simp only [added, name_inj, reasonKey_ne]
    cases outcome : event.outcome config with
    | error error => simp
    | ok map =>
        cases adopted : ((run config before).store.applyFetched map).2 with
        | none => simp [adopted]
        | some diff => simp [adopted]

section Boot

/-- What bootstrapShardMap ends with: the fetches it made, and whether it throws. -/
structure Boot where
  fetcher : Fetcher
  fetches : Nat
  accepts : Bool

/-- The loop of bootstrapShardMap, with the iterations that are left. `polls` is what each of its
fetches meets. -/
def bootLoop (maxRetries : Nat) (polls : Nat → Poll) : (left attempts : Nat) → Fetcher → Boot
  | 0, attempts, fetcher => ⟨fetcher, attempts, false⟩
  | left + 1, attempts, fetcher =>
      if fetcher.store.map.isSome then ⟨fetcher, attempts, true⟩
      else
        let fetcher := step config fetcher (polls attempts)
        if fetcher.store.map.isSome then ⟨fetcher, attempts + 1, true⟩
        else if attempts + 1 ≥ maxRetries then ⟨fetcher, attempts + 1, false⟩
        else bootLoop maxRetries polls left (attempts + 1) fetcher

def bootstrapShardMap (maxRetries : Nat) (polls : Nat → Poll) : Boot :=
  bootLoop config maxRetries polls (max 1 maxRetries) 0 (fresh config)

/-- The first fetches of a boot. -/
def firsts (polls : Nat → Poll) (count : Nat) : List Poll := (List.range count).map polls

/-- A boot makes fetches until one brings a map or no more may be made; once a relay accepts
connections it has a map, whatever it fetches later. -/
structure Boots (maxRetries : Nat) (polls : Nat → Poll) (boot : Boot) : Prop where
  accepts : boot.accepts = true ↔
    ∃ fetch, fetch < max 1 maxRetries ∧ (polls fetch).fails config = false
  ran : boot.fetcher = run config (firsts polls boot.fetches)
  bounded : 1 ≤ boot.fetches ∧ boot.fetches ≤ max 1 maxRetries
  patient : ∀ fetch, fetch + 1 < boot.fetches → (polls fetch).fails config = true
  gaveUp : boot.accepts = false → boot.fetches = max 1 maxRetries
  mapped : boot.accepts = true → ∀ later,
    (Machine.run (step config) boot.fetcher later).store.map.isSome = true

section Booting
variable {config : Config} {fetcher : Fetcher} {event : Poll}

theorem step_store (fetcher : Fetcher) (event : Poll) :
    (step config fetcher event).store = match event.outcome config with
      | .error _ => fetcher.store
      | .ok map => (fetcher.store.applyFetched map).1 :=
  (poll_counts fetcher event []).1.trans (fetched_outcome _ _).1

theorem step_unmapped (unmapped : fetcher.store.map = none) :
    (step config fetcher event).store.map.isSome = !event.fails config ∧
      (event.fails config = true → (step config fetcher event).store.map = none) := by
  rw [step_store]
  cases outcome : event.outcome config with
  | error error => simp [Poll.fails, outcome, Except.isOk, Except.toBool, unmapped]
  | ok map =>
      simp [Poll.fails, outcome, Except.isOk, Except.toBool, ShardMapStore.applyFetched, unmapped]

theorem step_mapped (mapped : fetcher.store.map.isSome = true) :
    (step config fetcher event).store.map.isSome = true := by
  rw [step_store]
  cases event.outcome config with
  | error error => exact mapped
  | ok map =>
      simp only [ShardMapStore.applyFetched]
      split
      · rfl
      · split
        · exact mapped
        · rfl

theorem bootLoop_boots {maxRetries left attempts : Nat} {polls : Nat → Poll}
    (whole : attempts + left = max 1 maxRetries) (some_ : 1 ≤ left)
    (ran : fetcher = run config (firsts polls attempts)) (unmapped : fetcher.store.map = none)
    (failed : ∀ fetch, fetch < attempts → (polls fetch).fails config = true) :
    Boots config maxRetries polls (bootLoop config maxRetries polls left attempts fetcher) := by
  induction left generalizing attempts fetcher with
  | zero => omega
  | succ left ih =>
      rw [bootLoop, unmapped]
      simp only [Option.isSome_none, Bool.false_eq_true, if_false]
      obtain ⟨mapped, still⟩ := @step_unmapped config fetcher (polls attempts) unmapped
      have next : step config fetcher (polls attempts) =
          run config (firsts polls (attempts + 1)) := by
        rw [firsts, List.range_succ, List.map_append, run, Machine.run_append, ← firsts, ← run, ← ran]
        rfl
      cases fails : (polls attempts).fails config with
      | false =>
          rw [fails, Bool.not_false] at mapped
          rw [if_pos mapped]
          refine ⟨iff_of_true rfl ⟨attempts, by omega, fails⟩, next, by dsimp only; omega,
            fun fetch before => failed fetch (by dsimp only at before; omega), fun never => ?_,
            fun _ later => ?_⟩
          · cases never
          · exact Machine.run_invariant (step config)
              (fun fetcher => fetcher.store.map.isSome = true) (fun _ _ => True)
              (fun _ _ held _ => step_mapped held) _ mapped later (fun _ _ => trivial)
      | true =>
          rw [fails] at mapped
          rw [if_neg (by rw [mapped]; simp)]
          have all : ∀ fetch, fetch < attempts + 1 → (polls fetch).fails config = true := by
            intro fetch before
            by_cases here : fetch = attempts
            · rw [here]
              exact fails
            · exact failed fetch (by omega)
          by_cases final : attempts + 1 ≥ maxRetries
          · rw [if_pos final]
            refine ⟨iff_of_false (by simp) ?_, next, by dsimp only; omega,
              fun fetch before => all fetch (by dsimp only at before; omega),
              fun _ => by dsimp only; omega, fun never => by cases never⟩
            rintro ⟨fetch, before, ok⟩
            rw [all fetch (by omega)] at ok
            cases ok
          · rw [if_neg final]
            exact ih (by omega) (by omega) next (still fails) all

end Booting

theorem boot_waits (config : Config) (maxRetries : Nat) (polls : Nat → Poll) :
    Boots config maxRetries polls (bootstrapShardMap config maxRetries polls) :=
  bootLoop_boots (Nat.zero_add _) (le_max_left _ _) rfl rfl (fun fetch before => by omega)

end Boot
end Outage
end Relay.ShardFetch

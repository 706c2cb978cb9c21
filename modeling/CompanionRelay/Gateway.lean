import CompanionRelay.ClientIp
import CompanionRelay.Exposition
import CompanionRelay.Limiter
import CompanionRelay.ShardMap

/-!
src/host/server.js around its rooms: the gates that an upgrade and a request pass, in their order,
the sockets that the host counts, and its keepalive. The ws package is a list of handshakes under
way, each of which calls back later or never; the runtime and the shard map are what they answer
when they are asked. The log lines are left out.
-/

namespace Relay.Gateway

open ClientIp (NodeValue Headers toHeaders clientIp Trust)
open Exposition (Metrics)

section Entry

/-- src/index.js: ROOM_NAME_RE. -/
def isRoomName (name : String) : Bool :=
  name.toList.length = 64 && name.toList.all fun char => (hexDigit char).isSome

def roomHeader : String := "x-relay-room"

/-- entryReject: a status and a message, or the room that the request is for. -/
def entryReject (headers : Headers) : Except (Nat × String) String :=
  if (headers.get "Origin").isSome then .error (403, "forbidden")
  else
    match headers.get roomHeader with
    | none => .error (400, "bad room")
    | some room => if isRoomName room then .ok room else .error (400, "bad room")

end Entry

section Body

/-- What an http request emits while its body is read. -/
inductive Stream
  | data (chunk : List UInt8)
  | «end»
  | error

inductive BodyResult
  | body (bytes : List UInt8)
  | tooLarge
  | broken
  deriving DecidableEq

/-- The closure of readBody, and what its promise was settled with first. -/
structure Reading where
  chunks : List (List UInt8) := []
  size : Nat := 0
  finished : Bool := false
  settled : Option BodyResult := none

def Reading.settle (reading : Reading) (result : BodyResult) : Reading :=
  { reading with settled := some (reading.settled.getD result) }

def Reading.on (limit : Nat) (reading : Reading) : Stream → Reading
  | .data chunk =>
      if reading.finished then reading
      else if reading.size + chunk.length > limit then
        { reading with size := reading.size + chunk.length, finished := true }.settle .tooLarge
      else
        { reading with
            size := reading.size + chunk.length
            chunks := reading.chunks ++ [chunk] }
  | .end => if reading.finished then reading else reading.settle (.body reading.chunks.flatten)
  | .error =>
      if reading.finished then reading else { reading with finished := true }.settle .broken

def readBody (limit : Nat) (stream : List Stream) : Reading := stream.foldl (Reading.on limit) {}

def maxBodyBytes : Nat := 64 * 1024

def Stream.bytes : Stream → List UInt8
  | .data chunk => chunk
  | _ => []

def Stream.isData : Stream → Bool
  | .data _ => true
  | _ => false

/-- The bytes of a stream that has brought data only. -/
def received (stream : List Stream) : List UInt8 := (stream.map Stream.bytes).flatten

/-- Data that all fits. -/
def Fitting (limit : Nat) (stream : List Stream) : Prop :=
  (∀ event ∈ stream, event.isData = true) ∧ (received stream).length ≤ limit

/-- What readBody does with any stream: it holds no more than the limit, and what comes first
settles it, be it the end, an error or the data that does not fit. -/
structure ReadsBody (limit : Nat) (stream : List Stream) : Prop where
  bounded : (readBody limit stream).chunks.flatten.length ≤ limit
  resolves : ∀ bytes, (readBody limit stream).settled = some (.body bytes) ↔
    ∃ lead rest, stream = lead ++ .end :: rest ∧ Fitting limit lead ∧ bytes = received lead
  overflows : (readBody limit stream).settled = some .tooLarge ↔
    ∃ lead chunk rest, stream = lead ++ .data chunk :: rest ∧ Fitting limit lead ∧
      limit < (received lead).length + chunk.length
  breaks : (readBody limit stream).settled = some .broken ↔
    ∃ lead rest, stream = lead ++ .error :: rest ∧ Fitting limit lead
  waits : (readBody limit stream).settled = none ↔ Fitting limit stream

section Reads
variable {limit : Nat} {reading : Reading} {stream : List Stream}

theorem received_append (first second : List Stream) :
    received (first ++ second) = received first ++ received second := by
  simp [received]

theorem fitting_or_first (limit : Nat) (stream : List Stream) :
    Fitting limit stream ∨ ∃ lead event rest, stream = lead ++ event :: rest ∧
      Fitting limit lead ∧ ¬ Fitting limit (lead ++ [event]) := by
  induction stream using List.reverseRecOn with
  | nil => exact .inl ⟨by simp, by simp [received]⟩
  | append_singleton lead event ih =>
      rcases ih with fits | ⟨first, decisive, rest, rfl, fits, misfits⟩
      · by_cases whole : Fitting limit (lead ++ [event])
        · exact .inl whole
        · exact .inr ⟨lead, event, [], by simp, fits, whole⟩
      · exact .inr ⟨first, decisive, rest ++ [event], by simp, fits, misfits⟩

theorem Reading.settled_stays (result : BodyResult) (stream : List Stream)
    (settled : reading.settled = some result) :
    (stream.foldl (Reading.on limit) reading).settled = some result := by
  induction stream generalizing reading with
  | nil => exact settled
  | cons event rest ih =>
      apply ih
      cases event <;> simp only [Reading.on, Reading.settle] <;> split <;>
        first
          | exact settled
          | (split <;> simp [settled])
          | simp [settled]

theorem readBody_fitting (fits : Fitting limit stream) :
    readBody limit stream = ⟨stream.map Stream.bytes, (received stream).length, false, none⟩ := by
  induction stream using List.reverseRecOn with
  | nil => rfl
  | append_singleton lead event ih =>
      obtain ⟨data, small⟩ := fits
      rw [received_append, List.length_append] at small
      have before := ih ⟨fun other member => data other (List.mem_append_left _ member), by omega⟩
      have last := data event (by simp)
      cases event with
      | data chunk =>
          have size : ¬ (received lead).length + chunk.length > limit := by
            simpa [received, Stream.bytes] using small
          rw [readBody, List.foldl_append, ← readBody, before, List.foldl_cons, List.foldl_nil,
            received_append]
          have fits : Reading.on limit ⟨lead.map Stream.bytes, (received lead).length, false, none⟩
              (.data chunk) = ⟨lead.map Stream.bytes ++ [chunk],
                (received lead).length + chunk.length, false, none⟩ := by
            simp only [Reading.on, Bool.false_eq_true, if_false, if_neg size]
          rw [fits]
          simp [Stream.bytes, received]
      | «end» => simp [Stream.isData] at last
      | error => simp [Stream.isData] at last

theorem Fitting.initial {lead : List Stream} (fits : Fitting limit stream)
    (initial : lead <+: stream) : Fitting limit lead := by
  obtain ⟨rest, rfl⟩ := initial
  refine ⟨fun event member => fits.1 event (List.mem_append_left _ member), ?_⟩
  have small := fits.2
  rw [received_append, List.length_append] at small
  omega

/-- The first event of a stream that is not data that fits. -/
structure First (limit : Nat) (stream lead : List Stream) (event : Stream) : Prop where
  split : ∃ rest, stream = lead ++ event :: rest
  fits : Fitting limit lead
  misfits : ¬ Fitting limit (lead ++ [event])

theorem not_data_misfits {lead : List Stream} {event : Stream} (plain : event.isData = false) :
    ¬ Fitting limit (lead ++ [event]) := by
  intro fits
  have data := fits.1 event (by simp)
  rw [plain] at data
  exact Bool.noConfusion data

theorem data_misfits {lead : List Stream} {chunk : List UInt8} (fits : Fitting limit lead) :
    ¬ Fitting limit (lead ++ [.data chunk]) ↔ limit < (received lead).length + chunk.length := by
  have length : (received (lead ++ [.data chunk])).length =
      (received lead).length + chunk.length := by
    rw [received_append, List.length_append]
    simp [received, Stream.bytes]
  rw [Fitting, length, not_and_or, not_le, or_iff_right]
  rw [not_not]
  intro event member
  rcases List.mem_append.mp member with early | last
  · exact fits.1 event early
  · rw [List.mem_singleton.mp last]
    rfl

/-- What the first such event settles the promise with. -/
def Stream.verdict (lead : List Stream) : Stream → BodyResult
  | .data _ => .tooLarge
  | .end => .body (received lead)
  | .error => .broken

theorem First.settled {lead : List Stream} {event : Stream} (first : First limit stream lead event) :
    (readBody limit stream).settled = some (event.verdict lead) := by
  obtain ⟨rest, rfl⟩ := first.split
  rw [readBody, List.foldl_append, ← readBody, readBody_fitting first.fits, List.foldl_cons]
  refine Reading.settled_stays _ rest ?_
  cases event with
  | data chunk =>
      have large : (received lead).length + chunk.length > limit :=
        (data_misfits first.fits).mp first.misfits
      simp only [Reading.on, Bool.false_eq_true, if_false, if_pos large]
      rfl
  | «end» => rfl
  | error => rfl

theorem readBody_holds (limit : Nat) (stream : List Stream) :
    (readBody limit stream).chunks.flatten.length ≤ limit := by
  have held : (readBody limit stream).chunks.flatten.length ≤ limit ∧
      ((readBody limit stream).finished = false →
        (readBody limit stream).size = (readBody limit stream).chunks.flatten.length) := by
    induction stream using List.reverseRecOn with
    | nil => exact ⟨Nat.zero_le _, fun _ => rfl⟩
    | append_singleton lead event ih =>
        rw [readBody, List.foldl_append, List.foldl_cons, List.foldl_nil, ← readBody]
        generalize readBody limit lead = reading at ih
        obtain ⟨chunks, size, finished, settled⟩ := reading
        cases finished with
        | true => cases event <;> exact ih
        | false =>
            have same := ih.2 rfl
            cases event with
            | data chunk =>
                simp only [Reading.on, Bool.false_eq_true, if_false]
                split
                · exact ⟨ih.1, fun open_ => Bool.noConfusion open_⟩
                · rename_i small
                  dsimp only at same small ⊢
                  simp only [List.flatten_append, List.length_append, List.flatten_singleton]
                  exact ⟨by omega, fun _ => by omega⟩
            | «end» => exact ih
            | error => exact ⟨ih.1, fun open_ => Bool.noConfusion open_⟩
  exact held.1

end Reads

theorem body_read (limit : Nat) (stream : List Stream) : ReadsBody limit stream := by
  have first_iff : ∀ {lead event rest}, stream = lead ++ event :: rest → Fitting limit lead →
      ¬ Fitting limit (lead ++ [event]) → First limit stream lead event :=
    fun split fits misfits => ⟨⟨_, split⟩, fits, misfits⟩
  rcases fitting_or_first limit stream with fits | ⟨lead, event, rest, split, fits, misfits⟩
  · have waits : (readBody limit stream).settled = none := by rw [readBody_fitting fits]
    have never : ∀ {lead event}, ¬ First limit stream lead event := by
      intro lead event first
      rw [first.settled] at waits
      exact Option.some_ne_none _ waits
    refine ⟨readBody_holds limit stream, fun bytes => ?_, ?_, ?_, iff_of_true waits fits⟩
    · rw [waits]
      simp only [reduceCtorEq, false_iff, not_exists, not_and]
      exact fun lead rest split fits _ => never (first_iff split fits (not_data_misfits rfl))
    · rw [waits]
      simp only [reduceCtorEq, false_iff, not_exists, not_and]
      exact fun lead chunk rest split fits exceeds =>
        never (first_iff split fits ((data_misfits fits).mpr exceeds))
    · rw [waits]
      simp only [reduceCtorEq, false_iff, not_exists, not_and]
      exact fun lead rest split fits => never (first_iff split fits (not_data_misfits rfl))
  · have first := first_iff split fits misfits
    have settled := first.settled
    have same : ∀ {other given}, First limit stream other given →
        (readBody limit stream).settled = some (given.verdict other) := fun second => second.settled
    refine ⟨readBody_holds limit stream, fun bytes => ⟨fun given => ?_, ?_⟩, ⟨fun given => ?_, ?_⟩,
      ⟨fun given => ?_, ?_⟩, ⟨fun none_ => ?_, fun whole => ?_⟩⟩
    · rw [settled] at given
      cases event with
      | «end» => exact ⟨lead, rest, split, fits, (BodyResult.body.inj (Option.some.inj given)).symm⟩
      | _ => simp [Stream.verdict] at given
    · rintro ⟨other, others, split, fits, rfl⟩
      exact same (first_iff split fits (not_data_misfits rfl))
    · rw [settled] at given
      cases event with
      | data chunk => exact ⟨lead, chunk, rest, split, fits, (data_misfits fits).mp misfits⟩
      | _ => simp [Stream.verdict] at given
    · rintro ⟨other, chunk, others, split, fits, exceeds⟩
      exact same (first_iff split fits ((data_misfits fits).mpr exceeds))
    · rw [settled] at given
      cases event with
      | error => exact ⟨lead, rest, split, fits⟩
      | _ => simp [Stream.verdict] at given
    · rintro ⟨other, others, split, fits⟩
      exact same (first_iff split fits (not_data_misfits rfl))
    · rw [settled] at none_
      exact absurd none_ (Option.some_ne_none _)
    · refine absurd (whole.initial ?_) misfits
      exact ⟨rest, by rw [split, List.append_assoc]; rfl⟩

end Body

structure Config where
  mode : Mode
  trust : Trust
  -- none where the limit of the configuration is falsy
  attestLimit : Option Limiter.Limits
  wsLimit : Option Limiter.Limits
  maxRooms : Nat
  maxSocketsPerIp : Nat
  maxTotalSockets : Nat

/-- What the runtime and the shard map answer. -/
structure Around where
  hasRoom : String → Bool
  rooms : Nat
  ownsBucket : Int → Bool

/-- A key of a Map that is the address of a client, which can be undefined. -/
abbrev Address := Option String

/-- The key as a string; undefined is none of them. -/
def limiterKey : Address → String
  | some address => "=" ++ address
  | none => ""

/-- An accepted socket that has not emitted 'close'. -/
structure Client where
  id : Nat
  ip : Address
  openedAt : Nat
  isAlive : Bool
  deriving DecidableEq

/-- What createRelay holds, but for its rooms and its shard map. -/
structure Server where
  metrics : Metrics := .new
  attestWindows : Limiter.Windows := .empty
  wsWindows : Limiter.Windows := .empty
  totalSockets : Int := 0
  ipSockets : OrderedMap Address Int := .empty
  -- wss.handleUpgrade has been called
  handshakes : List (Nat × Address) := []
  -- wss.clients
  clients : List Client := []
  -- requests whose body is read or that a room handles
  requests : List Nat := []
  nextId : Nat := 0

/-- How the host answers an upgrade before its handshake. -/
inductive Gate
  | rejected (status : Nat) (message reason : String)
  | misdirected (status : Nat)
  | passes (ip : Address)
  deriving DecidableEq

variable (config : Config)

def ownershipGate (around : Around) (room : String) : Decision :=
  match config.mode with
  | .direct => .admits none
  | .distributed => ownershipDecision .distributed room around.ownsBucket

/-- The windows after a call of a limiter, and whether the key is over its limit. -/
def charge (limits : Option Limiter.Limits) (windows : Limiter.Windows) (ip : Address) (now : Nat) :
    Limiter.Windows × Bool :=
  match limits with
  | some limits => Limiter.over limits windows (limiterKey ip) now
  | none => (windows, false)

/-- The checks of handleUpgrade, with the windows of the limiter after them. -/
def gate (server : Server) (now : Nat) (headers : Headers) (socket : ClientIp.Socket)
    (around : Around) : Limiter.Windows × Gate :=
  match entryReject headers with
  | .error (status, message) => (server.wsWindows, .rejected status message "gate")
  | .ok room =>
      match ownershipGate config around room with
      | .rejects status _ _ => (server.wsWindows, .misdirected status)
      | .admits _ =>
          let ip := clientIp headers socket config.trust
          let charged := charge config.wsLimit server.wsWindows ip now
          if charged.2 then (charged.1, .rejected 429 "rate limited" "rate_limited")
          else if (server.ipSockets.get? ip).getD 0 ≥ config.maxSocketsPerIp then
            (charged.1, .rejected 429 "too many connections" "ip_cap")
          else if server.totalSockets ≥ config.maxTotalSockets then
            (charged.1, .rejected 503 "capacity" "total_cap")
          else if !around.hasRoom room && around.rooms ≥ config.maxRooms then
            (charged.1, .rejected 503 "capacity" "room_cap")
          else (charged.1, .passes ip)

def handleUpgrade (server : Server) (now : Nat) (headers : Headers) (socket : ClientIp.Socket)
    (around : Around) : Server :=
  let checked := gate config server now headers socket around
  let server := { server with wsWindows := checked.1 }
  match checked.2 with
  | .rejected _ _ reason =>
      { server with
          metrics := server.metrics.incReason
            Exposition.Labeled.wsUpgradesRejectedTotal.name reason.toList }
  | .misdirected _ =>
      { server with metrics := server.metrics.inc Exposition.Counter.shardRejectTotal.name 1 }
  | .passes ip =>
      { server with
          handshakes := server.handshakes ++ [(server.nextId, ip)]
          nextId := server.nextId + 1 }

/-- The first part of the callback of wss.handleUpgrade, up to the room. -/
def accept (server : Server) (now id : Nat) (ip : Address) : Server :=
  { server with
      handshakes := server.handshakes.filter (·.1 ≠ id)
      totalSockets := server.totalSockets + 1
      ipSockets := server.ipSockets.set ip ((server.ipSockets.get? ip).getD 0 + 1)
      metrics := server.metrics.inc Exposition.Counter.wsUpgradesTotal.name 1
      clients := server.clients ++ [⟨id, ip, now, true⟩] }

/-- The 'close' of an accepted socket. -/
def close (server : Server) (now : Nat) (client : Client) : Server :=
  let left := (server.ipSockets.get? client.ip).getD 1 - 1
  { server with
      totalSockets := server.totalSockets - 1
      metrics := server.metrics.observeSocketLifetime
        (((now : Rat) - (client.openedAt : Rat)) / 1000)
      ipSockets := if left ≤ 0 then server.ipSockets.delete client.ip
        else server.ipSockets.set client.ip left
      clients := server.clients.filter (·.id ≠ client.id) }

/-- The sockets that a keepalive sweep terminates. Their 'close' comes later. -/
def terminated (server : Server) : List Nat :=
  (server.clients.filter fun client => !client.isAlive).map (·.id)

def pinged (server : Server) : List Nat := (server.clients.filter (·.isAlive)).map (·.id)

def sweepKeepalive (server : Server) : Server :=
  server.clients.foldl (fun server client =>
    if client.isAlive = false then
      { server with
          metrics := server.metrics.inc Exposition.Counter.wsKeepaliveTerminatedTotal.name 1 }
    else
      { server with
          clients := server.clients.map fun other =>
            if other.id = client.id then { other with isAlive := false } else other }) server

/-- What comes of a request when its room is not asked, or that its body is to be read. -/
inductive Answer
  | metrics
  | plain (status : Nat) (message : String)
  | reads
  deriving DecidableEq

structure Request where
  -- none where new URL() throws
  pathname : Option String
  headers : Headers
  socket : ClientIp.Socket
  -- Number(req.headers["content-length"]), where it is finite
  declared : Option Nat

def loopbacks : List String := ["127.0.0.1", "::1", "::ffff:127.0.0.1"]

def isLocalScrape (request : Request) : Bool :=
  (request.socket.remoteAddress.getD "" ∈ loopbacks) &&
    (ClientIp.truthy (request.headers.get "x-forwarded-for")).isNone &&
    (ClientIp.truthy (request.headers.get "cf-connecting-ip")).isNone

def isMetrics (pathname : String) : Bool := pathname = "/metrics"

def isAttest (pathname : String) : Bool := "/attest".toList.isPrefixOf pathname.toList

/-- handleRequest up to the body. -/
def handleRequest (server : Server) (now : Nat) (request : Request) (around : Around) :
    Server × Answer :=
  match request.pathname with
  | none =>
      ({ server with metrics := server.metrics.inc Exposition.Counter.httpErrorsTotal.name 1 },
        .plain 500 "internal error")
  | some pathname =>
      if isMetrics pathname then
        (server, if isLocalScrape request then .metrics else .plain 403 "forbidden")
      else
        match entryReject request.headers with
        | .error (status, message) => (server, .plain status message)
        | .ok room =>
            let server :=
              { server with
                  metrics := server.metrics.inc Exposition.Counter.httpRequestsTotal.name 1 }
            match ownershipGate config around room with
            | .rejects status _ _ =>
                ({ server with
                    metrics := server.metrics.inc Exposition.Counter.shardRejectTotal.name 1 },
                  .plain status "misdirected")
            | .admits _ =>
                let ip := clientIp request.headers request.socket config.trust
                let charged := if isAttest pathname
                  then charge config.attestLimit server.attestWindows ip now
                  else (server.attestWindows, false)
                let server := { server with attestWindows := charged.1 }
                if charged.2 then (server, .plain 429 "rate limited")
                else if !around.hasRoom room && around.rooms ≥ config.maxRooms then
                  (server, .plain 503 "capacity")
                else if request.declared.any (· > maxBodyBytes) then
                  (server, .plain 413 "payload too large")
                else
                  ({ server with
                      requests := server.requests ++ [server.nextId]
                      nextId := server.nextId + 1 },
                    .reads)

/-- What the rest of handleRequest writes, if anything. -/
def finished (stream : List Stream) (served : Option Nat) : Option Nat :=
  match (readBody maxBodyBytes stream).settled with
  | some (.body _) => some (served.getD 500)
  | some .tooLarge => some 413
  | _ => none

/-- The rest of handleRequest. The room answers with a status, or a throw is caught. -/
def finishRequest (server : Server) (id : Nat) (stream : List Stream) (served : Option Nat) :
    Server :=
  match (readBody maxBodyBytes stream).settled with
  | none => server
  | some result =>
      { server with
          requests := server.requests.filter (· ≠ id)
          metrics := match result, served with
            | .body _, none => server.metrics.inc Exposition.Counter.httpErrorsTotal.name 1
            | _, _ => server.metrics }

inductive Event
  | upgrade (now : Nat) (headers : List (String × NodeValue)) (socket : ClientIp.Socket)
      (around : Around)
  | accepted (now id : Nat)
  -- the handshake fails, and the callback is never called
  | aborted (id : Nat)
  | pong (id : Nat)
  | closed (now id : Nat)
  | sweep
  | request (now : Nat) (pathname : Option String) (headers : List (String × NodeValue))
      (socket : ClientIp.Socket) (declared : Option Nat) (around : Around)
  | finish (id : Nat) (stream : List Stream) (served : Option Nat)

/-- One turn of the host. An event that cannot happen leaves the state as it is. -/
def step (server : Server) : Event → Server
  | .upgrade now headers socket around =>
      handleUpgrade config server now (toHeaders headers) socket around
  | .accepted now id =>
      match server.handshakes.find? (·.1 = id) with
      | some (_, ip) => accept server now id ip
      | none => server
  | .aborted id => { server with handshakes := server.handshakes.filter (·.1 ≠ id) }
  | .pong id =>
      { server with
          clients := server.clients.map fun client =>
            if client.id = id then { client with isAlive := true } else client }
  | .closed now id =>
      match server.clients.find? (·.id = id) with
      | some client => close server now client
      | none => server
  | .sweep => sweepKeepalive server
  | .request now pathname headers socket declared around =>
      (handleRequest config server now ⟨pathname, toHeaders headers, socket, declared⟩ around).1
  | .finish id stream served =>
      if id ∈ server.requests then finishRequest server id stream served else server

def initial : Server := {}

abbrev run (events : List Event) : Server := Machine.run (step config) initial events

abbrev steps (events : List Event) : List (Server × Event) :=
  Machine.steps (step config) initial events

end Relay.Gateway

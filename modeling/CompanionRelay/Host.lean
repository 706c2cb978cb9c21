import CompanionRelay.Machine
import CompanionRelay.Room

/-!
host/runtime.js and the parts of host/server.js that call it, as a step function
on the state of one room name. One event is one turn of the event loop: what the
`ws` sockets, the timers, the crypto jobs and the HTTP server report, or the next
microtask part of the macrotask under way. A turn runs at most one script; an
event that cannot happen in a state leaves it as it is.

Three fields hold what microtasks are left: `draining` the socket whose promise
chain runs on, `alarming` the context whose overdue alarm() was started by init(),
`loading` the context that a get() has made for its caller.
-/

namespace Relay

open Function (update)

def evictable (ctx : ContextId) (state : State) : Bool :=
  (state.sockets ctx).isEmpty && (state.timer ctx).isNone &&
    state.suspended.all (·.ctx ≠ ctx) && state.loading ≠ some ctx

/-- Runtime.maybeEvict: the in-flight count is that of the suspended handlers. -/
def maybeEvict (ctx : ContextId) (state : State) : State :=
  if state.live = some ctx ∧ evictable ctx state = true then { state with live := none } else state

/-- The RoomContext of a get() that finds none. -/
def newContext (ctx : ContextId) (state : State) : State :=
  { state with
    live := some ctx
    nextId := ctx + 1
    sockets := update state.sockets ctx []
    timer := update state.timer ctx none
    admissionWindow := update state.admissionWindow ctx {}
    frameWindow := update state.frameWindow ctx {}
    quota := update state.quota ctx none
    quotaFlushedBytes := update state.quotaFlushedBytes ctx 0 }

/-- RoomContext.init: arm the persisted alarm, or start it if it is due. -/
def init (now : Nat) (ctx : ContextId) (state : State) : State :=
  match state.alarmRow with
  | none => state
  | some at_ =>
      if at_ ≤ now then { state with alarming := some ctx }
      else { state with timer := update state.timer ctx (some at_) }

/-- The contexts and sockets of a process that is gone, and the boot of the next. -/
def restart (now : Nat) (state : State) : State :=
  let booted : State :=
    { state with
      live := none
      sockets := fun _ => []
      timer := fun _ => none
      deaf := fun _ => true
      ended := fun _ => true
      chain := fun _ => []
      suspended := []
      draining := none
      alarming := none
      loading := none }
  -- Runtime.rehydrate visits the rooms that have a kv row or an alarm row
  if state.store = {} ∧ state.alarmRow = none then booted
  else maybeEvict state.nextId (init now state.nextId (newContext state.nextId booted))

inductive Tail
  | none
  | closeFrame
  | protocolError
  deriving DecidableEq

inductive Request
  | challenge
  | attest (body : Option Json)
  | register (body : Option Json)
  | delete (body : Option Json)
  | other

def Request.endpoint : Request → Endpoint
  | .challenge => .challenge
  | .attest _ => .attest
  | .register _ => .register
  | .delete _ => .delete
  | .other => .other

inductive Event
  -- Runtime.get of a room that has no context; its caller comes next
  | get (now : Nat)
  | connect (now : Nat) (ws : SocketId)
  -- one read of the socket: whole frames, then perhaps the end of the stream of frames
  | chunk (ws : SocketId) (frames : List (Frame × Bytes × Option Nat)) (tail : Tail)
  | ended (ws : SocketId)
  | run (now : Nat)
  | resume (now : Nat) (id : Nat) (random : Bytes) (fault : Option Nat)
  | request (now : Nat) (request : Request) (random : Bytes) (fault : Option Nat)
  | fire (now : Nat) (ctx : ContextId) (fault : Option Nat)
  | alarm (now : Nat) (fault : Option Nat)
  | drain
  | restart (now : Nat)

def State.upgrading (state : State) (ws : SocketId) : Bool :=
  state.suspended.any (·.await = .upgradeTag ws)

def Await.isProofOf (ws : SocketId) : Await → Bool
  | .proofSignature check => check.ws = ws
  | _ => false

def State.verifying (state : State) (ws : SocketId) : Bool :=
  state.suspended.any (·.await.isProofOf ws)

/-- One turn: the state it starts from, the script it runs in a context, the storage
call that throws, what the host does about a throw, and what it does at the end. -/
structure Turn where
  ctx : ContextId
  start : State
  script : List Act := []
  fault : Option Nat := none
  onThrow : List Act := []
  finish : State → State := id

def Turn.acts (turn : Turn) : List Act :=
  done turn.fault turn.script ++ if threw turn.fault turn.script then turn.onThrow else []

def Turn.result (turn : Turn) : State := turn.finish (replay turn.ctx turn.start turn.acts)

def State.push (state : State) (ws : SocketId) (tasks : List Task) : State :=
  { state with chain := update state.chain ws (state.chain ws ++ tasks), draining := some ws }

/-- The next handler of a socket's chain starts. -/
def State.pop (state : State) (ws : SocketId) (rest : List Task) : State :=
  { state with chain := update state.chain ws rest, nextId := state.nextId + 1 }

/-- A handler of the room starts in the context its get() returned. -/
def State.enter (state : State) : State :=
  { state with loading := none, nextId := state.nextId + 1 }

/-- A suspended handler goes on; the rest of a socket's chain may run after it. -/
def State.wake (state : State) (id : Nat) (draining : Option SocketId) : State :=
  { state with suspended := state.suspended.filter (·.id ≠ id), draining := draining }

/-- A socket that has just been upgraded. -/
def freshSocket (ws : SocketId) (state : State) : State :=
  { state with
    serverClosed := update state.serverClosed ws false
    closeFrameReceived := update state.closeFrameReceived ws false
    deaf := update state.deaf ws false
    ended := update state.ended ws false
    chain := update state.chain ws [] }

def hangUp (ws : SocketId) (tail : Tail) (state : State) : State :=
  match tail with
  | .none => state
  -- ws calls the wrapped close() to acknowledge the peer's close frame
  | .closeFrame =>
      { state with
        closeFrameReceived := update state.closeFrameReceived ws true
        deaf := update state.deaf ws true }.closeSocket ws
  -- and to answer a malformed frame, before it emits 'error'
  | .protocolError => { state with deaf := update state.deaf ws true }.closeSocket ws

def frameTasks (frames : List (Frame × Bytes × Option Nat)) (tail : Tail) : List Task :=
  frames.map (fun item => .message item.1 item.2.1 item.2.2) ++
    if tail = .protocolError then [.errored] else []

def endSocket (ws : SocketId) (state : State) : State :=
  { state with
    ended := update state.ended ws true
    deaf := update state.deaf ws true
    sockets := update state.sockets (state.home ws)
      ((state.sockets (state.home ws)).filter (· ≠ ws)) }

/-- RoomContext._dispatch: the handler of a task, and the catch of a frame's. -/
def taskTurn (env : Env) (now : Nat) (state : State) (ws : SocketId) (id : Nat) : Task → Turn
  | .message frame random fault =>
      { ctx := state.home ws
        start := state
        script := webSocketMessage env now (state.home ws) state id ws random frame
        fault := fault
        onThrow := [.close ws 1011 "internal error"]
        finish := maybeEvict (state.home ws) }
  | .closed | .errored =>
      { ctx := state.home ws
        start := state
        script := closePeerOf (state.home ws) state ws }

def continuation (env : Env) (now : Nat) (ctx : ContextId) (state : State) (random : Bytes)
    (id : Nat) : Await → List Act
  | .upgradeTag ws => finishUpgrade env now ctx state ws
  | .proofSignature check => finishProof env now ctx state random check
  | .attestDigest call => [.suspend id (.attestCheck call now)]
  | .attestCheck call since => finishAttest env now state id random call since
  | .registerDigest call => [.suspend id (.registerAssertion call)]
  | .registerAssertion call => finishRegister env now state id call
  | .deleteSignature call => finishDelete env id call
  | .deleteTag => teardownRoom ctx state "room deleted" ++ answer id .delete 200 .ok
  | .responseTag => []

def Await.onThrow (id : Nat) : Await → List Act
  | .upgradeTag ws => [.close ws 1011 "internal error"]
  | .proofSignature check => [.close check.ws 1011 "internal error"]
  | .attestDigest _ | .attestCheck _ _ => [.reply id .attest 500 (.error "internal error")]
  | .registerDigest _ | .registerAssertion _ => [.reply id .register 500 (.error "internal error")]
  | .deleteSignature _ | .deleteTag => [.reply id .delete 500 (.error "internal error")]
  | .responseTag => []

/-- After a proof the rest of the socket's chain runs. -/
def Await.drains : Await → Option SocketId
  | .proofSignature check => some check.ws
  | _ => none

def handleHttp (env : Env) (now : Nat) (state : State) (id : Nat) (random : Bytes) :
    Request → List Act
  | .challenge => handleAttestChallenge now state id random
  | .attest body => handleAttest env now state id body
  | .register body => handleRegister env now state id body
  | .delete body => handleDelete env now state id body
  | .other => answer id .other 501 (.error "not implemented")

def alarmTurn (env : Env) (now : Nat) (ctx : ContextId) (state : State) (seen : List SocketId)
    (fault : Option Nat) : Turn :=
  { ctx := ctx
    start := state
    script := alarm env now ctx state seen
    fault := fault
    onThrow := [.rearm (now + alarmRetryMs)]
    finish := maybeEvict ctx }

def runTurn (env : Env) (now : Nat) (state : State) (ws : SocketId) : Turn :=
  let idle : Turn := { ctx := state.home ws, start := { state with draining := none } }
  if state.verifying ws then idle
  else
    match state.chain ws with
    | [] => idle
    | task :: rest => taskTurn env now (state.pop ws rest) ws state.nextId task

/-- The turn of an event, if it can happen in this state. -/
def quietTurn (env : Env) (state : State) : Event → Option Turn
  | .get now =>
      if state.live.isSome then none
      else
        let ctx := state.nextId
        some
          { ctx := ctx
            start := init now ctx { newContext ctx state with loading := some ctx } }
  | .connect now ws =>
      match state.live with
      | none => none
      | some ctx =>
          if (state.attachment ws).isSome then none
          else some
            { ctx := ctx
              start := (freshSocket ws state).enter
              script := handleUpgrade env now state.nextId ws }
  | .chunk ws frames tail =>
      if (state.attachment ws).isNone || state.deaf ws || state.upgrading ws then none
      else some
        { ctx := state.home ws
          start := hangUp ws tail (state.push ws (frameTasks frames tail)) }
  | .ended ws =>
      if (state.attachment ws).isNone || state.ended ws then none
      else
        let tasks := if state.serverClosed ws then [] else [.closed]
        some
          { ctx := state.home ws
            start := maybeEvict (state.home ws) (endSocket ws (state.push ws tasks)) }
  | .run now => state.draining.map (runTurn env now state)
  | .resume now id random fault =>
      (state.find id).map fun handler =>
        let start := state.wake id handler.await.drains
        { ctx := handler.ctx
          start := start
          script := continuation env now handler.ctx start random id handler.await
          fault := fault
          onThrow := handler.await.onThrow id
          finish := maybeEvict handler.ctx }
  | .request now request random fault =>
      state.live.map fun ctx =>
        { ctx := ctx
          start := state.enter
          script := handleHttp env now state.enter state.nextId random request
          fault := fault
          onThrow := [.reply state.nextId request.endpoint 500 (.error "internal error")]
          finish := maybeEvict ctx }
  | .fire now ctx fault =>
      match state.timer ctx with
      | none => none
      | some at_ =>
          if at_ ≤ now then
            some (alarmTurn env now ctx { state with timer := update state.timer ctx none }
              (preAuth ctx state) fault)
          else none
  -- init() has started it on a new context, which has no socket yet
  | .alarm now fault =>
      state.alarming.map fun ctx => alarmTurn env now ctx { state with alarming := none } [] fault
  | .drain =>
      state.live.map fun ctx =>
        { ctx := ctx, start := state, script := closeAll ctx state wsReshardCode "reshard" }
  | .restart now => some { ctx := 0, start := restart now state }

/-- The events that the microtasks under way keep back. An alarm() that init() has
started looks for un-admitted sockets before get() returns; the caller of that get(),
an upgrade or an HTTP request, can come before or after the rest of it. -/
def State.busy (state : State) : Event → Bool
  | .restart _ | .run _ => false
  | .alarm _ _ => state.draining.isSome
  | .connect _ _ | .request _ _ _ _ =>
      state.draining.isSome || (state.alarming.isSome && state.loading.isNone)
  | _ => state.draining.isSome || state.alarming.isSome || state.loading.isSome

def turn (env : Env) (state : State) (event : Event) : Option Turn :=
  if state.busy event then none else quietTurn env state event

def acts (env : Env) (state : State) (event : Event) : List Act :=
  match turn env state event with
  | none => []
  | some turn => turn.acts

def step (env : Env) (state : State) (event : Event) : State :=
  match turn env state event with
  | none => state
  | some turn => turn.result

def initial : State := {}

abbrev run (env : Env) : List Event → State := Machine.run (step env) initial

abbrev steps (env : Env) : List Event → List (State × Event) := Machine.steps (step env) initial

section Sample

def macHello : Frame := .text "\x7b\"v\":1,\"role\":\"mac\"\x7d"
def phoneHello : Frame := .text "\x7b\"v\":1,\"role\":\"phone\"\x7d"
def yieldingHello : Frame := .text "\x7b\"v\":1,\"role\":\"mac\",\"nonDisplacing\":true\x7d"
def openProof : Frame := .text "\x7b\x7d"
def signedProof : Frame := .text "\x7b\"sig\":\"AQID\"\x7d"
def ticketProof : Frame := .text "\x7b\"ticket\":\"CQ==\"\x7d"
def cipherText : Frame := .binary [0, 1, 2]

/-- JSON.parse on the frames above. -/
def sampleParse (frame : Frame) : Option Json :=
  if frame = macHello then some (.obj [("v", .num 1), ("role", .str "mac")])
  else if frame = phoneHello then some (.obj [("v", .num 1), ("role", .str "phone")])
  else if frame = yieldingHello then
    some (.obj [("v", .num 1), ("role", .str "mac"), ("nonDisplacing", .bool true)])
  else if frame = openProof then some (.obj [])
  else if frame = signedProof then some (.obj [("sig", .str "AQID")])
  else if frame = ticketProof then some (.obj [("ticket", .str "CQ==")])
  else none

/-- A relay whose clients sign and attest as they should. -/
def sampleEnv (attest : Bool) : Env where
  roomName := "room"
  relayOrigin := "wss://relay"
  attestRequired := if attest then none else some "false"
  dailyByteQuota := none
  establishedIdleTtl := none
  roomTag := fun _ => "00000000"
  parse := sampleParse
  sha256 := id
  verifyJoin := fun sig _ _ => sig = "AQID"
  verifyAttestation := fun attestationObject _ _ => .ok (attestationObject, attestationObject)
  verifyAssertion := fun assertion _ _ => .ok assertion.length

/-- A socket that connects and sends its hello and its proof in one read. `id` is the
next handler number; the two frames take the two after it. -/
def joins (now ws id : Nat) (hello proof : Frame) (random : Bytes) : List Event :=
  [.connect now ws, .resume now id [] none,
    .chunk ws [(hello, random, none), (proof, random, none)] .none, .run now, .run now, .run now]

def registration (token verifier challenge assertion : String) : Request :=
  .register (some (.obj [("verifier", .str verifier), ("registrationToken", .str token),
    ("challenge", .str challenge), ("assertion", .str assertion)]))

def attestation (challenge : String) : Request :=
  .attest (some (.obj [("challenge", .str challenge), ("attestationObject", .str "AQID")]))

def deletion (challenge : String) : Request :=
  .delete (some (.obj [("challenge", .str challenge), ("signature", .str "AQID")]))

/-- An HTTP request and the crypto awaits of its handler, up to its answer. -/
def asks (now id : Nat) (request : Request) (random : Bytes) (awaits : Nat) : List Event :=
  .request now request random none :: List.replicate awaits (.resume now id random none)

-- A phone joins the mac that has parked.
example : (run (sampleEnv false) (.get 1 :: joins 1 0 1 macHello openProof [1] ++
    joins 1 1 4 phoneHello openProof [2])).admission 1 = some (.admitted .phone) := by
  decide +kernel

end Sample

end Relay

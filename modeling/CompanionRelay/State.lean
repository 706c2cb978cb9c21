import Mathlib.Logic.Function.Basic
import CompanionRelay.Script
import CompanionRelay.Encoding

/-!
The state of one room name inside the process: the room's rows and alarm row, its
`RoomContext` objects (one of them, `live`, is the one in `runtime.rooms`), the
sockets it ever accepted, and the handlers suspended at a crypto await. The fields
of the source's objects are maps from context or socket ids, so that an act on one
field leaves the others as they are by definition.

A storage await yields a microtask only, a crypto await a macrotask
(host/storage.js), so a handler is cut at its crypto awaits: each part is one
script of acts, and a suspended handler is the data its next part reads.
-/

namespace Relay

/-- What a room reads from outside: its configuration, JSON.parse, SHA-256, and
the verdicts of the signature, attestation and assertion checks. -/
structure Env where
  roomName : String
  relayOrigin : String
  attestRequired : Option String
  -- parseInt(RELAY_DAILY_BYTE_QUOTA, 10), with none for NaN
  dailyByteQuota : Option Int
  -- Number(RELAY_ESTABLISHED_IDLE_TTL_MS) in whole milliseconds, none if not finite
  establishedIdleTtl : Option Int
  roomTag : String → String
  parse : Frame → Option Json
  sha256 : Bytes → Bytes
  verifyJoin : (sig : String) → (transcript : Bytes) → (verifier : String) → Bool
  verifyAttestation : (attestationObject clientDataHash : Bytes) → (now : Nat) →
    Except String (Bytes × Bytes)
  verifyAssertion : (assertion clientDataHash publicKeyRaw : Bytes) → Except String Nat

/-- Fail closed: only an explicit "false" disables attestation. -/
def attestationRequired (env : Env) : Bool := env.attestRequired != some "false"

/-- What ws.send puts on the wire. -/
inductive Message
  | challenge (nonce : String)
  | ok (registrationToken : Option String)
  | refused (error : String)
  | relayed (frame : Frame)
  deriving DecidableEq

inductive Endpoint
  | challenge
  | attest
  | register
  | delete
  | other
  deriving DecidableEq

inductive Body
  | ok
  | challenge (challenge : String)
  | ticket (ticket : String)
  | error (message : String)
  deriving DecidableEq

/-- A proof suspended at verifyJoin. -/
structure JoinCheck where
  ws : SocketId
  role : Role
  sig : String
  transcript : Bytes
  verifier : String
  deriving DecidableEq

structure AttestCall where
  challenge : String
  attestationObject : String
  clientData : Bytes
  deriving DecidableEq

structure RegisterCall where
  token : String
  verifier : String
  challenge : String
  assertion : String
  clientData : Bytes
  key : AttestedKey
  deriving DecidableEq

structure DeleteCall where
  signature : String
  transcript : Bytes
  verifier : String
  deriving DecidableEq

/-- The crypto awaits of room.js, each with the data its continuation reads. -/
inductive Await
  | upgradeTag (ws : SocketId)
  | proofSignature (check : JoinCheck)
  | attestDigest (call : AttestCall)
  | attestCheck (call : AttestCall) (since : Nat)
  | registerDigest (call : RegisterCall)
  | registerAssertion (call : RegisterCall)
  | deleteSignature (call : DeleteCall)
  | deleteTag
  | responseTag
  deriving DecidableEq

structure Suspended where
  id : Nat
  ctx : ContextId
  await : Await
  deriving DecidableEq

/-- A handler waiting on a socket's promise chain. A frame comes with the random
bytes its handler will draw and the storage call of the handler that will throw. -/
inductive Task
  | message (frame : Frame) (random : Bytes) (fault : Option Nat)
  | closed
  | errored
  deriving DecidableEq

structure State where
  store : Store := {}
  alarmRow : Option Nat := none
  live : Option ContextId := none
  -- RoomContext
  sockets : ContextId → List SocketId := fun _ => []
  timer : ContextId → Option Nat := fun _ => none
  -- Room
  admissionWindow : ContextId → Window := fun _ => {}
  frameWindow : ContextId → Window := fun _ => {}
  quota : ContextId → Option Quota := fun _ => none
  quotaFlushedBytes : ContextId → Nat := fun _ => 0
  -- ws
  home : SocketId → ContextId := fun _ => 0
  attachment : SocketId → Option Attachment := fun _ => none
  serverClosed : SocketId → Bool := fun _ => false
  closeFrameReceived : SocketId → Bool := fun _ => false
  deaf : SocketId → Bool := fun _ => false
  ended : SocketId → Bool := fun _ => false
  chain : SocketId → List Task := fun _ => []
  -- the event loop
  suspended : List Suspended := []
  draining : Option SocketId := none
  alarming : Option ContextId := none
  loading : Option ContextId := none
  nextId : Nat := 0

/-- The acts of a handler. `get`, `list` and `getAlarm` are the storage reads. -/
inductive Act
  | get
  | list
  | getAlarm
  | put (row : Row)
  | delete (key : Key)
  | deleteAll
  | setAlarm (at_ : Nat)
  | deleteAlarm
  | accept (ws : SocketId)
  | attach (ws : SocketId) (attachment : Attachment)
  | send (ws : SocketId) (message : Message)
  | close (ws : SocketId) (code : Nat) (reason : String)
  | countAdmission (window : Window)
  | countFrame (window : Window)
  | meter (quota : Quota) (flushed : Nat)
  | suspend (id : Nat) (await : Await)
  | reply (id : Nat) (endpoint : Endpoint) (status : Nat) (body : Body)
  | rearm (at_ : Nat)
  | throw
  deriving DecidableEq

def Act.isStorage : Act → Bool
  | .get | .list | .getAlarm | .put _ | .delete _ | .deleteAll | .setAlarm _ | .deleteAlarm => true
  | _ => false

def Act.isThrow : Act → Bool
  | .throw => true
  | _ => false

open Function (update)

/-- The wrapper acceptWebSocket puts around ws.close: it marks a close the relay
started and takes the socket out of the routable set at once. -/
def State.closeSocket (state : State) (ws : SocketId) : State :=
  { state with
    serverClosed := update state.serverClosed ws
      (state.serverClosed ws || !state.closeFrameReceived ws)
    sockets := update state.sockets (state.home ws)
      ((state.sockets (state.home ws)).filter (· ≠ ws)) }

/-- What an act of a handler running in context `ctx` does. -/
def perform (ctx : ContextId) (state : State) : Act → State
  | .put row => { state with store := state.store.put row }
  | .delete key => { state with store := state.store.delete key }
  | .deleteAll => { state with store := {} }
  | .setAlarm at_ =>
      { state with alarmRow := some at_, timer := update state.timer ctx (some at_) }
  | .deleteAlarm => { state with alarmRow := none, timer := update state.timer ctx none }
  | .accept ws =>
      { state with
        sockets := update state.sockets ctx (state.sockets ctx ++ [ws])
        home := update state.home ws ctx }
  | .attach ws attachment =>
      { state with attachment := update state.attachment ws (some attachment) }
  | .close ws _ _ => state.closeSocket ws
  | .countAdmission window =>
      { state with admissionWindow := update state.admissionWindow ctx window }
  | .countFrame window => { state with frameWindow := update state.frameWindow ctx window }
  | .meter quota flushed =>
      { state with
        quota := update state.quota ctx (some quota)
        quotaFlushedBytes := update state.quotaFlushedBytes ctx flushed }
  | .suspend id await => { state with suspended := state.suspended ++ [⟨id, ctx, await⟩] }
  -- the retry of host/runtime.js arms the timer without an alarm row
  | .rearm at_ => { state with timer := update state.timer ctx (some at_) }
  | .get | .list | .getAlarm | .send _ _ | .reply _ _ _ _ | .throw => state

abbrev replay (ctx : ContextId) : State → List Act → State := Script.replay (perform ctx)

@[simp] theorem replay_nil (ctx : ContextId) (state : State) : replay ctx state [] = state := rfl

@[simp] theorem replay_cons (ctx : ContextId) (state : State) (act : Act) (rest : List Act) :
    replay ctx state (act :: rest) = replay ctx (perform ctx state act) rest := rfl

@[simp] theorem replay_append (ctx : ContextId) (state : State) (first second : List Act) :
    replay ctx state (first ++ second) = replay ctx (replay ctx state first) second :=
  Script.replay_append (perform ctx) state first second

abbrev done : Option Nat → List Act → List Act := Script.done Act.isStorage Act.isThrow

abbrev threw : Option Nat → List Act → Bool := Script.threw Act.isStorage Act.isThrow

def State.admission (state : State) (ws : SocketId) : Option Admission :=
  (state.attachment ws).map (·.admission)

def State.holds (state : State) (ws : SocketId) (role : Role) : Bool :=
  state.admission ws == some (.admitted role)

/-- `this.ctx.getWebSockets()` without `ws`, kept to the holders of `role`. -/
def State.holders (state : State) (ctx : ContextId) (ws : SocketId) (role : Role) :
    List SocketId :=
  (state.sockets ctx).filter fun other => other ≠ ws && state.holds other role

def State.routable (state : State) (ws : SocketId) : Prop :=
  ws ∈ state.sockets (state.home ws)

instance (state : State) (ws : SocketId) : Decidable (state.routable ws) :=
  inferInstanceAs (Decidable (ws ∈ state.sockets (state.home ws)))

def State.find (state : State) (id : Nat) : Option Suspended :=
  state.suspended.find? (·.id = id)

end Relay

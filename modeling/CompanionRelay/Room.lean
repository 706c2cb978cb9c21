import Mathlib.Data.List.Sort
import CompanionRelay.State

/-!
The handlers of src/room.js, each as the script of acts it performs on the state
it finds. Reads of the handler's own writes occur in two places only (the second
ensureAlarm of a signed join, and the sockets a sweep has just closed); there the
later part of the script is computed on the replay of the earlier part.
Log lines are left out, except that a log tag is a crypto await.
-/

namespace Relay

variable (env : Env) (now : Nat) (ctx : ContextId) (state : State)

def dailyByteLimit : Int :=
  match env.dailyByteQuota with
  | some limit => if limit = 0 then defaultDailyByteQuota else limit
  | none => defaultDailyByteQuota

/-- Room.establishedIdleTtlMs. -/
def establishedIdleTtlMs : Nat :=
  match env.establishedIdleTtl with
  | some ttl => if 0 < ttl then ttl.toNat else defaultEstablishedIdleTtlMs
  | none => defaultEstablishedIdleTtlMs

def established : Bool := (truthy state.store.verifier).isSome

def reject (ws : SocketId) (error : String) : List Act :=
  [.send ws (.refused error), .close ws 1008 error]

def closeAll (code : Nat) (reason : String) : List Act :=
  (state.sockets ctx).map (.close · code reason)

def closePeerOf (ws : SocketId) : List Act :=
  match state.admission ws with
  | some (.admitted role) => (state.holders ctx ws role.other).map (.close · 1001 "peer gone")
  | _ => []

def teardownRoom (reason : String) : List Act :=
  closeAll ctx state 1000 reason ++ [.deleteAll, .deleteAlarm]

def ensureAlarm : List Act :=
  let soon := now + housekeepingIntervalMs
  .getAlarm ::
    match state.alarmRow with
    | none => [.setAlarm soon]
    | some existing => if existing > soon then [.setAlarm soon] else []

def bumpActivity : List Act := .put (.lastActivity now) :: ensureAlarm now state

/-- The quota in memory or, on the first relayed frame, the stored one. -/
def loadedQuota : Quota × Nat :=
  match state.quota ctx with
  | some quota => (quota, state.quotaFlushedBytes ctx)
  | none =>
      let stored := state.store.quota.getD ⟨now, 0⟩
      (stored, stored.bytes)

def rolledQuota : Quota × Nat :=
  let loaded := loadedQuota now ctx state
  if now - loaded.1.dayStart ≥ quotaWindowMs then (⟨now, 0⟩, 0) else loaded

/-- Room.overQuota: whether a frame of `size` bytes exceeds the daily quota. -/
def overQuota (size : Nat) : Bool :=
  ((rolledQuota now ctx state).1.bytes + size : Int) > dailyByteLimit env

def meterQuota (size : Nat) : List Act :=
  let loaded := loadedQuota now ctx state
  let rolled := rolledQuota now ctx state
  let spent : Quota := ⟨rolled.1.dayStart, rolled.1.bytes + size⟩
  (if (state.quota ctx).isNone then [.get, .meter loaded.1 loaded.2] else []) ++
  (if now - loaded.1.dayStart ≥ quotaWindowMs
    then [.meter rolled.1 rolled.2, .put (.quota rolled.1)] else []) ++
  if overQuota env now ctx state size then
    [.meter spent rolled.2, .put (.quota spent)] ++ closeAll ctx state 1008 "daily quota exceeded"
  else if spent.bytes - rolled.2 ≥ quotaFlushBytes then
    [.meter spent spent.bytes, .put (.quota spent)]
  else [.meter spent rolled.2]

def forward (ws : SocketId) (role : Role) (frame : Frame) : List Act :=
  match state.holders ctx ws role.other with
  | peer :: _ => [.send peer (.relayed frame)]
  | [] => []

/-- Upgrades: the part of handleUpgrade up to the hash of the room name. -/
def handleUpgrade (id : Nat) (ws : SocketId) : List Act :=
  [.accept ws, .attach ws ⟨.hello, env.roomName, none, now⟩, .suspend id (.upgradeTag ws)]

def preAuth : List SocketId :=
  ((state.sockets ctx).filter fun ws =>
    match state.admission ws with
    | none | some (.admitted _) => false
    | some _ => true)

def connectedAt (ws : SocketId) : Nat := ((state.attachment ws).map (·.connectedAt)).getD 0

def evictExcessPreAuth : List Act :=
  let oldestFirst := (preAuth ctx state).insertionSort
    fun x y => connectedAt state x ≤ connectedAt state y
  (oldestFirst.take (oldestFirst.length - maxPreauthSockets)).map
    (.close · 1008 "too many pending")

def backfillTag (ws : SocketId) : List Act :=
  match state.attachment ws with
  | some attachment =>
      if attachment.tag = none
        then [.attach ws { attachment with tag := some (env.roomTag env.roomName) }] else []
  | none => []

def finishUpgrade (ws : SocketId) : List Act :=
  backfillTag env state ws ++ evictExcessPreAuth ctx state ++ ensureAlarm now state

def handleHello (ws : SocketId) (random : Bytes) (frame : Frame) : List Act :=
  match env.parse frame, state.attachment ws with
  | some hello, some attachment =>
      match hello.read "v", hello.read "role", hello.read "nonDisplacing" with
      | some (some (.num version)), some (some (.str name)), some flag =>
          let role : Option Role :=
            if name = "mac" then some .mac else if name = "phone" then some .phone else none
          match role with
          | some role =>
              if version = protocolVersion then
                let nonDisplacing := match flag with
                  | some (.bool true) => true
                  | _ => false
                [.attach ws { attachment with
                    admission := .challenged role (b64 random) nonDisplacing },
                  .send ws (.challenge (b64 random))]
              else [.close ws 1008 "bad hello"]
          | none => [.close ws 1008 "bad hello"]
      | none, _, _ => [.throw]
      | _, _, _ => [.close ws 1008 "bad hello"]
  | _, _ => [.close ws 1008 "bad hello"]

def nonDisplacing (ws : SocketId) : Bool :=
  match state.admission ws with
  | some (.challenged _ _ flag) => flag
  | _ => false

/-- The end of Room.admit: displace the holders of the role and take the slot, or
yield to them. -/
def takeSlot (random : Bytes) (ws : SocketId) (role : Role) (attest : Option AttestedKey) :
    List Act :=
  let holders := state.holders ctx ws role
  if nonDisplacing state ws && !holders.isEmpty then reject ws "slot occupied"
  else
    let previous := (state.attachment ws).getD ⟨.hello, env.roomName, none, now⟩
    let token := b64 random
    holders.map (.close · 1000 "displaced") ++
      .attach ws { previous with admission := .admitted role } ::
      match role with
      | .mac => [.send ws (.ok none)]
      | .phone =>
          .put (.regToken token ⟨now + regTokenTtlMs, attest⟩) :: ensureAlarm now state ++
            [.send ws (.ok (some token))]

def admitSocket (random : Bytes) (ws : SocketId) (role : Role) (attest : Option AttestedKey) :
    List Act :=
  let take := takeSlot env now ctx state random ws role attest
  .get ::
    match role with
    | .mac => if established state then take else .put (.pairingCycles 0) :: take
    | .phone =>
        -- a phone may only join while a mac is parked
        if (state.holders ctx ws .mac).isEmpty then reject ws "mac offline"
        else if established state then take
        else
          let cycles := state.store.pairingCycles.getD 0 + 1
          .get ::
            if cycles > maxPairingCycles then teardownRoom ctx state "pairing cycle cap"
            else .put (.pairingCycles cycles) :: take

/-- handleProof in pairing mode. -/
def pairingProof (random : Bytes) (ws : SocketId) (role : Role) (proof : Json) : List Act :=
  if attestationRequired env then
    match role with
    | .mac => admitSocket env now ctx state random ws role none
    | .phone =>
        match proof.readString "ticket" with
        | none => [.throw]
        | some none => reject ws "ticket required"
        | some (some ticket) =>
            .get ::
              match state.store.tickets.lookup ticket with
              | none => reject ws "bad ticket"
              | some rec =>
                  if rec.expiresAt < now then reject ws "bad ticket"
                  -- the row is present and nothing ran since the read, so the CAS succeeds
                  else .delete (.ticket ticket) ::
                    admitSocket env now ctx state random ws role (some ⟨rec.keyId, rec.publicKey⟩)
  else admitSocket env now ctx state random ws role none

def handleProof (id : Nat) (ws : SocketId) (role : Role) (nonce : String) (random : Bytes)
    (frame : Frame) : List Act :=
  let limit := rateLimited (state.admissionWindow ctx) now maxAdmissionAttempts admissionWindowMs
  .countAdmission limit.1 ::
    if limit.2 then reject ws "rate limited"
    else
      match env.parse frame with
      | none => reject ws "bad proof"
      | some proof =>
          .get ::
            match truthy state.store.verifier with
            | none => pairingProof env now ctx state random ws role proof
            | some verifier =>
                match proof.readString "sig" with
                | none => [.throw]
                | some none => reject ws "signature required"
                | some (some sig) =>
                    match joinTranscript role nonce env.roomName env.relayOrigin with
                    | none => [.throw]
                    | some transcript =>
                        [.suspend id (.proofSignature ⟨ws, role, sig, transcript, verifier⟩)]

def finishProof (random : Bytes) (check : JoinCheck) : List Act :=
  if env.verifyJoin check.sig check.transcript check.verifier then
    let bump := bumpActivity now state
    bump ++ admitSocket env now ctx (replay ctx state bump) random check.ws check.role none
  else reject check.ws "bad signature"

/-- The cap on a frame: control frames of an un-admitted socket are tiny. -/
def frameCap (ws : SocketId) : Nat :=
  match state.admission ws with
  | some (.admitted _) => maxFrameBytes
  | _ => maxControlBytes

/-- webSocketMessage on an admitted socket. -/
def spliceFrame (ws : SocketId) (role : Role) (frame : Frame) : List Act :=
  let limit := rateLimited (state.frameWindow ctx) now maxFramesPerWindow frameWindowMs
  .countFrame limit.1 ::
    if limit.2 then closePeerOf ctx state ws ++ [.close ws 1008 "frame rate exceeded"]
    else meterQuota env now ctx state frame.size ++
      if overQuota env now ctx state frame.size then [] else forward ctx state ws role frame

def webSocketMessage (id : Nat) (ws : SocketId) (random : Bytes) (frame : Frame) : List Act :=
  if frame.size > frameCap state ws then
    closePeerOf ctx state ws ++ [.close ws 1009 "frame too large"]
  else
    match state.admission ws with
    | none | some .hello => handleHello env state ws random frame
    | some (.challenged role nonce _) =>
        handleProof env now ctx state id ws role nonce random frame
    | some (.admitted role) => spliceFrame env now ctx state ws role frame

/-- A reply, then the log tag of Room.fetch. -/
def answer (id : Nat) (endpoint : Endpoint) (status : Nat) (body : Body) : List Act :=
  [.reply id endpoint status body, .suspend id .responseTag]

def expired {Rec : Type} (expiresAt : Rec → Nat) (table : Table Rec) : List String :=
  (table.entries.filter fun row => expiresAt row.2 < now).map (·.1)

def liveCount {Rec : Type} (expiresAt : Rec → Nat) (table : Table Rec) : Nat :=
  (table.entries.filter fun row => !decide (expiresAt row.2 < now)).length

def handleAttestChallenge (reqId : Nat) (random : Bytes) : List Act :=
  .list :: (expired now id state.store.challenges).map (.delete <| .challenge ·) ++
    if liveCount now id state.store.challenges ≥ maxOutstandingChallenges then
      answer reqId .challenge 429 (.error "too many outstanding challenges")
    else
      let challenge := b64 random
      .put (.challenge challenge (now + attestChallengeTtlMs)) :: ensureAlarm now state ++
        answer reqId .challenge 200 (.challenge challenge)

/-- The single-use read of a challenge shared by /attest, /register and /delete. -/
def liveChallenge (challenge : String) : Bool :=
  match state.store.challenges.lookup challenge with
  | none => false
  | some expiresAt => !decide (expiresAt < now)

def handleAttest (id : Nat) (body : Option Json) : List Act :=
  let refuse status message := answer id .attest status (.error message)
  if !attestationRequired env then refuse 400 "attestation disabled"
  else
    match body with
    | none => refuse 400 "bad json"
    | some body =>
        match body.readString "challenge", body.readString "attestationObject" with
        | some (some challenge), some (some attestationObject) =>
            .get ::
              if liveChallenge now state challenge then
                .delete (.challenge challenge) ::
                  match attestData challenge env.relayOrigin with
                  | none => [.throw]
                  | some clientData =>
                      [.suspend id (.attestDigest ⟨challenge, attestationObject, clientData⟩)]
              else refuse 403 "bad challenge"
        | none, _ => [.throw]
        | _, _ => refuse 400 "missing fields"

def attestVerdict (call : AttestCall) (since : Nat) : Except String (Bytes × Bytes) :=
  match b64ToBytes call.attestationObject with
  | none => .error "invalid base64"
  | some object => env.verifyAttestation object (env.sha256 call.clientData) since

def finishAttest (id : Nat) (random : Bytes) (call : AttestCall) (since : Nat) : List Act :=
  match attestVerdict env call since with
  | .error _ => answer id .attest 403 (.error "attestation rejected")
  | .ok (keyId, publicKeyRaw) =>
      let ticket := b64 random
      .put (.ticket ticket ⟨now + ticketTtlMs, b64 keyId, b64 publicKeyRaw⟩) ::
        ensureAlarm now state ++ answer id .attest 200 (.ticket ticket)

def writeVerifier (id : Nat) (token verifier : String) : List Act :=
  [.delete (.regToken token), .put (.verifier verifier)] ++ bumpActivity now state ++
    answer id .register 200 .ok

/-- `rec.attestKeyId` and `rec.attestPublicKey`, when both are true to JavaScript. -/
def attestedKey (rec : RegTokenRec) : Option AttestedKey :=
  rec.attested.filter fun key => key.keyId ≠ "" && key.publicKey ≠ ""

def handleRegister (id : Nat) (body : Option Json) : List Act :=
  let refuse status message := answer id .register status (.error message)
  match body with
  | none => refuse 400 "bad json"
  | some body =>
      match body.readString "verifier", body.readString "registrationToken" with
      | none, _ | _, none => [.throw]
      | some none, _ => refuse 400 "missing verifier"
      | some (some verifier), some token =>
          .get ::
            if established state then refuse 403 "already registered"
            else
              match token with
              | none => refuse 403 "token required"
              | some token =>
                  .get ::
                    match state.store.regTokens.lookup token with
                    | none => refuse 403 "bad token"
                    | some rec =>
                        if rec.expiresAt < now then refuse 403 "bad token"
                        else if !attestationRequired env then
                          writeVerifier now state id token verifier
                        else
                          match attestedKey rec with
                          | none => refuse 403 "token not attested"
                          | some key =>
                              match body.readString "challenge", body.readString "assertion" with
                              | some (some challenge), some (some assertion) =>
                                  .get ::
                                    if liveChallenge now state challenge then
                                      .delete (.challenge challenge) ::
                                        match attestData challenge env.relayOrigin with
                                        | none => [.throw]
                                        | some clientData =>
                                            [.suspend id (.registerDigest
                                              ⟨token, verifier, challenge, assertion, clientData,
                                                key⟩)]
                                    else refuse 403 "bad challenge"
                              | _, _ => refuse 403 "assertion required"

def assertionVerdict (call : RegisterCall) : Except String Nat :=
  match b64ToBytes call.assertion, b64ToBytes call.key.publicKey with
  | some assertion, some publicKeyRaw =>
      env.verifyAssertion assertion (env.sha256 call.clientData) publicKeyRaw
  | _, _ => .error "invalid base64"

/-- The counter must be above the last one stored for the attested key. -/
def freshCounter (keyId : String) (counter : Nat) : Bool :=
  match state.store.assertCounters.lookup keyId with
  | none => true
  | some last => !decide (counter ≤ last)

def finishRegister (id : Nat) (call : RegisterCall) : List Act :=
  match assertionVerdict env call with
  | .error message => answer id .register 403 (.error ("assertion rejected: " ++ message))
  | .ok counter =>
      .get ::
        if freshCounter state call.key.keyId counter then
          [.put (.assertCounter call.key.keyId counter), .put (.registrantKeyId call.key.keyId)] ++
            writeVerifier now state id call.token call.verifier
        else answer id .register 403 (.error "stale assertion")

def handleDelete (id : Nat) (body : Option Json) : List Act :=
  let refuse status message := answer id .delete status (.error message)
  match body with
  | none => refuse 400 "bad json"
  | some body =>
      .get ::
        match truthy state.store.verifier with
        | none => refuse 403 "not established"
        | some verifier =>
            match body.readString "challenge", body.readString "signature" with
            | some (some challenge), some (some signature) =>
                .get ::
                  if liveChallenge now state challenge then
                    .delete (.challenge challenge) ::
                      match deleteTranscript challenge env.roomName env.relayOrigin with
                      | none => [.throw]
                      | some transcript =>
                          [.suspend id (.deleteSignature ⟨signature, transcript, verifier⟩)]
                  else refuse 403 "bad challenge"
            | none, _ => [.throw]
            | _, _ => refuse 403 "signature required"

def finishDelete (id : Nat) (call : DeleteCall) : List Act :=
  if env.verifyJoin call.signature call.transcript call.verifier then [.suspend id .deleteTag]
  else answer id .delete 403 (.error "bad signature")

def timedOut (ws : SocketId) : Bool :=
  connectedAt state ws ≠ 0 && now - connectedAt state ws > preauthDeadlineMs

-- `seen` are the un-admitted sockets that alarm() finds when it starts.
def sweepPreAuth (seen : List SocketId) : List Act :=
  (seen.filter (timedOut now state)).map (.close · 1008 "admission timeout")

def pendingPreAuth (seen : List SocketId) : Nat :=
  (seen.filter fun ws => !timedOut now state ws).length

def pruneExpired : List Act :=
  .list :: (expired now (·.expiresAt) state.store.tickets).map (.delete <| .ticket ·) ++
  .list :: (expired now (·.expiresAt) state.store.regTokens).map (.delete <| .regToken ·) ++
  .list :: (expired now id state.store.challenges).map (.delete <| .challenge ·)

def remainingEphemeral : Nat :=
  liveCount now (·.expiresAt) state.store.tickets +
    liveCount now (·.expiresAt) state.store.regTokens + liveCount now id state.store.challenges

/-- A stored time, or now for a room established before the feature shipped. -/
def lastActivity : Nat := state.store.lastActivity.getD now

def idleDeadline : Option Nat :=
  if established state then some (lastActivity now state + establishedIdleTtlMs env) else none

/-- The next alarm: the housekeeping cadence while work remains, the idle deadline
of an established room, the nearer of the two, or none. -/
def nextAlarm (seen : List SocketId) : Option Nat :=
  let housekeeping : Option Nat :=
    if 0 < pendingPreAuth now state seen ∨ 0 < remainingEphemeral now state
      then some (now + housekeepingIntervalMs) else none
  match housekeeping, idleDeadline env now state with
  | some next, some idle => some (min next idle)
  | some next, none => some next
  | none, idle => idle

def reaps : Bool :=
  match idleDeadline env now state with
  | some deadline => decide (now ≥ deadline)
  | none => false

def alarm (seen : List SocketId) : List Act :=
  let sweep := sweepPreAuth now state seen ++ pruneExpired now state
  let swept := replay ctx state sweep
  sweep ++ .get ::
    (if established state then
      .get :: if state.store.lastActivity = none then [.put (.lastActivity now)] else []
    else []) ++
    if reaps env now state then teardownRoom ctx swept "room expired"
    else
      match nextAlarm env now state seen with
      | some next => [.setAlarm next]
      | none => []

end Relay

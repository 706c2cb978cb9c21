import CompanionRelay.Host

/-!
Which kinds of act each handler can perform. A part of the state that only some
kinds of act touch is then left alone by every handler without them, and the
handlers that can perform a given kind are the ones a proof about it looks into.
-/

namespace Relay

inductive Verb
  | read
  | getAlarm
  | putVerifier
  | putLastActivity
  | putPairingCycles
  | putQuota
  | putRegistrantKeyId
  | putAssertCounter
  | putTicket
  | putRegToken
  | putChallenge
  | deleteTicket
  | deleteRegToken
  | deleteChallenge
  | deleteAll
  | setAlarm
  | deleteAlarm
  | accept
  | attach
  | sendOk
  | sendRelayed
  | send
  | close
  | count
  | meter
  | suspend
  | reply
  | replyRegistered
  | rearm
  | throw
  deriving DecidableEq

@[simp] def Row.verb : Row → Verb
  | .verifier _ => .putVerifier
  | .lastActivity _ => .putLastActivity
  | .pairingCycles _ => .putPairingCycles
  | .quota _ => .putQuota
  | .registrantKeyId _ => .putRegistrantKeyId
  | .assertCounter _ _ => .putAssertCounter
  | .ticket _ _ => .putTicket
  | .regToken _ _ => .putRegToken
  | .challenge _ _ => .putChallenge

@[simp] def Key.verb : Key → Verb
  | .ticket _ => .deleteTicket
  | .regToken _ => .deleteRegToken
  | .challenge _ => .deleteChallenge

/-- The answer of a registration is a kind of its own. -/
@[simp] def replyVerb : Endpoint → Body → Verb
  | .register, .ok => .replyRegistered
  | _, _ => .reply

@[simp] def Act.verb : Act → Verb
  | .get | .list => .read
  | .getAlarm => .getAlarm
  | .put row => row.verb
  | .delete key => key.verb
  | .deleteAll => .deleteAll
  | .setAlarm _ => .setAlarm
  | .deleteAlarm => .deleteAlarm
  | .accept _ => .accept
  | .attach _ _ => .attach
  | .send _ (.ok _) => .sendOk
  | .send _ (.relayed _) => .sendRelayed
  | .send _ (.challenge _) | .send _ (.refused _) => .send
  | .close _ _ _ => .close
  | .countAdmission _ | .countFrame _ => .count
  | .meter _ _ => .meter
  | .suspend _ _ => .suspend
  | .reply _ endpoint _ body => replyVerb endpoint body
  | .rearm _ => .rearm
  | .throw => .throw

/-- Every act of the script is of one of these kinds. -/
structure Within (verbs : List Verb) (acts : List Act) : Prop where
  each : ∀ act ∈ acts, act.verb ∈ verbs

namespace Within

variable {verbs wider : List Verb} {first second : List Act} {act : Act}

theorem iff_forall : Within verbs first ↔ ∀ act ∈ first, act.verb ∈ verbs :=
  ⟨Within.each, Within.mk⟩

@[simp] theorem nil : Within verbs [] := by simp [iff_forall]

@[simp] theorem cons_iff : Within verbs (act :: second) ↔ act.verb ∈ verbs ∧ Within verbs second := by
  simp [iff_forall]

@[simp] theorem append_iff :
    Within verbs (first ++ second) ↔ Within verbs first ∧ Within verbs second := by
  simp [iff_forall, or_imp, forall_and]

theorem mono (fits : Within verbs first) (wide : verbs ⊆ wider) : Within wider first :=
  ⟨fun act member => wide (fits.each act member)⟩

theorem map_of {Item : Type} {items : List Item} {make : Item → Act}
    (each : ∀ item, (make item).verb ∈ verbs) : Within verbs (items.map make) := by
  constructor
  intro act member
  obtain ⟨item, _, rfl⟩ := List.mem_map.mp member
  exact each item

theorem avoids {verb : Verb} (fits : Within verbs first) (missing : verb ∉ verbs) :
    ∀ act ∈ first, act.verb ≠ verb :=
  fun act member same => missing (same ▸ fits.each act member)

theorem calm (fits : Within verbs first) (missing : Verb.throw ∉ verbs) :
    ∀ act ∈ first, act.isThrow = false := by
  intro act member
  have plain := fits.avoids missing act member
  cases act <;> first | rfl | exact absurd rfl plain

theorem lacks (fits : Within verbs first) (missing : act.verb ∉ verbs) : act ∉ first :=
  fun member => missing (fits.each act member)

-- What a fault leaves of a script is within what the script is.
theorem performed (fits : Within verbs first) (fault : Option Nat) : Within verbs (done fault first) :=
  ⟨fun act member => fits.each act (Script.done_subset _ _ member)⟩

end Within

variable (env : Env) (now : Nat) (ctx : ContextId) (state : State)

theorem reject_within (ws : SocketId) (error : String) :
    Within [.send, .close] (reject ws error) := by
  simp [reject]

theorem closeAll_within (code : Nat) (reason : String) :
    Within [.close] (closeAll ctx state code reason) :=
  Within.map_of (by simp)

theorem closePeerOf_within (ws : SocketId) : Within [.close] (closePeerOf ctx state ws) := by
  unfold closePeerOf
  split
  · exact Within.map_of (by simp)
  · exact Within.nil

theorem closeBoth_within (ws : SocketId) (code : Nat) (reason : String) :
    Within [.close] (closePeerOf ctx state ws ++ [.close ws code reason]) :=
  Within.append_iff.mpr ⟨closePeerOf_within .., by simp⟩

theorem teardownRoom_within (reason : String) :
    Within [.close, .deleteAll, .deleteAlarm] (teardownRoom ctx state reason) := by
  simp only [teardownRoom, Within.append_iff]
  exact ⟨(closeAll_within ctx state _ _).mono (by simp), by simp⟩

theorem ensureAlarm_within : Within [.getAlarm, .setAlarm] (ensureAlarm now state) := by
  unfold ensureAlarm
  dsimp only
  split
  · simp
  · split <;> simp

theorem bumpActivity_within :
    Within [.putLastActivity, .getAlarm, .setAlarm] (bumpActivity now state) := by
  simp only [bumpActivity, Within.cons_iff]
  exact ⟨by simp, (ensureAlarm_within now state).mono (by simp)⟩

theorem meterQuota_within (size : Nat) :
    Within [.read, .meter, .putQuota, .close] (meterQuota env now ctx state size) := by
  simp only [meterQuota, Within.append_iff]
  refine ⟨⟨?_, ?_⟩, ?_⟩
  · split <;> simp
  · split <;> simp
  · split
    · simp only [Within.append_iff]
      exact ⟨by simp, (closeAll_within ctx state _ _).mono (by simp)⟩
    · split <;> simp

theorem forward_within (ws : SocketId) (role : Role) (frame : Frame) :
    Within [.sendRelayed] (forward ctx state ws role frame) := by
  unfold forward
  split <;> simp

theorem handleUpgrade_within (reqId : Nat) (ws : SocketId) :
    Within [.accept, .attach, .suspend] (handleUpgrade env now reqId ws) := by
  simp [handleUpgrade]

theorem evictExcessPreAuth_within : Within [.close] (evictExcessPreAuth ctx state) :=
  Within.map_of (by simp)

theorem backfillTag_within (ws : SocketId) : Within [.attach] (backfillTag env state ws) := by
  unfold backfillTag
  split
  · split <;> simp
  · simp

theorem finishUpgrade_within (ws : SocketId) :
    Within [.attach, .close, .getAlarm, .setAlarm] (finishUpgrade env now ctx state ws) := by
  simp only [finishUpgrade, Within.append_iff]
  exact ⟨⟨(backfillTag_within env state ws).mono (by simp),
    (evictExcessPreAuth_within ctx state).mono (by simp)⟩,
    (ensureAlarm_within now state).mono (by simp)⟩

theorem handleHello_within (ws : SocketId) (random : Bytes) (frame : Frame) :
    Within [.attach, .send, .close, .throw] (handleHello env state ws random frame) := by
  unfold handleHello
  split
  · split
    · dsimp only
      split
      · split <;> simp
      · simp
    · simp
    · simp
  · simp

theorem takeSlot_within (random : Bytes) (ws : SocketId) (role : Role)
    (attest : Option AttestedKey) :
    Within [.send, .close, .attach, .sendOk, .putRegToken, .getAlarm, .setAlarm]
      (takeSlot env now ctx state random ws role attest) := by
  unfold takeSlot
  dsimp only
  split
  · exact (reject_within ws _).mono (by simp)
  · simp only [Within.append_iff, Within.cons_iff]
    refine ⟨Within.map_of (by simp), by simp, ?_⟩
    cases role with
    | mac => simp
    | phone =>
        simp only [Within.append_iff, Within.cons_iff]
        exact ⟨⟨by simp, (ensureAlarm_within now state).mono (by simp)⟩, by simp⟩

@[simp] def admitVerbs : List Verb :=
  [.read, .putPairingCycles, .send, .close, .deleteAll, .deleteAlarm, .attach, .sendOk,
    .putRegToken, .getAlarm, .setAlarm]

theorem admit_within (random : Bytes) (ws : SocketId) (role : Role)
    (attest : Option AttestedKey) :
    Within admitVerbs (admitSocket env now ctx state random ws role attest) := by
  have take : Within admitVerbs (takeSlot env now ctx state random ws role attest) :=
    (takeSlot_within env now ctx state random ws role attest).mono (by simp)
  unfold admitSocket
  dsimp only
  rw [Within.cons_iff]
  refine ⟨by simp, ?_⟩
  cases role with
  | mac =>
      dsimp only
      split
      · exact take
      · exact Within.cons_iff.mpr ⟨by simp, take⟩
  | phone =>
      dsimp only
      split
      · exact (reject_within ws _).mono (by simp)
      · split
        · exact take
        · rw [Within.cons_iff]
          refine ⟨by simp, ?_⟩
          split
          · exact (teardownRoom_within ctx state _).mono (by simp)
          · exact Within.cons_iff.mpr ⟨by simp, take⟩

@[simp] def proofVerbs : List Verb := .count :: .suspend :: .throw :: .deleteTicket :: admitVerbs

theorem pairingProof_within (random : Bytes) (ws : SocketId) (role : Role) (proof : Json) :
    Within proofVerbs (pairingProof env now ctx state random ws role proof) := by
  have wide : admitVerbs ⊆ proofVerbs := by simp
  have rejected : ∀ error, Within proofVerbs (reject ws error) := fun error =>
    (reject_within ws error).mono (by simp)
  unfold pairingProof
  split
  · cases role with
    | mac => exact (admit_within ..).mono wide
    | phone =>
        dsimp only
        split
        · simp
        · exact rejected _
        · rw [Within.cons_iff]
          refine ⟨by simp, ?_⟩
          split
          · exact rejected _
          · split
            · exact rejected _
            · exact Within.cons_iff.mpr
                ⟨by simp, (admit_within ..).mono wide⟩
  · exact (admit_within ..).mono wide

theorem handleProof_within (reqId : Nat) (ws : SocketId) (role : Role) (nonce : String)
    (random : Bytes) (frame : Frame) :
    Within proofVerbs (handleProof env now ctx state reqId ws role nonce random frame) := by
  have rejected : ∀ error, Within proofVerbs (reject ws error) := fun error =>
    (reject_within ws error).mono (by simp)
  unfold handleProof
  dsimp only
  rw [Within.cons_iff]
  refine ⟨by simp, ?_⟩
  split
  · exact rejected _
  · split
    · exact rejected _
    · rw [Within.cons_iff]
      refine ⟨by simp, ?_⟩
      split
      · exact pairingProof_within ..
      · split
        · simp
        · exact rejected _
        · split <;> simp

theorem finishProof_within (random : Bytes) (check : JoinCheck) :
    Within (.putLastActivity :: admitVerbs) (finishProof env now ctx state random check) := by
  unfold finishProof
  split
  · dsimp only
    rw [Within.append_iff]
    exact ⟨(bumpActivity_within now state).mono (by simp),
      (admit_within ..).mono (by simp)⟩
  · exact (reject_within ..).mono (by simp)

theorem spliceFrame_within (ws : SocketId) (role : Role) (frame : Frame) :
    Within [.count, .close, .read, .meter, .putQuota, .sendRelayed]
      (spliceFrame env now ctx state ws role frame) := by
  unfold spliceFrame
  dsimp only
  rw [Within.cons_iff]
  refine ⟨by simp, ?_⟩
  split
  · rw [Within.append_iff]
    exact ⟨(closePeerOf_within ..).mono (by simp), by simp⟩
  · rw [Within.append_iff]
    refine ⟨(meterQuota_within ..).mono (by simp), ?_⟩
    split
    · simp
    · exact (forward_within ..).mono (by simp)

@[simp] def messageVerbs : List Verb := .meter :: .putQuota :: .sendRelayed :: proofVerbs

theorem webSocketMessage_within (reqId : Nat) (ws : SocketId) (random : Bytes) (frame : Frame) :
    Within messageVerbs (webSocketMessage env now ctx state reqId ws random frame) := by
  unfold webSocketMessage
  split
  · rw [Within.append_iff]
    exact ⟨(closePeerOf_within ..).mono (by simp),
      by simp⟩
  · split
    · exact (handleHello_within ..).mono (by simp)
    · exact (handleHello_within ..).mono (by simp)
    · exact (handleProof_within ..).mono (by simp)
    · exact (spliceFrame_within ..).mono (by simp)

theorem answer_within (reqId : Nat) (endpoint : Endpoint) (status : Nat) (body : Body) :
    Within [replyVerb endpoint body, .suspend] (answer reqId endpoint status body) := by
  simp [answer]

theorem handleAttestChallenge_within (reqId : Nat) (random : Bytes) :
    Within [.read, .deleteChallenge, .putChallenge, .getAlarm, .setAlarm, .reply, .suspend]
      (handleAttestChallenge now state reqId random) := by
  unfold handleAttestChallenge
  rw [Within.append_iff, Within.cons_iff]
  refine ⟨⟨by simp, Within.map_of (by simp)⟩, ?_⟩
  split
  · exact (answer_within ..).mono (by simp)
  · dsimp only
    rw [Within.append_iff, Within.cons_iff]
    exact ⟨⟨by simp, (ensureAlarm_within now state).mono (by simp)⟩,
      (answer_within ..).mono (by simp)⟩

@[simp] def refusalVerbs : List Verb := [.read, .deleteChallenge, .reply, .suspend, .throw]

theorem handleAttest_within (reqId : Nat) (body : Option Json) :
    Within refusalVerbs (handleAttest env now state reqId body) := by
  have refused : ∀ status message, Within refusalVerbs (answer reqId .attest status message) :=
    fun status message => (answer_within reqId .attest status message).mono
      (by simp)
  unfold handleAttest
  dsimp only
  split
  · exact refused _ _
  · split
    · exact refused _ _
    · split
      · rw [Within.cons_iff]
        refine ⟨by simp, ?_⟩
        split
        · rw [Within.cons_iff]
          refine ⟨by simp, ?_⟩
          split <;> simp
        · exact refused _ _
      · simp
      · exact refused _ _

theorem finishAttest_within (reqId : Nat) (random : Bytes) (call : AttestCall) (since : Nat) :
    Within [.putTicket, .getAlarm, .setAlarm, .reply, .suspend]
      (finishAttest env now state reqId random call since) := by
  unfold finishAttest
  split
  · exact (answer_within ..).mono (by simp)
  · dsimp only
    rw [Within.append_iff, Within.cons_iff]
    exact ⟨⟨by simp, (ensureAlarm_within now state).mono (by simp)⟩,
      (answer_within ..).mono (by simp)⟩

@[simp] def writeVerbs : List Verb :=
  [.deleteRegToken, .putVerifier, .putLastActivity, .getAlarm, .setAlarm, .replyRegistered, .suspend]

theorem writeVerifier_within (reqId : Nat) (token verifier : String) :
    Within writeVerbs (writeVerifier now state reqId token verifier) := by
  simp only [writeVerifier, Within.append_iff]
  exact ⟨⟨by simp,
    (bumpActivity_within now state).mono (by simp)⟩,
    (answer_within ..).mono (by simp)⟩

@[simp] def registerVerbs : List Verb :=
  .putAssertCounter :: .putRegistrantKeyId :: refusalVerbs ++ writeVerbs

-- Only a room that does not require attestation writes the verifier at once.
theorem handleRegister_within (verbs : List Verb) (reqId : Nat) (body : Option Json)
    (refusals : refusalVerbs ⊆ verbs)
    (writes : attestationRequired env = false → writeVerbs ⊆ verbs) :
    Within verbs (handleRegister env now state reqId body) := by
  have refused : ∀ status message, Within verbs (answer reqId .register status (.error message)) :=
    fun status message => ((answer_within reqId .register status (.error message)).mono
      (by simp)).mono refusals
  have narrow : ∀ {acts}, Within refusalVerbs acts → Within verbs acts :=
    fun fits => fits.mono refusals
  have reads : Verb.read ∈ verbs := refusals (by simp)
  unfold handleRegister
  dsimp only
  split
  · exact refused _ _
  · split
    · exact narrow (by simp)
    · exact narrow (by simp)
    · exact refused _ _
    · rw [Within.cons_iff]
      refine ⟨reads, ?_⟩
      split
      · exact refused _ _
      · split
        · exact refused _ _
        · rw [Within.cons_iff]
          refine ⟨reads, ?_⟩
          split
          · exact refused _ _
          · split
            · exact refused _ _
            · split
              · rename_i opened
                exact (writeVerifier_within ..).mono (writes (by simpa using opened))
              · split
                · exact refused _ _
                · split
                  · rw [Within.cons_iff]
                    refine ⟨reads, ?_⟩
                    split
                    · apply narrow
                      rw [Within.cons_iff]
                      refine ⟨by simp, ?_⟩
                      split <;> simp
                    · exact refused _ _
                  · exact refused _ _

theorem finishRegister_within (reqId : Nat) (call : RegisterCall) :
    Within registerVerbs (finishRegister env now state reqId call) := by
  have refused : ∀ status message,
      Within registerVerbs (answer reqId .register status (.error message)) :=
    fun status message => (answer_within reqId .register status (.error message)).mono
      (by simp)
  unfold finishRegister
  split
  · exact refused _ _
  · rw [Within.cons_iff]
    refine ⟨by simp, ?_⟩
    split
    · rw [Within.append_iff]
      exact ⟨by simp,
        (writeVerifier_within ..).mono (by simp)⟩
    · exact refused _ _

theorem handleDelete_within (reqId : Nat) (body : Option Json) :
    Within refusalVerbs (handleDelete env now state reqId body) := by
  have refused : ∀ status message, Within refusalVerbs (answer reqId .delete status message) :=
    fun status message => (answer_within reqId .delete status message).mono
      (by simp)
  unfold handleDelete
  dsimp only
  split
  · exact refused _ _
  · rw [Within.cons_iff]
    refine ⟨by simp, ?_⟩
    split
    · exact refused _ _
    · split
      · rw [Within.cons_iff]
        refine ⟨by simp, ?_⟩
        split
        · rw [Within.cons_iff]
          refine ⟨by simp, ?_⟩
          split <;> simp
        · exact refused _ _
      · simp
      · exact refused _ _

theorem finishDelete_within (reqId : Nat) (call : DeleteCall) :
    Within [.reply, .suspend] (finishDelete env reqId call) := by
  unfold finishDelete
  split
  · simp
  · exact (answer_within ..).mono (by simp)

theorem pruneExpired_within :
    Within [.read, .deleteTicket, .deleteRegToken, .deleteChallenge] (pruneExpired now state) := by
  simp only [pruneExpired, Within.append_iff, Within.cons_iff]
  exact ⟨⟨⟨by simp, Within.map_of (by simp)⟩,
    by simp, Within.map_of (by simp)⟩,
    by simp, Within.map_of (by simp)⟩

@[simp] def alarmVerbs : List Verb :=
  [.read, .close, .deleteTicket, .deleteRegToken, .deleteChallenge, .putLastActivity, .deleteAll,
    .deleteAlarm, .setAlarm]

theorem alarm_within (seen : List SocketId) :
    Within alarmVerbs (alarm env now ctx state seen) := by
  simp only [alarm, Within.append_iff, Within.cons_iff]
  refine ⟨⟨⟨Within.map_of (by simp), ?_⟩, by simp, ?_⟩, ?_⟩
  · exact (pruneExpired_within now state).mono (by simp)
  · split
    · split <;> simp
    · simp
  · split
    · exact (teardownRoom_within ..).mono (by simp)
    · split <;> simp

@[simp] def Request.verbs (env : Env) : Request → List Verb
  | .challenge =>
      [.read, .deleteChallenge, .putChallenge, .getAlarm, .setAlarm, .reply, .suspend]
  | .attest _ | .delete _ => refusalVerbs
  | .register _ => if attestationRequired env then refusalVerbs else refusalVerbs ++ writeVerbs
  | .other => [.reply, .suspend]

theorem handleHttp_within (reqId : Nat) (random : Bytes) (request : Request) :
    Within (request.verbs env) (handleHttp env now state reqId random request) := by
  cases request with
  | challenge => exact handleAttestChallenge_within ..
  | attest body => exact handleAttest_within ..
  | register body =>
      cases required : attestationRequired env with
      | true =>
          simp only [Request.verbs, required, if_true]
          exact handleRegister_within env now state _ reqId body (fun _ verb => verb)
            (by simp [required])
      | false =>
          simp only [Request.verbs, required, Bool.false_eq_true, if_false]
          exact handleRegister_within env now state _ reqId body (List.subset_append_left _ _)
            (fun _ => List.subset_append_right _ _)
  | delete body => exact handleDelete_within ..
  | other => exact (answer_within ..).mono (by simp)

@[simp] def Await.verbs : Await → List Verb
  | .upgradeTag _ => [.attach, .close, .getAlarm, .setAlarm]
  | .proofSignature _ => .putLastActivity :: admitVerbs
  | .attestDigest _ | .registerDigest _ => [.suspend]
  | .attestCheck _ _ => [.putTicket, .getAlarm, .setAlarm, .reply, .suspend]
  | .registerAssertion _ => registerVerbs
  | .deleteSignature _ => [.reply, .suspend]
  | .deleteTag => [.close, .deleteAll, .deleteAlarm, .reply, .suspend]
  | .responseTag => []

theorem continuation_within (id : Nat) (random : Bytes) (await : Await) :
    Within await.verbs (continuation env now ctx state random id await) := by
  cases await with
  | upgradeTag ws => exact finishUpgrade_within ..
  | proofSignature check => exact finishProof_within ..
  | attestDigest call => simp [continuation]
  | attestCheck call since => exact finishAttest_within ..
  | registerDigest call => simp [continuation]
  | registerAssertion call => exact finishRegister_within ..
  | deleteSignature call => exact finishDelete_within ..
  | deleteTag =>
      simp only [continuation, Within.append_iff]
      exact ⟨(teardownRoom_within ..).mono (by simp),
        (answer_within ..).mono (by simp)⟩
  | responseTag => exact Within.nil

/-- The kinds of act that the turn of an event can perform, but for its catch. -/
def footprint (env : Env) (state : State) : Event → List Verb
  | .get _ | .chunk _ _ _ | .ended _ | .restart _ => []
  | .connect _ _ => [.accept, .attach, .suspend]
  | .run _ =>
      match state.draining.map state.chain with
      | some (.message _ _ _ :: _) => messageVerbs
      | some (.closed :: _) | some (.errored :: _) => [.close]
      | some [] | none => []
  | .resume _ id _ _ => ((state.find id).map (·.await.verbs)).getD []
  | .request _ request _ _ => request.verbs env
  | .fire _ _ _ | .alarm _ _ => alarmVerbs
  | .drain => [.close]

theorem footprint_frame {env : Env} {state : State} {event : Event} {verb : Verb}
    (rare : verb ∈ [Verb.count, .meter, .sendRelayed]) (member : verb ∈ footprint env state event) :
    ∃ now ws frame random fault rest, event = .run now ∧ state.draining = some ws ∧
      state.chain ws = .message frame random fault :: rest := by
  have apart : ∀ verbs : List Verb, verb ∈ verbs →
      ¬ (Verb.count ∉ verbs ∧ .meter ∉ verbs ∧ .sendRelayed ∉ verbs) := by
    rintro verbs inside ⟨counts, meters, forwards⟩
    simp only [List.mem_cons, List.not_mem_nil, or_false] at rare
    rcases rare with rfl | rfl | rfl
    · exact counts inside
    · exact meters inside
    · exact forwards inside
  cases event with
  | run now =>
      cases drained : state.draining with
      | none => simp [footprint, drained] at member
      | some ws =>
          cases next : state.chain ws with
          | nil => simp [footprint, drained, next] at member
          | cons task rest =>
              cases task with
              | message frame random fault => exact ⟨now, ws, frame, random, fault, rest, rfl, rfl, next⟩
              | _ => exact absurd (by simp [footprint, drained, next]) (apart _ member)
  | resume now id random fault =>
      refine absurd ?_ (apart _ member)
      cases found : state.find id with
      | none => simp [footprint, found]
      | some handler => cases await : handler.await <;> simp [footprint, found, await]
  | request now request random fault =>
      refine absurd ?_ (apart _ member)
      cases request with
      | register body => cases required : attestationRequired env <;> simp [footprint, required]
      | _ => simp [footprint]
  | _ => exact absurd (by simp [footprint]) (apart _ member)

end Relay

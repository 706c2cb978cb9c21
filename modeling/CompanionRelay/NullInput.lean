import CompanionRelay.PreAuth
import CompanionRelay.RefusedCall
import CompanionRelay.Sources

/-!
What a client can make a handler throw. JSON.parse is inside a try, and the types of what is
read from its result are checked, but null has no properties to read: a hello, a proof or a
body that is the JSON value null is the one input that throws.
-/

namespace Relay

section Statement
variable (env : Env) (state : State)

def Json.isNull : Json → Bool
  | .null => true
  | _ => false

/-- The handler of the frame reads a property of what JSON.parse returns. -/
def readsFrame (now : Nat) (ws : SocketId) (frame : Frame) : Bool :=
  decide (frame.size ≤ frameCap state ws) &&
    match state.admission ws with
    | none | some .hello => true
    | some (.challenged role _ _) =>
        !(rateLimited (state.admissionWindow (state.home ws)) now maxAdmissionAttempts
            admissionWindowMs).2 &&
          (established state || (attestationRequired env && decide (role = .phone)))
    | some (.admitted _) => false

def Request.body : Request → Option Json
  | .attest body | .register body | .delete body => body
  | _ => none

/-- The handler of the call reads a property of the body. -/
def readsBody : Request → Bool
  | .attest _ => attestationRequired env
  | .register _ => true
  | .delete _ => established state
  | _ => false

/-- The event starts a handler that reads a property of null. -/
def readsNull : Event → Bool
  | .run now =>
      match state.draining with
      | none => false
      | some ws =>
          match state.chain ws with
          | .message frame _ _ :: _ =>
              readsFrame env state now ws frame && (env.parse frame).any Json.isNull
          | _ => false
  | .request _ request _ _ => readsBody env state request && request.body.any Json.isNull
  | _ => false

/-- The turns of the handlers of client input: a frame, a call, and what follows of a handler
after each of its crypto calls. No storage call throws. -/
inductive Handles : Event → Prop
  | frame (now : Nat) (ws : SocketId) (frame : Frame) (random : Bytes) (rest : List Task)
      (drained : state.draining = some ws) (free : state.verifying ws = false)
      (next : state.chain ws = .message frame random none :: rest)
      (joining : state.admission ws ≠ none) : Handles (.run now)
  | call (now : Nat) (request : Request) (random : Bytes)
      (asked : request.endpoint = .attest ∨ request.endpoint = .register ∨
        request.endpoint = .delete) : Handles (.request now request random none)
  | resume (now id : Nat) (random : Bytes) (handler : Suspended)
      (found : state.find id = some handler) (upgraded : ∀ ws, handler.await ≠ .upgradeTag ws)
      (open_ : handler.await ≠ .responseTag) : Handles (.resume now id random none)

/-- The acts that a handler ends with: a challenge, an admission, a rejection, the teardown at
the pairing cycle cap, a reply, or a crypto call that its next turn waits for. -/
def Act.concludes : Act → Bool
  | .send _ (.challenge _) | .send _ (.ok _) => true
  | .close _ code _ => code = 1008 || code = 1009
  | .deleteAll | .reply _ _ _ _ | .suspend _ _ => true
  | _ => false

def Concludes (acts : List Act) : Prop := ∃ act ∈ acts, act.concludes = true

/-- The designed outcomes of a turn. A frame of an admitted socket is forwarded to its peer, if
it has one, or closes the room when it exceeds the quota. -/
inductive Outcome (ctx : ContextId) : List Act → Prop
  | concludes {acts : List Act} (ends : Concludes acts) : Outcome ctx acts
  | forward (front : List Act) (ws : SocketId) (role : Role) (frame : Frame)
      (slot : state.admission ws = some (.admitted role))
      (metered : Within [.count, .read, .meter, .putQuota] front) :
      Outcome ctx (front ++ Relay.forward ctx state ws role frame)
  | closesRoom (front : List Act) (ws : SocketId) (role : Role)
      (slot : state.admission ws = some (.admitted role))
      (metered : Within [.count, .read, .meter, .putQuota] front) :
      Outcome ctx (front ++ closeAll ctx state 1008 "daily quota exceeded")

/-- The turn comes to one of its designed outcomes, and not to an exception. -/
structure Finishes (met : Turn) : Prop where
  returns : threw met.fault met.script = false
  outcome : Outcome met.start met.ctx met.acts
  closes : ∀ ws code reason, .close ws code reason ∈ met.acts → code ≠ 1011
  replies : ∀ id endpoint status body, .reply id endpoint status body ∈ met.acts →
    status = 200 ∨ status = 400 ∨ status = 403

end Statement

section Frames
variable {env : Env} {now : Nat} {ctx : ContextId} {state : State}

theorem read_null {json : Json} (key : String) (null : json.isNull = true) :
    json.read key = none := by
  cases json <;> simp_all [Json.read, Json.isNull]

theorem read_some {json : Json} (key : String) (proper : json.isNull = false) :
    ∃ value, json.read key = some value := by
  cases json <;> simp_all [Json.read, Json.isNull]

theorem readString_null {json : Json} (key : String) (null : json.isNull = true) :
    json.readString key = none := by
  rw [Json.readString, read_null key null]

theorem readString_some {json : Json} (key : String) (proper : json.isNull = false) :
    ∃ value, json.readString key = some value := by
  obtain ⟨value, read⟩ := read_some key proper
  unfold Json.readString
  rw [read]
  split
  · rename_i absent
    simp at absent
  · exact ⟨_, rfl⟩
  · exact ⟨_, rfl⟩

/-- A handler throws when it reads null, and comes to one of its outcomes otherwise. -/
def Throws (null : Bool) (script : List Act) : Prop :=
  if null then .throw ∈ script else .throw ∉ script ∧ Concludes script

theorem throws_false {script : List Act} :
    Throws false script ↔ .throw ∉ script ∧ Concludes script := by
  simp [Throws]

theorem throws_true {script : List Act} : Throws true script ↔ .throw ∈ script := by
  simp [Throws]

theorem Throws.of_false {script : List Act} (calm : .throw ∉ script) (ends : Concludes script) :
    Throws false script :=
  throws_false.mpr ⟨calm, ends⟩

theorem Throws.after {null : Bool} {front script : List Act} (throws : Throws null script)
    (calm : .throw ∉ front) : Throws null (front ++ script) := by
  cases null with
  | true => exact throws_true.mpr (List.mem_append_right front (throws_true.mp throws))
  | false =>
      obtain ⟨quiet, act, member, ends⟩ := throws_false.mp throws
      exact .of_false (by simp [calm, quiet]) ⟨act, List.mem_append_right front member, ends⟩

theorem Throws.cons {null : Bool} {act : Act} {script : List Act} (throws : Throws null script)
    (calm : act ≠ .throw) : Throws null (act :: script) :=
  throws.after (by simpa using calm.symm : .throw ∉ [act])

theorem reject_throws {ws : SocketId} {error : String} : Throws false (reject ws error) :=
  .of_false (by simp [reject]) ⟨.close ws 1008 error, by simp [reject], rfl⟩

theorem handleHello_throws {ws : SocketId} {random : Bytes} {frame : Frame}
    (attached : state.attachment ws ≠ none) :
    Throws ((env.parse frame).any Json.isNull) (handleHello env state ws random frame) := by
  obtain ⟨attachment, some_⟩ := Option.ne_none_iff_exists'.mp attached
  have refused : Throws false [Act.close ws 1008 "bad hello"] :=
    .of_false (by simp) ⟨.close ws 1008 "bad hello", by simp, rfl⟩
  unfold handleHello
  rw [some_]
  cases env.parse frame with
  | none => exact refused
  | some hello =>
      rw [Option.any_some]
      cases null : hello.isNull with
      | true =>
          simp only [read_null _ null]
          exact List.mem_singleton_self _
      | false =>
          obtain ⟨version, read⟩ := read_some "v" null
          obtain ⟨name, read'⟩ := read_some "role" null
          obtain ⟨flag, read''⟩ := read_some "nonDisplacing" null
          simp only [read, read', read'']
          split
          · split
            · split
              · exact .of_false (by simp) ⟨.send ws (.challenge (b64 random)), by simp, rfl⟩
              · exact refused
            · exact refused
          · simp_all
          · exact refused

theorem admit_throws (random : Bytes) (ws : SocketId) (role : Role) (attest : Option AttestedKey) :
    Throws false (admitSocket env now ctx state random ws role attest) := by
  have calm : .throw ∉ admitSocket env now ctx state random ws role attest :=
    (admit_within ..).lacks (by simp)
  refine .of_false calm ?_
  rcases admit_cases env now ctx state random ws role attest with
    ⟨ends, _⟩ | ⟨ends, _⟩ | ⟨ends, _⟩
  · rw [ends]
    exact ⟨.close ws 1008 "mac offline", by simp [reject], rfl⟩
  · rw [ends]
    exact ⟨.deleteAll, by simp [teardownRoom], rfl⟩
  · rw [ends]
    rcases takeSlot_cases env now ctx state random ws role attest with ⟨taken, _⟩ | ⟨taken, _⟩
    · rw [taken]
      exact ⟨.close ws 1008 "slot occupied", by simp [reject], rfl⟩
    · rw [taken]
      cases role with
      | mac => exact ⟨.send ws (.ok none), by simp [seat, greet], rfl⟩
      | phone => exact ⟨.send ws (.ok (some (b64 random))), by simp [seat, greet], rfl⟩

/-- What handleProof reads of the proof. -/
def readsProof (env : Env) (state : State) (role : Role) : Bool :=
  established state || (attestationRequired env && decide (role = .phone))

theorem pairingProof_throws (random : Bytes) (ws : SocketId) (role : Role) (proof : Json) :
    Throws ((attestationRequired env && decide (role = .phone)) && proof.isNull)
      (pairingProof env now ctx state random ws role proof) := by
  have admitted : ∀ attest, Throws false (admitSocket env now ctx state random ws role attest) :=
    fun attest => admit_throws random ws role attest
  unfold pairingProof
  cases required : attestationRequired env with
  | false => exact admitted none
  | true =>
      cases role with
      | mac => exact admitted none
      | phone =>
          cases null : proof.isNull with
          | true =>
              simp only [readString_null _ null]
              exact List.mem_singleton_self _
          | false =>
              obtain ⟨ticket, read⟩ := readString_some "ticket" null
              simp only [read, if_true]
              cases ticket with
              | none => exact reject_throws
              | some ticket =>
                  refine Throws.cons ?_ (by simp)
                  split
                  · exact reject_throws
                  · split
                    · exact reject_throws
                    · exact (admitted _).cons (by simp)

theorem handleProof_throws (id : Nat) (ws : SocketId) (role : Role) (nonce : String)
    (random : Bytes) (frame : Frame) (minted : ∃ bytes, nonce = b64 bytes) :
    Throws ((!(rateLimited (state.admissionWindow ctx) now maxAdmissionAttempts
        admissionWindowMs).2 && readsProof env state role) && (env.parse frame).any Json.isNull)
      (handleProof env now ctx state id ws role nonce random frame) := by
  obtain ⟨bytes, rfl⟩ := minted
  unfold handleProof
  dsimp only
  refine Throws.cons ?_ (by simp)
  split
  · rename_i limited
    simp only [limited]
    exact reject_throws
  · rename_i unlimited
    rw [Bool.not_eq_true] at unlimited
    simp only [unlimited, Bool.not_false, Bool.true_and]
    cases parsed : env.parse frame with
    | none => simpa using reject_throws
    | some proof =>
        refine Throws.cons ?_ (by simp)
        rw [Option.any_some]
        cases registered : truthy state.store.verifier with
        | none =>
            simp only [readsProof, established, registered, Option.isSome_none, Bool.false_or]
            exact pairingProof_throws ..
        | some verifier =>
            simp only [readsProof, established, registered, Option.isSome_some, Bool.true_or,
              Bool.true_and]
            cases null : proof.isNull with
            | true =>
                simp only [readString_null _ null]
                exact List.mem_singleton_self _
            | false =>
                obtain ⟨sig, read⟩ := readString_some "sig" null
                simp only [read]
                cases sig with
                | none => exact reject_throws
                | some sig =>
                    simp only [joinTranscript, b64ToBytes_b64, Option.map_some]
                    exact .of_false (by simp) ⟨_, List.mem_singleton_self _, rfl⟩

theorem finishProof_throws (random : Bytes) (check : JoinCheck) :
    Throws false (finishProof env now ctx state random check) := by
  unfold finishProof
  split
  · exact (admit_throws ..).after ((bumpActivity_within ..).lacks (by simp))
  · exact reject_throws

/-- The same of a turn that may forward a frame. -/
def Behaves (null : Bool) (state : State) (ctx : ContextId) (script : List Act) : Prop :=
  if null then .throw ∈ script else .throw ∉ script ∧ Outcome state ctx script

theorem Throws.behaves {null : Bool} {script : List Act} (throws : Throws null script) :
    Behaves null state ctx script := by
  cases null with
  | true => exact throws
  | false =>
      obtain ⟨calm, ends⟩ := throws_false.mp throws
      simp only [Behaves, Bool.false_eq_true, if_false]
      exact ⟨calm, .concludes ends⟩

theorem meterQuota_over {size : Nat} (exceeded : overQuota env now ctx state size = true) :
    ∃ front, Within [.read, .meter, .putQuota] front ∧ meterQuota env now ctx state size =
      front ++ closeAll ctx state 1008 "daily quota exceeded" := by
  simp only [meterQuota, exceeded, if_true]
  rw [← List.append_assoc]
  refine ⟨_, ?_, rfl⟩
  simp only [Within.append_iff]
  exact ⟨⟨by split <;> simp, by split <;> simp⟩, by simp⟩

theorem meterQuota_under {size : Nat} (allowed : overQuota env now ctx state size = false) :
    Within [.read, .meter, .putQuota] (meterQuota env now ctx state size) := by
  simp only [meterQuota, allowed, Bool.false_eq_true, if_false, Within.append_iff]
  refine ⟨⟨by split <;> simp, by split <;> simp⟩, ?_⟩
  split <;> simp

theorem spliceFrame_behaves (ws : SocketId) (role : Role) (frame : Frame)
    (slot : state.admission ws = some (.admitted role)) :
    Behaves false state ctx (spliceFrame env now ctx state ws role frame) := by
  simp only [Behaves, Bool.false_eq_true, if_false]
  refine ⟨(spliceFrame_within ..).lacks (by simp), ?_⟩
  unfold spliceFrame
  dsimp only
  split
  · exact .concludes ⟨.close ws 1008 "frame rate exceeded", by simp, rfl⟩
  · cases exceeded : overQuota env now ctx state frame.size with
    | true =>
        obtain ⟨front, fits, whole⟩ := meterQuota_over exceeded
        rw [whole, if_pos rfl, List.append_nil, ← List.cons_append]
        exact .closesRoom _ ws role slot (Within.cons_iff.mpr ⟨by simp, fits.mono (by simp)⟩)
    | false =>
        rw [if_neg Bool.false_ne_true, ← List.cons_append]
        exact .forward _ ws role frame slot
          (Within.cons_iff.mpr ⟨by simp, (meterQuota_under exceeded).mono (by simp)⟩)

theorem webSocketMessage_behaves (id : Nat) (ws : SocketId) (random : Bytes) (frame : Frame)
    (attached : state.attachment ws ≠ none) (home : state.home ws = ctx)
    (minted : ∀ role nonce yields, state.admission ws = some (.challenged role nonce yields) →
      ∃ bytes, nonce = b64 bytes) :
    Behaves (readsFrame env state now ws frame && (env.parse frame).any Json.isNull) state ctx
      (webSocketMessage env now ctx state id ws random frame) := by
  subst home
  unfold webSocketMessage readsFrame
  by_cases large : frame.size > frameCap state ws
  · rw [if_pos large, decide_eq_false (Nat.not_le.mpr large)]
    have closing := closeBoth_within (state.home ws) state ws 1009 "frame too large"
    exact (Throws.of_false (closing.lacks (by simp))
      ⟨.close ws 1009 "frame too large", by simp, rfl⟩).behaves
  · rw [if_neg large, decide_eq_true (Nat.le_of_not_lt large), Bool.true_and]
    cases admission : state.admission ws with
    | none => exact (handleHello_throws attached).behaves
    | some current =>
        cases current with
        | hello => exact (handleHello_throws attached).behaves
        | challenged role nonce yields =>
            exact (handleProof_throws id ws role nonce random frame
              (minted role nonce yields admission)).behaves
        | admitted role => exact spliceFrame_behaves ws role frame admission

end Frames

section Calls
variable {env : Env} {id now : Nat} {ctx : ContextId} {state : State}

/-- The stored challenges are those that the relay has made. -/
def Minted (state : State) : Prop :=
  ∀ challenge ∈ state.store.challenges, ∃ bytes, challenge = b64 bytes

theorem Minted.encodes (minted : Minted state) {challenge : String}
    (live : liveChallenge now state challenge = true) :
    ∃ bytes, b64ToBytes challenge = some bytes := by
  have stored : challenge ∈ state.store.challenges := by
    unfold liveChallenge at live
    split at live
    · simp at live
    · rename_i found
      exact AList.lookup_isSome.mp (by rw [found]; rfl)
  obtain ⟨bytes, rfl⟩ := minted challenge stored
  exact ⟨bytes, b64ToBytes_b64 bytes⟩

theorem answer_throws {endpoint : Endpoint} {status : Nat} {body : Body} :
    Throws false (answer id endpoint status body) :=
  .of_false (by simp [answer]) ⟨.reply id endpoint status body, by simp [answer], rfl⟩

theorem suspend_throws {await : Await} : Throws false [.suspend id await] :=
  .of_false (by simp) ⟨_, List.mem_singleton_self _, rfl⟩

theorem handleAttest_throws (minted : Minted state) (body : Option Json) :
    Throws (attestationRequired env && body.any Json.isNull)
      (handleAttest env now state id body) := by
  unfold handleAttest
  cases required : attestationRequired env with
  | false => exact answer_throws
  | true =>
      cases body with
      | none => exact answer_throws
      | some body =>
          rw [Option.any_some]
          cases null : body.isNull with
          | true =>
              simp only [readString_null _ null]
              exact List.mem_singleton_self _
          | false =>
              obtain ⟨challenge, read⟩ := readString_some "challenge" null
              obtain ⟨object, read'⟩ := readString_some "attestationObject" null
              simp only [read, read']
              cases challenge with
              | none => exact answer_throws
              | some challenge =>
                  cases object with
                  | none => exact answer_throws
                  | some object =>
                      refine Throws.cons ?_ (by simp)
                      split
                      · rename_i live
                        obtain ⟨bytes, encoded⟩ := minted.encodes live
                        simp only [attestData, encoded, Option.map_some]
                        exact suspend_throws.cons (by simp)
                      · exact answer_throws

theorem handleDelete_throws (minted : Minted state) (body : Option Json) :
    Throws (established state && body.any Json.isNull) (handleDelete env now state id body) := by
  unfold handleDelete
  cases body with
  | none => simpa using answer_throws
  | some body =>
      refine Throws.cons ?_ (by simp)
      rw [Option.any_some]
      cases registered : truthy state.store.verifier with
      | none =>
          simp only [established, registered, Option.isSome_none, Bool.false_and]
          exact answer_throws
      | some verifier =>
          simp only [established, registered, Option.isSome_some, Bool.true_and]
          cases null : body.isNull with
          | true =>
              simp only [readString_null _ null]
              exact List.mem_singleton_self _
          | false =>
              obtain ⟨challenge, read⟩ := readString_some "challenge" null
              obtain ⟨signature, read'⟩ := readString_some "signature" null
              simp only [read, read']
              cases challenge with
              | none => exact answer_throws
              | some challenge =>
                  cases signature with
                  | none => exact answer_throws
                  | some signature =>
                      refine Throws.cons ?_ (by simp)
                      split
                      · rename_i live
                        obtain ⟨bytes, encoded⟩ := minted.encodes live
                        simp only [deleteTranscript, encoded, Option.map_some]
                        exact suspend_throws.cons (by simp)
                      · exact answer_throws

theorem writeVerifier_throws (token verifier : String) :
    Throws false (writeVerifier now state id token verifier) :=
  answer_throws.after (by
    have calm : .throw ∉ bumpActivity now state := (bumpActivity_within ..).lacks (by simp)
    simp [calm])

theorem handleRegister_throws (minted : Minted state) (body : Option Json) :
    Throws (body.any Json.isNull) (handleRegister env now state id body) := by
  unfold handleRegister
  cases body with
  | none => exact answer_throws
  | some body =>
      rw [Option.any_some]
      cases null : body.isNull with
      | true =>
          simp only [readString_null _ null]
          exact List.mem_singleton_self _
      | false =>
          obtain ⟨verifier, read⟩ := readString_some "verifier" null
          obtain ⟨token, read'⟩ := readString_some "registrationToken" null
          obtain ⟨challenge, read''⟩ := readString_some "challenge" null
          obtain ⟨assertion, read₃⟩ := readString_some "assertion" null
          simp only [read, read', read'', read₃]
          cases verifier with
          | none => exact answer_throws
          | some verifier =>
              refine Throws.cons ?_ (by simp)
              split
              · exact answer_throws
              · cases token with
                | none => exact answer_throws
                | some token =>
                    refine Throws.cons ?_ (by simp)
                    split
                    · exact answer_throws
                    · split
                      · exact answer_throws
                      · split
                        · exact writeVerifier_throws token verifier
                        · split
                          · exact answer_throws
                          · cases challenge with
                            | none => exact answer_throws
                            | some challenge =>
                                cases assertion with
                                | none => exact answer_throws
                                | some assertion =>
                                    refine Throws.cons ?_ (by simp)
                                    split
                                    · rename_i live
                                      obtain ⟨bytes, encoded⟩ := minted.encodes live
                                      simp only [attestData, encoded, Option.map_some]
                                      exact suspend_throws.cons (by simp)
                                    · exact answer_throws

theorem handleHttp_throws (minted : Minted state) (random : Bytes) (request : Request)
    (asked : request.endpoint = .attest ∨ request.endpoint = .register ∨
      request.endpoint = .delete) :
    Throws (readsBody env state request && request.body.any Json.isNull)
      (handleHttp env now state id random request) := by
  cases request with
  | attest body => exact handleAttest_throws minted body
  | register body => simpa [readsBody, Request.body, handleHttp] using handleRegister_throws minted body
  | delete body => exact handleDelete_throws minted body
  | _ => simp [Request.endpoint] at asked

theorem continuation_throws (random : Bytes) (await : Await)
    (upgraded : ∀ ws, await ≠ .upgradeTag ws) (open_ : await ≠ .responseTag) :
    Throws false (continuation env now ctx state random id await) := by
  cases await with
  | upgradeTag ws => exact absurd rfl (upgraded ws)
  | responseTag => exact absurd rfl open_
  | proofSignature check => exact finishProof_throws random check
  | attestDigest call => exact suspend_throws
  | registerDigest call => exact suspend_throws
  | attestCheck call since =>
      simp only [continuation, finishAttest]
      split
      · exact answer_throws
      · refine answer_throws.after ?_
        have calm : .throw ∉ ensureAlarm now state := (ensureAlarm_within ..).lacks (by simp)
        simp [calm]
  | registerAssertion call =>
      simp only [continuation, finishRegister]
      split
      · exact answer_throws
      · refine Throws.cons ?_ (by simp)
        split
        · exact (writeVerifier_throws ..).after (by simp)
        · exact answer_throws
  | deleteSignature call =>
      simp only [continuation, finishDelete]
      split
      · exact suspend_throws
      · exact answer_throws
  | deleteTag => exact answer_throws.after ((teardownRoom_within ..).lacks (by simp))

end Calls

section Replies
variable {id now : Nat} {state : State} {named : Option String} {script : List Act}

/-- The statuses that a handler replies with itself. -/
def Replies (script : List Act) : Prop :=
  ∀ id endpoint status body, .reply id endpoint status body ∈ script →
    status = 200 ∨ status = 400 ∨ status = 403

theorem Refusing.replies (refusing : Refusing id now state named script) : Replies script := by
  intro number endpoint status body member
  induction refusing with
  | answers endpoint' status' error refused =>
      obtain ⟨_, _, rfl, _⟩ : number = id ∧ endpoint = endpoint' ∧ status = status' ∧
          body = .error error := by simpa [answer] using member
      exact .inr refused
  | throws => simp at member
  | waits await call => simp at member
  | reads rest ih => exact ih (by simpa using member)
  | spends challenge given live rest ih => exact ih (by simpa using member)

theorem Granting.replies (grants : Granting id script) : Replies script := by
  obtain ⟨lead, endpoint, body, rfl, fits⟩ := grants
  intro number target status text member
  rcases List.mem_append.mp member with early | late
  · exact absurd (fits.each _ early) (by simp; split <;> simp)
  · left
    simp only [answer, List.mem_cons, Act.reply.injEq, reduceCtorEq, List.not_mem_nil,
      or_false] at late
    exact late.2.2.1

theorem Within.replies {verbs : List Verb} (fits : Within verbs script)
    (missing : Verb.reply ∉ verbs ∧ Verb.replyRegistered ∉ verbs) : Replies script := by
  intro id endpoint status body member
  have verb : (Act.reply id endpoint status body).verb = .reply ∨
      (Act.reply id endpoint status body).verb = .replyRegistered := by
    simp only [Act.verb, replyVerb]
    split <;> simp
  rcases verb with same | same
  · exact absurd (same ▸ fits.each _ member) missing.1
  · exact absurd (same ▸ fits.each _ member) missing.2

variable {env : Env} {ctx : ContextId}

theorem continuation_replies (random : Bytes) (await : Await)
    (upgraded : ∀ ws, await ≠ .upgradeTag ws) (open_ : await ≠ .responseTag) :
    Replies (continuation env now ctx state random id await) := by
  have call : await.concerns = none → Replies (continuation env now ctx state random id await) := by
    intro call
    rcases continuation_outcome env id now state ctx random await call open_
      with refusing | granting
    · exact refusing.replies
    · exact granting.replies
  cases await with
  | upgradeTag ws => exact absurd rfl (upgraded ws)
  | proofSignature check => exact (finishProof_within ..).replies (by simp)
  | _ => exact call rfl

theorem continuation_codes (random : Bytes) (await : Await)
    (upgraded : ∀ ws, await ≠ .upgradeTag ws) :
    ∀ ws code reason, .close ws code reason ∈ continuation env now ctx state random id await →
      code ≠ 1011 := by
  intro ws code reason member
  have verb := (continuation_within env now ctx state id random await).each _ member
  cases await with
  | upgradeTag ws => exact absurd rfl (upgraded ws)
  | proofSignature check =>
      have table : ∀ pair ∈ proofCloses, pair.1 ≠ 1011 := by decide
      exact table _ ((finishProof_closes ..).each ws code reason member)
  | deleteTag =>
      rcases List.mem_append.mp member with torn | answered
      · rcases List.mem_append.mp torn with closed | wiped
        · obtain ⟨_, _, same⟩ := List.mem_map.mp closed
          cases same
          decide
        · simp at wiped
      · exact absurd answered ((answer_within ..).lacks (by simp))
  | _ => simp at verb

end Replies

section Runs
variable {env : Env} {state : State} {event : Event}

theorem webSocketMessage_nonce {now id : Nat} {ctx : ContextId} {ws other : SocketId}
    {random : Bytes} {frame : Frame} {value : Attachment} {role : Role} {nonce : String}
    {yields : Bool} (challenges : value.admission = .challenged role nonce yields)
    (member : .attach other value ∈ webSocketMessage env now ctx state id ws random frame) :
    nonce = b64 random := by
  have whole := webSocketMessage_challenges challenges member
  have hello : handleHello env state ws random frame =
      [.attach other value, .send other (.challenge nonce)] → nonce = b64 random := by
    intro same
    unfold handleHello at same
    split at same
    · split at same
      · dsimp only at same
        split at same
        · split at same
          · simp only [List.cons.injEq, Act.send.injEq, Message.challenge.injEq] at same
            exact same.2.1.2.symm
          · simp at same
        · simp at same
      · simp at same
      · simp at same
    · simp at same
  unfold webSocketMessage at whole
  split at whole
  · have closing := closeBoth_within ctx state ws 1009 "frame too large"
    rw [whole] at closing
    simp at closing
  · split at whole
    · exact hello whole
    · exact hello whole
    · simp [handleProof] at whole
    · simp [spliceFrame] at whole

/-- The nonces that sockets have been given are those that the relay has made. -/
def Challenged (state : State) : Prop :=
  ∀ ws role nonce yields, state.admission ws = some (.challenged role nonce yields) →
    ∃ bytes, nonce = b64 bytes

theorem challenged_step (challenged : Challenged state) :
    Challenged (step env state event) := by
  intro ws role nonce yields after
  rcases challenged_from after with
    before | ⟨now, target, frame, random, fault, rest, value, _, _, challenges, ran⟩
  · exact challenged ws role nonce yields before
  · exact ⟨random, webSocketMessage_nonce challenges ran⟩

theorem challenge_after {script : List Act} {store : Store} {challenge : String}
    (stored : challenge ∈ (script.foldl Store.after store).challenges) :
    challenge ∈ store.challenges ∨ ∃ expiresAt, .put (.challenge challenge expiresAt) ∈ script := by
  induction script generalizing store with
  | nil => exact .inl stored
  | cons act rest ih =>
      rcases ih stored with before | ⟨expiresAt, member⟩
      · cases act with
        | put row =>
            cases row with
            | challenge other expiresAt =>
                rcases (AList.mem_insert _).mp before with rfl | before
                · exact .inr ⟨expiresAt, by simp⟩
                · exact .inl before
            | _ => exact .inl before
        | delete key =>
            cases key with
            | challenge other => exact .inl (AList.mem_erase.mp before).2
            | _ => exact .inl before
        | deleteAll => exact absurd before (AList.notMem_empty _)
        | _ => exact .inl before
      · exact .inr ⟨expiresAt, List.mem_cons_of_mem act member⟩

theorem minted_step (minted : Minted state) : Minted (step env state event) := by
  intro challenge stored
  rw [step_store] at stored
  rcases challenge_after stored with before | ⟨expiresAt, member⟩
  · exact minted challenge before
  · by_cases asked : ∃ now random fault, event = .request now .challenge random fault
    · obtain ⟨now, random, fault, rfl⟩ := asked
      obtain ⟨met, turns, _, ran⟩ := mem_script member (by simp)
      cases turns with
      | request _ _ _ _ ctx resident =>
          rcases handleAttestChallenge_cases now state.nextId state.enter random with
            refuses | ⟨_, rest, after, shape⟩
          · exact absurd ran (refuses.lacks (by simp))
          · refine ⟨random, ?_⟩
            have inside : .put (.challenge challenge expiresAt) ∈ sweepChallenges now state.enter ++
                .put (.challenge (b64 random) (now + attestChallengeTtlMs)) :: rest := shape ▸ ran
            rcases List.mem_append.mp inside with early | late
            · exact absurd early ((sweepChallenges_within ..).lacks (by simp))
            · rcases List.mem_cons.mp late with same | later
              · simp only [Act.put.injEq, Row.challenge.injEq] at same
                exact same.1
              · exact absurd later (after.lacks (by simp))
    · push Not at asked
      exact absurd member ((acts_within env state event).lacks (footprint_challenges asked))

theorem minted_run (env : Env) (events : List Event) :
    Minted (run env events) ∧ Challenged (run env events) := by
  refine Machine.run_invariant (step env) (fun state => Minted state ∧ Challenged state)
    (fun _ _ => True) (fun state event holds _ => ⟨minted_step holds.1, challenged_step holds.2⟩)
    initial ⟨?_, ?_⟩ events (fun _ _ => trivial)
  · exact fun challenge stored => absurd stored (AList.notMem_empty _)
  · intro ws role nonce yields challenged
    simp [Relay.initial, State.admission] at challenged

theorem frameCloses_code {script : List Act} (carries : ClosesFor frameCloses script) :
    ∀ ws code reason, .close ws code reason ∈ script → code ≠ 1011 := by
  have table : ∀ pair ∈ frameCloses, pair.1 ≠ 1011 := by decide
  exact fun ws code reason member => table _ (carries.each ws code reason member)

theorem Behaves.finishes {null : Bool} {met : Turn} (unfaulted : met.fault = none)
    (behaves : Behaves null met.start met.ctx met.script) (replies : Replies met.script)
    (closes : ∀ ws code reason, .close ws code reason ∈ met.script → code ≠ 1011) :
    Finishes met ↔ null = false := by
  cases null with
  | true =>
      have thrown : threw met.fault met.script = true := by
        rw [unfaulted]
        exact (Script.threw_unfaulted _ _).mpr ⟨.throw, behaves, rfl⟩
      constructor
      · intro finishes
        rw [finishes.returns] at thrown
        exact thrown.symm
      · intro wrong
        exact Bool.noConfusion wrong
  | false =>
      obtain ⟨calm, outcome⟩ : .throw ∉ met.script ∧ Outcome met.start met.ctx met.script := by
        simpa [Behaves] using behaves
      have returns : threw met.fault met.script = false := by
        rw [unfaulted, Bool.eq_false_iff]
        intro thrown
        obtain ⟨act, member, stops⟩ := (Script.threw_unfaulted _ _).mp thrown
        cases act <;> first | exact calm member | exact Bool.noConfusion stops
      have whole := Turn.acts_whole returns
      exact iff_of_true ⟨returns, whole ▸ outcome, whole ▸ closes, whole ▸ replies⟩ rfl

end Runs

-- In every state of a run, the handler of a frame or of a call comes to one of its outcomes
-- exactly if it does not read a property of null.
theorem turn_finishes_iff (env : Env) (events : List Event) (event : Event) (met : Turn)
    (handles : Handles (run env events) event)
    (happens : turn env (run env events) event = some met) :
    Finishes met ↔ readsNull env (run env events) event = false := by
  obtain ⟨minted, challenged⟩ := minted_run env events
  have wired := wired_run env events
  generalize run env events = state at *
  have turns := turn_turns happens
  cases handles with
  | frame now ws frame random rest drained free next joining =>
      have unparsed : readsNull env state (.run now) =
          (readsFrame env state now ws frame && (env.parse frame).any Json.isNull) := by
        simp [readsNull, drained, next]
      rw [unparsed]
      cases turns with
      | idle _ other drained' stopped =>
          rw [drained] at drained'
          cases drained'
          rcases stopped with verifying | empty
          · rw [free] at verifying
            exact Bool.noConfusion verifying
          · simp [next] at empty
      | task _ other task rest' drained' free' next' =>
          rw [drained] at drained'
          cases drained'
          rw [next] at next'
          cases next'
          refine Behaves.finishes rfl ?_ ?_ ?_
          · change Behaves (readsFrame env (state.pop ws rest) now ws frame && _) _ _ _
            exact webSocketMessage_behaves state.nextId ws random frame
              (by simpa [State.admission, State.pop] using joining) rfl (challenged ws)
          · exact (webSocketMessage_within ..).replies (by simp)
          · intro target code reason member
            exact frameCloses_code (webSocketMessage_closes ..) target code reason member
  | call now request random asked =>
      have unread : readsNull env state (.request now request random none) =
          (readsBody env state request && request.body.any Json.isNull) := rfl
      rw [unread]
      cases turns with
      | request _ _ _ _ ctx resident =>
          refine Behaves.finishes rfl (handleHttp_throws minted random request asked).behaves ?_ ?_
          · rcases handleHttp_outcome env state.nextId now state.enter random request asked
              with refusing | granting
            · exact refusing.replies
            · exact granting.replies
          · intro ws code reason member
            refine absurd member ((handleHttp_within ..).lacks ?_)
            cases request <;> simp
            split <;> simp
  | resume now id random handler found upgraded open_ =>
      have unread : readsNull env state (.resume now id random none) = false := rfl
      rw [unread]
      cases turns with
      | resume _ _ _ _ other found' quiet =>
          rw [found] at found'
          cases found'
          exact Behaves.finishes rfl
            (continuation_throws random handler.await upgraded open_).behaves
            (continuation_replies random handler.await upgraded open_)
            (continuation_codes random handler.await upgraded)

end Relay

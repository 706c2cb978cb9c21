import CompanionRelay.History
import CompanionRelay.SingleUse
import CompanionRelay.Sources

/-!
Where an attested room's verifier and its admissions come from. Each row and each suspended
handler stands for steps of the past: a challenge for its issue, a ticket for an accepted
attestation, a registration token for the redeeming of a ticket, a suspended proof for the
verifier that was stored when its frame was handled.
-/

namespace Relay

open History

/-- An accepted attestation: the challenge it is over, and what it attests. -/
structure Attestation where
  challenge : String
  keyId : Bytes
  publicKey : Bytes

def Attestation.key (attestation : Attestation) : AttestedKey :=
  ⟨b64 attestation.keyId, b64 attestation.publicKey⟩

section Statement
variable (env : Env)

/-- The random strings that the room draws. -/
def drawn : Act → Option String
  | .put (.challenge challenge _) => some challenge
  | .put (.ticket ticket _) => some ticket
  | .put (.regToken token _) => some token
  | .send _ (.challenge nonce) => some nonce
  | _ => none

/-- The random strings of a run are distinct. -/
def Fresh (events : List Event) : Prop :=
  (((steps env events).flatMap fun met => acts env met.1 met.2).filterMap drawn).Nodup

instance (events : List Event) : Decidable (Fresh env events) :=
  inferInstanceAs (Decidable (List.Nodup _))

variable (before : List (State × Event)) (met : State × Event)

def Issues (challenge : String) : Prop :=
  ∃ expiresAt, .put (.challenge challenge expiresAt) ∈ acts env met.1 met.2

/-- /attest spends the challenge, which the room has issued. -/
def Attests (challenge : String) : Prop :=
  ∃ now body random fault, met.2 = .request now (.attest (some body)) random fault ∧
    body.readString "challenge" = some (some challenge) ∧
    .delete (.challenge challenge) ∈ acts env met.1 met.2 ∧
    Once (fun _ met => Issues env met challenge) before

/-- The ticket is given for an attestation that verifyAttestation has accepted. -/
def Tickets (attestation : Attestation) (ticket : String) : Prop :=
  Once (fun before met => Attests env before met attestation.challenge) before ∧
    (∃ object clientData since,
      attestData attestation.challenge env.relayOrigin = some clientData ∧
      env.verifyAttestation object (env.sha256 clientData) since =
        .ok (attestation.keyId, attestation.publicKey)) ∧
    ∃ expiresAt, .put (.ticket ticket ⟨expiresAt, b64 attestation.keyId,
      b64 attestation.publicKey⟩) ∈ acts env met.1 met.2

/-- The frame that the step takes as the proof of the socket, under the nonce that it was sent. -/
def Proves (ws : SocketId) (role : Role) (nonce : String) (proof : Json) : Prop :=
  (∃ frame, handled ws met = [frame] ∧ env.parse frame = some proof) ∧ proves ws met = true ∧
    (∃ yields, met.1.admission ws = some (.challenged role nonce yields)) ∧
    Once (fun _ met => .send ws (.challenge nonce) ∈ acts env met.1 met.2) before

/-- A phone's proof with a ticket, which is stored, in its time, and consumed. -/
def Redeems (ws : SocketId) (attestation : Attestation) (ticket : String) : Prop :=
  (∃ nonce proof, Proves env before met ws .phone nonce proof ∧
    proof.readString "ticket" = some (some ticket)) ∧
  Once (fun before met => Tickets env before met attestation ticket) before ∧
  (∃ rec, met.1.store.tickets.lookup ticket = some rec ∧ met.2.now ≤ rec.expiresAt) ∧
  .delete (.ticket ticket) ∈ acts env met.1 met.2

/-- The admission of a phone by its ticket, with the registration token it mints. -/
def Mints (attestation : Attestation) (token : String) : Prop :=
  ∃ ws ticket expiresAt, Redeems env before met ws attestation ticket ∧
    Seats env met.1 met.2 ws .phone ∧
    .put (.regToken token ⟨expiresAt, some attestation.key⟩) ∈ acts env met.1 met.2

/-- /register spends the challenge of a call that carries the token. -/
def Asks (call : RegisterCall) : Prop :=
  ∃ now body random fault, met.2 = .request now (.register (some body)) random fault ∧
    body.readString "verifier" = some (some call.verifier) ∧
    body.readString "registrationToken" = some (some call.token) ∧
    body.readString "challenge" = some (some call.challenge) ∧
    body.readString "assertion" = some (some call.assertion) ∧
    .delete (.challenge call.challenge) ∈ acts env met.1 met.2 ∧
    Once (fun _ met => Issues env met call.challenge) before

/-- A call of /register under a token minted for an attestation. -/
structure CalledUnder (attestation : Attestation) (call : RegisterCall) : Prop where
  asked : Once (fun before met => Asks env before met call) before
  minted : Once (fun before met => Mints env before met attestation call.token) before
  bound : attestData call.challenge env.relayOrigin = some call.clientData
  key : call.key = attestation.key

/-- Its assertion is accepted under the key that was attested. -/
def Asserted (attestation : Attestation) (call : RegisterCall) : Prop :=
  ∃ assertion counter, b64ToBytes call.assertion = some assertion ∧
    env.verifyAssertion assertion (env.sha256 call.clientData) attestation.publicKey = .ok counter

/-- An accepted signature over the socket's nonce, role and room name, under the verifier that
was stored when the proof began to be handled. -/
def Signed (ws : SocketId) (role : Role) : Prop :=
  ∃ nonce sig transcript verifier,
    Once (fun before met => ∃ proof, Proves env before met ws role nonce proof ∧
      proof.readString "sig" = some (some sig) ∧ met.1.store.verifier = some verifier) before ∧
    joinTranscript role nonce env.roomName env.relayOrigin = some transcript ∧
    env.verifyJoin sig transcript verifier = true

/-- Where the verifiers and the admissions of a run come from. -/
structure Provenance (events : List Event) : Prop where
  verifiers : ∀ before met after, steps env events = before ++ met :: after →
    ∀ verifier, .put (.verifier verifier) ∈ acts env met.1 met.2 →
      ∃ attestation call, call.verifier = verifier ∧ CalledUnder env before attestation call ∧
        Asserted env attestation call ∧ call.challenge ≠ attestation.challenge
  phones : ∀ before met after, steps env events = before ++ met :: after →
    ∀ ws token, .send ws (.ok (some token)) ∈ acts env met.1 met.2 →
      (∃ attestation ticket, Redeems env before met ws attestation ticket ∧
        ∀ other ∈ before ++ after, Pool.spends env .tickets ticket other.1 other.2 = none) ∨
      Signed env before ws .phone
  macs : ∀ before met after, steps env events = before ++ met :: after →
    ∀ ws, .send ws (.ok none) ∈ acts env met.1 met.2 →
      (proves ws met = true ∧ met.1.store.verifier = none) ∨ Signed env before ws .mac

/-- A registration with an accepted assertion goes on with the empty string as its verifier. -/
def blankRegistration (state : State) : Event → Bool
  | .resume _ id _ _ =>
      match state.find id with
      | some ⟨_, _, .registerAssertion call⟩ =>
          (Await.registerAssertion call).accepted env state && call.verifier = ""
      | _ => false
  | _ => false

end Statement

section Trace
variable (env : Env)

/-- What a suspended handler stands for. -/
def Waits (past : List (State × Event)) : Await → Prop
  | .attestDigest call | .attestCheck call _ =>
      Once (fun before met => Attests env before met call.challenge) past ∧
        attestData call.challenge env.relayOrigin = some call.clientData
  | .registerDigest call | .registerAssertion call =>
      ∃ attestation, CalledUnder env past attestation call
  | .proofSignature check =>
      ∃ nonce, joinTranscript check.role nonce env.roomName env.relayOrigin =
          some check.transcript ∧
        Once (fun before met => ∃ proof, Proves env before met check.ws check.role nonce proof ∧
          proof.readString "sig" = some (some check.sig) ∧
          met.1.store.verifier = some check.verifier) past
  | _ => True

/-- What the rows, the suspended handlers and the sockets of a state stand for. -/
structure Traced (past : List (State × Event)) (state : State) : Prop where
  challenges : ∀ challenge expiresAt, state.store.stores (.challenge challenge expiresAt) →
    Once (fun _ met => Issues env met challenge) past
  tickets : ∀ ticket rec, state.store.stores (.ticket ticket rec) →
    ∃ attestation : Attestation, attestation.key = ⟨rec.keyId, rec.publicKey⟩ ∧
      Once (fun before met => Tickets env before met attestation ticket) past
  tokens : ∀ token rec key, state.store.stores (.regToken token rec) → rec.attested = some key →
    ∃ attestation : Attestation, attestation.key = key ∧
      Once (fun before met => Mints env before met attestation token) past
  handlers : ∀ handler ∈ state.suspended, Waits env past handler.await
  challenged : ∀ ws role nonce yields,
    state.admission ws = some (.challenged role nonce yields) →
    Once (fun _ met => .send ws (.challenge nonce) ∈ acts env met.1 met.2) past

variable {env : Env} {past : List (State × Event)} {state : State} {event : Event}

theorem CalledUnder.later {attestation : Attestation} {call : RegisterCall}
    (called : CalledUnder env past attestation call) (after : List (State × Event)) :
    CalledUnder env (past ++ after) attestation call :=
  ⟨called.asked.later after, called.minted.later after, called.bound, called.key⟩

theorem Waits.later {await : Await} (waits : Waits env past await)
    (after : List (State × Event)) : Waits env (past ++ after) await := by
  cases await with
  | attestDigest call => exact ⟨waits.1.later after, waits.2⟩
  | attestCheck call since => exact ⟨waits.1.later after, waits.2⟩
  | registerDigest call =>
      obtain ⟨attestation, called⟩ := waits
      exact ⟨attestation, called.later after⟩
  | registerAssertion call =>
      obtain ⟨attestation, called⟩ := waits
      exact ⟨attestation, called.later after⟩
  | proofSignature check =>
      obtain ⟨nonce, made, proved⟩ := waits
      exact ⟨nonce, made, proved.later after⟩
  | _ => trivial

theorem truthy_some {stored : Option String} {text : String} (read : truthy stored = some text) :
    stored = some text ∧ text ≠ "" := by
  cases stored with
  | none => cases read
  | some value =>
      by_cases filled : value = ""
      · simp [truthy, filled] at read
      · obtain rfl : value = text := by simpa [truthy, filled] using read
        exact ⟨rfl, filled⟩

theorem Traced.issued (traced : Traced env past state) {now : Nat} {challenge : String}
    (live : liveChallenge now state challenge = true) :
    Once (fun _ met => Issues env met challenge) past := by
  unfold liveChallenge at live
  split at live
  · cases live
  · rename_i expiresAt stored
    exact traced.challenges challenge expiresAt stored

theorem Traced.attests (traced : Traced env past state) {id : Nat} {call : AttestCall}
    (member : .suspend id (.attestDigest call) ∈ acts env state event) :
    Attests env past (state, event) call.challenge ∧
      attestData call.challenge env.relayOrigin = some call.clientData := by
  obtain ⟨met, turns, performed, ran⟩ := mem_script member (by simp)
  rcases suspend_cases member with
    ⟨now, request, random, fault, rfl, ends⟩ | ⟨handler, _, leads⟩ | ⟨ws, same⟩ | ⟨check, same⟩
  · cases turns with
    | request now request random fault ctx resident =>
        cases request with
        | attest body =>
            obtain ⟨given, rfl, challenged, live, bound, shape⟩ := handleAttest_suspends ran
            have spent : .delete (.challenge call.challenge) ∈
                acts env state (.request now (.attest (some given)) random fault) := by
              rw [performed] at member ⊢
              exact @Turn.done_earlier _ [.get] _ _ _ shape member (by simp) (by simp)
            exact ⟨⟨now, given, random, fault, rfl, challenged, spent, traced.issued live⟩, bound⟩
        | _ => simp [Await.begins, Request.endpoint] at ends
  · cases await : handler.await <;> simp [await, Await.leads] at leads
  · cases same
  · cases same

theorem Traced.calls (traced : Traced env past state) {id : Nat} {call : RegisterCall}
    (member : .suspend id (.registerDigest call) ∈ acts env state event) :
    ∃ attestation, CalledUnder env (past ++ [(state, event)]) attestation call := by
  obtain ⟨met, turns, performed, ran⟩ := mem_script member (by simp)
  rcases suspend_cases member with
    ⟨now, request, random, fault, rfl, ends⟩ | ⟨handler, _, leads⟩ | ⟨ws, same⟩ | ⟨check, same⟩
  · cases turns with
    | request now request random fault ctx resident =>
        cases request with
        | register body =>
            obtain ⟨given, rec, rfl, verifier, token, challenged, asserted, live, bound, stored,
              attested, shape⟩ := handleRegister_suspends ran
            have spent : .delete (.challenge call.challenge) ∈
                acts env state (.request now (.register (some given)) random fault) := by
              rw [performed] at member ⊢
              exact Turn.done_earlier shape member (by simp) (by simp)
            obtain ⟨attestation, key, minted⟩ := traced.tokens call.token rec call.key stored attested
            refine ⟨attestation, .now ?_, minted.later _, bound, key.symm⟩
            exact ⟨now, given, random, fault, rfl, verifier, token, challenged, asserted, spent,
              traced.issued live⟩
        | _ => simp [Await.begins, Request.endpoint] at ends
  · cases await : handler.await <;> simp [await, Await.leads] at leads
  · cases same
  · cases same

theorem Traced.verifies (traced : Traced env past state) {id : Nat} {check : JoinCheck}
    (member : .suspend id (.proofSignature check) ∈ acts env state event) :
    Waits env (past ++ [(state, event)]) (.proofSignature check) := by
  obtain ⟨met, turns, performed, ran⟩ := mem_script member (by simp)
  have proves_ : proves check.ws (state, event) = true := by
    rw [performed] at member
    exact turns.suspends (List.mem_filterMap.mpr ⟨_, member, rfl⟩)
  obtain ⟨now, frame, random, fault, rest, role, nonce, yields, rfl, drained, free, next, admission,
    small⟩ := proves_turn proves_
  cases turns with
  | idle now ws drained_ stopped => exact absurd ran List.not_mem_nil
  | task now ws task others drained_ free_ next_ =>
      rw [drained] at drained_
      cases drained_
      rw [next] at next_
      cases next_
      have inside : (id, .proofSignature check) ∈ pending (webSocketMessage env now
          (state.home check.ws) (state.pop check.ws rest) state.nextId check.ws random frame) :=
        List.mem_filterMap.mpr ⟨_, ran, rfl⟩
      rcases @webSocketMessage_rests state.nextId env now (state.home check.ws)
          (state.pop check.ws rest) check.ws random frame with
        none_ | ⟨other, given, flag, one, _, _, challenged, made, registered, proof, parsed, signed⟩
      · rw [none_] at inside
        exact absurd inside List.not_mem_nil
      · rw [one] at inside
        obtain ⟨_, rfl⟩ : id = state.nextId ∧ check = other := by simpa using inside
        have challenged : state.admission check.ws = some (.challenged check.role given flag) :=
          challenged
        refine ⟨given, made, .now ⟨proof, ⟨⟨frame, ?_, parsed⟩, proves_, ⟨flag, challenged⟩,
          traced.challenged _ _ _ _ challenged⟩, signed, (truthy_some registered).1⟩⟩
        simp [handled_run, drained, free, next, Task.frame]

-- A handler that goes on from one await to the next stands for the same steps.
theorem Waits.goes_on {await next : Await} (waits : Waits env past await)
    (leads : await.leads next) : Waits env past next := by
  cases next with
  | attestCheck call since =>
      cases await with
      | attestDigest given =>
          obtain rfl : call = given := leads
          exact waits
      | _ => exact leads.elim
  | registerAssertion call =>
      cases await with
      | registerDigest given =>
          obtain rfl : call = given := leads
          exact waits
      | _ => exact leads.elim
  | attestDigest call => cases await <;> exact leads.elim
  | registerDigest call => cases await <;> exact leads.elim
  | proofSignature check => cases await <;> exact leads.elim
  | _ => trivial

theorem Traced.waits (traced : Traced env past state) {id : Nat} {await : Await}
    (member : .suspend id await ∈ acts env state event) :
    Waits env (past ++ [(state, event)]) await := by
  rcases suspend_cases member with
    ⟨now, request, random, fault, _, rfl | begins⟩ | ⟨handler, waits, leads⟩ | ⟨ws, rfl⟩ |
    ⟨check, rfl⟩
  · trivial
  · cases await with
    | attestDigest call =>
        obtain ⟨attests, bound⟩ := traced.attests member
        exact ⟨.now attests, bound⟩
    | registerDigest call => exact traced.calls member
    | deleteSignature call => trivial
    | _ => cases begins
  · exact ((traced.handlers handler waits).later _).goes_on leads
  · trivial
  · exact traced.verifies member

theorem Traced.redeems (traced : Traced env past state) (required : attestationRequired env = true)
    {join : Join} {frame : Frame} {nonce : String} {lead : List Act}
    (taken : Taken env state event join frame nonce lead) (phone : join.role = .phone) :
    ∃ attestation ticket, join.attest = some (Attestation.key attestation) ∧
      Redeems env past (state, event) join.ws attestation ticket := by
  obtain ⟨handles, proves_, ⟨yields, challenged⟩, _, presented, performed, read⟩ := taken
  rw [phone] at presented challenged
  generalize join.attest = attest at presented ⊢
  cases presented with
  | nothing free =>
      rcases free with open_ | mac
      · rw [required] at open_
        cases open_
      · cases mac
  | ticket ticket rec required phone issued live =>
      obtain ⟨proof, parsed, given⟩ := read ticket (by simp)
      obtain ⟨attestation, key, ticketed⟩ := traced.tickets ticket rec issued
      refine ⟨attestation, ticket, by rw [key], ⟨nonce, proof, ⟨⟨frame, handles, parsed⟩, proves_,
        ⟨yields, challenged⟩, traced.challenged _ _ _ _ challenged⟩, given⟩, ticketed,
        ⟨rec, issued, Nat.le_of_not_lt live⟩, performed (by simp)⟩

theorem Traced.after (traced : Traced env past state) (required : attestationRequired env = true)
    (wired : Wired env state) (event : Event) :
    Traced env (past ++ [(state, event)]) (step env state event) := by
  constructor
  · intro challenge expiresAt stored
    rcases step_stores stored with old | put
    · exact (traced.challenges challenge expiresAt old).later _
    · exact .now ⟨expiresAt, put⟩
  · rintro ticket ⟨expiresAt, keyId, publicKey⟩ stored
    rcases step_stores stored with old | put
    · obtain ⟨attestation, key, ticketed⟩ := traced.tickets ticket _ old
      exact ⟨attestation, key, ticketed.later _⟩
    · obtain ⟨handler, waits, call, since, keyId, publicKey, await, verdict, rfl, rfl⟩ :=
        ticket_put put
      have held := traced.handlers handler waits
      rw [await] at held
      unfold attestVerdict at verdict
      split at verdict
      · cases verdict
      · rename_i object decoded
        exact ⟨⟨call.challenge, keyId, publicKey⟩, rfl, .now ⟨held.1,
          ⟨object, call.clientData, since, held.2, verdict⟩, expiresAt, put⟩⟩
  · rintro token ⟨expiresAt, attested⟩ key stored rfl
    rcases step_stores stored with old | put
    · obtain ⟨attestation, same, minted⟩ := traced.tokens token _ key old rfl
      exact ⟨attestation, same, minted.later _⟩
    · obtain ⟨join, met, seated, script, greets⟩ := greeted wired put rfl (by simp)
      obtain ⟨phone, attest⟩ := greet_token greets
      rcases seated.taken script with ⟨frame, nonce, lead, taken⟩ | ⟨none_, _⟩
      · obtain ⟨attestation, ticket, given, redeems⟩ := traced.redeems required taken phone
        obtain rfl : key = attestation.key := Option.some.inj (attest.trans given)
        have seats : Seats env state event join.ws .phone :=
          ⟨_, seated.performs ▸ seated.attach_mem, by rw [← phone]; rfl⟩
        exact ⟨attestation, rfl, .now ⟨join.ws, ticket, expiresAt, redeems, seats, put⟩⟩
      · rw [none_] at attest
        cases attest
  · intro handler waits
    rcases step_suspended waits with old | suspended
    · exact (traced.handlers handler old).later _
    · exact traced.waits suspended
  · intro ws role nonce yields challenged
    rcases challenged_sent challenged with old | sent
    · exact (traced.challenged ws role nonce yields old).later _
    · exact .now sent

theorem Traced.signed (traced : Traced env past state) {ws : SocketId} {role : Role}
    (verified : Verified env state ws role) : Signed env past ws role := by
  obtain ⟨handler, waits, check, await, rfl, rfl, accepted⟩ := verified
  have held := traced.handlers handler waits
  rw [await] at held
  obtain ⟨nonce, made, proved⟩ := held
  exact ⟨nonce, check.sig, check.transcript, check.verifier, proved, made, accepted⟩

theorem Traced.registers (traced : Traced env past state)
    (required : attestationRequired env = true) {verifier : String}
    (member : .put (.verifier verifier) ∈ acts env state event) :
    ∃ attestation call, call.verifier = verifier ∧ CalledUnder env past attestation call ∧
      Asserted env attestation call := by
  obtain ⟨now, id, random, fault, ctx, call, counter, rfl, found, verdict, _, named⟩ :=
    verifier_put required member
  obtain ⟨attestation, called⟩ : ∃ attestation, CalledUnder env past attestation call :=
    traced.handlers _ (mem_find found).1
  refine ⟨attestation, call, named, called, ?_⟩
  unfold assertionVerdict at verdict
  rw [called.key, Attestation.key, b64ToBytes_b64] at verdict
  cases decoded : b64ToBytes call.assertion with
  | none => simp [decoded] at verdict
  | some assertion => exact ⟨assertion, counter, decoded, by simpa [decoded] using verdict⟩

end Trace

section Runs
variable {env : Env} {events : List Event}

theorem traced_run (required : attestationRequired env = true) (events : List Event) :
    Traced env (steps env events) (run env events) := by
  have invariant := Machine.history_invariant (step env)
    (fun past state => Wired env state ∧ Traced env past state) (fun _ _ _ => True)
    (fun _ _ event holds _ => ⟨wired_step holds.1, holds.2.after required holds.1 event⟩) [] initial
    ⟨Wired.initial env, by constructor <;> simp [initial, Store.stores, State.admission]⟩ events
    (fun _ _ _ _ => trivial)
  rw [List.nil_append] at invariant
  exact invariant.2

theorem filled_run (required : attestationRequired env = true)
    (named : ∀ met ∈ steps env events, blankRegistration env met.1 met.2 = false) :
    (run env events).store.verifier ≠ some "" := by
  apply Machine.run_invariant (step env) (fun state => state.store.verifier ≠ some "")
    (fun state event => blankRegistration env state event = false) _ initial (by simp [initial])
    events named
  intro state event filled named stored
  have stored : (step env state event).store.stores (.verifier "") := stored
  rcases step_stores stored with old | put
  · exact filled old
  · obtain ⟨now, id, random, fault, ctx, call, counter, rfl, found, _, accepted, blank⟩ :=
      verifier_put required put
    simp [blankRegistration, found, accepted, blank] at named

theorem issues_draws {pool : Pool} {value : String} {act : Act} {expiresAt : Nat}
    (issued : pool.issues value act = some expiresAt) : drawn act = some value := by
  cases act with
  | put row =>
      cases pool <;> cases row <;> simp only [Pool.issues, Pool.issued, reduceCtorEq] at issued <;>
        split at issued <;> simp_all [drawn]
  | _ => simp [Pool.issues] at issued

theorem drawn_count (pool : Pool) {value : String} (script : List Act) :
    (script.filterMap (pool.issues value)).length ≤ (script.filterMap drawn).count value := by
  induction script with
  | nil => simp
  | cons act rest ih =>
      cases issued : pool.issues value act with
      | none =>
          rw [List.filterMap_cons_none issued]
          exact ih.trans (((List.sublist_cons_self act rest).filterMap drawn).count_le value)
      | some expiresAt =>
          rw [List.filterMap_cons_some issued,
            List.filterMap_cons_some (issues_draws issued), List.count_cons_self]
          exact Nat.succ_le_succ ih

theorem spends_of_delete {pool : Pool} {value : String} {state : State} {event : Event}
    (consumes : pool.consumes event = true)
    (member : .delete (pool.key value) ∈ acts env state event) :
    pool.spends env value state event = some event.now :=
  if_pos ⟨consumes, member⟩

-- Where the random strings are distinct, a value is taken by one step only.
theorem spent_alone (fresh : Fresh env events) (pool : Pool) {value : String} {now : Nat}
    {before after : List (State × Event)} {met : State × Event}
    (split : steps env events = before ++ met :: after)
    (spends : pool.spends env value met.1 met.2 = some now) :
    ∀ other ∈ before ++ after, pool.spends env value other.1 other.2 = none := by
  have discipline : OneTime.Discipline (step env) (fun state => pool.kept state.store value)
      (fun met => (acts env met.1 met.2).filterMap (Pool.issues pool value))
      (fun met => Pool.spends env pool value met.1 met.2) :=
    ⟨fun _ _ _ spends => pool.spends_step value spends, fun _ _ => pool.keeps_step value env _ _⟩
  have empty : pool.kept initial.store value = none := by
    cases pool <;> rfl
  have few : ((steps env events).flatMap fun met =>
      (acts env met.1 met.2).filterMap (Pool.issues pool value)).length ≤ 1 := by
    rw [← List.filterMap_flatMap]
    exact (drawn_count pool _).trans (List.nodup_iff_count_le_one.mp fresh value)
  have once : ((steps env events).filterMap fun met =>
      Pool.spends env pool value met.1 met.2).length ≤ 1 :=
    (OneTime.used_once discipline empty events).once.trans few
  intro other member
  by_contra taken
  obtain ⟨time, taken⟩ := Option.ne_none_iff_exists'.mp taken
  have one : 0 < ((before ++ after).filterMap fun met =>
      Pool.spends env pool value met.1 met.2).length := List.length_pos_of_mem (List.mem_filterMap.mpr ⟨other, member, taken⟩)
  rw [split] at once
  simp only [List.filterMap_append, List.length_append, List.filterMap_cons, spends,
    List.length_cons] at once one
  omega

theorem CalledUnder.apart (fresh : Fresh env events) {past after : List (State × Event)}
    (whole : steps env events = past ++ after) {attestation : Attestation} {call : RegisterCall}
    (called : CalledUnder env past attestation call) : call.challenge ≠ attestation.challenge := by
  intro same
  have ticketed : Once (fun before met => ∃ ticket, Tickets env before met attestation ticket)
      past := by
    apply Once.nested
    exact called.minted.imp fun before met ⟨_, ticket, _, redeems, _⟩ =>
      redeems.2.1.imp fun _ _ given => ⟨ticket, given⟩
  have attested : Once (fun before met => Attests env before met attestation.challenge) past := by
    apply Once.nested
    exact ticketed.imp fun before met ⟨_, given⟩ => given.1
  obtain ⟨before, asking, between, rfl, now, body, random, fault, request, _, _, _, _, spent, _⟩ :=
    called.asked
  obtain ⟨attesting, member, _, now', body', random', fault', request', _, spent', _⟩ :=
    attested.mem
  rw [same] at spent
  have taken := @spends_of_delete _ .challenges _ _ _ (by rw [request]; rfl) spent
  have taken' := @spends_of_delete _ .challenges _ _ _ (by rw [request']; rfl) spent'
  have apart : attesting ≠ asking := by
    rintro rfl
    rw [request] at request'
    cases request'
  have elsewhere : attesting ∈ before ++ (between ++ after) := by
    rcases List.mem_append.mp member with early | late
    · exact List.mem_append_left _ early
    · rcases List.mem_cons.mp late with here | later
      · exact absurd here apart
      · simp [later]
  rw [List.append_assoc, List.cons_append] at whole
  rw [spent_alone fresh .challenges whole taken attesting elsewhere] at taken'
  cases taken'

/-- With attestation required and distinct random strings, every verifier and every admission of a
run comes from an attestation or a signature, where no registration writes the empty string. -/
theorem attested_provenance (required : attestationRequired env = true) (events : List Event)
    (fresh : Fresh env events)
    (named : ∀ met ∈ steps env events, blankRegistration env met.1 met.2 = false) :
    Provenance env events := by
  have history : ∀ before met after, steps env events = before ++ met :: after →
      Wired env met.1 ∧ Traced env before met.1 ∧ met.1.store.verifier ≠ some "" := by
    intro before met after split
    obtain ⟨earlier, later, whole, rfl, state, _⟩ := Machine.steps_split _ _ _ _ _ _ split
    rw [state]
    refine ⟨wired_run env earlier, traced_run required earlier, filled_run required ?_⟩
    intro other member
    exact named other (split ▸ List.mem_append_left _ member)
  constructor
  · intro before met after split verifier member
    obtain ⟨_, traced, _⟩ := history before met after split
    obtain ⟨attestation, call, name, called, asserted⟩ := traced.registers required member
    exact ⟨attestation, call, name, called, asserted, called.apart fresh split⟩
  · intro before met after split ws token member
    obtain ⟨wired, traced, _⟩ := history before met after split
    obtain ⟨join, turn, seated, script, greets⟩ := greeted wired member rfl (by simp)
    have phone : join.role = .phone := greet_ok greets
    obtain rfl : ws = join.ws := greet_answers greets
    rcases seated.taken script with ⟨frame, nonce, lead, taken⟩ | ⟨_, verified⟩
    · left
      obtain ⟨attestation, ticket, _, redeems⟩ := traced.redeems required taken phone
      refine ⟨attestation, ticket, redeems, ?_⟩
      have runs : Pool.tickets.consumes met.2 = true := by
        obtain ⟨now, _, _, _, _, _, _, _, run, _⟩ := proves_turn taken.proves
        rw [run]
        rfl
      exact spent_alone fresh .tickets split (spends_of_delete runs redeems.2.2.2)
    · right
      rw [phone] at verified
      exact traced.signed verified
  · intro before met after split ws member
    obtain ⟨wired, traced, filled⟩ := history before met after split
    obtain ⟨join, turn, seated, script, greets⟩ := greeted wired member rfl (by simp)
    have mac : join.role = .mac := greet_ok greets
    obtain rfl : ws = join.ws := greet_answers greets
    rcases seated.taken script with ⟨frame, nonce, lead, taken⟩ | ⟨_, verified⟩
    · refine .inl ⟨taken.proves, ?_⟩
      cases stored : met.1.store.verifier with
      | none => rfl
      | some verifier =>
          have blank : verifier = "" := by
            have absent := taken.absent
            rw [stored] at absent
            by_contra filled
            simp [truthy, filled] at absent
          rw [stored, blank] at filled
          exact absurd rfl filled
    · right
      rw [mac] at verified
      exact traced.signed verified

end Runs

/-- A phone with an attested registration token registers the verifier. -/
def attestedRegistration (verifier : String) : List Event :=
  [.get 1] ++ joins 1 0 1 macHello openProof [1] ++ asks 1 4 .challenge [10] 1 ++
    asks 1 5 (attestation "Cg==") [9] 3 ++
    [.connect 1 1, .resume 1 6 [] none,
      .chunk 1 [(phoneHello, [2], none), (ticketProof, [3], none)] .none, .run 1, .run 1, .run 1] ++
    asks 1 9 .challenge [11] 1 ++ asks 2 10 (registration "Aw==" verifier "Cw==" "AQID") [] 3

theorem attested_provenance_registered :
    Provenance (sampleEnv true) (attestedRegistration "AQID") :=
  attested_provenance (by decide) _ (by decide +kernel) (by decide +kernel)

/-- The same with the empty string, and the proof of a mac that parks after it. -/
def blankVerifier : List Event :=
  attestedRegistration "" ++ [.connect 3 2, .resume 3 11 [] none,
    .chunk 2 [(macHello, [12], none), (openProof, [13], none)] .none, .run 3]

-- The stored verifier is the empty string, and the mac is admitted without a signature.
theorem blank_verifier_unsigned :
    attestationRequired (sampleEnv true) = true ∧ Fresh (sampleEnv true) (blankVerifier ++ [.run 3]) ∧
      ¬ Provenance (sampleEnv true) (blankVerifier ++ [.run 3]) := by
  refine ⟨by decide, by decide +kernel, fun provenance => ?_⟩
  rcases provenance.macs (steps (sampleEnv true) blankVerifier)
    (run (sampleEnv true) blankVerifier, .run 3) [] (Machine.steps_append ..) 2
    (by decide +kernel) with ⟨_, absent⟩ | ⟨_, _, _, _, proved, _⟩
  · revert absent
    decide +kernel
  · obtain ⟨met, member, _, _, ⟨_, proves_, _⟩, _⟩ := proved.mem
    have unproved : ∀ met ∈ steps (sampleEnv true) blankVerifier, proves 2 met = false := by
      decide +kernel
    rw [unproved met member] at proves_
    cases proves_

end Relay

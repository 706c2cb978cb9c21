import CompanionRelay.SoleProof
import CompanionRelay.VerifierOnce

/-!
Where the rows, the suspended handlers and the answers of a step come from: which handler puts
a row, at which await a handler ends, and what a socket has given for its slot.
-/

namespace Relay

section Rows

/-- The row is in the kv table. -/
def Store.stores (store : Store) : Row → Prop
  | .verifier value => store.verifier = some value
  | .lastActivity time => store.lastActivity = some time
  | .pairingCycles count => store.pairingCycles = some count
  | .quota value => store.quota = some value
  | .registrantKeyId keyId => store.registrantKeyId = some keyId
  | .assertCounter keyId counter => store.assertCounters.lookup keyId = some counter
  | .ticket ticket rec => store.tickets.lookup ticket = some rec
  | .regToken token rec => store.regTokens.lookup token = some rec
  | .challenge challenge expiresAt => store.challenges.lookup challenge = some expiresAt

theorem lookup_insert_cases {Rec : Type} {table : Table Rec} {key written : String} {rec value : Rec}
    (found : (table.insert written value).lookup key = some rec) :
    table.lookup key = some rec ∨ key = written ∧ rec = value := by
  by_cases same : key = written
  · subst same
    rw [AList.lookup_insert] at found
    exact .inr ⟨rfl, (Option.some.inj found).symm⟩
  · rw [AList.lookup_insert_ne same] at found
    exact .inl found

theorem lookup_erase_some {Rec : Type} {table : Table Rec} {key gone : String} {rec : Rec}
    (found : (table.erase gone).lookup key = some rec) : table.lookup key = some rec := by
  by_cases same : key = gone
  · subst same
    rw [AList.lookup_erase] at found
    cases found
  · rwa [AList.lookup_erase_ne same] at found

theorem stores_after {store : Store} {act : Act} {row : Row} (stored : (store.after act).stores row) :
    store.stores row ∨ act = .put row := by
  cases act with
  | put written =>
      cases written <;> cases row <;>
        first
        | exact .inl stored
        | exact .inr (by rw [Option.some.inj stored])
        | exact (lookup_insert_cases stored).imp_right (by rintro ⟨rfl, rfl⟩; rfl)
  | delete key =>
      left
      cases key <;> cases row <;>
        first
        | exact stored
        | exact lookup_erase_some stored
  | deleteAll =>
      cases row <;> simp [Store.stores, Store.after] at stored
  | _ => exact .inl stored

theorem stores_run {script : List Act} {store : Store} {row : Row}
    (stored : (script.foldl Store.after store).stores row) :
    store.stores row ∨ .put row ∈ script := by
  induction script generalizing store with
  | nil => exact .inl stored
  | cons act rest ih =>
      rcases ih stored with early | late
      · rcases stores_after early with before | rfl
        · exact .inl before
        · exact .inr (by simp)
      · exact .inr (List.mem_cons_of_mem act late)

theorem step_stores {env : Env} {state : State} {event : Event} {row : Row}
    (stored : (step env state event).store.stores row) :
    state.store.stores row ∨ .put row ∈ acts env state event := by
  rw [step_store] at stored
  exact stores_run stored

end Rows

section Sources
variable {env : Env} {now : Nat} {state : State} {event : Event} {met : Turn}

theorem mem_script {act : Act} (member : act ∈ acts env state event) (ran : act.verb ∉ catchVerbs) :
    ∃ met, Turns env state event met ∧ acts env state event = met.acts ∧ act ∈ met.script := by
  unfold acts at member ⊢
  cases happens : turn env state event with
  | none => simp [happens] at member
  | some met =>
      rw [happens] at member
      have turns := turn_turns happens
      rcases turn_act member with script | caught
      · exact ⟨met, turns, rfl, script⟩
      · exact absurd (turns.on_throw.each _ caught) ran

theorem Turn.done_earlier {lead rest : List Act} {first act : Act}
    (script : met.script = lead ++ first :: rest) (member : act ∈ met.acts) (apart : act ∉ lead)
    (ran : act ∉ met.onThrow) : first ∈ met.acts := by
  unfold Turn.acts at member ⊢
  refine List.mem_append_left _ ?_
  rw [script] at member ⊢
  rcases List.mem_append.mp member with inside | caught
  · exact Script.done_reached _ _ apart inside
  · split at caught
    · exact absurd caught ran
    · exact absurd caught List.not_mem_nil

theorem handleAttest_suspends {id other : Nat} {body : Option Json} {call : AttestCall}
    (member : .suspend other (.attestDigest call) ∈ handleAttest env now state id body) :
    ∃ given, body = some given ∧ given.readString "challenge" = some (some call.challenge) ∧
      liveChallenge now state call.challenge = true ∧
      attestData call.challenge env.relayOrigin = some call.clientData ∧
      handleAttest env now state id body =
        [.get, .delete (.challenge call.challenge), .suspend id (.attestDigest call)] := by
  have answers : ∀ status message, .suspend other (.attestDigest call) ∉
      answer id .attest status (.error message) := by
    simp [answer]
  unfold handleAttest at member ⊢
  dsimp only at member ⊢
  split at member
  · exact absurd member (answers _ _)
  · rename_i required
    rw [if_neg required]
    split at member
    · exact absurd member (answers _ _)
    · rename_i given
      split at member
      · rename_i challenge object challenged attested
        simp only [List.mem_cons, reduceCtorEq, false_or] at member
        split at member
        · rename_i live
          simp only [List.mem_cons, reduceCtorEq, false_or] at member
          split at member
          · simp at member
          · rename_i clientData bound
            simp only [List.mem_cons, Act.suspend.injEq, Await.attestDigest.injEq,
              List.not_mem_nil, or_false] at member
            obtain ⟨_, rfl⟩ := member
            refine ⟨given, rfl, challenged, live, bound, ?_⟩
            simp [live]
        · exact absurd member (answers _ _)
      · simp at member
      · exact absurd member (answers _ _)

theorem handleRegister_suspends {id other : Nat} {body : Option Json} {call : RegisterCall}
    (member : .suspend other (.registerDigest call) ∈ handleRegister env now state id body) :
    ∃ given rec, body = some given ∧ given.readString "verifier" = some (some call.verifier) ∧
      given.readString "registrationToken" = some (some call.token) ∧
      given.readString "challenge" = some (some call.challenge) ∧
      given.readString "assertion" = some (some call.assertion) ∧
      liveChallenge now state call.challenge = true ∧
      attestData call.challenge env.relayOrigin = some call.clientData ∧
      state.store.regTokens.lookup call.token = some rec ∧ rec.attested = some call.key ∧
      handleRegister env now state id body = [.get, .get, .get] ++
        .delete (.challenge call.challenge) :: [.suspend id (.registerDigest call)] := by
  have answers : ∀ status message, .suspend other (.registerDigest call) ∉
      answer id .register status (.error message) := by
    simp [answer]
  have writes : ∀ token verifier, .suspend other (.registerDigest call) ∉
      writeVerifier now state id token verifier := by
    intro token verifier inside
    simp only [writeVerifier, answer, List.mem_append, List.mem_cons, reduceCtorEq,
      List.not_mem_nil, or_false, Act.suspend.injEq, and_false, false_or] at inside
    exact absurd inside ((bumpActivity_within ..).lacks (by simp))
  unfold handleRegister at member ⊢
  dsimp only at member ⊢
  split at member
  · exact absurd member (answers _ _)
  rename_i given
  split at member
  · simp at member
  · simp at member
  · exact absurd member (answers _ _)
  rename_i verifier token named tokened
  simp only [List.mem_cons, reduceCtorEq, false_or] at member
  split at member
  · exact absurd member (answers _ _)
  rename_i unregistered
  split at member
  · exact absurd member (answers _ _)
  rename_i token
  simp only [List.mem_cons, reduceCtorEq, false_or] at member
  split at member
  · exact absurd member (answers _ _)
  rename_i rec stored
  split at member
  · exact absurd member (answers _ _)
  rename_i timely
  split at member
  · exact absurd member (writes _ _)
  rename_i required
  split at member
  · exact absurd member (answers _ _)
  rename_i key attested
  split at member
  · rename_i challenge assertion challenged asserted
    simp only [List.mem_cons, reduceCtorEq, false_or] at member
    split at member
    · rename_i live
      simp only [List.mem_cons, reduceCtorEq, false_or] at member
      split at member
      · simp at member
      · rename_i clientData bound
        simp only [List.mem_cons, Act.suspend.injEq, Await.registerDigest.injEq,
          List.not_mem_nil, or_false] at member
        obtain ⟨_, rfl⟩ := member
        refine ⟨given, rec, rfl, named, tokened, challenged, asserted, live, bound, stored,
          (Option.filter_eq_some_iff.mp attested).1, ?_⟩
        simp [unregistered, timely, required, live]
    · exact absurd member (answers _ _)
  · exact absurd member (answers _ _)

variable {ctx : ContextId} {id : Nat} {random : Bytes}

theorem finishAttest_puts {call : AttestCall} {since : Nat} {ticket : String} {rec : TicketRec}
    (member : .put (.ticket ticket rec) ∈ finishAttest env now state id random call since) :
    ∃ keyId publicKey, attestVerdict env call since = .ok (keyId, publicKey) ∧
      rec.keyId = b64 keyId ∧ rec.publicKey = b64 publicKey := by
  unfold finishAttest at member
  split at member
  · simp [answer] at member
  · rename_i keyId publicKey verdict
    simp only [answer, List.cons_append, List.mem_cons, Act.put.injEq, Row.ticket.injEq,
      List.mem_append, reduceCtorEq, List.not_mem_nil, or_false] at member
    rcases member with ⟨_, rfl⟩ | armed
    · exact ⟨keyId, publicKey, verdict, rfl, rfl⟩
    · exact absurd armed ((ensureAlarm_within ..).lacks (by simp))

theorem ticket_put {ticket : String} {rec : TicketRec}
    (member : .put (.ticket ticket rec) ∈ acts env state event) :
    ∃ handler ∈ state.suspended, ∃ call since keyId publicKey,
      handler.await = .attestCheck call since ∧
      attestVerdict env call since = .ok (keyId, publicKey) ∧ rec.keyId = b64 keyId ∧
      rec.publicKey = b64 publicKey := by
  have unasked : ∀ request : Request, Verb.putTicket ∉ request.verbs env := by
    intro request
    cases request with
    | register body => cases required : attestationRequired env <;> simp [required]
    | _ => simp
  obtain ⟨now, id, random, fault, handler, rfl, found, ran⟩ :=
    resumes_of_verb member (by simp) unasked
  have fits := continuation_within env now handler.ctx (state.wake id handler.await.drains) id
    random handler.await
  cases await : handler.await with
  | attestCheck call since =>
      simp only [await, continuation] at ran
      obtain ⟨keyId, publicKey, verdict, same, key⟩ := finishAttest_puts ran
      exact ⟨handler, (mem_find found).1, call, since, keyId, publicKey, await, verdict, same, key⟩
  | _ =>
      simp only [await] at fits ran
      exact absurd ran (fits.lacks (by simp))

theorem finishRegister_puts {call : RegisterCall} {verifier : String}
    (member : .put (.verifier verifier) ∈ finishRegister env now state id call) :
    ∃ counter, assertionVerdict env call = .ok counter ∧
      freshCounter state call.key.keyId counter = true ∧ call.verifier = verifier := by
  unfold finishRegister at member
  split at member
  · simp [answer] at member
  · rename_i counter verdict
    refine ⟨counter, verdict, ?_⟩
    simp only [List.mem_cons, reduceCtorEq, false_or] at member
    split at member
    · rename_i fresh
      refine ⟨fresh, ?_⟩
      simp only [writeVerifier, answer, List.cons_append, List.nil_append, List.mem_cons,
        Act.put.injEq, reduceCtorEq, Row.verifier.injEq, List.mem_append, List.not_mem_nil,
        or_false, false_or] at member
      rcases member with rfl | bumped
      · rfl
      · exact absurd bumped ((bumpActivity_within ..).lacks (by simp))
    · simp [answer] at member

theorem verifier_put (required : attestationRequired env = true) {verifier : String}
    (member : .put (.verifier verifier) ∈ acts env state event) :
    ∃ now id random fault ctx call counter, event = .resume now id random fault ∧
      state.find id = some ⟨id, ctx, .registerAssertion call⟩ ∧
      assertionVerdict env call = .ok counter ∧
      (Await.registerAssertion call).accepted env state = true ∧ call.verifier = verifier := by
  obtain ⟨now, id, random, fault, ctx, call, rfl, found⟩ :=
    registering_step required member (.inl rfl)
  obtain ⟨_, turns, _, ran⟩ := mem_script member (by simp)
  cases turns with
  | resume now id random fault handler found_ quiet =>
      rw [found] at found_
      cases found_
      obtain ⟨counter, verdict, fresh, named⟩ := finishRegister_puts ran
      have accepted : (Await.registerAssertion call).accepted env state = true := by
        simp only [Await.accepted, verdict]
        exact fresh
      exact ⟨now, id, random, fault, ctx, call, counter, rfl, found, verdict, accepted, named⟩

@[simp] def greetVerbs : List Verb := [.sendOk, .putRegToken]

theorem Joins.greeting {join : Join} (joins : Joins env state event join) {act : Act}
    (member : act ∈ join.script env) (verb : act.verb ∈ greetVerbs) :
    act ∈ greet join.now join.mid join.random join.ws join.attest join.role := by
  rcases joins.script_cases with ⟨verbs, fits, unseated⟩ | ⟨front, quiet, whole⟩
  · exact absurd (fits.each _ member) (unseated _ (List.mem_cons_of_mem _ verb))
  · have displaces : Within [.close] (displace join.ctx join.mid join.ws join.role) :=
      Within.map_of (by simp)
    rw [whole, seat] at member
    rcases List.mem_append.mp member with early | late
    · have inside := quiet.each _ early
      revert verb inside
      cases act.verb <;> simp
    · rcases List.mem_append.mp late with displaced | taken
      · have inside := displaces.each _ displaced
        revert verb inside
        cases act.verb <;> simp
      · rcases List.mem_cons.mp taken with rfl | greets
        · simp at verb
        · exact greets

theorem greet_token {now : Nat} {state : State} {random : Bytes} {ws : SocketId} {token : String}
    {rec : RegTokenRec} {attest : Option AttestedKey} {role : Role}
    (member : .put (.regToken token rec) ∈ greet now state random ws attest role) :
    role = .phone ∧ rec.attested = attest := by
  cases role with
  | mac => simp [greet] at member
  | phone =>
      simp only [greet, List.cons_append, List.mem_cons, Act.put.injEq, Row.regToken.injEq,
        List.mem_append, reduceCtorEq, List.not_mem_nil, or_false] at member
      rcases member with ⟨_, rfl⟩ | armed
      · exact ⟨rfl, rfl⟩
      · exact absurd armed ((ensureAlarm_within ..).lacks (by simp))

theorem greet_ok {now : Nat} {state : State} {random : Bytes} {ws other : SocketId}
    {token : Option String} {attest : Option AttestedKey} {role : Role}
    (member : .send other (.ok token) ∈ greet now state random ws attest role) :
    role = if token.isSome then .phone else .mac := by
  cases role with
  | mac =>
      simp only [greet, List.mem_singleton, Act.send.injEq, Message.ok.injEq] at member
      simp [member.2]
  | phone =>
      simp only [greet, List.cons_append, List.mem_cons, reduceCtorEq, List.mem_append,
        Act.send.injEq, Message.ok.injEq, List.not_mem_nil, or_false, false_or] at member
      rcases member with armed | ⟨_, rfl⟩
      · exact absurd armed ((ensureAlarm_within ..).lacks (by simp))
      · rfl

theorem greeted (wired : Wired env state) {act : Act} (member : act ∈ acts env state event)
    (admits : act.admits = true) (verb : act.verb ∈ greetVerbs) :
    ∃ join met, Seated env state event join met ∧ met.script = join.script env ∧
      act ∈ greet join.now join.mid join.random join.ws join.attest join.role := by
  unfold acts at member
  cases happens : turn env state event with
  | none => simp [happens] at member
  | some met =>
      rw [happens] at member
      have turns := turn_turns happens
      have ran : act ∈ met.script := by
        rcases turn_act member with ran | caught
        · exact ran
        · have inside := turns.on_throw.each _ caught
          revert verb inside
          cases act.verb <;> simp
      rcases turns.joining_cases wired (turn_free happens) with
        ⟨_, quiet⟩ | ⟨join, joins, _, script, _⟩
      · rw [quiet act ran] at admits
        exact Bool.noConfusion admits
      · exact ⟨join, met, joins.seated wired happens script member (List.mem_cons_of_mem _ verb),
          script, joins.greeting (script ▸ ran) verb⟩

-- The ticket that a proof has redeemed is the one in its frame.
theorem handleProof_ticket {ws : SocketId} {role : Role} {nonce ticket : String} {frame : Frame}
    (member : .delete (.ticket ticket) ∈
      handleProof env now ctx state id ws role nonce random frame) :
    ∃ proof, env.parse frame = some proof ∧ proof.readString "ticket" = some (some ticket) := by
  have rejects : ∀ error, .delete (.ticket ticket) ∉ reject ws error := by
    simp [reject]
  have admits : ∀ attest, .delete (.ticket ticket) ∉
      admitSocket env now ctx state random ws role attest := fun attest =>
    (admit_within ..).lacks (by simp)
  unfold handleProof at member
  simp only [List.mem_cons, reduceCtorEq, false_or] at member
  split at member
  · exact absurd member (rejects _)
  · split at member
    · exact absurd member (rejects _)
    · rename_i proof parsed
      refine ⟨proof, parsed, ?_⟩
      simp only [List.mem_cons, reduceCtorEq, false_or] at member
      split at member
      · unfold pairingProof at member
        split at member
        · split at member
          · exact absurd member (admits _)
          · split at member
            · simp at member
            · exact absurd member (rejects _)
            · rename_i given presented
              simp only [List.mem_cons, reduceCtorEq, false_or] at member
              split at member
              · exact absurd member (rejects _)
              · split at member
                · exact absurd member (rejects _)
                · rcases List.mem_cons.mp member with same | admitted
                  · simp only [Act.delete.injEq, Key.ticket.injEq] at same
                    rw [same]
                    exact presented
                  · exact absurd admitted (admits _)
        · exact absurd member (admits _)
      · split at member
        · simp at member
        · exact absurd member (rejects _)
        · split at member <;> simp at member

/-- A suspended proof of the socket whose signature is accepted. -/
def Verified (env : Env) (state : State) (ws : SocketId) (role : Role) : Prop :=
  ∃ handler ∈ state.suspended, ∃ check, handler.await = .proofSignature check ∧ check.ws = ws ∧
    check.role = role ∧ env.verifyJoin check.sig check.transcript check.verifier = true

/-- A frame that is taken as a proof while no verifier is stored, and what it redeems. -/
structure Taken (env : Env) (state : State) (event : Event) (join : Join) (frame : Frame)
    (nonce : String) (lead : List Act) : Prop where
  handles : handled join.ws (state, event) = [frame]
  proves : proves join.ws (state, event) = true
  challenged : ∃ yields, state.admission join.ws = some (.challenged join.role nonce yields)
  absent : truthy state.store.verifier = none
  presented : Presented env event.now state join.role lead join.attest
  performed : lead ⊆ acts env state event
  read : ∀ ticket, .delete (.ticket ticket) ∈ lead →
    ∃ proof, env.parse frame = some proof ∧ proof.readString "ticket" = some (some ticket)

theorem Seated.lead_performed {join : Join} (seated : Seated env state event join met)
    (script : met.script = join.script env) : join.lead ⊆ acts env state event := by
  have attach := seated.attach_mem
  have apart : .attach join.ws (admittedAs env join.now join.mid join.ws join.role) ∉ join.lead :=
    seated.joins.lead_within.lacks (by simp)
  have ran : .attach join.ws (admittedAs env join.now join.mid join.ws join.role) ∈
      done met.fault met.script := by
    rcases List.mem_append.mp attach with ran | caught
    · exact ran
    · rw [seated.joins.on_throw seated.happens] at caught
      split at caught <;> simp at caught
  rw [seated.performs, Turn.acts, script, Join.script]
  rw [script, Join.script] at ran
  intro act member
  refine List.mem_append_left _ ?_
  rcases Script.done_append Act.isStorage Act.isThrow met.fault join.lead (admitSocket env
    join.now join.ctx join.mid join.random join.ws join.role join.attest) with short | ⟨left, long⟩
  · rw [done, short] at ran
    exact absurd (Script.done_subset _ _ ran) apart
  · rw [done, long]
    exact List.mem_append_left _ member

-- The two ways in which a socket comes to its slot.
theorem Seated.taken {join : Join} (seated : Seated env state event join met)
    (script : met.script = join.script env) :
    (∃ frame nonce lead, Taken env state event join frame nonce lead) ∨
      (join.attest = none ∧ Verified env state join.ws join.role) := by
  have performed := seated.lead_performed script
  have joins := seated.joins
  cases joins with
  | signature now id random fault ctx check found verified =>
      exact .inr ⟨rfl, _, (mem_find found).1, check, rfl, rfl, rfl, verified⟩
  | pairing now ws role nonce yields frame random fault rest window lead attest drained free next
      admission absent presented =>
      left
      have happens := seated.happens
      simp only [turn, State.busy, Bool.false_eq_true, if_false, quietTurn, drained,
        Option.map_some, runTurn, free, next, Option.some.injEq] at happens
      subst happens
      have small : frame.size ≤ frameCap state ws := by
        rcases turn_act seated.attach_mem with ran | caught
        · exact small_frame ran (by simp)
        · simp [taskTurn] at caught
      refine ⟨frame, nonce, lead, ?_, ?_, ⟨yields, admission⟩, absent, presented, ?_, ?_⟩
      · simp [handled_run, drained, free, next, Task.frame]
      · simp [proves, handled_run, drained, free, next, Task.frame, isProof, admission, small]
      · exact fun act member => performed (by simp [member])
      · intro ticket member
        have inside : .delete (.ticket ticket) ∈ webSocketMessage env now (state.home ws)
            (state.pop ws rest) state.nextId ws random frame := by
          have whole : webSocketMessage env now (state.home ws) (state.pop ws rest) state.nextId ws
            random frame = _ := script
          rw [whole, Join.script]
          simp [member]
        have large : ¬ frame.size > frameCap (state.pop ws rest) ws := Nat.not_lt.mpr small
        have same : (state.pop ws rest).admission ws = some (.challenged role nonce yields) :=
          admission
        simp only [webSocketMessage, large, if_false, same] at inside
        exact handleProof_ticket inside

theorem admit_admits {ws other : SocketId} {role : Role} {attest : Option AttestedKey}
    {value : Attachment}
    (member : .attach other value ∈ admitSocket env now ctx state random ws role attest) :
    value.admission = .admitted role := by
  rcases admit_cases env now ctx state random ws role attest with
    ⟨ends, _⟩ | ⟨ends, _⟩ | ⟨ends, _⟩
  · rw [ends] at member
    simp [reject] at member
  · rw [ends] at member
    have torn : .attach other value ∉ teardownRoom ctx state "pairing cycle cap" :=
      (teardownRoom_within ..).lacks (by simp)
    simp [torn] at member
  · rw [ends] at member
    have charges : .attach other value ∉ .get :: charge state role := by
      cases role <;> cases established state <;> simp [charge]
    rcases takeSlot_cases env now ctx state random ws role attest with ⟨taken, _⟩ | ⟨taken, _⟩
    · rw [taken] at member
      rcases List.mem_append.mp member with charged | refused
      · exact absurd charged charges
      · simp [reject] at refused
    · rw [taken, seat] at member
      rcases List.mem_append.mp member with charged | seated
      · exact absurd charged charges
      · have displaces : Within [.close] (displace ctx state ws role) := Within.map_of (by simp)
        rcases List.mem_append.mp seated with displaced | attached
        · exact absurd displaced (displaces.lacks (by simp))
        · rcases List.mem_cons.mp attached with same | greets
          · obtain ⟨_, rfl⟩ := Act.attach.inj same
            rfl
          · exact absurd greets ((greet_within ..).lacks (by simp))

theorem webSocketMessage_challenges {ws other : SocketId} {frame : Frame} {value : Attachment}
    {role : Role} {nonce : String} {yields : Bool}
    (challenges : value.admission = .challenged role nonce yields)
    (member : .attach other value ∈ webSocketMessage env now ctx state id ws random frame) :
    webSocketMessage env now ctx state id ws random frame =
      [.attach other value, .send other (.challenge nonce)] := by
  have hello : .attach other value ∈ handleHello env state ws random frame →
      handleHello env state ws random frame =
        [.attach other value, .send other (.challenge nonce)] := by
    intro member
    unfold handleHello at member ⊢
    split at member
    · split at member
      · dsimp only at member ⊢
        split at member
        · split at member
          · rename_i matching
            simp only [List.mem_cons, Act.attach.injEq, reduceCtorEq, List.not_mem_nil,
              or_false] at member
            obtain ⟨rfl, rfl⟩ := member
            simp only [Admission.challenged.injEq] at challenges
            rw [if_pos matching, challenges.2.1]
          · simp at member
        · simp at member
      · simp at member
      · simp at member
    · simp at member
  unfold webSocketMessage at member ⊢
  split at member
  · have ends : Within [.close] (closePeerOf ctx state ws ++ [.close ws 1009 "frame too large"]) :=
      Within.append_iff.mpr ⟨closePeerOf_within ctx state ws, by simp⟩
    exact absurd member (ends.lacks (by simp))
  · rename_i small
    rw [if_neg small]
    split at member
    · exact hello member
    · exact hello member
    · rename_i role nonce yields admission
      exfalso
      rcases handleProof_cases env now ctx state id ws role nonce random frame with
        ⟨_, refused⟩ | ⟨_, window, lead, attest, presented, _, whole⟩
      · exact absurd member (refused.lacks (by simp))
      · rw [whole] at member
        rcases List.mem_append.mp member with early | admitted
        · cases presented <;> simp at early
        · rw [admit_admits admitted] at challenges
          cases challenges
    · exact absurd member ((spliceFrame_within ..).lacks (by simp))

theorem challenged_from {ws : SocketId} {role : Role} {nonce : String} {yields : Bool}
    (challenged : (step env state event).admission ws = some (.challenged role nonce yields)) :
    state.admission ws = some (.challenged role nonce yields) ∨
      ∃ now target frame random fault rest value, event = .run now ∧
        acts env state event = (taskTurn env now (state.pop target rest) target state.nextId
          (.message frame random fault)).acts ∧
        value.admission = .challenged role nonce yields ∧
        .attach ws value ∈ webSocketMessage env now (state.home target) (state.pop target rest)
          state.nextId target random frame := by
  rw [State.admission, step_attachment] at challenged
  rcases attachment_after (acts env state event) state.attachment ws with
    kept | ⟨value, member, written⟩
  · rw [kept] at challenged
    exact .inl challenged
  · have challenges : value.admission = .challenged role nonce yields := by
      rw [written] at challenged
      simpa using challenged
    obtain ⟨met, turns, inside, ran⟩ := mem_script member (by simp)
    have fits := turns.script_within
    cases turns with
    | connect now opened ctx resident unseen =>
        simp only [handleUpgrade, List.mem_cons, reduceCtorEq, Act.attach.injEq, List.not_mem_nil,
          or_false, false_or] at ran
        rw [ran.2] at challenges
        cases challenges
    | task now target task rest drained free next =>
        cases task with
        | message frame random fault =>
            have performed : acts env state (.run now) = (taskTurn env now (state.pop target rest)
                target state.nextId (.message frame random fault)).acts := by
              simp [acts, turn, State.busy, quietTurn, drained, runTurn, free, next]
            exact .inr ⟨now, target, frame, random, fault, rest, value, rfl, performed, challenges, ran⟩
        | closed => exact absurd ran ((closePeerOf_within ..).lacks (by simp))
        | errored => exact absurd ran ((closePeerOf_within ..).lacks (by simp))
    | resume now id random fault handler found quiet =>
        cases await : handler.await with
        | upgradeTag target =>
            simp only [await, continuation] at ran
            have kept := (finishUpgrade_admission _ _ _ _ _ _ _ ran).2
            rw [challenges] at kept
            exact .inl kept
        | proofSignature check =>
            simp only [await, continuation, finishProof] at ran
            split at ran
            · rcases List.mem_append.mp ran with bumped | admitted
              · exact absurd bumped ((bumpActivity_within ..).lacks (by simp))
              · rw [admit_admits admitted] at challenges
                cases challenges
            · simp [reject] at ran
        | _ =>
            have none_ := (continuation_attaches env now handler.ctx
              (state.wake id handler.await.drains) random id handler.await
              (by simp [await, Await.concerns]) (ws + 1)).only _ _ ran
            exact absurd none_ (by simp)
    | request now request random fault ctx resident =>
        exact absurd (List.mem_append_right _ (fits.each _ ran)) (request_plain env request).2
    | fire => exact absurd (fits.each _ ran) (by simp [footprint])
    | alarm => exact absurd (fits.each _ ran) (by simp [footprint])
    | drain => exact absurd (fits.each _ ran) (by simp [footprint])
    | _ => exact absurd ran List.not_mem_nil

theorem challenged_sent {ws : SocketId} {role : Role} {nonce : String} {yields : Bool}
    (challenged : (step env state event).admission ws = some (.challenged role nonce yields)) :
    state.admission ws = some (.challenged role nonce yields) ∨
      .send ws (.challenge nonce) ∈ acts env state event := by
  rcases challenged_from challenged with
    before | ⟨now, target, frame, random, fault, rest, value, rfl, performed, challenges, ran⟩
  · exact .inl before
  · right
    have whole : webSocketMessage env now ((state.pop target rest).home target)
        (state.pop target rest) state.nextId target random frame =
          [.attach ws value, .send ws (.challenge nonce)] :=
      webSocketMessage_challenges challenges ran
    rw [performed]
    simp [Turn.acts, taskTurn, whole, done, Script.done, Act.isStorage, Act.isThrow]

/-- The await at which the first part of an endpoint's handler ends. -/
def Await.begins : Await → Option Endpoint
  | .attestDigest _ => some .attest
  | .registerDigest _ => some .register
  | .deleteSignature _ => some .delete
  | _ => none

/-- The awaits at which the part after an await ends. -/
def Await.leads : Await → Await → Prop
  | .attestDigest call, .attestCheck next _ => next = call
  | .registerDigest call, .registerAssertion next => next = call
  | _, .attestDigest _ | _, .registerDigest _ | _, .proofSignature _ => False
  | _, .attestCheck _ _ | _, .registerAssertion _ => False
  | _, _ => True

theorem handleHttp_awaits {request : Request} {other : Nat} {await : Await}
    (member : .suspend other await ∈ handleHttp env now state id random request) :
    await = .responseTag ∨ await.begins = some request.endpoint := by
  have answers : ∀ {endpoint status body}, .suspend other await ∈ answer id endpoint status body →
      await = .responseTag := by
    simp [answer]
  cases request with
  | challenge =>
      left
      simp only [handleHttp, handleAttestChallenge, List.cons_append, List.mem_cons, reduceCtorEq,
        List.mem_append, List.mem_map, and_false, exists_false, false_or] at member
      split at member
      · exact answers member
      · rcases List.mem_cons.mp member with put | armed
        · cases put
        · rcases List.mem_append.mp armed with early | late
          · exact absurd early ((ensureAlarm_within ..).lacks (by simp))
          · exact answers late
  | attest body =>
      simp only [handleHttp, handleAttest] at member
      split at member
      · exact .inl (answers member)
      · split at member
        · exact .inl (answers member)
        · split at member
          · simp only [List.mem_cons, reduceCtorEq, false_or] at member
            split at member
            · simp only [List.mem_cons, reduceCtorEq, false_or] at member
              split at member
              · simp at member
              · obtain ⟨_, rfl⟩ : other = id ∧ await = _ := by simpa using member
                exact .inr rfl
            · exact .inl (answers member)
          · simp at member
          · exact .inl (answers member)
  | register body =>
      simp only [handleHttp, handleRegister] at member
      split at member
      · exact .inl (answers member)
      split at member
      · simp at member
      · simp at member
      · exact .inl (answers member)
      simp only [List.mem_cons, reduceCtorEq, false_or] at member
      split at member
      · exact .inl (answers member)
      split at member
      · exact .inl (answers member)
      simp only [List.mem_cons, reduceCtorEq, false_or] at member
      split at member
      · exact .inl (answers member)
      split at member
      · exact .inl (answers member)
      split at member
      · left
        rcases List.mem_append.mp member with early | late
        · rcases List.mem_append.mp early with written | bumped
          · simp at written
          · exact absurd bumped ((bumpActivity_within ..).lacks (by simp))
        · exact answers late
      split at member
      · exact .inl (answers member)
      split at member
      · simp only [List.mem_cons, reduceCtorEq, false_or] at member
        split at member
        · simp only [List.mem_cons, reduceCtorEq, false_or] at member
          split at member
          · simp at member
          · obtain ⟨_, rfl⟩ : other = id ∧ await = _ := by simpa using member
            exact .inr rfl
        · exact .inl (answers member)
      · exact .inl (answers member)
  | delete body =>
      simp only [handleHttp, handleDelete] at member
      split at member
      · exact .inl (answers member)
      · simp only [List.mem_cons, reduceCtorEq, false_or] at member
        split at member
        · exact .inl (answers member)
        · split at member
          · simp only [List.mem_cons, reduceCtorEq, false_or] at member
            split at member
            · simp only [List.mem_cons, reduceCtorEq, false_or] at member
              split at member
              · simp at member
              · obtain ⟨_, rfl⟩ : other = id ∧ await = _ := by simpa using member
                exact .inr rfl
            · exact .inl (answers member)
          · simp at member
          · exact .inl (answers member)
  | other => exact .inl (answers member)

theorem continuation_awaits {await next : Await} {other : Nat}
    (member : .suspend other next ∈ continuation env now ctx state random id await) :
    await.leads next := by
  have answers : ∀ {endpoint status body}, .suspend other next ∈ answer id endpoint status body →
      await.leads next := by
    intro endpoint status body inside
    obtain ⟨_, rfl⟩ : other = id ∧ next = .responseTag := by simpa [answer] using inside
    cases await <;> trivial
  cases await with
  | upgradeTag ws => exact absurd member ((finishUpgrade_within ..).lacks (by simp))
  | proofSignature check => exact absurd member ((finishProof_within ..).lacks (by simp))
  | attestDigest call =>
      obtain ⟨_, rfl⟩ : other = id ∧ next = _ := by simpa [continuation] using member
      rfl
  | attestCheck call since =>
      simp only [continuation, finishAttest] at member
      split at member
      · exact answers member
      · rcases List.mem_append.mp member with early | late
        · have plain : .suspend other next ∉ ensureAlarm now state :=
            (ensureAlarm_within ..).lacks (by simp)
          simp [plain] at early
        · exact answers late
  | registerDigest call =>
      obtain ⟨_, rfl⟩ : other = id ∧ next = _ := by simpa [continuation] using member
      rfl
  | registerAssertion call =>
      simp only [continuation, finishRegister] at member
      split at member
      · exact answers member
      · simp only [List.mem_cons, reduceCtorEq, false_or] at member
        split at member
        · simp only [List.cons_append, List.nil_append, List.mem_cons, reduceCtorEq,
            false_or] at member
          rcases List.mem_append.mp member with early | late
          · have plain : .suspend other next ∉ bumpActivity now state :=
              (bumpActivity_within ..).lacks (by simp)
            simp [plain] at early
          · exact answers late
        · exact answers member
  | deleteSignature call =>
      simp only [continuation, finishDelete] at member
      split at member
      · obtain ⟨_, rfl⟩ : other = id ∧ next = .deleteTag := by simpa using member
        trivial
      · exact answers member
  | deleteTag =>
      rcases List.mem_append.mp member with torn | late
      · exact absurd torn ((teardownRoom_within ..).lacks (by simp))
      · exact answers late
  | responseTag => simp [continuation] at member

theorem step_suspended {handler : Suspended} (waits : handler ∈ (step env state event).suspended) :
    handler ∈ state.suspended ∨ .suspend handler.id handler.await ∈ acts env state event := by
  rcases step_cases env state event with ⟨_, same⟩ | ⟨met, turns, performed, result⟩
  · rw [same] at waits
    exact .inl waits
  · rw [result, turns.result_suspended] at waits
    rcases List.mem_append.mp waits with old | fresh
    · left
      rcases turns.start_suspended with ⟨_, _, _, _, _, kept⟩ | ⟨_, gone⟩ | kept
      · rw [kept] at old
        exact (List.mem_filter.mp old).1
      · rw [gone] at old
        exact absurd old List.not_mem_nil
      · rwa [kept] at old
    · right
      obtain ⟨⟨id, await⟩, inside, rfl⟩ := List.mem_map.mp fresh
      rw [performed]
      exact suspend_of_pending inside

-- What may suspend: a request, a handler that goes on, an upgrade or a proof.
theorem suspend_cases {await : Await} (member : .suspend id await ∈ acts env state event) :
    (∃ now request random fault, event = .request now request random fault ∧
      (await = .responseTag ∨ await.begins = some request.endpoint)) ∨
    (∃ handler ∈ state.suspended, handler.await.leads await) ∨
    (∃ ws, await = .upgradeTag ws) ∨ ∃ check, await = .proofSignature check := by
  obtain ⟨met, turns, _, ran⟩ := mem_script member (by simp)
  cases turns with
  | request now request random fault ctx resident =>
      exact .inl ⟨now, request, random, fault, rfl, handleHttp_awaits ran⟩
  | resume now id random fault handler found quiet =>
      exact .inr (.inl ⟨handler, (mem_find found).1, continuation_awaits ran⟩)
  | connect now ws ctx resident unseen =>
      simp only [handleUpgrade, List.mem_cons, reduceCtorEq, Act.suspend.injEq, List.not_mem_nil,
        or_false, false_or] at ran
      exact .inr (.inr (.inl ⟨ws, ran.2⟩))
  | task now ws task rest drained free next =>
      cases task with
      | message frame random fault =>
          have inside : (id, await) ∈ pending (webSocketMessage env now (state.home ws)
              (state.pop ws rest) state.nextId ws random frame) :=
            List.mem_filterMap.mpr ⟨_, ran, rfl⟩
          rcases @webSocketMessage_rests state.nextId env now (state.home ws) (state.pop ws rest) ws
            random frame with none_ | ⟨check, _, _, one, _⟩
          · rw [none_] at inside
            exact absurd inside List.not_mem_nil
          · rw [one] at inside
            obtain ⟨_, rfl⟩ : id = state.nextId ∧ await = .proofSignature check := by
              simpa using inside
            exact .inr (.inr (.inr ⟨check, rfl⟩))
      | closed => exact absurd ran ((closePeerOf_within ..).lacks (by simp))
      | errored => exact absurd ran ((closePeerOf_within ..).lacks (by simp))
  | fire => exact absurd ran ((alarm_within ..).lacks (by simp))
  | alarm => exact absurd ran ((alarm_within ..).lacks (by simp))
  | drain => exact absurd ran ((closeAll_within ..).lacks (by simp))
  | _ => exact absurd ran List.not_mem_nil

end Sources

end Relay

import CompanionRelay.SoleProof

/-!
Calls that are refused. A handler of /attest, /register or /delete that does not grant what
it is asked for reads, spends at most the challenge that the body names, and ends in its
answer, in a throw or at an await; the handlers that write have passed every check.
-/

namespace Relay

section Statement
variable (env : Env)

/-- The challenge that a call names. -/
def Request.challenge? : Request → Option String
  | .attest (some body) | .register (some body) | .delete (some body) =>
      (body.readString "challenge").join
  | _ => none

/-- A call and what follows of its own handler: no other handler runs in between, and no
storage call throws. -/
def exchange (now : Nat) (request : Request) (random : Bytes) (id : Nat)
    (turns : List (Nat × Bytes)) : List Event :=
  .request now request random none :: turns.map fun turn => .resume turn.1 id turn.2 none

/-- The room is as it was, but for the challenge that the call has spent. -/
structure Untouched (now : Nat) (named : Option String) (state after : State) : Prop where
  store : after.store = state.store ∨ ∃ challenge, named = some challenge ∧
    liveChallenge now state challenge = true ∧
    after.store = state.store.delete (.challenge challenge)
  alarmRow : after.alarmRow = state.alarmRow
  timer : after.timer = state.timer
  sockets : after.sockets = state.sockets

/-- Some turn of the call answers it with a status other than 200. A handler that throws is
answered with 500. -/
def refuses (met : List (State × Event)) : Prop :=
  ∃ turn ∈ met, ∃ id endpoint status body,
    .reply id endpoint status body ∈ acts env turn.1 turn.2 ∧ status ≠ 200

def RefusedAtomic (events : List Event) : Prop :=
  ∀ now request random turns,
    request.endpoint = .attest ∨ request.endpoint = .register ∨ request.endpoint = .delete →
    let state := run env events
    let call := exchange now request random state.nextId turns
    refuses env (Machine.steps (step env) state call) →
      Untouched now request.challenge? state (Machine.run (step env) state call) ∧
        ∀ met ∈ Machine.steps (step env) state call, closes (acts env met.1 met.2) = []

end Statement

section Handlers
variable (env : Env) (id now : Nat) (state : State)

/-- The scripts of a handler that grants nothing. -/
inductive Refusing (named : Option String) : List Act → Prop
  | answers (endpoint : Endpoint) (status : Nat) (error : String)
      (refused : status = 400 ∨ status = 403) :
      Refusing named (answer id endpoint status (.error error))
  | throws : Refusing named [.throw]
  | waits (await : Await) (call : await.concerns = none) : Refusing named [.suspend id await]
  | reads {script : List Act} (rest : Refusing named script) : Refusing named (.get :: script)
  | spends {script : List Act} (challenge : String) (given : named = some challenge)
      (live : liveChallenge now state challenge = true) (rest : Refusing named script) :
      Refusing named (.delete (.challenge challenge) :: script)

@[simp] def grantVerbs : List Verb :=
  [.read, .putTicket, .putAssertCounter, .putRegistrantKeyId, .deleteRegToken, .putVerifier,
    .putLastActivity, .getAlarm, .setAlarm, .close, .deleteAll, .deleteAlarm]

/-- The scripts of a handler that grants the call and says so. -/
def Granting (script : List Act) : Prop :=
  ∃ lead endpoint body, script = lead ++ answer id endpoint 200 body ∧ Within grantVerbs lead

variable {id now state}

theorem handleAttest_refusing (body : Option Json) :
    Refusing id now state (Request.attest body).challenge? (handleAttest env now state id body) := by
  unfold handleAttest
  dsimp only
  split
  · exact .answers _ _ _ (by simp)
  · split
    · exact .answers _ _ _ (by simp)
    · rename_i json
      split
      · rename_i challenge object named attested
        have given : (Request.attest (some json)).challenge? = some challenge := by
          simp [Request.challenge?, named]
        apply Refusing.reads
        split
        · rename_i live
          apply Refusing.spends challenge given live
          split
          · exact .throws
          · exact .waits _ rfl
        · exact .answers _ _ _ (by simp)
      · exact .throws
      · exact .answers _ _ _ (by simp)

theorem handleDelete_refusing (body : Option Json) :
    Refusing id now state (Request.delete body).challenge? (handleDelete env now state id body) := by
  unfold handleDelete
  dsimp only
  split
  · exact .answers _ _ _ (by simp)
  · rename_i json
    apply Refusing.reads
    split
    · exact .answers _ _ _ (by simp)
    · split
      · rename_i challenge signature named signed
        have given : (Request.delete (some json)).challenge? = some challenge := by
          simp [Request.challenge?, named]
        apply Refusing.reads
        split
        · rename_i live
          apply Refusing.spends challenge given live
          split
          · exact .throws
          · exact .waits _ rfl
        · exact .answers _ _ _ (by simp)
      · exact .throws
      · exact .answers _ _ _ (by simp)

theorem writeVerifier_granting (token verifier : String) :
    Granting id (writeVerifier now state id token verifier) := by
  refine ⟨_, _, _, rfl, ?_⟩
  rw [Within.append_iff]
  exact ⟨by simp, (bumpActivity_within now state).mono (by simp)⟩

theorem Granting.cons {act : Act} {script : List Act} (plain : act.verb ∈ grantVerbs)
    (grants : Granting id script) : Granting id (act :: script) := by
  obtain ⟨lead, endpoint, body, rfl, others⟩ := grants
  exact ⟨act :: lead, endpoint, body, rfl, Within.cons_iff.mpr ⟨plain, others⟩⟩

-- Without attestation the verifier is written in the first part of the handler.
theorem handleRegister_outcome (body : Option Json) :
    Refusing id now state (Request.register body).challenge?
        (handleRegister env now state id body) ∨
      Granting id (handleRegister env now state id body) := by
  unfold handleRegister
  dsimp only
  split
  · exact .inl (.answers _ _ _ (by simp))
  · rename_i json
    split
    · exact .inl .throws
    · exact .inl .throws
    · exact .inl (.answers _ _ _ (by simp))
    · split
      · exact .inl (.reads (.answers _ _ _ (by simp)))
      · split
        · exact .inl (.reads (.answers _ _ _ (by simp)))
        · rename_i token
          split
          · exact .inl (.reads (.reads (.answers _ _ _ (by simp))))
          · split
            · exact .inl (.reads (.reads (.answers _ _ _ (by simp))))
            · split
              · refine .inr (.cons ?_ (.cons ?_ (writeVerifier_granting _ _))) <;> simp
              · left
                apply Refusing.reads
                apply Refusing.reads
                split
                · exact .answers _ _ _ (by simp)
                · split
                  · rename_i challenge assertion named asserted
                    have given : (Request.register (some json)).challenge? = some challenge := by
                      simp [Request.challenge?, named]
                    apply Refusing.reads
                    split
                    · rename_i live
                      apply Refusing.spends challenge given live
                      split
                      · exact .throws
                      · exact .waits _ rfl
                    · exact .answers _ _ _ (by simp)
                  · exact .answers _ _ _ (by simp)

theorem handleHttp_outcome (id now : Nat) (state : State) (random : Bytes) (request : Request)
    (asked : request.endpoint = .attest ∨ request.endpoint = .register ∨
      request.endpoint = .delete) :
    Refusing id now state request.challenge? (handleHttp env now state id random request) ∨
      Granting id (handleHttp env now state id random request) := by
  cases request with
  | attest body => exact .inl (handleAttest_refusing env body)
  | register body => exact handleRegister_outcome env body
  | delete body => exact .inl (handleDelete_refusing env body)
  | _ => simp [Request.endpoint] at asked

theorem continuation_outcome (id now : Nat) (state : State) (ctx : ContextId) (random : Bytes) (await : Await)
    (call : await.concerns = none) (open_ : await ≠ .responseTag) :
    Refusing id now state none (continuation env now ctx state random id await) ∨
      Granting id (continuation env now ctx state random id await) := by
  cases await with
  | upgradeTag ws => simp [Await.concerns] at call
  | proofSignature check => simp [Await.concerns] at call
  | responseTag => exact absurd rfl open_
  | attestDigest call => exact .inl (.waits _ rfl)
  | registerDigest call => exact .inl (.waits _ rfl)
  | attestCheck call since =>
      simp only [continuation, finishAttest]
      split
      · exact .inl (.answers _ _ _ (by simp))
      · right
        refine ⟨_ :: ensureAlarm now state, _, _, rfl, ?_⟩
        rw [Within.cons_iff]
        exact ⟨by simp, (ensureAlarm_within now state).mono (by simp)⟩
  | registerAssertion call =>
      simp only [continuation, finishRegister]
      split
      · exact .inl (.answers _ _ _ (by simp))
      · split
        · right
          refine .cons ?_ (.cons ?_ (.cons ?_ (writeVerifier_granting _ _))) <;> simp
        · exact .inl (.reads (.answers _ _ _ (by simp)))
  | deleteSignature call =>
      simp only [continuation, finishDelete]
      split
      · exact .inl (.waits _ rfl)
      · exact .inl (.answers _ _ _ (by simp))
  | deleteTag =>
      right
      exact ⟨_, _, _, rfl, (teardownRoom_within ctx state _).mono (by simp)⟩

end Handlers

section Turn
variable {id now : Nat} {state : State} {named : Option String} {script : List Act} {met : Turn}

/-- How a handler that grants nothing ends its turn. -/
inductive Ending (id : Nat) : List Act → Prop
  | answered (endpoint : Endpoint) (status : Nat) (error : String) :
      Ending id (answer id endpoint status (.error error))
  | caught (endpoint : Endpoint) (status : Nat) (error : String) :
      Ending id [.reply id endpoint status (.error error)]
  | waiting (await : Await) (call : await.concerns = none) : Ending id [.suspend id await]

/-- The acts of a turn that grants nothing. -/
structure Declines (id now : Nat) (state : State) (named : Option String) (acts : List Act) :
    Prop where
  shape : ∃ lead ending, acts = lead ++ ending ∧ Within [.read, .deleteChallenge] lead ∧
    Ending id ending
  spends : ∀ key, .delete key ∈ acts → ∃ challenge, named = some challenge ∧
    liveChallenge now state challenge = true ∧ key = .challenge challenge

theorem Refusing.shape (refusing : Refusing id now state named script) :
    ∃ lead tail, script = lead ++ tail ∧ Within [.read, .deleteChallenge] lead ∧
      (∀ key, .delete key ∈ lead → ∃ challenge, named = some challenge ∧
        liveChallenge now state challenge = true ∧ key = .challenge challenge) ∧
      (tail = [.throw] ∨ Ending id tail) := by
  induction refusing with
  | answers endpoint status error refused =>
      exact ⟨[], _, rfl, .nil, by simp, .inr (.answered endpoint status error)⟩
  | throws => exact ⟨[], _, rfl, .nil, by simp, .inl rfl⟩
  | waits await call => exact ⟨[], _, rfl, .nil, by simp, .inr (.waiting await call)⟩
  | reads rest ih =>
      obtain ⟨lead, tail, rfl, fits, spends, ends⟩ := ih
      refine ⟨.get :: lead, tail, rfl, Within.cons_iff.mpr ⟨by simp, fits⟩, fun key member => ?_, ends⟩
      exact spends key (by simpa using member)
  | spends challenge given live rest ih =>
      obtain ⟨lead, tail, rfl, fits, spends, ends⟩ := ih
      refine ⟨.delete (.challenge challenge) :: lead, tail, rfl,
        Within.cons_iff.mpr ⟨by simp, fits⟩, fun key member => ?_, ends⟩
      rcases List.mem_cons.mp member with same | later
      · exact ⟨challenge, given, live, Act.delete.inj same⟩
      · exact spends key later

theorem Turn.acts_unfaulted {lead tail : List Act} (unfaulted : met.fault = none)
    (shape : met.script = lead ++ tail) (calm : ∀ act ∈ lead, act.isThrow = false) :
    met.acts = lead ++ (done none tail ++ if threw none tail then met.onThrow else []) := by
  obtain ⟨performed, thrown⟩ := Script.done_unfaulted Act.isStorage Act.isThrow lead tail calm
  unfold Turn.acts done threw
  rw [unfaulted, shape, performed, thrown, List.append_assoc]

theorem Refusing.declines {endpoint : Endpoint} {error : String} (unfaulted : met.fault = none)
    (refusing : Refusing id now state named met.script)
    (caught : met.onThrow = [.reply id endpoint 500 (.error error)]) :
    Declines id now state named met.acts := by
  obtain ⟨lead, tail, shape, fits, spends, ends⟩ := refusing.shape
  have performed := Turn.acts_unfaulted unfaulted shape (fits.calm (by simp))
  have whole : ∃ ending, met.acts = lead ++ ending ∧ Ending id ending := by
    rcases ends with rfl | ends
    · refine ⟨_, performed, ?_⟩
      rw [caught]
      exact .caught endpoint 500 error
    · refine ⟨_, performed, ?_⟩
      cases ends with
      | answered endpoint status error => exact .answered endpoint status error
      | caught endpoint status error => exact .caught endpoint status error
      | waiting await call => exact .waiting await call
  obtain ⟨ending, whole, ends⟩ := whole
  refine ⟨⟨lead, ending, whole, fits, ends⟩, fun key member => ?_⟩
  rw [whole] at member
  rcases List.mem_append.mp member with early | late
  · exact spends key early
  · cases ends <;> simp [answer] at late

theorem Granting.grants (unfaulted : met.fault = none) (grants : Granting id met.script) :
    ∃ lead endpoint body, met.acts = lead ++ answer id endpoint 200 body ∧
      Within grantVerbs lead := by
  obtain ⟨lead, endpoint, body, shape, fits⟩ := grants
  exact ⟨lead, endpoint, body, Turn.acts_unfaulted unfaulted shape (fits.calm (by simp)), fits⟩

end Turn

section Declined
variable {env : Env} {id now : Nat} {state : State} {named : Option String} {script : List Act}

theorem Declines.within (declines : Declines id now state named script) :
    Within [.read, .deleteChallenge, .reply, .suspend] script := by
  obtain ⟨lead, ending, rfl, fits, ends⟩ := declines.shape
  refine Within.append_iff.mpr ⟨fits.mono (by simp), ?_⟩
  cases ends <;> simp [answer]

theorem erase_again {Rec : Type} (table : Table Rec) (key : String) :
    (table.erase key).erase key = table.erase key :=
  AList.ext (List.kerase_of_notMem_keys (List.notMem_keys_kerase key table.nodupKeys))

theorem store_spent (store : Store) {challenge : String}
    (fits : Within [.read, .deleteChallenge, .reply, .suspend] script)
    (one : ∀ key, .delete key ∈ script → key = .challenge challenge) :
    script.foldl Store.after store = store ∨ .delete (.challenge challenge) ∈ script ∧
      script.foldl Store.after store = store.delete (.challenge challenge) := by
  induction script generalizing store with
  | nil => exact .inl rfl
  | cons act rest ih =>
      rw [Within.cons_iff] at fits
      have later := ih (store.after act) fits.2
        fun key member => one key (List.mem_cons_of_mem act member)
      rw [List.foldl_cons]
      cases act with
      | delete key =>
          obtain rfl := one key (by simp)
          refine .inr ⟨by simp, ?_⟩
          rcases later with same | ⟨_, same⟩
          · exact same
          · rw [same]
            simp only [Store.after, Store.delete, erase_again]
      | put row => cases row <;> simp at fits
      | deleteAll => simp at fits
      | _ => exact later.imp_right fun spent => ⟨List.mem_cons_of_mem _ spent.1, spent.2⟩

theorem Declines.store (declines : Declines id now state named script) (store : Store) :
    script.foldl Store.after store = store ∨ ∃ challenge, named = some challenge ∧
      liveChallenge now state challenge = true ∧
      script.foldl Store.after store = store.delete (.challenge challenge) := by
  have one : ∀ key, .delete key ∈ script → key = .challenge (named.getD "") := by
    intro key member
    obtain ⟨challenge, given, _, same⟩ := declines.spends key member
    rw [given]
    exact same
  rcases store_spent store declines.within one with same | ⟨member, same⟩
  · exact .inl same
  · obtain ⟨challenge, given, live, _⟩ := declines.spends _ member
    rw [given] at same
    exact .inr ⟨challenge, given, live, same⟩

theorem replay_timer_kept {verbs : List Verb} (ctx : ContextId) (start : State)
    (fits : Within verbs script)
    (apart : Verb.setAlarm ∉ verbs ∧ Verb.deleteAlarm ∉ verbs ∧ Verb.rearm ∉ verbs) :
    (replay ctx start script).timer = start.timer := by
  refine Script.replay_keeps (perform ctx) State.timer script (fun act member other => ?_) start
  cases act with
  | setAlarm at_ => exact absurd member (fits.lacks apart.1)
  | deleteAlarm => exact absurd member (fits.lacks apart.2.1)
  | rearm at_ => exact absurd member (fits.lacks apart.2.2)
  | _ => rfl

-- A turn that declines leaves the room as it was, but for the challenge.
theorem Turns.untouched {event : Event} {met : Turn} (turns : Turns env state event met)
    (fits : Within [.read, .deleteChallenge, .reply, .suspend] met.acts)
    (store : ∀ store, met.acts.foldl Store.after store = store ∨ ∃ challenge,
      named = some challenge ∧ liveChallenge now met.start challenge = true ∧
      met.acts.foldl Store.after store = store.delete (.challenge challenge))
    (timer : met.start.timer = state.timer) (sockets : met.start.sockets = state.sockets) :
    Untouched now named state met.result := by
  have finish : met.result.timer = (replay met.ctx met.start met.acts).timer ∧
      met.result.store = (replay met.ctx met.start met.acts).store ∧
      met.result.alarmRow = (replay met.ctx met.start met.acts).alarmRow := by
    unfold Turn.result
    rcases turns.finish_keeps (replay met.ctx met.start met.acts) with same | evicted
    · rw [same]
      exact ⟨rfl, rfl, rfl⟩
    · rw [evicted, maybe_evict_store, maybe_evict_alarm_row, maybe_evict_live]
      exact ⟨rfl, rfl, rfl⟩
  constructor
  · have live : ∀ challenge, liveChallenge now met.start challenge =
        liveChallenge now state challenge := by
      intro challenge
      rw [liveChallenge, liveChallenge, turns.start_keeps.1]
    rw [finish.2.1, Script.replay_part (perform met.ctx) State.store Store.after
      (perform_store met.ctx), turns.start_keeps.1]
    simpa only [live] using store state.store
  · rw [finish.2.2, replay_alarm_row_kept fits (by simp), turns.start_keeps.2.1]
  · rw [finish.1, replay_timer_kept met.ctx met.start fits (by simp), timer]
  · rw [turns.result_sockets.1, replay_sockets_kept met.ctx met.start fits (by simp), sockets]

end Declined

section Exchange
variable {env : Env} {id now : Nat} {start state : State} {event : Event} {named : Option String}

/-- The handler of the call, while it waits. -/
def Own (id : Nat) (state : State) (waits : Await → Prop) : Prop :=
  ∀ handler ∈ state.suspended, handler.id = id → waits handler.await

/-- How far a call has come: it has changed nothing, and is open or has been refused; or it has
been granted, and then only its log tag is left. -/
structure Underway (env : Env) (id now : Nat) (named : Option String) (start : State)
    (past : List (State × Event)) (state : State) : Prop where
  call : Own id state fun await => await.concerns = none
  outcome :
    (Untouched now named start state ∧ (∀ met ∈ past, closes (acts env met.1 met.2) = []) ∧
      (¬ refuses env past ∨ Own id state fun await => await = .responseTag)) ∨
    (¬ refuses env past ∧ Own id state fun await => await = .responseTag)

theorem Untouched.refl (now : Nat) (named : Option String) (state : State) :
    Untouched now named state state :=
  ⟨.inl rfl, rfl, rfl, rfl⟩

theorem Untouched.trans {later : Nat} {middle after : State}
    (first : Untouched now named start middle) (second : Untouched later none middle after) :
    Untouched now named start after := by
  have store : after.store = middle.store := by
    rcases second.store with same | ⟨challenge, given, _⟩
    · exact same
    · simp at given
  exact ⟨by rw [store]; exact first.store, second.alarmRow.trans first.alarmRow,
    second.timer.trans first.timer, second.sockets.trans first.sockets⟩

theorem refuses_append {past : List (State × Event)} :
    refuses env (past ++ [(state, event)]) ↔ refuses env past ∨ ∃ id endpoint status body,
      .reply id endpoint status body ∈ acts env state event ∧ status ≠ 200 := by
  simp [refuses, or_and_right, exists_or]

theorem own_after {met : Turn} {waits : Await → Prop} (turns : Turns env state event met)
    (fresh : ∀ handler ∈ met.start.suspended, handler.id ≠ id)
    (new : ∀ await, (id, await) ∈ pending met.acts → waits await) : Own id met.result waits := by
  intro handler member numbered
  rw [turns.result_suspended] at member
  rcases List.mem_append.mp member with old | later
  · exact absurd numbered (fresh handler old)
  · obtain ⟨⟨number, await⟩, inside, rfl⟩ := List.mem_map.mp later
    obtain rfl : number = id := numbered
    exact new await inside

theorem Underway.declined {past : List (State × Event)} {met : Turn} {later : Nat}
    {seen : State} {given : Option String} (turns : Turns env state event met)
    (performed : acts env state event = met.acts) (open_ : ¬ refuses env past)
    (quiet : ∀ met ∈ past, closes (acts env met.1 met.2) = [])
    (fresh : ∀ handler ∈ met.start.suspended, handler.id ≠ id)
    (declines : Declines id later seen given met.acts)
    (untouched : Untouched now named start met.result) :
    Underway env id now named start (past ++ [(state, event)]) met.result := by
  obtain ⟨lead, ending, whole, fits, ends⟩ := declines.shape
  have tail : pending met.acts = pending ending := by
    rw [whole, pending_append, fits.pending_nil (by simp), List.nil_append]
  have closed : ∀ met ∈ past ++ [(state, event)], closes (acts env met.1 met.2) = [] := by
    intro other member
    rcases List.mem_append.mp member with before | last
    · exact quiet other before
    · obtain rfl := List.mem_singleton.mp last
      rw [performed]
      exact declines.within.closes_nil (by simp)
  cases ends with
  | answered endpoint status error =>
      refine ⟨own_after turns fresh ?_, .inl ⟨untouched, closed, .inr (own_after turns fresh ?_)⟩⟩
      · intro await member
        rw [tail] at member
        obtain rfl : .responseTag = await := by
          simpa [answer, pending, Act.pending, eq_comm] using member
        rfl
      · intro await member
        rw [tail] at member
        simpa [answer, pending, Act.pending, eq_comm] using member
  | caught endpoint status error =>
      have none_ : ∀ await, (id, await) ∉ pending met.acts := fun await member => by
        rw [tail] at member
        simp [pending, Act.pending] at member
      exact ⟨own_after turns fresh fun await member => absurd member (none_ await),
        .inl ⟨untouched, closed,
          .inr (own_after turns fresh fun await member => absurd member (none_ await))⟩⟩
  | waiting await call =>
      refine ⟨own_after turns fresh ?_, .inl ⟨untouched, closed, .inl ?_⟩⟩
      · intro other member
        rw [tail] at member
        obtain rfl : other = await := by simpa using member
        exact call
      · rw [refuses_append]
        rintro (before | ⟨number, endpoint, status, body, member, _⟩)
        · exact open_ before
        · rw [performed, whole] at member
          rcases List.mem_append.mp member with early | late
          · exact absurd (fits.each _ early) (by simp; split <;> simp)
          · simp at late

theorem Underway.granted {past : List (State × Event)} {met : Turn}
    (turns : Turns env state event met) (performed : acts env state event = met.acts)
    (open_ : ¬ refuses env past) (fresh : ∀ handler ∈ met.start.suspended, handler.id ≠ id)
    (grants : ∃ lead endpoint body, met.acts = lead ++ answer id endpoint 200 body ∧
      Within grantVerbs lead) :
    Underway env id now named start (past ++ [(state, event)]) met.result := by
  obtain ⟨lead, endpoint, body, whole, fits⟩ := grants
  have last : ∀ await, (id, await) ∈ pending met.acts → await = .responseTag := by
    intro await member
    rw [whole, pending_append, fits.pending_nil (by simp), List.nil_append] at member
    simpa [answer, pending, Act.pending, eq_comm] using member
  refine ⟨own_after turns fresh fun await member => by rw [last await member]; rfl,
    .inr ⟨?_, own_after turns fresh last⟩⟩
  rw [refuses_append]
  rintro (before | ⟨number, target, status, text, member, wrong⟩)
  · exact open_ before
  · rw [performed, whole] at member
    rcases List.mem_append.mp member with early | late
    · exact absurd (fits.each _ early) (by simp; split <;> simp)
    · have same : status = 200 := by
        simp only [answer, List.mem_cons, Act.reply.injEq, reduceCtorEq, List.not_mem_nil,
          or_false] at late
        exact late.2.2.1
      exact wrong same

theorem Underway.silent {past : List (State × Event)} {after : State}
    (underway : Underway env id now named start past state) (none_ : acts env state event = [])
    (suspended : after.suspended ⊆ state.suspended) (untouched : Untouched 0 none state after) :
    Underway env id now named start (past ++ [(state, event)]) after := by
  have same : refuses env (past ++ [(state, event)]) ↔ refuses env past := by
    simp [refuses_append, none_]
  refine ⟨fun handler member => underway.call handler (suspended member), ?_⟩
  rw [same]
  rcases underway.outcome with ⟨before, quiet, stage⟩ | ⟨open_, ends⟩
  · refine .inl ⟨before.trans untouched, ?_, stage.imp_right fun ends handler member =>
      ends handler (suspended member)⟩
    intro met member
    rcases List.mem_append.mp member with early | last
    · exact quiet met early
    · obtain rfl := List.mem_singleton.mp last
      simp [none_]
  · exact .inr ⟨open_, fun handler member => ends handler (suspended member)⟩

theorem Underway.asked (wired : Wired env start) {request : Request} {random : Bytes}
    (asked : request.endpoint = .attest ∨ request.endpoint = .register ∨
      request.endpoint = .delete) :
    Underway env start.nextId now request.challenge? start
      [(start, .request now request random none)]
      (step env start (.request now request random none)) := by
  have unseen : ∀ handler ∈ start.suspended, handler.id ≠ start.nextId := fun handler member =>
    Nat.ne_of_lt (wired.numbered handler member)
  have before : ¬ refuses env [] := by simp [refuses]
  rcases step_met env start (.request now request random none) with
    ⟨none_, same⟩ | ⟨met, turns, _, performed, result⟩
  · have initially : Underway env start.nextId now request.challenge? start [] start :=
      ⟨fun handler member numbered => absurd numbered (unseen handler member),
        .inl ⟨Untouched.refl _ _ _, by simp, .inl before⟩⟩
    rw [same]
    exact initially.silent none_ (List.Subset.refl _) (Untouched.refl _ _ _)
  · rw [result]
    have facts : met.fault = none ∧ met.start = start.enter ∧
        met.script = handleHttp env now start.enter start.nextId random request ∧
        met.onThrow = [.reply start.nextId request.endpoint 500 (.error "internal error")] := by
      cases turns with
      | request => exact ⟨rfl, rfl, rfl, rfl⟩
    obtain ⟨unfaulted, from_, script, caught⟩ := facts
    have fresh : ∀ handler ∈ met.start.suspended, handler.id ≠ start.nextId := by
      rw [from_]
      exact unseen
    rcases handleHttp_outcome env start.nextId now start.enter random
      request asked with refusing | granting
    · rw [← script] at refusing
      have declines := refusing.declines unfaulted caught
      exact Underway.declined turns performed before (by simp) fresh declines
        (turns.untouched declines.within (by rw [from_]; exact declines.store)
          (by rw [from_]; rfl) (by rw [from_]; rfl))
    · rw [← script] at granting
      exact Underway.granted turns performed before fresh (granting.grants unfaulted)

theorem Underway.resumed {past : List (State × Event)} {later : Nat} {random : Bytes}
    (underway : Underway env id now named start past state) :
    Underway env id now named start (past ++ [(state, .resume later id random none)])
      (step env state (.resume later id random none)) := by
  rcases step_met env state (.resume later id random none) with
    ⟨none_, same⟩ | ⟨met, turns, _, performed, result⟩
  · rw [same]
    exact underway.silent none_ (List.Subset.refl _) (Untouched.refl _ _ _)
  · rw [result]
    have facts : ∃ handler ∈ state.suspended, handler.id = id ∧ met.fault = none ∧
        met.start = state.wake id handler.await.drains ∧
        met.script = continuation env later handler.ctx met.start random id handler.await ∧
        met.onThrow = handler.await.onThrow id := by
      cases turns with
      | resume _ _ _ _ handler found quiet =>
          obtain ⟨member, numbered⟩ := mem_find found
          exact ⟨handler, member, numbered, rfl, rfl, rfl, rfl⟩
    obtain ⟨handler, member, numbered, unfaulted, from_, script, caught⟩ := facts
    have fresh : ∀ other ∈ met.start.suspended, other.id ≠ id := by
      rw [from_]
      intro other inside
      simpa using (List.mem_filter.mp inside).2
    have kept : met.start.timer = state.timer ∧ met.start.sockets = state.sockets := by
      rw [from_]
      exact ⟨rfl, rfl⟩
    have call := underway.call handler member numbered
    by_cases ends : handler.await = .responseTag
    · have none_ : met.acts = [] := by
        have shape : met.script = [] ++ [] := by
          rw [script, ends]
          rfl
        rw [Turn.acts_unfaulted unfaulted shape (by simp)]
        rfl
      have suspended : met.result.suspended ⊆ state.suspended := by
        rw [turns.result_suspended, none_, from_]
        simp [State.wake]
      exact underway.silent (performed.trans none_) suspended (turns.untouched
        (by rw [none_]; exact .nil) (fun store => .inl (by rw [none_]; rfl)) kept.1 kept.2)
    · have open_ : ¬ refuses env past := by
        rcases underway.outcome with ⟨_, _, open_ | settled⟩ | ⟨open_, _⟩
        · exact open_
        · exact absurd (settled handler member numbered) ends
        · exact open_
      have before : Untouched now named start state ∧
          ∀ met ∈ past, closes (acts env met.1 met.2) = [] := by
        rcases underway.outcome with ⟨untouched, quiet, _⟩ | ⟨_, settled⟩
        · exact ⟨untouched, quiet⟩
        · exact absurd (settled handler member numbered) ends
      obtain ⟨endpoint, error, answers⟩ : ∃ endpoint error,
          handler.await.onThrow id = [.reply id endpoint 500 (.error error)] := by
        cases await : handler.await <;> simp_all [Await.onThrow, Await.concerns]
      rcases continuation_outcome env id later met.start handler.ctx
        random handler.await call ends with refusing | granting
      · rw [← script] at refusing
        have declines := refusing.declines unfaulted (caught.trans answers)
        exact Underway.declined turns performed open_ before.2 fresh declines
          (before.1.trans (turns.untouched declines.within declines.store kept.1 kept.2))
      · rw [← script] at granting
        exact Underway.granted turns performed open_ fresh (granting.grants unfaulted)

end Exchange

/-- In every state of a run, a call to /attest, /register or /delete that is not answered with
200 leaves the room as it was, but for the challenge that it names. -/
theorem refused_atomic (env : Env) (events : List Event) : RefusedAtomic env events := by
  intro now request random turns asked state call refused
  have wired := wired_run env events
  have ends : Underway env state.nextId now request.challenge? state
      (Machine.steps (step env) state call) (Machine.run (step env) state call) := by
    refine Machine.history_invariant (step env)
      (Underway env state.nextId now request.challenge? state)
      (fun _ _ event => ∃ later random, event = .resume later state.nextId random none)
      ?_ [(state, .request now request random none)] _ (Underway.asked wired asked) _ ?_
    · rintro past reached _ underway ⟨later, random, rfl⟩
      exact underway.resumed
    · intro before met after split
      obtain ⟨earlier, others, whole, _⟩ := Machine.steps_split (step env) _ _ before after met split
      obtain ⟨turn, _, same⟩ := List.mem_map.mp
        (whole ▸ List.mem_append_right earlier (List.mem_cons_self ..))
      exact ⟨turn.1, turn.2, same.symm⟩
  rcases ends.outcome with ⟨untouched, quiet, _⟩ | ⟨open_, _⟩
  · exact ⟨untouched, quiet⟩
  · exact absurd refused open_

end Relay

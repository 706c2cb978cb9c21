import CompanionRelay.Closing

/-!
How handlers keep the alarm. Apart from alarm() itself a script is made of acts that
have nothing to do with the alarm, of calls of ensureAlarm, some of them after the
rows they are made for, and of the wipe of a context without sockets. An invariant
about rows, alarm row and timers is then a matter of these three.
-/

namespace Relay

/-- Date.now() in the turn of an event. -/
def Event.now : Event → Nat
  | .get now | .connect now _ | .run now | .resume now _ _ _ | .request now _ _ _
  | .fire now _ _ | .alarm now _ | .restart now => now
  | .chunk _ _ _ | .ended _ | .drain => 0

/-- The kinds of act that concern the alarm or the rows it is there for. -/
@[simp] def housekeptVerbs : List Verb :=
  [.getAlarm, .setAlarm, .deleteAlarm, .deleteAll, .rearm, .accept, .putVerifier,
    .putLastActivity, .putTicket, .putRegToken, .putChallenge]

def Row.ephemeral : Row → Bool
  | .ticket _ _ | .regToken _ _ | .challenge _ _ => true
  | _ => false

/-- The rows that are stored right before a call of ensureAlarm. -/
inductive Stored (now : Nat) : List Row → Prop
  | nothing : Stored now []
  | record (row : Row) (ephemeral : row.ephemeral = true) : Stored now [row]
  | activity : Stored now [.lastActivity now]
  | registration (verifier : String) : Stored now [.verifier verifier, .lastActivity now]

/-- Rows stored and the call of ensureAlarm made for them. -/
def armed (now : Nat) (state : State) (rows : List Row) : List Act :=
  rows.map Act.put ++ ensureAlarm now state

/-- The scripts of the handlers other than alarm(). -/
inductive Housekept (now : Nat) (ctx : ContextId) : State → List Act → Prop
  | nil (state : State) : Housekept now ctx state []
  | plain {state : State} {act : Act} {rest : List Act} (plain : act.verb ∉ housekeptVerbs)
      (tail : Housekept now ctx (perform ctx state act) rest) :
      Housekept now ctx state (act :: rest)
  | armed {state : State} {rows : List Row} {rest : List Act} (stored : Stored now rows)
      (tail : Housekept now ctx (replay ctx state (armed now state rows)) rest) :
      Housekept now ctx state (armed now state rows ++ rest)
  | wipe {state : State} {rest : List Act} (empty : state.sockets ctx = [])
      (tail : Housekept now ctx (replay ctx state [.deleteAll, .deleteAlarm]) rest) :
      Housekept now ctx state (.deleteAll :: .deleteAlarm :: rest)

section Scripts
variable {now : Nat} {ctx : ContextId} {state : State} {first second script : List Act}

theorem Housekept.append (head : Housekept now ctx state first)
    (tail : Housekept now ctx (replay ctx state first) second) :
    Housekept now ctx state (first ++ second) := by
  induction head with
  | nil state => exact tail
  | plain plain _ ih => exact .plain plain (ih tail)
  | armed stored _ ih =>
      rw [replay_append] at tail
      rw [List.append_assoc]
      exact .armed stored (ih tail)
  | wipe empty _ ih => exact .wipe empty (ih tail)

theorem Within.housekept {verbs : List Verb} (fits : Within verbs script)
    (apart : ∀ verb ∈ verbs, verb ∉ housekeptVerbs) : Housekept now ctx state script := by
  induction script generalizing state with
  | nil => exact .nil state
  | cons act rest ih =>
      rw [Within.cons_iff] at fits
      exact .plain (apart _ fits.1) (ih fits.2)

theorem ensureAlarm_eq (now : Nat) {first second : State}
    (same : first.alarmRow = second.alarmRow) : ensureAlarm now first = ensureAlarm now second := by
  simp only [ensureAlarm, same]

theorem replay_alarm_row_kept {verbs : List Verb} (fits : Within verbs script)
    (apart : Verb.setAlarm ∉ verbs ∧ Verb.deleteAlarm ∉ verbs) :
    (replay ctx state script).alarmRow = state.alarmRow := by
  apply Script.replay_keeps (perform ctx) State.alarmRow script
  intro act member other
  have verb := fits.each act member
  cases act with
  | setAlarm at_ => exact absurd verb apart.1
  | deleteAlarm => exact absurd verb apart.2
  | _ => rfl

theorem Housekept.calls {rows : List Row} {other : State} (stored : Stored now rows)
    (same : other.alarmRow = state.alarmRow) :
    Housekept now ctx state (rows.map Act.put ++ ensureAlarm now other) := by
  rw [ensureAlarm_eq now same]
  have whole : Housekept now ctx state (Relay.armed now state rows ++ []) := .armed stored (.nil _)
  rw [List.append_nil] at whole
  exact whole

theorem Housekept.teardown {other : State} (reason : String)
    (sockets : other.sockets ctx = state.sockets ctx)
    (anchored : ∀ ws ∈ state.sockets ctx, state.home ws = ctx) :
    Housekept now ctx state (teardownRoom ctx other reason) := by
  rw [teardownRoom_eq ctx other state reason sockets]
  have closing := closeAll_within ctx state 1000 reason
  apply Housekept.append (closing.housekept (by simp))
  apply Housekept.wipe _ (.nil _)
  rw [List.eq_nil_iff_forall_not_mem]
  intro ws routed
  obtain ⟨there, open_⟩ := (mem_replay_sockets ctx state _ (fun _ => closing.lacks (by simp))
    ctx ws).mp routed
  exact open_ ⟨anchored ws there, mem_closeAll.mpr there⟩

theorem Housekept.storing (now : Nat) (ctx : ContextId) (state other : State) {before after : List Verb}
    {rows : List Row} (head : Within before first) (apart : ∀ verb ∈ before, verb ∉ housekeptVerbs)
    (stored : Stored now rows) (same : other.alarmRow = state.alarmRow)
    (tail : Within after second) (clear : ∀ verb ∈ after, verb ∉ housekeptVerbs) :
    Housekept now ctx state (first ++ (rows.map Act.put ++ ensureAlarm now other) ++ second) := by
  apply Housekept.append _ (tail.housekept clear)
  apply Housekept.append (head.housekept apart)
  apply Housekept.calls stored
  rw [same, replay_alarm_row_kept head]
  exact ⟨fun member => apart _ member (by simp), fun member => apart _ member (by simp)⟩

end Scripts

section Handlers
variable (env : Env) (now : Nat) (ctx : ContextId) (state : State)

theorem bumpActivity_housekept : Housekept now ctx state (bumpActivity now state) :=
  .calls .activity rfl

theorem finishUpgrade_housekept (ws : SocketId) :
    Housekept now ctx state (finishUpgrade env now ctx state ws) := by
  have head : Within [.attach, .close] (backfillTag env state ws ++ evictExcessPreAuth ctx state) :=
    Within.append_iff.mpr ⟨(backfillTag_within env state ws).mono (by simp),
      (evictExcessPreAuth_within ctx state).mono (by simp)⟩
  have whole := Housekept.storing now ctx state state head (by simp) .nothing rfl
    (Within.nil : Within [] []) (by simp)
  rw [List.append_nil] at whole
  exact whole

theorem handleAttestChallenge_housekept (reqId : Nat) (random : Bytes) :
    Housekept now ctx state (handleAttestChallenge now state reqId random) := by
  unfold handleAttestChallenge
  have head : Within [.read, .deleteChallenge] (.list ::
      (expired now id state.store.challenges).map (.delete <| .challenge ·)) :=
    Within.cons_iff.mpr ⟨by simp, Within.map_of (by simp)⟩
  split
  · apply Housekept.append (head.housekept (by simp))
    exact (answer_within ..).housekept (by simp)
  · have whole := Housekept.storing now ctx state state head (by simp)
      (.record (.challenge (b64 random) (now + attestChallengeTtlMs)) rfl) rfl
      (answer_within reqId .challenge 200 (.challenge (b64 random))) (by simp)
    simpa using whole

theorem finishAttest_housekept (id : Nat) (random : Bytes) (call : AttestCall) (since : Nat) :
    Housekept now ctx state (finishAttest env now state id random call since) := by
  unfold finishAttest
  split
  · exact (answer_within ..).housekept (by simp)
  · rename_i keyId publicKeyRaw _
    have whole := Housekept.storing now ctx state state (Within.nil : Within [] []) (by simp)
      (.record (.ticket (b64 random) ⟨now + ticketTtlMs, b64 keyId, b64 publicKeyRaw⟩) rfl) rfl
      (answer_within id .attest 200 (.ticket (b64 random))) (by simp)
    simpa using whole

theorem writeVerifier_housekept (id : Nat) (token verifier : String) :
    Housekept now ctx state (writeVerifier now state id token verifier) := by
  have whole := Housekept.storing now ctx state state
    (by simp : Within [.deleteRegToken] [.delete (.regToken token)]) (by simp)
    (.registration verifier) rfl (answer_within id .register 200 .ok) (by simp)
  simpa [writeVerifier, bumpActivity] using whole

theorem handleRegister_housekept (id : Nat) (body : Option Json) :
    Housekept now ctx state (handleRegister env now state id body) := by
  have refused : ∀ status message,
      Housekept now ctx state (answer id .register status (.error message)) :=
    fun status message => (answer_within ..).housekept (by simp)
  have plain : ∀ {act rest}, act = .get → Housekept now ctx state rest →
      Housekept now ctx state (act :: rest) := by
    rintro act rest rfl tail
    exact .plain (by simp) tail
  unfold handleRegister
  dsimp only
  split
  · exact refused _ _
  · split
    · exact (by simp : Within [.throw] [Act.throw]).housekept (by simp)
    · exact (by simp : Within [.throw] [Act.throw]).housekept (by simp)
    · exact refused _ _
    · apply plain rfl
      split
      · exact refused _ _
      · split
        · exact refused _ _
        · apply plain rfl
          split
          · exact refused _ _
          · split
            · exact refused _ _
            · split
              · exact writeVerifier_housekept ..
              · split
                · exact refused _ _
                · split
                  · apply plain rfl
                    split
                    · split
                      · exact (by simp : Within [.deleteChallenge, .throw] _).housekept (by simp)
                      · exact (by simp : Within [.deleteChallenge, .suspend] _).housekept (by simp)
                    · exact refused _ _
                  · exact refused _ _

theorem finishRegister_housekept (id : Nat) (call : RegisterCall) :
    Housekept now ctx state (finishRegister env now state id call) := by
  unfold finishRegister
  split
  · exact (answer_within ..).housekept (by simp)
  · rename_i counter _
    apply Housekept.plain (by simp)
    change Housekept now ctx state _
    split
    · have whole := Housekept.storing now ctx state state
        (by simp : Within [.putAssertCounter, .putRegistrantKeyId, .deleteRegToken]
          [.put (.assertCounter call.key.keyId counter), .put (.registrantKeyId call.key.keyId),
            .delete (.regToken call.token)]) (by simp)
        (.registration call.verifier) rfl (answer_within id .register 200 .ok) (by simp)
      simpa [writeVerifier, bumpActivity] using whole
    · exact (answer_within ..).housekept (by simp)

theorem admit_housekept (mid : State) (random : Bytes) (ws : SocketId) (role : Role)
    (attest : Option AttestedKey) (row : mid.alarmRow = state.alarmRow)
    (sockets : mid.sockets ctx = state.sockets ctx)
    (anchored : ∀ other ∈ state.sockets ctx, state.home other = ctx) :
    Housekept now ctx state (admitSocket env now ctx mid random ws role attest) := by
  rcases admit_cases env now ctx mid random ws role attest with
    ⟨whole, _⟩ | ⟨whole, _⟩ | ⟨whole, _⟩
  · rw [whole]
    exact (by simp [reject] : Within [.read, .send, .close] _).housekept (by simp)
  · rw [whole]
    exact .plain (by simp) (.plain (by simp) (.teardown "pairing cycle cap" sockets anchored))
  · rw [whole]
    have charged : Within [.read, .putPairingCycles] (.get :: charge mid role) := by
      refine Within.cons_iff.mpr ⟨by simp, ?_⟩
      unfold charge
      split <;> split <;> simp
    rcases takeSlot_cases env now ctx mid random ws role attest with ⟨taken, _⟩ | ⟨taken, _⟩
    · rw [taken]
      have ends : Within [.read, .putPairingCycles, .send, .close]
          (.get :: charge mid role ++ reject ws "slot occupied") :=
        Within.append_iff.mpr ⟨charged.mono (by simp), (reject_within ..).mono (by simp)⟩
      exact ends.housekept (by simp)
    · rw [taken, seat]
      have head : Within [.read, .putPairingCycles, .close, .attach]
          (.get :: charge mid role ++ (displace ctx mid ws role ++
            [.attach ws (admittedAs env now mid ws role)])) :=
        Within.append_iff.mpr ⟨charged.mono (by simp),
          Within.append_iff.mpr ⟨Within.map_of (by simp), by simp⟩⟩
      cases role with
      | mac =>
          have ends := Within.append_iff.mpr ⟨head.mono (by simp : _ ⊆ .sendOk ::
            [.read, .putPairingCycles, .close, .attach]), (by simp : Within _ [.send ws (.ok none)])⟩
          have whole : Housekept now ctx state _ := ends.housekept (by simp)
          simpa [greet] using whole
      | phone =>
          have whole := Housekept.storing now ctx state mid head (by simp)
            (.record (.regToken (b64 random) ⟨now + regTokenTtlMs, attest⟩) rfl) row
            (by simp : Within [.sendOk] [.send ws (.ok (some (b64 random)))]) (by simp)
          simpa [greet] using whole

theorem replay_alarm_row (script : List Act) :
    (replay ctx state script).alarmRow = script.foldl rowAfter state.alarmRow :=
  Script.replay_part (perform ctx) State.alarmRow rowAfter (perform_alarm_row ctx) script state

theorem Joins.housekept {event : Event} {join : Join} (joins : Joins env state event join)
    (start : State) (row : start.alarmRow = state.alarmRow)
    (sockets : start.sockets = state.sockets) (home : start.home = state.home)
    (anchored : ∀ other ∈ state.sockets join.ctx, state.home other = join.ctx) :
    Housekept event.now join.ctx start (join.script env) := by
  have same := joins.same_room
  have quiet := joins.lead_within
  have led : (replay join.ctx start join.lead).sockets = state.sockets ∧
      (replay join.ctx start join.lead).home = state.home := by
    constructor
    · rw [replay_sockets_kept join.ctx start quiet (by simp), sockets]
    · rw [replay_home join.ctx start join.lead (fun _ => quiet.lacks (by simp)), home]
  have anchoredThere : ∀ other ∈ (replay join.ctx start join.lead).sockets join.ctx,
      (replay join.ctx start join.lead).home other = join.ctx := by
    rw [led.1, led.2]
    exact anchored
  have admits : join.mid.alarmRow = (replay join.ctx start join.lead).alarmRow →
      Housekept join.now join.ctx (replay join.ctx start join.lead)
        (admitSocket env join.now join.ctx join.mid join.random join.ws join.role join.attest) := by
    intro row
    apply admit_housekept env join.now join.ctx _ _ _ _ _ _ row _ anchoredThere
    rw [led.1, same.sockets]
  unfold Join.script
  cases joins with
  | pairing now ws role nonce yields frame random fault rest window lead attest drained free next
      challenged absent presented =>
      have plain : Within [.count, .read, .deleteTicket] (.countAdmission window :: .get :: lead) := by
        cases presented <;> simp
      apply Housekept.append (plain.housekept (by simp))
      apply admits
      rw [replay_alarm_row_kept plain (by simp)]
      exact row.symm
  | signature now id random fault ctx check found verified =>
      have bump : bumpActivity now (state.wake id (some check.ws)) = bumpActivity now start := by
        exact congrArg (List.cons _) (ensureAlarm_eq now row.symm)
      apply Housekept.append
      · rw [bump]
        exact bumpActivity_housekept now ctx start
      · apply admits
        simp only [replay_alarm_row, row]
        rfl

end Handlers

section Turns
variable {env : Env} {state : State} {event : Event} {met : Turn}

/-- The turns of alarm(). -/
def Event.isAlarm : Event → Bool
  | .fire _ _ _ | .alarm _ _ => true
  | _ => false

-- Every turn but those of an upgrade and of alarm() follows the grammar of scripts.
theorem Turns.housekept (wired : Wired env state) (turns : Turns env state event met)
    (free : state.busy event = false) :
    (event.isAlarm = false ∧ Housekept event.now met.ctx met.start met.script ∧
      Within [.close, .reply] met.onThrow) ∨
    (∃ now ws, event = .connect now ws ∧ Within [.accept, .attach, .suspend] met.acts) ∨
    (event.isAlarm = true ∧ (∃ seen, met.script = Relay.alarm env event.now met.ctx met.start seen) ∧
      met.onThrow = [.rearm (event.now + alarmRetryMs)]) := by
  have start := turns.wired_start wired
  have anchored : ∀ other ∈ met.start.sockets met.ctx, met.start.home other = met.ctx :=
    fun other member => (start.anchored met.ctx other member).2.1
  have plain : ∀ {verbs script}, Within verbs script → (∀ verb ∈ verbs, verb ∉ housekeptVerbs) →
      Housekept event.now met.ctx met.start script := fun fits apart => fits.housekept apart
  cases turns with
  | task now ws task rest drained unproved next =>
      left
      cases task with
      | message frame random fault =>
          refine ⟨rfl, ?_, by simp [taskTurn]⟩
          rcases webSocketMessage_joining now ws frame random fault rest drained unproved
            next with ⟨_, _, quiet⟩ | ⟨join, joins, _, script, ctx⟩
          · exact plain quiet (by simp)
          · have kept := joins.housekept env state (state.pop ws rest) rfl rfl rfl (by
              rw [ctx]
              exact anchored)
            rw [← script, ctx] at kept
            exact kept
      | closed => exact ⟨rfl, plain (closePeerOf_within ..) (by simp), by simp [taskTurn]⟩
      | errored => exact ⟨rfl, plain (closePeerOf_within ..) (by simp), by simp [taskTurn]⟩
  | resume now id random fault handler found quiet =>
      left
      obtain ⟨_, numbered⟩ := mem_find found
      obtain ⟨handlerId, ctx, await⟩ := handler
      obtain rfl : handlerId = id := numbered
      refine ⟨rfl, ?_, by cases await <;> simp [Await.onThrow]⟩
      cases await with
      | upgradeTag ws => exact finishUpgrade_housekept ..
      | proofSignature check =>
          rcases finishProof_joining now handlerId random fault ctx check found free with
            ⟨_, refused⟩ | ⟨join, joins, _, script, rfl⟩
          · have fits := reject_within check.ws "bad signature"
            rw [← refused] at fits
            exact plain fits (by simp)
          · have kept := joins.housekept env state (state.wake handlerId (some check.ws)) rfl rfl rfl
              anchored
            rw [← script] at kept
            exact kept
      | attestDigest call => exact plain (by simp [continuation] : Within [.suspend] _) (by simp)
      | attestCheck call since => exact finishAttest_housekept ..
      | registerDigest call => exact plain (by simp [continuation] : Within [.suspend] _) (by simp)
      | registerAssertion call => exact finishRegister_housekept ..
      | deleteSignature call => exact plain (finishDelete_within ..) (by simp)
      | deleteTag =>
          apply Housekept.append (.teardown "room deleted" rfl anchored)
          exact (answer_within ..).housekept (by simp)
      | responseTag => exact .nil _
  | request now request random fault ctx resident =>
      left
      refine ⟨rfl, ?_, by cases request <;> simp [Request.endpoint]⟩
      cases request with
      | challenge => exact handleAttestChallenge_housekept ..
      | attest body => exact plain (handleAttest_within ..) (by simp)
      | register body => exact handleRegister_housekept ..
      | delete body => exact plain (handleDelete_within ..) (by simp)
      | other => exact plain (answer_within ..) (by simp)
  | connect now ws ctx resident unseen =>
      refine .inr (.inl ⟨now, ws, rfl, ?_⟩)
      simp [Turn.acts, handleUpgrade, done, Script.done, Act.isStorage, Act.isThrow, threw,
        Script.threw]
  | fire => exact .inr (.inr ⟨rfl, ⟨_, rfl⟩, rfl⟩)
  | alarm => exact .inr (.inr ⟨rfl, ⟨_, rfl⟩, rfl⟩)
  | drain => exact .inl ⟨rfl, plain (closeAll_within ..) (by simp), by simp⟩
  | get => exact .inl ⟨rfl, .nil _, by simp⟩
  | chunk => exact .inl ⟨rfl, .nil _, by simp⟩
  | ended => exact .inl ⟨rfl, .nil _, by simp⟩
  | idle => exact .inl ⟨rfl, .nil _, by simp⟩
  | restart => exact .inl ⟨rfl, .nil _, by simp⟩

end Turns

section Performed
variable {now : Nat} {ctx : ContextId}

/-- What an invariant needs of the parts of a script. `weighs` are the rows for which it
relies on the call of ensureAlarm after them, `Call` is what is assumed of the state in
which such a call starts. -/
structure Maintains (now : Nat) (ctx : ContextId) (weighs : Row → Bool) (Call : State → Prop)
    (Inv : State → Prop) : Prop where
  plain : ∀ state act, act.verb ∉ housekeptVerbs → Inv state → Inv (perform ctx state act)
  light : ∀ state row, weighs row = false → Inv state → Inv (perform ctx state (.put row))
  armed : ∀ state rows, Stored now rows → Call (replay ctx state (rows.map Act.put)) → Inv state →
    Inv (replay ctx state (armed now state rows))
  emptied : ∀ state, state.sockets ctx = [] → Inv state → Inv (perform ctx state .deleteAll)
  wiped : ∀ state, state.sockets ctx = [] → Inv state →
    Inv (replay ctx state [.deleteAll, .deleteAlarm])

/-- The same where only rows of a kind are stored. -/
structure Upholds (now : Nat) (ctx : ContextId) (weighs : Row → Bool) (Stores : Row → Prop)
    (Call Inv : State → Prop) : Prop where
  plain : ∀ state act, act.verb ∉ housekeptVerbs → Inv state → Inv (perform ctx state act)
  light : ∀ state row, Stores row → weighs row = false → Inv state →
    Inv (perform ctx state (.put row))
  armed : ∀ state rows, Stored now rows → (∀ row ∈ rows, Stores row) →
    Call (replay ctx state (rows.map Act.put)) → Inv state →
    Inv (replay ctx state (armed now state rows))
  emptied : ∀ state, state.sockets ctx = [] → Inv state → Inv (perform ctx state .deleteAll)
  wiped : ∀ state, state.sockets ctx = [] → Inv state →
    Inv (replay ctx state [.deleteAll, .deleteAlarm])

theorem Maintains.upholds {weighs : Row → Bool} {Call Inv : State → Prop}
    (maintains : Maintains now ctx weighs Call Inv) :
    Upholds now ctx weighs (fun _ => True) Call Inv where
  plain := maintains.plain
  light state row _ := maintains.light state row
  armed state rows stored _ := maintains.armed state rows stored
  emptied := maintains.emptied
  wiped := maintains.wiped

theorem replay_puts (ctx : ContextId) (state : State) (rows : List Row) :
    replay ctx state (rows.map Act.put) =
      { state with store := rows.foldl Store.put state.store } := by
  induction rows generalizing state with
  | nil => rfl
  | cons row rest ih => exact ih _

theorem stored_alarm_row (ctx : ContextId) (state : State) (rows : List Row) :
    (replay ctx state (rows.map Act.put)).alarmRow = state.alarmRow := by
  rw [replay_puts]

-- A call that was cut short did not come to its setAlarm.
theorem armed_part {state : State} {rows : List Row} {performed : List Act}
    (cut : performed <+: armed now state rows) (short : performed ≠ armed now state rows) :
    performed <+: rows.map Act.put ++ [.getAlarm] := by
  have proper : ∀ {whole : List Act} {last : Act}, performed <+: whole ++ [last] →
      performed ≠ whole ++ [last] → performed <+: whole := by
    intro whole last cut short
    rcases List.prefix_or_prefix_of_prefix cut (List.prefix_append whole [last]) with
      inside | ⟨tail, rfl⟩
    · exact inside
    · rcases List.prefix_cons_iff.mp ((List.prefix_append_right_inj whole).mp cut) with
        rfl | ⟨others, rfl, shorter⟩
      · rw [List.append_nil]
      · rw [List.prefix_nil.mp shorter] at short
        exact absurd rfl short
  have shapes : armed now state rows = rows.map Act.put ++ [.getAlarm] ∨
      armed now state rows = rows.map Act.put ++ [.getAlarm] ++
        [.setAlarm (now + housekeepingIntervalMs)] := by
    unfold armed ensureAlarm
    cases state.alarmRow with
    | none => exact .inr (by simp)
    | some existing =>
        by_cases late : existing > now + housekeepingIntervalMs
        · exact .inr (by simp [late])
        · exact .inl (by simp [late])
  rcases shapes with brief | full
  · rw [← brief]
    exact cut
  · rw [full] at cut short
    exact proper cut short

-- The invariant after what was done of a script, whole or cut short before a call that a
-- weighing row was stored for.
theorem Upholds.performed {weighs : Row → Bool} {Stores : Row → Prop} {Call Inv : State → Prop}
    (upholds : Upholds now ctx weighs Stores Call Inv) {state : State} {script performed : List Act}
    (housekept : Housekept now ctx state script) (cut : performed <+: script)
    (stores : ∀ row, .put row ∈ performed → Stores row)
    (calls : ∀ before rest,
      performed = before ++ (ensureAlarm now (replay ctx state before) ++ rest) →
      Call (replay ctx state before))
    (whole : performed = script ∨ ∀ row, .put row ∈ performed → weighs row = false)
    (initially : Inv state) : Inv (replay ctx state performed) := by
  induction housekept generalizing performed with
  | nil state =>
      rw [List.prefix_nil.mp cut]
      exact initially
  | @plain state act rest plain tail ih =>
      rcases List.prefix_cons_iff.mp cut with rfl | ⟨others, rfl, shorter⟩
      · exact initially
      · refine ih shorter ?_ ?_ ?_ (upholds.plain state act plain initially)
        · exact fun row member => stores row (List.mem_cons_of_mem act member)
        · intro before rest split
          exact calls (act :: before) rest (by rw [split]; rfl)
        · rcases whole with same | light
          · exact .inl (List.cons.inj same).2
          · exact .inr fun row member => light row (List.mem_cons_of_mem act member)
  | @armed state rows rest stored tail ih =>
      have call : ensureAlarm now (replay ctx state (rows.map Act.put)) = ensureAlarm now state := by
        apply ensureAlarm_eq
        exact stored_alarm_row ctx state rows
      rcases List.prefix_or_prefix_of_prefix cut (List.prefix_append (Relay.armed now state rows) rest)
        with short | ⟨others, rfl⟩
      · by_cases full : performed = Relay.armed now state rows
        · subst full
          apply upholds.armed state rows stored _ _ initially
          · intro row member
            exact stores row (List.mem_append_left _ (List.mem_map_of_mem member))
          apply calls (rows.map Act.put) []
          rw [call, List.append_nil]
          rfl
        · have light : ∀ row, .put row ∈ performed → weighs row = false := by
            rcases whole with same | light
            · rw [same] at short
              have none_ : rest = [] := by
                have length := short.length_le
                rw [List.length_append] at length
                exact List.length_eq_zero_iff.mp (by omega)
              rw [none_, List.append_nil] at same
              exact absurd same full
            · exact light
          have partly := armed_part short full
          apply Script.replay_invariant (perform ctx) Inv performed _ state initially
          intro act member other holds
          rcases List.mem_append.mp (partly.subset member) with put | read
          · obtain ⟨row, _, rfl⟩ := List.mem_map.mp put
            exact upholds.light other row (stores row member) (light row member) holds
          · rw [List.mem_singleton.mp read]
            exact holds
      · have shorter := (List.prefix_append_right_inj _).mp cut
        rw [replay_append]
        have here : Call (replay ctx state (rows.map Act.put)) := by
          apply calls (rows.map Act.put) others
          rw [call, ← List.append_assoc]
          rfl
        have kinds : ∀ row ∈ rows, Stores row := by
          intro row member
          apply stores row
          exact List.mem_append_left _ (List.mem_append_left _ (List.mem_map_of_mem member))
        refine ih shorter ?_ ?_ ?_ (upholds.armed state rows stored kinds here initially)
        · exact fun row member => stores row (List.mem_append_right _ member)
        · intro before rest split
          have shifted := calls (Relay.armed now state rows ++ before) rest (by
            rw [split, List.append_assoc, replay_append])
          rw [replay_append] at shifted
          exact shifted
        · rcases whole with same | light
          · exact .inl (List.append_cancel_left same)
          · exact .inr fun row member => light row (List.mem_append_right _ member)
  | @wipe state rest empty tail ih =>
      rcases List.prefix_cons_iff.mp cut with rfl | ⟨others, rfl, shorter⟩
      · exact initially
      · rcases List.prefix_cons_iff.mp shorter with rfl | ⟨others, rfl, shortest⟩
        · exact upholds.emptied state empty initially
        · refine ih shortest ?_ ?_ ?_ (upholds.wiped state empty initially)
          · exact fun row member => stores row (by simp [member])
          · intro before rest split
            exact calls (.deleteAll :: .deleteAlarm :: before) rest (by rw [split]; rfl)
          · rcases whole with same | light
            · exact .inl (List.cons.inj (List.cons.inj same).2).2
            · exact .inr fun row member => light row (by simp [member])

theorem Upholds.turn {env : Env} {state : State} {event : Event} {met : Turn}
    {weighs : Row → Bool} {Stores : Row → Prop} {Call Inv : State → Prop}
    (upholds : Upholds event.now met.ctx weighs Stores Call Inv)
    (happens : turn env state event = some met)
    (stores : ∀ row, .put row ∈ acts env state event → Stores row)
    (kept : Housekept event.now met.ctx met.start met.script)
    (handled : Within [.close, .reply] met.onThrow)
    (calls : ∀ before rest, met.acts =
      before ++ (ensureAlarm event.now (replay met.ctx met.start before) ++ rest) →
      Call (replay met.ctx met.start before))
    (unstranded : cutShort env state event = true →
      ∀ row, .put row ∈ acts env state event → weighs row = false)
    (initially : Inv met.start) : Inv (replay met.ctx met.start met.acts) := by
  have performed : acts env state event = met.acts := by rw [acts, happens]
  have split : met.acts = done met.fault met.script ++
      if threw met.fault met.script then met.onThrow else [] := rfl
  rw [split, replay_append]
  have ran : Inv (replay met.ctx met.start (done met.fault met.script)) := by
    apply upholds.performed kept (Script.done_initial _ _ _ _) _ _ _ initially
    · intro row member
      apply stores row
      rw [performed, split]
      exact List.mem_append_left _ member
    · intro before rest cut
      apply calls before (rest ++ if threw met.fault met.script then met.onThrow else [])
      have cut : done met.fault met.script = _ := cut
      rw [split, cut]
      simp
    · cases threw_ : threw met.fault met.script with
      | false => exact .inl (Script.done_of_not_threw _ _ _ _ threw_)
      | true =>
          right
          intro row member
          apply unstranded (by simp [cutShort, happens, threw_]) row
          rw [performed, split]
          exact List.mem_append_left _ member
  apply Script.replay_invariant (perform met.ctx) Inv _ _ _ ran
  intro act member other holds
  split at member
  · have verb := handled.each act member
    apply upholds.plain other act _ holds
    intro inside
    revert verb inside
    generalize act.verb = verb
    cases verb <;> simp
  · simp at member

theorem Maintains.turn {env : Env} {state : State} {event : Event} {met : Turn}
    {weighs : Row → Bool} {Call Inv : State → Prop}
    (maintains : Maintains event.now met.ctx weighs Call Inv)
    (happens : turn env state event = some met)
    (kept : Housekept event.now met.ctx met.start met.script)
    (handled : Within [.close, .reply] met.onThrow)
    (calls : ∀ before rest, met.acts =
      before ++ (ensureAlarm event.now (replay met.ctx met.start before) ++ rest) →
      Call (replay met.ctx met.start before))
    (unstranded : cutShort env state event = true →
      ∀ row, .put row ∈ acts env state event → weighs row = false)
    (initially : Inv met.start) : Inv (replay met.ctx met.start met.acts) :=
  maintains.upholds.turn happens (fun _ _ => trivial) kept handled calls unstranded initially

end Performed

end Relay

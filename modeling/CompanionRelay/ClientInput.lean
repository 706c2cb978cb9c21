import CompanionRelay.NullInput

/-!
What a client can make the relay fail at. src/host/server.js builds a Request of each call that
its gates let through, and answers 500 and counts an error if that throws, or the handler of the
room does; the dispatch of a socket closes it with 1011 if the handler of its frame throws. The
gates refuse a call without an error.
-/

namespace Relay

section Statement

/-- A call whose body has been read: its method, the pathname of its url and whether the url has
credentials. There is no url where `new URL` throws. -/
structure HttpCall where
  method : String
  url : Option (String × Bool)
  body : Bytes

def forbiddenMethods : List String := ["CONNECT", "TRACE", "TRACK"]

/-- `new URL` or `new Request` throws. -/
def HttpCall.unfit (call : HttpCall) : Bool :=
  match call.url with
  | none => true
  | some (_, credentials) =>
      credentials || decide (call.method ∈ forbiddenMethods) ||
        (decide (call.method = "GET" ∨ call.method = "HEAD") && !call.body.isEmpty)

-- request.json(), if it does not reject
variable (json : Bytes → Option Json)

/-- The routes of Room.handleHttp. -/
def HttpCall.request (call : HttpCall) : Request :=
  let pathname := (call.url.map (·.1)).getD ""
  if call.method = "POST" ∧ pathname = "/register" then .register (json call.body)
  else if call.method = "POST" ∧ pathname = "/attest/challenge" then .challenge
  else if call.method = "POST" ∧ pathname = "/attest" then .attest (json call.body)
  else if call.method = "POST" ∧ pathname = "/delete" then .delete (json call.body)
  else .other

def Event.isRequest : Event → Bool
  | .request _ _ _ _ => true
  | _ => false

/-- What reaches a room: a call through the server, or another event. -/
inductive Input
  | call (now : Nat) (call : HttpCall) (random : Bytes)
  | other (event : Event) (plain : event.isRequest = false)

/-- No storage call of the event throws, nor of the frames that it brings. -/
def Event.steady : Event → Bool
  | .chunk _ frames _ => frames.all (·.2.2.isNone)
  | .resume _ _ _ fault | .request _ _ _ fault | .fire _ _ fault | .alarm _ fault => fault.isNone
  | _ => true

def Input.steady : Input → Bool
  | .call _ _ _ => true
  | .other event _ => event.steady

def internalErrors (acts : List Act) : Nat :=
  acts.countP fun
    | .reply _ _ 500 _ => true
    | _ => false

def internalCloses (acts : List Act) : Nat :=
  acts.countP fun
    | .close _ 1011 _ => true
    | _ => false

/-- A room, http_errors_total, and how many sockets were closed with 1011. -/
structure Host where
  room : State := initial
  httpErrors : Nat := 0
  closed : Nat := 0

variable (env : Env)

def Host.turn (host : Host) (event : Event) : Host :=
  { room := step env host.room event
    httpErrors := host.httpErrors + internalErrors (acts env host.room event)
    closed := host.closed + internalCloses (acts env host.room event) }

def serve (host : Host) : Input → Host
  | .call now call random =>
      if call.unfit then { host with httpErrors := host.httpErrors + 1 }
      else host.turn env (.request now (call.request json) random none)
  | .other event _ => host.turn env event

/-- A frame of an upgraded socket is taken up whose handler reads a property of null. -/
def frameFails (state : State) : Event → Bool
  | .run now =>
      (state.draining.any fun ws => (state.attachment ws).isSome && !state.verifying ws) &&
        readsNull env state (.run now)
  | _ => false

/-- A call reaches a handler that reads a property of null. -/
def callFails (state : State) (event : Event) : Bool :=
  event.isRequest && (turn env state event).isSome && readsNull env state event

def failsFrame (met : Host × Input) : Bool :=
  match met.2 with
  | .call _ _ _ => false
  | .other event _ => frameFails env met.1.room event

def failsCall (met : Host × Input) : Bool :=
  match met.2 with
  | .call now call random =>
      call.unfit || callFails env met.1.room (.request now (call.request json) random none)
  | .other _ _ => false

end Statement

section Turns
variable {env : Env} {state : State} {event : Event} {met : Turn}

/-- No frame that waits brings a storage call that throws. -/
def Unfaulted (state : State) : Prop :=
  ∀ ws, ∀ task ∈ state.chain ws, ∀ frame random fault, task = .message frame random fault →
    fault = none

theorem Turns.codes (turns : Turns env state event met) :
    ∀ ws code reason, .close ws code reason ∈ met.script → code ≠ 1011 := by
  have quiet : ∀ {verbs script}, Within verbs script → Verb.close ∉ verbs →
      ∀ ws code reason, Act.close ws code reason ∈ script → code ≠ 1011 :=
    fun fits missing _ _ _ member => absurd member (fits.lacks missing)
  have peers : ∀ {ctx : ContextId} {state : State} {source : SocketId} ws code reason,
      .close ws code reason ∈ closePeerOf ctx state source → code ≠ 1011 := by
    intro ctx state source ws code reason member
    have listed := (closePeerOf_closes ctx state source).each ws code reason member
    obtain ⟨rfl, _⟩ : code = 1001 ∧ reason = "peer gone" := by simpa using listed
    decide
  intro ws code reason member
  cases turns with
  | task now target task rest drained free next =>
      cases task with
      | message frame random fault => exact frameCloses_code (webSocketMessage_closes ..) _ _ _ member
      | _ => exact peers _ _ _ member
  | resume now id random fault handler found idle =>
      cases await : handler.await with
      | upgradeTag target =>
          simp only [await, continuation, finishUpgrade, List.mem_append] at member
          rcases member with (tagged | evicted) | armed
          · exact quiet (backfillTag_within ..) (by simp) _ _ _ tagged
          · obtain ⟨_, _, same⟩ := List.mem_map.mp evicted
            cases same
            decide
          · exact quiet (ensureAlarm_within ..) (by simp) _ _ _ armed
      | _ => exact continuation_codes random _ (by simp [await]) _ _ _ member
  | request now request random fault ctx resident =>
      refine quiet (handleHttp_within ..) ?_ _ _ _ member
      cases request <;> simp
      split <;> simp
  | fire | alarm =>
      have listed := (alarm_closes ..).each ws code reason member
      simp at listed
      omega
  | drain =>
      obtain ⟨_, _, same⟩ := List.mem_map.mp member
      cases same
      decide
  | connect => exact quiet (handleUpgrade_within ..) (by simp) _ _ _ member
  | _ => exact absurd member List.not_mem_nil

/-- No reply of the script is the one to a throw. -/
def Answers (script : List Act) : Prop :=
  ∀ id endpoint status body, .reply id endpoint status body ∈ script → status ≠ 500

theorem Replies.answers {script : List Act} (replies : Replies script) : Answers script := by
  intro id endpoint status body member
  rcases replies id endpoint status body member with rfl | rfl | rfl <;> decide

theorem Within.answers {verbs : List Verb} {script : List Act} (fits : Within verbs script)
    (missing : Verb.reply ∉ verbs ∧ Verb.replyRegistered ∉ verbs) : Answers script :=
  (fits.replies missing).answers

theorem Answers.append {first second : List Act} (early : Answers first) (late : Answers second) :
    Answers (first ++ second) := by
  intro id endpoint status body member
  rcases List.mem_append.mp member with here | there
  · exact early id endpoint status body here
  · exact late id endpoint status body there

theorem answer_answers {id : Nat} {endpoint : Endpoint} {status : Nat} {body : Body}
    (designed : status ≠ 500) : Answers (answer id endpoint status body) := by
  intro number target given text member
  obtain ⟨_, _, rfl, _⟩ : number = id ∧ target = endpoint ∧ given = status ∧ text = body := by
    simpa [answer] using member
  exact designed

theorem handleHttp_answers (id now : Nat) (random : Bytes) (request : Request) :
    Answers (handleHttp env now state id random request) := by
  have asked : request.endpoint = .attest ∨ request.endpoint = .register ∨
      request.endpoint = .delete → Answers (handleHttp env now state id random request) := by
    intro asked
    rcases handleHttp_outcome env id now state random request asked with refusing | granting
    · exact refusing.replies.answers
    · exact granting.replies.answers
  cases request with
  | challenge =>
      have sweeps : Answers (sweepChallenges now state) :=
        (sweepChallenges_within ..).answers (by simp)
      refine sweeps.append ?_
      split
      · exact answer_answers (by decide)
      · have arms : Answers (.put (.challenge (b64 random) (now + attestChallengeTtlMs)) ::
            ensureAlarm now state) :=
          (Within.cons_iff.mpr ⟨by simp, (ensureAlarm_within now state).mono (by simp)⟩ :
            Within [.putChallenge, .getAlarm, .setAlarm] _).answers (by simp)
        exact arms.append (answer_answers (by decide))
  | other => exact answer_answers (by decide)
  | attest body => exact asked (.inl rfl)
  | register body => exact asked (.inr (.inl rfl))
  | delete body => exact asked (.inr (.inr rfl))

theorem continuation_answers (now id : Nat) (ctx : ContextId) (random : Bytes) (await : Await) :
    Answers (continuation env now ctx state random id await) := by
  by_cases upgrades : ∃ ws, await = .upgradeTag ws
  · obtain ⟨ws, rfl⟩ := upgrades
    exact (finishUpgrade_within ..).answers (by simp)
  · push Not at upgrades
    by_cases open_ : await = .responseTag
    · subst open_
      simp [Answers, continuation]
    · exact (continuation_replies random await upgrades open_).answers

theorem Turns.answers (turns : Turns env state event met) : Answers met.script := by
  cases turns with
  | task now target task rest drained free next =>
      cases task with
      | message frame random fault => exact (webSocketMessage_within ..).answers (by simp)
      | _ => exact (closePeerOf_within ..).answers (by simp)
  | resume now number random fault handler found idle => exact continuation_answers _ _ _ _ _
  | request now request random fault ctx resident => exact handleHttp_answers _ _ _ _
  | fire | alarm => exact (alarm_within ..).answers (by simp)
  | drain => exact (closeAll_within ..).answers (by simp)
  | connect => exact (handleUpgrade_within ..).answers (by simp)
  | _ => simp [Answers]

theorem threw_quiet {script : List Act} (calm : .throw ∉ script) : threw none script = false := by
  rw [Bool.eq_false_iff]
  intro thrown
  obtain ⟨act, member, stops⟩ := (Script.threw_unfaulted _ _).mp thrown
  cases act <;> first | exact calm member | exact Bool.noConfusion stops

theorem Throws.threw {null : Bool} {script : List Act} (throws : Throws null script) :
    threw none script = null := by
  cases null with
  | true => exact (Script.threw_unfaulted _ _).mpr ⟨.throw, throws_true.mp throws, rfl⟩
  | false => exact threw_quiet (throws_false.mp throws).1

theorem unattached_calm {now id : Nat} {ctx : ContextId} {ws : SocketId} {random : Bytes}
    {frame : Frame} (unseen : state.attachment ws = none) :
    .throw ∉ webSocketMessage env now ctx state id ws random frame := by
  have blank : state.admission ws = none := by simp [State.admission, unseen]
  unfold webSocketMessage
  split
  · simp [closePeerOf, blank]
  · rw [blank]
    simp [handleHello, unseen]

theorem continuation_calm (now id : Nat) (ctx : ContextId) (random : Bytes) (await : Await) :
    .throw ∉ continuation env now ctx state random id await := by
  by_cases upgrades : ∃ ws, await = .upgradeTag ws
  · obtain ⟨ws, rfl⟩ := upgrades
    exact (finishUpgrade_within ..).lacks (by simp)
  · push Not at upgrades
    by_cases open_ : await = .responseTag
    · subst open_
      exact List.not_mem_nil
    · exact (throws_false.mp (continuation_throws random await upgrades open_)).1

theorem Behaves.threw {null : Bool} {ctx : ContextId} {script : List Act}
    (behaves : Behaves null state ctx script) : threw none script = null := by
  cases null with
  | true => exact (Script.threw_unfaulted _ _).mpr ⟨.throw, behaves, rfl⟩
  | false =>
      have calm : .throw ∉ script ∧ Outcome state ctx script := by simpa [Behaves] using behaves
      exact threw_quiet calm.1

theorem Turns.threw_null (turns : Turns env state event met)
    (happens : turn env state event = some met) (minted : Minted state)
    (challenged : Challenged state) (unfaulted : met.fault = none) :
    threw met.fault met.script = (frameFails env state event || callFails env state event) := by
  rw [unfaulted]
  cases turns with
  | task now target task rest drained free next =>
      have fails : callFails env state (.run now) = false := rfl
      rw [fails, Bool.or_false, frameFails, drained, Option.any_some, free]
      cases task with
      | message frame random fault =>
          change threw none (webSocketMessage env now (state.home target) (state.pop target rest)
            state.nextId target random frame) = _
          cases attached : state.attachment target with
          | none =>
              have calm := @unattached_calm env (state.pop target rest) now state.nextId
                (state.home target) target random frame attached
              rw [threw_quiet calm, Option.isSome_none, Bool.false_and, Bool.false_and]
          | some attachment =>
              have behaves := @webSocketMessage_behaves env now (state.home target)
                (state.pop target rest) state.nextId target random frame
                (by simp [State.pop, attached]) rfl (challenged target)
              have reads : readsNull env state (.run now) =
                  (readsFrame env (state.pop target rest) now target frame &&
                    (env.parse frame).any Json.isNull) := by
                simp only [readsNull, drained, next]
                rfl
              rw [behaves.threw, reads, Option.isSome_some, Bool.not_false, Bool.and_true,
                Bool.true_and]
      | _ =>
          change threw none (closePeerOf (state.home target) (state.pop target rest) target) = _
          rw [threw_quiet ((closePeerOf_within ..).lacks (by simp))]
          simp [readsNull, drained, next]
  | idle now target drained stopped =>
      have fails : callFails env state (.run now) = false := rfl
      rw [fails, Bool.or_false, frameFails, drained, Option.any_some]
      change false = _
      rcases stopped with verifying | empty
      · rw [verifying, Bool.not_true, Bool.and_false, Bool.false_and]
      · simp [readsNull, drained, empty]
  | resume now number random fault handler found idle =>
      change threw none (continuation env now handler.ctx (state.wake number handler.await.drains)
        random number handler.await) = false
      exact threw_quiet (continuation_calm _ _ _ _ _)
  | request now request random fault ctx resident =>
      change threw none (handleHttp env now state.enter state.nextId random request) =
        (false || true && (turn env state (.request now request random fault)).isSome &&
          (readsBody env state request && request.body.any Json.isNull))
      rw [happens, Option.isSome_some, Bool.false_or, Bool.and_true, Bool.true_and]
      cases request with
      | challenge =>
          exact threw_quiet ((handleHttp_within env now state.enter state.nextId random
            .challenge).lacks (by simp))
      | other => exact threw_quiet (by simp [handleHttp, answer])
      | attest body => exact (handleHttp_throws minted random (.attest body) (.inl rfl)).threw
      | register body =>
          exact (handleHttp_throws minted random (.register body) (.inr (.inl rfl))).threw
      | delete body =>
          exact (handleHttp_throws minted random (.delete body) (.inr (.inr rfl))).threw
  | fire | alarm => exact threw_quiet ((alarm_within ..).lacks (by simp))
  | drain => exact threw_quiet ((closeAll_within ..).lacks (by simp))
  | connect => exact threw_quiet ((handleUpgrade_within ..).lacks (by simp))
  | _ => rfl

end Turns

section Runs
variable {env : Env} {json : Bytes → Option Json} {state : State} {event : Event} {met : Turn}

theorem Turns.start_unfaulted (turns : Turns env state event met) (unfaulted : Unfaulted state)
    (steady : event.steady = true) : Unfaulted met.start := by
  intro ws task member frame random fault same
  cases turns with
  | get now absent quiet =>
      rw [init_keeps] at member
      exact unfaulted ws task member frame random fault same
  | connect now opened ctx resident unseen =>
      simp only [State.enter, freshSocket, Function.update_apply] at member
      split at member
      · exact absurd member List.not_mem_nil
      · exact unfaulted ws task member frame random fault same
  | chunk target frames tail heard hears upgraded quiet =>
      rw [hang_up_keeps] at member
      simp only [State.push, Function.update_apply] at member
      split at member
      · rename_i here
        subst here
        rcases List.mem_append.mp member with before | brought
        · exact unfaulted _ task before frame random fault same
        · simp only [frameTasks, List.mem_append, List.mem_map] at brought
          rcases brought with ⟨item, inside, rfl⟩ | failed
          · cases same
            exact Option.isNone_iff_eq_none.mp (List.all_eq_true.mp steady item inside)
          · split at failed
            · rw [List.mem_singleton.mp failed] at same
              exact Task.noConfusion same
            · exact absurd failed List.not_mem_nil
      · exact unfaulted ws task member frame random fault same
  | ended target heard open_ quiet =>
      rw [maybe_evict_live] at member
      simp only [endSocket, State.push, Function.update_apply] at member
      split at member
      · rename_i here
        subst here
        rcases List.mem_append.mp member with before | closed
        · exact unfaulted _ task before frame random fault same
        · split at closed
          · exact absurd closed List.not_mem_nil
          · rw [List.mem_singleton.mp closed] at same
            exact Task.noConfusion same
      · exact unfaulted ws task member frame random fault same
  | task now target first rest drained free next =>
      have popped : (taskTurn env now (state.pop target rest) target state.nextId
          first).start.chain ws = if ws = target then rest else state.chain ws := by
        cases first <;> exact Function.update_apply ..
      rw [popped] at member
      split at member
      · rename_i here
        subst here
        exact unfaulted _ task (next ▸ List.mem_cons_of_mem first member) frame random fault same
      · exact unfaulted ws task member frame random fault same
  | restart now =>
      have cleared : (Relay.restart now state).chain ws = [] := by
        dsimp only [Relay.restart]
        split
        · rfl
        · rw [maybe_evict_live, init_keeps]
          rfl
      exact absurd (cleared ▸ member) List.not_mem_nil
  | _ => exact unfaulted ws task member frame random fault same

theorem unfaulted_step (unfaulted : Unfaulted state) (steady : event.steady = true) :
    Unfaulted (step env state event) := by
  rcases step_cases env state event with ⟨_, same⟩ | ⟨met, turns, _, result⟩
  · rw [same]
    exact unfaulted
  · have kept := turns.start_unfaulted unfaulted steady
    rw [result, Unfaulted, turns.result_close.2.2]
    exact kept

theorem Turns.unfaulted (turns : Turns env state event met) (unfaulted : Unfaulted state)
    (steady : event.steady = true) : met.fault = none := by
  cases turns with
  | task now ws task rest drained free next =>
      cases task with
      | message frame random fault =>
          exact unfaulted ws _ (next ▸ List.mem_cons_self) frame random fault rfl
      | _ => rfl
  | resume | request | fire | alarm => exact Option.isNone_iff_eq_none.mp steady
  | _ => rfl

theorem frameFails_turns (idle : turn env state event = none) : frameFails env state event = false := by
  cases event with
  | run now =>
      cases drained : state.draining with
      | none => simp [frameFails, drained]
      | some target => simp [turn, State.busy, quietTurn, drained] at idle
  | _ => rfl

theorem internalErrors_answers {script : List Act} (answers : Answers script) :
    internalErrors script = 0 := by
  refine List.countP_eq_zero.mpr fun act member counted => ?_
  split at counted
  · exact answers _ _ _ _ member rfl
  · exact Bool.noConfusion counted

theorem internalCloses_codes {script : List Act}
    (codes : ∀ ws code reason, .close ws code reason ∈ script → code ≠ 1011) :
    internalCloses script = 0 := by
  refine List.countP_eq_zero.mpr fun act member counted => ?_
  split at counted
  · exact codes _ _ _ member rfl
  · exact Bool.noConfusion counted

-- A turn closes a socket with 1011 or answers 500 once, where its handler reads a property of
-- null, and otherwise not at all.
theorem acts_fail (minted : Minted state) (challenged : Challenged state)
    (unfaulted : Unfaulted state) (steady : event.steady = true) :
    internalCloses (acts env state event) = (frameFails env state event).toNat ∧
      internalErrors (acts env state event) = (callFails env state event).toNat := by
  unfold acts
  cases happens : turn env state event with
  | none =>
      rw [frameFails_turns happens, callFails, happens]
      simp [internalCloses, internalErrors]
  | some met =>
      have turns := turn_turns happens
      have threw_ := turns.threw_null happens minted challenged (turns.unfaulted unfaulted steady)
      have codes := turns.codes
      have answers := turns.answers
      cases thrown : threw met.fault met.script with
      | false =>
          rw [thrown, Eq.comm, Bool.or_eq_false_iff] at threw_
          dsimp only
          rw [Turn.acts_whole thrown, threw_.1, threw_.2]
          exact ⟨internalCloses_codes codes, internalErrors_answers answers⟩
      | true =>
          have ran : internalCloses (done met.fault met.script) = 0 ∧
              internalErrors (done met.fault met.script) = 0 :=
            ⟨internalCloses_codes fun ws code reason member =>
                codes ws code reason (Script.done_subset _ _ member),
              internalErrors_answers fun id endpoint status body member =>
                answers id endpoint status body (Script.done_subset _ _ member)⟩
          have whole : internalCloses met.acts = internalCloses met.onThrow ∧
              internalErrors met.acts = internalErrors met.onThrow := by
            simp only [Turn.acts, thrown, if_true, internalCloses, internalErrors,
              List.countP_append] at ran ⊢
            omega
          dsimp only
          rw [whole.1, whole.2]
          rw [thrown] at threw_
          cases turns with
          | task now target task rest drained free next =>
              have fails : callFails env state (.run now) = false := rfl
              rw [fails, Bool.or_false] at threw_
              rw [fails, ← threw_]
              cases task with
              | message frame random fault => exact ⟨rfl, rfl⟩
              | _ =>
                  simp [frameFails, readsNull, drained, next] at threw_
          | request now request random fault ctx resident =>
              have fails : frameFails env state (.request now request random fault) = false := rfl
              rw [fails, Bool.false_or] at threw_
              rw [fails, ← threw_]
              exact ⟨rfl, rfl⟩
          | idle now ws drained stopped => exact Bool.noConfusion thrown
          | _ => exact Bool.noConfusion threw_

/-- What holds in every state of a server whose storage calls do not fail. -/
structure Sane (state : State) : Prop where
  minted : Minted state
  challenged : Challenged state
  unfaulted : Unfaulted state

theorem Sane.step (sane : Sane state) (steady : event.steady = true) :
    Sane (step env state event) :=
  ⟨minted_step sane.minted, challenged_step sane.challenged,
    unfaulted_step sane.unfaulted steady⟩

theorem initial_sane : Sane initial where
  minted challenge stored := absurd stored (AList.notMem_empty _)
  challenged ws role nonce yields waits := by simp [Relay.initial, State.admission] at waits
  unfaulted ws task member := absurd member List.not_mem_nil

theorem serve_fails {host : Host} {input : Input} (sane : Sane host.room)
    (steady : input.steady = true) :
    Sane (serve json env host input).room ∧
      (serve json env host input).httpErrors =
        host.httpErrors + (failsCall json env (host, input)).toNat ∧
      (serve json env host input).closed =
        host.closed + (failsFrame env (host, input)).toNat := by
  cases input with
  | call now call random =>
      simp only [serve, failsCall, failsFrame]
      cases call.unfit with
      | true => exact ⟨sane, rfl, rfl⟩
      | false =>
          have fails := @acts_fail env host.room (.request now (call.request json) random none)
            sane.minted sane.challenged sane.unfaulted rfl
          refine ⟨sane.step rfl, ?_, ?_⟩
          · rw [Bool.false_or, ← fails.2]
            rfl
          · exact congrArg (host.closed + ·) fails.1
  | other event plain =>
      have fails := @acts_fail env host.room event sane.minted sane.challenged
        sane.unfaulted steady
      have uncalled : callFails env host.room event = false := by
        rw [callFails, plain, Bool.false_and, Bool.false_and]
      rw [uncalled] at fails
      exact ⟨sane.step steady, congrArg (host.httpErrors + ·) fails.2,
        congrArg (host.closed + ·) fails.1⟩

theorem serve_run (host : Host) (sane : Sane host.room) (inputs : List Input)
    (steady : inputs.all Input.steady = true) :
    (Machine.run (serve json env) host inputs).httpErrors =
        host.httpErrors + (Machine.steps (serve json env) host inputs).countP (failsCall json env) ∧
      (Machine.run (serve json env) host inputs).closed =
        host.closed + (Machine.steps (serve json env) host inputs).countP (failsFrame env) := by
  induction inputs generalizing host with
  | nil => exact ⟨rfl, rfl⟩
  | cons input rest ih =>
      rw [List.all_cons, Bool.and_eq_true] at steady
      obtain ⟨sane, errors, closes⟩ := @serve_fails env json host input sane steady.1
      obtain ⟨total, shut⟩ := ih _ sane steady.2
      rw [Machine.run_cons, Machine.steps_cons, List.countP_cons, List.countP_cons, total, shut,
        errors, closes]
      constructor
      · rw [Nat.add_assoc, Nat.add_comm (Bool.toNat _)]
        cases failsCall json env (host, input) <;> rfl
      · rw [Nat.add_assoc, Nat.add_comm (Bool.toNat _)]
        cases failsFrame env (host, input) <;> rfl

end Runs

/-- The handler of a frame or of a call comes to one of its outcomes exactly if it does not read
a property of null. A client causes a counted error exactly by a call that is no Request or
whose handler reads one, and a close with 1011 exactly by a frame whose handler does. -/
theorem finishes_iff (env : Env) (json : Bytes → Option Json) :
    (∀ events event met, Handles (run env events) event →
      turn env (run env events) event = some met →
      (Finishes met ↔ readsNull env (run env events) event = false)) ∧
    ∀ inputs : List Input, inputs.all Input.steady = true →
      (Machine.run (serve json env) {} inputs).httpErrors =
          (Machine.steps (serve json env) {} inputs).countP (failsCall json env) ∧
        (Machine.run (serve json env) {} inputs).closed =
          (Machine.steps (serve json env) {} inputs).countP (failsFrame env) := by
  refine ⟨fun events event met handles happens => ?_, fun inputs steady => ?_⟩
  · exact turn_finishes_iff env events event met handles happens
  · have counts := @serve_run env json {} initial_sane inputs steady
    rw [counts.1, counts.2, Nat.zero_add, Nat.zero_add]
    exact ⟨rfl, rfl⟩

theorem mac_hello_finishes :
    (∃ met, turn (sampleEnv false) (run (sampleEnv false) ([.get 1, .connect 1 0,
        .resume 1 1 [] none, .chunk 0 [(macHello, [1], none)] .none])) (.run 1) = some met ∧
      (Finishes met ↔ readsNull (sampleEnv false) (run (sampleEnv false) ([.get 1, .connect 1 0,
        .resume 1 1 [] none, .chunk 0 [(macHello, [1], none)] .none])) (.run 1) = false)) ∧
    (Machine.run (serve (fun _ => none) (sampleEnv false)) {} [.other (.get 1) rfl,
      .call 1 ⟨"POST", some ("/register", false), [123]⟩ []]).httpErrors = 0 :=
  ⟨⟨_, rfl, (finishes_iff _ fun _ => none).1 _ _ _ (.frame 1 0 macHello [1] [] rfl rfl rfl
      (by decide)) rfl⟩,
    ((finishes_iff (sampleEnv false) fun _ => none).2 _ rfl).1.trans (by decide)⟩

/-- A client whose hello is the JSON value null. -/
def nullEnv : Env :=
  { sampleEnv false with
    parse := fun frame => if frame = .text "null" then some .null else sampleParse frame }

def nullHello : List Event :=
  [.get 1, .connect 1 0, .resume 1 1 [] none, .chunk 0 [(.text "null", [1], none)] .none]

/-- The relay closes the socket with 1011, and answers 500 to the body null and to a GET of
/register with a body. -/
theorem null_throws :
    (¬ ∀ env events event met, Handles (run env events) event →
      turn env (run env events) event = some met → Finishes met) ∧
    .close 0 1011 "internal error" ∈ acts nullEnv (run nullEnv nullHello) (.run 1) ∧
    .reply 1 .register 500 (.error "internal error") ∈
      acts nullEnv (run nullEnv [.get 1]) (.request 1 (.register (some .null)) [] none) ∧
    (Machine.run (serve (fun _ => none) nullEnv) {} [.other (.get 1) rfl,
      .call 1 ⟨"GET", some ("/register", false), [123]⟩ []]).httpErrors = 1 := by
  refine ⟨fun all => ?_, by decide, by decide, by decide⟩
  have finishes := all nullEnv nullHello (.run 1) _
    (.frame 1 0 (.text "null") [1] [] rfl rfl rfl (by decide)) rfl
  exact absurd finishes.returns (by decide)

end Relay

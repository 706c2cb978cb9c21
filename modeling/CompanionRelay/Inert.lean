import CompanionRelay.HalfOpen
import CompanionRelay.Residency

/-!
What a socket that the relay has closed can still do to the others of its room, by its events and
by the handlers suspended on it, and from which socket a frame is handed on.
-/

namespace Relay

section Statement
variable (env : Env) (state : State) (event : Event)

/-- The socket that the event is on, or whose suspended handler it resumes. -/
def subject : Option SocketId :=
  match event with
  | .chunk ws _ _ | .ended ws => some ws
  | .run _ => state.draining
  | .resume _ id _ _ => (state.find id).bind (·.await.concerns)
  | _ => none

/-- The relay has closed the socket. -/
def Shut (past : List (State × Event)) (ws : SocketId) : Prop :=
  ∃ met ∈ past, ws ∈ closes (acts env met.1 met.2)

instance (past : List (State × Event)) (ws : SocketId) : Decidable (Shut env past ws) :=
  inferInstanceAs (Decidable (∃ met ∈ past, _))

structure InertOnceClosed (events : List Event) : Prop where
  inert : ∀ before met after, steps env events = before ++ met :: after →
    ∀ ws, subject met.1 met.2 = some ws → Shut env before ws →
      (∀ other ∈ closes (acts env met.1 met.2), other = ws) ∧
        ∀ peer frame, .send peer (.relayed frame) ∉ acts env met.1 met.2
  spliced : ∀ before met after, steps env events = before ++ met :: after →
    ∀ peer frame role, .send peer (.relayed frame) ∈ acts env met.1 met.2 →
      met.1.holds peer role = true →
      ∃ ws, subject met.1 met.2 = some ws ∧ met.1.holds ws role.other = true ∧
        ¬ Shut env before ws ∧ ∀ other, met.1.seated other role.other → other = ws

/-- The task of a holder reaches no other socket: there is no peer, or it is a frame whose
handler throws, or exceeds the quota of a room without another socket. -/
def endsAlone : Bool :=
  match starting state event with
  | none => true
  | some (now, ws, task) =>
      match state.admission ws with
      | some (.admitted role) =>
          let peerless := (state.holders (state.home ws) ws role.other).isEmpty
          match task with
          | .message frame _ _ =>
              if severs now state ws task then peerless
              else throwsIn state event (meterCalls env state now ws task) ||
                if overQuota env now (state.home ws) state frame.size
                  then (state.sockets (state.home ws)).all (· = ws) else peerless
          | .closed | .errored => peerless
      | _ => true

/-- A proof displaces no holder and does not kill the room, or a storage call throws before. -/
def joinsAlone : Bool :=
  match joining env state event with
  | none => true
  | some (ws, role) =>
      (!grants state ws role || throwsIn state event (seatCalls env state event role) ||
        (state.holders (state.home ws) ws role).isEmpty) &&
      (!kills state ws role || throwsIn state event (killCalls env state event role))

/-- The end of an upgrade finds no more sockets before admission than may wait. -/
def upgradesAlone : Bool :=
  match event with
  | .resume _ id _ _ =>
      match state.find id with
      | some ⟨_, ctx, .upgradeTag _⟩ =>
          decide ((preAuth ctx state).length ≤ maxPreauthSockets) || state.busy event
      | _ => true
  | _ => true

/-- The event reaches no other socket than its subject. -/
def harmless : Bool :=
  endsAlone env state event && joinsAlone env state event && upgradesAlone state event

end Statement

section Reach
variable {env : Env} {state : State} {event : Event} {met : Turn} {ws : SocketId} {role : Role}

-- The handler of a socket's frame before its admission hands nothing on.
theorem webSocketMessage_within_auth {now id : Nat} {random : Bytes} {frame : Frame}
    (unadmitted : ∀ role, state.admission ws ≠ some (.admitted role)) :
    Within (.attach :: proofVerbs)
      (webSocketMessage env now (state.home ws) state id ws random frame) := by
  unfold webSocketMessage
  split
  · rw [Within.append_iff]
    exact ⟨(closePeerOf_within ..).mono (by simp), by simp⟩
  · split
    · exact (handleHello_within ..).mono (by simp)
    · exact (handleHello_within ..).mono (by simp)
    · exact (handleProof_within ..).mono (by simp)
    · rename_i role admitted
      exact absurd admitted (unadmitted role)

theorem relayed_from {peer : SocketId} {frame : Frame}
    (member : .send peer (.relayed frame) ∈ acts env state event) :
    ∃ now ws random fault role, event = .run now ∧
      Starts state ws (.message frame random fault) ∧ state.holds ws role = true ∧
      severs now state ws (.message frame random fault) = false ∧
      cutShort env state event = false ∧
      overQuota env now (state.home ws) state frame.size = false ∧
      peer ∈ state.holders (state.home ws) ws role.other := by
  have verb := (acts_within env state event).each _ member
  have frames : Verb.sendRelayed ∈ footprint env state event :=
    (List.mem_append.mp verb).resolve_left (by simp)
  obtain ⟨now, ws, given, random, fault, rest, rfl, drained, next⟩ :=
    footprint_frame (by simp) frames
  cases free : state.verifying ws with
  | true =>
      have idle : acts env state (.run now) = [] := by
        simp [acts, run_turn drained, runTurn, free, Turn.acts, done, Script.done, threw,
          Script.threw]
      rw [idle] at member
      exact absurd member List.not_mem_nil
  | false =>
      have happens : turn env state (.run now) = some (taskTurn env now (state.pop ws rest) ws
          state.nextId (.message given random fault)) := by
        rw [run_turn drained]
        simp [runTurn, free, next]
      have ran : .send peer (.relayed frame) ∈ done fault (webSocketMessage env now (state.home ws)
          (state.pop ws rest) state.nextId ws random given) := by
        rw [acts, happens] at member
        rcases List.mem_append.mp member with ran | caught
        · exact ran
        · exact absurd caught (by split <;> simp [taskTurn])
      by_cases admitted : ∃ role, state.admission ws = some (.admitted role)
      · obtain ⟨role, admitted⟩ := admitted
        obtain ⟨lead, quiet, shape⟩ := @splice_shape (state.pop ws rest) ws role env now
          state.nextId random given admitted
        have cut : cutShort env state (.run now) = threw fault (webSocketMessage env now
            (state.home ws) (state.pop ws rest) state.nextId ws random given) := cut_short happens
        have shape : webSocketMessage env now (state.home ws) (state.pop ws rest) state.nextId ws
            random given = lead ++ if cutOff env ws now state given then []
              else forward (state.home ws) state ws role given := shape
        rw [shape] at ran cut
        split at ran
        · exact absurd (Script.done_subset _ _ ran) (by simpa using quiet.lacks (by simp))
        · rename_i within
          rw [if_neg within] at cut
          have first : .send peer (.relayed frame) ∉ lead := quiet.lacks (by simp)
          unfold forward at ran cut
          split at ran
          · rename_i target others holders
            rw [holders] at cut
            obtain ⟨rfl, rfl⟩ : peer = target ∧ frame = given := by
              rcases List.mem_append.mp (Script.done_subset _ _ ran) with early | here
              · exact absurd early first
              · simpa using here
            have whole := @Script.done_rest Act Act.isStorage Act.isThrow fault lead [] _
              (fun _ none_ => absurd none_ List.not_mem_nil) first ran
            have through := Script.not_threw_of_done Act.isStorage Act.isThrow whole
            simp only [cutOff, Bool.or_eq_true, not_or, Bool.not_eq_true] at within
            refine ⟨now, ws, random, fault, role, rfl, ⟨drained, free, by rw [next]; rfl⟩,
              holds_iff.mpr admitted, ?_, cut.trans through, within.2, ?_⟩
            · rw [severs, within.1.1, within.1.2]
              rfl
            · rw [holders]
              exact List.mem_cons_self
          · rw [List.append_nil] at ran
            exact absurd (Script.done_subset _ _ ran) first
      · have fits := @webSocketMessage_within_auth env (state.pop ws rest) ws now state.nextId
          random given (fun role slot => admitted ⟨role, slot⟩)
        exact absurd (Script.done_subset _ _ ran) (fits.lacks (by simp))

theorem ends_alone {now : Nat} {task : Task} (calm : endsAlone env state (.run now) = true)
    (starts : Starts state ws task) (holds : state.holds ws role = true) :
    (severs now state ws task = true → state.holders (state.home ws) ws role.other = []) ∧
      ∀ frame random fault, task = .message frame random fault →
        severs now state ws task = false → cutShort env state (.run now) = false →
        (overQuota env now (state.home ws) state frame.size = true →
          ∀ other ∈ state.sockets (state.home ws), other = ws) ∧
        (overQuota env now (state.home ws) state frame.size = false →
          state.holders (state.home ws) ws role.other = []) := by
  simp only [endsAlone, starting_of starts, holds_iff.mp holds] at calm
  cases task with
  | message frame random fault =>
      constructor
      · intro severed
        simpa [severed] using calm
      · rintro given _ _ ⟨⟩ admits whole
        rw [cut_metering starts holds admits] at whole
        constructor
        · intro large
          simpa [admits, whole, large] using calm
        · intro under
          simpa [admits, whole, under] using calm
  | _ => exact ⟨fun _ => by simpa using calm, by simp⟩

theorem alone_relays (calm : endsAlone env state event = true) (peer : SocketId) (frame : Frame) :
    .send peer (.relayed frame) ∉ acts env state event := by
  intro member
  obtain ⟨now, ws, random, fault, role, rfl, starts, holds, admits, whole, under, held⟩ :=
    relayed_from member
  have none_ := ((ends_alone calm starts holds).2 frame random fault rfl admits whole).2 under
  rw [none_] at held
  exact absurd held List.not_mem_nil

theorem emptied_whole {verbs : List Verb} {fault : Option Nat} {front : List Act}
    {ctx : ContextId} {code : Nat} {reason : String} (quiet : Within verbs front)
    (calm : Verb.close ∉ verbs)
    (ran : ws ∈ closes (done fault (front ++ (closeAll ctx state code reason ++ [])))) :
    threw fault (front ++ (closeAll ctx state code reason ++ [])) = false := by
  obtain ⟨code', reason', closed⟩ := mem_closes.mp ran
  have early : Act.close ws code' reason' ∉ front := quiet.lacks calm
  have block : front ++ closeAll ctx state code reason <+:
      done fault (front ++ (closeAll ctx state code reason ++ [])) :=
    Script.done_block _ _ early (fun act inside => closes_steady inside) closed
  have whole := Script.done_initial Act.isStorage Act.isThrow fault
    (front ++ (closeAll ctx state code reason ++ []))
  apply Script.not_threw_of_done
  refine whole.eq_of_length_le ?_
  simpa only [List.append_nil] using block.length_le

theorem joins_alone (wired : Wired env state) {join : Join} (joins : Joins env state event join)
    (happens : turn env state event = some met) (script : met.script = join.script env)
    (joined : joining env state event = some (join.ws, join.role))
    (calm : joinsAlone env state event = true) {other : SocketId}
    (closed : other ∈ closes met.acts) : other = join.ws := by
  by_contra apart
  simp only [joinsAlone, joined, Bool.and_eq_true] at calm
  obtain ⟨ran, ⟨seated, held⟩ | ⟨killed, _⟩⟩ := joins.closing wired happens script apart closed
  · have seats : Seats env state event join.ws join.role :=
      ⟨_, seated.performs ▸ seated.attach_mem, rfl⟩
    obtain ⟨_, granted, past, _⟩ := seats.granted wired
    have none_ := calm.1
    simp only [granted, past, Bool.not_true, Bool.false_or, List.isEmpty_iff] at none_
    rw [none_] at held
    exact absurd held List.not_mem_nil
  · have spared := calm.2
    simp [killed, joins.killed wired happens script killed ran] at spared

theorem task_alone (wired : Wired env state) {now : Nat} {source : SocketId} {task : Task}
    {rest : List Task} (drained : state.draining = some source)
    (free : state.verifying source = false) (next : state.chain source = task :: rest)
    (happens : turn env state (.run now) =
      some (taskTurn env now (state.pop source rest) source state.nextId task))
    (calm : harmless env state (.run now) = true) {other : SocketId}
    (closed : other ∈ closes
      (taskTurn env now (state.pop source rest) source state.nextId task).acts) :
    other = source := by
  simp only [harmless, Bool.and_eq_true] at calm
  have starts : Starts state source task := ⟨drained, free, by rw [next]; rfl⟩
  have peers : other ∈ closes (closePeerOf (state.home source) (state.pop source rest) source) →
      ∃ role, state.holds source role = true ∧
        other ∈ state.holders (state.home source) source role.other := mem_closePeerOf.mp
  have severed : severs now state source task = true →
      other ∈ closes (closePeerOf (state.home source) (state.pop source rest) source) → False := by
    intro large inside
    obtain ⟨role, holds, held⟩ := peers inside
    rw [(ends_alone calm.1.1 starts holds).1 large] at held
    exact absurd held List.not_mem_nil
  cases task with
  | message frame random fault =>
      rcases closes_acts closed with ran | ⟨_, caught⟩
      · by_cases admitted : ∃ role, state.holds source role = true
        · obtain ⟨role, admitted⟩ := admitted
          have popped : (state.pop source rest).holds source role = true := admitted
          cases large : severs now (state.pop source rest) source (.message frame random fault) with
          | true =>
              obtain ⟨windows, code, reason, shape⟩ := severed_script env state.nextId popped large
              have member := closes_done ran
              have counts : Within [.count] (windows.map Act.countFrame) := Within.map_of (by simp)
              rw [taskTurn, shape, closes_append, counts.closes_nil (by simp), closes_append,
                List.nil_append] at member
              rcases List.mem_append.mp member with inside | self
              · exact (severed large inside).elim
              · simpa [closes, Act.closes, eq_comm] using self
          | false =>
              rcases relaying_script state.nextId popped large with
                none_ | ⟨exceeds, front, quiet, shape⟩
              · have member := closes_done ran
                rw [taskTurn, none_] at member
                exact absurd member List.not_mem_nil
              · have script : (taskTurn env now (state.pop source rest) source state.nextId
                    (.message frame random fault)).script = front ++ (closeAll (state.home source)
                      (state.pop source rest) 1008 "daily quota exceeded" ++ []) := shape
                rw [script] at ran
                have through := emptied_whole quiet (by simp) ran
                rw [← script, ← cut_short happens] at through
                obtain ⟨routed, _⟩ := closed_only quiet (by simp) Within.nil List.not_mem_nil ran
                exact ((ends_alone calm.1.1 starts admitted).2 frame random fault rfl large
                  through).1 exceeds other routed
        · have unadmitted : ∀ role, state.admission source ≠ some (.admitted role) :=
            fun role slot => admitted ⟨role, holds_iff.mpr slot⟩
          rcases @unadmitted_script env state now source frame random fault rest drained free next
            unadmitted with only | ⟨join, joins, joined, rfl, shape⟩
          · exact only other (closes_done ran)
          · exact joins_alone wired joins happens shape joined calm.1.2 closed
      · simpa [taskTurn, closes, Act.closes, eq_comm] using caught
  | closed =>
      rw [uncaught_acts rfl, taskTurn] at closed
      exact (severed rfl (closes_done closed)).elim
  | errored =>
      rw [uncaught_acts rfl, taskTurn] at closed
      exact (severed rfl (closes_done closed)).elim

-- The events of a socket reach no other socket where they are harmless.
theorem harmless_step (wired : Wired env state) (calm : harmless env state event = true)
    (acts_on : subject state event = some ws) :
    (∀ other ∈ closes (acts env state event), other = ws) ∧
      ∀ peer frame, .send peer (.relayed frame) ∉ acts env state event := by
  have parts := calm
  simp only [harmless, Bool.and_eq_true] at parts
  refine ⟨?_, alone_relays parts.1.1⟩
  intro other closed
  unfold acts at closed
  cases happens : turn env state event with
  | none => simp [happens] at closed
  | some met =>
      rw [happens] at closed
      have closed : other ∈ closes met.acts := closed
      have turns := turn_turns happens
      cases turns with
      | task now source task rest drained free next =>
          rw [subject, drained] at acts_on
          obtain rfl : source = ws := Option.some.inj acts_on
          exact task_alone wired drained free next happens calm closed
      | resume now id random fault handler found idle =>
          obtain ⟨suspended, numbered⟩ := mem_find found
          obtain ⟨handlerId, ctx, await⟩ := handler
          obtain rfl : handlerId = id := numbered
          simp only [subject, found, Option.bind_some] at acts_on
          cases await with
          | upgradeTag opened =>
              obtain rfl : opened = ws := Option.some.inj acts_on
              rcases closes_acts closed with ran | ⟨_, thrown⟩
              · have inside : other ∈ closes (finishUpgrade env now ctx
                    (state.wake handlerId (Await.upgradeTag opened).drains) opened) :=
                  closes_done ran
                rw [finishUpgrade, closes_append, closes_append,
                  (backfillTag_within ..).closes_nil (by simp),
                  (ensureAlarm_within ..).closes_nil (by simp), List.nil_append, List.append_nil,
                  closes_evictExcessPreAuth] at inside
                have few : (preAuth ctx state).length ≤ maxPreauthSockets := by
                  simpa [upgradesAlone, found, turn_free happens] using parts.2
                have none_ : (oldestFirst ctx
                    (state.wake handlerId (Await.upgradeTag opened).drains)).length -
                      maxPreauthSockets = 0 := by
                  rw [oldestFirst, List.length_insertionSort]
                  exact Nat.sub_eq_zero_of_le few
                rw [none_] at inside
                exact absurd inside List.not_mem_nil
              · simpa [closes, Act.closes, Await.onThrow, eq_comm] using thrown
          | proofSignature check =>
              obtain rfl : check.ws = ws := Option.some.inj acts_on
              rcases finishProof_joining now handlerId random fault ctx check found
                (turn_free happens) with ⟨_, refused⟩ | ⟨join, joins, joined, script, _⟩
              · rcases closes_acts closed with ran | ⟨_, thrown⟩
                · have inside : other ∈ closes (finishProof env now ctx
                      (state.wake handlerId (some check.ws)) random check) := closes_done ran
                  rw [refused] at inside
                  exact reject_only check.ws _ other inside
                · simpa [closes, Act.closes, Await.onThrow, eq_comm] using thrown
              · have same : join.ws = check.ws := by
                  cases joins with
                  | signature now id random fault ctx check found' verified =>
                      rw [found] at found'
                      cases found'
                      rfl
                rw [← same]
                exact joins_alone wired joins happens script joined parts.1.2 closed
          | _ => cases acts_on
      | chunk =>
          rw [Turn.acts_idle rfl] at closed
          exact absurd closed List.not_mem_nil
      | ended =>
          rw [Turn.acts_idle rfl] at closed
          exact absurd closed List.not_mem_nil
      | idle =>
          rw [Turn.acts_idle rfl] at closed
          exact absurd closed List.not_mem_nil
      | _ => simp [subject] at acts_on

end Reach

section Sole
variable {env : Env} {state : State} {event : Event} {met : Turn} {past : List (State × Event)}
  {ws : SocketId} {role : Role}

theorem Shut.later (shut : Shut env past ws) (after : List (State × Event)) :
    Shut env (past ++ after) ws := by
  obtain ⟨met, member, closed⟩ := shut
  exact ⟨met, List.mem_append_left _ member, closed⟩

theorem Turns.attaches_attached (wired : Wired env state) (turns : Turns env state event met)
    {value : Attachment} (member : .attach ws value ∈ met.acts)
    (unseen : state.attachment ws = none) :
    ∃ now, event = .connect now ws := by
  have ran : .attach ws value ∈ met.script := by
    rcases turn_act member with ran | caught
    · exact ran
    · exact absurd (turns.on_throw.each _ caught) (by simp)
  have blank : state.admission ws = none := by simp [State.admission, unseen]
  have fits := turns.script_within
  cases turns with
  | connect now other ctx resident unseen' =>
      simp only [handleUpgrade, List.mem_cons, reduceCtorEq, Act.attach.injEq, List.not_mem_nil,
        or_false, false_or] at ran
      obtain ⟨rfl, _⟩ := ran
      exact ⟨now, rfl⟩
  | task now other task rest drained free next =>
      cases task with
      | message frame random fault =>
          have same := (webSocketMessage_attaches env now (state.home other) (state.pop other rest)
            state.nextId other random frame).only _ _ ran
          subst same
          have popped : (state.pop ws rest).attachment ws = none := unseen
          have waits : (state.pop ws rest).admission ws = none := blank
          have ran : .attach ws value ∈ webSocketMessage env now (state.home ws) (state.pop ws rest)
            state.nextId ws random frame := ran
          unfold webSocketMessage at ran
          split at ran
          · exact absurd ran ((closeBoth_within ..).lacks (by simp))
          · simp only [waits, handleHello, popped] at ran
            split at ran
            · rename_i absurd_
              cases absurd_
            · simp at ran
      | closed => exact absurd ((closePeerOf_within ..).each _ ran) (by simp)
      | errored => exact absurd ((closePeerOf_within ..).each _ ran) (by simp)
  | resume now id random fault handler found quiet =>
      obtain ⟨suspended, _⟩ := mem_find found
      cases await : handler.await with
      | upgradeTag target =>
          simp only [await, continuation] at ran
          have kept := finishUpgrade_admission env now handler.ctx _ target ws value ran
          rw [kept.1, (wired.upgrading handler suspended target await).1] at blank
          cases blank
      | proofSignature check =>
          simp only [await, continuation] at ran
          have same := (finishProof_attaches env now handler.ctx _ random check).only _ _ ran
          obtain ⟨nonce, flag, challenged, _⟩ :=
            (wired.proving handler suspended check await).challenged
          rw [same, challenged] at blank
          cases blank
      | _ =>
          have none_ := (continuation_attaches env now handler.ctx
            (state.wake id handler.await.drains) random id handler.await
            (by simp [await, Await.concerns]) (ws + 1)).only _ _ ran
          exact absurd none_ (by simp)
  | request now request random fault ctx resident =>
      exact absurd (List.mem_append_right _ (fits.each _ ran)) (request_plain env request).2
  | get => simp at ran
  | chunk => simp at ran
  | ended => simp at ran
  | idle => simp at ran
  | fire => exact absurd (fits.each _ ran) (by simp [footprint])
  | alarm => exact absurd (fits.each _ ran) (by simp [footprint])
  | drain => exact absurd (fits.each _ ran) (by simp [footprint])
  | restart => simp at ran

theorem attached_cases (wired : Wired env state)
    (attached : (step env state event).attachment ws ≠ none) :
    state.attachment ws ≠ none ∨ ∃ now, event = .connect now ws := by
  by_cases unseen : state.attachment ws = none
  · right
    rcases step_cases env state event with ⟨_, same⟩ | ⟨met, turns, performed, _⟩
    · rw [same] at attached
      exact absurd unseen attached
    · rw [step_attachment, performed] at attached
      rcases attachment_after met.acts state.attachment ws with kept | ⟨value, member, _⟩
      · rw [kept] at attached
        exact absurd unseen attached
      · exact turns.attaches_attached wired member unseen
  · exact .inl unseen

/-- A socket that has been upgraded is routable, or nothing is read from it any more, or the
relay has closed it. -/
def Accounted (env : Env) (past : List (State × Event)) (state : State) : Prop :=
  ∀ ws, state.attachment ws ≠ none →
    state.routable ws ∨ state.deaf ws = true ∨ Shut env past ws

theorem Turns.start_deaf (turns : Turns env state event met)
    (attached : state.attachment ws ≠ none) (deaf : state.deaf ws = true) :
    met.start.deaf ws = true := by
  cases turns with
  | get now absent quiet =>
      rw [init_keeps]
      exact deaf
  | connect now opened ctx resident unseen =>
      have apart : ws ≠ opened := by
        rintro rfl
        exact attached unseen
      simpa only [State.enter, freshSocket, Function.update_of_ne apart] using deaf
  | chunk target frames tail attached' hears upgraded quiet =>
      cases tail with
      | none => exact deaf
      | _ =>
          simp only [hangUp, State.closeSocket, State.push, Function.update_apply]
          split
          · rfl
          · exact deaf
  | ended target attached' open_ quiet =>
      rw [maybe_evict_live]
      simp only [endSocket, State.push, Function.update_apply]
      split
      · rfl
      · exact deaf
  | task now target task rest drained free next => cases task <;> exact deaf
  | restart now =>
      dsimp only [Relay.restart]
      split
      · rfl
      · rw [maybe_evict_live, init_keeps]
        rfl
  | _ => exact deaf

theorem Turns.result_deaf (turns : Turns env state event met) :
    met.result.deaf = met.start.deaf := by
  have replayed : (replay met.ctx met.start met.acts).deaf = met.start.deaf := by
    apply Script.replay_keeps (perform met.ctx) State.deaf met.acts
    intro act _ state
    cases act <;> rfl
  unfold Turn.result
  rcases turns.finish_keeps (replay met.ctx met.start met.acts) with same | evicted
  · rw [same, replayed]
  · rw [evicted, maybe_evict_live]
    exact replayed

theorem Turns.gone_deaf (turns : Turns env state event met) (wired : Wired env state)
    (routed : state.routable ws) (gone : ws ∉ met.start.sockets (state.home ws)) :
    met.start.deaf ws = true := by
  cases turns with
  | get now absent quiet =>
      have resident := (wired.anchored _ _ routed).1
      rw [absent] at resident
      cases resident
  | chunk target frames tail attached hears upgraded quiet =>
      by_cases same : ws = target
      · subst same
        cases tail with
        | none => exact absurd routed gone
        | _ => exact Function.update_self ..
      · cases tail with
        | none => exact absurd routed gone
        | _ => exact absurd (mem_closed same routed) gone
  | ended target attached open_ quiet =>
      rw [maybe_evict_live] at gone ⊢
      by_cases same : ws = target
      · subst same
        exact Function.update_self ..
      · exact absurd (mem_closed same routed) gone
  | task now target task rest drained free next => cases task <;> exact absurd routed gone
  | restart now =>
      dsimp only [Relay.restart]
      split
      · rfl
      · rw [maybe_evict_live, init_keeps]
        rfl
  | _ => exact absurd routed gone

theorem accounted_step (wired : Wired env state) (accounted : Accounted env past state) :
    Accounted env (past ++ [(state, event)]) (step env state event) := by
  intro ws attached
  cases happens : turn env state event with
  | none =>
      have same : step env state event = state := by rw [step, happens]
      rw [same] at attached ⊢
      rcases accounted ws attached with routed | deaf | shut
      · exact .inl routed
      · exact .inr (.inl deaf)
      · exact .inr (.inr (shut.later _))
  | some met =>
      have turns := turn_turns happens
      have result : step env state event = met.result := by rw [step, happens]
      have deaf_ : met.start.deaf ws = true → (step env state event).deaf ws = true := by
        intro deaf
        rwa [result, turns.result_deaf]
      rcases attached_cases wired attached with before | ⟨now, rfl⟩
      · rcases accounted ws before with routed | deaf | shut
        · by_cases there : ws ∈ met.start.sockets (state.home ws)
          · by_cases closed : ws ∈ closes met.acts
            · refine .inr (.inr ⟨(state, event), by simp, ?_⟩)
              simpa only [acts, happens] using closed
            · exact .inl (routable_kept happens before there closed)
          · exact .inr (.inl (deaf_ (turns.gone_deaf wired routed there)))
        · exact .inr (.inl (deaf_ (turns.start_deaf before deaf)))
        · exact .inr (.inr (shut.later _))
      · cases turns with
        | connect now opened ctx resident unseen =>
            left
            rw [result]
            change (replay ctx (freshSocket ws state).enter
              (handleUpgrade env now state.nextId ws)).routable ws
            simp [handleUpgrade, perform, State.routable]

theorem queued_cases (attached : state.attachment ws ≠ none)
    (pending : queued ws (step env state event) ≠ []) :
    queued ws state ≠ [] ∨
      state.deaf ws = false ∧ ∃ frames tail, event = .chunk ws frames tail := by
  cases process : event.isRestart with
  | true =>
      cases event with
      | restart now =>
          refine absurd ?_ pending
          have chain : (restart now state).chain ws = [] := by
            dsimp only [restart]
            split
            · rfl
            · rw [maybe_evict_live, init_keeps]
              rfl
          change (((restart now state).chain ws).filterMap Task.frame) = []
          rw [chain, List.filterMap_nil]
      | _ => simp [Event.isRestart] at process
  | false =>
      have queues : queued ws state ++ delivered env ws (state, event) =
          handled ws (state, event) ++ queued ws (step env state event) :=
        step_queues attached process
      by_cases old : queued ws state = []
      · have fresh : delivered env ws (state, event) ≠ [] := by
          intro none_
          rw [old, none_] at queues
          exact pending (List.append_eq_nil_iff.mp queues.symm).2
        right
        cases event with
        | chunk target frames tail =>
            simp only [delivered] at fresh
            split at fresh
            · rename_i reads
              obtain ⟨rfl, runs⟩ := reads
              obtain ⟨met, happens⟩ := Option.isSome_iff_exists.mp runs
              cases turn_turns happens with
              | chunk _ _ _ attached' hears upgraded quiet => exact ⟨hears, frames, tail, rfl⟩
            · exact absurd rfl fresh
        | _ => exact absurd rfl fresh
      · exact .inl old

/-- A holder with frames on its chain has no other holder of its slot beside it, unless the relay
has closed it. -/
def Unrivalled (env : Env) (past : List (State × Event)) (state : State) : Prop :=
  ∀ ws role, state.holds ws role = true → queued ws state ≠ [] → ¬ Shut env past ws →
    ∀ other ∈ state.sockets (state.home ws), state.holds other role = true → other = ws

theorem unrivalled_step (wired : Wired env state) (single : SingleHolder state)
    (accounted : Accounted env past state) (served : Served state)
    (unrivalled : Unrivalled env past state) :
    Unrivalled env (past ++ [(state, event)]) (step env state event) := by
  intro ws role holds pending open_ other there held
  have unshut : ¬ Shut env past ws := fun shut => open_ (shut.later _)
  rcases holds_cases holds with old | seats
  · have attached := held_attached old
    have anchor := (wired_step wired).anchored _ _ there
    have home : (step env state event).home other = state.home ws := by
      rw [anchor.2.1, home_stays attached]
    rcases holds_cases held with old' | seats
    · have after : (step env state event).routable other := by
        rw [State.routable, anchor.2.1]
        exact there
      have routed := routable_attached (held_attached old') after
      rcases queued_cases attached pending with before | ⟨hears, _⟩
      · rw [home_stays (held_attached old')] at home
        exact unrivalled ws role old before unshut other (home ▸ routed) old'
      · rcases accounted ws attached with here | deaf | shut
        · exact single role other ws routed here old' old
        · rw [hears] at deaf
          exact Bool.noConfusion deaf
        · exact absurd shut unshut
    · obtain ⟨join, met, seated, _, rfl, rfl⟩ := seats.seated wired
      have joins := seated.joins
      have before : queued ws state ≠ [] := by
        refine (queued_cases attached pending).resolve_right ?_
        rintro ⟨_, frames, tail, rfl⟩
        cases joins
      have chain : state.chain ws ≠ [] := by
        intro empty
        exact before (by rw [queued, empty, List.filterMap_nil])
      rcases served ws chain with runs | waits
      · cases joins with
        | pairing now target role nonce yields frame random fault rest window lead attest drained
            free next =>
            rw [runs] at drained
            exact (Option.some.inj drained).symm
        | signature now id random fault ctx check found verified =>
            have free := turn_free seated.happens
            simp [State.busy, runs] at free
      · obtain ⟨handler, member, proof⟩ := verifying_iff.mp waits
        obtain ⟨check, await, rfl⟩ := isProofOf_iff.mp proof
        obtain ⟨nonce, flag, challenged, _⟩ := (wired.proving handler member check await).challenged
        simp [State.holds, challenged] at old
  · obtain ⟨join, met, seated, _, rfl, rfl⟩ := seats.seated wired
    by_contra apart
    rw [seated.home] at there
    exact seated.alone wired apart held there

/-- What is known of the sockets and their chains after a run. -/
structure Tracked (env : Env) (past : List (State × Event)) (state : State) : Prop where
  wired : Wired env state
  single : SingleHolder state
  accounted : Accounted env past state
  served : Served state
  unrivalled : Unrivalled env past state

theorem Tracked.after (tracked : Tracked env past state) (event : Event) :
    Tracked env (past ++ [(state, event)]) (step env state event) where
  wired := wired_step tracked.wired
  single := single_holder_step tracked.wired tracked.single
  accounted := accounted_step tracked.wired tracked.accounted
  served := served_step tracked.wired tracked.served
  unrivalled := unrivalled_step tracked.wired tracked.single tracked.accounted tracked.served
    tracked.unrivalled

theorem tracked_run (env : Env) (events : List Event) :
    Tracked env (steps env events) (run env events) := by
  have invariant := Machine.history_invariant (step env) (Tracked env) (fun _ _ _ => True)
    (fun _ _ event tracked _ => tracked.after event) [] initial
    ⟨Wired.initial env, by simp [SingleHolder, initial, State.routable],
      fun ws attached => absurd rfl attached, fun ws pending => absurd rfl pending,
      fun ws role holds => absurd rfl (held_attached holds)⟩ events fun _ _ _ _ => trivial
  rwa [List.nil_append] at invariant

-- A frame comes from the only holder of the other slot.
theorem relayed_sole (tracked : Tracked env past state)
    (calm : ∀ ws, subject state event = some ws → Shut env past ws →
      harmless env state event = true) {peer : SocketId} {frame : Frame}
    (member : .send peer (.relayed frame) ∈ acts env state event)
    (holds : state.holds peer role = true) :
    ∃ ws, subject state event = some ws ∧ state.holds ws role.other = true ∧
      ¬ Shut env past ws ∧ ∀ other, state.seated other role.other → other = ws := by
  obtain ⟨now, ws, random, fault, slot, rfl, starts, held, _, _, _, reached⟩ := relayed_from member
  obtain ⟨there, _, opposite⟩ := mem_holders.mp reached
  obtain rfl : slot = role.other := by
    rw [holds_iff] at holds opposite
    rw [holds] at opposite
    cases slot <;> cases role <;> simp_all [Role.other]
  have acts_on : subject state (.run now) = some ws := starts.drained
  have open_ : ¬ Shut env past ws := fun shut =>
    (harmless_step tracked.wired (calm ws acts_on shut) acts_on).2 peer frame member
  refine ⟨ws, acts_on, held, open_, fun other seated => ?_⟩
  have pending : queued ws state ≠ [] := by
    obtain ⟨rest, next⟩ := List.head?_eq_some_iff.mp starts.next
    simp [queued, next, Task.frame]
  have live := (tracked.wired.anchored _ _ there).1
  have anchor := tracked.wired.anchored _ _ seated.1
  rw [anchor.1] at live
  have home : state.home other = state.home ws := Option.some.inj live
  exact tracked.unrivalled ws _ held pending open_ other (home ▸ seated.1) seated.2

end Sole

/-- In a run in which the events of closed sockets are harmless, these sockets are inert. -/
theorem inert_once_closed (env : Env) (events : List Event)
    (calm : ∀ before met after, steps env events = before ++ met :: after →
      ∀ ws, subject met.1 met.2 = some ws → Shut env before ws →
        harmless env met.1 met.2 = true) : InertOnceClosed env events := by
  have tracked : ∀ before met after, steps env events = before ++ met :: after →
      Tracked env before met.1 := by
    intro before met after split
    obtain ⟨earlier, later, _, rfl, state, _⟩ := Machine.steps_split _ _ _ _ _ _ split
    rw [state]
    exact tracked_run env earlier
  constructor
  · intro before met after split ws acts_on shut
    exact harmless_step (tracked before met after split).wired
      (calm before met after split ws acts_on shut) acts_on
  · intro before met after split peer frame role member holds
    exact relayed_sole (tracked before met after split) (calm before met after split) member holds

theorem each_split {Met : Type*} {Holds : List Met → Met → Prop} {past : List Met}
    (all : ∀ index < past.length, ∀ met ∈ past[index]?, Holds (past.take index) met) :
    ∀ before met after, past = before ++ met :: after → Holds before met := by
  rintro before met after rfl
  simpa using all before.length (by simp) met (by simp)

/-- A phone displaces another, and the end of the other's socket comes. -/
def phoneReplaced : List Event :=
  pairedRoom ++ joins 1 2 7 phoneHello openProof [3] ++
    [.ended 1, .run 1, .chunk 0 [(cipherText, [], none)] .none, .run 1]

theorem displaced_inert : InertOnceClosed (sampleEnv false) phoneReplaced := by
  apply inert_once_closed
  apply each_split
  decide +kernel

/-- A phone displaces another, which sends a frame before its socket has ended. -/
def displacedSends : List Event :=
  pairedRoom ++ joins 1 2 7 phoneHello openProof [3] ++ [.chunk 1 [(cipherText, [], none)] .none]

theorem displaced_forwards : ¬ InertOnceClosed (sampleEnv false) (displacedSends ++ [.run 1]) := by
  have forwards : (let env := sampleEnv false
      subject (run env displacedSends) (.run 1) = some 1 ∧ Shut env (steps env displacedSends) 1 ∧
      .send 0 (.relayed cipherText) ∈ acts env (run env displacedSends) (.run 1)) := by
    decide +kernel
  obtain ⟨acts_on, shut, sent⟩ := forwards
  intro inert
  have split : steps (sampleEnv false) (displacedSends ++ [.run 1]) =
      steps (sampleEnv false) displacedSends ++ [(run (sampleEnv false) displacedSends, .run 1)] :=
    Machine.steps_append ..
  exact (inert.inert _ _ [] split 1 acts_on shut).2 0 cipherText sent

end Relay

import CompanionRelay.Admission

/-!
What closes a socket. The routable sockets after a script are those before it that it
closes none of, and a turn that reaches deleteAll has closed every socket of its
context first.
-/

namespace Relay

section Closes

def Act.closes : Act → Option SocketId
  | .close ws _ _ => some ws
  | _ => none

/-- The sockets a script closes. -/
def closes (script : List Act) : List SocketId := script.filterMap Act.closes

@[simp] theorem closes_nil : closes [] = [] := rfl

@[simp] theorem closes_append (first second : List Act) :
    closes (first ++ second) = closes first ++ closes second := by
  simp [closes]

theorem mem_closes {script : List Act} {ws : SocketId} :
    ws ∈ closes script ↔ ∃ code reason, Act.close ws code reason ∈ script := by
  simp only [closes, List.mem_filterMap]
  constructor
  · rintro ⟨act, member, same⟩
    cases act with
    | close other code reason =>
        obtain rfl : other = ws := by simpa [Act.closes] using same
        exact ⟨code, reason, member⟩
    | _ => simp [Act.closes] at same
  · rintro ⟨code, reason, member⟩
    exact ⟨_, member, rfl⟩

theorem Within.closes_nil {verbs : List Verb} {script : List Act} (fits : Within verbs script)
    (missing : Verb.close ∉ verbs) : closes script = [] := by
  rw [List.eq_nil_iff_forall_not_mem]
  intro ws member
  obtain ⟨code, reason, inside⟩ := mem_closes.mp member
  exact missing (fits.each _ inside)

@[simp] theorem closes_map (sockets : List SocketId) (code : Nat) (reason : String) :
    closes (sockets.map (.close · code reason)) = sockets := by
  induction sockets with
  | nil => rfl
  | cons ws rest ih => exact congrArg (List.cons ws) ih

theorem mem_replay_sockets (ctx : ContextId) (state : State) (script : List Act)
    (unaccepted : ∀ ws, Act.accept ws ∉ script) (other : ContextId) (ws : SocketId) :
    ws ∈ (replay ctx state script).sockets other ↔
      ws ∈ state.sockets other ∧ ¬ (state.home ws = other ∧ ws ∈ closes script) := by
  induction script generalizing state with
  | nil => simp
  | cons act rest ih =>
      have later : ∀ target, Act.accept target ∉ rest :=
        fun target member => unaccepted target (List.mem_cons_of_mem act member)
      rw [replay_cons, ih (perform ctx state act) later]
      cases act with
      | accept target => exact absurd (by simp) (unaccepted target)
      | close target code reason =>
          have head : closes (.close target code reason :: rest) = target :: closes rest := rfl
          rw [head]
          simp only [perform, State.closeSocket, Function.update_apply, List.mem_cons]
          by_cases here : other = state.home target
          · subst here
            by_cases same : ws = target
            · subst same
              simp
            · simp [same]
          · have apart : ∀ same : ws = target, state.home ws ≠ other := by
              rintro rfl back
              exact here back.symm
            by_cases same : ws = target
            · simp [here, apart same]
            · simp [here, same]
      | _ => rfl

theorem mem_closeAll {ctx : ContextId} {state : State} {code : Nat} {reason : String}
    {ws : SocketId} : ws ∈ closes (closeAll ctx state code reason) ↔ ws ∈ state.sockets ctx := by
  rw [closeAll, closes_map]

end Closes

section Teardown
variable {env : Env} {state : State} {event : Event} {met : Turn}

theorem teardownRoom_eq (ctx : ContextId) (first second : State) (reason : String)
    (same : first.sockets ctx = second.sockets ctx) :
    teardownRoom ctx first reason = teardownRoom ctx second reason := by
  simp only [teardownRoom, closeAll, same]

/-- A script without a wipe, then a teardownRoom of what is left of the context and
perhaps the answer to the request for it. -/
def TearsDown (ctx : ContextId) (start : State) (script : List Act) : Prop :=
  ∃ lead reason rest, script = lead ++ (teardownRoom ctx (replay ctx start lead) reason ++ rest) ∧
    .deleteAll ∉ lead ∧ (∀ ws, Act.accept ws ∉ lead) ∧ Within [.reply, .suspend] rest

theorem replay_sockets_kept {verbs : List Verb} (ctx : ContextId) (start : State)
    {script : List Act} (fits : Within verbs script)
    (apart : Verb.close ∉ verbs ∧ Verb.accept ∉ verbs) :
    (replay ctx start script).sockets = start.sockets := by
  apply Script.replay_keeps (perform ctx) State.sockets script
  intro act member state
  have verb := fits.each act member
  cases act with
  | close ws code reason => exact absurd verb apart.1
  | accept ws => exact absurd verb apart.2
  | _ => rfl

theorem TearsDown.intro {verbs : List Verb} {ctx : ContextId} {start : State}
    {lead rest script : List Act} (mid : State) (reason : String) (fits : Within verbs lead)
    (apart : Verb.deleteAll ∉ verbs ∧ Verb.accept ∉ verbs)
    (left : (replay ctx start lead).sockets ctx = mid.sockets ctx)
    (answers : Within [.reply, .suspend] rest)
    (shape : script = lead ++ (teardownRoom ctx mid reason ++ rest)) :
    TearsDown ctx start script :=
  ⟨lead, reason, rest, by rw [shape, teardownRoom_eq ctx _ mid reason left],
    fun member => apart.1 (fits.each _ member), fun _ => fits.lacks apart.2, answers⟩

theorem Joins.tears_down (wired : Wired env state) {join : Join}
    (joins : Joins env state event join) (start : State) (sockets : start.sockets = state.sockets)
    (member : .deleteAll ∈ join.script env) :
    TearsDown join.ctx start (join.script env) ∧ state.live = some join.ctx := by
  have lead := joins.lead_within
  have kept : ∀ verbs {script}, Within verbs script → Verb.deleteAll ∉ verbs →
      .deleteAll ∉ join.lead ++ script := by
    intro verbs script fits missing inside
    rcases List.mem_append.mp inside with early | late
    · exact absurd (lead.each _ early) (by simp)
    · exact absurd (fits.each _ late) missing
  unfold Join.script at member ⊢
  rcases admit_cases env join.now join.ctx join.mid join.random join.ws join.role join.attest with
    ⟨whole, _⟩ | ⟨whole, _, _, parked, _⟩ | ⟨whole, _⟩
  · rw [whole] at member
    exact absurd member (kept [.read, .send, .close] (by simp [reject]) (by simp))
  · rw [whole]
    have front : Within [.count, .read, .deleteTicket, .putLastActivity, .getAlarm, .setAlarm]
        (join.lead ++ [.get, .get]) := Within.append_iff.mpr ⟨lead, by simp⟩
    constructor
    · refine .intro join.mid "pairing cycle cap" front (by simp) ?_ Within.nil (by simp)
      rw [replay_sockets_kept join.ctx start front (by simp), sockets, joins.same_room.sockets]
    · obtain ⟨mac, holds⟩ := List.exists_mem_of_ne_nil _ parked
      have routed := (List.mem_filter.mp holds).1
      rw [joins.same_room.sockets] at routed
      exact (wired.anchored join.ctx mac routed).1
  · rw [whole] at member
    refine absurd member (kept [.read, .putPairingCycles, .send, .close, .attach, .sendOk,
      .putRegToken, .getAlarm, .setAlarm] ?_ (by simp))
    refine Within.append_iff.mpr ⟨Within.cons_iff.mpr ⟨by simp, ?_⟩, (takeSlot_within ..).mono
      (by simp)⟩
    unfold charge
    split <;> split <;> simp

/-- The part of alarm() before it wipes the room or sets the next alarm. -/
def alarmFront (now : Nat) (state : State) (seen : List SocketId) : List Act :=
  sweepPreAuth now state seen ++ pruneExpired now state ++
    .get :: if established state then
      .get :: if state.store.lastActivity = none then [.put (.lastActivity now)] else []
    else []

theorem alarmFront_within (now : Nat) (state : State) (seen : List SocketId) :
    Within [.close, .read, .deleteTicket, .deleteRegToken, .deleteChallenge, .putLastActivity]
      (alarmFront now state seen) := by
  simp only [alarmFront, Within.append_iff, Within.cons_iff]
  refine ⟨⟨Within.map_of (by simp), (pruneExpired_within ..).mono (by simp)⟩, by simp, ?_⟩
  split
  · split <;> simp
  · simp

theorem alarm_cases (env : Env) (now : Nat) (ctx : ContextId) (state : State)
    (seen : List SocketId) :
    (reaps env now state = true ∧ alarm env now ctx state seen =
      alarmFront now state seen ++
        teardownRoom ctx (replay ctx state (alarmFront now state seen)) "room expired") ∨
    (reaps env now state = false ∧ ∃ next, nextAlarm env now state seen = some next ∧
      alarm env now ctx state seen = alarmFront now state seen ++ [.setAlarm next]) ∨
    (reaps env now state = false ∧ nextAlarm env now state seen = none ∧
      alarm env now ctx state seen = alarmFront now state seen) := by
  cases reaped : reaps env now state with
  | true =>
      refine .inl ⟨rfl, ?_⟩
      have stamp : Within [.read, .putLastActivity] (.get :: if established state then
          .get :: if state.store.lastActivity = none then [.put (.lastActivity now)] else []
          else []) := by
        refine Within.cons_iff.mpr ⟨by simp, ?_⟩
        split
        · split <;> simp
        · simp
      have same : (replay ctx state (alarmFront now state seen)).sockets ctx =
          (replay ctx state (sweepPreAuth now state seen ++ pruneExpired now state)).sockets ctx := by
        rw [alarmFront, replay_append]
        exact congrFun (replay_sockets_kept ctx _ stamp (by simp)) ctx
      rw [teardownRoom_eq ctx _ _ _ same]
      simp [alarm, alarmFront, reaped]
  | false =>
      right
      cases next : nextAlarm env now state seen with
      | none => exact .inr ⟨rfl, rfl, by simp [alarm, alarmFront, reaped, next]⟩
      | some at_ => exact .inl ⟨rfl, at_, rfl, by simp [alarm, alarmFront, reaped, next]⟩

theorem reaps_established {now : Nat} {start : State} (reaped : reaps env now start = true) :
    established start = true := by
  by_contra unregistered
  rw [Bool.not_eq_true] at unregistered
  simp [reaps, idleDeadline, unregistered] at reaped

theorem alarm_wipes (now : Nat) (ctx : ContextId) (start : State) (seen : List SocketId)
    (member : .deleteAll ∈ alarm env now ctx start seen) : reaps env now start = true := by
  have unwiped : .deleteAll ∉ alarmFront now start seen := (alarmFront_within ..).lacks (by simp)
  rcases alarm_cases env now ctx start seen with ⟨reaped, _⟩ | ⟨_, next, _, whole⟩ | ⟨_, _, whole⟩
  · exact reaped
  · rw [whole] at member
    simp [unwiped] at member
  · rw [whole] at member
    exact absurd member unwiped

theorem alarm_tears_down (now : Nat) (ctx : ContextId) (start : State) (seen : List SocketId)
    (member : .deleteAll ∈ alarm env now ctx start seen) :
    TearsDown ctx start (alarm env now ctx start seen) ∧ established start = true := by
  have reaped := alarm_wipes now ctx start seen member
  refine ⟨?_, reaps_established reaped⟩
  rcases alarm_cases env now ctx start seen with ⟨_, whole⟩ | ⟨spared, _⟩ | ⟨spared, _⟩
  · rw [whole]
    exact .intro _ "room expired" (alarmFront_within now start seen) (by simp) rfl Within.nil
      (by simp)
  · rw [reaped] at spared
    exact Bool.noConfusion spared
  · rw [reaped] at spared
    exact Bool.noConfusion spared

theorem Turns.connects (turns : Turns env state event met) {ws : SocketId}
    (member : .accept ws ∈ met.acts) : ∃ now opened, event = .connect now opened := by
  have verb := (turns.within turns.script_within).each _ member
  cases turns with
  | connect now opened ctx resident unseen => exact ⟨now, opened, rfl⟩
  | task now other task rest drained unproved next =>
      cases task <;> simp [footprint, drained, next] at verb
  | resume now id random fault handler found quiet =>
      simp only [footprint, found, Option.map_some, Option.getD_some] at verb
      cases await : handler.await <;> simp [await] at verb
  | request now request random fault ctx resident =>
      exact absurd verb (request_plain env request).1
  | idle now other drained stopped =>
      simp only [footprint, drained, Option.map_some] at verb
      split at verb <;> simp at verb
  | _ => simp [footprint] at verb

theorem Turns.accepts (turns : Turns env state event met) {ws : SocketId}
    (member : .accept ws ∈ met.acts) : Within [.accept, .attach, .suspend] met.acts := by
  obtain ⟨now, opened, rfl⟩ := turns.connects member
  cases turns with
  | connect now opened ctx resident unseen =>
      constructor
      intro act inside
      rcases turn_act inside with ran | caught
      · exact (handleUpgrade_within ..).each act ran
      · simp at caught

-- A turn that wipes the room closes the sockets of its context first. It runs in the
-- registered context, but for the reap of an established room.
theorem Turns.tears_down (wired : Wired env state) (turns : Turns env state event met)
    (free : state.busy event = false) (member : .deleteAll ∈ met.script) :
    TearsDown met.ctx met.start met.script ∧
      (met.start.live = some met.ctx ∨ established met.start = true) := by
  have fits := turns.script_within
  cases turns with
  | task now ws task rest drained unproved next =>
      cases task with
      | message frame random fault =>
          rcases webSocketMessage_joining now ws frame random fault rest drained
            unproved next with ⟨_, _, plain⟩ | ⟨join, joins, _, script, ctx⟩
          · exact absurd (plain.each _ member) (by simp)
          · have script : (taskTurn env now (state.pop ws rest) ws state.nextId
              (.message frame random fault)).script = join.script env := script
            rw [script] at member ⊢
            rw [show (taskTurn env now (state.pop ws rest) ws state.nextId
              (.message frame random fault)).ctx = join.ctx from ctx.symm]
            exact (joins.tears_down wired (state.pop ws rest) rfl member).imp id .inl
      | closed => exact absurd ((closePeerOf_within ..).each _ member) (by simp)
      | errored => exact absurd ((closePeerOf_within ..).each _ member) (by simp)
  | resume now id random fault handler found quiet =>
      obtain ⟨suspended, numbered⟩ := mem_find found
      obtain ⟨handlerId, ctx, await⟩ := handler
      obtain rfl : handlerId = id := numbered
      simp only [footprint, found, Option.map_some, Option.getD_some] at fits
      cases await with
      | proofSignature check =>
          rcases finishProof_joining now handlerId random fault ctx check found free with
            ⟨_, refused⟩ | ⟨join, joins, _, script, rfl⟩
          · have member : Act.deleteAll ∈ finishProof env now ctx
              (state.wake handlerId (some check.ws)) random check := member
            rw [refused] at member
            exact absurd ((reject_within ..).each _ member) (by simp)
          · have script : continuation env now join.ctx (state.wake handlerId (some check.ws)) random
              handlerId (.proofSignature check) = join.script env := script
            have torn := joins.tears_down wired (state.wake handlerId (some check.ws)) rfl
            rw [← script] at torn
            exact (torn member).imp id .inl
      | deleteTag =>
          have nothing : Within [] [] := Within.nil
          have answers := answer_within handlerId .delete 200 .ok
          exact ⟨.intro _ "room deleted" nothing (by simp) rfl (answers.mono (by simp)) rfl,
            .inl (wired.pinned _ suspended fun _ => rfl)⟩
      | _ => exact absurd (fits.each _ member) (by simp)
  | fire now ctx at_ fault armed due quiet =>
      exact (alarm_tears_down now ctx _ _ member).imp id .inr
  | alarm now ctx fault started => exact (alarm_tears_down now ctx _ _ member).imp id .inr
  | request now request random fault ctx resident =>
      cases request with
      | register body =>
          cases required : attestationRequired env <;>
            exact absurd (fits.each _ member) (by simp [footprint, required])
      | _ => exact absurd (fits.each _ member) (by simp [footprint])
  | get => simp at member
  | connect => simp [handleUpgrade] at member
  | chunk => simp at member
  | ended => simp at member
  | idle => simp at member
  | drain => exact absurd (fits.each _ member) (by simp [footprint])
  | restart => simp at member

theorem Turns.wipes (wired : Wired env state) (turns : Turns env state event met)
    (free : state.busy event = false) (member : .deleteAll ∈ met.acts) :
    (met.start.live = some met.ctx ∨ established met.start = true) ∧
      ∃ lead reason tail, met.acts =
          lead ++ closeAll met.ctx (replay met.ctx met.start lead) 1000 reason ++
            .deleteAll :: tail ∧
        (∀ ws, Act.accept ws ∉ lead) ∧
        Within [.deleteAlarm, .close, .reply, .suspend, .rearm] tail := by
  have ran : .deleteAll ∈ done met.fault met.script := by
    unfold Turn.acts at member
    rcases List.mem_append.mp member with ran | caught
    · exact ran
    · split at caught
      · exact absurd (turns.on_throw.each _ caught) (by simp)
      · simp at caught
  obtain ⟨⟨lead, reason, rest, shape, kept, leadAccepts, answers⟩, here⟩ :=
    turns.tears_down wired free (Script.done_subset _ _ ran)
  refine ⟨here, lead, reason, ?_⟩
  have shape : met.script =
      (lead ++ closeAll met.ctx (replay met.ctx met.start lead) 1000 reason) ++
        .deleteAll :: (.deleteAlarm :: rest) := by
    rw [shape]
    simp [teardownRoom]
  have first : .deleteAll ∉ lead ++ closeAll met.ctx (replay met.ctx met.start lead) 1000 reason := by
    intro inside
    rcases List.mem_append.mp inside with early | late
    · exact kept early
    · exact absurd ((closeAll_within ..).each _ late) (by simp)
  rw [shape] at ran
  obtain ⟨tail, whole, short⟩ := Script.done_through _ _ first ran
  rw [← shape] at whole
  have whole : done met.fault met.script = _ := whole
  refine ⟨tail ++ if threw met.fault met.script then met.onThrow else [], ?_, leadAccepts, ?_⟩
  · rw [Turn.acts, whole, List.append_assoc, List.cons_append]
  · apply Within.append_iff.mpr
    constructor
    · constructor
      intro act inside
      rcases List.mem_cons.mp (short.subset inside) with rfl | later
      · simp
      · have verb := answers.each act later
        revert verb
        generalize act.verb = verb
        cases verb <;> simp
    · split
      · exact turns.on_throw.mono (by simp)
      · exact Within.nil

theorem Turns.wiped (wired : Wired env state) (turns : Turns env state event met)
    (free : state.busy event = false) (member : .deleteAll ∈ met.acts) :
    (replay met.ctx met.start met.acts).sockets met.ctx = [] ∧
      (met.start.live = some met.ctx ∨ established met.start = true) := by
  obtain ⟨here, lead, reason, tail, whole, leadAccepts, _⟩ := turns.wipes wired free member
  refine ⟨?_, here⟩
  have unaccepted : ∀ ws, Act.accept ws ∉ met.acts := by
    intro ws inside
    exact absurd ((turns.accepts inside).each _ member) (by simp)
  rw [List.eq_nil_iff_forall_not_mem]
  intro ws routed
  obtain ⟨there, closed⟩ :=
    (mem_replay_sockets met.ctx met.start met.acts unaccepted met.ctx ws).mp routed
  have home := ((turns.wired_start wired).anchored met.ctx ws there).2.1
  apply closed
  refine ⟨home, ?_⟩
  have ended : ws ∈ closes (lead ++ closeAll met.ctx (replay met.ctx met.start lead) 1000 reason) := by
    rw [closes_append, List.mem_append, mem_closeAll,
      mem_replay_sockets met.ctx met.start lead leadAccepts met.ctx ws]
    by_cases early : ws ∈ closes lead
    · exact .inl early
    · exact .inr ⟨there, fun both => early both.2⟩
  rw [whole, closes_append]
  exact List.mem_append_left _ ended

theorem store_kept {verbs : List Verb} {script : List Act} (fits : Within verbs script)
    (apart : ∀ verb ∈ verbs, verb ∈ [Verb.deleteAlarm, .close, .reply, .suspend, .rearm])
    (store : Store) : script.foldl Store.after store = store := by
  induction script generalizing store with
  | nil => rfl
  | cons act rest ih =>
      rw [Within.cons_iff] at fits
      have verb := apart _ fits.1
      rw [List.foldl_cons, ih fits.2]
      cases act with
      | put row => cases row <;> simp at verb
      | delete key => cases key <;> simp at verb
      | deleteAll => simp at verb
      | _ => rfl

theorem Turns.wiped_store (wired : Wired env state) (turns : Turns env state event met)
    (free : state.busy event = false) (member : .deleteAll ∈ met.acts) (store : Store) :
    met.acts.foldl Store.after store = {} := by
  obtain ⟨_, lead, reason, tail, whole, _, quiet⟩ := turns.wipes wired free member
  rw [whole, List.foldl_append, List.foldl_cons]
  exact store_kept quiet (by simp) _

theorem Turns.result_sockets (turns : Turns env state event met) :
    met.result.sockets = (replay met.ctx met.start met.acts).sockets ∧
      met.result.home = (replay met.ctx met.start met.acts).home := by
  unfold Turn.result
  rcases turns.finish_keeps (replay met.ctx met.start met.acts) with same | evicted
  · rw [same]
    exact ⟨rfl, rfl⟩
  · rw [evicted, maybe_evict_live]
    exact ⟨rfl, rfl⟩

theorem Turns.start_home (turns : Turns env state event met) : met.start.home = state.home := by
  cases turns with
  | get now absent quiet => rw [init_keeps]; rfl
  | chunk ws frames tail attached hears upgraded quiet => rw [hang_up_keeps]; rfl
  | ended ws attached open_ quiet => rw [maybe_evict_live]; rfl
  | task now ws task rest drained free next => cases task <;> rfl
  | restart now =>
      dsimp only [Relay.restart]
      split
      · rfl
      · rw [maybe_evict_live, init_keeps]
        rfl
  | _ => rfl

theorem Turns.result_routable (turns : Turns env state event met)
    (unaccepted : ∀ ws, Act.accept ws ∉ met.acts) {ws : SocketId}
    (routed : met.result.routable ws) :
    met.result.home ws = state.home ws ∧ ws ∈ met.start.sockets (state.home ws) ∧
      ws ∉ closes met.acts := by
  have home : met.result.home = state.home := by
    rw [turns.result_sockets.2, replay_home _ _ _ unaccepted, turns.start_home]
  unfold State.routable at routed
  rw [turns.result_sockets.1, home, mem_replay_sockets _ _ _ unaccepted] at routed
  refine ⟨by rw [home], routed.1, fun closed => routed.2 ⟨by rw [turns.start_home], closed⟩⟩

theorem Turns.closed_unroutable (wired : Wired env state) (turns : Turns env state event met)
    {ws : SocketId} (closed : ws ∈ closes met.acts) : ¬ met.result.routable ws := by
  have unaccepted : ∀ other, Act.accept other ∉ met.acts := by
    intro other inside
    obtain ⟨code, reason, member⟩ := mem_closes.mp closed
    exact absurd ((turns.accepts inside).each _ member) (by simp)
  intro routed
  unfold State.routable at routed
  rw [turns.result_sockets.1] at routed
  generalize met.result.home ws = ctx at routed
  obtain ⟨there, open_⟩ :=
    (mem_replay_sockets met.ctx met.start met.acts unaccepted ctx ws).mp routed
  exact open_ ⟨((turns.wired_start wired).anchored ctx ws there).2.1, closed⟩

-- A wipe of a room in pairing mode leaves no socket routable.
theorem Turns.wiped_pairing (wired : Wired env state) (turns : Turns env state event met)
    (free : state.busy event = false) (member : .deleteAll ∈ met.acts)
    (pairing : established met.start = false) (ws : SocketId) : ¬ met.result.routable ws := by
  obtain ⟨empty, here⟩ := turns.wiped wired free member
  have resident : met.start.live = some met.ctx := by
    rcases here with resident | registered
    · exact resident
    · rw [pairing] at registered
      exact Bool.noConfusion registered
  intro routed
  unfold State.routable at routed
  rw [turns.result_sockets.1] at routed
  generalize met.result.home ws = ctx at routed
  have unaccepted : ∀ other, Act.accept other ∉ met.acts := by
    intro other inside
    exact absurd ((turns.accepts inside).each _ member) (by simp)
  have there := replay_sockets_subset met.ctx met.start met.acts unaccepted ctx routed
  have anchor := ((turns.wired_start wired).anchored ctx ws there).1
  rw [resident] at anchor
  obtain rfl : met.ctx = ctx := by simpa using anchor
  simp [empty] at routed

theorem Turns.start_sockets (turns : Turns env state event met) (ctx : ContextId) :
    met.start.sockets ctx ⊆ state.sockets ctx := by
  have emptied : ∀ (fresh : ContextId) (sockets : ContextId → List SocketId),
      Function.update sockets fresh [] ctx ⊆ sockets ctx := by
    intro fresh sockets
    by_cases same : ctx = fresh
    · subst same
      simp
    · rw [Function.update_of_ne same]
      exact List.Subset.refl _
  have filtered : ∀ (home : ContextId) (ws : SocketId) (sockets : ContextId → List SocketId),
      Function.update sockets home ((sockets home).filter (· ≠ ws)) ctx ⊆ sockets ctx := by
    intro home ws sockets
    by_cases same : ctx = home
    · subst same
      rw [Function.update_self]
      exact List.filter_subset_self _
    · rw [Function.update_of_ne same]
      exact List.Subset.refl _
  cases turns with
  | get now absent quiet =>
      rw [init_keeps]
      exact emptied _ _
  | connect now ws home resident unseen => exact List.Subset.refl _
  | chunk ws frames tail attached hears upgraded quiet =>
      cases tail with
      | none => exact List.Subset.refl _
      | closeFrame => exact filtered _ ws state.sockets
      | protocolError => exact filtered _ ws state.sockets
  | ended ws attached open_ quiet =>
      rw [maybe_evict_live]
      exact filtered _ ws state.sockets
  | task now ws task rest drained free next => cases task <;> exact List.Subset.refl _
  | restart now =>
      dsimp only [Relay.restart]
      split
      · exact List.nil_subset _
      · rw [maybe_evict_live, init_keeps]
        exact List.Subset.trans (emptied _ fun _ => []) (List.nil_subset _)
  | _ => exact List.Subset.refl _

-- Only an upgrade makes a socket routable.
theorem step_routable (env : Env) (state : State) (event : Event)
    (unconnected : ∀ now ws, event ≠ .connect now ws) {ws : SocketId}
    (routed : (step env state event).routable ws) : state.routable ws := by
  rcases step_cases env state event with ⟨_, same⟩ | ⟨met, turns, _, result⟩
  · rwa [same] at routed
  · rw [result] at routed
    have unaccepted : ∀ other, Act.accept other ∉ met.acts := by
      intro other inside
      obtain ⟨now, opened, rfl⟩ := turns.connects inside
      exact unconnected now opened rfl
    obtain ⟨_, there, _⟩ := turns.result_routable unaccepted routed
    exact turns.start_sockets _ there

theorem Turns.routable_before (turns : Turns env state event met) {ws : SocketId}
    (unfresh : ∀ now, event ≠ .connect now ws) (routed : met.result.routable ws) :
    state.routable ws ∧ ws ∈ met.start.sockets (state.home ws) := by
  have there : ws ∈ met.start.sockets (state.home ws) := by
    by_cases connects : ∃ now opened, event = .connect now opened
    · obtain ⟨now, opened, rfl⟩ := connects
      cases turns with
      | connect now opened ctx resident unseen =>
          have apart : ws ≠ opened := by
            rintro rfl
            exact unfresh now rfl
          have after : (replay ctx (freshSocket opened state).enter
              (handleUpgrade env now state.nextId opened)).routable ws := routed
          simp only [handleUpgrade, replay_cons, replay_nil, perform, State.enter, freshSocket,
            State.routable, Function.update_of_ne apart, Function.update_apply] at after
          change ws ∈ state.sockets (state.home ws)
          split at after
          · rename_i same
            rw [same]
            simpa [apart] using after
          · exact after
    · refine (turns.result_routable (fun target member => connects ?_) routed).2.1
      exact turns.connects member
  exact ⟨turns.start_sockets _ there, there⟩

theorem home_stays {ws : SocketId} (attached : state.attachment ws ≠ none) :
    (step env state event).home ws = state.home ws := by
  rcases step_cases env state event with ⟨_, same⟩ | ⟨met, turns, _, result⟩
  · rw [same]
  · rw [result, turns.result_sockets.2, ← turns.start_home]
    apply Script.replay_keeps (perform met.ctx) (fun state => state.home ws) met.acts
    intro act member other
    cases act with
    | accept target =>
        have apart : ws ≠ target := by
          rintro rfl
          obtain ⟨now, opened, rfl⟩ := turns.connects member
          cases turns with
          | connect now opened ctx resident unseen =>
              have same : ws = opened := by
                rcases turn_act member with ran | caught
                · simpa [handleUpgrade] using ran
                · exact absurd caught List.not_mem_nil
              rw [same] at attached
              exact attached unseen
        simp [perform, Function.update_of_ne apart]
    | _ => rfl

theorem restart_unroutable (now : Nat) (state : State) (ws : SocketId) :
    ¬ (restart now state).routable ws := by
  have empty : ∀ ctx, (restart now state).sockets ctx = [] := by
    intro ctx
    unfold restart
    dsimp only
    split
    · rfl
    · rw [maybe_evict_live, init_keeps]
      simp [newContext]
  unfold State.routable
  rw [empty]
  exact List.not_mem_nil

end Teardown
end Relay

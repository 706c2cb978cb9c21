import CompanionRelay.RefusedJoin

/-!
The two slots of a room. A join that takes a slot has closed the other holders of its role
before it is admitted, in the same turn, so no two routable sockets hold one slot. A displaced
holder is closed by the relay, and its close runs no handler that could reach the peer.
-/

namespace Relay

section Statement
variable (env : Env) (state : State) (event : Event)

/-- The event admits the socket in the role. -/
def Seats (ws : SocketId) (role : Role) : Prop :=
  ∃ value, .attach ws value ∈ acts env state event ∧ value.admission = .admitted role

/-- The other admitted sockets of the role are out of the routable set of the socket's
context and, if the socket itself is routable, of the room. -/
def Displaced (ws : SocketId) (role : Role) : Prop :=
  ∀ other, other ≠ ws → (step env state event).holds other role = true →
    other ∉ (step env state event).sockets (state.home ws) ∧
      (state.routable ws → ¬ (step env state event).routable other)

structure SlotsExclusive (events : List Event) : Prop where
  single : ∀ role first second, (run env events).routable first →
    (run env events).routable second → (run env events).holds first role = true →
    (run env events).holds second role = true → first = second
  newest : ∀ met ∈ steps env events, ∀ ws token, .send ws (.ok token) ∈ acts env met.1 met.2 →
    ∃ role, (step env met.1 met.2).holds ws role = true ∧ Displaced env met.1 met.2 ws role
  spares : ∀ met ∈ steps env events, ∀ ws role, Seats env met.1 met.2 ws role →
    ∀ closed ∈ closes (acts env met.1 met.2),
      (step env met.1 met.2).holds closed role.other = false
  -- webSocketClose, which would close the peer, never runs for a displaced holder
  silent : ∀ before event later, events = before ++ event :: later →
    ∀ ws role, Seats env (run env before) event ws role →
    ∀ closed ∈ closes (acts env (run env before) event),
      (run env before).holds closed role = true → .closed ∉ (run env events).chain closed

end Statement

section Holders
variable {env : Env} {state : State} {event : Event} {met : Turn} {join : Join}

theorem holds_iff {ws : SocketId} {role : Role} :
    state.holds ws role = true ↔ state.admission ws = some (.admitted role) := by
  simp [State.holds]

theorem mem_holders {ctx : ContextId} {ws other : SocketId} {role : Role} :
    other ∈ state.holders ctx ws role ↔
      other ∈ state.sockets ctx ∧ other ≠ ws ∧ state.holds other role = true := by
  simp [State.holders]

theorem attachment_after (script : List Act) (attachment : SocketId → Option Attachment)
    (ws : SocketId) :
    script.foldl attachmentAfter attachment ws = attachment ws ∨
      ∃ value, .attach ws value ∈ script ∧
        script.foldl attachmentAfter attachment ws = some value := by
  induction script generalizing attachment with
  | nil => exact .inl rfl
  | cons act rest ih =>
      rw [List.foldl_cons]
      rcases ih (attachmentAfter attachment act) with kept | ⟨value, member, written⟩
      · rw [kept]
        cases act with
        | attach target value =>
            by_cases same : ws = target
            · subst same
              exact .inr ⟨value, by simp, by simp [attachmentAfter]⟩
            · exact .inl (by simp [attachmentAfter, Function.update_of_ne same])
        | _ => exact .inl rfl
      · exact .inr ⟨value, List.mem_cons_of_mem act member, written⟩

theorem holds_cases {ws : SocketId} {role : Role}
    (holds : (step env state event).holds ws role = true) :
    state.holds ws role = true ∨ Seats env state event ws role := by
  rw [holds_iff, State.admission, step_attachment] at holds
  rcases attachment_after (acts env state event) state.attachment ws with
    kept | ⟨value, member, written⟩
  · rw [kept] at holds
    exact .inl (holds_iff.mpr holds)
  · rw [written] at holds
    exact .inr ⟨value, member, by simpa using holds⟩

theorem Joins.on_throw (joins : Joins env state event join)
    (happens : turn env state event = some met) :
    met.onThrow = [.close join.ws 1011 "internal error"] := by
  have turns := turn_turns happens
  cases joins with
  | pairing now ws role nonce yields frame random fault rest window lead attest drained free next
      admission absent presented =>
      cases turns with
      | idle now other drained' stopped =>
          rw [drained] at drained'
          cases drained'
          rcases stopped with verifying | empty
          · rw [free] at verifying
            exact Bool.noConfusion verifying
          · simp [next] at empty
      | task now other task rest' drained' free' next' =>
          rw [drained] at drained'
          cases drained'
          rw [next] at next'
          cases next'
          rfl
  | signature now id random fault ctx check found verified =>
      cases turns with
      | resume now id random fault handler found' quiet =>
          rw [found] at found'
          cases found'
          rfl

/-- A join that has taken its slot, and the turn it did so in. -/
structure Seated (env : Env) (state : State) (event : Event) (join : Join) (met : Turn) : Prop where
  happens : turn env state event = some met
  joins : Joins env state event join
  attaches : ∀ ws value, .attach ws value ∈ met.acts ↔
    ws = join.ws ∧ value = admittedAs env join.now join.mid join.ws join.role
  answers : ∀ ws token, .send ws (.ok token) ∈ met.acts → ws = join.ws
  displaces : ∀ holder ∈ state.holders (state.home join.ws) join.ws join.role,
    holder ∈ closes met.acts
  spares : ∀ closed ∈ closes met.acts,
    closed = join.ws ∨ closed ∈ state.holders (state.home join.ws) join.ws join.role

/-- What only a join that takes its slot does. -/
@[simp] def seatVerbs : List Verb := [.attach, .sendOk, .putRegToken]

theorem Joins.script_cases (joins : Joins env state event join) :
    (∃ verbs, Within verbs (join.script env) ∧ ∀ verb ∈ seatVerbs, verb ∉ verbs) ∨
    ∃ front, Within [.count, .read, .deleteTicket, .putLastActivity, .getAlarm, .setAlarm,
        .putPairingCycles] front ∧
      join.script env = front ++
        seat env join.now join.ctx join.mid join.random join.ws join.role join.attest := by
  have lead := joins.lead_within
  have whole : ∀ {verbs script}, Within verbs script → Within ([.count, .read, .deleteTicket,
      .putLastActivity, .getAlarm, .setAlarm] ++ verbs) (join.lead ++ script) := fun fits =>
    Within.append_iff.mpr ⟨lead.mono (List.subset_append_left _ _),
      fits.mono (List.subset_append_right _ _)⟩
  unfold Join.script
  rcases admit_cases env join.now join.ctx join.mid join.random join.ws join.role join.attest with
    ⟨ends, _⟩ | ⟨ends, _⟩ | ⟨ends, _⟩
  · left
    rw [ends]
    have refused : Within [.read, .send, .close] (.get :: reject join.ws "mac offline") := by
      simp [reject]
    exact ⟨_, whole refused, by simp⟩
  · left
    rw [ends]
    have torn : Within [.read, .close, .deleteAll, .deleteAlarm]
        (.get :: .get :: teardownRoom join.ctx join.mid "pairing cycle cap") :=
      Within.cons_iff.mpr ⟨by simp, Within.cons_iff.mpr ⟨by simp,
        (teardownRoom_within ..).mono (by simp)⟩⟩
    exact ⟨_, whole torn, by simp⟩
  · rw [ends]
    have charged : Within [.read, .putPairingCycles] (.get :: charge join.mid join.role) :=
      Within.cons_iff.mpr ⟨by simp, charge_within ..⟩
    rcases takeSlot_cases env join.now join.ctx join.mid join.random join.ws join.role join.attest
      with ⟨taken, _⟩ | ⟨taken, _⟩
    · left
      rw [taken]
      have refused : Within [.read, .putPairingCycles, .send, .close]
          (.get :: charge join.mid join.role ++ reject join.ws "slot occupied") :=
        Within.append_iff.mpr ⟨charged.mono (by simp), (reject_within ..).mono (by simp)⟩
      exact ⟨_, whole refused, by simp⟩
    · right
      refine ⟨join.lead ++ .get :: charge join.mid join.role, ?_, by rw [taken]; simp⟩
      exact Within.append_iff.mpr ⟨lead.mono (by simp), charged.mono (by simp)⟩

theorem greet_within (now : Nat) (state : State) (random : Bytes) (ws : SocketId)
    (attest : Option AttestedKey) (role : Role) :
    Within [.sendOk, .putRegToken, .getAlarm, .setAlarm] (greet now state random ws attest role) := by
  cases role with
  | mac => simp [greet]
  | phone =>
      simp only [greet, Within.append_iff, Within.cons_iff]
      exact ⟨⟨by simp, (ensureAlarm_within ..).mono (by simp)⟩, by simp⟩

theorem greet_answers {now : Nat} {state : State} {random : Bytes} {ws other : SocketId}
    {attest : Option AttestedKey} {role : Role} {message : Message}
    (member : .send other message ∈ greet now state random ws attest role) : other = ws := by
  cases role with
  | mac =>
      simp only [greet, List.mem_singleton, Act.send.injEq] at member
      exact member.1
  | phone =>
      simp only [greet, List.cons_append, List.mem_cons, reduceCtorEq, List.mem_append,
        Act.send.injEq, List.not_mem_nil, or_false, false_or] at member
      rcases member with armed | ⟨same, _⟩
      · exact absurd armed ((ensureAlarm_within ..).lacks (by cases message <;> simp))
      · exact same

-- What a turn does that admits a socket or answers it: the displacement, the attach, and
-- then, if it throws, a close of the new holder itself.
theorem Joins.seat_acts (joins : Joins env state event join)
    (happens : turn env state event = some met) (script : met.script = join.script env) {act : Act}
    (member : act ∈ met.acts) (verb : act.verb ∈ seatVerbs) :
    ∃ front back,
      Within [.count, .read, .deleteTicket, .putLastActivity, .getAlarm, .setAlarm,
        .putPairingCycles] front ∧
      met.acts = front ++ displace join.ctx join.mid join.ws join.role ++
        .attach join.ws (admittedAs env join.now join.mid join.ws join.role) :: back ∧
      Within [.sendOk, .putRegToken, .getAlarm, .setAlarm, .close] back ∧
      (∀ closed ∈ closes back, closed = join.ws) ∧
      ∀ ws message, .send ws message ∈ back → ws = join.ws := by
  have caught := joins.on_throw happens
  unfold Turn.acts at member ⊢
  rw [caught] at member ⊢
  have ran : act ∈ done met.fault met.script := by
    rcases List.mem_append.mp member with ran | thrown
    · exact ran
    · split at thrown
      · obtain rfl := List.mem_singleton.mp thrown
        simp at verb
      · exact absurd thrown List.not_mem_nil
  rw [script] at ran
  rcases joins.script_cases with ⟨verbs, fits, unseated⟩ | ⟨front, quiet, whole⟩
  · exact absurd (fits.each _ (Script.done_subset _ _ ran)) (unseated _ verb)
  · have displaces : Within [.close] (displace join.ctx join.mid join.ws join.role) :=
      Within.map_of (by simp)
    have before : Within [.count, .read, .deleteTicket, .putLastActivity, .getAlarm, .setAlarm,
        .putPairingCycles, .close]
        (front ++ displace join.ctx join.mid join.ws join.role) :=
      Within.append_iff.mpr ⟨quiet.mono (by simp), displaces.mono (by simp)⟩
    have late : act ∉ front ++ displace join.ctx join.mid join.ws join.role := by
      intro early
      have inside := before.each _ early
      revert verb inside
      cases act.verb <;> simp
    rw [whole, seat, ← List.append_assoc] at ran
    obtain ⟨tail, performed, greeted⟩ := Script.done_through _ _ (before.lacks (by simp))
      (Script.done_reached _ _ late ran)
    have greets : Within [.sendOk, .putRegToken, .getAlarm, .setAlarm] tail :=
      ⟨fun act member => (greet_within ..).each act (greeted.subset member)⟩
    rw [script, whole, seat, ← List.append_assoc, done, performed]
    refine ⟨front, _, quiet, by rw [List.append_assoc _ (_ :: tail), List.cons_append], ?_, ?_, ?_⟩
    · refine Within.append_iff.mpr ⟨greets.mono (by simp), ?_⟩
      split <;> simp
    · intro closed inside
      rw [closes_append, greets.closes_nil (by simp), List.nil_append] at inside
      split at inside
      · simpa [Relay.closes, Act.closes] using inside
      · simp at inside
    · intro ws message inside
      rcases List.mem_append.mp inside with sent | thrown
      · exact greet_answers (greeted.subset sent)
      · split at thrown <;> simp at thrown

theorem Joins.seated (wired : Wired env state) (joins : Joins env state event join)
    (happens : turn env state event = some met) (script : met.script = join.script env) {act : Act}
    (member : act ∈ met.acts) (verb : act.verb ∈ seatVerbs) :
    Seated env state event join met := by
  obtain ⟨front, back, quiet, whole, rest, aside, sent⟩ := joins.seat_acts happens script member verb
  have displaces : Within [.close] (displace join.ctx join.mid join.ws join.role) :=
    Within.map_of (by simp)
  have closed : closes met.acts = state.holders (state.home join.ws) join.ws join.role ++
      closes back := by
    have attached : closes (.attach join.ws (admittedAs env join.now join.mid join.ws join.role) ::
      back) = closes back := rfl
    rw [whole, closes_append, closes_append, quiet.closes_nil (by simp), attached, displace,
      closes_map, joins.same_room.holders, joins.ctx_home wired, List.nil_append]
  refine ⟨happens, joins, ?_, ?_, ?_, ?_⟩
  · intro ws value
    rw [whole, List.mem_append, List.mem_append, List.mem_cons]
    constructor
    · rintro ((early | displaced) | here | after)
      · exact absurd early (quiet.lacks (by simp))
      · exact absurd displaced (displaces.lacks (by simp))
      · simpa using here
      · exact absurd after (rest.lacks (by simp))
    · rintro ⟨rfl, rfl⟩
      exact .inr (.inl rfl)
  · intro ws token member
    rw [whole, List.mem_append, List.mem_append, List.mem_cons] at member
    rcases member with (early | displaced) | here | after
    · exact absurd early (quiet.lacks (by simp))
    · exact absurd displaced (displaces.lacks (by simp))
    · simp at here
    · exact sent ws _ after
  · intro holder holds
    rw [closed]
    exact List.mem_append_left _ holds
  · intro ws inside
    rw [closed] at inside
    rcases List.mem_append.mp inside with displaced | thrown
    · exact .inr displaced
    · exact .inl (aside ws thrown)

theorem seated_of_acts (wired : Wired env state) {act : Act} (member : act ∈ acts env state event)
    (admits : act.admits = true) (verb : act.verb ∈ seatVerbs) :
    ∃ join met, Seated env state event join met ∧ acts env state event = met.acts := by
  unfold acts at member ⊢
  cases happens : turn env state event with
  | none => simp [happens] at member
  | some met =>
      rw [happens] at member
      have turns := turn_turns happens
      rcases turns.joining_cases wired (turn_free happens) with
        ⟨_, quiet⟩ | ⟨join, joins, _, script, _⟩
      · rcases turn_act member with ran | caught
        · rw [quiet act ran] at admits
          exact Bool.noConfusion admits
        · have inside := turns.on_throw.each _ caught
          revert verb inside
          cases act.verb <;> simp
      · exact ⟨join, met, joins.seated wired happens script member verb, rfl⟩

theorem Seats.seated (wired : Wired env state) {ws : SocketId} {role : Role}
    (seats : Seats env state event ws role) :
    ∃ join met, Seated env state event join met ∧ acts env state event = met.acts ∧
      join.ws = ws ∧ join.role = role := by
  obtain ⟨⟨admission, room, tag, since⟩, member, rfl⟩ := seats
  obtain ⟨join, met, seated, performed⟩ := seated_of_acts wired member rfl (by simp)
  rw [performed] at member
  obtain ⟨rfl, value⟩ := (seated.attaches _ _).mp member
  refine ⟨join, met, seated, performed, rfl, ?_⟩
  simpa [admittedAs] using (congrArg Attachment.admission value).symm

namespace Seated
variable (wired : Wired env state) (seated : Seated env state event join met)
include seated

theorem performs : acts env state event = met.acts := by
  rw [acts, seated.happens]

theorem result : step env state event = met.result := by
  rw [step, seated.happens]

theorem attach_mem : .attach join.ws (admittedAs env join.now join.mid join.ws join.role) ∈
    met.acts :=
  (seated.attaches _ _).mpr ⟨rfl, rfl⟩

theorem holds : (step env state event).holds join.ws join.role = true := by
  rw [holds_iff, State.admission, step_attachment, seated.performs]
  obtain ⟨lead, rest, whole⟩ := List.append_of_mem seated.attach_mem
  have only : ∀ value, .attach join.ws value ∈ rest →
      value = admittedAs env join.now join.mid join.ws join.role :=
    fun value member => ((seated.attaches join.ws value).mp (by rw [whole]; simp [member])).2
  rw [whole, List.foldl_append, List.foldl_cons]
  rcases attachment_after rest
    (attachmentAfter (lead.foldl attachmentAfter state.attachment)
      (.attach join.ws (admittedAs env join.now join.mid join.ws join.role))) join.ws with
    last | ⟨value, member, written⟩
  · rw [last]
    simp [attachmentAfter, admittedAs]
  · rw [written, only value member]
    rfl

theorem others {other : SocketId} (apart : other ≠ join.ws) (role : Role) :
    (step env state event).holds other role = state.holds other role := by
  have kept : (step env state event).admission other = state.admission other := by
    apply admission_eq
    rw [step_attachment, seated.performs]
    exact attachment_kept (fun value member => apart ((seated.attaches _ _).mp member).1) _
  rw [State.holds, State.holds, kept]

theorem unaccepted : ∀ ws, Act.accept ws ∉ acts env state event := by
  intro ws member
  rw [seated.performs] at member
  have fits := (turn_turns seated.happens).accepts member
  obtain ⟨now, opened, rfl⟩ := (turn_turns seated.happens).connects member
  cases seated.joins

theorem home : (step env state event).home = state.home := by
  have turns := turn_turns seated.happens
  rw [seated.result, turns.result_sockets.2, replay_home _ _ _ (seated.performs ▸ seated.unaccepted),
    turns.start_home]

include wired in
-- No other socket that holds the slot is left in the set that the new holder belongs to.
theorem alone {other : SocketId} (apart : other ≠ join.ws)
    (holds : (step env state event).holds other join.role = true) :
    other ∉ (step env state event).sockets (state.home join.ws) := by
  have turns := turn_turns seated.happens
  intro there
  have anchor := (wired_step wired).anchored _ _ there
  have home : state.home other = state.home join.ws :=
    (congrFun seated.home other).symm.trans anchor.2.1
  have routed : (step env state event).routable other := by
    rw [State.routable, seated.home, home]
    exact there
  rw [seated.result] at routed
  have before := (turns.result_routable (seated.performs ▸ seated.unaccepted) routed).2.1
  rw [seated.others apart] at holds
  have held : other ∈ state.holders (state.home join.ws) join.ws join.role :=
    mem_holders.mpr ⟨home ▸ turns.start_sockets _ before, apart, holds⟩
  exact turns.closed_unroutable wired (seated.displaces other held) routed

include wired in
theorem displaced : Displaced env state event join.ws join.role := by
  intro other apart holds
  have gone := seated.alone wired apart holds
  refine ⟨gone, fun routed there => gone ?_⟩
  have before := step_routable env state event (fun now ws same => by
    subst same
    cases seated.joins) there
  have here := (wired.anchored _ _ routed).1
  rw [(wired.anchored _ _ before).1] at here
  have home : state.home other = state.home join.ws := by simpa using here
  rw [State.routable, seated.home, home] at there
  exact there

end Seated

theorem held_attached {ws : SocketId} {role : Role} (holds : state.holds ws role = true) :
    state.attachment ws ≠ none := by
  intro unseen
  simp [State.holds, State.admission, unseen] at holds

theorem routable_attached {ws : SocketId} (attached : state.attachment ws ≠ none)
    (routed : (step env state event).routable ws) : state.routable ws := by
  rcases step_cases env state event with ⟨_, same⟩ | ⟨met, turns, _, result⟩
  · rwa [same] at routed
  · rw [result] at routed
    refine (turns.routable_before ?_ routed).1
    rintro now rfl
    cases turns with
    | connect now opened ctx resident unseen => exact attached unseen

/-- At most one routable socket holds each slot. -/
def SingleHolder (state : State) : Prop :=
  ∀ role first second, state.routable first → state.routable second →
    state.holds first role = true → state.holds second role = true → first = second

theorem single_holder_step (wired : Wired env state) (single : SingleHolder state) :
    SingleHolder (step env state event) := by
  intro role first second routed routed' holds holds'
  by_cases seats : ∃ ws, Seats env state event ws role ∧ (step env state event).routable ws
  · obtain ⟨ws, seats, open_⟩ := seats
    obtain ⟨join, met, seated, _, rfl, rfl⟩ := seats.seated wired
    have before := step_routable env state event (fun now ws same => by
      subst same
      cases seated.joins) open_
    have only : ∀ other, (step env state event).routable other →
        (step env state event).holds other join.role = true → other = join.ws := by
      intro other there held
      by_contra apart
      exact (seated.displaced wired other apart held).2 before there
    rw [only first routed holds, only second routed' holds']
  · have before : ∀ ws, (step env state event).routable ws →
        (step env state event).holds ws role = true →
        state.routable ws ∧ state.holds ws role = true := by
      intro ws there held
      rcases holds_cases held with old | taken
      · exact ⟨routable_attached (held_attached old) there, old⟩
      · exact absurd ⟨ws, taken, there⟩ seats
    exact single role first second (before first routed holds).1 (before second routed' holds').1
      (before first routed holds).2 (before second routed' holds').2

theorem single_holder_run (env : Env) (events : List Event) : SingleHolder (run env events) :=
  (Machine.run_invariant (step env) (fun state => Wired env state ∧ SingleHolder state)
    (fun _ _ => True)
    (fun _ _ holds _ => ⟨wired_step holds.1, single_holder_step holds.1 holds.2⟩) initial
    ⟨Wired.initial env, by simp [SingleHolder, initial, State.routable]⟩ events
    (fun _ _ => trivial)).2

end Holders

section Close
variable {env : Env} {state : State} {event : Event} {met : Turn}

/-- The close event of the socket has run no handler, and will run none. -/
structure Muted (state : State) (ws : SocketId) : Prop where
  serverClosed : state.serverClosed ws = true
  unqueued : .closed ∉ state.chain ws
  attached : state.attachment ws ≠ none

/-- The peer of a routable socket has not closed it. -/
structure Open (state : State) (ws : SocketId) : Prop where
  unclosed : state.closeFrameReceived ws = false
  unqueued : .closed ∉ state.chain ws

-- Only the close event of a socket that the relay did not close queues webSocketClose.
theorem Turns.start_closed (turns : Turns env state event met) {ws : SocketId}
    (queued : .closed ∈ met.start.chain ws) :
    .closed ∈ state.chain ws ∨ event = .ended ws ∧ state.serverClosed ws = false := by
  cases turns with
  | get now absent quiet =>
      rw [init_keeps] at queued
      exact .inl queued
  | connect now opened ctx resident unseen =>
      simp only [State.enter, freshSocket, Function.update_apply] at queued
      split at queued
      · exact absurd queued List.not_mem_nil
      · exact .inl queued
  | chunk target frames tail attached hears upgraded quiet =>
      rw [hang_up_keeps] at queued
      simp only [State.push, Function.update_apply] at queued
      split at queued
      · rename_i same
        subst same
        rcases List.mem_append.mp queued with old | new
        · exact .inl old
        · simp only [frameTasks, List.mem_append, List.mem_map, reduceCtorEq, and_false,
            exists_false, false_or] at new
          split at new <;> simp at new
      · exact .inl queued
  | ended target attached open_ quiet =>
      rw [maybe_evict_live] at queued
      simp only [endSocket, State.push, Function.update_apply] at queued
      split at queued
      · rename_i same
        subst same
        rcases List.mem_append.mp queued with old | new
        · exact .inl old
        · split at new
          · exact absurd new List.not_mem_nil
          · rename_i remote
            exact .inr ⟨rfl, by simpa using remote⟩
      · exact .inl queued
  | task now target task rest drained free next =>
      have popped : .closed ∈ (state.pop target rest).chain ws := by
        cases task <;> exact queued
      simp only [State.pop, Function.update_apply] at popped
      split at popped
      · rename_i same
        subst same
        exact .inl (by rw [next]; exact List.mem_cons_of_mem _ popped)
      · exact .inl popped
  | restart now =>
      dsimp only [Relay.restart] at queued
      split at queued
      · exact absurd queued List.not_mem_nil
      · rw [maybe_evict_live, init_keeps] at queued
        exact absurd queued List.not_mem_nil
  | _ => exact .inl queued

theorem hang_up_server (ws : SocketId) (tail : Tail) (state : State) {other : SocketId}
    (closed : state.serverClosed other = true) :
    (hangUp ws tail state).serverClosed other = true := by
  cases tail with
  | none => exact closed
  | _ =>
      simp only [hangUp, State.closeSocket, Function.update_apply]
      split
      · rename_i same
        subst same
        simp [closed]
      · exact closed

theorem Turns.start_server (turns : Turns env state event met) {ws : SocketId}
    (closed : state.serverClosed ws = true) (attached : state.attachment ws ≠ none) :
    met.start.serverClosed ws = true := by
  cases turns with
  | get now absent quiet =>
      rw [init_keeps]
      exact closed
  | connect now opened ctx resident unseen =>
      have apart : ws ≠ opened := by
        rintro rfl
        exact attached unseen
      simpa [State.enter, freshSocket, Function.update_of_ne apart] using closed
  | chunk target frames tail attached hears upgraded quiet =>
      exact hang_up_server target tail _ closed
  | ended target attached open_ quiet =>
      rw [maybe_evict_live]
      exact closed
  | task now target task rest drained free next => cases task <;> exact closed
  | restart now =>
      dsimp only [Relay.restart]
      split
      · exact closed
      · rw [maybe_evict_live, init_keeps]
        exact closed
  | _ => exact closed

theorem replay_closed_stays (ctx : ContextId) (state : State) (script : List Act) {ws : SocketId}
    (closed : state.serverClosed ws = true) :
    (replay ctx state script).serverClosed ws = true := by
  refine Script.replay_invariant (perform ctx) (fun state => state.serverClosed ws = true) script
    ?_ state closed
  intro act _ state closed
  cases act with
  | close target code reason =>
      simp only [perform, State.closeSocket, Function.update_apply]
      split
      · rename_i same
        subst same
        simp [closed]
      · exact closed
  | _ => exact closed

theorem replay_closes (ctx : ContextId) (state : State) (script : List Act) {ws : SocketId}
    (unclosed : state.closeFrameReceived ws = false) (closed : ws ∈ closes script) :
    (replay ctx state script).serverClosed ws = true := by
  induction script generalizing state with
  | nil => exact absurd closed List.not_mem_nil
  | cons act rest ih =>
      rw [replay_cons]
      by_cases here : act.closes = some ws
      · apply replay_closed_stays
        cases act with
        | close target code reason =>
            obtain rfl : target = ws := by simpa [Act.closes] using here
            simp [perform, State.closeSocket, unclosed]
        | _ => simp [Act.closes] at here
      · apply ih
        · cases act <;> exact unclosed
        · obtain ⟨code, reason, member⟩ := mem_closes.mp closed
          rcases List.mem_cons.mp member with rfl | later
          · exact absurd rfl here
          · exact mem_closes.mpr ⟨code, reason, later⟩

theorem replay_close_frames (ctx : ContextId) (state : State) (script : List Act) :
    (replay ctx state script).closeFrameReceived = state.closeFrameReceived := by
  apply Script.replay_keeps (perform ctx) State.closeFrameReceived script
  intro act _ state
  cases act <;> rfl

theorem Turns.result_close (turns : Turns env state event met) :
    met.result.serverClosed = (replay met.ctx met.start met.acts).serverClosed ∧
      met.result.closeFrameReceived = met.start.closeFrameReceived ∧
      met.result.chain = met.start.chain := by
  unfold Turn.result
  rw [← replay_close_frames met.ctx met.start met.acts, ← replay_chain met.ctx met.start met.acts]
  rcases turns.finish_keeps (replay met.ctx met.start met.acts) with same | evicted
  · rw [same]
    exact ⟨rfl, rfl, rfl⟩
  · rw [evicted, maybe_evict_live]
    exact ⟨rfl, rfl, rfl⟩

theorem attached_stays {ws : SocketId} (attached : state.attachment ws ≠ none) :
    (step env state event).attachment ws ≠ none := by
  rw [step_attachment]
  rcases attachment_after (acts env state event) state.attachment ws with
    kept | ⟨value, _, written⟩
  · rwa [kept]
  · rw [written]
    exact Option.some_ne_none value

theorem Muted.step {ws : SocketId} (muted : Muted state ws) :
    Muted (step env state event) ws := by
  refine ⟨?_, ?_, attached_stays muted.attached⟩
  · rcases step_cases env state event with ⟨_, same⟩ | ⟨met, turns, _, result⟩
    · rw [same]
      exact muted.serverClosed
    · rw [result, turns.result_close.1]
      exact replay_closed_stays _ _ _ (turns.start_server muted.serverClosed muted.attached)
  · rcases step_cases env state event with ⟨_, same⟩ | ⟨met, turns, _, result⟩
    · rw [same]
      exact muted.unqueued
    · rw [result, turns.result_close.2.2]
      intro queued
      rcases turns.start_closed queued with old | ⟨_, remote⟩
      · exact muted.unqueued old
      · rw [muted.serverClosed] at remote
        exact Bool.noConfusion remote

theorem Muted.run {ws : SocketId} (muted : Muted state ws) (events : List Event) :
    Muted (Machine.run (Relay.step env) state events) ws :=
  Machine.run_invariant (Relay.step env) (Muted · ws) (fun _ _ => True)
    (fun _ _ muted _ => muted.step) state muted events fun _ _ => trivial

theorem not_mem_close (state : State) (ws : SocketId) :
    ws ∉ (state.closeSocket ws).sockets (state.home ws) := by
  simp [State.closeSocket]

theorem Turns.start_open (turns : Turns env state event met) {ws : SocketId}
    (before : Open state ws) (there : ws ∈ met.start.sockets (state.home ws)) :
    met.start.closeFrameReceived ws = false ∧ .closed ∉ met.start.chain ws := by
  constructor
  · cases turns with
    | get now absent quiet =>
        rw [init_keeps]
        exact before.unclosed
    | connect now opened ctx resident unseen =>
        simp only [State.enter, freshSocket, Function.update_apply]
        split
        · rfl
        · exact before.unclosed
    | chunk target frames tail attached hears upgraded quiet =>
        cases tail with
        | closeFrame =>
            by_cases same : ws = target
            · subst same
              exact absurd there (not_mem_close _ ws)
            · simp only [hangUp, State.closeSocket, Function.update_of_ne same]
              exact before.unclosed
        | _ => exact before.unclosed
    | ended target attached open_ quiet =>
        rw [maybe_evict_live]
        exact before.unclosed
    | task now target task rest drained free next => cases task <;> exact before.unclosed
    | restart now =>
        dsimp only [Relay.restart] at there ⊢
        split
        · exact before.unclosed
        · rw [maybe_evict_live, init_keeps]
          exact before.unclosed
    | _ => exact before.unclosed
  · intro queued
    rcases turns.start_closed queued with old | ⟨rfl, _⟩
    · exact before.unqueued old
    · cases turns with
      | ended target attached open_ quiet =>
          rw [maybe_evict_live] at there
          simp [endSocket, State.push] at there

theorem open_step (opens : ∀ ws, state.routable ws → Open state ws)
    (ws : SocketId) (routed : (step env state event).routable ws) :
    Open (step env state event) ws := by
  rcases step_cases env state event with ⟨_, same⟩ | ⟨met, turns, _, result⟩
  · rw [same] at routed ⊢
    exact opens ws routed
  · rw [result] at routed ⊢
    by_cases fresh : ∃ now, event = .connect now ws
    · obtain ⟨now, rfl⟩ := fresh
      obtain ⟨_, frames, chain⟩ := turns.result_close
      cases turns with
      | connect now opened ctx resident unseen =>
          exact ⟨by rw [frames]; simp [State.enter, freshSocket],
            by rw [chain]; simp [State.enter, freshSocket]⟩
    · have before := turns.routable_before (fun now same => fresh ⟨now, same⟩) routed
      obtain ⟨unclosed, unqueued⟩ := turns.start_open (opens ws before.1) before.2
      exact ⟨by rw [turns.result_close.2.1]; exact unclosed,
        by rw [turns.result_close.2.2]; exact unqueued⟩

end Close

theorem Seats.muted {env : Env} {state : State} {event : Event} (wired : Wired env state)
    (opens : ∀ ws, state.routable ws → Open state ws) {ws : SocketId} {role : Role}
    (seats : Seats env state event ws role) {closed : SocketId}
    (member : closed ∈ closes (acts env state event)) (holds : state.holds closed role = true) :
    Muted (step env state event) closed := by
  obtain ⟨join, met, seated, performed, rfl, rfl⟩ := seats.seated wired
  have turns := turn_turns seated.happens
  obtain ⟨nonce, yields, challenged⟩ := seated.joins.challenged wired
  rw [performed] at member
  have apart : closed ≠ join.ws := by
    rintro rfl
    simp [State.holds, challenged] at holds
  have held : closed ∈ state.holders (state.home join.ws) join.ws join.role :=
    (seated.spares closed member).resolve_left apart
  have there := (mem_holders.mp held).1
  have anchor := wired.anchored _ _ there
  have routed : state.routable closed := by
    rw [State.routable, anchor.2.1]
    exact there
  have start := (seated.joins.start seated.happens).1
  obtain ⟨unclosed, unqueued⟩ := turns.start_open (opens closed routed) (by
    rw [start]
    exact routed)
  have after := turns.result_close
  refine ⟨?_, ?_, attached_stays anchor.2.2⟩
  · rw [seated.result, after.1]
    exact replay_closes _ _ _ unclosed member
  · rw [seated.result, after.2.2]
    exact unqueued

/-- In every run each slot has at most one routable holder, the newest, and a displacement
touches the holders of its own slot only. -/
theorem slots_exclusive (env : Env) (events : List Event) : SlotsExclusive env events := by
  have opens := fun (events : List Event) => Machine.run_invariant (step env)
    (fun state => ∀ ws, state.routable ws → Open state ws) (fun _ _ => True)
    (fun _ _ opens _ => open_step opens) initial (by simp [initial, State.routable]) events
    (fun _ _ => trivial)
  constructor
  · exact single_holder_run env events
  · intro met member ws token answered
    have wired := wired_steps env events met member
    obtain ⟨join, turn, seated, performed⟩ := seated_of_acts wired answered rfl (by simp)
    rw [performed] at answered
    obtain rfl := seated.answers ws token answered
    exact ⟨join.role, seated.holds, seated.displaced wired⟩
  · intro met member ws role seats closed inside
    have wired := wired_steps env events met member
    obtain ⟨join, turn, seated, performed, rfl, rfl⟩ := seats.seated wired
    rw [performed] at inside
    have other : ∀ ws, (step env met.1 met.2).holds ws join.role = true →
        (step env met.1 met.2).holds ws join.role.other = false := by
      intro ws holds
      rw [holds_iff] at holds
      simp only [State.holds, holds]
      cases join.role <;> rfl
    rcases seated.spares closed inside with rfl | held
    · exact other _ seated.holds
    · exact other _ (holds_iff.mpr (admitted_stays wired (holds_iff.mp (mem_holders.mp held).2.2)))
  · rintro before event later rfl ws role seats closed inside holds
    rw [run, Machine.run_append, Machine.run_cons]
    exact ((seats.muted (wired_run env before) (opens before) inside holds).run later).unqueued

end Relay

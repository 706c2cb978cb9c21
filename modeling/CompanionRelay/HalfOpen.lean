import CompanionRelay.StorageCalls

/-!
No half-open room: the two holders of a room leave it together.
-/

namespace Relay

section Statement
variable (env : Env) (state : State) (event : Event)

/-- The peer of the relay has ended the socket, and webSocketClose or webSocketError is still to
run: the close frame has come but not the 'close' event, or the handler waits on the chain. -/
def State.closing (ws : SocketId) : Prop :=
  .closed ∈ state.chain ws ∨ .errored ∈ state.chain ws ∨
    state.closeFrameReceived ws = true ∧ state.serverClosed ws = false ∧ state.ended ws = false

instance (ws : SocketId) : Decidable (state.closing ws) :=
  inferInstanceAs (Decidable (_ ∨ _ ∨ _))

/-- A holder of the other slot has ended, and its end is still to be handled. -/
def Doomed (peer : SocketId) (role : Role) : Prop :=
  ∃ closer, state.holds closer role.other = true ∧ state.home closer = state.home peer ∧
    state.closing closer

/-- An admitted socket leaves the routable set, and no live newcomer has its slot. -/
structure Leaves (ws : SocketId) (role : Role) : Prop where
  routed : state.routable ws
  holds : (step env state event).holds ws role = true
  gone : ¬ (step env state event).routable ws
  unreplaced : ∀ newcomer, Seats env state event newcomer role → newcomer ≠ ws →
    ¬ (step env state event).routable newcomer

/-- No handler is mid-step: none runs, waits on a chain or is suspended. -/
structure Resting : Prop where
  drained : state.draining = none
  handled : ∀ ws, state.chain ws = []
  resumed : state.suspended = []
  alarmed : state.alarming = none

/-- Neither leg of the room is left without the other in the state that a run has come to. -/
structure Whole (events : List Event) : Prop where
  parked : ∀ phone, (run env events).seated phone .phone → ∃ mac, (run env events).seated mac .mac
  together : ∀ before event during, events = before ++ event :: during →
    ∀ ws role peer, Leaves env (run env before) event ws role →
      (run env before).seated peer role.other → ¬ (run env events).routable peer

def NoHalfOpen (events : List Event) : Prop :=
  ∀ before, before <+: events → Resting (run env before) → Whole env before

/-- Where the close frame of an admitted socket has come and its 'close' event has not, no holder
of the other slot is left in its context. -/
def Shaken : Prop :=
  ∀ ws role, state.holds ws role = true → state.closeFrameReceived ws = true →
    state.serverClosed ws = false → state.ended ws = false →
    state.holders (state.home ws) ws role.other = []

/-- Besides the socket, its context does not have a holder of each slot. -/
def unpaired (ws : SocketId) (role : Role) : Bool :=
  (state.holders (state.home ws) ws role).isEmpty ||
    (state.holders (state.home ws) ws role.other).isEmpty

/-- The task whose handler the event starts, and its socket. -/
def starting : Option (Nat × SocketId × Task) :=
  match event, state.draining with
  | .run now, some ws =>
      if state.verifying ws then none else (state.chain ws).head?.map fun task => (now, ws, task)
  | _, _ => none

/-- The end of a holder, or its frame over a cap, closes no peer of another holder, and nothing
throws while its frame is relayed to a peer. -/
def endsPaired : Bool :=
  match starting state event with
  | none => true
  | some (now, ws, task) =>
      match state.admission ws with
      | some (.admitted role) =>
          if severs now state ws task then unpaired state ws role
          else !throwsIn state event (meterCalls env state now ws task) ||
            !decide (state.routable ws) || (state.holders (state.home ws) ws role.other).isEmpty
      | _ => true

/-- A socket that takes a slot is open and its handler goes through, or its client has ended it,
or it displaces no holder that has a peer. -/
def joinsOpen : Bool :=
  match joining env state event with
  | none => true
  | some (ws, role) =>
      !grants state ws role || throwsIn state event (seatCalls env state event role) ||
        if state.routable ws then !throwsIn state event (joinCalls env state event role)
        else decide (state.closing ws) || unpaired state ws role

/-- Neither holder leaves the room without the other by this event. -/
def balanced : Bool := endsPaired env state event && joinsOpen env state event

end Statement

section Intact
variable {env : Env} {state : State} {event : Event} {met : Turn}

/-- Nobody has closed the socket. -/
structure Intact (state : State) (ws : SocketId) : Prop where
  kept : state.serverClosed ws = false
  alive : state.ended ws = false
  hears : ∀ task ∈ state.chain ws, task.isMessage = true

theorem Turns.start_intact (turns : Turns env state event met) {ws : SocketId}
    (before : Intact state ws) (there : ws ∈ met.start.sockets (state.home ws)) :
    Intact met.start ws := by
  cases turns with
  | get now absent quiet =>
      rw [init_keeps]
      exact ⟨before.kept, before.alive, before.hears⟩
  | connect now opened ctx resident unseen =>
      by_cases same : ws = opened
      · subst same
        constructor <;> simp [State.enter, freshSocket]
      · constructor <;> simp only [State.enter, freshSocket, Function.update_of_ne same]
        · exact before.kept
        · exact before.alive
        · exact before.hears
  | chunk target frames tail attached hears upgraded quiet =>
      by_cases same : ws = target
      · subst same
        cases tail with
        | none =>
            refine ⟨before.kept, before.alive, fun task member => ?_⟩
            simp only [hangUp, State.push, Function.update_self, frameTasks, reduceCtorEq, if_false,
              List.append_nil, List.mem_append, List.mem_map] at member
            rcases member with old | ⟨item, _, rfl⟩
            · exact before.hears task old
            · rfl
        | closeFrame => exact absurd there (not_mem_close _ ws)
        | protocolError => exact absurd there (not_mem_close _ ws)
      · cases tail <;> constructor <;>
          simp only [hangUp, State.closeSocket, State.push, Function.update_of_ne same] <;>
          first
          | exact before.kept
          | exact before.alive
          | exact before.hears
  | ended target attached open_ quiet =>
      rw [maybe_evict_live] at there ⊢
      by_cases same : ws = target
      · subst same
        simp [endSocket, State.push] at there
      · constructor <;> simp only [endSocket, State.push, Function.update_of_ne same]
        · exact before.kept
        · exact before.alive
        · exact before.hears
  | task now target task rest drained free next =>
      have popped : ∀ later ∈ (state.pop target rest).chain ws, later.isMessage = true := by
        intro later member
        simp only [State.pop, Function.update_apply] at member
        split at member
        · rename_i same
          subst same
          exact before.hears later (by rw [next]; exact List.mem_cons_of_mem _ member)
        · exact before.hears later member
      cases task <;> exact ⟨before.kept, before.alive, popped⟩
  | restart now =>
      dsimp only [Relay.restart] at there ⊢
      exfalso
      split at there
      · exact absurd there List.not_mem_nil
      · rw [maybe_evict_live, init_keeps] at there
        simp [newContext] at there
  | _ => exact ⟨before.kept, before.alive, before.hears⟩

theorem Turns.result_ended (turns : Turns env state event met) :
    met.result.ended = met.start.ended := by
  have replayed : (replay met.ctx met.start met.acts).ended = met.start.ended := by
    apply Script.replay_keeps (perform met.ctx) State.ended met.acts
    intro act _ state
    cases act <;> rfl
  unfold Turn.result
  rcases turns.finish_keeps (replay met.ctx met.start met.acts) with same | evicted
  · rw [same, replayed]
  · rw [evicted, maybe_evict_live]
    exact replayed

theorem intact_step (wired : Wired env state) (sound : ∀ ws, state.routable ws → Intact state ws)
    (ws : SocketId) (routed : (step env state event).routable ws) :
    Intact (step env state event) ws := by
  rcases step_cases env state event with ⟨_, same⟩ | ⟨met, turns, _, result⟩
  · rw [same] at routed ⊢
    exact sound ws routed
  · rw [result] at routed ⊢
    have open_ : ws ∉ closes met.acts := fun closed => turns.closed_unroutable wired closed routed
    obtain ⟨server, _, chain⟩ := turns.result_close
    have start : Intact met.start ws := by
      by_cases fresh : ∃ now, event = .connect now ws
      · obtain ⟨now, rfl⟩ := fresh
        cases turns with
        | connect now opened ctx resident unseen =>
            constructor <;> simp [State.enter, freshSocket]
      · have before := turns.routable_before (fun now same => fresh ⟨now, same⟩) routed
        exact turns.start_intact (sound ws before.1) before.2
    exact ⟨by rw [server, replay_server_closed _ _ _ open_]; exact start.kept,
      by rw [turns.result_ended]; exact start.alive, by rw [chain]; exact start.hears⟩

theorem intact_run (env : Env) (events : List Event) (ws : SocketId)
    (routed : (run env events).routable ws) : Intact (run env events) ws := by
  refine (Machine.run_invariant (step env)
    (fun state => Wired env state ∧ ∀ ws, state.routable ws → Intact state ws) (fun _ _ => True)
    (fun _ _ holds _ => ⟨wired_step holds.1, intact_step holds.1 holds.2⟩) initial
    ⟨Wired.initial env, ?_⟩ events fun _ _ => trivial).2 ws routed
  simp [initial, State.routable]

end Intact

section Closing
variable {env : Env} {state : State} {event : Event} {met : Turn}

/-- The end of a socket is handled by this turn, which closes its peers. -/
def HandlesEnd (state : State) (event : Event) (ws : SocketId) : Prop :=
  ∃ now task, event = .run now ∧ Starts state ws task ∧ task.isMessage = false

theorem closing_kept {ws : SocketId} (other : SocketId) (closing : state.closing ws) :
    (state.closeSocket other).closing ws := by
  rcases closing with closed | errored | ⟨received, remote, alive⟩
  · exact .inl closed
  · exact .inr (.inl errored)
  · refine .inr (.inr ⟨received, ?_, alive⟩)
    simp only [State.closeSocket, Function.update_apply]
    split
    · rename_i same
      subst same
      simp [remote, received]
    · exact remote

theorem closing_longer {ws : SocketId} {after : State} (closing : state.closing ws)
    (chain : ∀ task ∈ state.chain ws, task ∈ after.chain ws)
    (received : state.closeFrameReceived ws = true → after.closeFrameReceived ws = true)
    (server : after.serverClosed ws = state.serverClosed ws)
    (ended : after.ended ws = state.ended ws) : after.closing ws := by
  rcases closing with closed | errored | ⟨frame, remote, alive⟩
  · exact .inl (chain _ closed)
  · exact .inr (.inl (chain _ errored))
  · exact .inr (.inr ⟨received frame, server.trans remote, ended.trans alive⟩)

theorem mem_push {ws target : SocketId} {tasks : List Task} {task : Task}
    (member : task ∈ state.chain ws) : task ∈ (state.push target tasks).chain ws := by
  simp only [State.push, Function.update_apply]
  split
  · rename_i same
    subst same
    exact List.mem_append_left _ member
  · exact member

theorem Turns.start_closing (turns : Turns env state event met) {ws : SocketId}
    (attached : state.attachment ws ≠ none) (closing : state.closing ws)
    (unhandled : ¬ HandlesEnd state event ws) (process : event.isRestart = false) :
    met.start.closing ws := by
  cases turns with
  | get now absent quiet =>
      rw [init_keeps]
      exact closing
  | connect now opened ctx resident unseen =>
      have apart : ws ≠ opened := by
        rintro rfl
        exact attached unseen
      simpa only [State.closing, State.enter, freshSocket, Function.update_of_ne apart]
        using closing
  | chunk target frames tail attached' hears upgraded quiet =>
      have pushed : (state.push target (frameTasks frames tail)).closing ws :=
        closing_longer closing (fun _ member => mem_push member) (fun received => received) rfl rfl
      cases tail with
      | none => exact pushed
      | protocolError =>
          exact closing_kept target (closing_longer pushed
            (fun _ member => member) (fun received => received) rfl rfl)
      | closeFrame =>
          refine closing_kept target (closing_longer pushed
            (fun _ member => member) (fun received => ?_) rfl rfl)
          simp only [Function.update_apply]
          split
          · rfl
          · exact received
  | ended target attached' open_ quiet =>
      rw [maybe_evict_live]
      by_cases same : ws = target
      · subst same
        rcases closing with closed | errored | ⟨_, remote, _⟩
        · exact .inl (mem_push closed)
        · exact .inr (.inl (mem_push errored))
        · exact .inl (by simp [endSocket, State.push, remote])
      · refine closing_longer closing (fun _ member => mem_push member)
          (fun received => received) rfl ?_
        simp [endSocket, State.push, Function.update_of_ne same]
  | task now target task rest drained free next =>
      have start : (taskTurn env now (state.pop target rest) target state.nextId task).start =
          state.pop target rest := by cases task <;> rfl
      rw [start]
      by_cases same : ws = target
      · subst same
        have message : task.isMessage = true := by
          by_contra ends
          exact unhandled ⟨now, task, rfl, ⟨drained, free, by rw [next]; rfl⟩, by simpa using ends⟩
        have left : ∀ later ∈ state.chain ws, later.isMessage = false →
            later ∈ (state.pop ws rest).chain ws := by
          intro later member ends
          rw [next, List.mem_cons] at member
          rcases member with rfl | member
          · rw [message] at ends
            exact Bool.noConfusion ends
          · simpa [State.pop] using member
        rcases closing with closed | errored | left_
        · exact .inl (left _ closed rfl)
        · exact .inr (.inl (left _ errored rfl))
        · exact .inr (.inr left_)
      · refine closing_longer closing (fun _ member => ?_) (fun received => received) rfl rfl
        simpa [State.pop, Function.update_of_ne same] using member
  | restart now => simp [Event.isRestart] at process
  | _ => exact closing

theorem Turns.result_closing (turns : Turns env state event met) {ws : SocketId}
    (closing : met.start.closing ws) : met.result.closing ws := by
  have replayed : (replay met.ctx met.start met.acts).closing ws := by
    refine Script.replay_invariant (perform met.ctx) (fun state => state.closing ws) met.acts ?_
      met.start closing
    intro act _ state closing
    cases act with
    | close other code reason => exact closing_kept other closing
    | _ => exact closing
  unfold Turn.result
  rcases turns.finish_keeps (replay met.ctx met.start met.acts) with same | evicted
  · rw [same]
    exact replayed
  · rw [evicted, maybe_evict_live]
    exact replayed

-- The end of a socket waits until its handler runs, or the process restarts.
theorem closing_step {ws : SocketId} (attached : state.attachment ws ≠ none)
    (closing : state.closing ws) (unhandled : ¬ HandlesEnd state event ws)
    (process : event.isRestart = false) : (step env state event).closing ws := by
  rcases step_cases env state event with ⟨_, same⟩ | ⟨met, turns, _, result⟩
  · rwa [same]
  · rw [result]
    exact turns.result_closing (turns.start_closing attached closing unhandled process)

theorem handles_closes (wired : Wired env state) {ws peer : SocketId} {role : Role}
    (handles : HandlesEnd state event ws) (holds : state.holds ws role = true)
    (held : peer ∈ state.holders (state.home ws) ws role.other) :
    ¬ (step env state event).routable peer := by
  obtain ⟨now, task, rfl, starts, ends⟩ := handles
  obtain ⟨rest, next⟩ : ∃ rest, state.chain ws = task :: rest := by
    have head := starts.next
    cases chain : state.chain ws with
    | nil => simp [chain] at head
    | cons first rest =>
        rw [chain] at head
        exact ⟨rest, by rw [Option.some.inj head]⟩
  have turn_ : runTurn env now state ws =
      taskTurn env now (state.pop ws rest) ws state.nextId task := by
    simp [runTurn, starts.free, next]
  have happens : turn env state (.run now) =
      some (taskTurn env now (state.pop ws rest) ws state.nextId task) := by
    rw [run_turn starts.drained, turn_]
  have turns := turn_turns happens
  have result : step env state (.run now) =
      (taskTurn env now (state.pop ws rest) ws state.nextId task).result := by
    rw [step, happens]
  rw [result]
  apply turns.closed_unroutable wired
  have script : (taskTurn env now (state.pop ws rest) ws state.nextId task).acts =
      closePeerOf (state.home ws) (state.pop ws rest) ws := by
    cases task with
    | message frame random fault => simp [Task.isMessage] at ends
    | _ => exact (uncaught_acts rfl).trans (closePeerOf_done none (state.home ws) ws)
  rw [script]
  exact mem_closePeerOf.mpr ⟨role, holds, held⟩

end Closing

section Doomed
variable {env : Env} {state : State} {event : Event} {met : Turn}

theorem other_apart {first second : SocketId} {role : Role} (holds : state.holds first role = true)
    (others : state.holds second role.other = true) : first ≠ second := by
  rintro rfl
  rw [holds_iff] at holds others
  rw [holds] at others
  cases role <;> simp [Role.other] at others

theorem other_other (role : Role) : role.other.other = role := by cases role <;> rfl

/-- A holder that is out of the routable set, or will be once an end is handled. -/
def Lost (state : State) (peer : SocketId) (role : Role) : Prop :=
  ¬ state.routable peer ∨ Doomed state peer role

theorem lost_step (wired : Wired env state) {peer : SocketId} {role : Role}
    (holds : state.holds peer role = true) (lost : Lost state peer role) :
    Lost (step env state event) peer role := by
  have attached := held_attached holds
  by_cases routed : state.routable peer
  · obtain ⟨closer, slot, home, closing⟩ := lost.resolve_left (not_not_intro routed)
    have held : peer ∈ state.holders (state.home closer) closer role.other.other := by
      rw [mem_holders, home, other_other]
      exact ⟨routed, other_apart holds slot, holds⟩
    by_cases handled : HandlesEnd state event closer
    · exact .inl (handles_closes wired handled slot held)
    · cases process : event.isRestart with
      | true =>
          cases event with
          | restart now => exact .inl (restart_unroutable now state peer)
          | _ => simp [Event.isRestart] at process
      | false =>
          refine .inr ⟨closer, holds_iff.mpr (admitted_stays wired (holds_iff.mp slot)), ?_,
            closing_step (held_attached slot) closing handled process⟩
          rw [home_stays (held_attached slot), home_stays attached, home]
  · exact .inl fun after => routed (routable_attached attached after)

theorem lost_run (before during : List Event) {peer : SocketId} {role : Role}
    (holds : (run env before).holds peer role = true) (lost : Lost (run env before) peer role) :
    (run env (before ++ during)).holds peer role = true ∧
      Lost (run env (before ++ during)) peer role := by
  rw [run, Machine.run_append]
  have steps := Machine.run_invariant (step env)
    (fun state => Wired env state ∧ state.holds peer role = true ∧ Lost state peer role)
    (fun _ _ => True)
    (fun state event inv _ => ⟨wired_step inv.1,
      holds_iff.mpr (admitted_stays inv.1 (holds_iff.mp inv.2.1)), lost_step inv.1 inv.2.1 inv.2.2⟩)
    (run env before) ⟨wired_run env before, holds, lost⟩ during fun _ _ => trivial
  exact steps.2

-- No holder is lost and routable where nothing is under way and no close handshake is open
-- beside it.
theorem Shaken.unroutable (rest : Resting state) (shaken : Shaken state)
    {peer : SocketId} {role : Role} (holds : state.holds peer role = true)
    (lost : Lost state peer role) : ¬ state.routable peer := by
  rcases lost with gone | ⟨closer, slot, home, closing⟩
  · exact gone
  · intro routed
    have handled := rest.handled closer
    rcases closing with closed | errored | ⟨frame, server, alive⟩
    · rw [handled] at closed
      cases closed
    · rw [handled] at errored
      cases errored
    · have alone := shaken closer role.other slot frame server alive
      have held : peer ∈ state.holders (state.home closer) closer role.other.other := by
        rw [mem_holders, home, other_other]
        exact ⟨routed, other_apart holds slot, holds⟩
      rw [alone] at held
      cases held

end Doomed

section Balance
variable {env : Env} {state : State} {event : Event} {met : Turn}

theorem starting_of {now : Nat} {ws : SocketId} {task : Task} (starts : Starts state ws task) :
    starting state (.run now) = some (now, ws, task) := by
  simp [starting, starts.drained, starts.free, starts.next]

theorem ends_paired {now : Nat} {ws : SocketId} {task : Task} {role : Role}
    (balanced_ : balanced env state (.run now) = true) (starts : Starts state ws task)
    (holds : state.holds ws role = true) :
    (severs now state ws task = true → unpaired state ws role = true) ∧
      (severs now state ws task = false → cutShort env state (.run now) = true →
        state.routable ws → state.holders (state.home ws) ws role.other = []) := by
  have ends := (Bool.and_eq_true _ _ ▸ balanced_ : _ ∧ _).1
  simp only [endsPaired, starting_of starts, holds_iff.mp holds] at ends
  constructor
  · intro severed
    simpa [severed] using ends
  · intro admits cut routed
    rw [cut_metering starts holds admits] at cut
    simpa [admits, cut, routed] using ends

theorem joins_open (wired : Wired env state) {ws : SocketId} {role : Role}
    (balanced_ : balanced env state event = true) (seats : Seats env state event ws role) :
    state.routable ws ∧ cutShort env state event = false ∨
      ¬ state.routable ws ∧ (state.closing ws ∨ unpaired state ws role = true) := by
  obtain ⟨joined, granted, past, cut⟩ := seats.granted wired
  have opens := (Bool.and_eq_true _ _ ▸ balanced_ : _ ∧ _).2
  simp only [joinsOpen, joined, granted, past, Bool.not_true, Bool.false_or, ← cut] at opens
  split at opens
  · rename_i routed
    exact .inl ⟨routed, by simpa using opens⟩
  · rename_i away
    exact .inr ⟨away, by simpa using opens⟩

theorem not_unpaired {ws first second : SocketId} {role : Role}
    (one : first ∈ state.holders (state.home ws) ws role)
    (other : second ∈ state.holders (state.home ws) ws role.other) :
    unpaired state ws role ≠ true := by
  intro alone
  simp only [unpaired, Bool.or_eq_true, List.isEmpty_iff] at alone
  rcases alone with none_ | none_
  · rw [none_] at one
    exact absurd one List.not_mem_nil
  · rw [none_] at other
    exact absurd other List.not_mem_nil

theorem paired_home (wired : Wired env state) {first second : SocketId}
    (one : state.routable first) (other : state.routable second) :
    state.home first = state.home second := by
  have here := (wired.anchored _ _ one).1
  rw [(wired.anchored _ _ other).1] at here
  exact (Option.some.inj here).symm

theorem routable_kept (happens : turn env state event = some met) {ws : SocketId}
    (attached : state.attachment ws ≠ none) (there : ws ∈ met.start.sockets (state.home ws))
    (open_ : ws ∉ closes met.acts) : (step env state event).routable ws := by
  have turns := turn_turns happens
  have result : step env state event = met.result := by rw [step, happens]
  rw [State.routable, home_stays attached, result, turns.result_sockets.1]
  by_cases connects : ∃ now opened, event = .connect now opened
  · obtain ⟨now, opened, rfl⟩ := connects
    cases turns with
    | connect now opened ctx resident unseen =>
        have there : ws ∈ state.sockets (state.home ws) := there
        change ws ∈
          Function.update state.sockets ctx (state.sockets ctx ++ [opened]) (state.home ws)
        rw [Function.update_apply]
        split
        · rename_i same
          rw [same] at there
          exact List.mem_append_left _ there
        · exact there
  · exact (mem_replay_sockets _ _ _ (fun target member => connects (turns.connects member)) _ _).mpr
      ⟨there, fun both => open_ both.2⟩

theorem Seated.stays {join : Join} (wired : Wired env state)
    (seated : Seated env state event join met) (whole : cutShort env state event = false)
    (routed : state.routable join.ws) : (step env state event).routable join.ws := by
  have turns := turn_turns seated.happens
  have acts : met.acts = met.script :=
    Turn.acts_whole (by rw [← cut_short seated.happens, whole])
  have attached := seated.attach_mem
  rw [acts] at attached
  apply routable_kept seated.happens (wired.anchored _ _ routed).2.2
  · rw [(seated.joins.start seated.happens).1]
    exact routed
  · rw [acts]
    rcases turns.joining_cases wired (turn_free seated.happens) with
      ⟨_, quiet⟩ | ⟨other, joins, _, script, _⟩
    · exact absurd (quiet _ attached) (by simp [Act.admits, admittedAs])
    · rw [script] at attached ⊢
      rcases joins.script_cases with ⟨verbs, fits, unseated⟩ | ⟨front, quiet, shape⟩
      · exact absurd (fits.each _ attached) (unseated _ (by simp))
      · have greets := greet_within other.now other.mid other.random other.ws other.attest
          other.role
        have displaces : Within [.close] (displace other.ctx other.mid other.ws other.role) :=
          Within.map_of (by simp)
        rw [shape, seat] at attached ⊢
        have same : join.ws = other.ws := by
          simp only [List.mem_append, List.mem_cons, Act.attach.injEq] at attached
          rcases attached with early | displaced | ⟨same, _⟩ | greeted
          · exact absurd early (quiet.lacks (by simp))
          · exact absurd displaced (displaces.lacks (by simp))
          · exact same
          · exact absurd greeted (greets.lacks (by simp))
        have attaches : ∀ value, closes (.attach other.ws value ::
            greet other.now other.mid other.random other.ws other.attest other.role) = [] :=
          fun value => greets.closes_nil (by simp)
        intro closed
        rw [closes_append, closes_append, quiet.closes_nil (by simp), attaches, List.nil_append,
          List.append_nil, displace, closes_map, same] at closed
        exact (mem_holders.mp closed).2.1 rfl

theorem mem_closed {ws target : SocketId} (apart : ws ≠ target)
    (there : ws ∈ state.sockets (state.home ws)) :
    ws ∈ (state.closeSocket target).sockets (state.home ws) := by
  simp only [State.closeSocket, Function.update_apply]
  split
  · rename_i same
    rw [same] at there
    exact List.mem_filter.mpr ⟨there, by simpa using apart⟩
  · exact there

theorem Turns.start_gone (turns : Turns env state event met) (wired : Wired env state)
    (process : event.isRestart = false) {ws : SocketId} (routed : state.routable ws)
    (intact : Intact state ws) (gone : ws ∉ met.start.sockets (state.home ws)) :
    met.start.closing ws := by
  cases turns with
  | get now absent quiet =>
      have resident := (wired.anchored _ _ routed).1
      rw [absent] at resident
      cases resident
  | chunk target frames tail attached hears upgraded quiet =>
      by_cases same : ws = target
      · subst same
        cases tail with
        | none => exact absurd routed gone
        | closeFrame =>
            refine closing_kept ws (.inr (.inr ⟨by simp, ?_, ?_⟩))
            · exact intact.kept
            · exact intact.alive
        | protocolError => exact closing_kept ws (.inr (.inl (by simp [State.push, frameTasks])))
      · cases tail with
        | none => exact absurd routed gone
        | closeFrame => exact absurd (mem_closed same routed) gone
        | protocolError => exact absurd (mem_closed same routed) gone
  | ended target attached open_ quiet =>
      rw [maybe_evict_live] at gone ⊢
      by_cases same : ws = target
      · subst same
        exact .inl (by simp [endSocket, State.push, intact.kept])
      · exact absurd (mem_closed same routed) gone
  | task now target task rest drained free next => cases task <;> exact absurd routed gone
  | restart now => simp [Event.isRestart] at process
  | _ => exact absurd routed gone

theorem Joins.unhandled {join : Join} (joins : Joins env state event join) :
    ¬ HandlesEnd state event join.ws := by
  rintro ⟨now, task, runs, starts, ends⟩
  cases joins with
  | pairing now ws role nonce yields frame random fault rest window lead attest drained free next =>
      have head := starts.next
      rw [next] at head
      obtain rfl : Task.message frame random fault = task := Option.some.inj head
      simp [Task.isMessage] at ends
  | signature => cases runs

theorem departure_lost (wired : Wired env state)
    (sound : ∀ ws, state.routable ws → Intact state ws)
    (balanced_ : balanced env state event = true)
    (happens : turn env state event = some met) {ws peer : SocketId} {role : Role}
    (leaves : Leaves env state event ws role) (holds : state.holds ws role = true)
    (seated : state.seated peer role.other) (departure : Departure env state event met ws role) :
    Lost (step env state event) peer role.other := by
  have turns := turn_turns happens
  have result : step env state event = met.result := by rw [step, happens]
  have home := paired_home wired leaves.routed seated.1
  have closes_ : peer ∈ closes met.acts → Lost (step env state event) peer role.other := by
    intro closed
    rw [result]
    exact .inl (turns.closed_unroutable wired closed)
  cases departure with
  | emptied all => exact closes_ (all peer (home ▸ seated.1))
  | severed now source task runs starts severs cut peers ends =>
      subst runs
      rcases cut with rfl | ⟨other, slot, held⟩
      · exact closes_ (peers role holds peer (mem_holders.mpr ⟨home ▸ seated.1,
          (other_apart holds seated.2).symm, seated.2⟩))
      · obtain ⟨there, _, slot'⟩ := mem_holders.mp held
        obtain rfl : other.other = role := by
          rw [holds_iff] at holds slot'
          rw [holds] at slot'
          cases slot'
          rfl
        by_cases same : peer = source
        · subst same
          cases message : task.isMessage with
          | true => exact closes_ (ends message)
          | false =>
              have hears := (sound peer seated.1).hears task (List.mem_of_mem_head? starts.next)
              rw [message] at hears
              exact Bool.noConfusion hears
        · have partner : peer ∈ state.holders (state.home source) source other := by
            refine mem_holders.mpr ⟨?_, same, other_other other ▸ seated.2⟩
            rw [← (wired.anchored _ _ there).2.1, home]
            exact seated.1
          exact absurd ((ends_paired balanced_ starts slot).1 severs) (not_unpaired partner held)
  | thrown now task runs starts admits cut =>
      subst runs
      have alone := (ends_paired balanced_ starts holds).2 admits cut leaves.routed
      have partner : peer ∈ state.holders (state.home ws) ws role.other :=
        mem_holders.mpr ⟨home ▸ seated.1, (other_apart holds seated.2).symm, seated.2⟩
      rw [alone] at partner
      exact absurd partner List.not_mem_nil
  | displaced join seated_ same held =>
      subst same
      obtain ⟨there, apart, _⟩ := mem_holders.mp held
      obtain ⟨nonce, yields, challenged⟩ := seated_.joins.challenged wired
      have seats : Seats env state event join.ws join.role :=
        ⟨_, seated_.performs ▸ seated_.attach_mem, rfl⟩
      have shared : state.home join.ws = state.home peer := by
        rw [← (wired.anchored _ _ there).2.1, home]
      rcases joins_open wired balanced_ seats with ⟨routed, whole⟩ | ⟨_, closing | alone⟩
      · exact absurd (seated_.stays wired whole routed) (leaves.unreplaced _ seats apart.symm)
      · have attached : state.attachment join.ws ≠ none := by
          intro unseen
          simp [State.admission, unseen] at challenged
        refine .inr ⟨join.ws, by rw [other_other]; exact seated_.holds, ?_, ?_⟩
        · rw [home_stays attached, home_stays (held_attached seated.2), shared]
        · refine closing_step attached closing (seated_.joins.unhandled) ?_
          cases seated_.joins <;> rfl
      · have partner : peer ∈ state.holders (state.home join.ws) join.ws join.role.other := by
          refine mem_holders.mpr ⟨shared ▸ seated.1, ?_, seated.2⟩
          rintro rfl
          have slot := seated.2
          simp [State.holds, challenged] at slot
        exact absurd alone (not_unpaired held partner)

-- What becomes of the peer of a holder that leaves.
theorem leaves_step (wired : Wired env state) (sound : ∀ ws, state.routable ws → Intact state ws)
    (balanced_ : balanced env state event = true) {ws peer : SocketId} {role : Role}
    (leaves : Leaves env state event ws role) (seated : state.seated peer role.other) :
    Lost (step env state event) peer role.other := by
  have attached := (wired.anchored _ _ leaves.routed).2.2
  cases happens : turn env state event with
  | none =>
      have same : step env state event = state := by rw [step, happens]
      have gone := leaves.gone
      rw [same] at gone
      exact absurd leaves.routed gone
  | some met =>
      have turns := turn_turns happens
      have result : step env state event = met.result := by rw [step, happens]
      by_cases there : ws ∈ met.start.sockets (state.home ws)
      · have closed : ws ∈ closes met.acts := by
          by_contra open_
          exact leaves.gone (routable_kept happens attached there open_)
        rcases holds_cases leaves.holds with holds | seats
        · exact departure_lost wired sound balanced_ happens leaves holds seated
            (turns.departs wired happens holds closed)
        · obtain ⟨join, turn_, seated_, _, rfl, rfl⟩ := seats.seated wired
          rcases joins_open wired balanced_ seats with ⟨routed, whole⟩ | ⟨away, _⟩
          · exact absurd (seated_.stays wired whole routed) leaves.gone
          · exact absurd leaves.routed away
      · cases process : event.isRestart with
        | true =>
            cases event with
            | restart now => exact .inl (restart_unroutable now state peer)
            | _ => simp [Event.isRestart] at process
        | false =>
            refine .inr ⟨ws, by rw [other_other]; exact leaves.holds, ?_, ?_⟩
            · rw [home_stays attached, home_stays (held_attached seated.2)]
              exact paired_home wired leaves.routed seated.1
            · rw [result]
              exact turns.result_closing (turns.start_gone wired process leaves.routed
                (sound ws leaves.routed) there)

theorem Seats.parked (wired : Wired env state) {phone : SocketId}
    (seats : Seats env state event phone .phone) :
    ∃ mac, mac ∈ state.holders (state.home phone) phone .mac := by
  obtain ⟨⟨admission, room, tag, since⟩, member, admitted⟩ := seats
  obtain rfl : admission = .admitted .phone := admitted
  unfold acts at member
  cases happens : turn env state event with
  | none => simp [happens] at member
  | some met =>
      rw [happens] at member
      have turns := turn_turns happens
      have ran : .attach phone ⟨.admitted .phone, room, tag, since⟩ ∈ met.script := by
        rcases turn_act member with ran | caught
        · exact ran
        · exact absurd caught (turns.on_throw.lacks (by simp))
      rcases turns.joining_cases wired (turn_free happens) with
        ⟨_, quiet⟩ | ⟨join, joins, _, script, _⟩
      · exact absurd (quiet _ ran) (by simp [Act.admits])
      · rw [script, Join.script, List.mem_append] at ran
        have taken := ran.resolve_left (joins.lead_within.lacks (by simp))
        rcases admit_cases env join.now join.ctx join.mid join.random join.ws join.role join.attest
          with ⟨whole, _⟩ | ⟨whole, _⟩ | ⟨whole, parked⟩
        · rw [whole] at taken
          simp [reject] at taken
        · rw [whole] at taken
          have torn : Within [.read, .close, .deleteAll, .deleteAlarm]
              (.get :: .get :: teardownRoom join.ctx join.mid "pairing cycle cap") :=
            Within.cons_iff.mpr ⟨by simp, Within.cons_iff.mpr ⟨by simp,
              (teardownRoom_within ..).mono (by simp)⟩⟩
          exact absurd taken (torn.lacks (by simp))
        · have front : Within [.read, .putPairingCycles] (.get :: charge join.mid join.role) :=
            Within.cons_iff.mpr ⟨by simp, charge_within ..⟩
          rw [whole, List.mem_append] at taken
          have taken := taken.resolve_left (front.lacks (by simp))
          obtain ⟨rfl, role⟩ : phone = join.ws ∧ .phone = join.role := by
            rcases takeSlot_cases env join.now join.ctx join.mid join.random join.ws join.role
              join.attest with ⟨ends, _⟩ | ⟨ends, _⟩
            · rw [ends] at taken
              simp [reject] at taken
            · have displaces : Within [.close] (displace join.ctx join.mid join.ws join.role) :=
                Within.map_of (by simp)
              rw [ends, seat, List.mem_append, List.mem_cons] at taken
              rcases taken with displaced | here | greeted
              · exact absurd displaced (displaces.lacks (by simp))
              · simp only [Act.attach.injEq, admittedAs, Attachment.mk.injEq,
                  Admission.admitted.injEq] at here
                exact ⟨here.1, here.2.1⟩
              · exact absurd greeted ((greet_within ..).lacks (by simp))
          obtain ⟨mac, held⟩ := List.exists_mem_of_ne_nil _ (parked role.symm).1
          rw [joins.same_room.holders, joins.ctx_home wired] at held
          exact ⟨mac, held⟩

/-- Where a phone is in its slot, a mac is in its own or has ended. -/
def Parked (state : State) : Prop :=
  ∀ phone, state.seated phone .phone →
    (∃ mac, state.seated mac .mac) ∨ Doomed state phone .phone

theorem joined_parked (wired : Wired env state) {phone : SocketId}
    (seats : Seats env state event phone .phone) :
    ∃ mac, (step env state event).seated mac .mac := by
  obtain ⟨mac, held⟩ := seats.parked wired
  obtain ⟨there, apart, holds⟩ := mem_holders.mp held
  obtain ⟨join, met, seated, _, rfl, role⟩ := seats.seated wired
  have anchor := wired.anchored _ _ there
  refine ⟨mac, ?_, holds_iff.mpr (admitted_stays wired (holds_iff.mp holds))⟩
  apply routable_kept seated.happens anchor.2.2
  · rw [(seated.joins.start seated.happens).1, anchor.2.1]
    exact there
  · intro closed
    rcases seated.spares mac closed with same | displaced
    · exact apart same
    · have slot := (mem_holders.mp displaced).2.2
      rw [role] at slot
      exact other_apart slot holds rfl

theorem parked_step (wired : Wired env state) (sound : ∀ ws, state.routable ws → Intact state ws)
    (balanced_ : balanced env state event = true) (parked : Parked state) :
    Parked (step env state event) := by
  rintro phone ⟨routed, slot⟩
  rcases holds_cases slot with holds | seats
  · have before : state.seated phone .phone :=
      ⟨routable_attached (held_attached holds) routed, holds⟩
    have doomed : Lost (step env state event) phone .phone →
        Doomed (step env state event) phone .phone :=
      fun lost => lost.resolve_left (not_not_intro routed)
    rcases parked phone before with ⟨mac, there, held⟩ | waits
    · have held' : (step env state event).holds mac .mac = true :=
        holds_iff.mpr (admitted_stays wired (holds_iff.mp held))
      by_cases stays : (step env state event).routable mac
      · exact .inl ⟨mac, stays, held'⟩
      · by_cases replaced : ∃ newcomer, Seats env state event newcomer .mac ∧
            (step env state event).routable newcomer
        · obtain ⟨newcomer, seats, open_⟩ := replaced
          obtain ⟨join, met, seated, _, rfl, role⟩ := seats.seated wired
          exact .inl ⟨join.ws, open_, role ▸ seated.holds⟩
        · have leaves : Leaves env state event mac .mac :=
            ⟨there, held', stays, fun newcomer seats _ open_ => replaced ⟨newcomer, seats, open_⟩⟩
          exact .inr (doomed (leaves_step wired sound balanced_ leaves before))
    · exact .inr (doomed (lost_step wired holds (.inr waits)))
  · exact .inl (joined_parked wired seats)

end Balance

section Rest
variable {env : Env} {state : State} {event : Event} {met : Turn}

/-- The chain of a socket runs on, or a proof holds it up. -/
def Served (state : State) : Prop :=
  ∀ ws, state.chain ws ≠ [] → state.draining = some ws ∨ state.verifying ws = true

theorem Turns.start_served (turns : Turns env state event met) (wired : Wired env state)
    (free : state.busy event = false) (served : Served state) : Served met.start := by
  intro ws pending
  cases turns with
  | get now absent quiet =>
      rw [init_keeps] at pending ⊢
      exact served ws pending
  | connect now opened ctx resident unseen =>
      by_cases same : ws = opened
      · subst same
        exact absurd (Function.update_self ..) pending
      · refine served ws ?_
        simpa only [State.enter, freshSocket, Function.update_of_ne same] using pending
  | chunk target frames tail attached hears upgraded quiet =>
      rw [hang_up_keeps] at pending ⊢
      by_cases same : ws = target
      · exact .inl (congrArg some same.symm)
      · have queued : state.chain ws ≠ [] := by
          simpa only [State.push, Function.update_of_ne same] using pending
        have idle := (served ws queued).resolve_left (by simp [quiet])
        exact .inr idle
  | ended target attached open_ quiet =>
      rw [maybe_evict_live] at pending ⊢
      by_cases same : ws = target
      · exact .inl (congrArg some same.symm)
      · have queued : state.chain ws ≠ [] := by
          simpa only [endSocket, State.push, Function.update_of_ne same] using pending
        have idle := (served ws queued).resolve_left (by simp [quiet])
        exact .inr idle
  | idle now target drained stopped =>
      right
      rcases served ws pending with runs | waits
      · rw [drained] at runs
        obtain rfl : target = ws := Option.some.inj runs
        exact stopped.resolve_right pending
      · exact waits
  | task now target task rest drained unblocked next =>
      have start : (taskTurn env now (state.pop target rest) target state.nextId task).start =
          state.pop target rest := by cases task <;> rfl
      rw [start] at pending ⊢
      by_cases same : ws = target
      · exact .inl (same ▸ drained)
      · refine served ws ?_
        simpa only [State.pop, Function.update_of_ne same] using pending
  | resume now id random fault handler found quiet =>
      have waits := (served ws pending).resolve_left (by simp [quiet])
      obtain ⟨waiting, there, proof⟩ := verifying_iff.mp waits
      by_cases same : waiting.id = id
      · left
        obtain ⟨member, numbered⟩ := mem_find found
        obtain rfl : waiting = handler :=
          List.inj_on_of_nodup_map wired.distinct there member (same.trans numbered.symm)
        obtain ⟨check, await, rfl⟩ := isProofOf_iff.mp proof
        rw [await]
        rfl
      · exact .inr (verifying_iff.mpr ⟨waiting, List.mem_filter.mpr ⟨there, by simpa⟩, proof⟩)
  | restart now =>
      dsimp only [Relay.restart] at pending
      split at pending
      · exact absurd rfl pending
      · rw [maybe_evict_live, init_keeps] at pending
        exact absurd rfl pending
  | _ => exact served ws pending

theorem Turns.result_draining (turns : Turns env state event met) :
    met.result.draining = met.start.draining := by
  have replayed : (replay met.ctx met.start met.acts).draining = met.start.draining := by
    apply Script.replay_keeps (perform met.ctx) State.draining met.acts
    intro act _ state
    cases act <;> rfl
  unfold Turn.result
  rcases turns.finish_keeps (replay met.ctx met.start met.acts) with same | evicted
  · rw [same, replayed]
  · rw [evicted, maybe_evict_live]
    exact replayed

theorem served_step (wired : Wired env state) (served : Served state) :
    Served (step env state event) := by
  intro ws pending
  cases happens : turn env state event with
  | none =>
      have same : step env state event = state := by rw [step, happens]
      rw [same] at pending ⊢
      exact served ws pending
  | some met =>
      have turns := turn_turns happens
      have result : step env state event = met.result := by rw [step, happens]
      rw [result, turns.result_close.2.2] at pending
      rw [result, turns.result_draining]
      rcases turns.start_served wired (turn_free happens) served ws pending with runs | waits
      · exact .inl runs
      · obtain ⟨handler, member, proof⟩ := verifying_iff.mp waits
        refine .inr (verifying_iff.mpr ⟨handler, ?_, proof⟩)
        rw [turns.result_suspended]
        exact List.mem_append_left _ member

theorem resting_run (env : Env) (events : List Event) (drained : (run env events).draining = none)
    (resumed : (run env events).suspended = []) (alarmed : (run env events).alarming = none) :
    Resting (run env events) := by
  have served := (Machine.run_invariant (step env)
    (fun state => Wired env state ∧ Served state) (fun _ _ => True)
    (fun state event inv _ => ⟨wired_step inv.1, served_step inv.1 inv.2⟩) initial
    ⟨Wired.initial env, by simp [Served, initial]⟩ events fun _ _ => trivial).2
  refine ⟨drained, fun ws => ?_, resumed, alarmed⟩
  by_contra queued
  rcases served ws queued with runs | waits
  · rw [drained] at runs
    cases runs
  · simp [State.verifying, resumed] at waits

end Rest

/-- In a run whose events are balanced no room is half-open where no close handshake of a holder
is open beside the other, and between the steps a phone without a mac is about to be closed. -/
theorem no_half_open (env : Env) (events : List Event)
    (even : ∀ met ∈ steps env events, balanced env met.1 met.2 = true) :
    (∀ before, before <+: events → Resting (run env before) → Shaken (run env before) →
      Whole env before) ∧
    ∀ before, before <+: events → ∀ phone, (run env before).seated phone .phone →
      (∃ mac, (run env before).seated mac .mac) ∨ Doomed (run env before) phone .phone := by
  have parked : ∀ before, before <+: events → Parked (run env before) := by
    rintro before ⟨after, rfl⟩
    refine (Machine.run_invariant (step env)
      (fun state => Wired env state ∧ (∀ ws, state.routable ws → Intact state ws) ∧ Parked state)
      (fun state event => balanced env state event = true)
      (fun state event inv even => ⟨wired_step inv.1, intact_step inv.1 inv.2.1,
        parked_step inv.1 inv.2.1 even inv.2.2⟩) initial ?_ before ?_).2.2
    · refine ⟨Wired.initial env, by simp [initial, State.routable], ?_⟩
      exact fun phone seated => absurd seated.1 List.not_mem_nil
    · intro met member
      apply even
      rw [steps, Machine.steps_append]
      exact List.mem_append_left _ member
  refine ⟨fun past initial_ rest shaken => ⟨?_, ?_⟩, parked⟩
  · intro phone seated
    exact (parked past initial_ phone seated).resolve_right fun waits =>
      shaken.unroutable rest seated.2 (.inr waits) seated.1
  · rintro before event during rfl ws role peer leaves seated
    obtain ⟨after, rfl⟩ := initial_
    have even_ : balanced env (run env before) event = true := by
      apply even (run env before, event)
      rw [steps, List.append_assoc, Machine.steps_append]
      exact List.mem_append_right _ List.mem_cons_self
    have lost := leaves_step (wired_run env before) (intact_run env before) even_ leaves seated
    have ran : run env (before ++ [event]) = step env (run env before) event := by
      simp [run]
    have holds : (run env (before ++ [event])).holds peer role.other = true := by
      rw [ran]
      exact holds_iff.mpr (admitted_stays (wired_run env before) (holds_iff.mp seated.2))
    rw [← ran] at lost
    have later := lost_run (before ++ [event]) during holds lost
    rw [List.append_assoc, List.singleton_append] at later
    exact shaken.unroutable rest later.1 later.2

-- A socket holds a slot only if a proof of it has come to Room.admit.
theorem held_joining (env : Env) (events : List Event) {ws : SocketId} {role : Role}
    (holds : (run env events).holds ws role = true) :
    ∃ met ∈ steps env events, joining env met.1 met.2 = some (ws, role) := by
  induction events using List.reverseRecOn with
  | nil => simp [initial, State.holds, State.admission] at holds
  | append_singleton before event ih =>
      rw [steps, Machine.steps_append]
      rw [run, Machine.run_append] at holds
      rcases holds_cases holds with old | seats
      · obtain ⟨met, member, joined⟩ := ih old
        exact ⟨met, List.mem_append_left _ member, joined⟩
      · exact ⟨_, List.mem_append_right _ List.mem_cons_self,
          (seats.granted (wired_run env before)).1⟩

/-- The mac of a room closes, and so does the relay's side of its phone. -/
def macLeaves : List Event :=
  [.run 1, .ended 0, .run 1, .run 1]

theorem mac_takes_phone :
    ¬ (run (sampleEnv false) (pairedRoom ++ .chunk 0 [] .closeFrame :: macLeaves)).routable 1 := by
  have closed : (let env := sampleEnv false
      let events := pairedRoom ++ .chunk 0 [] .closeFrame :: macLeaves
      (∀ met ∈ steps env events, balanced env met.1 met.2 = true) ∧
      (run env pairedRoom).routable 0 ∧ (run env pairedRoom).seated 1 .phone ∧
      acts env (run env pairedRoom) (.chunk 0 [] .closeFrame) = [] ∧
      (step env (run env pairedRoom) (.chunk 0 [] .closeFrame)).holds 0 .mac = true ∧
      ¬ (step env (run env pairedRoom) (.chunk 0 [] .closeFrame)).routable 0 ∧
      ((run env events).draining = none ∧ (run env events).suspended = [] ∧
        (run env events).alarming = none) ∧
      ∀ met ∈ steps env events, ∀ seat ∈ joining env met.1 met.2,
        (run env events).ended seat.1 = false → (run env events).closeFrameReceived seat.1 = false) := by
    decide +kernel
  obtain ⟨even, routed, seated, quiet, holds, gone, ⟨drained, resumed, alarmed⟩, shaken⟩ := closed
  refine ((no_half_open (sampleEnv false) _ even).1 _ (List.prefix_refl _)
    (resting_run _ _ drained resumed alarmed) ?_).together pairedRoom (.chunk 0 [] .closeFrame)
    macLeaves rfl 0 .mac 1 ⟨routed, holds, gone, ?_⟩ seated
  · intro ws role holds frame _ alive
    obtain ⟨met, member, joined⟩ := held_joining _ _ holds
    rw [shaken met member (ws, role) joined alive] at frame
    cases frame
  · rintro newcomer ⟨value, member, _⟩
    rw [quiet] at member
    exact absurd member List.not_mem_nil

/-- A phone sends its close frame and joins again on a new socket before the 'close' event of the
old one, which closes the mac. -/
def phoneRejoins : List Event :=
  pairedRoom ++ [.chunk 1 [] .closeFrame, .run 1] ++ joins 1 2 7 phoneHello openProof [3] ++
    [.ended 1, .run 1, .run 1]

theorem phone_left_alone : ¬ NoHalfOpen (sampleEnv false) phoneRejoins := by
  have left : (let env := sampleEnv false
      (run env phoneRejoins).seated 2 .phone ∧
      ((run env phoneRejoins).draining = none ∧ (run env phoneRejoins).suspended = [] ∧
        (run env phoneRejoins).alarming = none) ∧
      ∀ met ∈ steps env phoneRejoins, ∀ seat ∈ joining env met.1 met.2,
        seat.2 = .mac → ¬ (run env phoneRejoins).routable seat.1) := by
    decide +kernel
  obtain ⟨seated, ⟨drained, resumed, alarmed⟩, others⟩ := left
  intro closed
  obtain ⟨mac, routed, holds⟩ := (closed phoneRejoins (List.prefix_refl _)
    (resting_run _ _ drained resumed alarmed)).parked 2 seated
  obtain ⟨met, member, joined⟩ := held_joining _ _ holds
  exact others met member _ joined rfl routed

end Relay

import CompanionRelay.SoleProof

/-!
The splice between the two holders. While both slots are held, each frame that arrives on the
one is sent to the other as it is, in the order of the promise chain, unless its own handler
ends the socket.
-/

namespace Relay

section Statement
variable (env : Env) (ws peer : SocketId) (role : Role) (met : State × Event)

def relayedTo (script : List Act) : List Frame :=
  script.filterMap fun
    | .send target (.relayed frame) => if target = peer then some frame else none
    | _ => none

/-- The frames that the peer receives from the handlers of the socket's frames. -/
def received : List Frame :=
  match met.2 with
  | .run _ =>
      if met.1.draining = some ws then relayedTo peer (acts env met.1 met.2) else []
  | _ => []

/-- The socket's frame is over the size cap, or the room over its rate or its quota. -/
def cutOff (now : Nat) (state : State) (frame : Frame) : Bool :=
  decide (frame.size > frameCap state ws) ||
    (rateLimited (state.frameWindow (state.home ws)) now maxFramesPerWindow frameWindowMs).2 ||
    overQuota env now (state.home ws) state frame.size

/-- A close for the size, the rate or the quota. -/
def limited : Bool :=
  match met.2 with
  | .run now => (handled ws met).any (cutOff env ws now met.1)
  | _ => false

/-- Such a close, or one because the handler of the frame has thrown. -/
def ended : Bool := limited env ws met || cutShort env met.1 met.2

def State.seated (state : State) (ws : SocketId) (role : Role) : Prop :=
  state.routable ws ∧ state.holds ws role = true

instance (state : State) (ws : SocketId) (role : Role) : Decidable (state.seated ws role) :=
  inferInstanceAs (Decidable (_ ∧ _))

/-- Both slots are held as each turn begins. The microtasks of the turn may go on after the
socket has lost its slot, as when its close frame comes in one read with its last frames. -/
def Period (start : State) (during : List Event) : Prop :=
  start.seated ws role ∧
    ∀ met ∈ Machine.steps (step env) start during,
      met.1.seated peer role.other ∧ (met.2.isRun = false → met.1.seated ws role) ∧
        met.2.isRestart = false

instance (start : State) (during : List Event) : Decidable (Period env ws peer role start during) :=
  inferInstanceAs (Decidable (_ ∧ ∀ _ ∈ _, _))

/-- The splice of every run, where `cut` says which frames do not get through. -/
structure FaithfulSplice (cut : SocketId → State × Event → Bool) (events : List Event) : Prop where
  -- from its upgrade on, what a socket delivers is handled in order, each frame once
  order : ∀ before during after ws, events = before ++ (during ++ after) →
    (run env before).attachment ws ≠ none → (∀ event ∈ during, event.isRestart = false) →
    queued ws (run env before) ++
        (Machine.steps (step env) (run env before) during).flatMap (delivered env ws) =
      (Machine.steps (step env) (run env before) during).flatMap (handled ws) ++
        queued ws (run env (before ++ during))
  -- while both slots are held, what is handled is received, as it is, unless it is cut off
  exact_ : ∀ before during after ws peer role, events = before ++ (during ++ after) →
    Period env ws peer role (run env before) during →
    (Machine.steps (step env) (run env before) during).flatMap (received env ws peer) =
      (Machine.steps (step env) (run env before) during).flatMap fun met =>
        if cut ws met then [] else handled ws met
  proofs : ProvesOnce env events

end Statement

section Exact
variable {ctx : ContextId} {state : State} {ws peer : SocketId} {role : Role} {verbs : List Verb}

theorem relayed_append (first second : List Act) :
    relayedTo peer (first ++ second) = relayedTo peer first ++ relayedTo peer second :=
  List.filterMap_append ..

theorem Within.relayed_nil {script : List Act} (fits : Within verbs script)
    (missing : Verb.sendRelayed ∉ verbs) : relayedTo peer script = [] := by
  rw [relayedTo, List.filterMap_eq_nil_iff]
  intro act member
  have apart := fits.avoids missing act member
  cases act with
  | send target message =>
      cases message with
      | relayed frame => exact absurd rfl apart
      | _ => rfl
  | _ => rfl

theorem Within.unsent {script : List Act} (fits : Within verbs script)
    (missing : Verb.sendRelayed ∉ verbs) (fault : Option Nat) :
    relayedTo peer (done fault script) = [] :=
  (fits.performed fault).relayed_nil missing

theorem forward_relayed (frame : Frame) (reached : state.holders ctx ws role.other ≠ [])
    (only : ∀ other ∈ state.holders ctx ws role.other, other = peer) :
    forward ctx state ws role frame = [.send peer (.relayed frame)] := by
  unfold forward
  split
  · rename_i first rest holders
    rw [only first (by rw [holders]; simp)]
  · rename_i none_
    exact absurd none_ reached

@[simp] def splicingVerbs : List Verb := [.count, .close, .read, .meter, .putQuota]

theorem relayed_last (fault : Option Nat) (frame : Frame) {lead : List Act}
    (fits : Within splicingVerbs lead) :
    relayedTo peer (done fault (lead ++ [.send peer (.relayed frame)])) =
      if threw fault (lead ++ [.send peer (.relayed frame)]) then [] else [frame] := by
  cases thrown : threw fault (lead ++ [.send peer (.relayed frame)]) with
  | false =>
      have whole : done fault (lead ++ [.send peer (.relayed frame)]) = _ :=
        Script.done_of_not_threw _ _ _ _ thrown
      rw [whole, relayed_append, fits.relayed_nil (by simp)]
      simp [relayedTo]
  | true =>
      rcases Script.done_append Act.isStorage Act.isThrow fault lead
        [.send peer (.relayed frame)] with short | ⟨left, long⟩
      · rw [done, short]
        exact fits.unsent (by simp) fault
      · rw [Script.done_safe _ _ left _ (by simp [Act.isStorage, Act.isThrow])] at long
        exact absurd (thrown.symm.trans (Script.not_threw_of_done _ _ long)) (by simp)

variable (env : Env) (now id : Nat) (random : Bytes) (fault : Option Nat) (frame : Frame)

theorem splice_shape (admitted : state.admission ws = some (.admitted role)) :
    ∃ lead, Within splicingVerbs lead ∧
      webSocketMessage env now (state.home ws) state id ws random frame =
        lead ++ if cutOff env ws now state frame then []
          else forward (state.home ws) state ws role frame := by
  unfold webSocketMessage cutOff
  by_cases large : frame.size > frameCap state ws
  · refine ⟨closePeerOf (state.home ws) state ws ++ [.close ws 1009 "frame too large"], ?_, by
      simp [large]⟩
    exact (closeBoth_within ..).mono (by simp)
  · simp only [large, if_false, admitted, decide_false, Bool.false_or]
    unfold spliceFrame
    dsimp only
    generalize rateLimited (state.frameWindow (state.home ws)) now maxFramesPerWindow
      frameWindowMs = limit
    obtain ⟨window, full⟩ := limit
    cases full with
    | true =>
        refine ⟨.countFrame window :: (closePeerOf (state.home ws) state ws ++
          [.close ws 1008 "frame rate exceeded"]), ?_, by simp⟩
        exact Within.cons_iff.mpr ⟨by simp, (closeBoth_within ..).mono (by simp)⟩
    | false =>
        refine ⟨.countFrame window :: meterQuota env now (state.home ws) state frame.size, ?_,
          by simp⟩
        exact Within.cons_iff.mpr ⟨by simp, (meterQuota_within ..).mono (by simp)⟩

theorem splice_acts (admitted : state.admission ws = some (.admitted role))
    (reached : state.holders (state.home ws) ws role.other ≠ [])
    (only : ∀ other ∈ state.holders (state.home ws) ws role.other, other = peer) :
    relayedTo peer (done fault (webSocketMessage env now (state.home ws) state id ws random frame)) =
      if cutOff env ws now state frame ||
        threw fault (webSocketMessage env now (state.home ws) state id ws random frame)
      then [] else [frame] := by
  obtain ⟨lead, fits, shape⟩ := splice_shape env now id random frame admitted
  rw [shape]
  cases cutOff env ws now state frame with
  | true =>
      simp only [if_true, List.append_nil, Bool.true_or]
      exact fits.unsent (by simp) fault
  | false =>
      simp only [Bool.false_eq_true, if_false, Bool.false_or]
      rw [forward_relayed frame reached only]
      exact relayed_last fault frame fits

end Exact

section Step
variable {env : Env} {state : State} {event : Event} {ws peer : SocketId} {role : Role}

-- The only holder that a holder of the other slot finds in its context.
theorem sole_holder (wired : Wired env state) (single : SingleHolder state)
    (seated : state.seated peer role) (apart : peer ≠ ws) (home : state.home ws = state.home peer) :
    state.holders (state.home ws) ws role ≠ [] ∧
      ∀ other ∈ state.holders (state.home ws) ws role, other = peer := by
  have here : peer ∈ state.holders (state.home ws) ws role :=
    mem_holders.mpr ⟨home ▸ seated.1, apart, seated.2⟩
  refine ⟨List.ne_nil_of_mem here, fun other member => ?_⟩
  obtain ⟨there, _, holds⟩ := mem_holders.mp member
  have routed : state.routable other := by
    rw [State.routable, (wired.anchored _ _ there).2.1]
    exact there
  exact single role other peer routed seated.1 holds seated.2

theorem run_turn {now : Nat} (drained : state.draining = some ws) :
    turn env state (.run now) = some (runTurn env now state ws) := by
  simp [turn, State.busy, quietTurn, drained]

theorem Turns.relayed_acts {met : Turn} (turns : Turns env state event met) :
    relayedTo peer met.acts = relayedTo peer (done met.fault met.script) := by
  rw [Turn.acts, relayed_append]
  split
  · rw [turns.on_throw.relayed_nil (by simp), List.append_nil]
  · exact List.append_nil _

theorem idle_received {now : Nat} (drained : state.draining = some ws)
    (idle : handled ws (state, .run now) = []) :
    received env ws peer (state, .run now) = [] := by
  simp only [received, drained, if_true, acts, run_turn drained]
  have turns : Turns env state (.run now) (runTurn env now state ws) := run_turns drained
  rw [turns.relayed_acts]
  rw [handled_run] at idle
  have script : Within [.close] (runTurn env now state ws).script := by
    cases verifying : state.verifying ws with
    | true => simp [runTurn, verifying]
    | false =>
        cases next : state.chain ws with
        | nil => simp [runTurn, verifying, next]
        | cons task rest =>
            simp only [runTurn, verifying, Bool.false_eq_true, if_false, next]
            cases task with
            | message frame random fault =>
                simp [drained, verifying, next, Task.frame] at idle
            | _ => exact closePeerOf_within ..
  exact script.unsent (by simp) _

theorem handled_cases {now : Nat} (drained : state.draining = some ws) :
    handled ws (state, .run now) = [] ∨ ∃ frame random fault rest, state.verifying ws = false ∧
      state.chain ws = .message frame random fault :: rest ∧
      handled ws (state, .run now) = [frame] := by
  rw [handled_run]
  cases verifying : state.verifying ws with
  | true => exact .inl (by simp)
  | false =>
      cases next : state.chain ws with
      | nil => exact .inl (by simp)
      | cons task rest =>
          cases task with
          | message frame random fault =>
              exact .inr ⟨frame, random, fault, rest, rfl, rfl, by simp [drained, Task.frame]⟩
          | _ => exact .inl (by simp [Task.frame])

-- One step of a period: the peer receives the frame that is handled, if it is not cut off.
theorem step_received (wired : Wired env state) (single : SingleHolder state)
    (seated : state.seated peer role.other) (holds : state.holds ws role = true)
    (home : state.home ws = state.home peer) :
    received env ws peer (state, event) =
      if ended env ws (state, event) then [] else handled ws (state, event) := by
  have apart : peer ≠ ws := by
    rintro rfl
    have slot := seated.2
    rw [holds_iff] at slot holds
    rw [holds] at slot
    cases role <;> simp [Role.other] at slot
  cases event with
  | run now =>
      by_cases drained : state.draining = some ws
      · rcases @handled_cases state ws now drained with
          idle | ⟨frame, random, fault, rest, free, next, one⟩
        · simp [idle, idle_received drained idle]
        · have turn_ : runTurn env now state ws = taskTurn env now (state.pop ws rest) ws
              state.nextId (.message frame random fault) := by
            simp [runTurn, free, next]
          have turns : Turns env state (.run now) (runTurn env now state ws) := run_turns drained
          obtain ⟨reached, only⟩ := sole_holder wired single seated apart home
          have cut : ended env ws (state, .run now) = (cutOff env ws now state frame ||
              threw fault (webSocketMessage env now (state.home ws) (state.pop ws rest)
                state.nextId ws random frame)) := by
            simp only [ended, limited, one, List.any_cons, List.any_nil, Bool.or_false, cutShort,
              run_turn drained, turn_]
            rfl
          rw [one, cut]
          simp only [received, drained, if_true, acts, run_turn drained]
          rw [turns.relayed_acts, turn_]
          have admitted : (state.pop ws rest).admission ws = some (.admitted role) :=
            holds_iff.mp holds
          exact splice_acts env now state.nextId random fault frame admitted reached only
      · simp [received, handled, drained]
  | _ => simp [received, handled]

end Step

/-- What holds of the two in every state of a period. -/
structure Paired (env : Env) (ws peer : SocketId) (role : Role) (state : State) : Prop where
  wired : Wired env state
  single : SingleHolder state
  holds : state.holds ws role = true
  attached : state.attachment peer ≠ none
  home : state.home ws = state.home peer

theorem Paired.after {env : Env} {ws peer : SocketId} {role : Role} {state : State}
    (paired : Paired env ws peer role state) (event : Event) :
    Paired env ws peer role (step env state event) where
  wired := wired_step paired.wired
  single := single_holder_step paired.wired paired.single
  holds := holds_iff.mpr (admitted_stays paired.wired (holds_iff.mp paired.holds))
  attached := attached_stays paired.attached
  home := by
    rw [home_stays (held_attached paired.holds), home_stays paired.attached, paired.home]

theorem period_received (before during : List Event) {env : Env} {ws peer : SocketId} {role : Role}
    (period : Period env ws peer role (run env before) during) :
    (Machine.steps (step env) (run env before) during).flatMap (received env ws peer) =
      (Machine.steps (step env) (run env before) during).flatMap fun met =>
        if ended env ws met then [] else handled ws met := by
  cases during with
  | nil => rfl
  | cons first rest =>
      obtain ⟨seated, turns⟩ := period
      have joined := (turns (run env before, first) (by simp)).1
      have wired := wired_run env before
      have home : (run env before).home ws = (run env before).home peer := by
        have here := (wired.anchored _ _ seated.1).1
        rw [(wired.anchored _ _ joined.1).1] at here
        exact (Option.some.inj here).symm
      have paired := Machine.steps_invariant (step env) (Paired env ws peer role) (fun _ _ => True)
        (fun _ event paired _ => paired.after event) (run env before)
        ⟨wired, single_holder_run env before, seated.2, held_attached joined.2, home⟩ (first :: rest)
        (fun _ _ => trivial)
      apply List.flatMap_congr
      intro met member
      have pair := paired met member
      exact step_received pair.wired pair.single (turns met member).1 pair.holds pair.home

theorem chain_order (before during : List Event) {env : Env} {ws : SocketId}
    (attached : (run env before).attachment ws ≠ none)
    (process : ∀ event ∈ during, event.isRestart = false) :
    queued ws (run env before) ++
        (Machine.steps (step env) (run env before) during).flatMap (delivered env ws) =
      (Machine.steps (step env) (run env before) during).flatMap (handled ws) ++
        queued ws (run env (before ++ during)) := by
  have stays := Machine.steps_invariant (step env) (fun state => state.attachment ws ≠ none)
    (fun _ _ => True) (fun _ _ attached _ => attached_stays attached) (run env before) attached
    during (fun _ _ => trivial)
  rw [run, Machine.run_append]
  apply Fifo.run_queues
  intro met member
  obtain ⟨earlier, later, whole, _⟩ := Machine.steps_mem _ _ _ _ member
  exact step_queues (stays met member) (process met.2 (by rw [whole]; simp))

/-- In every run the splice hands on what the holders deliver, in order, once and as it is, but
for the frames whose own handler ended their socket. -/
theorem splice_faithful (env : Env) (events : List Event) :
    FaithfulSplice env (ended env) events where
  order before during _ _ _ attached process := chain_order before during attached process
  exact_ before during _ _ _ _ _ period := period_received before during period
  proofs := proves_once env events

/-- A mac and a phone in their slots, before the mac sends its first frame. -/
def pairedRoom : List Event :=
  .get 1 :: joins 1 0 1 macHello openProof [1] ++ joins 1 1 4 phoneHello openProof [2] ++ [.run 1]

/-- The quota row cannot be read while the mac's frame is metered: the frame is lost, though
neither its size, nor the rate, nor the quota has closed the mac. -/
theorem failed_meter_drops_frame :
    ¬ FaithfulSplice (sampleEnv false) (limited (sampleEnv false))
      (pairedRoom ++ [.chunk 0 [(cipherText, [], some 0)] .none, .run 1]) := by
  intro faithful
  have received := faithful.exact_ pairedRoom
    [.chunk 0 [(cipherText, [], some 0)] .none, .run 1] [] 0 1 .mac (by simp) (by decide +kernel)
  revert received
  decide +kernel

end Relay

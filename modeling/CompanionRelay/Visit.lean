import CompanionRelay.HalfOpen
import CompanionRelay.RefusedCall

/-!
A visit to an established room. No history shuts out a client that holds the room's key: from any
state in which no microtask is left it is upgraded, challenged and admitted, if it sends what the
protocol asks for, its proof is within the limit of attempts and a phone finds a mac.
-/

namespace Relay

open Function (update)

section Statement
variable (env : Env)

/-- What a client of a room sends: a hello, and a proof for a nonce. -/
structure Client where
  role : Role
  hello : Frame
  proof : Frame

/-- The times of a visit: the upgrade, its log tag, the hello, the proof and its check. -/
structure Times where
  connect : Nat
  tag : Nat
  hello : Nat
  proof : Nat
  check : Nat

/-- The events of a visit on a new socket. `id` is the next handler number of the process. -/
def visit (client : Client) (ws : SocketId) (id : Nat) (times : Times) (random token : Bytes) :
    List Event :=
  [.connect times.connect ws, .resume times.tag id [] none] ++
    [.chunk ws [(client.hello, random, none)] .none, .run times.hello, .run times.hello] ++
    [.chunk ws [(client.proof, [], none)] .none, .run times.proof, .run times.proof] ++
    [.resume times.check (id + 2) token none]

/-- The visitor is upgraded, challenged with the nonce and told that it is admitted, and it ends
in its slot. -/
structure Visited (events visits : List Event) (ws : SocketId) (role : Role) (nonce : String) :
    Prop where
  upgraded : ∃ met ∈ Machine.steps (step env) (run env events) visits,
    .accept ws ∈ acts env met.1 met.2
  challenged : ∃ met ∈ Machine.steps (step env) (run env events) visits,
    .send ws (.challenge nonce) ∈ acts env met.1 met.2
  holds : (run env (events ++ visits)).holds ws role = true
  routable : (run env (events ++ visits)).routable ws
  told : ∃ met ∈ Machine.steps (step env) (run env events) visits, ∃ token,
    .send ws (.ok token) ∈ acts env met.1 met.2

end Statement

section Present
variable {env : Env} {state : State} {ctx : ContextId} {ws : SocketId} {script : List Act}

/-- The part of the room that a visit relies on, with the visitor's socket in it. -/
structure Present (ctx : ContextId) (ws : SocketId) (role : Role) (verifier : String)
    (window : Window) (admission : Admission) (state : State) : Prop where
  live : state.live = some ctx
  home : state.home ws = ctx
  inside : ws ∈ state.sockets ctx
  hears : state.deaf ws = false
  numbered : ∀ handler ∈ state.suspended, handler.id < state.nextId
  stands : state.admission ws = some admission
  established : truthy state.store.verifier = some verifier
  window : state.admissionWindow ctx = window
  parked : role = .phone → ∃ mac ∈ state.sockets ctx, mac ≠ ws ∧ state.holds mac .mac = true

/-- Nothing is under way on the socket, and no microtask is left. -/
structure AtRest (ws : SocketId) (state : State) : Prop where
  quiet : state.draining = none ∧ state.alarming = none ∧ state.loading = none
  idle : state.chain ws = []
  free : ∀ handler ∈ state.suspended, handler.await.concerns ≠ some ws

/-- What the handlers of a visit do before its proof. -/
def visitVerbs : List Verb := [.read, .getAlarm, .setAlarm, .attach, .send, .close]

theorem step_of_turn {event : Event} {met : Turn} (happens : turn env state event = some met) :
    step env state event = met.result ∧ acts env state event = met.acts := by
  simp [step, acts, happens]

theorem unfaulted_acts {met : Turn} (unfaulted : met.fault = none)
    (calm : ∀ act ∈ met.script, act.isThrow = false) : met.acts = met.script := by
  have whole := Turn.acts_unfaulted unfaulted (List.append_nil met.script).symm calm
  simpa [threw, done, Script.threw, Script.done] using whole

variable {role : Role} {verifier : String} {window : Window} {admission after : Admission}

theorem AtRest.upgraded (rest : AtRest ws state) : state.upgrading ws = false := by
  rw [State.upgrading, List.any_eq_false]
  intro handler member same
  refine rest.free handler member ?_
  rw [of_decide_eq_true same]
  rfl

theorem AtRest.verified (rest : AtRest ws state) : state.verifying ws = false := by
  rw [State.verifying, List.any_eq_false]
  intro handler member same
  exact rest.free handler member (Await.concerns_proof same)

-- A script of a visit that does not close the visitor or a parked mac leaves both there.
theorem Present.replayed (present : Present ctx ws role verifier window admission state)
    (fits : Within visitVerbs script) (only : Attaches ws script)
    (open_ : ws ∉ closes script)
    (spared : ∀ mac, state.holds mac .mac = true → mac ≠ ws → mac ∉ closes script)
    (stands : (replay ctx state script).admission ws = some after) :
    Present ctx ws role verifier window after (replay ctx state script) := by
  have unaccepted : ∀ other, Act.accept other ∉ script := fun _ => fits.lacks (by simp [visitVerbs])
  have suspended : (replay ctx state script).suspended = state.suspended := by
    rw [replay_suspended, fits.pending_nil (by simp [visitVerbs])]
    exact List.append_nil _
  refine ⟨?_, ?_, ?_, ?_, ?_, stands, ?_, ?_, fun phone => ?_⟩
  · rw [replay_live]
    exact present.live
  · rw [replay_home ctx state script unaccepted]
    exact present.home
  · rw [mem_replay_sockets ctx state script unaccepted]
    exact ⟨present.inside, fun closed => open_ closed.2⟩
  · have deaf : (replay ctx state script).deaf = state.deaf := by
      apply Script.replay_keeps (perform ctx) State.deaf script
      intro act _ state
      cases act <;> rfl
    rw [deaf]
    exact present.hears
  · rw [suspended, replay_next_id]
    exact present.numbered
  · have kept : (replay ctx state script).store.verifier = state.store.verifier := by
      apply Script.replay_keeps (perform ctx) (·.store.verifier) script
      intro act member state
      have verb := fits.each act member
      cases act with
      | put row => cases row <;> simp [visitVerbs] at verb
      | delete key => cases key <;> simp [visitVerbs] at verb
      | deleteAll => simp [visitVerbs] at verb
      | _ => rfl
    rw [kept]
    exact present.established
  · have kept : (replay ctx state script).admissionWindow = state.admissionWindow := by
      apply Script.replay_keeps (perform ctx) State.admissionWindow script
      intro act member state
      have verb := fits.each act member
      cases act with
      | countAdmission window => simp [visitVerbs] at verb
      | _ => rfl
    rw [kept]
    exact present.window
  · obtain ⟨mac, there, apart, holds⟩ := present.parked phone
    refine ⟨mac, ?_, apart, ?_⟩
    · rw [mem_replay_sockets ctx state script unaccepted]
      exact ⟨there, fun closed => spared mac holds apart closed.2⟩
    · rw [holds_iff, admission_eq _ _ _ (replay_attachment_elsewhere ctx state script ws mac only
        apart)]
      exact holds_iff.mp holds

theorem Present.turned (present : Present ctx ws role verifier window admission state)
    (chain : SocketId → List Task) (draining : Option SocketId) {next : Nat}
    (later : state.nextId ≤ next) :
    Present ctx ws role verifier window admission
      { state with chain := chain, draining := draining, nextId := next } :=
  ⟨present.live, present.home, present.inside, present.hears,
    fun handler member => (present.numbered handler member).trans_le later,
    present.stands, present.established, present.window, present.parked⟩

theorem Present.attached (present : Present ctx ws role verifier window admission state) :
    (state.attachment ws).isSome := by
  have stands := present.stands
  rw [State.admission] at stands
  cases attached : state.attachment ws with
  | none => simp [attached] at stands
  | some value => rfl

theorem AtRest.replayed (rest : AtRest ws state) (fits : Within visitVerbs script) :
    AtRest ws (replay ctx state script) := by
  have kept : ∀ {Part : Type} (part : State → Part),
      (∀ state act, part (perform ctx state act) = part state) →
        part (replay ctx state script) = part state :=
    fun part each => Script.replay_keeps (perform ctx) part script (fun act _ => (each · act)) state
  refine ⟨?_, ?_, ?_⟩
  · rw [kept State.draining (by simp), kept State.alarming (by simp), kept State.loading (by simp)]
    exact rest.quiet
  · rw [replay_chain]
    exact rest.idle
  · rw [replay_suspended, fits.pending_nil (by simp [visitVerbs]), List.map_nil, List.append_nil]
    exact rest.free

end Present

section Newest
variable {Item : Type} {rel : Item → Item → Prop} [DecidableRel rel]

end Newest

section Upgrade
variable {env : Env} {state : State} {ctx : ContextId} {ws : SocketId} {client : Client}
  {times : Times} {verifier : String}

theorem resume_step {now id : Nat} {random : Bytes} {handler : Suspended}
    (rest : state.draining = none ∧ state.alarming = none ∧ state.loading = none)
    (found : state.find id = some handler)
    (calm : ∀ act ∈ continuation env now handler.ctx (state.wake id handler.await.drains) random id
      handler.await, act.isThrow = false) :
    step env state (.resume now id random none) =
        maybeEvict handler.ctx (replay handler.ctx (state.wake id handler.await.drains)
          (continuation env now handler.ctx (state.wake id handler.await.drains) random id
            handler.await)) ∧
      acts env state (.resume now id random none) =
        continuation env now handler.ctx (state.wake id handler.await.drains) random id
          handler.await := by
  obtain ⟨drained, alarmed, loaded⟩ := rest
  have happens : turn env state (.resume now id random none) = some
      { ctx := handler.ctx
        start := state.wake id handler.await.drains
        script := continuation env now handler.ctx (state.wake id handler.await.drains) random id
          handler.await
        fault := none
        onThrow := handler.await.onThrow id
        finish := maybeEvict handler.ctx } := by
    simp [turn, State.busy, drained, alarmed, loaded, quietTurn, found]
  obtain ⟨result, performed⟩ := step_of_turn happens
  rw [result, performed, Turn.result, unfaulted_acts rfl calm]
  exact ⟨rfl, rfl⟩

end Upgrade

section Hello
variable {env : Env} {state : State} {ctx : ContextId} {ws : SocketId} {client : Client}
  {verifier nonce : String} {window : Window} {random : Bytes}

end Hello

section Proof
variable {env : Env} {state : State} {ctx : ContextId} {ws : SocketId} {client : Client}
  {verifier nonce : String} {window : Window}

/-- The visitor's proof is being checked by the handler `id`, and its signature is good. -/
structure Proving (env : Env) (ctx : ContextId) (ws : SocketId) (role : Role)
    (verifier nonce : String) (id : Nat) (state : State) : Prop where
  present : ∃ window, Present ctx ws role verifier window (.challenged role nonce false) state
  quiet : state.draining = none ∧ state.alarming = none ∧ state.loading = none
  checks : ∃ check : JoinCheck, check.ws = ws ∧ check.role = role ∧
    state.find id = some ⟨id, ctx, .proofSignature check⟩ ∧
    env.verifyJoin check.sig check.transcript check.verifier = true

theorem greet_tells (now : Nat) (state : State) (random : Bytes) (ws : SocketId)
    (attest : Option AttestedKey) (role : Role) :
    ∃ token, .send ws (.ok token) ∈ greet now state random ws attest role := by
  cases role with
  | mac => exact ⟨none, by simp [greet]⟩
  | phone => exact ⟨some (b64 random), by simp [greet]⟩

-- The handler of a good proof takes the slot: no branch of Room.admit turns the visitor away.
theorem Proving.admits {role : Role} {id : Nat} (now : Nat) (random : Bytes)
    (proving : Proving env ctx ws role verifier nonce id state) :
    Seats env state (.resume now id random none) ws role ∧
      cutShort env state (.resume now id random none) = false ∧
      ∃ token, .send ws (.ok token) ∈ acts env state (.resume now id random none) := by
  obtain ⟨⟨window, present⟩, quiet, check, rfl, rfl, found, verified⟩ := proving
  let waking := state.wake id (some check.ws)
  let bump := bumpActivity now waking
  let mid := replay ctx waking bump
  have same : SameRoom mid waking := bump_same_room now ctx waking
  have calm : ∀ act ∈ finishProof env now ctx waking random check, act.isThrow = false :=
    (finishProof_within ..).calm (by simp)
  have whole : acts env state (.resume now id random none) =
      bump ++ admitSocket env now ctx mid random check.ws check.role none := by
    rw [(resume_step quiet found calm).2]
    simp only [continuation, finishProof, verified, if_true]
    rfl
  have registered : established mid = true := by
    rw [same.established]
    have stored : truthy waking.store.verifier = some verifier := present.established
    simp [established, stored]
  have displacing : nonDisplacing mid check.ws = false := by
    rw [same.nonDisplacing]
    have stands : waking.admission check.ws = some (.challenged check.role nonce false) :=
      present.stands
    simp [nonDisplacing, stands]
  have seated : ∃ lead, acts env state (.resume now id random none) =
      lead ++ seat env now ctx mid random check.ws check.role none := by
    rw [whole]
    rcases admit_cases env now ctx mid random check.ws check.role none with
      ⟨_, phone, offline⟩ | ⟨_, _, unregistered, _⟩ | ⟨admits, _⟩
    · obtain ⟨mac, there, apart, holds⟩ := present.parked phone
      have parked : mac ∈ mid.holders ctx check.ws .mac := by
        rw [same.holders]
        exact mem_holders.mpr ⟨there, apart, holds⟩
      rw [offline] at parked
      exact absurd parked List.not_mem_nil
    · rw [registered] at unregistered
      exact Bool.noConfusion unregistered
    · rcases takeSlot_cases env now ctx mid random check.ws check.role none with
        ⟨_, yields, _⟩ | ⟨takes, _⟩
      · rw [displacing] at yields
        exact Bool.noConfusion yields
      · exact ⟨bump ++ .get :: charge mid check.role, by rw [admits, takes]; simp⟩
  obtain ⟨lead, seated⟩ := seated
  refine ⟨⟨admittedAs env now mid check.ws check.role, ?_, rfl⟩, ?_, ?_⟩
  · rw [seated, seat]
    simp
  · rw [cutShort]
    split
    · rfl
    · rename_i met happens
      have turns := turn_turns happens
      cases turns with
      | resume _ _ _ _ handler found' _ =>
          rw [found] at found'
          cases found'
          have unthrown := (Script.done_unfaulted Act.isStorage Act.isThrow _ [] calm).2
          rwa [List.append_nil] at unthrown
  · obtain ⟨token, told⟩ := greet_tells now mid random check.ws none check.role
    refine ⟨token, ?_⟩
    rw [seated, seat]
    simp [told]

end Proof
end Relay

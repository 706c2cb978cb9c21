import CompanionRelay.Effects

/-!
The invariant that ties sockets, contexts, attachments and suspended handlers
together: routable sockets belong to the registered context, a suspended handler
other than a proof keeps its context registered, and the attachment of a socket
agrees with the handler suspended on it.
-/

namespace Relay

open Function (update)

def Task.isMessage : Task → Bool
  | .message _ _ _ => true
  | _ => false

/-- A suspended proof checks the nonce its socket was given, in the socket's context. -/
structure Coherent (env : Env) (state : State) (ctx : ContextId) (check : JoinCheck) : Prop where
  home : state.home check.ws = ctx
  challenged : ∃ nonce flag, state.admission check.ws = some (.challenged check.role nonce flag) ∧
    joinTranscript check.role nonce env.roomName env.relayOrigin = some check.transcript

theorem Coherent.moved {env : Env} {state after : State} {ctx : ContextId} {check : JoinCheck}
    (coherent : Coherent env state ctx check) (home : after.home check.ws = state.home check.ws)
    (admission : after.admission check.ws = state.admission check.ws) :
    Coherent env after ctx check :=
  ⟨home.trans coherent.home, by rw [admission]; exact coherent.challenged⟩

structure Wired (env : Env) (state : State) : Prop where
  anchored : ∀ ctx ws, ws ∈ state.sockets ctx →
    state.live = some ctx ∧ state.home ws = ctx ∧ state.attachment ws ≠ none
  pinned : ∀ handler ∈ state.suspended, (∀ ws, handler.await.isProofOf ws = false) →
    state.live = some handler.ctx
  numbered : ∀ handler ∈ state.suspended, handler.id < state.nextId
  distinct : (state.suspended.map (·.id)).Nodup
  upgrading : ∀ handler ∈ state.suspended, ∀ ws, handler.await = .upgradeTag ws →
    state.admission ws = some .hello ∧ ∀ task ∈ state.chain ws, task.isMessage = false
  proving : ∀ handler ∈ state.suspended, ∀ check, handler.await = .proofSignature check →
    Coherent env state handler.ctx check
  alone : ∀ first ∈ state.suspended, ∀ second ∈ state.suspended, ∀ ws,
    first.await.isProofOf ws = true → second.await.isProofOf ws = true → first = second

section Kept
variable {env : Env} {state : State} {event : Event} {ctx : ContextId} {script : List Act}

theorem Await.concerns_proof {await : Await} {ws : SocketId}
    (proof : await.isProofOf ws = true) : await.concerns = some ws := by
  cases await <;> simp_all [Await.isProofOf, Await.concerns]

theorem Wired.initial (env : Env) : Wired env Relay.initial := by
  constructor <;> simp [Relay.initial]

theorem Wired.evict (wired : Wired env state) (ctx : ContextId) :
    Wired env (maybeEvict ctx state) := by
  unfold maybeEvict
  split
  · rename_i idle
    obtain ⟨resident, idle⟩ := idle
    simp only [evictable, Bool.and_eq_true, List.isEmpty_iff, List.all_eq_true] at idle
    obtain ⟨⟨⟨empty, _⟩, unpinned⟩, _⟩ := idle
    exact
      { wired with
        anchored := by
          intro other ws member
          have anchor := wired.anchored other ws member
          rw [resident] at anchor
          have same : ctx = other := by simpa using anchor.1
          subst same
          simp [empty] at member
        pinned := by
          intro handler member free
          have pin := wired.pinned handler member free
          rw [resident] at pin
          have apart := unpinned handler member
          have same : ctx = handler.ctx := by simpa using pin
          simp [same] at apart
        proving := by
          intro handler member check proof
          exact (wired.proving handler member check proof).moved rfl rfl }
  · exact wired

-- The invariant survives what takes sockets and handlers away and adds no message
-- to a socket still in its upgrade.
theorem Wired.weaken (wired : Wired env state) {after : State} (live : after.live = state.live)
    (home : after.home = state.home) (attachment : after.attachment = state.attachment)
    (sockets : ∀ ctx, after.sockets ctx ⊆ state.sockets ctx)
    (suspended : after.suspended.Sublist state.suspended) (next : state.nextId ≤ after.nextId)
    (unread : ∀ handler ∈ after.suspended, ∀ ws, handler.await = .upgradeTag ws →
      ∀ task ∈ after.chain ws, task.isMessage = false) : Wired env after := by
  have admission : ∀ ws, after.admission ws = state.admission ws :=
    fun ws => admission_eq after state ws (by rw [attachment])
  constructor
  · intro ctx ws member
    rw [live, home, attachment]
    exact wired.anchored ctx ws (sockets ctx member)
  · intro handler member free
    rw [live]
    exact wired.pinned handler (suspended.subset member) free
  · intro handler member
    exact lt_of_lt_of_le (wired.numbered handler (suspended.subset member)) next
  · exact wired.distinct.sublist (suspended.map _)
  · intro handler member ws upgrade
    rw [admission]
    exact ⟨(wired.upgrading handler (suspended.subset member) ws upgrade).1,
      unread handler member ws upgrade⟩
  · intro handler member check proof
    exact (wired.proving handler (suspended.subset member) check proof).moved
      (by rw [home]) (admission check.ws)
  · intro first member second member'
    exact wired.alone first (suspended.subset member) second (suspended.subset member')

/-- What the replay of a script must do for the invariant to hold after it. -/
structure Keeps (env : Env) (ctx : ContextId) (state : State) (script : List Act) : Prop where
  unaccepted : ∀ ws, Act.accept ws ∉ script
  steady : ∀ handler ∈ state.suspended, ∀ ws, handler.await.concerns = some ws →
    (replay ctx state script).admission ws = state.admission ws
  rests : pending script = [] ∨ ∃ id await, pending script = [(id, await)] ∧
    id < state.nextId ∧ (∀ handler ∈ state.suspended, handler.id ≠ id) ∧
    ((∀ ws, await.isProofOf ws = false) → state.live = some ctx) ∧
    (∀ ws, await ≠ .upgradeTag ws) ∧
    ∀ check, await = .proofSignature check →
      Coherent env (replay ctx state script) ctx check ∧
      ∀ handler ∈ state.suspended, handler.await.isProofOf check.ws = false

theorem Wired.replayed (wired : Wired env state) (keeps : Keeps env ctx state script) :
    Wired env (replay ctx state script) := by
  have home := replay_home ctx state script keeps.unaccepted
  have cases_ : ∀ handler ∈ (replay ctx state script).suspended, handler ∈ state.suspended ∨
      ∃ id await, pending script = [(id, await)] ∧ handler = ⟨id, ctx, await⟩ := by
    intro handler member
    rw [replay_suspended] at member
    rcases List.mem_append.mp member with old | new
    · exact .inl old
    · rcases keeps.rests with none_ | ⟨id, await, one, _⟩
      · simp [none_] at new
      · rw [one] at new
        exact .inr ⟨id, await, one, by simpa using new⟩
  have rested : ∀ {id await}, pending script = [(id, await)] →
      id < state.nextId ∧ (∀ handler ∈ state.suspended, handler.id ≠ id) ∧
      ((∀ ws, await.isProofOf ws = false) → state.live = some ctx) ∧
      (∀ ws, await ≠ .upgradeTag ws) ∧
      ∀ check, await = .proofSignature check →
        Coherent env (replay ctx state script) ctx check ∧
        ∀ handler ∈ state.suspended, handler.await.isProofOf check.ws = false := by
    intro id await one
    rcases keeps.rests with none_ | ⟨id', await', one', facts⟩
    · simp [none_] at one
    · rw [one] at one'
      obtain ⟨rfl, rfl⟩ : id = id' ∧ await = await' := by simpa using one'
      exact facts
  have alone_new : ∀ {id await}, pending script = [(id, await)] → ∀ handler ∈ state.suspended,
      ∀ ws, handler.await.isProofOf ws = true → await.isProofOf ws = true → False := by
    intro id await one handler member ws old new
    cases await with
    | proofSignature check =>
        have same : check.ws = ws := by simpa [Await.isProofOf] using new
        have none_ := ((rested one).2.2.2.2 check rfl).2 handler member
        rw [same, old] at none_
        exact Bool.noConfusion none_
    | _ => simp [Await.isProofOf] at new
  constructor
  · intro other ws member
    have anchor := wired.anchored other ws
      (replay_sockets_subset ctx state script keeps.unaccepted other member)
    rw [replay_live, home]
    exact ⟨anchor.1, anchor.2.1, replay_attached ctx state script ws anchor.2.2⟩
  · intro handler member free
    rw [replay_live]
    rcases cases_ handler member with old | ⟨id, await, one, rfl⟩
    · exact wired.pinned handler old free
    · exact (rested one).2.2.1 free
  · intro handler member
    rw [replay_next_id]
    rcases cases_ handler member with old | ⟨id, await, one, rfl⟩
    · exact wired.numbered handler old
    · exact (rested one).1
  · rw [replay_suspended, List.map_append, List.nodup_append]
    refine ⟨wired.distinct, ?_, ?_⟩
    · rcases keeps.rests with none_ | ⟨id, await, one, _⟩
      · simp [none_]
      · simp [one]
    · intro old oldMember new newMember
      obtain ⟨handler, member, rfl⟩ := List.mem_map.mp oldMember
      rcases keeps.rests with none_ | ⟨id, await, one, _, fresh, _⟩
      · simp [none_] at newMember
      · have same : new = id := by simpa [one] using newMember
        subst same
        exact fresh handler member
  · intro handler member ws upgrade
    rw [replay_chain]
    rcases cases_ handler member with old | ⟨id, await, one, rfl⟩
    · have hello := wired.upgrading handler old ws upgrade
      rw [keeps.steady handler old ws (by rw [upgrade]; rfl)]
      exact hello
    · exact absurd upgrade ((rested one).2.2.2.1 ws)
  · intro handler member check proof
    rcases cases_ handler member with old | ⟨id, await, one, rfl⟩
    · have coherent := wired.proving handler old check proof
      have same := keeps.steady handler old check.ws (by rw [proof]; rfl)
      exact ⟨by rw [home]; exact coherent.home, by rw [same]; exact coherent.challenged⟩
    · exact ((rested one).2.2.2.2 check proof).1
  · intro first member second member' ws proof proof'
    rcases cases_ first member with old | ⟨id, await, one, rfl⟩
    · rcases cases_ second member' with old' | ⟨id', await', one', rfl⟩
      · exact wired.alone first old second old' ws proof proof'
      · exact (alone_new one' first old ws proof proof').elim
    · rcases cases_ second member' with old' | ⟨id', await', one', rfl⟩
      · exact (alone_new one second old' ws proof' proof).elim
      · rw [one] at one'
        obtain ⟨rfl, rfl⟩ : id = id' ∧ await = await' := by simpa using one'
        rfl

theorem not_verifying {ws : SocketId} (free : state.verifying ws = false) :
    ∀ handler ∈ state.suspended, handler.await.isProofOf ws = false := by
  intro handler member
  by_contra proof
  rw [Bool.not_eq_false] at proof
  have busy : state.verifying ws = true := List.any_eq_true.mpr ⟨handler, member, proof⟩
  rw [free] at busy
  exact Bool.noConfusion busy

theorem not_upgrading {ws : SocketId} (free : state.upgrading ws = false) :
    ∀ handler ∈ state.suspended, handler.await ≠ .upgradeTag ws := by
  intro handler member upgrade
  have busy : state.upgrading ws = true :=
    List.any_eq_true.mpr ⟨handler, member, by simpa using upgrade⟩
  rw [free] at busy
  exact Bool.noConfusion busy

theorem wired_get (wired : Wired env state) (now : Nat) (absent : state.live = none)
    (loading : Option ContextId) :
    Wired env (init now state.nextId
      { newContext state.nextId state with loading := loading }) := by
  have empty : ∀ ctx ws, ws ∉ state.sockets ctx := by
    intro ctx ws member
    have anchor := (wired.anchored ctx ws member).1
    simp [absent] at anchor
  have proofs : ∀ handler ∈ state.suspended, ¬ ∀ ws, handler.await.isProofOf ws = false := by
    intro handler member free
    have pin := wired.pinned handler member free
    simp [absent] at pin
  rw [init_keeps]
  constructor
  · intro ctx ws member
    simp only [newContext, Function.update_apply] at member
    split at member
    · simp at member
    · exact absurd member (empty ctx ws)
  · intro handler member free
    exact absurd free (proofs handler member)
  · intro handler member
    exact Nat.lt_succ_of_lt (wired.numbered handler member)
  · exact wired.distinct
  · exact wired.upgrading
  · intro handler member check proof
    exact (wired.proving handler member check proof).moved rfl rfl
  · exact wired.alone

theorem wired_connect (wired : Wired env state) (now : Nat) (ws : SocketId) (ctx : ContextId)
    (resident : state.live = some ctx) (unseen : state.attachment ws = none) :
    Wired env
      (replay ctx (freshSocket ws state).enter (handleUpgrade env now state.nextId ws)) := by
  have absent : ∀ other, ws ∉ state.sockets other :=
    fun other member => (wired.anchored other ws member).2.2 unseen
  have unconcerned : ∀ handler ∈ state.suspended, ∀ other,
      handler.await.concerns = some other → other ≠ ws := by
    rintro handler member other concern rfl
    cases await : handler.await with
    | upgradeTag target =>
        obtain rfl : target = other := by simpa [await, Await.concerns] using concern
        have hello := (wired.upgrading handler member target await).1
        simp [State.admission, unseen] at hello
    | proofSignature check =>
        obtain rfl : check.ws = other := by simpa [await, Await.concerns] using concern
        obtain ⟨nonce, flag, challenged, _⟩ := (wired.proving handler member check await).challenged
        simp [State.admission, unseen] at challenged
    | _ => simp [await, Await.concerns] at concern
  simp only [handleUpgrade, replay_cons, replay_nil, perform, freshSocket, State.enter]
  constructor
  · intro other socket member
    by_cases same : other = ctx
    · subst same
      simp only [Function.update_self, List.mem_append, List.mem_singleton] at member
      rcases member with old | rfl
      · have anchor := wired.anchored other socket old
        have apart : socket ≠ ws := fun same => absent other (same ▸ old)
        simp only [Function.update_of_ne apart]
        exact anchor
      · simp [resident]
    · simp only [Function.update_of_ne same] at member
      have anchor := wired.anchored other socket member
      rw [resident] at anchor
      exact absurd (by simpa using anchor.1.symm) same
  · intro handler member free
    rcases List.mem_append.mp member with old | new
    · exact wired.pinned handler old free
    · obtain rfl := List.mem_singleton.mp new
      exact resident
  · intro handler member
    rcases List.mem_append.mp member with old | new
    · exact Nat.lt_succ_of_lt (wired.numbered handler old)
    · obtain rfl := List.mem_singleton.mp new
      exact Nat.lt_succ_self _
  · rw [List.map_append, List.nodup_append]
    refine ⟨wired.distinct, by simp, ?_⟩
    intro old oldMember new newMember same
    obtain ⟨handler, member, rfl⟩ := List.mem_map.mp oldMember
    obtain rfl : new = state.nextId := by simpa using newMember
    exact absurd same (Nat.ne_of_lt (wired.numbered handler member))
  · intro handler member other upgrade
    rcases List.mem_append.mp member with old | new
    · have hello := wired.upgrading handler old other upgrade
      have apart := unconcerned handler old other (by rw [upgrade]; rfl)
      simp only [State.admission, Function.update_of_ne apart]
      exact hello
    · obtain rfl := List.mem_singleton.mp new
      obtain rfl : ws = other := by simpa using upgrade
      simp [State.admission]
  · intro handler member check proof
    rcases List.mem_append.mp member with old | new
    · have apart := unconcerned handler old check.ws (by rw [proof]; rfl)
      exact (wired.proving handler old check proof).moved
        (by simp [Function.update_of_ne apart])
        (by simp [State.admission, Function.update_of_ne apart])
    · obtain rfl := List.mem_singleton.mp new
      simp at proof
  · intro first member second member' other proof proof'
    rcases List.mem_append.mp member with old | new
    · rcases List.mem_append.mp member' with old' | new'
      · exact wired.alone first old second old' other proof proof'
      · obtain rfl := List.mem_singleton.mp new'
        simp [Await.isProofOf] at proof'
    · obtain rfl := List.mem_singleton.mp new
      simp [Await.isProofOf] at proof

theorem wired_restart (now : Nat) :
    Wired env (Relay.restart now state) := by
  have booted : Wired env
      { state with
        live := none, sockets := fun _ => [], timer := fun _ => none, deaf := fun _ => true,
        ended := fun _ => true, chain := fun _ => [], suspended := [], draining := none,
        alarming := none, loading := none } := by
    constructor <;> simp
  unfold Relay.restart
  split
  · exact booted
  · apply Wired.evict
    exact wired_get booted now rfl none

theorem wired_hang_up (wired : Wired env state) (ws : SocketId) (tail : Tail)
    (tasks : List Task) (upgraded : state.upgrading ws = false) :
    Wired env (hangUp ws tail (state.push ws tasks)) := by
  rw [hang_up_keeps]
  refine wired.weaken rfl rfl rfl ?_ (List.Sublist.refl _) (le_refl _) ?_
  · intro ctx
    cases tail with
    | none => exact fun _ member => member
    | closeFrame => exact close_sockets_subset _ ws ctx
    | protocolError => exact close_sockets_subset _ ws ctx
  · intro handler member other upgrade
    have apart : other ≠ ws := by
      rintro rfl
      exact not_upgrading upgraded handler member upgrade
    simp only [State.push, Function.update_of_ne apart]
    exact (wired.upgrading handler member other upgrade).2

theorem wired_ended (wired : Wired env state) (ws : SocketId) (tasks : List Task)
    (mute : ∀ task ∈ tasks, task.isMessage = false) :
    Wired env (endSocket ws (state.push ws tasks)) := by
  refine wired.weaken rfl rfl rfl ?_ (List.Sublist.refl _) (le_refl _) ?_
  · intro ctx other member
    simp only [endSocket, State.push, Function.update_apply] at member
    split at member
    · rename_i same
      subst same
      exact (List.mem_filter.mp member).1
    · exact member
  · intro handler member other upgrade task queued
    simp only [endSocket, State.push, Function.update_apply] at queued
    split at queued
    · rename_i same
      subst same
      rcases List.mem_append.mp queued with old | new
      · exact (wired.upgrading handler member _ upgrade).2 task old
      · exact mute task new
    · exact (wired.upgrading handler member other upgrade).2 task queued

theorem Keeps.of_subject {ws : SocketId} {verbs : List Verb} (fits : Within verbs script)
    (unaccepted : Verb.accept ∉ verbs) (only : Attaches ws script)
    (free : ∀ handler ∈ state.suspended, handler.await.concerns ≠ some ws)
    (ends : pending script = []) : Keeps env ctx state script where
  unaccepted other member := unaccepted (fits.each _ member)
  steady handler member other concern := by
    apply admission_eq
    apply replay_attachment_elsewhere ctx state script ws other only
    rintro rfl
    exact free handler member concern
  rests := .inl ends

theorem mem_find {id : Nat} {handler : Suspended} (found : state.find id = some handler) :
    handler ∈ state.suspended ∧ handler.id = id :=
  ⟨List.mem_of_find?_eq_some found, by simpa using List.find?_some found⟩

theorem Wired.wake (wired : Wired env state) (id : Nat) (draining : Option SocketId) :
    Wired env (state.wake id draining) :=
  wired.weaken rfl rfl rfl (fun _ _ member => member) List.filter_sublist (le_refl _)
    (fun handler member ws upgrade =>
      (wired.upgrading handler (List.mem_filter.mp member).1 ws upgrade).2)

theorem Wired.fresh (wired : Wired env state) (ws : SocketId)
    (unseen : state.attachment ws = none) : Wired env (freshSocket ws state) := by
  refine wired.weaken rfl rfl rfl (fun _ _ member => member) (List.Sublist.refl _) (le_refl _) ?_
  intro handler member other upgrade
  have apart : other ≠ ws := by
    rintro rfl
    have hello := (wired.upgrading handler member other upgrade).1
    simp [State.admission, unseen] at hello
  simp only [freshSocket, Function.update_of_ne apart]
  exact (wired.upgrading handler member other upgrade).2

theorem Wired.enter (wired : Wired env state) : Wired env state.enter :=
  wired.weaken rfl rfl rfl (fun _ _ member => member) (List.Sublist.refl _) (Nat.le_succ _)
    (fun handler member ws upgrade => (wired.upgrading handler member ws upgrade).2)

theorem Wired.pop (wired : Wired env state) (ws : SocketId) (task : Task) (rest : List Task)
    (next : state.chain ws = task :: rest) : Wired env (state.pop ws rest) := by
  refine wired.weaken rfl rfl rfl (fun _ _ member => member) (List.Sublist.refl _)
    (Nat.le_succ _) ?_
  intro handler member other upgrade waiting queued
  have mute := (wired.upgrading handler member other upgrade).2
  by_cases same : other = ws
  · subst same
    simp only [State.pop, Function.update_self] at queued
    exact mute waiting (by rw [next]; exact List.mem_cons_of_mem _ queued)
  · simp only [State.pop, Function.update_of_ne same] at queued
    exact mute waiting queued

theorem Turns.wired_start {met : Turn} (wired : Wired env state)
    (turns : Turns env state event met) : Wired env met.start := by
  have still : ∀ {after : State}, after.live = state.live → after.home = state.home →
      after.attachment = state.attachment → after.sockets = state.sockets →
      after.suspended = state.suspended → after.nextId = state.nextId →
      after.chain = state.chain → Wired env after := by
    intro after live home attachment sockets suspended next chain
    refine wired.weaken live home attachment (fun ctx => by rw [sockets]; exact List.Subset.refl _)
      (by rw [suspended]) (Nat.le_of_eq next.symm) ?_
    intro handler member ws upgrade
    rw [suspended] at member
    rw [chain]
    exact (wired.upgrading handler member ws upgrade).2
  cases turns with
  | get now absent quiet => exact wired_get wired now absent (some state.nextId)
  | connect now ws ctx resident unseen => exact (wired.fresh ws unseen).enter
  | chunk ws frames tail attached hears upgraded quiet =>
      exact wired_hang_up wired ws tail _ upgraded
  | ended ws attached open_ quiet =>
      apply Wired.evict
      apply wired_ended wired
      intro task member
      split at member
      · simp at member
      · rw [List.mem_singleton.mp member]
        rfl
  | task now ws task rest drained free next => cases task <;> exact wired.pop ws _ rest next
  | resume now id random fault handler found quiet => exact wired.wake id handler.await.drains
  | request now request random fault ctx resident => exact wired.enter
  | idle => exact still rfl rfl rfl rfl rfl rfl rfl
  | fire => exact still rfl rfl rfl rfl rfl rfl rfl
  | alarm => exact still rfl rfl rfl rfl rfl rfl rfl
  | drain => exact wired
  | restart now => exact wired_restart now

-- The chain of a socket under its upgrade holds no message, so no handler is
-- suspended on a socket whose message is taken off the chain.
theorem unconcerned_of_message (wired : Wired env state) {ws : SocketId} {rest : List Task}
    {frame : Frame} {random : Bytes} {fault : Option Nat}
    (free : state.verifying ws = false)
    (next : state.chain ws = .message frame random fault :: rest) :
    ∀ handler ∈ state.suspended, handler.await.concerns ≠ some ws := by
  intro handler member concern
  cases await : handler.await with
  | upgradeTag other =>
      obtain rfl : other = ws := by simpa [await, Await.concerns] using concern
      have mute := (wired.upgrading handler member other await).2 (.message frame random fault)
        (by simp [next])
      exact Bool.noConfusion mute
  | proofSignature check =>
      have same : check.ws = ws := by simpa [await, Await.concerns] using concern
      have quiet := not_verifying free handler member
      simp [await, Await.isProofOf, same] at quiet
  | _ => simp [await, Await.concerns] at concern

theorem wired_message (wired : Wired env state) (now : Nat) (ws : SocketId) (frame : Frame)
    (random : Bytes) (fault : Option Nat) (rest : List Task)
    (drained : state.draining = some ws) (free : state.verifying ws = false)
    (next : state.chain ws = .message frame random fault :: rest) :
    Wired env (taskTurn env now (state.pop ws rest) ws state.nextId
      (.message frame random fault)).result := by
  have turns : Turns env state (.run now) _ :=
    .task now ws (.message frame random fault) rest drained free next
  have unconcerned := unconcerned_of_message wired free next
  have start := wired.pop ws _ rest next
  apply Wired.evict
  apply start.replayed
  have fits := turns.within (webSocketMessage_within env now (state.home ws) (state.pop ws rest)
    state.nextId ws random frame)
  have short := turns.pending_acts
  rcases webSocketMessage_rests env now (state.home ws) (state.pop ws rest)
    ws random frame with none_ | ⟨check, nonce, flag, one, plain, same, challenged, made, _⟩
  · refine .of_subject fits (by simp)
      (acts_attaches turns (webSocketMessage_attaches ..)) unconcerned ?_
    exact List.prefix_nil.mp (none_ ▸ short)
  · have kept := (turns.within plain).attaches (by simp)
    have steady : ∀ other, (replay (state.home ws) (state.pop ws rest)
        (taskTurn env now (state.pop ws rest) ws state.nextId
          (.message frame random fault)).acts).admission other = state.admission other := by
      intro other
      apply admission_eq
      exact replay_attachment_elsewhere _ _ _ (other + 1) other (kept _) (by simp)
    constructor
    · exact fun other member => absurd (fits.each _ member)
        (by simp)
    · exact fun handler member other concern => steady other
    · have short : pending _ <+: [(state.nextId, Await.proofSignature check)] := one ▸ short
      rcases List.prefix_cons_iff.mp short with none_ | ⟨tail, cut, shorter⟩
      · exact .inl none_
      · rw [List.prefix_nil.mp shorter] at cut
        refine .inr ⟨state.nextId, .proofSignature check, cut, Nat.lt_succ_self _, ?_, ?_, ?_, ?_⟩
        · exact fun handler member => Nat.ne_of_lt (wired.numbered handler member)
        · intro notProof
          have proof := notProof check.ws
          simp [Await.isProofOf] at proof
        · simp
        · intro other made'
          obtain rfl : check = other := by simpa using made'
          constructor
          · constructor
            · rw [replay_home _ _ _ (fun socket member => absurd (fits.each _ member)
                (by simp)), same]
              rfl
            · refine ⟨nonce, flag, ?_, made⟩
              rw [same]
              exact (steady ws).trans challenged
          · intro handler member
            rw [same]
            exact not_verifying free handler member

theorem wired_result {met : Turn} (turns : Turns env state event met)
    (wired : Wired env (replay met.ctx met.start met.acts)) : Wired env met.result := by
  rcases turns.finish_keeps (replay met.ctx met.start met.acts) with same | evicted
  · rw [Turn.result, same]
    exact wired
  · rw [Turn.result, evicted]
    exact wired.evict met.ctx

theorem wired_silent {met : Turn} {verbs : List Verb} (turns : Turns env state event met)
    (start : Wired env met.start) (fits : Within verbs met.script)
    (missing : Verb.accept ∉ verbs ∧ Verb.attach ∉ verbs ∧ Verb.suspend ∉ verbs) :
    Wired env met.result := by
  apply wired_result turns
  apply start.replayed
  have all := turns.within fits
  constructor
  · exact fun ws member => absurd (all.each _ member) (by simp [missing.1])
  · intro handler _ ws _
    apply admission_eq
    exact replay_attachment_elsewhere _ _ _ (ws + 1) ws
      (all.attaches (by simp [missing.2.1]) _) (by simp)
  · exact .inl (all.pending_nil (by simp [missing.2.2]))

theorem request_plain (env : Env) (request : Request) :
    Verb.accept ∉ catchVerbs ++ request.verbs env ∧
      Verb.attach ∉ catchVerbs ++ request.verbs env := by
  cases request with
  | register body => cases required : attestationRequired env <;> simp [required]
  | _ => simp

theorem wired_request (wired : Wired env state) (now : Nat) (request : Request) (random : Bytes)
    (fault : Option Nat) (ctx : ContextId) (resident : state.live = some ctx) {met : Turn}
    (turns : Turns env state (.request now request random fault) met)
    (start : met.start = state.enter) (here : met.ctx = ctx)
    (script : met.script = handleHttp env now state.enter state.nextId random request) :
    Wired env met.result := by
  apply wired_result turns
  have entered := wired.enter
  rw [← start] at entered
  apply entered.replayed
  have fits := turns.within (script ▸ handleHttp_within env now state.enter state.nextId random
    request)
  have rests := rests_acts turns (script ▸ handleHttp_rests env now
    state.enter random request)
  constructor
  · exact fun ws member => absurd (fits.each _ member)
      (request_plain env request).1
  · intro handler _ ws _
    apply admission_eq
    exact replay_attachment_elsewhere _ _ _ (ws + 1) ws (fits.attaches
      (request_plain env request).2 _) (by simp)
  · rcases rests with none_ | ⟨await, one, free⟩
    · exact .inl none_
    · refine .inr ⟨state.nextId, await, one, ?_, ?_, ?_, ?_, ?_⟩
      · rw [start]
        exact Nat.lt_succ_self _
      · rw [start]
        exact fun handler member => Nat.ne_of_lt (wired.numbered handler member)
      · rw [start, here]
        exact fun _ => resident
      · rintro ws rfl
        simp [Await.concerns] at free
      · rintro check rfl
        simp [Await.concerns] at free

theorem wired_resume (wired : Wired env state) (now id : Nat) (random : Bytes)
    (fault : Option Nat) (handler : Suspended) (found : state.find id = some handler)
    {met : Turn} (turns : Turns env state (.resume now id random fault) met)
    (start : met.start = state.wake id handler.await.drains) (ctx : met.ctx = handler.ctx)
    (script : met.script = continuation env now handler.ctx (state.wake id handler.await.drains)
      random id handler.await) : Wired env (replay met.ctx met.start met.acts) := by
  obtain ⟨member, numbered⟩ := mem_find found
  have awake := wired.wake id handler.await.drains
  have others : ∀ other ∈ met.start.suspended, other ∈ state.suspended ∧ other.id ≠ id := by
    intro other inside
    rw [start] at inside
    simpa [State.wake] using inside
  have fits := turns.within (script ▸ continuation_within env now handler.ctx
    (state.wake id handler.await.drains) id random handler.await)
  have unaccepted : Verb.accept ∉ catchVerbs ++ handler.await.verbs := by
    cases handler.await <;> simp
  have rests := rests_acts turns (script ▸ continuation_rests env now handler.ctx
    (state.wake id handler.await.drains) random handler.await)
  rw [← start] at awake
  apply awake.replayed
  constructor
  · exact fun ws accepted => unaccepted (fits.each _ accepted)
  · intro other inside ws concern
    cases await : handler.await with
    | upgradeTag upgraded =>
        apply replay_admission_kept
        intro target value attached
        rcases turn_act attached with ran | caught
        · rw [script, await] at ran
          rw [start, ← (finishUpgrade_admission env now handler.ctx _ upgraded target value ran).2]
          rfl
        · exact absurd (turns.on_throw.each _ caught) (by simp)
    | proofSignature check =>
        apply admission_eq
        refine replay_attachment_elsewhere _ _ _ check.ws ws (acts_attaches turns ?_) ?_
        · rw [script, await]
          exact finishProof_attaches ..
        · rintro rfl
          obtain ⟨old, apart⟩ := others other inside
          cases waits : other.await with
          | upgradeTag target =>
              obtain rfl : target = check.ws := by simpa [waits, Await.concerns] using concern
              have hello := (wired.upgrading other old _ waits).1
              obtain ⟨nonce, flag, challenged, _⟩ :=
                (wired.proving handler member check await).challenged
              simp [hello] at challenged
          | proofSignature second =>
              have same : second.ws = check.ws := by simpa [waits, Await.concerns] using concern
              have one := wired.alone other old handler member check.ws
                (by simp [waits, Await.isProofOf, same]) (by simp [await, Await.isProofOf])
              exact apart (one ▸ numbered)
          | _ => simp [waits, Await.concerns] at concern
    | _ =>
        apply admission_eq
        refine replay_attachment_elsewhere _ _ _ (ws + 1) ws (acts_attaches turns ?_) (by simp)
        rw [script]
        exact continuation_attaches _ _ _ _ _ _ _ (by simp [await, Await.concerns]) _
  · rcases rests with none_ | ⟨await, one, free⟩
    · exact .inl none_
    · refine .inr ⟨id, await, one, ?_, fun other inside => (others other inside).2, ?_, ?_, ?_⟩
      · rw [start, ← numbered]
        exact wired.numbered handler member
      · intro _
        rw [start, ctx]
        apply wired.pinned handler member
        intro ws
        by_contra proof
        rw [Bool.not_eq_false] at proof
        cases waits : handler.await with
        | proofSignature check =>
            have short := turns.pending_acts
            rw [one, script, waits] at short
            simp only [continuation, (finishProof_within env now handler.ctx _ random check).pending_nil
              (by simp)] at short
            simp at short
        | _ => simp [waits, Await.isProofOf] at proof
      · rintro ws rfl
        simp [Await.concerns] at free
      · rintro check rfl
        simp [Await.concerns] at free

-- Every step keeps the invariant.
theorem wired_step (wired : Wired env state) : Wired env (step env state event) := by
  rcases step_cases env state event with ⟨_, same⟩ | ⟨met, turns, _, result⟩
  · rw [same]
    exact wired
  · rw [result]
    have start := turns.wired_start wired
    cases turns with
    | connect now ws ctx resident unseen => exact wired_connect wired now ws ctx resident unseen
    | task now ws task rest drained free next =>
        cases task with
        | message frame random fault =>
            exact wired_message wired now ws frame random fault rest drained free next
        | closed =>
            exact wired_silent (.task now ws .closed rest drained free next) start
              (closePeerOf_within ..) (by simp)
        | errored =>
            exact wired_silent (.task now ws .errored rest drained free next) start
              (closePeerOf_within ..) (by simp)
    | resume now id random fault handler found quiet =>
        exact (wired_resume wired now id random fault handler found
          (.resume now id random fault handler found quiet) rfl rfl rfl).evict handler.ctx
    | request now request random fault ctx resident =>
        exact wired_request wired now request random fault ctx resident
          (.request now request random fault ctx resident) rfl rfl rfl
    | fire now ctx at_ fault armed due quiet =>
        exact wired_silent (.fire now ctx at_ fault armed due quiet) start (alarm_within ..) (by simp)
    | alarm now ctx fault started =>
        exact wired_silent (.alarm now ctx fault started) start (alarm_within ..) (by simp)
    | drain ctx resident =>
        exact wired_silent (.drain ctx resident) start (closeAll_within ..) (by simp)
    | get => exact start
    | chunk => exact start
    | ended => exact start
    | idle => exact start
    | restart => exact start

theorem wired_run (env : Env) (events : List Event) : Wired env (run env events) :=
  Machine.run_invariant (step env) (Wired env) (fun _ _ => True)
    (fun _ _ wired _ => wired_step wired) _ (Wired.initial env) events (fun _ _ => trivial)

theorem wired_steps (env : Env) (events : List Event) :
    ∀ met ∈ steps env events, Wired env met.1 :=
  Machine.steps_invariant (step env) (Wired env) (fun _ _ => True)
    (fun _ _ wired _ => wired_step wired) _ (Wired.initial env) events (fun _ _ => trivial)

end Kept
end Relay

import CompanionRelay.Chains
import CompanionRelay.ProofFlood

/-!
A socket that is still open has given one proof at most. A proof leaves its socket admitted,
closed, or suspended at the check of a signature with the rest of its frames behind it, so the
frames of a burst behind an accepted proof are not taken for proofs.
-/

namespace Relay

section Proofs
variable (ws : SocketId)

/-- The step takes a frame of the socket as its proof. -/
def proves (met : State × Event) : Bool := (handled ws met).any (isProof met.1 ws)

/-- The socket has been admitted, or waits for the check of its proof. -/
def State.proved (state : State) : Bool :=
  state.holds ws .mac || state.holds ws .phone || state.verifying ws

/-- In every run a socket that is still open has given one proof if it is admitted or about
to be, and none otherwise. -/
def ProvesOnce (env : Env) (events : List Event) : Prop :=
  ∀ ws, (run env events).routable ws →
    (steps env events).countP (proves ws) = if (run env events).proved ws then 1 else 0

end Proofs

section Settled
variable {env : Env} {now : Nat} {ctx : ContextId} {state : State} {ws : SocketId}

/-- A script that closes the socket, admits it, suspends its proof, or throws. -/
def Settles (ws : SocketId) (script : List Act) : Prop :=
  ws ∈ closes script ∨ (∃ act ∈ script, act.admits = true ∧ ∃ value, act = .attach ws value) ∨
    (∃ id check, .suspend id (.proofSignature check) ∈ script ∧ check.ws = ws) ∨ .throw ∈ script

theorem Settles.mono {first second : List Act} (settles : Settles ws first)
    (inside : first ⊆ second) : Settles ws second := by
  rcases settles with closed | ⟨act, member, admits⟩ | ⟨id, check, member, same⟩ | thrown
  · obtain ⟨code, reason, member⟩ := mem_closes.mp closed
    exact .inl (mem_closes.mpr ⟨code, reason, inside member⟩)
  · exact .inr (.inl ⟨act, inside member, admits⟩)
  · exact .inr (.inr (.inl ⟨id, check, inside member, same⟩))
  · exact .inr (.inr (.inr (inside thrown)))

theorem reject_settles (error : String) : Settles ws (reject ws error) :=
  .inl (mem_closes.mpr ⟨1008, error, by simp [reject]⟩)

theorem admit_settles (random : Bytes) (role : Role) (attest : Option AttestedKey)
    (there : ws ∈ state.sockets ctx) :
    Settles ws (admitSocket env now ctx state random ws role attest) := by
  rcases admit_cases env now ctx state random ws role attest with
    ⟨ends, _⟩ | ⟨ends, _⟩ | ⟨ends, _⟩
  · rw [ends]
    exact (reject_settles "mac offline").mono (List.subset_cons_self _ _)
  · rw [ends]
    have closed : ws ∈ closes (closeAll ctx state 1000 "pairing cycle cap") :=
      mem_closeAll.mpr there
    obtain ⟨code, reason, member⟩ := mem_closes.mp closed
    exact .inl (mem_closes.mpr ⟨code, reason, by simp [teardownRoom, member]⟩)
  · rw [ends]
    rcases takeSlot_cases env now ctx state random ws role attest with ⟨taken, _⟩ | ⟨taken, _⟩
    · rw [taken]
      exact (reject_settles "slot occupied").mono (List.subset_append_right _ _)
    · rw [taken]
      exact .inr (.inl ⟨_, by simp [seat], rfl, admittedAs env now state ws role, rfl⟩)

theorem Settles.cons {act : Act} {script : List Act} (settles : Settles ws script) :
    Settles ws (act :: script) :=
  settles.mono (List.subset_cons_self _ _)

theorem throw_settles : Settles ws [.throw] := .inr (.inr (.inr (List.mem_singleton.mpr rfl)))

theorem pairingProof_settles (random : Bytes) (role : Role) (proof : Json)
    (there : ws ∈ state.sockets ctx) :
    Settles ws (pairingProof env now ctx state random ws role proof) := by
  have admitted : ∀ attest, Settles ws (admitSocket env now ctx state random ws role attest) :=
    fun attest => admit_settles random role attest there
  unfold pairingProof
  split
  · cases role with
    | mac => exact admitted none
    | phone =>
        dsimp only
        split
        · exact throw_settles
        · exact reject_settles _
        · apply Settles.cons
          split
          · exact reject_settles _
          · split
            · exact reject_settles _
            · exact (admitted _).cons
  · exact admitted none

theorem handleProof_settles (id : Nat) (role : Role) (nonce : String) (random : Bytes)
    (frame : Frame) (there : ws ∈ state.sockets ctx) :
    Settles ws (handleProof env now ctx state id ws role nonce random frame) := by
  unfold handleProof
  dsimp only
  apply Settles.cons
  split
  · exact reject_settles _
  · split
    · exact reject_settles _
    · apply Settles.cons
      split
      · exact pairingProof_settles random role _ there
      · split
        · exact throw_settles
        · exact reject_settles _
        · split
          · exact throw_settles
          · exact .inr (.inr (.inl ⟨id, _, List.mem_singleton.mpr rfl, rfl⟩))

theorem finishProof_settles (random : Bytes) (check : JoinCheck)
    (there : check.ws ∈ state.sockets ctx) :
    Settles check.ws (finishProof env now ctx state random check) := by
  unfold finishProof
  split
  · apply (admit_settles random check.role none _).mono (List.subset_append_right _ _)
    rw [(bump_same_room now ctx state).sockets]
    exact there
  · exact reject_settles _

end Settled

section Step
variable {env : Env} {state : State} {event : Event} {met : Turn} {ws : SocketId}

theorem proved_of_holds {role : Role} (holds : state.holds ws role = true) :
    state.proved ws = true := by
  cases role <;> simp [State.proved, holds]

-- After the turn of a proof its socket is closed, admitted or suspended.
theorem Turns.settled (wired : Wired env state) (happens : turn env state event = some met)
    (settles : Settles ws met.script) (caught : met.onThrow = [.close ws 1011 "internal error"])
    (routed : (step env state event).routable ws) : (step env state event).proved ws = true := by
  have turns := turn_turns happens
  have performed : acts env state event = met.acts := by
    rw [acts, happens]
  have result : step env state event = met.result := by
    rw [step, happens]
  have unclosed : ws ∉ closes met.acts := fun closed =>
    turns.closed_unroutable wired closed (result ▸ routed)
  have finished : threw met.fault met.script = false := by
    by_contra thrown
    rw [Bool.not_eq_false] at thrown
    apply unclosed
    rw [Turn.acts, thrown, caught]
    exact mem_closes.mpr ⟨1011, "internal error", by simp⟩
  have whole := Turn.acts_whole finished
  rcases settles with closed | ⟨_, member, admits, ⟨admission, room, tag, since⟩, rfl⟩ |
    ⟨id, check, member, same⟩ | thrown
  · exact absurd (whole ▸ closed) unclosed
  · cases admission with
    | admitted role =>
        have seats : Seats env state event ws role := ⟨_, by rw [performed, whole]; exact member, rfl⟩
        obtain ⟨join, turn, seated, _, rfl, rfl⟩ := seats.seated wired
        exact proved_of_holds seated.holds
    | _ => simp [Act.admits] at admits
  · have suspended : ⟨id, met.ctx, .proofSignature check⟩ ∈
        (replay met.ctx met.start met.acts).suspended := by
      rw [replay_suspended, whole]
      refine List.mem_append_right _ (List.mem_map.mpr ⟨(id, .proofSignature check), ?_, rfl⟩)
      exact List.mem_filterMap.mpr ⟨_, member, rfl⟩
    have after : (step env state event).suspended =
        (replay met.ctx met.start met.acts).suspended := by
      rw [result, Turn.result]
      rcases turns.finish_keeps (replay met.ctx met.start met.acts) with kept | evicted
      · rw [kept]
      · rw [evicted, maybe_evict_live]
    have verifying : (step env state event).verifying ws = true :=
      List.any_eq_true.mpr ⟨_, after ▸ suspended, by simp [Await.isProofOf, same]⟩
    simp [State.proved, verifying]
  · have stopped : threw met.fault met.script = true := Script.threw_of_mem _ _ thrown rfl
    rw [stopped] at finished
    exact Bool.noConfusion finished

theorem proves_turn (proves_ : proves ws (state, event) = true) :
    ∃ now frame random fault rest role nonce yields, event = .run now ∧
      state.draining = some ws ∧ state.verifying ws = false ∧
      state.chain ws = .message frame random fault :: rest ∧
      state.admission ws = some (.challenged role nonce yields) ∧
      frame.size ≤ frameCap state ws := by
  obtain ⟨frame, member, proof⟩ := List.any_eq_true.mp proves_
  cases event with
  | run now =>
      rw [handled_run] at member
      split at member
      · rename_i running
        cases next : state.chain ws with
        | nil => simp [next] at member
        | cons task rest =>
            cases task with
            | message first random fault =>
                obtain rfl : frame = first := by simpa [next, Task.frame] using member
                cases admission : state.admission ws with
                | none => simp [isProof, admission] at proof
                | some current =>
                    cases current with
                    | challenged role nonce yields =>
                        exact ⟨now, frame, random, fault, rest, role, nonce, yields, rfl, running.1,
                          running.2, rfl, rfl, by simpa [isProof, admission] using proof⟩
                    | _ => simp [isProof, admission] at proof
            | _ => simp [next, Task.frame] at member
      · simp at member
  | _ => simp [handled] at member

theorem proves_fresh (proves_ : proves ws (state, event) = true) : state.proved ws = false := by
  obtain ⟨_, _, _, _, _, role, nonce, yields, _, _, free, _, admission, _⟩ := proves_turn proves_
  simp [State.proved, State.holds, admission, free]

theorem proves_settled (wired : Wired env state) (proves_ : proves ws (state, event) = true)
    (here : state.routable ws) (routed : (step env state event).routable ws) :
    (step env state event).proved ws = true := by
  obtain ⟨now, frame, random, fault, rest, role, nonce, yields, rfl, drained, free, next, admission,
    small⟩ := proves_turn proves_
  have happens : turn env state (.run now) = some
      (taskTurn env now (state.pop ws rest) ws state.nextId (.message frame random fault)) := by
    simp [turn, State.busy, quietTurn, drained, runTurn, free, next]
  refine Turns.settled wired happens ?_ rfl routed
  have large : ¬ frame.size > frameCap (state.pop ws rest) ws := Nat.not_lt.mpr small
  have same : (state.pop ws rest).admission ws = some (.challenged role nonce yields) := admission
  simp only [taskTurn, webSocketMessage, large, if_false, same]
  exact handleProof_settles _ role nonce random frame here

-- A frame over the cap closes its socket, and does nothing else but close.
theorem large_within {now id : Nat} {ctx : ContextId} {random : Bytes} {frame : Frame}
    (large : frame.size > frameCap state ws) :
    Within [.close] (webSocketMessage env now ctx state id ws random frame) := by
  unfold webSocketMessage
  rw [if_pos large]
  exact closeBoth_within ..

theorem small_frame {now id : Nat} {ctx : ContextId} {random : Bytes} {frame : Frame} {act : Act}
    (member : act ∈ webSocketMessage env now ctx state id ws random frame)
    (apart : act.verb ≠ .close) : frame.size ≤ frameCap state ws := by
  by_contra large
  have fits := (large_within (Nat.lt_of_not_le large)).each _ member
  exact apart (List.mem_singleton.mp fits)

theorem Turns.suspends (turns : Turns env state event met) {id : Nat} {check : JoinCheck}
    (member : (id, .proofSignature check) ∈ pending met.acts) :
    proves check.ws (state, event) = true := by
  have inside : (id, .proofSignature check) ∈ pending met.script :=
    turns.pending_acts.subset member
  have rests : ∀ {number script}, Rests number script →
      (id, Await.proofSignature check) ∉ pending script := by
    rintro number script (none_ | ⟨await, one, free⟩) member
    · rw [none_] at member
      exact absurd member List.not_mem_nil
    · rw [one] at member
      obtain ⟨_, rfl⟩ : id = number ∧ .proofSignature check = await := by simpa using member
      simp [Await.concerns] at free
  have quiet : ∀ {verbs script}, Within verbs script → Verb.suspend ∉ verbs →
      (id, Await.proofSignature check) ∉ pending script := fun fits missing member => by
    rw [fits.pending_nil missing] at member
    exact absurd member List.not_mem_nil
  cases turns with
  | task now ws task rest drained free next =>
      cases task with
      | message frame random fault =>
          have inside : (id, .proofSignature check) ∈ pending (webSocketMessage env now
              (state.home ws) (state.pop ws rest) state.nextId ws random frame) := inside
          have messages := @webSocketMessage_rests state.nextId env now (state.home ws)
            (state.pop ws rest) ws random frame
          rcases messages with none_ | ⟨other, nonce, flag, one, plain, same, challenged, _⟩
          · rw [none_] at inside
            exact absurd inside List.not_mem_nil
          · rw [one] at inside
            obtain ⟨_, rfl⟩ : id = state.nextId ∧ check = other := by simpa using inside
            subst same
            have suspends : .suspend id (.proofSignature check) ∈ webSocketMessage env now
                (state.home check.ws) (state.pop check.ws rest) state.nextId check.ws random
                frame := suspend_of_pending inside
            have small : frame.size ≤ frameCap state check.ws := small_frame suspends (by simp)
            have challenged : state.admission check.ws = _ := challenged
            simp [proves, handled_run, drained, free, next, Task.frame, isProof, challenged, small]
      | _ => exact absurd inside (quiet (closePeerOf_within ..) (by simp))
  | connect now opened ctx resident unseen => simp [handleUpgrade, pending, Act.pending] at inside
  | resume now number random fault handler found free =>
      exact absurd inside (rests (continuation_rests ..))
  | request now request random fault ctx resident =>
      exact absurd inside (rests (handleHttp_rests ..))
  | fire => exact absurd inside (quiet (alarm_within ..) (by simp))
  | alarm => exact absurd inside (quiet (alarm_within ..) (by simp))
  | drain => exact absurd inside (quiet (closeAll_within ..) (by simp))
  | _ => simp at inside

theorem verifying_iff : state.verifying ws = true ↔
    ∃ handler ∈ state.suspended, handler.await.isProofOf ws = true :=
  List.any_eq_true

theorem isProofOf_iff {await : Await} :
    await.isProofOf ws = true ↔ ∃ check, await = .proofSignature check ∧ check.ws = ws := by
  cases await <;> simp [Await.isProofOf]

theorem Turns.result_suspended (turns : Turns env state event met) :
    met.result.suspended = met.start.suspended ++
      (pending met.acts).map fun await => ⟨await.1, met.ctx, await.2⟩ := by
  rw [← replay_suspended, Turn.result]
  rcases turns.finish_keeps (replay met.ctx met.start met.acts) with kept | evicted
  · rw [kept]
  · rw [evicted, maybe_evict_live]

theorem Turns.start_suspended (turns : Turns env state event met) :
    (∃ now id random fault, event = .resume now id random fault ∧
      met.start.suspended = state.suspended.filter (·.id ≠ id)) ∨
    event.isRestart = true ∧ met.start.suspended = [] ∨
    met.start.suspended = state.suspended := by
  cases turns with
  | get now absent quiet =>
      rw [init_keeps]
      exact .inr (.inr rfl)
  | chunk target frames tail attached hears upgraded quiet =>
      rw [hang_up_keeps]
      exact .inr (.inr rfl)
  | ended target attached open_ quiet =>
      rw [maybe_evict_live]
      exact .inr (.inr rfl)
  | task now target task rest drained free next => cases task <;> exact .inr (.inr rfl)
  | resume now id random fault handler found quiet =>
      exact .inl ⟨now, id, random, fault, rfl, rfl⟩
  | restart now =>
      refine .inr (.inl ⟨rfl, ?_⟩)
      dsimp only [Relay.restart]
      split
      · rfl
      · rw [maybe_evict_live, init_keeps]
        rfl
  | _ => exact .inr (.inr rfl)

theorem proved_before (wired : Wired env state) (unproved : proves ws (state, event) = false)
    (after : (step env state event).proved ws = true) : state.proved ws = true := by
  have seat : ∀ role, (step env state event).holds ws role = true → state.proved ws = true := by
    intro role holds
    rcases holds_cases holds with old | seats
    · exact proved_of_holds old
    · obtain ⟨join, met, seated, _, rfl, rfl⟩ := seats.seated wired
      cases seated.joins with
      | pairing now target role nonce yields frame random fault rest window lead attest drained free
          next admission absent presented =>
          have happens := seated.happens
          simp only [turn, State.busy, Bool.false_eq_true, if_false, quietTurn, drained,
            Option.map_some, runTurn, free, next, Option.some.injEq] at happens
          subst happens
          have small : frame.size ≤ frameCap state target := by
            rcases turn_act seated.attach_mem with ran | caught
            · exact small_frame ran (by simp)
            · simp [taskTurn] at caught
          have proof : proves target (state, .run now) = true := by
            simp [proves, handled_run, drained, free, next, Task.frame, isProof, admission, small]
          rw [proof] at unproved
          exact Bool.noConfusion unproved
      | signature now id random fault ctx check found verified =>
          have verifying : state.verifying check.ws = true :=
            verifying_iff.mpr ⟨_, (mem_find found).1, by simp [Await.isProofOf]⟩
          simp [State.proved, verifying]
  simp only [State.proved, Bool.or_eq_true] at after
  rcases after with (mac | phone) | verifying
  · exact seat .mac mac
  · exact seat .phone phone
  · rcases step_cases env state event with ⟨_, same⟩ | ⟨met, turns, _, result⟩
    · rw [same] at verifying
      simp [State.proved, verifying]
    · rw [result] at verifying
      obtain ⟨handler, member, proof⟩ := verifying_iff.mp verifying
      rw [turns.result_suspended] at member
      rcases List.mem_append.mp member with old | fresh
      · have there : handler ∈ state.suspended := by
          rcases turns.start_suspended with ⟨_, _, _, _, _, kept⟩ | ⟨_, gone⟩ | kept
          · rw [kept] at old
            exact (List.mem_filter.mp old).1
          · rw [gone] at old
            exact absurd old List.not_mem_nil
          · rw [kept] at old
            exact old
        have verifying : state.verifying ws = true := verifying_iff.mpr ⟨handler, there, proof⟩
        simp [State.proved, verifying]
      · obtain ⟨⟨id, await⟩, inside, rfl⟩ := List.mem_map.mp fresh
        obtain ⟨check, rfl, rfl⟩ := isProofOf_iff.mp proof
        rw [turns.suspends inside] at unproved
        exact Bool.noConfusion unproved

-- A socket that is still open stays proved.
theorem proved_stays (wired : Wired env state) (proved : state.proved ws = true)
    (here : state.routable ws) (routed : (step env state event).routable ws) :
    (step env state event).proved ws = true := by
  simp only [State.proved, Bool.or_eq_true] at proved
  rcases proved with (mac | phone) | verifying
  · exact proved_of_holds (holds_iff.mpr (admitted_stays wired (holds_iff.mp mac)))
  · exact proved_of_holds (holds_iff.mpr (admitted_stays wired (holds_iff.mp phone)))
  · cases happens : turn env state event with
    | none =>
        have same : step env state event = state := by
          rw [step, happens]
        rw [same]
        simp [State.proved, verifying]
    | some met =>
        have turns := turn_turns happens
        have result : step env state event = met.result := by
          rw [step, happens]
        obtain ⟨handler, member, proof⟩ := verifying_iff.mp verifying
        have waits : handler ∈ met.start.suspended → (step env state event).proved ws = true := by
          intro there
          have verifying : met.result.verifying ws = true := verifying_iff.mpr
            ⟨handler, by rw [turns.result_suspended]; exact List.mem_append_left _ there, proof⟩
          rw [result]
          simp [State.proved, verifying]
        rcases turns.start_suspended with ⟨now, id, random, fault, rfl, kept⟩ | ⟨ends, _⟩ | kept
        · by_cases other : handler.id = id
          · cases turns with
            | resume now id random fault found_ found quiet =>
                obtain ⟨there, numbered⟩ := mem_find found
                obtain rfl : found_ = handler := List.inj_on_of_nodup_map wired.distinct there member
                  (numbered.trans other.symm)
                obtain ⟨number, ctx, await⟩ := found_
                obtain ⟨check, rfl, rfl⟩ := isProofOf_iff.mp proof
                have home : state.home check.ws = ctx := (wired.proving _ there check rfl).home
                have open_ : check.ws ∈ state.sockets ctx := home ▸ here
                refine Turns.settled wired happens ?_ rfl routed
                exact finishProof_settles random check open_
          · exact waits (kept ▸ List.mem_filter.mpr ⟨member, by simpa using other⟩)
        · cases event with
          | restart now => exact absurd routed (restart_unroutable now state ws)
          | _ => simp [Event.isRestart] at ends
        · exact waits (kept ▸ member)

end Step

/-- The proofs that the open sockets have given so far. -/
structure Counted (past : List (State × Event)) (state : State) : Prop where
  unseen : ∀ ws, state.attachment ws = none → past.countP (proves ws) = 0
  open_ : ∀ ws, state.routable ws → past.countP (proves ws) = if state.proved ws then 1 else 0

theorem unseen_unproved {env : Env} {state : State} {ws : SocketId} (wired : Wired env state)
    (unseen : state.attachment ws = none) : state.proved ws = false := by
  have verifying : state.verifying ws = false := by
    by_contra waits
    rw [Bool.not_eq_false] at waits
    obtain ⟨handler, member, proof⟩ := verifying_iff.mp waits
    obtain ⟨check, await, rfl⟩ := isProofOf_iff.mp proof
    obtain ⟨nonce, flag, challenged, _⟩ := (wired.proving handler member check await).challenged
    simp [State.admission, unseen] at challenged
  simp [State.proved, State.holds, State.admission, unseen, verifying]

theorem Counted.after {env : Env} {past : List (State × Event)} {state : State}
    (counted : Counted past state) (wired : Wired env state) (event : Event) :
    Counted (past ++ [(state, event)]) (step env state event) := by
  have quiet : ∀ ws, state.attachment ws = none → proves ws (state, event) = false := by
    intro ws unseen
    by_contra proof
    rw [Bool.not_eq_false] at proof
    obtain ⟨_, _, _, _, _, _, _, _, _, _, _, _, admission, _⟩ := proves_turn proof
    simp [State.admission, unseen] at admission
  constructor
  · intro ws after
    have unseen : state.attachment ws = none := by
      by_contra attached
      exact attached_stays attached after
    simp [counted.unseen ws unseen, quiet ws unseen]
  · intro ws routed
    rw [List.countP_append, List.countP_singleton]
    by_cases unseen : state.attachment ws = none
    · have unproved : (step env state event).proved ws = false := by
        by_contra proved
        rw [Bool.not_eq_false] at proved
        have before := proved_before wired (quiet ws unseen) proved
        rw [unseen_unproved wired unseen] at before
        exact Bool.noConfusion before
      simp [counted.unseen ws unseen, quiet ws unseen, unproved]
    · have here := routable_attached unseen routed
      rw [counted.open_ ws here]
      cases proof : proves ws (state, event) with
      | true => simp [proves_fresh proof, proves_settled wired proof here routed]
      | false =>
          have same : (step env state event).proved ws = state.proved ws := by
            apply Bool.eq_iff_iff.mpr
            exact ⟨proved_before wired proof, fun proved => proved_stays wired proved here routed⟩
          simp [same]

theorem proves_once (env : Env) (events : List Event) : ProvesOnce env events := by
  have invariant := Machine.history_invariant (step env)
    (fun past state => Wired env state ∧ Counted past state) (fun _ _ _ => True)
    (fun _ _ event holds _ => ⟨wired_step holds.1, holds.2.after holds.1 event⟩) [] initial
    ⟨Wired.initial env, by simp, by simp [initial, State.routable]⟩ events (fun _ _ _ _ => trivial)
  intro ws routed
  rw [List.nil_append] at invariant
  exact invariant.2.open_ ws routed

end Relay

import CompanionRelay.Turns

/-!
What the replay of a script does to sockets, attachments and suspended handlers, and
which attachments and awaits each handler can write: a handler writes the attachment
of its own socket only, and is suspended at most once, at its end.
-/

namespace Relay

open Function (update)

section Replay

def Act.pending : Act → Option (Nat × Await)
  | .suspend id await => some (id, await)
  | _ => none

/-- The crypto awaits a script ends in. -/
def pending (script : List Act) : List (Nat × Await) := script.filterMap Act.pending

@[simp] theorem pending_nil : pending [] = [] := rfl

@[simp] theorem pending_append (first second : List Act) :
    pending (first ++ second) = pending first ++ pending second := by
  simp [pending]

@[simp] theorem pending_suspend (id : Nat) (await : Await) (rest : List Act) :
    pending (.suspend id await :: rest) = (id, await) :: pending rest := rfl

theorem pending_cons (act : Act) (rest : List Act) (plain : act.verb ≠ .suspend) :
    pending (act :: rest) = pending rest := by
  cases act <;> first | rfl | exact absurd rfl plain

theorem Within.pending_nil {verbs : List Verb} {script : List Act} (fits : Within verbs script)
    (missing : Verb.suspend ∉ verbs) : pending script = [] := by
  induction script with
  | nil => rfl
  | cons act rest ih =>
      rw [Within.cons_iff] at fits
      rw [pending_cons act rest (fun same => missing (same ▸ fits.1))]
      exact ih fits.2

theorem suspend_of_pending {script : List Act} {id : Nat} {await : Await}
    (member : (id, await) ∈ pending script) : .suspend id await ∈ script := by
  obtain ⟨act, inside, rests⟩ := List.mem_filterMap.mp member
  cases act with
  | suspend other wait =>
      obtain ⟨rfl, rfl⟩ : other = id ∧ wait = await := by simpa [Act.pending] using rests
      exact inside
  | _ => simp [Act.pending] at rests

theorem replay_suspended (ctx : ContextId) (state : State) (script : List Act) :
    (replay ctx state script).suspended =
      state.suspended ++ (pending script).map fun await => ⟨await.1, ctx, await.2⟩ := by
  induction script generalizing state with
  | nil => simp
  | cons act rest ih =>
      rw [replay_cons, ih]
      cases act with
      | suspend id await => simp [perform]
      | _ => rfl

theorem replay_live (ctx : ContextId) (state : State) (script : List Act) :
    (replay ctx state script).live = state.live :=
  Script.replay_keeps (perform ctx) State.live script (fun act _ => (perform_live ctx · act)) state

theorem replay_chain (ctx : ContextId) (state : State) (script : List Act) :
    (replay ctx state script).chain = state.chain :=
  Script.replay_keeps (perform ctx) State.chain script (fun act _ => (perform_chain ctx · act)) state

theorem replay_next_id (ctx : ContextId) (state : State) (script : List Act) :
    (replay ctx state script).nextId = state.nextId :=
  Script.replay_keeps (perform ctx) State.nextId script
    (fun act _ => (perform_next_id ctx · act)) state

theorem replay_home (ctx : ContextId) (state : State) (script : List Act)
    (unaccepted : ∀ ws, Act.accept ws ∉ script) : (replay ctx state script).home = state.home := by
  apply Script.replay_keeps (perform ctx) State.home script
  intro act member state
  cases act with
  | accept ws => exact absurd member (unaccepted ws)
  | _ => rfl

theorem close_sockets_subset (state : State) (ws : SocketId) (ctx : ContextId) :
    (state.closeSocket ws).sockets ctx ⊆ state.sockets ctx := by
  intro other member
  simp only [State.closeSocket, Function.update_apply] at member
  split at member
  · rename_i same
    subst same
    exact (List.mem_filter.mp member).1
  · exact member

theorem replay_sockets_subset (ctx : ContextId) (state : State) (script : List Act)
    (unaccepted : ∀ ws, Act.accept ws ∉ script) (other : ContextId) :
    (replay ctx state script).sockets other ⊆ state.sockets other := by
  induction script generalizing state with
  | nil => exact fun _ member => member
  | cons act rest ih =>
      rw [replay_cons]
      have shrunk := ih (perform ctx state act) (fun ws member =>
        unaccepted ws (List.mem_cons_of_mem act member))
      cases act with
      | accept ws => exact absurd (by simp) (unaccepted ws)
      | close ws code reason => exact List.Subset.trans shrunk (close_sockets_subset state ws other)
      | _ => exact shrunk

theorem attach_of_verb {act : Act} (attaches : act.verb = .attach) :
    ∃ ws value, act = .attach ws value := by
  cases act with
  | attach ws value => exact ⟨ws, value, rfl⟩
  | put row => cases row <;> simp at attaches
  | delete key => cases key <;> simp at attaches
  | send ws message => cases message <;> simp at attaches
  | reply id endpoint status body => cases endpoint <;> cases body <;> simp at attaches
  | _ => simp at attaches

/-- The script writes the attachment of no socket but `ws`. -/
structure Attaches (ws : SocketId) (script : List Act) : Prop where
  only : ∀ other attachment, Act.attach other attachment ∈ script → other = ws

theorem Within.attaches {verbs : List Verb} {script : List Act} (fits : Within verbs script)
    (missing : Verb.attach ∉ verbs) (ws : SocketId) : Attaches ws script :=
  ⟨fun _ _ member => absurd (fits.each _ member) missing⟩

theorem replay_attachment_elsewhere (ctx : ContextId) (state : State) (script : List Act)
    (ws other : SocketId) (only : Attaches ws script) (apart : other ≠ ws) :
    (replay ctx state script).attachment other = state.attachment other := by
  apply Script.replay_keeps (perform ctx) (fun state => state.attachment other) script
  intro act member state
  cases act with
  | attach target attachment =>
      have same := only.only target attachment member
      subst same
      simp [perform, Function.update_of_ne apart]
  | _ => rfl

theorem replay_attached (ctx : ContextId) (state : State) (script : List Act) (ws : SocketId)
    (attached : state.attachment ws ≠ none) :
    (replay ctx state script).attachment ws ≠ none := by
  refine Script.replay_invariant (perform ctx) (fun state => state.attachment ws ≠ none) script
    ?_ state attached
  intro act _ state attached
  cases act with
  | attach target attachment =>
      simp only [perform, Function.update_apply]
      split
      · simp
      · exact attached
  | _ => exact attached

theorem admission_eq (first second : State) (ws : SocketId)
    (same : first.attachment ws = second.attachment ws) :
    first.admission ws = second.admission ws := by
  simp [State.admission, same]

theorem pending_done (fault : Option Nat) (script : List Act) :
    pending (done fault script) <+: pending script :=
  (Script.done_initial Act.isStorage Act.isThrow fault script).filterMap Act.pending

end Replay

section Rests

/-- The socket whose attachment a suspended handler relies on. -/
def Await.concerns : Await → Option SocketId
  | .upgradeTag ws => some ws
  | .proofSignature check => some check.ws
  | _ => none

/-- The script runs to its end or to one await that relies on no socket. -/
def Rests (id : Nat) (script : List Act) : Prop :=
  pending script = [] ∨ ∃ await : Await, pending script = [(id, await)] ∧ await.concerns = none

variable {id : Nat} {act : Act} {first second rest : List Act} {verbs : List Verb}

theorem Rests.of_within (fits : Within verbs rest) (missing : Verb.suspend ∉ verbs) :
    Rests id rest := .inl (fits.pending_nil missing)

theorem Rests.cons (plain : act.verb ≠ .suspend) (rests : Rests id rest) :
    Rests id (act :: rest) := by
  unfold Rests
  rw [pending_cons act rest plain]
  exact rests

theorem Rests.append (fits : Within verbs first) (missing : Verb.suspend ∉ verbs)
    (rests : Rests id second) : Rests id (first ++ second) := by
  unfold Rests
  rw [pending_append, fits.pending_nil missing, List.nil_append]
  exact rests

theorem Rests.last (await : Await) (free : await.concerns = none) :
    Rests id [.suspend id await] := .inr ⟨await, rfl, free⟩

variable (env : Env) (now : Nat) (ctx : ContextId) (state : State)

theorem answer_rests (endpoint : Endpoint) (status : Nat) (body : Body) :
    Rests id (answer id endpoint status body) :=
  .inr ⟨.responseTag, rfl, rfl⟩

theorem handleAttestChallenge_rests (random : Bytes) :
    Rests id (handleAttestChallenge now state id random) := by
  unfold handleAttestChallenge
  apply Rests.append
    (Within.cons_iff.mpr ⟨by simp, Within.map_of (by simp)⟩ :
      Within [.read, .deleteChallenge] _) (by simp)
  split
  · exact answer_rests ..
  · dsimp only
    apply Rests.append
      (Within.cons_iff.mpr ⟨by simp, (ensureAlarm_within now state).mono (by simp)⟩ :
        Within [.putChallenge, .getAlarm, .setAlarm] _) (by simp)
    exact answer_rests ..

theorem handleAttest_rests (body : Option Json) :
    Rests id (handleAttest env now state id body) := by
  unfold handleAttest
  dsimp only
  split
  · exact answer_rests ..
  · split
    · exact answer_rests ..
    · split
      · apply Rests.cons (by simp)
        split
        · apply Rests.cons (by simp)
          split
          · exact .inl rfl
          · exact .last _ rfl
        · exact answer_rests ..
      · exact .inl rfl
      · exact answer_rests ..

theorem finishAttest_rests (random : Bytes) (call : AttestCall) (since : Nat) :
    Rests id (finishAttest env now state id random call since) := by
  unfold finishAttest
  split
  · exact answer_rests ..
  · dsimp only
    apply Rests.append
      (Within.cons_iff.mpr ⟨by simp, (ensureAlarm_within now state).mono (by simp)⟩ :
        Within [.putTicket, .getAlarm, .setAlarm] _) (by simp)
    exact answer_rests ..

theorem writeVerifier_rests (token verifier : String) :
    Rests id (writeVerifier now state id token verifier) := by
  unfold writeVerifier
  apply Rests.append
    (Within.append_iff.mpr ⟨by simp,
      (bumpActivity_within now state).mono (by simp)⟩ :
      Within (writeVerbs.erase .suspend) _) (by simp)
  exact answer_rests ..

theorem handleRegister_rests (body : Option Json) :
    Rests id (handleRegister env now state id body) := by
  unfold handleRegister
  dsimp only
  split
  · exact answer_rests ..
  · split
    · exact .inl rfl
    · exact .inl rfl
    · exact answer_rests ..
    · apply Rests.cons (by simp)
      split
      · exact answer_rests ..
      · split
        · exact answer_rests ..
        · apply Rests.cons (by simp)
          split
          · exact answer_rests ..
          · split
            · exact answer_rests ..
            · split
              · exact writeVerifier_rests ..
              · split
                · exact answer_rests ..
                · split
                  · apply Rests.cons (by simp)
                    split
                    · apply Rests.cons (by simp)
                      split
                      · exact .inl rfl
                      · exact .last _ rfl
                    · exact answer_rests ..
                  · exact answer_rests ..

theorem finishRegister_rests (call : RegisterCall) :
    Rests id (finishRegister env now state id call) := by
  unfold finishRegister
  split
  · exact answer_rests ..
  · apply Rests.cons (by simp)
    split
    · apply Rests.cons (by simp)
      apply Rests.cons (by simp)
      exact writeVerifier_rests ..
    · exact answer_rests ..

theorem handleDelete_rests (body : Option Json) :
    Rests id (handleDelete env now state id body) := by
  unfold handleDelete
  dsimp only
  split
  · exact answer_rests ..
  · apply Rests.cons (by simp)
    split
    · exact answer_rests ..
    · split
      · apply Rests.cons (by simp)
        split
        · apply Rests.cons (by simp)
          split
          · exact .inl rfl
          · exact .last _ rfl
        · exact answer_rests ..
      · exact .inl rfl
      · exact answer_rests ..

theorem handleHttp_rests (random : Bytes) (request : Request) :
    Rests id (handleHttp env now state id random request) := by
  cases request with
  | challenge => exact handleAttestChallenge_rests ..
  | attest body => exact handleAttest_rests ..
  | register body => exact handleRegister_rests ..
  | delete body => exact handleDelete_rests ..
  | other => exact answer_rests ..

theorem continuation_rests (random : Bytes) (await : Await) :
    Rests id (continuation env now ctx state random id await) := by
  cases await with
  | upgradeTag ws => exact .of_within (finishUpgrade_within env now ctx state ws) (by simp)
  | proofSignature check =>
      exact .of_within (finishProof_within env now ctx state random check) (by simp)
  | attestDigest call => exact .last _ rfl
  | attestCheck call since => exact finishAttest_rests ..
  | registerDigest call => exact .last _ rfl
  | registerAssertion call => exact finishRegister_rests ..
  | deleteSignature call =>
      simp only [continuation, finishDelete]
      split
      · exact .last _ rfl
      · exact answer_rests ..
  | deleteTag =>
      exact Rests.append (teardownRoom_within ctx state _) (by simp) (answer_rests ..)
  | responseTag => exact .inl rfl

theorem pairingProof_pending (random : Bytes) (ws : SocketId) (role : Role) (proof : Json) :
    pending (pairingProof env now ctx state random ws role proof) = [] := by
  have admitted := fun attest =>
    (admit_within env now ctx state random ws role attest).pending_nil (by simp)
  unfold pairingProof
  split
  · cases role with
    | mac => exact admitted _
    | phone =>
        dsimp only
        split
        · rfl
        · rfl
        · rw [pending_cons _ _ (by simp)]
          split
          · rfl
          · split
            · rfl
            · rw [pending_cons _ _ (by simp)]
              exact admitted _
  · exact admitted _

-- A message suspends only as a proof of its own socket, and then writes no attachment.
theorem webSocketMessage_rests (ws : SocketId) (random : Bytes) (frame : Frame) :
    pending (webSocketMessage env now ctx state id ws random frame) = [] ∨
      ∃ check : JoinCheck, ∃ nonce flag,
        pending (webSocketMessage env now ctx state id ws random frame) =
          [(id, .proofSignature check)] ∧
        Within [.count, .read, .suspend] (webSocketMessage env now ctx state id ws random frame) ∧
        check.ws = ws ∧ state.admission ws = some (.challenged check.role nonce flag) ∧
        joinTranscript check.role nonce env.roomName env.relayOrigin = some check.transcript ∧
        truthy state.store.verifier = some check.verifier ∧
        ∃ proof, env.parse frame = some proof ∧ proof.readString "sig" = some (some check.sig) := by
  have quiet : ∀ {verbs script}, Within verbs script → Verb.suspend ∉ verbs → pending script = [] :=
    fun fits missing => fits.pending_nil missing
  unfold webSocketMessage
  split
  · rw [pending_append, quiet (closePeerOf_within ctx state ws) (by simp)]
    exact .inl rfl
  · cases admission : state.admission ws with
    | none => exact .inl (quiet (handleHello_within env state ws random frame) (by simp))
    | some current =>
        cases current with
        | hello => exact .inl (quiet (handleHello_within env state ws random frame) (by simp))
        | admitted role =>
            exact .inl (quiet (spliceFrame_within env now ctx state ws role frame) (by simp))
        | challenged role nonce flag =>
            dsimp only
            unfold handleProof
            dsimp only
            rw [pending_cons _ _ (by simp)]
            split
            · exact .inl rfl
            · split
              · exact .inl rfl
              · rename_i proof parsed
                rw [pending_cons _ _ (by simp)]
                split
                · exact .inl (pairingProof_pending ..)
                · rename_i verifier registered
                  split
                  · exact .inl rfl
                  · exact .inl rfl
                  · rename_i sig signed
                    split
                    · exact .inl rfl
                    · rename_i transcript made
                      exact .inr ⟨⟨ws, role, sig, transcript, verifier⟩, nonce, flag, rfl,
                        by simp, rfl, rfl, made, registered, proof, parsed, signed⟩

end Rests

section Attachments

theorem handleHello_attaches (env : Env) (state : State) (ws : SocketId) (random : Bytes)
    (frame : Frame) : Attaches ws (handleHello env state ws random frame) := by
  constructor
  intro other attachment member
  unfold handleHello at member
  split at member
  · split at member
    · dsimp only at member
      split at member
      · split at member
        · simp at member
          exact member.1
        · simp at member
      · simp at member
    · simp at member
    · simp at member
  · simp at member

theorem attaches_append {ws : SocketId} {first second : List Act} (one : Attaches ws first)
    (two : Attaches ws second) : Attaches ws (first ++ second) := by
  constructor
  intro other attachment member
  rcases List.mem_append.mp member with left | right
  · exact one.only other attachment left
  · exact two.only other attachment right

theorem attaches_cons {ws : SocketId} {act : Act} {rest : List Act} (plain : act.verb ≠ .attach)
    (others : Attaches ws rest) : Attaches ws (act :: rest) := by
  constructor
  intro other attachment member
  rcases List.mem_cons.mp member with rfl | later
  · exact absurd rfl plain
  · exact others.only other attachment later

theorem takeSlot_attaches (env : Env) (now : Nat) (ctx : ContextId) (state : State)
    (random : Bytes) (ws : SocketId) (role : Role) (attest : Option AttestedKey) :
    Attaches ws (takeSlot env now ctx state random ws role attest) := by
  unfold takeSlot
  dsimp only
  split
  · exact (reject_within ws _).attaches (by simp) ws
  · apply attaches_append
    · exact (Within.map_of (by simp) : Within [.close] _).attaches (by simp) ws
    · constructor
      intro other attachment member
      rcases List.mem_cons.mp member with same | later
      · cases same
        rfl
      · cases role with
        | mac => simp at later
        | phone =>
            have quiet := (ensureAlarm_within now state).attaches (by simp) ws
            simp only [List.cons_append, List.mem_cons, List.mem_append] at later
            rcases later with wrong | inside | wrong | wrong
            · cases wrong
            · exact quiet.only other attachment inside
            · cases wrong
            · simp at wrong

theorem admit_attaches (env : Env) (now : Nat) (ctx : ContextId) (state : State)
    (random : Bytes) (ws : SocketId) (role : Role) (attest : Option AttestedKey) :
    Attaches ws (admitSocket env now ctx state random ws role attest) := by
  have take := takeSlot_attaches env now ctx state random ws role attest
  unfold admitSocket
  dsimp only
  apply attaches_cons (by simp)
  cases role with
  | mac =>
      dsimp only
      split
      · exact take
      · exact attaches_cons (by simp) take
  | phone =>
      dsimp only
      split
      · exact (reject_within ws _).attaches (by simp) ws
      · split
        · exact take
        · apply attaches_cons (by simp)
          split
          · exact (teardownRoom_within ctx state _).attaches (by simp) ws
          · exact attaches_cons (by simp) take

theorem pairingProof_attaches (env : Env) (now : Nat) (ctx : ContextId) (state : State)
    (random : Bytes) (ws : SocketId) (role : Role) (proof : Json) :
    Attaches ws (pairingProof env now ctx state random ws role proof) := by
  have rejected : ∀ error, Attaches ws (reject ws error) :=
    fun error => (reject_within ws error).attaches (by simp) ws
  unfold pairingProof
  split
  · cases role with
    | mac => exact admit_attaches ..
    | phone =>
        dsimp only
        split
        · exact (by simp : Within [.throw] [Act.throw]).attaches (by simp) ws
        · exact rejected _
        · apply attaches_cons (by simp)
          split
          · exact rejected _
          · split
            · exact rejected _
            · exact attaches_cons (by simp) (admit_attaches ..)
  · exact admit_attaches ..

theorem handleProof_attaches (env : Env) (now : Nat) (ctx : ContextId) (state : State) (id : Nat)
    (ws : SocketId) (role : Role) (nonce : String) (random : Bytes) (frame : Frame) :
    Attaches ws (handleProof env now ctx state id ws role nonce random frame) := by
  have rejected : ∀ error, Attaches ws (reject ws error) :=
    fun error => (reject_within ws error).attaches (by simp) ws
  unfold handleProof
  dsimp only
  apply attaches_cons (by simp)
  split
  · exact rejected _
  · split
    · exact rejected _
    · apply attaches_cons (by simp)
      split
      · exact pairingProof_attaches ..
      · split
        · exact (by simp : Within [.throw] [Act.throw]).attaches (by simp) ws
        · exact rejected _
        · split
          · exact (by simp : Within [.throw] [Act.throw]).attaches (by simp) ws
          · exact (by simp : Within [.suspend] _).attaches (by simp) ws

theorem webSocketMessage_attaches (env : Env) (now : Nat) (ctx : ContextId) (state : State)
    (id : Nat) (ws : SocketId) (random : Bytes) (frame : Frame) :
    Attaches ws (webSocketMessage env now ctx state id ws random frame) := by
  unfold webSocketMessage
  split
  · exact attaches_append ((closePeerOf_within ctx state ws).attaches (by simp) ws)
      ((by simp : Within [.close] _).attaches (by simp) ws)
  · split
    · exact handleHello_attaches ..
    · exact handleHello_attaches ..
    · exact handleProof_attaches ..
    · exact (spliceFrame_within env now ctx state ws _ frame).attaches (by simp) ws

theorem replay_admission_kept (ctx : ContextId) (state : State) (script : List Act)
    (kept : ∀ ws value, Act.attach ws value ∈ script → state.admission ws = some value.admission)
    (ws : SocketId) : (replay ctx state script).admission ws = state.admission ws := by
  refine Script.replay_invariant (perform ctx) (fun after => after.admission ws = state.admission ws)
    script ?_ state rfl
  intro act member after same
  cases act with
  | attach target value =>
      by_cases here : ws = target
      · subst here
        rw [kept ws value member]
        simp [perform, State.admission]
      · rw [← same]
        simp [perform, State.admission, Function.update_of_ne here]
  | _ => exact same

theorem finishUpgrade_admission (env : Env) (now : Nat) (ctx : ContextId) (state : State)
    (ws other : SocketId) (value : Attachment)
    (member : Act.attach other value ∈ finishUpgrade env now ctx state ws) :
    other = ws ∧ state.admission other = some value.admission := by
  rcases List.mem_append.mp member with early | late
  · rcases List.mem_append.mp early with backfilled | evicted
    · unfold backfillTag at backfilled
      split at backfilled
      · rename_i attachment attached
        split at backfilled
        · cases List.mem_singleton.mp backfilled
          exact ⟨rfl, by simp [State.admission, attached]⟩
        · simp at backfilled
      · simp at backfilled
    · exact absurd ((evictExcessPreAuth_within ctx state).each _ evicted) (by simp)
  · exact absurd ((ensureAlarm_within now state).each _ late) (by simp)

theorem continuation_attaches (env : Env) (now : Nat) (ctx : ContextId) (state : State)
    (random : Bytes) (id : Nat) (await : Await) (free : await.concerns = none) (ws : SocketId) :
    Attaches ws (continuation env now ctx state random id await) := by
  cases await with
  | upgradeTag ws => simp [Await.concerns] at free
  | proofSignature check => simp [Await.concerns] at free
  | attestDigest call => exact (by simp [continuation] : Within [.suspend] _).attaches (by simp) ws
  | attestCheck call since => exact (finishAttest_within ..).attaches (by simp) ws
  | registerDigest call => exact (by simp [continuation] : Within [.suspend] _).attaches (by simp) ws
  | registerAssertion call =>
      exact (finishRegister_within ..).attaches
        (by simp) ws
  | deleteSignature call => exact (finishDelete_within ..).attaches (by simp) ws
  | deleteTag =>
      exact attaches_append ((teardownRoom_within ctx state _).attaches (by simp) ws)
        ((answer_within ..).attaches (by simp) ws)
  | responseTag => exact (Within.nil : Within [] _).attaches (by simp) ws

theorem finishProof_attaches (env : Env) (now : Nat) (ctx : ContextId) (state : State)
    (random : Bytes) (check : JoinCheck) :
    Attaches check.ws (finishProof env now ctx state random check) := by
  unfold finishProof
  split
  · exact attaches_append ((bumpActivity_within now state).attaches (by simp) _)
      (admit_attaches ..)
  · exact (reject_within ..).attaches (by simp) _

end Attachments

section Performed
variable {env : Env} {state : State} {event : Event} {met : Turn}

theorem Turns.pending_acts (turns : Turns env state event met) :
    pending met.acts <+: pending met.script := by
  have caught := turns.on_throw.pending_nil (by simp)
  unfold Turn.acts
  rw [pending_append]
  split
  · rw [caught, List.append_nil]
    exact pending_done _ _
  · rw [pending_nil, List.append_nil]
    exact pending_done _ _

theorem rests_acts {id : Nat} (turns : Turns env state event met)
    (rests : Rests id met.script) : Rests id met.acts := by
  have initial := turns.pending_acts
  rcases rests with none_ | ⟨await, one, free⟩
  · exact .inl (List.prefix_nil.mp (none_ ▸ initial))
  · rw [one] at initial
    rcases List.prefix_cons_iff.mp initial with none_ | ⟨rest, cut, short⟩
    · exact .inl none_
    · rw [List.prefix_nil.mp short] at cut
      exact .inr ⟨await, cut, free⟩

theorem acts_attaches {ws : SocketId} (turns : Turns env state event met)
    (only : Attaches ws met.script) : Attaches ws met.acts := by
  constructor
  intro other attachment member
  rcases turn_act member with ran | caught
  · exact only.only other attachment ran
  · exact absurd (turns.on_throw.each _ caught) (by simp)

end Performed
end Relay

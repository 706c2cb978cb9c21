import Mathlib.Data.List.NodupEquivFin
import CompanionRelay.WakeGuarantee
import CompanionRelay.SoleProof

/-!
The caps before admission. The challenge records are counted at the one handler that
stores them, after it has deleted the expired ones. The un-admitted sockets are counted
at the end of each upgrade only, so between two counts there are at most as many over the
cap as there are upgrades under way.
-/

namespace Relay

section Statement
variable (env : Env) (state : State)

def State.unadmitted (ws : SocketId) : Prop :=
  state.routable ws ∧ ∀ role, state.admission ws ≠ some (.admitted role)

def Await.isUpgrade : Await → Bool
  | .upgradeTag _ => true
  | _ => false

/-- The upgrades that wait for the hash of the room name. -/
def State.upgrades : Nat := state.suspended.countP (·.await.isUpgrade)

structure PreAuthCapped (events : List Event) : Prop where
  challenges : (run env events).store.challenges.keys.length ≤ maxOutstandingChallenges
  sockets : (∀ ws, (run env events).upgrading ws = false) → ∀ waiting : Finset SocketId,
    (∀ ws ∈ waiting, (run env events).unadmitted ws) → waiting.card ≤ maxPreauthSockets
  oldest : ∀ met ∈ steps env events, ∀ ws code,
    .close ws code "too many pending" ∈ acts env met.1 met.2 →
      (∀ role, (step env met.1 met.2).admission ws ≠ some (.admitted role)) ∧
      ∀ kept, (step env met.1 met.2).unadmitted kept →
        connectedAt met.1 ws ≤ connectedAt met.1 kept

end Statement

section Challenges
variable {env : Env} {state : State} {event : Event} {store : Store} {script : List Act}

theorem challenges_after {act : Act} (plain : act.verb ≠ .putChallenge) :
    (store.after act).challenges.keys.length ≤ store.challenges.keys.length := by
  cases act with
  | put row =>
      cases row with
      | challenge => simp at plain
      | _ => exact Nat.le_refl _
  | delete key =>
      cases key with
      | challenge challenge =>
          simp only [Store.after, Store.delete, AList.keys_erase]
          exact List.length_erase_le
      | _ => exact Nat.le_refl _
  | deleteAll => exact Nat.zero_le _
  | _ => exact Nat.le_refl _

theorem challenges_kept (plain : ∀ act ∈ script, act.verb ≠ .putChallenge) :
    (script.foldl Store.after store).challenges.keys.length ≤ store.challenges.keys.length := by
  induction script generalizing store with
  | nil => exact Nat.le_refl _
  | cons act rest ih =>
      rw [List.forall_mem_cons] at plain
      exact (ih plain.2).trans (challenges_after plain.1)

theorem unexpired_length {Rec : Type} (now : Nat) (expiresAt : Rec → Nat) (table swept : Table Rec)
    (left : ∀ key ∈ swept, key ∈ table ∧ key ∉ expired now expiresAt table) :
    swept.keys.length ≤ liveCount now expiresAt table := by
  have inside : swept.keys ⊆
      (table.entries.filter fun row => !decide (expiresAt row.2 < now)).map (·.1) := by
    intro key member
    obtain ⟨there, live⟩ := left key (AList.mem_keys.mpr member)
    obtain ⟨row, stored, rfl⟩ := List.mem_map.mp (AList.mem_keys.mp there)
    refine List.mem_map.mpr ⟨row, List.mem_filter.mpr ⟨stored, ?_⟩, rfl⟩
    by_contra gone
    apply live
    refine List.mem_map.mpr ⟨row, List.mem_filter.mpr ⟨stored, ?_⟩, rfl⟩
    simpa using gone
  have short := (swept.keys_nodup.subperm inside).length_le
  rwa [List.length_map] at short

/-- The start of handleAttestChallenge, which deletes the expired challenges. -/
def sweepChallenges (now : Nat) (state : State) : List Act :=
  .list :: (expired now id state.store.challenges).map (.delete <| .challenge ·)

theorem sweepChallenges_within (now : Nat) (state : State) :
    Within [.read, .deleteChallenge] (sweepChallenges now state) :=
  Within.cons_iff.mpr ⟨by simp, Within.map_of (by simp)⟩

theorem sweepChallenges_left (now : Nat) (state : State) :
    ((sweepChallenges now state).foldl Store.after state.store).challenges.keys.length ≤
      liveCount now id state.store.challenges := by
  apply unexpired_length
  intro key member
  have light : ∀ row, .put row ∈ sweepChallenges now state → row.ephemeral = false :=
    fun row inside => absurd inside ((sweepChallenges_within now state).lacks (by cases row <;> simp))
  have kept : ((sweepChallenges now state).foldl Store.after state.store).recorded
      (.challenge key) := member
  obtain ⟨before, undeleted, _⟩ := recorded_fold light kept
  refine ⟨before, fun gone => undeleted ?_⟩
  exact List.mem_cons_of_mem _ (List.mem_map.mpr ⟨key, gone, rfl⟩)

theorem handleAttestChallenge_cases (now reqId : Nat) (state : State) (random : Bytes) :
    Within [.read, .deleteChallenge, .reply, .suspend]
        (handleAttestChallenge now state reqId random) ∨
      liveCount now id state.store.challenges < maxOutstandingChallenges ∧ ∃ rest,
        Within [.getAlarm, .setAlarm, .reply, .suspend] rest ∧
        handleAttestChallenge now state reqId random = sweepChallenges now state ++
          .put (.challenge (b64 random) (now + attestChallengeTtlMs)) :: rest := by
  unfold handleAttestChallenge
  by_cases full : liveCount now id state.store.challenges ≥ maxOutstandingChallenges
  · left
    rw [if_pos full, Within.append_iff]
    exact ⟨(sweepChallenges_within now state).mono (by simp), (answer_within ..).mono (by simp)⟩
  · right
    rw [if_neg full]
    refine ⟨Nat.lt_of_not_le full, ensureAlarm now state ++
      answer reqId .challenge 200 (.challenge (b64 random)), ?_, rfl⟩
    exact Within.append_iff.mpr ⟨(ensureAlarm_within now state).mono (by simp),
      (answer_within ..).mono (by simp)⟩

theorem challenges_put (challenge : String) (expiresAt : Nat) :
    (store.put (.challenge challenge expiresAt)).challenges.keys.length ≤
      store.challenges.keys.length + 1 := by
  simp only [Store.put, AList.keys_insert, List.length_cons]
  exact Nat.succ_le_succ List.length_erase_le

-- The put of a challenge comes after the deletes of all that have expired.
theorem handleAttestChallenge_capped (now reqId : Nat) (state : State) (random : Bytes)
    (fault : Option Nat)
    (capped : state.store.challenges.keys.length ≤ maxOutstandingChallenges) :
    ((done fault (handleAttestChallenge now state reqId random)).foldl Store.after
      state.store).challenges.keys.length ≤ maxOutstandingChallenges := by
  have quiet := sweepChallenges_within now state
  rcases handleAttestChallenge_cases now reqId state random with
    refuses | ⟨room, rest, after, shape⟩
  · exact (challenges_kept fun act member =>
      refuses.avoids (by simp) act (Script.done_subset _ _ member)).trans capped
  · rw [shape]
    let put := Act.put (.challenge (b64 random) (now + attestChallengeTtlMs))
    by_cases performed : put ∈ done fault (sweepChallenges now state ++ put :: rest)
    · obtain ⟨tail, whole, short⟩ : ∃ tail, done fault (sweepChallenges now state ++ put :: rest) =
          sweepChallenges now state ++ put :: tail ∧ tail <+: rest :=
        Script.done_through _ _ (quiet.lacks (by simp [put])) performed
      rw [whole, List.foldl_append, List.foldl_cons]
      calc _ ≤ _ := challenges_kept fun act member =>
                after.avoids (by simp) act (short.subset member)
        _ ≤ _ := challenges_put _ _
        _ ≤ liveCount now id state.store.challenges + 1 :=
          Nat.succ_le_succ (sweepChallenges_left now state)
        _ ≤ maxOutstandingChallenges := room
    · refine (challenges_kept fun act member stores => ?_).trans capped
      rcases List.mem_append.mp (Script.done_subset _ _ member) with early | late
      · exact quiet.avoids (by simp) act early stores
      · rcases List.mem_cons.mp late with rfl | later
        · exact performed member
        · exact after.avoids (by simp) act later stores

theorem footprint_challenges (unasked : ∀ now random fault,
      event ≠ .request now .challenge random fault) :
    Verb.putChallenge ∉ catchVerbs ++ footprint env state event := by
  cases event with
  | request now request random fault =>
      cases request with
      | challenge => exact absurd rfl (unasked now random fault)
      | register body =>
          simp only [footprint, Request.verbs]
          split <;> simp
      | _ => simp [footprint]
  | run now =>
      simp only [footprint]
      split <;> simp
  | resume now id random fault =>
      cases found : state.find id with
      | none => simp [footprint, found]
      | some handler =>
          simp only [footprint, found, Option.map_some, Option.getD_some]
          cases handler.await <;> simp
  | _ => simp [footprint]

theorem step_challenges (capped : state.store.challenges.keys.length ≤ maxOutstandingChallenges) :
    (step env state event).store.challenges.keys.length ≤ maxOutstandingChallenges := by
  rw [step_store]
  by_cases asked : ∃ now random fault, event = .request now .challenge random fault
  · obtain ⟨now, random, fault, rfl⟩ := asked
    rcases step_met env state (.request now .challenge random fault) with
      ⟨none_, _⟩ | ⟨met, turns, _, performed, _⟩
    · rw [none_]
      exact capped
    · rw [performed]
      cases turns with
      | request _ _ _ _ ctx resident =>
          have asks := handleAttestChallenge_capped now state.nextId state.enter random
            fault capped
          rw [Turn.acts, List.foldl_append]
          refine (challenges_kept fun act member => ?_).trans asks
          split at member
          · obtain rfl := List.mem_singleton.mp member
            simp
          · simp at member
  · push Not at asked
    exact (challenges_kept ((acts_within env state event).avoids
      (footprint_challenges asked))).trans capped

end Challenges

section Closes

/-- The closes of the script carry a code and a reason of the table. -/
structure ClosesFor (table : List (Nat × String)) (script : List Act) : Prop where
  each : ∀ ws code reason, .close ws code reason ∈ script → (code, reason) ∈ table

namespace ClosesFor

variable {table wider : List (Nat × String)} {first second : List Act} {act : Act}

theorem iff_forall : ClosesFor table first ↔
    ∀ ws code reason, .close ws code reason ∈ first → (code, reason) ∈ table :=
  ⟨ClosesFor.each, ClosesFor.mk⟩

@[simp] theorem nil : ClosesFor table [] := by simp [iff_forall]

@[simp] theorem cons_iff : ClosesFor table (act :: second) ↔
    (∀ ws code reason, act = .close ws code reason → (code, reason) ∈ table) ∧
      ClosesFor table second := by
  simp [iff_forall, or_imp, forall_and, eq_comm]

@[simp] theorem append_iff : ClosesFor table (first ++ second) ↔
    ClosesFor table first ∧ ClosesFor table second := by
  simp [iff_forall, or_imp, forall_and]

theorem mono (carries : ClosesFor table first) (wide : table ⊆ wider) : ClosesFor wider first :=
  ⟨fun ws code reason member => wide (carries.each ws code reason member)⟩

theorem map (sockets : List SocketId) {code : Nat} {reason : String}
    (listed : (code, reason) ∈ table) : ClosesFor table (sockets.map (.close · code reason)) := by
  constructor
  intro ws other text member
  obtain ⟨_, _, same⟩ := List.mem_map.mp member
  cases same
  exact listed

theorem of_within {verbs : List Verb} (fits : Within verbs first) (missing : Verb.close ∉ verbs) :
    ClosesFor table first :=
  ⟨fun _ _ _ member => absurd member (fits.lacks missing)⟩

end ClosesFor

variable (env : Env) (now : Nat) (ctx : ContextId) (state : State)

def refusalCloses : List (Nat × String) :=
  [(1008, "rate limited"), (1008, "bad proof"), (1008, "signature required"),
    (1008, "bad signature"), (1008, "ticket required"), (1008, "bad ticket"),
    (1008, "mac offline"), (1008, "slot occupied")]

def proofCloses : List (Nat × String) :=
  [(1000, "displaced"), (1000, "pairing cycle cap")] ++ refusalCloses

def frameCloses : List (Nat × String) :=
  [(1008, "bad hello"), (1009, "frame too large"), (1008, "frame rate exceeded"),
    (1008, "daily quota exceeded"), (1001, "peer gone")] ++ proofCloses

theorem reject_closes {ws : SocketId} {error : String} {table : List (Nat × String)}
    (listed : (1008, error) ∈ table) : ClosesFor table (reject ws error) := by
  simp [reject, listed]

theorem handleHello_closes (ws : SocketId) (random : Bytes) (frame : Frame) :
    ClosesFor [(1008, "bad hello")] (handleHello env state ws random frame) := by
  unfold handleHello
  split
  · split
    · dsimp only
      split
      · split <;> simp
      · simp
    · simp
    · simp
  · simp

theorem takeSlot_closes (random : Bytes) (ws : SocketId) (role : Role)
    (attest : Option AttestedKey) :
    ClosesFor proofCloses (takeSlot env now ctx state random ws role attest) := by
  unfold takeSlot
  dsimp only
  split
  · exact reject_closes (by simp [proofCloses, refusalCloses])
  · rw [ClosesFor.append_iff, ClosesFor.cons_iff]
    refine ⟨ClosesFor.map _ (by simp [proofCloses]), by simp, ?_⟩
    cases role with
    | mac => simp
    | phone =>
        rw [ClosesFor.append_iff, ClosesFor.cons_iff]
        exact ⟨⟨by simp, .of_within (ensureAlarm_within now state) (by simp)⟩, by simp⟩

theorem admit_closes (random : Bytes) (ws : SocketId) (role : Role) (attest : Option AttestedKey) :
    ClosesFor proofCloses (admitSocket env now ctx state random ws role attest) := by
  have take := takeSlot_closes env now ctx state random ws role attest
  unfold admitSocket
  dsimp only
  rw [ClosesFor.cons_iff]
  refine ⟨by simp, ?_⟩
  cases role with
  | mac =>
      dsimp only
      split
      · exact take
      · exact ClosesFor.cons_iff.mpr ⟨by simp, take⟩
  | phone =>
      dsimp only
      split
      · exact reject_closes (by simp [proofCloses, refusalCloses])
      · split
        · exact take
        · rw [ClosesFor.cons_iff]
          refine ⟨by simp, ?_⟩
          split
          · rw [teardownRoom, ClosesFor.append_iff]
            exact ⟨ClosesFor.map _ (by simp [proofCloses]), by simp⟩
          · exact ClosesFor.cons_iff.mpr ⟨by simp, take⟩

theorem pairingProof_closes (random : Bytes) (ws : SocketId) (role : Role) (proof : Json) :
    ClosesFor proofCloses (pairingProof env now ctx state random ws role proof) := by
  have rejected : ∀ {error}, (1008, error) ∈ refusalCloses →
      ClosesFor proofCloses (reject ws error) := fun listed =>
    reject_closes (List.mem_append_right _ listed)
  have admitted := fun attest => admit_closes env now ctx state random ws role attest
  unfold pairingProof
  split
  · cases role with
    | mac => exact admitted _
    | phone =>
        dsimp only
        split
        · simp
        · exact rejected (by simp [refusalCloses])
        · rw [ClosesFor.cons_iff]
          refine ⟨by simp, ?_⟩
          split
          · exact rejected (by simp [refusalCloses])
          · split
            · exact rejected (by simp [refusalCloses])
            · exact ClosesFor.cons_iff.mpr ⟨by simp, admitted _⟩
  · exact admitted _

theorem handleProof_closes (id : Nat) (ws : SocketId) (role : Role) (nonce : String)
    (random : Bytes) (frame : Frame) :
    ClosesFor proofCloses (handleProof env now ctx state id ws role nonce random frame) := by
  have rejected : ∀ {error}, (1008, error) ∈ refusalCloses →
      ClosesFor proofCloses (reject ws error) := fun listed =>
    reject_closes (List.mem_append_right _ listed)
  unfold handleProof
  dsimp only
  rw [ClosesFor.cons_iff]
  refine ⟨by simp, ?_⟩
  split
  · exact rejected (by simp [refusalCloses])
  · split
    · exact rejected (by simp [refusalCloses])
    · rw [ClosesFor.cons_iff]
      refine ⟨by simp, ?_⟩
      split
      · exact pairingProof_closes ..
      · split
        · simp
        · exact rejected (by simp [refusalCloses])
        · split <;> simp

theorem finishProof_closes (random : Bytes) (check : JoinCheck) :
    ClosesFor proofCloses (finishProof env now ctx state random check) := by
  unfold finishProof
  split
  · rw [ClosesFor.append_iff]
    exact ⟨.of_within (bumpActivity_within now state) (by simp), admit_closes ..⟩
  · exact reject_closes (by simp [proofCloses, refusalCloses])

theorem closePeerOf_closes (ws : SocketId) :
    ClosesFor [(1001, "peer gone")] (closePeerOf ctx state ws) := by
  unfold closePeerOf
  split
  · exact ClosesFor.map _ (by simp)
  · simp

theorem spliceFrame_closes (ws : SocketId) (role : Role) (frame : Frame) :
    ClosesFor frameCloses (spliceFrame env now ctx state ws role frame) := by
  have peer : ClosesFor frameCloses (closePeerOf ctx state ws) :=
    (closePeerOf_closes ctx state ws).mono (by simp [frameCloses])
  unfold spliceFrame
  dsimp only
  rw [ClosesFor.cons_iff]
  refine ⟨by simp, ?_⟩
  split
  · rw [ClosesFor.append_iff]
    exact ⟨peer, by simp [frameCloses]⟩
  · rw [ClosesFor.append_iff]
    constructor
    · simp only [meterQuota, ClosesFor.append_iff]
      refine ⟨⟨by split <;> simp, by split <;> simp⟩, ?_⟩
      split
      · rw [ClosesFor.append_iff]
        exact ⟨by simp, ClosesFor.map _ (by simp [frameCloses])⟩
      · split <;> simp
    · split
      · simp
      · exact .of_within (forward_within ctx state ws role frame) (by simp)

-- The codes and reasons with which a frame can have sockets closed.
theorem webSocketMessage_closes (id : Nat) (ws : SocketId) (random : Bytes) (frame : Frame) :
    ClosesFor frameCloses (webSocketMessage env now ctx state id ws random frame) := by
  unfold webSocketMessage
  split
  · rw [ClosesFor.append_iff]
    exact ⟨(closePeerOf_closes ctx state ws).mono (by simp [frameCloses]), by simp [frameCloses]⟩
  · split
    · exact (handleHello_closes ..).mono (by simp [frameCloses])
    · exact (handleHello_closes ..).mono (by simp [frameCloses])
    · exact (handleProof_closes ..).mono (List.subset_append_right _ _)
    · exact spliceFrame_closes ..

theorem alarm_closes (seen : List SocketId) :
    ClosesFor [(1008, "admission timeout"), (1000, "room expired")]
      (alarm env now ctx state seen) := by
  simp only [alarm, ClosesFor.append_iff, ClosesFor.cons_iff]
  refine ⟨⟨⟨ClosesFor.map _ (by simp), .of_within (pruneExpired_within now state) (by simp)⟩,
    by simp, ?_⟩, ?_⟩
  · split
    · split <;> simp
    · simp
  · split
    · rw [teardownRoom, ClosesFor.append_iff]
      exact ⟨ClosesFor.map _ (by simp), by simp⟩
    · split <;> simp

end Closes

section Sockets
variable {env : Env} {state : State} {event : Event} {met : Turn}

theorem upgrades_none (done_ : ∀ ws, state.upgrading ws = false) : state.upgrades = 0 := by
  refine List.countP_eq_zero.mpr fun handler member upgrade => ?_
  obtain ⟨id, ctx, await⟩ := handler
  cases await with
  | upgradeTag ws =>
      have busy : state.upgrading ws = true :=
        List.any_eq_true.mpr ⟨_, member, by simp⟩
      rw [done_ ws] at busy
      exact Bool.noConfusion busy
  | _ => simp [Await.isUpgrade] at upgrade

-- A socket that waits after a step waited before it, unless the step connects it.
theorem unadmitted_before (wired : Wired env state) {ws : SocketId}
    (unfresh : ∀ now, event ≠ .connect now ws) (waits : (step env state event).unadmitted ws) :
    state.unadmitted ws := by
  refine ⟨?_, fun role admitted => waits.2 role (admitted_stays wired admitted)⟩
  rcases step_cases env state event with ⟨_, same⟩ | ⟨met, turns, _, result⟩
  · rw [← same]
    exact waits.1
  · exact (turns.routable_before unfresh (result ▸ waits.1)).1

theorem Wired.found (wired : Wired env state) {handler : Suspended}
    (member : handler ∈ state.suspended) : state.find handler.id = some handler := by
  cases found : state.find handler.id with
  | none =>
      have absent := List.find?_eq_none.mp found handler member
      simp at absent
  | some other =>
      obtain ⟨there, same⟩ := mem_find found
      rw [List.inj_on_of_nodup_map wired.distinct there member same]

theorem upgrades_kept (wired : Wired env state) (turns : Turns env state event met)
    (unfinished : ∀ now id random fault ctx ws, event = .resume now id random fault →
      state.find id ≠ some ⟨id, ctx, .upgradeTag ws⟩)
    (running : event.isRestart = false) : state.upgrades ≤ met.result.upgrades := by
  have grows : met.start.upgrades ≤ met.result.upgrades := by
    unfold State.upgrades
    rw [turns.result_suspended, List.countP_append]
    exact Nat.le_add_right _ _
  refine le_trans (le_of_eq ?_) grows
  unfold State.upgrades
  rcases turns.start_suspended with ⟨now, id, random, fault, rfl, left⟩ | ⟨restarts, _⟩ | left
  · rw [left, List.countP_filter]
    refine List.countP_congr fun handler member => ?_
    obtain ⟨number, ctx, await⟩ := handler
    cases await with
    | upgradeTag ws =>
        have apart : number ≠ id := by
          rintro rfl
          exact unfinished now number random fault ctx ws rfl (wired.found member)
        simp [apart]
    | _ => simp [Await.isUpgrade]
  · rw [running] at restarts
    exact Bool.noConfusion restarts
  · rw [left]

def oldestFirst (ctx : ContextId) (state : State) : List SocketId :=
  (preAuth ctx state).insertionSort fun x y => connectedAt state x ≤ connectedAt state y

/-- The sockets that an eviction keeps. -/
def newestPreAuth (ctx : ContextId) (state : State) : List SocketId :=
  (oldestFirst ctx state).drop ((oldestFirst ctx state).length - maxPreauthSockets)

theorem closes_evictExcessPreAuth (ctx : ContextId) (state : State) :
    closes (evictExcessPreAuth ctx state) =
      (oldestFirst ctx state).take ((oldestFirst ctx state).length - maxPreauthSockets) :=
  closes_map _ _ _

theorem newestPreAuth_length (ctx : ContextId) (state : State) :
    (newestPreAuth ctx state).length ≤ maxPreauthSockets := by
  simp only [newestPreAuth, List.length_drop]
  omega

theorem evicted_or_newest {ctx : ContextId} {ws : SocketId} (waits : ws ∈ preAuth ctx state) :
    ws ∈ closes (evictExcessPreAuth ctx state) ∨ ws ∈ newestPreAuth ctx state := by
  rw [closes_evictExcessPreAuth, newestPreAuth, ← List.mem_append, List.take_append_drop]
  exact (List.mem_insertionSort _).mpr waits

theorem evicted_preAuth {ctx : ContextId} {ws : SocketId}
    (evicted : ws ∈ closes (evictExcessPreAuth ctx state)) : ws ∈ preAuth ctx state := by
  rw [closes_evictExcessPreAuth] at evicted
  exact (List.mem_insertionSort _).mp (List.mem_of_mem_take evicted)

theorem evicted_oldest {ctx : ContextId} {old new : SocketId}
    (evicted : old ∈ closes (evictExcessPreAuth ctx state)) (kept : new ∈ newestPreAuth ctx state) :
    connectedAt state old ≤ connectedAt state new := by
  rw [closes_evictExcessPreAuth] at evicted
  have sorted : (oldestFirst ctx state).Pairwise
      fun x y => connectedAt state x ≤ connectedAt state y :=
    List.pairwise_insertionSort _ _
  rw [← List.take_append_drop ((oldestFirst ctx state).length - maxPreauthSockets)
    (oldestFirst ctx state), List.pairwise_append] at sorted
  exact sorted.2.2 old evicted new kept

theorem steady_verbs {act : Act} (plain : act.verb ∈ [Verb.attach, .close]) :
    act.isStorage = false ∧ act.isThrow = false := by
  cases act with
  | put row => cases row <;> simp at plain
  | delete key => cases key <;> simp at plain
  | send ws message => exact ⟨rfl, rfl⟩
  | reply id endpoint status body => exact ⟨rfl, rfl⟩
  | _ => first | exact ⟨rfl, rfl⟩ | simp at plain

theorem Turns.finishes {now id : Nat} {random : Bytes} {fault : Option Nat} {ctx : ContextId}
    {ws : SocketId} (found : state.find id = some ⟨id, ctx, .upgradeTag ws⟩)
    (turns : Turns env state (.resume now id random fault) met) :
    met.ctx = ctx ∧ met.start = state.wake id none ∧
      met.script = finishUpgrade env now ctx met.start ws := by
  cases turns with
  | resume _ _ _ _ handler same quiet =>
      obtain rfl : handler = ⟨id, ctx, .upgradeTag ws⟩ := by
        rw [found] at same
        exact (Option.some.inj same).symm
      exact ⟨rfl, rfl, rfl⟩

-- The end of an upgrade closes what it evicts, since no storage call comes before.
theorem Turns.evicts {now id : Nat} {random : Bytes} {fault : Option Nat} {ctx : ContextId}
    {ws : SocketId} (found : state.find id = some ⟨id, ctx, .upgradeTag ws⟩)
    (turns : Turns env state (.resume now id random fault) met) :
    ∀ old ∈ closes (evictExcessPreAuth ctx met.start), old ∈ closes met.acts := by
  obtain ⟨_, _, script⟩ := turns.finishes found
  let front := backfillTag env met.start ws ++ evictExcessPreAuth ctx met.start
  have fits : Within [.attach, .close] front :=
    Within.append_iff.mpr ⟨(backfillTag_within env met.start ws).mono (by simp),
      (evictExcessPreAuth_within ctx met.start).mono (by simp)⟩
  have performed : front <+: done met.fault met.script := by
    rw [script, finishUpgrade]
    exact Script.done_front _ _ met.fault front _ fun act member => steady_verbs (fits.each act member)
  intro old evicted
  obtain ⟨code, reason, member⟩ := mem_closes.mp evicted
  refine mem_closes.mpr ⟨code, reason, ?_⟩
  rw [Turn.acts]
  exact List.mem_append_left _ (performed.subset (List.mem_append_right _ member))

theorem Turns.keeps_newest (wired : Wired env state) {now id : Nat} {random : Bytes}
    {fault : Option Nat} {ctx : ContextId} {ws : SocketId}
    (found : state.find id = some ⟨id, ctx, .upgradeTag ws⟩)
    (turns : Turns env state (.resume now id random fault) met)
    (result : step env state (.resume now id random fault) = met.result) {kept : SocketId}
    (waits : met.result.unadmitted kept) : kept ∈ newestPreAuth ctx met.start := by
  have pinned : state.live = some ctx := wired.pinned _ (mem_find found).1 fun _ => rfl
  have unaccepted : ∀ other, Act.accept other ∉ met.acts := by
    intro other member
    obtain ⟨_, _, connects⟩ := turns.connects member
    exact Event.noConfusion connects
  obtain ⟨_, there, open_⟩ := turns.result_routable unaccepted waits.1
  have anchor := (turns.wired_start wired).anchored _ kept there
  have before : state.unadmitted kept :=
    unadmitted_before wired (fun _ same => Event.noConfusion same) (result ▸ waits)
  have same : met.start.admission kept = state.admission kept :=
    admission_eq _ _ _ (by rw [turns.start_keeps.2.2])
  rw [(turns.finishes found).2.1] at anchor
  obtain rfl : state.home kept = ctx := by
    have resident := anchor.1.symm.trans pinned
    simpa using resident
  have waiting : kept ∈ preAuth (state.home kept) met.start := by
    refine (mem_preAuth _ _ kept).mpr ⟨there, ?_, fun role => ?_⟩
    · rw [same]
      simpa [State.admission, State.wake] using anchor.2.2
    · rw [same]
      exact before.2 role
  rcases evicted_or_newest waiting with evicted | newest
  · exact absurd (turns.evicts found kept evicted) open_
  · exact newest

theorem Turns.finished_admission {now id : Nat} {random : Bytes} {fault : Option Nat}
    {ctx : ContextId} {ws : SocketId} (found : state.find id = some ⟨id, ctx, .upgradeTag ws⟩)
    (turns : Turns env state (.resume now id random fault) met) (other : SocketId) :
    met.result.admission other = met.start.admission other := by
  have replayed : (replay met.ctx met.start met.acts).admission other =
      met.start.admission other := by
    refine replay_admission_kept _ _ _ (fun target value member => ?_) other
    rcases turn_act member with ran | caught
    · rw [(turns.finishes found).2.2] at ran
      exact (finishUpgrade_admission _ _ _ _ _ _ _ ran).2
    · exact absurd caught (turns.on_throw.lacks (by simp))
  rw [← replayed, Turn.result]
  apply admission_eq
  rcases turns.finish_keeps (replay met.ctx met.start met.acts) with same | evicted
  · rw [same]
  · rw [evicted, maybe_evict_attachment]

/-- There are at most as many waiting sockets over the cap as there are upgrades. -/
def WithinCap (state : State) : Prop :=
  ∀ waiting : Finset SocketId, (∀ ws ∈ waiting, state.unadmitted ws) →
    waiting.card ≤ maxPreauthSockets + state.upgrades

theorem upgrades_connect (now : Nat) (ws : SocketId)
    (turns : Turns env state (.connect now ws) met) : met.result.upgrades = state.upgrades + 1 := by
  have suspended := turns.result_suspended
  cases turns with
  | connect _ _ ctx resident unseen =>
      unfold State.upgrades
      rw [suspended, List.countP_append, Turn.acts_whole rfl]
      rfl

theorem within_cap_step (wired : Wired env state) (capped : WithinCap state) :
    WithinCap (step env state event) := by
  intro waiting waits
  rcases step_met env state event with ⟨_, same⟩ | ⟨met, turns, _, _, result⟩
  · rw [same] at waits ⊢
    exact capped waiting waits
  · by_cases connects : ∃ now ws, event = .connect now ws
    · obtain ⟨now, ws, rfl⟩ := connects
      have older : ∀ other ∈ waiting.erase ws, state.unadmitted other := by
        intro other member
        obtain ⟨apart, inside⟩ := Finset.mem_erase.mp member
        refine unadmitted_before wired ?_ (waits other inside)
        rintro _ same
        cases same
        exact apart rfl
      have before := capped _ older
      have more := Finset.pred_card_le_card_erase (s := waiting) (a := ws)
      rw [result, upgrades_connect now ws turns]
      omega
    · push Not at connects
      have older : ∀ other ∈ waiting, state.unadmitted other := fun other inside =>
        unadmitted_before wired (fun now => connects now other) (waits other inside)
      rw [result] at waits ⊢
      by_cases restarts : event.isRestart = true
      · have none_ : waiting = ∅ := by
          refine Finset.eq_empty_of_forall_notMem fun other inside => ?_
          cases turns with
          | restart now => exact restart_unroutable now state other (waits other inside).1
          | _ => simp [Event.isRestart] at restarts
        simp [none_]
      · by_cases finishes : ∃ now id random fault ctx ws, event = .resume now id random fault ∧
            state.find id = some ⟨id, ctx, .upgradeTag ws⟩
        · obtain ⟨now, id, random, fault, ctx, ws, rfl, found⟩ := finishes
          have inside : waiting ⊆ (newestPreAuth ctx met.start).toFinset := fun other member =>
            List.mem_toFinset.mpr (turns.keeps_newest wired found result (waits other member))
          calc waiting.card ≤ (newestPreAuth ctx met.start).toFinset.card :=
                Finset.card_le_card inside
            _ ≤ (newestPreAuth ctx met.start).length := List.toFinset_card_le _
            _ ≤ maxPreauthSockets := newestPreAuth_length ctx met.start
            _ ≤ maxPreauthSockets + met.result.upgrades := Nat.le_add_right _ _
        · have kept := upgrades_kept wired turns
            (fun now id random fault ctx ws same found =>
              finishes ⟨now, id, random, fault, ctx, ws, same, found⟩)
            (Bool.eq_false_iff.mpr restarts)
          exact (capped waiting older).trans (Nat.add_le_add_left kept _)

theorem Turns.evicting (turns : Turns env state event met) {ws : SocketId} {code : Nat}
    (member : .close ws code "too many pending" ∈ met.acts) :
    ∃ now id random fault ctx opened, event = .resume now id random fault ∧
      state.find id = some ⟨id, ctx, .upgradeTag opened⟩ ∧
      ws ∈ closes (evictExcessPreAuth ctx met.start) := by
  have none_ : ∀ {table script}, ClosesFor table script →
      (∀ other, (other, "too many pending") ∉ table) → .close ws code "too many pending" ∉ script :=
    fun carries unlisted inside => unlisted _ (carries.each _ _ _ inside)
  have quiet : ∀ {verbs script}, Within verbs script → Verb.close ∉ verbs →
      .close ws code "too many pending" ∉ script := fun fits missing => fits.lacks missing
  have ran : .close ws code "too many pending" ∈ met.script := by
    rcases turn_act member with ran | caught
    · exact ran
    · exfalso
      cases turns with
      | task now ws task rest drained free next => cases task <;> simp [taskTurn] at caught
      | resume now id random fault handler found quiet =>
          cases await : handler.await <;> simp [await, Await.onThrow] at caught
      | _ => simp [alarmTurn] at caught
  cases turns with
  | resume now id random fault handler found quiet_ =>
      obtain ⟨_, rfl⟩ := mem_find found
      obtain ⟨id, ctx, await⟩ := handler
      have closing : Verb.close ∈ await.verbs :=
        (continuation_within env now ctx (state.wake id await.drains) id random await).each _ ran
      cases await with
      | upgradeTag opened =>
          refine ⟨now, id, random, fault, ctx, opened, rfl, found, ?_⟩
          rcases List.mem_append.mp ran with early | late
          · rcases List.mem_append.mp early with backfilled | evicted
            · exact absurd backfilled (quiet (backfillTag_within ..) (by simp))
            · exact mem_closes.mpr ⟨_, _, evicted⟩
          · exact absurd late (quiet (ensureAlarm_within ..) (by simp))
      | proofSignature check =>
          exact absurd ran (none_ (finishProof_closes ..) (by simp [proofCloses, refusalCloses]))
      | deleteTag =>
          rcases List.mem_append.mp ran with torn | answered
          · rcases List.mem_append.mp torn with closed | wiped
            · obtain ⟨_, _, same⟩ := List.mem_map.mp closed
              simp at same
            · simp at wiped
          · exact absurd answered (quiet (answer_within ..) (by simp))
      | _ => simp at closing
  | task now other task rest drained free next =>
      cases task with
      | message frame random fault =>
          exact absurd ran (none_ (webSocketMessage_closes ..)
            (by simp [frameCloses, proofCloses, refusalCloses]))
      | _ => exact absurd ran (none_ (closePeerOf_closes ..) (by simp))
  | connect now opened ctx resident unseen => simp [handleUpgrade] at ran
  | request now request random fault ctx resident =>
      refine absurd ran (quiet (handleHttp_within ..) ?_)
      cases request <;> simp
      split <;> simp
  | fire => exact absurd ran (none_ (alarm_closes ..) (by simp))
  | alarm => exact absurd ran (none_ (alarm_closes ..) (by simp))
  | drain =>
      obtain ⟨_, _, same⟩ := List.mem_map.mp ran
      simp at same
  | _ => simp at ran

end Sockets

section Capped
variable (env : Env)

theorem oldest_step {state : State} {event : Event} (wired : Wired env state) {ws : SocketId}
    {code : Nat} (member : .close ws code "too many pending" ∈ acts env state event) :
    (∀ role, (step env state event).admission ws ≠ some (.admitted role)) ∧
      ∀ kept, (step env state event).unadmitted kept →
        connectedAt state ws ≤ connectedAt state kept := by
  rcases step_met env state event with ⟨none_, _⟩ | ⟨met, turns, _, performed, result⟩
  · rw [none_] at member
    exact absurd member List.not_mem_nil
  · rw [performed] at member
    obtain ⟨now, id, random, fault, ctx, opened, rfl, found, evicted⟩ := turns.evicting member
    obtain ⟨here, start, script⟩ := turns.finishes found
    have same : ∀ other, connectedAt met.start other = connectedAt state other := by
      intro other
      rw [connectedAt, connectedAt, turns.start_keeps.2.2]
    constructor
    · have before := ((mem_preAuth _ _ ws).mp (evicted_preAuth evicted)).2.2
      rw [result, turns.finished_admission found ws]
      exact before
    · intro kept waits
      rw [← same, ← same]
      exact evicted_oldest evicted (turns.keeps_newest wired found result (result ▸ waits))

/-- In every run the challenge records and the sockets before admission are capped, and the
sockets that exceed the cap are the oldest. -/
theorem preauth_capped (events : List Event) : PreAuthCapped env events where
  challenges := by
    refine Machine.run_invariant (step env)
      (fun state => state.store.challenges.keys.length ≤ maxOutstandingChallenges)
      (fun _ _ => True) (fun state event capped _ => step_challenges capped) initial ?_ events
      (fun _ _ => trivial)
    exact Nat.zero_le _
  sockets := by
    intro done_ waiting waits
    have capped : Wired env (run env events) ∧ WithinCap (run env events) := by
      refine Machine.run_invariant (step env) (fun state => Wired env state ∧ WithinCap state)
        (fun _ _ => True) (fun state event holds _ => ⟨wired_step holds.1,
          within_cap_step holds.1 holds.2⟩) initial ?_ events (fun _ _ => trivial)
      refine ⟨Wired.initial env, fun waiting waits => ?_⟩
      have none_ : waiting = ∅ := Finset.eq_empty_of_forall_notMem fun ws inside =>
        absurd (waits ws inside).1 List.not_mem_nil
      simp [none_]
    have short := capped.2 waiting waits
    rwa [upgrades_none done_] at short
  oldest met member ws code closed :=
    oldest_step env (wired_steps env events met member) closed

end Capped

end Relay

import CompanionRelay.PairingBudget
import CompanionRelay.WakeGuarantee
import CompanionRelay.WipeBarrier

/-!
What is left of a room that was never established. alarm() prunes tickets, tokens and
challenges; the other rows only a wipe removes. A room that has gone quiet keeps a row
exactly when a step since its last wipe has stored one of those.
-/

namespace Relay

/-- The room's sockets have gone, its ephemeral records have passed their expiry and no
alarm() is left to run. -/
structure Quiet (now : Nat) (state : State) : Prop where
  closed : ∀ ws, ¬ state.routable ws
  expired : remainingEphemeral now state = 0
  lapsed : ∀ ctx, ¬ state.watching ctx

def NeverRegisters (env : Env) (events : List Event) : Prop :=
  ∀ met ∈ steps env events, ∀ act ∈ acts env met.1 met.2, act.verb ≠ .putVerifier

instance (env : Env) (events : List Event) : Decidable (NeverRegisters env events) :=
  inferInstanceAs (Decidable (∀ met ∈ steps env events, _))

/-- The kv table holds no row of a never-established room that has gone quiet. -/
def Reclaimed (env : Env) (events : List Event) : Prop :=
  NeverRegisters env events → ∀ now, Quiet now (run env events) → (run env events).store = {}

/-- The metering of a frame writes the quota row: a new day, the quota exceeded, or
quotaFlushBytes since the last write. -/
def flushes (env : Env) (now : Nat) (ctx : ContextId) (state : State) (size : Nat) : Bool :=
  decide (now - (loadedQuota now ctx state).1.dayStart ≥ quotaWindowMs) ||
    overQuota env now ctx state size ||
    decide ((rolledQuota now ctx state).1.bytes + size - (rolledQuota now ctx state).2 ≥
      quotaFlushBytes)

/-- The next task is a frame of an admitted socket whose metering writes the quota row. -/
def splices (env : Env) (now : Nat) (state : State) : Bool :=
  match state.draining with
  | none => false
  | some ws =>
      !state.verifying ws &&
        match state.chain ws, state.admission ws with
        | .message frame _ _ :: _, some (.admitted _) =>
            decide (frame.size ≤ maxFrameBytes) &&
              !(rateLimited (state.frameWindow (state.home ws)) now maxFramesPerWindow
                frameWindowMs).2 &&
              flushes env now (state.home ws) state frame.size
        | _, _ => false

/-- The events on which a room without a verifier stores a row that alarm() does not prune:
a mac's proof in pairing mode, a phone's while a mac is parked and the budget lasts, a
metered frame, and a signed proof or a registration whose check accepts. -/
def marks (env : Env) (state : State) : Event → Bool
  | .run now =>
      match joining env state (.run now) with
      | some (_, .mac) => true
      | some (ws, .phone) =>
          !(state.holders (state.home ws) ws .mac).isEmpty &&
            decide (cycles state + 1 ≤ maxPairingCycles)
      | none => splices env now state
  | .resume now id random fault =>
      !state.busy (.resume now id random fault) &&
        match state.find id with
        | some ⟨_, _, .attestCheck _ _⟩ | none => false
        | some handler => handler.await.accepted env state
  | _ => false

/-- Since the last wipe a whole handler has run on such an event. -/
def Marked (env : Env) (events : List Event) : Prop :=
  ∃ before event after, events = before ++ event :: after ∧
    marks env (run env before) event = true ∧ cutShort env (run env before) event = false ∧
    ∀ met ∈ Machine.steps (step env) (run env before) (event :: after),
      .deleteAll ∉ acts env met.1 met.2

/-- The rows other than tickets, tokens and challenges. -/
def Store.lasting (store : Store) : Store :=
  { store with tickets := ∅, regTokens := ∅, challenges := ∅ }

section Rows
variable {store : Store} {script : List Act} {act : Act} {row : Row}

theorem lasting_ephemeral (light : row.ephemeral = true) :
    (store.put row).lasting = store.lasting := by
  cases row <;> first | rfl | simp [Row.ephemeral] at light

theorem lasting_delete {key : Key} : (store.delete key).lasting = store.lasting := by
  cases key <;> rfl

theorem lasting_put (heavy : row.ephemeral = false) : (store.put row).lasting ≠ {} := by
  have filled : ∀ (table : Table Nat) key value, table.insert key value ≠ ∅ := by
    intro table key value empty
    have member : key ∈ table.insert key value := (AList.mem_insert _).mpr (.inl rfl)
    rw [empty] at member
    exact AList.notMem_empty key member
  intro empty
  cases row with
  | assertCounter keyId counter =>
      exact filled _ keyId counter (congrArg Store.assertCounters empty)
  | verifier value => exact absurd (congrArg Store.verifier empty) (by simp [Store.put, Store.lasting])
  | lastActivity time =>
      exact absurd (congrArg Store.lastActivity empty) (by simp [Store.put, Store.lasting])
  | pairingCycles count =>
      exact absurd (congrArg Store.pairingCycles empty) (by simp [Store.put, Store.lasting])
  | quota value => exact absurd (congrArg Store.quota empty) (by simp [Store.put, Store.lasting])
  | registrantKeyId keyId =>
      exact absurd (congrArg Store.registrantKeyId empty) (by simp [Store.put, Store.lasting])
  | _ => simp [Row.ephemeral] at heavy

theorem lasting_kept (light : ∀ row, .put row ∈ script → row.ephemeral = true)
    (bare : store.lasting = {}) : (script.foldl Store.after store).lasting = {} := by
  induction script generalizing store with
  | nil => exact bare
  | cons act rest ih =>
      apply ih (fun row member => light row (List.mem_cons_of_mem act member))
      cases act with
      | put row => exact (lasting_ephemeral (light row (by simp))).trans bare
      | delete key => exact lasting_delete.trans bare
      | deleteAll => rfl
      | _ => exact bare

theorem lasting_stays (unwiped : .deleteAll ∉ script) (stored : store.lasting ≠ {}) :
    (script.foldl Store.after store).lasting ≠ {} := by
  induction script generalizing store with
  | nil => exact stored
  | cons act rest ih =>
      apply ih (fun member => unwiped (List.mem_cons_of_mem act member))
      cases act with
      | put row =>
          cases heavy : row.ephemeral with
          | true => exact fun empty => stored ((lasting_ephemeral heavy).symm.trans empty)
          | false => exact lasting_put heavy
      | delete key => exact fun empty => stored (lasting_delete.symm.trans empty)
      | deleteAll => exact absurd (by simp) unwiped
      | _ => exact stored

theorem lasting_written (written : .put row ∈ script) (heavy : row.ephemeral = false)
    (unwiped : .deleteAll ∉ script) : (script.foldl Store.after store).lasting ≠ {} := by
  obtain ⟨lead, rest, rfl⟩ := List.append_of_mem written
  rw [List.foldl_append, List.foldl_cons]
  exact lasting_stays (fun member => unwiped (by simp [member])) (lasting_put heavy)

theorem empty_of_absent {Rec : Type} {table : Table Rec} (absent : ∀ key, key ∉ table) :
    table = ∅ := by
  apply AList.ext
  rw [AList.empty_entries]
  rw [List.eq_nil_iff_forall_not_mem]
  intro entry member
  exact absent entry.1 (AList.mem_keys.mpr (List.mem_map_of_mem member))

theorem store_empty (bare : store.lasting = {}) (unrecorded : ∀ key, ¬ store.recorded key) :
    store = {} := by
  have tickets : store.tickets = ∅ := empty_of_absent fun key => unrecorded (.ticket key)
  have regTokens : store.regTokens = ∅ := empty_of_absent fun key => unrecorded (.regToken key)
  have challenges : store.challenges = ∅ := empty_of_absent fun key => unrecorded (.challenge key)
  rw [← bare, Store.lasting, ← tickets, ← regTokens, ← challenges]

end Rows

section Quota
variable (env : Env) (now : Nat) (ctx : ContextId) (state : State)

theorem meterQuota_puts (size : Nat) :
    (∃ row, .put row ∈ meterQuota env now ctx state size) ↔
      flushes env now ctx state size = true := by
  unfold meterQuota flushes
  by_cases day : now - (loadedQuota now ctx state).1.dayStart ≥ quotaWindowMs
  · simp [day]
  · cases exceeds : overQuota env now ctx state size with
    | true => simp [day]
    | false =>
        by_cases full : (rolledQuota now ctx state).1.bytes + size - (rolledQuota now ctx state).2 ≥
          quotaFlushBytes
        · simp [day, full]
        · simp [day, full]

theorem spliceFrame_puts (ws : SocketId) (role : Role) (frame : Frame) :
    (∃ row, .put row ∈ spliceFrame env now ctx state ws role frame) ↔
      (rateLimited (state.frameWindow ctx) now maxFramesPerWindow frameWindowMs).2 = false ∧
        flushes env now ctx state frame.size = true := by
  rw [← meterQuota_puts]
  unfold spliceFrame
  dsimp only
  cases limited : (rateLimited (state.frameWindow ctx) now maxFramesPerWindow frameWindowMs).2 with
  | true =>
      have ends : Within [.close]
          (closePeerOf ctx state ws ++ [.close ws 1008 "frame rate exceeded"]) :=
        Within.append_iff.mpr ⟨closePeerOf_within ctx state ws, by simp⟩
      simp only [if_true, List.mem_cons, reduceCtorEq, false_or, Bool.true_eq_false, false_and,
        iff_false, not_exists]
      intro row member
      have verb := ends.each _ member
      cases row <;> simp at verb
  | false =>
      have sent : ∀ row, .put row ∉ if overQuota env now ctx state frame.size then []
          else forward ctx state ws role frame := by
        intro row member
        split at member
        · simp at member
        · have verb := (forward_within ..).each _ member
          cases row <;> simp at verb
      simp [sent]

end Quota

section Step
variable {env : Env} {state : State} {event : Event} {met : Turn}

theorem webSocketMessage_puts {now : Nat} {ws : SocketId} {frame : Frame} {random : Bytes}
    {fault : Option Nat} {rest : List Task} (drained : state.draining = some ws)
    (free : state.verifying ws = false)
    (next : state.chain ws = .message frame random fault :: rest)
    (apart : joining env state (.run now) = none) :
    (∃ row, .put row ∈ webSocketMessage env now (state.home ws) (state.pop ws rest) state.nextId ws
      random frame) ↔ splices env now state = true := by
  have silent : ∀ {verbs script}, Within verbs script →
      (∀ row : Row, row.verb ∉ verbs) → ¬ ∃ row, .put row ∈ script := by
    rintro verbs script fits unput ⟨row, member⟩
    exact unput row (fits.each _ member)
  have same : (state.pop ws rest).admission ws = state.admission ws := rfl
  simp only [splices, drained, free, next, Bool.not_false, Bool.true_and]
  have cap : frameCap (state.pop ws rest) ws = frameCap state ws := rfl
  unfold webSocketMessage
  rw [same, cap]
  by_cases large : frame.size > frameCap state ws
  · rw [if_pos large]
    have ends : Within [.close] (closePeerOf (state.home ws) (state.pop ws rest) ws ++
        [.close ws 1009 "frame too large"]) :=
      Within.append_iff.mpr ⟨closePeerOf_within _ _ ws, by simp⟩
    constructor
    · intro stored
      exact absurd stored (silent ends fun row => by cases row <;> simp)
    · intro spliced
      cases admission : state.admission ws with
      | none => simp [admission] at spliced
      | some current =>
          cases current with
          | admitted role =>
              have small : ¬ frame.size ≤ maxFrameBytes := by
                simpa [frameCap, admission] using large
              simp [admission, small] at spliced
          | _ => simp [admission] at spliced
  · rw [if_neg large]
    cases admission : state.admission ws with
    | none =>
        simp only [Bool.false_eq_true, iff_false]
        exact silent (handleHello_within ..) fun row => by cases row <;> simp
    | some current =>
        cases current with
        | hello =>
            simp only [Bool.false_eq_true, iff_false]
            exact silent (handleHello_within ..) fun row => by cases row <;> simp
        | challenged role nonce yields =>
            simp only [Bool.false_eq_true, iff_false]
            rcases handleProof_cases env now (state.home ws) (state.pop ws rest) state.nextId ws
              role nonce random frame with ⟨_, refused⟩ | ⟨passes, _⟩
            · exact silent refused fun row => by cases row <;> simp
            · have passes : passesProof env now (state.home ws) state role frame = true := passes
              simp [joining, drained, free, next, admission, Nat.le_of_not_lt large, passes] at apart
        | admitted role =>
            have small : frame.size ≤ maxFrameBytes := by
              simpa [frameCap, admission] using large
            simp only [small, decide_true, Bool.true_and, Bool.and_eq_true, Bool.not_eq_true']
            exact spliceFrame_puts env now (state.home ws) (state.pop ws rest) ws role frame

theorem handleRegister_cases (env : Env) (now : Nat) (state : State) (id : Nat)
    (body : Option Json) :
    Within refusalVerbs (handleRegister env now state id body) ∨
      ∃ lead token verifier, Within [.read] lead ∧
        handleRegister env now state id body = lead ++ writeVerifier now state id token verifier := by
  have refused : ∀ status message,
      Within refusalVerbs (answer id .register status (.error message)) :=
    fun status message => (answer_within id .register status (.error message)).mono (by simp)
  unfold handleRegister
  dsimp only
  split
  · exact .inl (refused _ _)
  · split
    · exact .inl (by simp)
    · exact .inl (by simp)
    · exact .inl (refused _ _)
    · split
      · exact .inl (Within.cons_iff.mpr ⟨by simp, refused _ _⟩)
      · split
        · exact .inl (Within.cons_iff.mpr ⟨by simp, refused _ _⟩)
        · split
          · exact .inl (by simpa using refused 403 "bad token")
          · split
            · exact .inl (by simpa using refused 403 "bad token")
            · split
              · exact .inr ⟨[.get, .get], _, _, by simp, rfl⟩
              · left
                split
                · simpa using refused 403 "token not attested"
                · split
                  · split
                    · split <;> simp
                    · simpa using refused 403 "bad challenge"
                  · simpa using refused 403 "assertion required"

theorem unregistered_light {now id : Nat} {body : Option Json} {fault : Option Nat} {row : Row}
    (unregistered : ∀ verifier, .put (.verifier verifier) ∉
      done fault (handleRegister env now state id body)) :
    .put row ∉ done fault (handleRegister env now state id body) := by
  intro member
  rcases handleRegister_cases env now state id body with refused | ⟨lead, token, verifier, reads, whole⟩
  · have verb := refused.each _ (Script.done_subset _ _ member)
    cases row <;> simp at verb
  · apply unregistered verifier
    have shape : handleRegister env now state id body =
        (lead ++ [.delete (.regToken token)]) ++ .put (.verifier verifier) ::
          (bumpActivity now state ++ answer id .register 200 .ok) := by
      rw [whole]
      simp [writeVerifier]
    rw [shape] at member ⊢
    apply Script.done_reached _ _ _ member
    intro early
    rcases List.mem_append.mp early with read | deleted
    · have verb := reads.each _ read
      cases row <;> simp at verb
    · simp at deleted

theorem refused_registration_unput (now id : Nat) {other : State} {call : RegisterCall} {row : Row}
    (refused : (Await.registerAssertion call).accepted env other = false) :
    .put row ∉ finishRegister env now other id call := by
  have quiet : ∀ message, .put row ∉ answer id .register 403 (.error message) := by
    intro message member
    simp [answer] at member
  unfold finishRegister
  simp only [Await.accepted] at refused
  cases verdict : assertionVerdict env call with
  | error message => exact quiet _
  | ok counter =>
      have stale : freshCounter other call.key.keyId counter = false := by
        simpa [verdict] using refused
      simp [stale, quiet]

theorem Turns.unmarked (wired : Wired env state) (turns : Turns env state event met)
    (free : state.busy event = false) (absent : state.store.verifier = none)
    (unregistered : ∀ act ∈ met.acts, act.verb ≠ .putVerifier)
    (unmarked : marks env state event = false) {row : Row} (stored : .put row ∈ met.acts) :
    row.ephemeral = true := by
  have ran : .put row ∈ done met.fault met.script := by
    unfold Turn.acts at stored
    rcases List.mem_append.mp stored with ran | caught
    · exact ran
    · split at caught
      · have verb := turns.on_throw.each _ caught
        cases row <;> simp at verb
      · simp at caught
  have member := Script.done_subset _ _ ran
  have fits := turns.script_within.each _ member
  have silent : ∀ {verbs : List Verb}, row.verb ∈ verbs → (∀ other : Row, other.ephemeral = false →
      other.verb ∉ verbs) → row.ephemeral = true := by
    intro verbs inside apart
    by_contra heavy
    exact apart row (by simpa using heavy) inside
  have start : established met.start = false := by
    simp [established, turns.start_keeps.1, absent, truthy]
  have swept : ∀ now ctx seen, .put row ∈ Relay.alarm env now ctx met.start seen →
      row.ephemeral = true := by
    intro now ctx seen inside
    have lean : Within [.read, .close, .deleteTicket, .deleteRegToken, .deleteChallenge, .deleteAll,
        .deleteAlarm, .setAlarm] (Relay.alarm env now ctx met.start seen) := by
      have front : Within [.read, .close, .deleteTicket, .deleteRegToken, .deleteChallenge,
          .deleteAll, .deleteAlarm, .setAlarm] (alarmFront now met.start seen) := by
        simp only [alarmFront, start, Bool.false_eq_true, if_false, Within.append_iff]
        exact ⟨⟨Within.map_of (by simp), (pruneExpired_within ..).mono (by simp)⟩, by simp⟩
      rcases alarm_cases env now ctx met.start seen with
        ⟨_, whole⟩ | ⟨_, next, _, whole⟩ | ⟨_, _, whole⟩
      · rw [whole, Within.append_iff]
        exact ⟨front, (teardownRoom_within ..).mono (by simp)⟩
      · rw [whole, Within.append_iff]
        exact ⟨front, by simp⟩
      · rw [whole]
        exact front
    exact silent (lean.each _ inside) fun other _ => by cases other <;> simp
  cases turns with
  | task now ws task rest drained unproved next =>
      cases task with
      | message frame random fault =>
          rcases webSocketMessage_joining now ws frame random fault rest drained unproved next with
            ⟨none_, _⟩ | ⟨join, joins, same, script, _⟩
          · have spliced := (webSocketMessage_puts drained unproved next none_).mp ⟨row, member⟩
            simp [marks, none_, spliced] at unmarked
          · have member : .put row ∈ webSocketMessage env now (state.home ws) (state.pop ws rest)
              state.nextId ws random frame := member
            rw [script] at member
            cases role : join.role with
            | mac => simp [marks, same, role] at unmarked
            | phone =>
                rcases List.mem_append.mp member with early | late
                · cases joins with
                  | pairing now ws role nonce yields frame random fault rest window lead attest
                      drained free next admission absent presented =>
                      cases presented <;> simp at early
                · have room := joins.same_room
                  rcases admit_cases env join.now join.ctx join.mid join.random join.ws join.role
                    join.attest with ⟨whole, _⟩ | ⟨whole, _⟩ | ⟨_, afford⟩
                  · rw [whole] at late
                    simp [reject] at late
                  · rw [whole] at late
                    have ends : Within [.read, .close, .deleteAll, .deleteAlarm] (.get :: .get ::
                        teardownRoom join.ctx join.mid "pairing cycle cap") := by
                      simpa using (teardownRoom_within ..).mono (by simp)
                    exact silent (ends.each _ late) fun other _ => by cases other <;> simp
                  · exfalso
                    have parked := (afford role).1
                    have paid := (afford role).2 (by rw [room.established, established, absent]; rfl)
                    rw [room.holders, joins.ctx_home wired] at parked
                    rw [room.pairingCycles] at paid
                    have paid : cycles state + 1 ≤ maxPairingCycles := paid
                    simp [marks, same, role, parked, paid] at unmarked
      | closed =>
          exact silent ((closePeerOf_within ..).each _ member) fun other _ => by cases other <;> simp
      | errored =>
          exact silent ((closePeerOf_within ..).each _ member) fun other _ => by cases other <;> simp
  | resume now id random fault handler found quiet =>
      simp only [footprint, found, Option.map_some, Option.getD_some] at fits
      obtain ⟨handlerId, ctx, await⟩ := handler
      cases await with
      | proofSignature check =>
          have refused : env.verifyJoin check.sig check.transcript check.verifier = false := by
            simpa [marks, free, found, Await.accepted] using unmarked
          have rejects := reject_within check.ws "bad signature"
          have member : .put row ∈ finishProof env now ctx (state.wake id (some check.ws)) random
            check := member
          simp only [finishProof, refused, Bool.false_eq_true, if_false] at member
          exact silent (rejects.each _ member) fun other _ => by cases other <;> simp
      | registerAssertion call =>
          have refused : (Await.registerAssertion call).accepted env state = false := by
            simpa [marks, free, found] using unmarked
          exact absurd member (refused_registration_unput now id refused)
      | _ => exact silent fits fun other heavy => by cases other <;> simp [Row.ephemeral] at heavy ⊢
  | request now request random fault ctx resident =>
      cases request with
      | register body =>
          exact absurd ran (unregistered_light fun verifier written =>
            unregistered _ (List.mem_append_left _ written) rfl)
      | _ => exact silent fits fun other heavy => by
               cases other <;> simp [Row.ephemeral, footprint] at heavy ⊢
  | fire now ctx at_ fault armed due quiet => exact swept now ctx _ member
  | alarm now ctx fault started => exact swept now ctx _ member
  | connect => simp [handleUpgrade] at member
  | drain => exact silent fits fun other _ => by cases other <;> simp [footprint]
  | get => simp at member
  | chunk => simp at member
  | ended => simp at member
  | idle => simp at member
  | restart => simp at member

theorem Joins.charged {now : Nat} {join : Join} (wired : Wired env state)
    (joins : Joins env state (.run now) join)
    (parked : join.role = .phone → state.holders (state.home join.ws) join.ws .mac ≠ [] ∧
      cycles state + 1 ≤ maxPairingCycles) :
    ∃ count, .put (.pairingCycles count) ∈ join.script env := by
  have room := joins.same_room
  have home := joins.ctx_home wired
  have pairing : established join.mid = false := by
    rw [room.established]
    cases joins with
    | pairing now ws role nonce yields frame random fault rest window lead attest drained free next
        admission absent presented => simp [established, absent]
  unfold Join.script
  rcases admit_cases env join.now join.ctx join.mid join.random join.ws join.role join.attest with
    ⟨_, role, offline⟩ | ⟨_, role, _, _, exceeds⟩ | ⟨whole, _⟩
  · rw [room.holders, home] at offline
    exact absurd offline (parked role).1
  · rw [room.pairingCycles] at exceeds
    have paid : state.store.pairingCycles.getD 0 + 1 ≤ maxPairingCycles := (parked role).2
    exact absurd exceeds (Nat.not_lt_of_le paid)
  · rw [whole]
    cases join.role with
    | mac => exact ⟨0, by simp [charge, pairing]⟩
    | phone => exact ⟨join.mid.store.pairingCycles.getD 0 + 1, by simp [charge, pairing]⟩

theorem marks_happens (marks_ : marks env state event = true) :
    ∃ met, turn env state event = some met := by
  cases event with
  | run now =>
      cases drained : state.draining with
      | none => simp [marks, joining, splices, drained] at marks_
      | some ws => exact ⟨runTurn env now state ws, by simp [turn, State.busy, quietTurn, drained]⟩
  | resume now id random fault =>
      cases busy : state.busy (.resume now id random fault) with
      | true => simp [marks, busy] at marks_
      | false =>
          cases found : state.find id with
          | none => simp [marks, found] at marks_
          | some handler => exact ⟨_, by simp [turn, busy, quietTurn, found]; rfl⟩
  | _ => simp [marks] at marks_

theorem Turns.marked (wired : Wired env state) (turns : Turns env state event met)
    (marks_ : marks env state event = true) (finished : threw met.fault met.script = false) :
    ∃ row : Row, row.ephemeral = false ∧ .put row ∈ met.acts := by
  rw [Turn.acts_whole finished]
  cases turns with
  | idle now ws drained stopped =>
      exfalso
      rcases stopped with verifying | empty
      · simp [marks, joining, splices, drained, verifying] at marks_
      · simp [marks, joining, splices, drained, empty] at marks_
  | task now ws task rest drained unproved next =>
      cases task with
      | message frame random fault =>
          have reached := @webSocketMessage_joining env state now ws frame random fault rest drained
            unproved next
          rcases reached with ⟨none_, _, plain⟩ | ⟨join, joins, same, script, _⟩
          · have spliced : splices env now state = true := by simpa [marks, none_] using marks_
            obtain ⟨row, member⟩ := (webSocketMessage_puts drained unproved next none_).mpr spliced
            have verb := plain.each _ member
            refine ⟨row, ?_, member⟩
            cases row <;> first | rfl | simp at verb
          · obtain ⟨count, member⟩ := joins.charged wired (by
              intro role
              simpa [marks, same, role] using marks_)
            rw [← script] at member
            exact ⟨_, rfl, member⟩
      | closed => simp [marks, joining, splices, drained, unproved, next] at marks_
      | errored => simp [marks, joining, splices, drained, unproved, next] at marks_
  | resume now id random fault handler found quiet =>
      obtain ⟨handlerId, ctx, await⟩ := handler
      simp only [marks, found, Bool.and_eq_true] at marks_
      cases await with
      | proofSignature check =>
          have accepted : env.verifyJoin check.sig check.transcript check.verifier = true := marks_.2
          exact ⟨.lastActivity now, rfl, by simp [continuation, finishProof, accepted, bumpActivity]⟩
      | registerAssertion call =>
          have accepted : (Await.registerAssertion call).accepted env
            (state.wake id none) = true := marks_.2
          simp only [Await.accepted] at accepted
          simp only [continuation, finishRegister, Await.drains]
          cases verdict : assertionVerdict env call with
          | error message => simp [verdict] at accepted
          | ok counter =>
              have fresh : freshCounter (state.wake id none) call.key.keyId counter = true := by
                simpa [verdict] using accepted
              exact ⟨.assertCounter call.key.keyId counter, rfl, by simp [fresh]⟩
      | _ => simp [Await.accepted] at marks_
  | _ => simp [marks] at marks_

end Step

section Run
variable {env : Env}

theorem verifier_absent {script : List Act} (unput : ∀ act ∈ script, act.verb ≠ .putVerifier)
    {store : Store} (absent : store.verifier = none) :
    (script.foldl Store.after store).verifier = none := by
  induction script generalizing store with
  | nil => exact absent
  | cons act rest ih =>
      apply ih (fun other member => unput other (List.mem_cons_of_mem act member))
      cases act with
      | put row =>
          cases row with
          | verifier value => exact absurd rfl (unput (.put (.verifier value)) (by simp))
          | _ => exact absent
      | delete key => cases key <;> exact absent
      | deleteAll => rfl
      | _ => exact absent

theorem never_verifier (events : List Event) (unregistered : NeverRegisters env events) :
    (run env events).store.verifier = none := by
  refine Machine.run_invariant (step env) (fun state => state.store.verifier = none)
    (fun state event => ∀ act ∈ acts env state event, act.verb ≠ .putVerifier) ?_ _ rfl
    events unregistered
  intro state event absent unput
  rw [step_store]
  exact verifier_absent unput absent

-- From a lasting row on, without a wipe, the room keeps a lasting row.
theorem lasting_run (start : State) (events : List Event) (stored : start.store.lasting ≠ {})
    (unwiped : ∀ met ∈ Machine.steps (step env) start events, .deleteAll ∉ acts env met.1 met.2) :
    (Machine.run (step env) start events).store.lasting ≠ {} := by
  refine Machine.run_invariant (step env) (fun state => state.store.lasting ≠ {})
    (fun state event => .deleteAll ∉ acts env state event) ?_ start stored events unwiped
  intro state event stored unwiped
  rw [step_store]
  exact lasting_stays unwiped stored

theorem marked_lasting (events : List Event) (marked : Marked env events) :
    (run env events).store.lasting ≠ {} := by
  obtain ⟨before, event, after, rfl, marks_, whole, unwiped⟩ := marked
  rw [run, Machine.run_append, Machine.run_cons]
  rw [Machine.steps_cons, List.forall_mem_cons] at unwiped
  apply lasting_run _ after _ unwiped.2
  obtain ⟨met, happens⟩ := marks_happens marks_
  have finished : threw met.fault met.script = false := by simpa [cutShort, happens] using whole
  obtain ⟨row, heavy, stored⟩ :=
    (turn_turns happens).marked (wired_run env before) marks_ finished
  have performed : acts env (run env before) event = met.acts := by rw [acts, happens]
  rw [step_store]
  exact lasting_written (performed ▸ stored) heavy unwiped.1

-- A run without a registration either has no lasting row or was marked since its last wipe.
theorem bare_or_marked (events : List Event) (unregistered : NeverRegisters env events)
    (unstranded : ∀ met ∈ steps env events, strands (fun _ => true) env met = false) :
    (run env events).store.lasting = {} ∨ Marked env events := by
  induction events using List.reverseRecOn with
  | nil => exact .inl rfl
  | append_singleton before event ih =>
      have step_ : steps env (before ++ [event]) = steps env before ++ [(run env before, event)] := by
        simp [Machine.steps_append]
      rw [step_, List.forall_mem_append] at unstranded
      have unregistered' := unregistered
      unfold NeverRegisters at unregistered'
      rw [step_, List.forall_mem_append] at unregistered'
      have last : run env (before ++ [event]) = step env (run env before) event := by simp
      have unput := unregistered'.2 _ (List.mem_singleton_self _)
      have wired := wired_run env before
      rw [last, step_store]
      by_cases wiped : .deleteAll ∈ acts env (run env before) event
      · left
        rcases step_met env (run env before) event with ⟨none_, _⟩ | ⟨met, turns, free, performed, _⟩
        · rw [none_] at wiped
          simp at wiped
        · rw [performed] at wiped ⊢
          rw [turns.wiped_store wired free wiped]
          rfl
      · have light : (marks env (run env before) event = true ∧
            cutShort env (run env before) event = false) ∨
            ∀ row : Row, .put row ∈ acts env (run env before) event → row.ephemeral = true := by
          cases cut : cutShort env (run env before) event with
          | true =>
              right
              intro row stored
              have stranded : strands (fun _ => true) env (run env before, event) = true := by
                simp only [strands, cut, Bool.true_and, List.any_eq_true]
                exact ⟨_, stored, rfl⟩
              rw [unstranded.2 _ (List.mem_singleton_self _)] at stranded
              exact Bool.noConfusion stranded
          | false =>
              cases marks_ : marks env (run env before) event with
              | true => exact .inl ⟨rfl, rfl⟩
              | false =>
                  right
                  intro row stored
                  rcases step_met env (run env before) event with
                    ⟨none_, _⟩ | ⟨met, turns, free, performed, _⟩
                  · rw [none_] at stored
                    simp at stored
                  · rw [performed] at stored unput
                    exact turns.unmarked wired free (never_verifier before unregistered'.1) unput
                      marks_ stored
        rcases light with ⟨marks_, cut⟩ | light
        · exact .inr ⟨before, event, [], rfl, marks_, cut, by simpa using wiped⟩
        · rcases ih unregistered'.1 unstranded.1 with bare | ⟨lead, first, rest, rfl, marks_, cut, unwiped⟩
          · exact .inl (lasting_kept light bare)
          · refine .inr ⟨lead, first, rest ++ [event], by simp, marks_, cut, ?_⟩
            have longer : Machine.steps (step env) (run env lead) (first :: (rest ++ [event])) =
                Machine.steps (step env) (run env lead) (first :: rest) ++
                  [(run env (lead ++ first :: rest), event)] := by
              rw [← List.cons_append, Machine.steps_append]
              simp
            rw [longer, List.forall_mem_append]
            exact ⟨unwiped, by simpa using wiped⟩

/-- In a run that never registers, whose ensureAlarm calls are prompt and in which no handler
is cut short after it has stored a row, a quiet room keeps no row if and only if no handler
has stored one that alarm() does not prune since the last wipe. -/
theorem reclaimed_iff (events : List Event) (unregistered : NeverRegisters env events)
    (calls : ∀ met ∈ steps env events, PromptStep env met.1 met.2)
    (unstranded : ∀ met ∈ steps env events, strands (fun _ => true) env met = false)
    (now : Nat) (quiet : Quiet now (run env events)) :
    (run env events).store = {} ↔ ¬ Marked env events := by
  have watched := watched_run events (by
    intro met member
    refine ⟨calls met member, ?_⟩
    have kept := unstranded met member
    simp only [strands, Bool.and_eq_false_iff, List.any_eq_false] at kept ⊢
    refine kept.imp_right fun unput act inside => ?_
    have here := unput act inside
    cases act with
    | put row => exact absurd rfl here
    | _ => simp)
  have unrecorded : ∀ key, ¬ (run env events).store.recorded key := by
    intro key recorded
    obtain ⟨_, ⟨ctx, watching⟩, _⟩ := watched.records key recorded
    exact quiet.lapsed ctx watching
  constructor
  · intro empty marked
    exact marked_lasting events marked (by rw [empty]; rfl)
  · intro unmarked
    rcases bare_or_marked events unregistered unstranded with bare | marked
    · exact store_empty bare unrecorded
    · exact absurd marked unmarked

/-- Every handler of the step runs in the first context. -/
def loneStep (env : Env) (met : State × Event) : Bool :=
  match met.2 with
  | .restart _ => false
  | _ => (turn env met.1 met.2).all (·.ctx = 0)

theorem Turns.unwatched {state : State} {event : Event} {met : Turn} {other : ContextId}
    (turns : Turns env state event met) (stays : ∀ now, event ≠ .restart now)
    (apart : other ≠ met.ctx) (idle : ¬ state.watching other) : ¬ met.result.watching other := by
  rw [turns.result_watching]
  unfold State.watching at idle ⊢
  rw [replay_timer_elsewhere met.acts apart, replay_alarming]
  cases turns with
  | get now absent quiet =>
      have apart : other ≠ state.nextId := apart
      have clear : state.timer other = none ∧ ¬ state.alarming = some other := by simpa using idle
      unfold init
      split
      · simpa [newContext, Function.update_of_ne apart] using clear
      · split
        · simp [newContext, Function.update_of_ne apart, clear.1, apart.symm]
        · simpa [newContext, Function.update_of_ne apart] using clear
  | restart now => exact absurd rfl (stays now)
  | chunk ws frames tail attached hears upgraded quiet =>
      rw [hang_up_keeps]
      exact idle
  | ended ws attached open_ quiet =>
      rw [maybe_evict_live]
      exact idle
  | task now ws task rest drained free next => cases task <;> exact idle
  | fire now ctx at_ fault armed due quiet =>
      have apart : other ≠ ctx := apart
      simpa [alarmTurn, Function.update_of_ne apart] using idle
  | alarm now ctx fault started =>
      have clear : state.timer other = none ∧ ¬ state.alarming = some other := by simpa using idle
      simpa [alarmTurn] using clear.1
  | _ => exact idle

theorem unwatched_run (events : List Event)
    (lone : ∀ met ∈ steps env events, loneStep env met = true) :
    ∀ ctx, ctx ≠ 0 → ¬ (run env events).watching ctx := by
  refine Machine.run_invariant (step env) (fun state => ∀ ctx, ctx ≠ 0 → ¬ state.watching ctx)
    (fun state event => loneStep env (state, event) = true) ?_ _ ?_ events lone
  · intro state event idle lone ctx apart
    cases happens : turn env state event with
    | none =>
        rw [step, happens]
        exact idle ctx apart
    | some met =>
        have here : (∀ now, event ≠ .restart now) ∧ met.ctx = 0 := by
          unfold loneStep at lone
          rw [happens] at lone
          cases event with
          | restart now => simp at lone
          | _ => exact ⟨by simp, by simpa using lone⟩
        rw [step, happens]
        exact (turn_turns happens).unwatched here.1 (by rw [here.2]; exact apart) (idle ctx apart)
  · intro ctx _ watching
    simp [State.watching, initial] at watching

theorem quiet_of_gone (events : List Event) (now : Nat)
    (lone : ∀ met ∈ steps env events, loneStep env met = true)
    (gone : (run env events).live = none)
    (idle : (run env events).timer 0 = none ∧ (run env events).alarming = none)
    (expired : remainingEphemeral now (run env events) = 0) : Quiet now (run env events) where
  closed := by
    intro ws routed
    have resident := ((wired_run env events).anchored _ ws routed).1
    rw [gone] at resident
    exact absurd resident (by simp)
  expired := expired
  lapsed := by
    intro ctx
    by_cases first : ctx = 0
    · simp [State.watching, first, idle.1, idle.2]
    · exact unwatched_run events lone ctx first

/-- A challenge is asked for and never used; the second alarm finds it expired and lapses. -/
def unusedChallenge : List Event :=
  .get 1 :: asks 1 1 .challenge [10] 1 ++ [.fire 15001 0 none, .fire 300002 0 none]

theorem reclaimed_unused_challenge :
    (run (sampleEnv true) unusedChallenge).store = {} ↔ ¬ Marked (sampleEnv true) unusedChallenge :=
  reclaimed_iff unusedChallenge (by decide +kernel) (by decide +kernel) (by decide +kernel) 300002
    (quiet_of_gone unusedChallenge 300002 (by decide +kernel) (by decide +kernel)
      (by decide +kernel) (by decide +kernel))

/-- A mac parks in pairing mode and leaves, and its alarm lapses. -/
def abandonedPark : List Event :=
  .get 1 :: joins 1 0 1 macHello openProof [1] ++ [.ended 0, .run 1, .run 1, .fire 15001 0 none]

-- The count of its park stays behind.
theorem abandoned_park_leaks : ¬ Reclaimed (sampleEnv false) abandonedPark := by
  intro reclaimed
  have empty := reclaimed (by decide +kernel) 15001
    (quiet_of_gone abandonedPark 15001 (by decide +kernel) (by decide +kernel) (by decide +kernel)
      (by decide +kernel))
  have counted : (run (sampleEnv false) abandonedPark).store.pairingCycles = some 0 := by
    decide +kernel
  rw [empty] at counted
  cases counted

end Run

end Relay

import CompanionRelay.WipeBarrier

/-!
The verifier of a room. With attestation required it is written by one handler only,
and that handler looks for an existing verifier before its crypto awaits, not after.
The verifier is written once between two wipes as long as no registration whose
assertion is accepted finds a verifier stored when it goes on.
-/

namespace Relay

/-- The registrations a step answers with ok. -/
def registrations (env : Env) (met : State × Event) : Nat :=
  (acts env met.1 met.2).countP fun act => act.verb = .replyRegistered

/-- Between two wipes at most one registration is answered ok, and a stored verifier
stays as it is. -/
def WriteOnce (env : Env) (events : List Event) : Prop :=
  ∀ before during after, events = before ++ during ++ after →
    (∀ met ∈ Machine.steps (step env) (run env before) during,
      .deleteAll ∉ acts env met.1 met.2) →
    ((Machine.steps (step env) (run env before) during).map (registrations env)).sum ≤ 1 ∧
    ∀ verifier, (run env before).store.verifier = some verifier →
      (run env (before ++ during)).store.verifier = some verifier

/-- A registration goes on with an accepted assertion while a verifier is stored. -/
def lateRegistration (env : Env) (state : State) : Event → Bool
  | .resume _ id _ _ =>
      match state.find id with
      | some ⟨_, _, .registerAssertion call⟩ =>
          (Await.registerAssertion call).accepted env state && state.store.verifier.isSome
      | _ => false
  | _ => false

variable {env : Env} {state : State} {event : Event}

-- With attestation required every other handler is without these two kinds of act.
theorem registering_step {act : Act} (required : attestationRequired env = true)
    (member : act ∈ acts env state event)
    (registers : act.verb = .putVerifier ∨ act.verb = .replyRegistered) :
    ∃ now id random fault ctx call, event = .resume now id random fault ∧
      state.find id = some ⟨id, ctx, .registerAssertion call⟩ := by
  have apart : act.verb ∉ plainTurnVerbs := by
    rcases registers with put | reply
    · rw [put]
      simp
    · rw [reply]
      simp
  have unasked : ∀ request : Request, act.verb ∉ request.verbs env := by
    intro request
    rcases registers with put | reply
    · rw [put]
      cases request <;> simp [required]
    · rw [reply]
      cases request <;> simp [required]
  obtain ⟨now, id, random, fault, ⟨handlerId, ctx, await⟩, rfl, found, ran⟩ :=
    resumes_of_verb member apart unasked
  obtain rfl : handlerId = id := (mem_find found).2
  have fits := (continuation_within env now ctx (state.wake handlerId await.drains) handlerId random
    await).each act ran
  have elsewhere : ∀ verbs : List Verb, act.verb ∈ verbs → Verb.putVerifier ∉ verbs →
      Verb.replyRegistered ∉ verbs → False := by
    intro verbs inside noPut noReply
    rcases registers with put | reply
    · exact noPut (put ▸ inside)
    · exact noReply (reply ▸ inside)
  cases await with
  | registerAssertion call => exact ⟨now, handlerId, random, fault, ctx, call, rfl, found⟩
  | _ => exact (elsewhere _ fits (by simp) (by simp)).elim

theorem verifier_kept {script : List Act} (noPut : ∀ act ∈ script, act.verb ≠ .putVerifier)
    (noWipe : .deleteAll ∉ script) (store : Store) :
    (script.foldl Store.after store).verifier = store.verifier := by
  induction script generalizing store with
  | nil => rfl
  | cons act rest ih =>
      rw [List.foldl_cons, ih (fun other member => noPut other (List.mem_cons_of_mem act member))
        (fun member => noWipe (List.mem_cons_of_mem act member))]
      have head := noPut act (by simp)
      cases act with
      | put row => cases row <;> first | rfl | exact absurd rfl head
      | delete key => cases key <;> rfl
      | deleteAll => exact absurd (by simp) noWipe
      | _ => rfl

theorem verifier_stays {script : List Act} (noWipe : .deleteAll ∉ script) (store : Store)
    (stored : store.verifier ≠ none) : (script.foldl Store.after store).verifier ≠ none := by
  induction script generalizing store with
  | nil => exact stored
  | cons act rest ih =>
      apply ih (fun member => noWipe (List.mem_cons_of_mem act member))
      cases act with
      | put row => cases row <;> first | exact stored | simp [Store.after, Store.put]
      | delete key => cases key <;> exact stored
      | deleteAll => exact absurd (by simp) noWipe
      | _ => exact stored

theorem verifier_written {script : List Act} {value : String}
    (written : .put (.verifier value) ∈ script) (noWipe : .deleteAll ∉ script) (store : Store) :
    (script.foldl Store.after store).verifier ≠ none := by
  obtain ⟨lead, rest, rfl⟩ := List.append_of_mem written
  rw [List.foldl_append, List.foldl_cons]
  exact verifier_stays (fun member => noWipe (by simp [member])) _ (by simp [Store.after, Store.put])

theorem accepted_registration (now id : Nat) (other : State) {call : RegisterCall}
    (accepted : (Await.registerAssertion call).accepted env state = true)
    (same : other.store = state.store) :
    ∃ lead rest, finishRegister env now other id call =
        lead ++ .reply id .register 200 .ok :: rest ∧
      (∀ act ∈ lead, act.verb ≠ .replyRegistered) ∧ (∀ act ∈ rest, act.verb ≠ .replyRegistered) ∧
      .put (.verifier call.verifier) ∈ lead := by
  simp only [Await.accepted] at accepted
  cases verdict : assertionVerdict env call with
  | error message => simp [verdict] at accepted
  | ok counter =>
      have fresh : freshCounter other call.key.keyId counter = true := by
        simpa [verdict, freshCounter, same] using accepted
      refine ⟨[.get, .put (.assertCounter call.key.keyId counter),
        .put (.registrantKeyId call.key.keyId), .delete (.regToken call.token),
        .put (.verifier call.verifier)] ++ bumpActivity now other, [.suspend id .responseTag],
        ?_, ?_, ?_, ?_⟩
      · simp [finishRegister, verdict, fresh, writeVerifier, answer]
      · intro act member
        rcases List.mem_append.mp member with early | late
        · simp only [List.mem_cons, List.not_mem_nil, or_false] at early
          rcases early with rfl | rfl | rfl | rfl | rfl <;> simp
        · exact (bumpActivity_within now other).avoids (by simp) act late
      · simp
      · simp

theorem refused_registration (now id : Nat) (other : State) {call : RegisterCall}
    (refused : (Await.registerAssertion call).accepted env state = false)
    (same : other.store = state.store) :
    ∀ act ∈ finishRegister env now other id call,
      act.verb ≠ .putVerifier ∧ act.verb ≠ .replyRegistered := by
  have quiet : ∀ status message, ∀ act ∈ answer id .register status (.error message),
      act.verb ≠ .putVerifier ∧ act.verb ≠ .replyRegistered := by
    intro status message act member
    have fits := answer_within id .register status (.error message)
    exact ⟨fits.avoids (by simp) act member, fits.avoids (by simp) act member⟩
  simp only [Await.accepted] at refused
  intro act member
  cases verdict : assertionVerdict env call with
  | error message =>
      simp only [finishRegister, verdict] at member
      exact quiet _ _ act member
  | ok counter =>
      have stale : freshCounter other call.key.keyId counter = false := by
        simpa [verdict, freshCounter, same] using refused
      simp only [finishRegister, verdict, stale, Bool.false_eq_true, if_false] at member
      rcases List.mem_cons.mp member with rfl | later
      · simp
      · exact quiet _ _ act later

-- One step of a room that is not wiped: nothing of a registration happens, or the room
-- had no verifier and at most one registration is answered.
theorem registration_step (required : attestationRequired env = true)
    (kept : .deleteAll ∉ acts env state event)
    (timely : lateRegistration env state event = false) :
    (registrations env (state, event) = 0 ∧
      (step env state event).store.verifier = state.store.verifier) ∨
    (state.store.verifier = none ∧ registrations env (state, event) ≤ 1 ∧
      (registrations env (state, event) = 1 → (step env state event).store.verifier ≠ none)) := by
  by_cases registers : ∃ act ∈ acts env state event,
      act.verb = .putVerifier ∨ act.verb = .replyRegistered
  · right
    obtain ⟨act, member, verb⟩ := registers
    obtain ⟨now, id, random, fault, ctx, call, rfl, found⟩ := registering_step required member verb
    cases busy : state.busy (.resume now id random fault) with
    | true => simp [acts_busy busy] at member
    | false =>
        obtain ⟨caught, handled, performed⟩ : ∃ caught,
            caught ⊆ (Await.registerAssertion call).onThrow id ∧
            acts env state (.resume now id random fault) =
              done fault (finishRegister env now (state.wake id none) id call) ++ caught :=
          acts_resume env found busy
        have aside : ∀ other ∈ caught, other.verb ≠ .putVerifier ∧ other.verb ≠ .replyRegistered := by
          intro other inside
          have same := handled inside
          simp only [Await.onThrow, List.mem_singleton] at same
          subst same
          simp
        cases accepted : (Await.registerAssertion call).accepted env state with
        | false =>
            have quiet := refused_registration now id (state.wake id none) accepted rfl
            rw [performed] at member
            have silent : act.verb ≠ .putVerifier ∧ act.verb ≠ .replyRegistered := by
              rcases List.mem_append.mp member with early | late
              · exact quiet act (Script.done_subset _ _ early)
              · exact aside act late
            exact absurd verb (not_or.mpr silent)
        | true =>
            obtain ⟨lead, rest, shape, leadQuiet, restQuiet, written⟩ :=
              accepted_registration now id (state.wake id none) accepted rfl
            have empty : state.store.verifier = none := by
              simpa [lateRegistration, found, accepted] using timely
            refine ⟨empty, ?_, ?_⟩
            · have atMostOnce : (finishRegister env now (state.wake id none) id call).countP
                  (fun act => act.verb = .replyRegistered) = 1 := by
                rw [shape, List.countP_append, List.countP_cons,
                  List.countP_eq_zero.mpr (fun other inside => by
                    rw [decide_eq_true_eq]; exact leadQuiet other inside),
                  List.countP_eq_zero.mpr (fun other inside => by
                    rw [decide_eq_true_eq]; exact restQuiet other inside)]
                rfl
              have silent : caught.countP (fun act => act.verb = .replyRegistered) = 0 := by
                apply List.countP_eq_zero.mpr
                intro other inside
                rw [decide_eq_true_eq]
                exact (aside other inside).2
              rw [registrations, performed, List.countP_append, silent, Nat.add_zero, ← atMostOnce]
              exact (Script.done_initial Act.isStorage Act.isThrow fault _).sublist.countP_le
            · intro answered
              rw [step_store]
              have replied : ∃ other ∈ done fault (finishRegister env now (state.wake id none) id call),
                  other.verb = .replyRegistered := by
                have some_ : 0 < registrations env (state, .resume now id random fault) := by omega
                obtain ⟨other, inside, reply⟩ := List.countP_pos_iff.mp some_
                rw [decide_eq_true_eq] at reply
                rw [performed] at inside
                rcases List.mem_append.mp inside with early | late
                · exact ⟨other, early, reply⟩
                · exact absurd reply (aside other late).2
              obtain ⟨other, inside, reply⟩ := replied
              have same : other = .reply id .register 200 .ok := by
                have member := Script.done_subset _ _ inside
                rw [shape] at member
                rcases List.mem_append.mp member with early | late
                · exact absurd reply (leadQuiet other early)
                · rcases List.mem_cons.mp late with same | later
                  · exact same
                  · exact absurd reply (restQuiet other later)
              subst same
              have before : .put (.verifier call.verifier) ∈
                  done fault (finishRegister env now (state.wake id none) id call) := by
                rw [shape] at inside ⊢
                exact (Script.done_before _ _ (fun early => leadQuiet _ early rfl) inside).subset
                  written
              exact verifier_written (by rw [performed]; exact List.mem_append_left _ before) kept _
  · left
    have silent : ∀ act ∈ acts env state event,
        act.verb ≠ .putVerifier ∧ act.verb ≠ .replyRegistered := by
      intro act member
      exact not_or.mp fun verb => registers ⟨act, member, verb⟩
    constructor
    · apply List.countP_eq_zero.mpr
      intro act member
      rw [decide_eq_true_eq]
      exact (silent act member).2
    · rw [step_store]
      exact verifier_kept (fun act member => (silent act member).1) kept _

/-- With attestation required, the verifier is written once between two wipes in every run
in which no accepted registration finds a verifier stored. -/
theorem verifier_written_once (required : attestationRequired env = true) (events : List Event)
    (timely : ∀ met ∈ steps env events, lateRegistration env met.1 met.2 = false) :
    WriteOnce env events := by
  -- From any state: a stored verifier stays and no registration is answered, and in
  -- any case at most one is.
  have segment : ∀ (during : List Event) (start : State),
      (∀ met ∈ Machine.steps (step env) start during, lateRegistration env met.1 met.2 = false) →
      (∀ met ∈ Machine.steps (step env) start during, .deleteAll ∉ acts env met.1 met.2) →
      ((Machine.steps (step env) start during).map (registrations env)).sum ≤ 1 ∧
      ∀ verifier, start.store.verifier = some verifier →
        ((Machine.steps (step env) start during).map (registrations env)).sum = 0 ∧
        (Machine.run (step env) start during).store.verifier = some verifier := by
    intro during
    induction during with
    | nil => exact fun start _ _ => ⟨by simp, fun verifier stored => ⟨by simp, stored⟩⟩
    | cons event rest ih =>
        intro start timely kept
        simp only [Machine.steps_cons, List.forall_mem_cons] at timely kept
        obtain ⟨bound, stays⟩ := ih (step env start event) timely.2 kept.2
        simp only [Machine.steps_cons, Machine.run_cons, List.map_cons, List.sum_cons]
        rcases registration_step required kept.1 timely.1 with
          ⟨none_, same⟩ | ⟨empty, atMost, writes⟩
        · rw [none_, Nat.zero_add]
          exact ⟨bound, fun verifier stored => stays verifier (same.trans stored)⟩
        · constructor
          · by_cases answered : registrations env (start, event) = 1
            · obtain ⟨verifier, stored⟩ := Option.ne_none_iff_exists'.mp (writes answered)
              rw [answered, (stays verifier stored).1]
            · omega
          · intro verifier stored
            rw [empty] at stored
            cases stored
  intro before during after split kept
  have inside : ∀ met ∈ Machine.steps (step env) (run env before) during,
      lateRegistration env met.1 met.2 = false := by
    intro met member
    apply timely
    rw [split, List.append_assoc, steps, Machine.steps_append, Machine.steps_append]
    exact List.mem_append_right _ (List.mem_append_left _ member)
  obtain ⟨bound, stays⟩ := segment during (run env before) inside kept
  refine ⟨bound, fun verifier stored => ?_⟩
  rw [run, Machine.run_append]
  exact (stays verifier stored).2

/-- A parked mac and a phone with an attested registration token, and two challenges. -/
def attestedPair : List Event :=
  [.get 1] ++ joins 1 0 1 macHello openProof [1] ++ asks 1 4 .challenge [10] 1 ++
    asks 1 5 (attestation "Cg==") [9] 3 ++ joins 1 1 6 phoneHello ticketProof [2] ++
    asks 1 9 .challenge [11] 1 ++ asks 1 10 .challenge [12] 1

theorem verifier_written_once_registering :
    WriteOnce (sampleEnv true)
      (attestedPair ++ asks 2 11 (registration "Ag==" "AQID" "Cw==" "AQID") [] 3) :=
  verifier_written_once (by decide) _ (by decide +kernel)

/-- Two registrations under one token, both suspended at their assertion. -/
def racingRegistrations : List Event :=
  attestedPair ++ [.request 2 (registration "Ag==" "AQID" "Cw==" "AQID") [] none,
    .request 2 (registration "Ag==" "BAUG" "DA==" "AQIDBA==") [] none,
    .resume 2 11 [] none, .resume 2 12 [] none, .resume 2 11 [] none]

-- The second goes on after the first has stored its verifier, and overwrites it.
theorem registration_overwrites :
    attestationRequired (sampleEnv true) = true ∧
      ¬ WriteOnce (sampleEnv true) (racingRegistrations ++ [.resume 2 12 [] none] ++ []) := by
  refine ⟨by decide, fun once => ?_⟩
  have stays := (once racingRegistrations [.resume 2 12 [] none] [] rfl (by decide +kernel)).2 "AQID"
    (by decide +kernel)
  have overwritten : (run (sampleEnv true)
      (racingRegistrations ++ [.resume 2 12 [] none])).store.verifier = some "BAUG" := by
    decide +kernel
  rw [overwritten] at stays
  exact absurd stays (by decide)

end Relay

import CompanionRelay.Conversation
import CompanionRelay.Sources

/-!
The counters of App Attest assertions. A device signs each assertion with a higher counter than
the one before; the room keeps the last one of each key and takes no assertion at or below it, so
an assertion that was seen once is not taken again.
-/

namespace Relay

/-- The counters stored for a key since the room was last wiped, in order. -/
def climb (keyId : String) (counters : List Nat) : Act → List Nat
  | .put (.assertCounter key counter) =>
      if key = keyId then counters ++ [counter] else counters
  | .deleteAll => []
  | _ => counters

def counters (env : Env) (events : List Event) (keyId : String) : List Nat :=
  ((steps env events).flatMap fun met => acts env met.1 met.2).foldl (climb keyId) []

structure CountersClimb (env : Env) (events : List Event) : Prop where
  increasing : ∀ keyId, (counters env events keyId).Pairwise (· < ·)
  stored : ∀ keyId, (run env events).store.assertCounters.lookup keyId =
    (counters env events keyId).getLast?
  -- with attestation a registration stores the counter of its own assertion
  counted : attestationRequired env = true → ∀ met ∈ steps env events, ∀ id,
    .reply id .register 200 .ok ∈ acts env met.1 met.2 →
    ∃ handler ∈ met.1.suspended, handler.id = id ∧
      ∃ (call : RegisterCall) (counter : Nat), handler.await = .registerAssertion call ∧
        assertionVerdict env call = .ok counter ∧
        .put (.assertCounter call.key.keyId counter) ∈ acts env met.1 met.2

section Climb
variable {keyId : String} {stored : List Nat} {store : Store} {script : List Act}

/-- The counters so far increase, and the room holds the last one. -/
structure Climbing (keyId : String) (stored : List Nat) (store : Store) : Prop where
  increasing : stored.Pairwise (· < ·)
  last : store.assertCounters.lookup keyId = stored.getLast?

theorem Climbing.plain (climbing : Climbing keyId stored store) {act : Act}
    (plain : act.verb ≠ .putAssertCounter) :
    Climbing keyId (climb keyId stored act) (store.after act) := by
  obtain ⟨increasing, last⟩ := climbing
  cases act with
  | put row =>
      cases row with
      | assertCounter key counter => simp at plain
      | _ => exact ⟨increasing, last⟩
  | delete key => cases key <;> exact ⟨increasing, last⟩
  | deleteAll => exact ⟨List.Pairwise.nil, rfl⟩
  | _ => exact ⟨increasing, last⟩

theorem Climbing.fold (climbing : Climbing keyId stored store)
    (plain : ∀ act ∈ script, act.verb ≠ .putAssertCounter) :
    Climbing keyId (script.foldl (climb keyId) stored) (script.foldl Store.after store) := by
  induction script generalizing stored store with
  | nil => exact climbing
  | cons act rest ih =>
      rw [List.forall_mem_cons] at plain
      exact ih (climbing.plain plain.1) plain.2

theorem Climbing.put (climbing : Climbing keyId stored store) {key : String} {counter : Nat}
    (fresh : ∀ last, store.assertCounters.lookup key = some last → last < counter) :
    Climbing keyId (climb keyId stored (.put (.assertCounter key counter)))
      (store.after (.put (.assertCounter key counter))) := by
  obtain ⟨increasing, last⟩ := climbing
  simp only [climb, Store.after, Store.put]
  split
  · rename_i same
    subst same
    refine ⟨List.pairwise_append.mpr ⟨increasing, List.pairwise_singleton _ _, ?_⟩, ?_⟩
    · intro low member high here
      obtain rfl := List.mem_singleton.mp here
      obtain ⟨lead, top, rfl⟩ : ∃ lead top, stored = lead ++ [top] :=
        ⟨_, _, (List.dropLast_append_getLast (List.ne_nil_of_mem member)).symm⟩
      rw [List.getLast?_concat] at last
      have above := fresh top last
      rcases List.mem_append.mp member with early | here
      · exact ((List.pairwise_append.mp increasing).2.2 low early top (by simp)).trans above
      · exact List.mem_singleton.mp here ▸ above
    · simp
  · rename_i apart
    exact ⟨increasing, by rw [AList.lookup_insert_ne (Ne.symm apart), last]⟩

end Climb

section Step
variable {env : Env} {state : State} {event : Event} {keyId : String}

/-- What the end of a registration does, when its assertion is in order. -/
def writes (now : Nat) (state : State) (id : Nat) (call : RegisterCall) : List Act :=
  .put (.registrantKeyId call.key.keyId) :: writeVerifier now state id call.token call.verifier

theorem finishRegister_cases (env : Env) (now : Nat) (state : State) (id : Nat)
    (call : RegisterCall) :
    (∃ front message, Within [.read] front ∧ finishRegister env now state id call =
      front ++ answer id .register 403 (.error message)) ∨
    ∃ counter, assertionVerdict env call = .ok counter ∧
      freshCounter state call.key.keyId counter = true ∧
      finishRegister env now state id call =
        [.get] ++ .put (.assertCounter call.key.keyId counter) :: writes now state id call := by
  unfold finishRegister
  split
  · exact .inl ⟨[], _, Within.nil, rfl⟩
  · rename_i counter verdict
    by_cases fresh : freshCounter state call.key.keyId counter = true
    · exact .inr ⟨counter, verdict, fresh, by simp [fresh, writes]⟩
    · exact .inl ⟨[.get], "stale assertion", by simp, by simp [fresh]⟩

theorem writes_answers {now id number : Nat} {call : RegisterCall} {endpoint : Endpoint}
    {status : Nat} {body : Body}
    (member : .reply number endpoint status body ∈ writes now state id call) : number = id := by
  rcases List.mem_cons.mp member with stores | written
  · exact Act.noConfusion stores
  · rcases List.mem_append.mp written with early | answered
    · rcases List.mem_append.mp early with stores | bumps
      · simp at stores
      · refine absurd bumps ((bumpActivity_within ..).lacks ?_)
        cases endpoint <;> cases body <;> simp
    · simp only [answer, List.mem_cons, Act.reply.injEq, reduceCtorEq, List.not_mem_nil,
        or_false] at answered
      exact answered.1

theorem resume_acts {now id : Nat} {random : Bytes} {fault : Option Nat} {handler : Suspended}
    {act : Act} (found : state.find id = some handler)
    (member : act ∈ acts env state (.resume now id random fault)) :
    ∃ performed late, performed <+: continuation env now handler.ctx
        (state.wake id handler.await.drains) random id handler.await ∧
      (late = [] ∨ late = handler.await.onThrow id) ∧
      acts env state (.resume now id random fault) = performed ++ late := by
  rcases step_cases env state (.resume now id random fault) with
    ⟨none_, _⟩ | ⟨met, turns, performed, _⟩
  · rw [none_] at member
    exact absurd member List.not_mem_nil
  · cases turns with
    | resume now id random fault handler' found' quiet =>
        rw [found] at found'
        cases found'
        refine ⟨_, _, Script.done_initial _ _ _ _, ?_, performed⟩
        split
        · exact .inr rfl
        · exact .inl rfl

-- A step that stores a counter, or answers a registration after an assertion, is the end of that
-- registration.
theorem registers {act : Act} (member : act ∈ acts env state event)
    (verb : act.verb = .putAssertCounter ∨
      attestationRequired env = true ∧ act.verb = .replyRegistered) :
    ∃ (call : RegisterCall) (counter : Nat) (rest : List Act),
      (∃ handler ∈ state.suspended, handler.await = .registerAssertion call ∧
        ∀ id endpoint body, act = .reply id endpoint 200 body → id = handler.id) ∧
      assertionVerdict env call = .ok counter ∧
      freshCounter state call.key.keyId counter = true ∧
      acts env state event = [.get] ++ .put (.assertCounter call.key.keyId counter) :: rest ∧
      ∀ act ∈ rest, act.verb ≠ .putAssertCounter ∧ act.verb ≠ .deleteAll := by
  obtain ⟨now, id, random, fault, handler, rfl, found, inside⟩ := resumes_of_verb member
    (by rcases verb with same | ⟨_, same⟩ <;> rw [same] <;> simp) (by
      intro request
      rcases verb with same | ⟨attested, same⟩
      · rw [same]
        cases request <;> simp
        split <;> simp
      · rw [same]
        cases request <;> simp [attested])
  obtain ⟨handlerId, ctx, await⟩ := handler
  have fits := (continuation_within env now ctx (state.wake id await.drains) id random await).each
    _ inside
  cases await with
  | registerAssertion call =>
      have plain : ∀ {verbs script}, Within verbs script → (∀ verb ∈ verbs,
          verb ≠ .putAssertCounter ∧ verb ≠ .replyRegistered) → act ∉ script := by
        intro verbs script quiet apart here
        have known := apart _ (quiet.each _ here)
        rcases verb with same | ⟨_, same⟩
        · exact known.1 same
        · exact known.2 same
      rcases finishRegister_cases env now (state.wake id none) id call with
        ⟨front, message, quiet, refused⟩ | ⟨counter, verdict, fresh, whole⟩
      · have inside : act ∈ finishRegister env now (state.wake id none) id call := inside
        rw [refused] at inside
        rcases List.mem_append.mp inside with early | late
        · exact absurd early (plain quiet (by simp))
        · exact absurd late (plain (answer_within ..) (by simp))
      · have script : continuation env now ctx (state.wake id none) random id
            (.registerAssertion call) = [.get] ++ .put (.assertCounter call.key.keyId counter) ::
              writes now (state.wake id none) id call := whole
        have tail : ∀ act ∈ writes now (state.wake id none) id call,
            act.verb ≠ .putAssertCounter ∧ act.verb ≠ .deleteAll := by
          refine List.forall_mem_cons.mpr ⟨by simp, fun act inside => ?_⟩
          exact ⟨(writeVerifier_within ..).avoids (by simp) act inside,
            (writeVerifier_within ..).avoids (by simp) act inside⟩
        obtain ⟨performed, late, initial, caught, acts_⟩ := resume_acts found member
        have initial : performed <+: .get :: .put (.assertCounter call.key.keyId counter) ::
            writes now (state.wake id none) id call := by
          rw [← List.singleton_append, ← script]
          exact initial
        have late_ : Within [.reply] late := by
          rcases caught with rfl | rfl
          · exact Within.nil
          · simp [Await.onThrow]
        rw [acts_] at member ⊢
        have begun : ∀ {front}, Within [.read] front → act ∈ front ++ late → False := by
          intro front quiet inside
          have light : Within [.read, .reply] (front ++ late) :=
            Within.append_iff.mpr ⟨quiet.mono (by simp), late_.mono (by simp)⟩
          exact plain light (by simp) inside
        rcases List.prefix_cons_iff.mp initial with rfl | ⟨others, rfl, short⟩
        · exact (begun Within.nil member).elim
        · rcases List.prefix_cons_iff.mp short with rfl | ⟨rest, rfl, shorter⟩
          · exact (begun (by simp) member).elim
          · have own : ∀ number endpoint body, act = .reply number endpoint 200 body →
                number = handlerId := by
              rintro number endpoint body rfl
              have numbered : handlerId = id := (mem_find found).2
              rw [numbered]
              have inside : Act.reply number endpoint 200 body ∈
                  finishRegister env now (state.wake id none) id call := inside
              rw [whole] at inside
              simp only [List.mem_append, List.mem_cons, List.not_mem_nil, or_false, false_or,
                reduceCtorEq] at inside
              exact writes_answers inside
            refine ⟨call, counter, rest ++ late, ⟨_, (mem_find found).1, rfl, own⟩, verdict, fresh,
              by simp, fun act inside => ?_⟩
            rcases List.mem_append.mp inside with early | caught_
            · exact tail act (shorter.subset early)
            · exact ⟨late_.avoids (by simp) act caught_, late_.avoids (by simp) act caught_⟩
  | _ =>
      rcases verb with same | ⟨_, same⟩
      · rw [same] at fits
        simp at fits
      · rw [same] at fits
        simp at fits

theorem climbing_step {stored : List Nat} (climbing : Climbing keyId stored state.store) :
    Climbing keyId ((acts env state event).foldl (climb keyId) stored)
      (step env state event).store := by
  rw [step_store]
  by_cases stores : ∃ key counter, .put (.assertCounter key counter) ∈ acts env state event
  · obtain ⟨key, counter, member⟩ := stores
    obtain ⟨call, high, rest, _, _, fresh, whole, plain⟩ := registers member (.inl (by simp))
    rw [whole, List.singleton_append, List.foldl_cons, List.foldl_cons, List.foldl_cons,
      List.foldl_cons]
    refine ((climbing.plain (by simp)).put fun last found => ?_).fold
      fun act member => (plain act member).1
    have found : state.store.assertCounters.lookup call.key.keyId = some last := found
    simpa [freshCounter, found] using fresh
  · refine climbing.fold fun act member => ?_
    cases act with
    | put row =>
        cases row with
        | assertCounter key counter => exact absurd ⟨key, counter, member⟩ stores
        | _ => simp
    | delete key => cases key <;> simp
    | send ws message => cases message <;> simp
    | reply id endpoint status body => cases endpoint <;> cases body <;> simp
    | _ => simp

end Step

theorem climbing_run (env : Env) (events : List Event) (keyId : String) :
    Climbing keyId (counters env events keyId) (run env events).store := by
  induction events using List.reverseRecOn with
  | nil => exact ⟨List.Pairwise.nil, rfl⟩
  | append_singleton before event ih =>
      have ran : run env (before ++ [event]) = step env (run env before) event := by simp [run]
      have goes : counters env (before ++ [event]) keyId =
          (acts env (run env before) event).foldl (climb keyId) (counters env before keyId) := by
        simp only [counters, steps, Machine.steps_append, List.flatMap_append, List.foldl_append]
        simp
      rw [ran, goes]
      exact climbing_step ih

/-- In every run the counters of each key climb. -/
theorem counters_climb (env : Env) (events : List Event) : CountersClimb env events := by
  refine ⟨fun keyId => (climbing_run env events keyId).increasing,
    fun keyId => (climbing_run env events keyId).last, ?_⟩
  intro attested met member id answered
  obtain ⟨call, counter, rest, ⟨handler, suspended, awaits, own⟩, verdict, _, whole, _⟩ :=
    registers answered (.inr ⟨attested, by simp⟩)
  exact ⟨handler, suspended, (own id .register .ok rfl).symm, call, counter, awaits, verdict,
    by rw [whole]; simp⟩

end Relay

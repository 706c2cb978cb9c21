import CompanionRelay.Housekeeping
import CompanionRelay.OneTime

/-!
The challenges of /attest/challenge and the tickets of /attest. Each consumer reads its row and
deletes it in one turn, whichever of the three endpoints or the proof it is, and a prune takes
rows away only, so a row is consumed once. host/storage.js binds every statement to the name of
its room, so a relay of many rooms is a state for each name.
-/

namespace Relay

open Function (update)

/-- The rooms of a process, an event of one of which leaves the others alone. -/
def roomsStep (env : String → Env) (rooms : String → State) (event : String × Event) :
    String → State :=
  update rooms event.1 (step (env event.1) (rooms event.1) event.2)

/-- The two kinds of single-use rows. -/
inductive Pool
  | challenges
  | tickets

def Pool.key : Pool → String → Key
  | .challenges => .challenge
  | .tickets => .ticket

/-- What a row issues, and until when it is good. -/
def Pool.issued : Pool → Row → Option (String × Nat)
  | .challenges, .challenge challenge expiresAt => some (challenge, expiresAt)
  | .tickets, .ticket ticket rec => some (ticket, rec.expiresAt)
  | _, _ => none

def Pool.kept : Pool → Store → String → Option Nat
  | .challenges, store, challenge => store.challenges.lookup challenge
  | .tickets, store, ticket => (store.tickets.lookup ticket).map (·.expiresAt)

/-- The handlers that consume: the three endpoints, and a proof. The others that delete such
rows are the prunes of /attest/challenge and of alarm(). -/
def Pool.consumes : Pool → Event → Bool
  | .challenges, .request _ (.attest _) _ _ | .challenges, .request _ (.register _) _ _
  | .challenges, .request _ (.delete _) _ _ => true
  | .tickets, .run _ => true
  | _, _ => false

section Statement
variable (env : Env) (pool : Pool) (value : String) (state : State) (event : Event)

def Pool.issues : Act → Option Nat
  | .put row =>
      match pool.issued row with
      | some (issued, expiresAt) => if issued = value then some expiresAt else none
      | none => none
  | _ => none

/-- The challenge of a call of /attest, /register or /delete. -/
def Event.challenge : Event → Option String
  | .request _ (.attest (some body)) _ _ | .request _ (.register (some body)) _ _
  | .request _ (.delete (some body)) _ _ => (body.readString "challenge").join
  | _ => none

/-- What an endpoint goes on to once its challenge has passed. -/
def Act.checks : Act → Bool
  | .suspend _ (.attestDigest _) | .suspend _ (.registerDigest _)
  | .suspend _ (.deleteSignature _) => true
  | _ => false

/-- The socket, the random bytes and the ticket of the phone's proof that a step handles. -/
def presentedTicket : Event → Option (SocketId × Bytes × String)
  | .run _ =>
      match state.draining with
      | none => none
      | some ws =>
          match state.chain ws, state.admission ws with
          | .message frame random _ :: _, some (.challenged .phone _ _) =>
              ((env.parse frame).bind fun proof => (proof.readString "ticket").join).map
                fun ticket => (ws, random, ticket)
          | _, _ => none
  | _ => none

-- The attested key that comes with a ticket.
def ticketKey (ticket : String) : Option AttestedKey :=
  (state.store.tickets.lookup ticket).map fun rec => ⟨rec.keyId, rec.publicKey⟩

/-- No throw keeps the script of a turn from its last part. -/
def Turn.reaches (met : Turn) (last : List Act) : Prop :=
  last <:+ met.script ∧
    met.script.take (met.script.length - last.length) <+: done met.fault met.script

instance (met : Turn) (last : List Act) : Decidable (met.reaches last) :=
  inferInstanceAs (Decidable (_ ∧ _))

/-- An endpoint lets the challenge pass and goes on, or a ticket lets a proof reach Room.admit. -/
def Pool.accepts : Bool :=
  match pool with
  | .challenges => decide (event.challenge = some value) && (acts env state event).any Act.checks
  | .tickets =>
      match presentedTicket env state event, turn env state event with
      | some (ws, random, ticket), some met =>
          attestationRequired env && decide (ticket = value) && decide (met.reaches
            (admitSocket env event.now met.ctx met.start random ws .phone (ticketKey state ticket)))
      | _, _ => false

def Pool.takes : Option Nat :=
  if pool.accepts env value state event then some event.now else none

/-- The value's row is deleted by a handler that consumes. -/
def Pool.spends : Option Nat :=
  if pool.consumes event ∧ .delete (pool.key value) ∈ acts env state event
    then some event.now else none

/-- What an event does in one of the rooms. -/
def inRoom {Part : Type} (room : String) (elsewhere : Part) (part : State → Event → Part)
    (met : (String → State) × (String × Event)) : Part :=
  if met.2.1 = room then part (met.1 room) met.2.2 else elsewhere

/-- Over a run of many rooms, each room accepts a challenge, and lets a proof with a ticket
reach Room.admit, at most as often as it has issued that value itself, and in its time. -/
def SingleUse (env : String → Env) (events : List (String × Event)) : Prop :=
  ∀ room pool value, OneTime.UsedOnce
    (inRoom room [] fun state event =>
      (acts (env room) state event).filterMap (Pool.issues pool value))
    (inRoom room none (Pool.takes (env room) pool value))
    (Machine.steps (roomsStep env) (fun _ => initial) events)

end Statement

section Cell
variable (pool : Pool) (value : String)

/-- What an act leaves under the key, if it touches it. -/
def Pool.writes : Act → Option (Option Nat)
  | .put row =>
      match pool.issued row with
      | some (issued, expiresAt) => if issued = value then some (some expiresAt) else none
      | none => none
  | .delete key => if key = pool.key value then some none else none
  | .deleteAll => some none
  | _ => none

theorem Pool.kept_after (store : Store) (act : Act) :
    pool.kept (store.after act) value = (pool.writes value act).getD (pool.kept store value) := by
  cases act with
  | put row =>
      cases pool with
      | challenges =>
          cases row with
          | challenge issued expiresAt =>
              by_cases same : issued = value
              · subst same
                simp [Store.after, Store.put, Pool.kept, Pool.writes, Pool.issued]
              · simp [Store.after, Store.put, Pool.kept, Pool.writes, Pool.issued, same,
                  AList.lookup_insert_ne (Ne.symm same)]
          | _ => rfl
      | tickets =>
          cases row with
          | ticket issued rec =>
              by_cases same : issued = value
              · subst same
                simp [Store.after, Store.put, Pool.kept, Pool.writes, Pool.issued]
              · simp [Store.after, Store.put, Pool.kept, Pool.writes, Pool.issued, same,
                  AList.lookup_insert_ne (Ne.symm same)]
          | _ => rfl
  | delete key =>
      by_cases same : key = pool.key value
      · subst same
        cases pool <;> simp [Store.after, Store.delete, Pool.kept, Pool.writes, Pool.key]
      · cases pool <;> cases key <;>
          simp_all [Store.after, Store.delete, Pool.kept, Pool.writes, Pool.key,
            AList.lookup_erase_ne, Ne.symm]
  | deleteAll => cases pool <;> rfl
  | _ => rfl

theorem Pool.kept_after_all (script : List Act) (store : Store) :
    (pool.kept (script.foldl Store.after store) value = pool.kept store value ∧
      ∀ act ∈ script, pool.writes value act = none) ∨
    ∃ act ∈ script,
      pool.writes value act = some (pool.kept (script.foldl Store.after store) value) := by
  induction script generalizing store with
  | nil => exact .inl ⟨rfl, by simp⟩
  | cons act rest ih =>
      rw [List.foldl_cons]
      rcases ih (store.after act) with ⟨kept, quiet⟩ | ⟨other, member, written⟩
      · rw [kept, pool.kept_after]
        cases writes : pool.writes value act with
        | none => exact .inl ⟨rfl, List.forall_mem_cons.mpr ⟨writes, quiet⟩⟩
        | some left => exact .inr ⟨act, by simp, writes⟩
      · exact .inr ⟨other, List.mem_cons_of_mem act member, written⟩

end Cell

section Consumers
variable {env : Env} {now : Nat} {ctx : ContextId} {state : State} {event : Event}

theorem answer_keeps {id : Nat} {endpoint : Endpoint} {status : Nat} {body : Body} {key : Key} :
    .delete key ∉ answer id endpoint status body := by
  simp [answer]

theorem handleAttest_consumes {id : Nat} {body : Option Json} {challenge : String}
    (member : .delete (.challenge challenge) ∈ handleAttest env now state id body) :
    liveChallenge now state challenge = true := by
  unfold handleAttest at member
  dsimp only at member
  split at member
  · exact absurd member answer_keeps
  · split at member
    · exact absurd member answer_keeps
    · split at member
      · simp only [List.mem_cons, reduceCtorEq, false_or] at member
        split at member
        · rename_i live
          simp only [List.mem_cons, Act.delete.injEq, Key.challenge.injEq] at member
          rcases member with rfl | later
          · exact live
          · split at later <;> simp at later
        · exact absurd member answer_keeps
      · simp at member
      · exact absurd member answer_keeps

theorem handleDelete_consumes {id : Nat} {body : Option Json} {challenge : String}
    (member : .delete (.challenge challenge) ∈ handleDelete env now state id body) :
    liveChallenge now state challenge = true := by
  unfold handleDelete at member
  dsimp only at member
  split at member
  · exact absurd member answer_keeps
  · simp only [List.mem_cons, reduceCtorEq, false_or] at member
    split at member
    · exact absurd member answer_keeps
    · split at member
      · simp only [List.mem_cons, reduceCtorEq, false_or] at member
        split at member
        · rename_i live
          simp only [List.mem_cons, Act.delete.injEq, Key.challenge.injEq] at member
          rcases member with rfl | later
          · exact live
          · split at later <;> simp at later
        · exact absurd member answer_keeps
      · simp at member
      · exact absurd member answer_keeps

theorem writeVerifier_keeps {id : Nat} {token verifier challenge : String} :
    .delete (.challenge challenge) ∉ writeVerifier now state id token verifier :=
  (writeVerifier_within ..).lacks (by simp)

theorem handleRegister_consumes {id : Nat} {body : Option Json} {challenge : String}
    (member : .delete (.challenge challenge) ∈ handleRegister env now state id body) :
    liveChallenge now state challenge = true := by
  unfold handleRegister at member
  dsimp only at member
  split at member
  · exact absurd member answer_keeps
  split at member
  · simp at member
  · simp at member
  · exact absurd member answer_keeps
  simp only [List.mem_cons, reduceCtorEq, false_or] at member
  split at member
  · exact absurd member answer_keeps
  split at member
  · exact absurd member answer_keeps
  simp only [List.mem_cons, reduceCtorEq, false_or] at member
  split at member
  · exact absurd member answer_keeps
  split at member
  · exact absurd member answer_keeps
  split at member
  · exact absurd member writeVerifier_keeps
  split at member
  · exact absurd member answer_keeps
  split at member
  · simp only [List.mem_cons, reduceCtorEq, false_or] at member
    split at member
    · rename_i live
      simp only [List.mem_cons, Act.delete.injEq, Key.challenge.injEq] at member
      rcases member with rfl | later
      · exact live
      · split at later <;> simp at later
    · exact absurd member answer_keeps
  · exact absurd member answer_keeps

theorem Joins.redeems {join : Join} (joins : Joins env state event join) {ticket : String}
    (member : .delete (.ticket ticket) ∈ join.script env) :
    ∃ rec, state.store.tickets.lookup ticket = some rec ∧ ¬ rec.expiresAt < join.now := by
  have presented : .delete (.ticket ticket) ∈ join.lead := by
    rcases List.mem_append.mp member with early | late
    · exact early
    · exact absurd late ((admit_within ..).lacks (by simp))
  cases joins with
  | pairing now ws role nonce yields frame random fault rest window lead attest drained free next
      admission absent given =>
      cases given with
      | nothing free => simp at presented
      | ticket stored rec required phone issued live =>
          obtain rfl : ticket = stored := by simpa using presented
          exact ⟨rec, issued, live⟩
  | signature now id random fault ctx check found verified =>
      exact absurd presented ((bumpActivity_within ..).lacks (by simp))

end Consumers

section Acceptance
variable {env : Env} {now : Nat} {ctx : ContextId} {state : State} {event : Event}

theorem answer_checks {id : Nat} {endpoint : Endpoint} {status : Nat} {body : Body} :
    ∀ act ∈ answer id endpoint status body, act.checks = false := by
  simp [answer, Act.checks]

/-- Where a script goes on to its check, the challenge is deleted just before. -/
def Spent (challenge : String) (script : List Act) : Prop :=
  (∀ act ∈ script, act.checks = false) ∨
    ∃ lead act, script = lead ++ [.delete (.challenge challenge), act] ∧
      ∀ other ∈ lead, other.checks = false

theorem Spent.cons {challenge : String} {act : Act} {script : List Act}
    (calm : act.checks = false) (spent : Spent challenge script) :
    Spent challenge (act :: script) := by
  rcases spent with quiet | ⟨lead, last, rfl, quiet⟩
  · exact .inl (List.forall_mem_cons.mpr ⟨calm, quiet⟩)
  · exact .inr ⟨act :: lead, last, rfl, List.forall_mem_cons.mpr ⟨calm, quiet⟩⟩

theorem Spent.performed {challenge : String} {script : List Act} (spent : Spent challenge script)
    {fault : Option Nat} {act : Act} (member : act ∈ done fault script)
    (checks : act.checks = true) : .delete (.challenge challenge) ∈ done fault script := by
  have inside : act ∈ script := Script.done_subset _ _ member
  rcases spent with quiet | ⟨lead, last, whole, quiet⟩
  · rw [quiet act inside] at checks
    cases checks
  · have apart : act ∉ lead ++ [.delete (.challenge challenge)] := by
      intro early
      rcases List.mem_append.mp early with early | early
      · rw [quiet act early] at checks
        cases checks
      · rw [List.mem_singleton.mp early] at checks
        cases checks
    have split : script = (lead ++ [.delete (.challenge challenge)]) ++ last :: [] := by
      simp [whole]
    obtain rfl : act = last := by
      rw [split] at inside
      rcases List.mem_append.mp inside with early | late
      · exact absurd early apart
      · exact List.mem_singleton.mp late
    rw [split] at member ⊢
    exact (Script.done_before _ _ apart member).subset (by simp)

theorem Spent.checked {challenge : String} {go refuse : List Act} (live : Bool)
    (quiet : ∀ act ∈ refuse, act.checks = false)
    (goes : ∃ act, go = [act]) :
    Spent challenge (.get :: if live then .delete (.challenge challenge) :: go else refuse) := by
  apply Spent.cons rfl
  cases live with
  | false => exact .inl quiet
  | true =>
      obtain ⟨act, rfl⟩ := goes
      exact .inr ⟨[], act, rfl, by simp⟩

theorem handleAttest_spent {id : Nat} {body : Json} {challenge : String}
    (named : body.readString "challenge" = some (some challenge)) :
    Spent challenge (handleAttest env now state id (some body)) := by
  unfold handleAttest
  dsimp only
  split
  · exact .inl answer_checks
  · rw [named]
    split
    · rename_i first _
      obtain rfl := Option.some.inj (Option.some.inj first)
      apply Spent.checked _ answer_checks
      split <;> exact ⟨_, rfl⟩
    · contradiction
    · exact .inl answer_checks

theorem handleDelete_spent {id : Nat} {body : Json} {challenge : String}
    (named : body.readString "challenge" = some (some challenge)) :
    Spent challenge (handleDelete env now state id (some body)) := by
  unfold handleDelete
  dsimp only
  apply Spent.cons rfl
  split
  · exact .inl answer_checks
  · rw [named]
    split
    · rename_i first _
      obtain rfl := Option.some.inj (Option.some.inj first)
      apply Spent.checked _ answer_checks
      split <;> exact ⟨_, rfl⟩
    · contradiction
    · exact .inl answer_checks

theorem handleRegister_spent {id : Nat} {body : Json} {challenge : String}
    (named : body.readString "challenge" = some (some challenge)) :
    Spent challenge (handleRegister env now state id (some body)) := by
  have written : ∀ token verifier, ∀ act ∈ writeVerifier now state id token verifier,
      act.checks = false := by
    intro token verifier act member
    rw [writeVerifier, List.mem_append, List.mem_append] at member
    rcases member with (early | bump) | answered
    · simp only [List.mem_cons, List.not_mem_nil, or_false] at early
      rcases early with rfl | rfl <;> rfl
    · have fits := (bumpActivity_within now state).each act bump
      cases act <;> first | rfl | simp at fits
    · exact answer_checks act answered
  unfold handleRegister
  dsimp only
  split
  · exact .inl (by simp [Act.checks])
  · exact .inl (by simp [Act.checks])
  · exact .inl answer_checks
  apply Spent.cons rfl
  split
  · exact .inl answer_checks
  split
  · exact .inl answer_checks
  apply Spent.cons rfl
  split
  · exact .inl answer_checks
  split
  · exact .inl answer_checks
  split
  · exact .inl (written _ _)
  split
  · exact .inl answer_checks
  rw [named]
  split
  · rename_i first _
    obtain rfl := Option.some.inj (Option.some.inj first)
    apply Spent.checked _ answer_checks
    split <;> exact ⟨_, rfl⟩
  · exact .inl answer_checks

/-- What Room.admit ends with, and no refusal before it. -/
def Act.endsAdmit : Act → Bool
  | .send _ (.ok _) | .deleteAll => true
  | .send _ (.refused error) => decide (error = "mac offline" ∨ error = "slot occupied")
  | _ => false

theorem admit_ends (random : Bytes) (ws : SocketId) (key : Option AttestedKey) :
    ∃ act ∈ admitSocket env now ctx state random ws .phone key, act.endsAdmit = true := by
  rcases admit_cases env now ctx state random ws .phone key with
    ⟨offline, _⟩ | ⟨capped, _⟩ | ⟨takes, _⟩
  · exact ⟨.send ws (.refused "mac offline"), by simp [offline, reject], by simp [Act.endsAdmit]⟩
  · exact ⟨.deleteAll, by simp [capped, teardownRoom], rfl⟩
  · rw [takes]
    rcases takeSlot_cases env now ctx state random ws .phone key with ⟨yields, _⟩ | ⟨seats, _⟩
    · exact ⟨.send ws (.refused "slot occupied"), by simp [yields, reject],
        by simp [Act.endsAdmit]⟩
    · exact ⟨.send ws (.ok (some (b64 random))), by simp [seats, seat, greet], rfl⟩

theorem handleProof_redeems (required : attestationRequired env = true) {id : Nat} {ws : SocketId}
    {nonce : String} {random : Bytes} {frame : Frame} {proof : Json} {ticket : String}
    (parsed : env.parse frame = some proof)
    (named : proof.readString "ticket" = some (some ticket)) :
    (∀ act ∈ handleProof env now ctx state id ws .phone nonce random frame,
      act.endsAdmit = false) ∨
    ∃ lead, handleProof env now ctx state id ws .phone nonce random frame =
        lead ++ .delete (.ticket ticket) ::
          admitSocket env now ctx state random ws .phone (ticketKey state ticket) := by
  unfold handleProof
  dsimp only
  split
  · exact .inl (by simp [reject, Act.endsAdmit])
  · rw [parsed]
    dsimp only
    split
    · unfold pairingProof
      rw [if_pos required, named]
      dsimp only
      cases stored : state.store.tickets.lookup ticket with
      | none => exact .inl (by simp [reject, Act.endsAdmit])
      | some rec =>
          dsimp only
          split
          · exact .inl (by simp [reject, Act.endsAdmit])
          · exact .inr ⟨[.countAdmission _, .get, .get], by simp only [ticketKey, stored]; rfl⟩
    · split
      · exact .inl (by simp [Act.endsAdmit])
      · exact .inl (by simp [reject, Act.endsAdmit])
      · split <;> exact .inl (by simp [Act.endsAdmit])

theorem Turns.passes_deletes {met : Turn} (turns : Turns env state event met) {challenge : String}
    (named : event.challenge = some challenge) {act : Act} (member : act ∈ met.acts)
    (checks : act.checks = true) : .delete (.challenge challenge) ∈ met.acts := by
  cases turns with
  | request now request random fault ctx resident =>
      have ran : act ∈ done fault (handleHttp env now state.enter state.nextId random request) := by
        rcases List.mem_append.mp member with ran | caught
        · exact ran
        · split at caught
          · rw [List.mem_singleton.mp caught] at checks
            cases checks
          · simp at caught
      have spent : Spent challenge
          (handleHttp env now state.enter state.nextId random request) := by
        cases request with
        | attest body =>
            cases body with
            | none => simp [Event.challenge] at named
            | some body => exact handleAttest_spent (Option.join_eq_some_iff.mp named)
        | register body =>
            cases body with
            | none => simp [Event.challenge] at named
            | some body => exact handleRegister_spent (Option.join_eq_some_iff.mp named)
        | delete body =>
            cases body with
            | none => simp [Event.challenge] at named
            | some body => exact handleDelete_spent (Option.join_eq_some_iff.mp named)
        | _ => simp [Event.challenge] at named
      exact List.mem_append_left _ (spent.performed ran checks)
  | _ => simp [Event.challenge] at named

theorem webSocketMessage_redeems (required : attestationRequired env = true) {id : Nat}
    {ws : SocketId} {nonce : String} {yields : Bool} {random : Bytes} {frame : Frame} {proof : Json}
    {ticket : String} (challenged : state.admission ws = some (.challenged .phone nonce yields))
    (parsed : env.parse frame = some proof)
    (named : proof.readString "ticket" = some (some ticket)) :
    (∀ act ∈ webSocketMessage env now ctx state id ws random frame, act.endsAdmit = false) ∨
    ∃ lead, webSocketMessage env now ctx state id ws random frame =
        lead ++ .delete (.ticket ticket) ::
          admitSocket env now ctx state random ws .phone (ticketKey state ticket) := by
  unfold webSocketMessage
  split
  · exact .inl (by simp [closePeerOf, challenged, Act.endsAdmit])
  · rw [challenged]
    exact handleProof_redeems required parsed named

theorem Turn.reaches_after {met : Turn} {lead last : List Act} {act : Act}
    (reaches : met.reaches last) (whole : met.script = lead ++ act :: last) : act ∈ met.acts := by
  have before := reaches.2
  have front : met.script.take (met.script.length - last.length) = lead ++ [act] := by
    rw [whole, List.append_cons, List.length_append, Nat.add_sub_cancel, List.take_left]
  rw [front] at before
  exact List.mem_append_left _ (before.subset (by simp))

-- A proof that its ticket takes to Room.admit has deleted the ticket.
theorem Turns.reaches_deletes {met : Turn} (turns : Turns env state event met)
    (required : attestationRequired env = true) {ws : SocketId} {random : Bytes} {ticket : String}
    (presented : presentedTicket env state event = some (ws, random, ticket))
    (reaches : met.reaches
      (admitSocket env event.now met.ctx met.start random ws .phone (ticketKey state ticket))) :
    .delete (.ticket ticket) ∈ met.acts := by
  have loud : ¬ ∀ act ∈ met.script, act.endsAdmit = false := by
    intro quiet
    obtain ⟨final, inside, concludes⟩ := admit_ends random ws (ticketKey state ticket)
    rw [quiet final (reaches.1.subset inside)] at concludes
    cases concludes
  cases turns with
  | task now own task rest drained free next =>
      cases task with
      | message frame given fault =>
          simp only [presentedTicket, drained, next] at presented
          split at presented
          · rename_i first challenged
            obtain ⟨⟨rfl, rfl, _⟩, _⟩ : (_ ∧ _ ∧ _) ∧ _ := by simpa using first
            rw [Option.map_eq_some_iff] at presented
            obtain ⟨_, found, same⟩ := presented
            obtain ⟨proof, parsed, named⟩ := Option.bind_eq_some_iff.mp found
            obtain ⟨rfl, rfl, rfl⟩ : _ ∧ _ ∧ _ := by simpa using same
            rcases @webSocketMessage_redeems env now (state.home own) (state.pop own rest) required
              state.nextId own _ _ given _ _ _ challenged parsed
              (Option.join_eq_some_iff.mp named) with quiet | ⟨lead, whole⟩
            · exact absurd quiet loud
            · exact Turn.reaches_after reaches whole
          · cases presented
      | _ => simp [presentedTicket, drained, next] at presented
  | idle now ws drained stopped => exact absurd (by simp) loud
  | _ => simp [presentedTicket] at presented

end Acceptance

section Pools
variable {env : Env} {state : State} {event : Event} (pool : Pool) (value : String)

def Pool.verb : Pool → Verb
  | .challenges => .putChallenge
  | .tickets => .putTicket

theorem Pool.writes_cases {act : Act} {left : Option Nat} (writes : pool.writes value act = some left) :
    left = none ∨ act.verb = pool.verb ∧ pool.issues value act = left := by
  cases act with
  | put row =>
      cases pool <;> cases row <;> simp_all [Pool.writes, Pool.issued, Pool.issues, Pool.verb]
  | delete key =>
      have same : key = pool.key value ∧ left = none := by simpa [Pool.writes] using writes.symm
      exact .inl same.2
  | deleteAll => exact .inl (by simpa [Pool.writes] using writes.symm)
  | _ => simp [Pool.writes] at writes

theorem Pool.consumes_apart (consumes : pool.consumes event = true) :
    pool.verb ∉ catchVerbs ++ footprint env state event := by
  cases pool with
  | challenges =>
      cases event with
      | request now request random fault =>
          cases request with
          | register body =>
              cases required : attestationRequired env <;>
                simp [Pool.verb, footprint, required]
          | _ => simp [Pool.consumes, Pool.verb, footprint] at consumes ⊢
      | _ => simp [Pool.consumes] at consumes
  | tickets =>
      cases event with
      | run now =>
          simp only [Pool.verb, footprint]
          split <;> simp
      | _ => simp [Pool.consumes] at consumes

theorem Pool.consumes_kept (consumes : pool.consumes event = true)
    (member : .delete (pool.key value) ∈ acts env state event) :
    ∃ expiresAt, pool.kept state.store value = some expiresAt ∧ event.now ≤ expiresAt := by
  obtain ⟨met, turns, inside⟩ := mem_acts member
  have ran : .delete (pool.key value) ∈ met.script := by
    rcases turn_act inside with ran | caught
    · exact ran
    · exact absurd (turns.on_throw.each _ caught) (by cases pool <;> simp [Pool.key])
  cases pool with
  | challenges =>
      cases turns with
      | request now request random fault ctx resident =>
          have live : liveChallenge now state value = true := by
            change liveChallenge now state.enter value = true
            cases request with
            | attest body => exact handleAttest_consumes ran
            | register body => exact handleRegister_consumes ran
            | delete body => exact handleDelete_consumes ran
            | _ => simp [Pool.consumes] at consumes
          unfold liveChallenge at live
          split at live
          · exact Bool.noConfusion live
          · rename_i expiresAt stored
            exact ⟨expiresAt, stored, by simpa [Event.now] using live⟩
      | _ => simp [Pool.consumes] at consumes
  | tickets =>
      cases turns with
      | task now ws task rest drained free next =>
          cases task with
          | message frame random fault =>
              rcases webSocketMessage_joining now ws frame random fault rest drained free next with
                ⟨_, _, plain⟩ | ⟨join, joins, _, whole, _⟩
              · exact absurd ran (plain.lacks (by simp [Pool.key]))
              · have reached : .delete (.ticket value) ∈ join.script env := by
                  rw [← whole]
                  exact ran
                obtain ⟨rec, stored, live⟩ := joins.redeems reached
                have clock : join.now = now := by cases joins; rfl
                rw [clock] at live
                exact ⟨rec.expiresAt, congrArg (Option.map TicketRec.expiresAt) stored,
                  Nat.le_of_not_lt live⟩
          | _ => exact absurd ran ((closePeerOf_within ..).lacks (by simp [Pool.key]))
      | idle now ws drained stopped => simp at ran
      | _ => simp [Pool.consumes] at consumes

theorem Pool.spends_step {now : Nat} (spends : pool.spends env value state event = some now) :
    (∃ expiresAt, pool.kept state.store value = some expiresAt ∧ now ≤ expiresAt) ∧
      pool.kept (step env state event).store value = none := by
  unfold Pool.spends at spends
  split at spends
  · rename_i spent
    obtain ⟨consumes, member⟩ := spent
    obtain rfl : event.now = now := by simpa using spends
    refine ⟨pool.consumes_kept value consumes member, ?_⟩
    rw [step_store]
    rcases pool.kept_after_all value (acts env state event) state.store with
      ⟨_, quiet⟩ | ⟨act, inside, written⟩
    · simpa [Pool.writes] using quiet _ member
    · rcases pool.writes_cases value written with gone | ⟨verb, _⟩
      · exact gone
      · have fits := (acts_within env state event).each act inside
        rw [verb] at fits
        exact absurd fits (pool.consumes_apart consumes)
  · cases spends

theorem Pool.accepts_deletes (accepts : pool.accepts env value state event = true) :
    pool.consumes event = true ∧ .delete (pool.key value) ∈ acts env state event := by
  unfold Pool.accepts at accepts
  split at accepts
  · rw [Bool.and_eq_true, decide_eq_true_eq, List.any_eq_true] at accepts
    obtain ⟨named, act, member, checks⟩ := accepts
    constructor
    · unfold Event.challenge at named
      split at named <;> first | rfl | cases named
    · unfold acts at member ⊢
      cases happens : turn env state event with
      | none => simp [happens] at member
      | some met =>
          rw [happens] at member
          exact (turn_turns happens).passes_deletes named member checks
  · split at accepts
    · rename_i ws random ticket met presented happens
      simp only [Bool.and_eq_true, decide_eq_true_eq] at accepts
      obtain ⟨⟨required, rfl⟩, reaches⟩ := accepts
      constructor
      · unfold presentedTicket at presented
        split at presented
        · rfl
        · cases presented
      · unfold acts
        rw [happens]
        exact (turn_turns happens).reaches_deletes required presented reaches
    · cases accepts

-- What is accepted is spent by the same step.
theorem Pool.takes_spends {now : Nat} (takes : pool.takes env value state event = some now) :
    pool.spends env value state event = some now := by
  unfold Pool.takes at takes
  split at takes
  · rename_i accepts
    rw [← takes]
    exact if_pos (pool.accepts_deletes value accepts)
  · cases takes

theorem Pool.keeps_step (env : Env) (state : State) (event : Event) :
    pool.kept (step env state event).store value = none ∨
      pool.kept (step env state event).store value = pool.kept state.store value ∨
      ∃ expiresAt ∈ (acts env state event).filterMap (pool.issues value),
        pool.kept (step env state event).store value = some expiresAt := by
  rw [step_store]
  rcases pool.kept_after_all value (acts env state event) state.store with
    ⟨same, _⟩ | ⟨act, inside, written⟩
  · exact .inr (.inl same)
  · rcases pool.writes_cases value written with gone | ⟨_, issued⟩
    · exact .inl gone
    · cases left : pool.kept ((acts env state event).foldl Store.after state.store) value with
      | none => exact .inl rfl
      | some expiresAt =>
          rw [left] at issued
          exact .inr (.inr ⟨expiresAt, List.mem_filterMap.mpr ⟨act, inside, issued⟩, rfl⟩)

end Pools

/-- In every run of every number of rooms each challenge and each ticket is used once, in its
time and in the room that issued it. -/
theorem single_use (env : String → Env) (events : List (String × Event)) :
    SingleUse env events := by
  intro room pool value
  let kept : (String → State) → Option Nat := fun rooms => pool.kept (rooms room).store value
  have discipline : OneTime.Discipline (roomsStep env) kept
      (inRoom room [] fun state event =>
        (acts (env room) state event).filterMap (Pool.issues pool value))
      (inRoom room none (Pool.takes (env room) pool value)) := by
    constructor
    · rintro rooms ⟨name, event⟩ now takes
      simp only [inRoom] at takes
      split at takes
      · rename_i same
        subst same
        simpa [kept, roomsStep] using pool.spends_step value (pool.takes_spends value takes)
      · cases takes
    · rintro rooms ⟨name, event⟩
      by_cases same : name = room
      · subst same
        simpa [kept, roomsStep, inRoom] using pool.keeps_step value (env name) (rooms name) event
      · exact .inr (.inl (by simp [kept, roomsStep, Function.update_of_ne (Ne.symm same)]))
  have empty : kept (fun _ => initial) = none := by
    cases pool <;> rfl
  exact OneTime.used_once discipline empty events

-- The ticket of an attested phone is redeemed by its first proof, at time 1.
example : (steps (sampleEnv true) (.get 1 :: joins 1 0 1 macHello openProof [1] ++
      asks 1 4 .challenge [10] 1 ++ asks 1 5 (attestation "Cg==") [9] 3 ++
      joins 1 1 6 phoneHello ticketProof [2] ++ joins 2 2 9 phoneHello ticketProof [3])).filterMap
    (fun met => Pool.takes (sampleEnv true) .tickets "CQ==" met.1 met.2) = [1] := by
  decide +kernel

end Relay

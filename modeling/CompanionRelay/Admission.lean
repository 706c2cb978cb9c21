import CompanionRelay.Wiring

/-!
Room.admit taken apart: the ways a call of it ends, the handlers that reach it, and
the state it is reached in. A step that admits a socket is one of two: the message of
a proof in pairing mode, or a proof that goes on after its signature was accepted.
-/

namespace Relay

section Admit
variable (env : Env) (now : Nat) (ctx : ContextId) (state : State)

/-- The counter of the park, which a mac's join resets and a phone's join raises. -/
def charge : Role → List Act
  | .mac => if established state then [] else [.put (.pairingCycles 0)]
  | .phone =>
      if established state then []
      else [.get, .put (.pairingCycles (state.store.pairingCycles.getD 0 + 1))]

def displace (ws : SocketId) (role : Role) : List Act :=
  (state.holders ctx ws role).map (.close · 1000 "displaced")

def admittedAs (ws : SocketId) (role : Role) : Attachment :=
  { (state.attachment ws).getD ⟨.hello, env.roomName, none, now⟩ with admission := .admitted role }

/-- The answer to an admitted socket; a phone's carries a new registration token. -/
def greet (random : Bytes) (ws : SocketId) (attest : Option AttestedKey) : Role → List Act
  | .mac => [.send ws (.ok none)]
  | .phone =>
      .put (.regToken (b64 random) ⟨now + regTokenTtlMs, attest⟩) :: ensureAlarm now state ++
        [.send ws (.ok (some (b64 random)))]

variable (random : Bytes) (ws : SocketId) (role : Role) (attest : Option AttestedKey)

/-- A join that takes the slot. -/
def seat : List Act :=
  displace ctx state ws role ++ .attach ws (admittedAs env now state ws role) ::
    greet now state random ws attest role

theorem takeSlot_cases :
    (takeSlot env now ctx state random ws role attest = reject ws "slot occupied" ∧
      nonDisplacing state ws = true ∧ state.holders ctx ws role ≠ []) ∨
    (takeSlot env now ctx state random ws role attest =
        seat env now ctx state random ws role attest ∧
      (nonDisplacing state ws = false ∨ state.holders ctx ws role = [])) := by
  unfold takeSlot
  by_cases yields : (nonDisplacing state ws && !(state.holders ctx ws role).isEmpty) = true
  · left
    simp only [yields, if_true, true_and]
    simpa using yields
  · right
    simp only [yields, Bool.false_eq_true, if_false]
    constructor
    · cases role <;> rfl
    · cases flag : nonDisplacing state ws with
      | false => exact .inl rfl
      | true => exact .inr (by simpa [flag] using yields)

theorem admit_cases :
    (admitSocket env now ctx state random ws role attest = .get :: reject ws "mac offline" ∧
      role = .phone ∧ state.holders ctx ws .mac = []) ∨
    (admitSocket env now ctx state random ws role attest =
        .get :: .get :: teardownRoom ctx state "pairing cycle cap" ∧
      role = .phone ∧ established state = false ∧ state.holders ctx ws .mac ≠ [] ∧
      maxPairingCycles < state.store.pairingCycles.getD 0 + 1) ∨
    (admitSocket env now ctx state random ws role attest =
        .get :: charge state role ++ takeSlot env now ctx state random ws role attest ∧
      (role = .phone → state.holders ctx ws .mac ≠ [] ∧
        (established state = false → state.store.pairingCycles.getD 0 + 1 ≤ maxPairingCycles))) := by
  unfold admitSocket charge
  cases role with
  | mac =>
      refine .inr (.inr ⟨?_, by simp⟩)
      cases established state <;> simp
  | phone =>
      by_cases offline : (state.holders ctx ws .mac).isEmpty = true
      · exact .inl ⟨by simp only [offline, if_true], rfl, by simpa using offline⟩
      · have parked : state.holders ctx ws .mac ≠ [] := by simpa using offline
        cases stored : established state with
        | true => exact .inr (.inr ⟨by simp [parked], fun _ => ⟨parked, by simp⟩⟩)
        | false =>
            by_cases exceeds : maxPairingCycles < state.store.pairingCycles.getD 0 + 1
            · exact .inr (.inl ⟨by simp [parked, exceeds], rfl, rfl, parked, exceeds⟩)
            · exact .inr (.inr ⟨by simp [parked, exceeds],
                fun _ => ⟨parked, fun _ => not_lt.mp exceeds⟩⟩)

end Admit

section Proof
variable (env : Env) (now : Nat) (ctx : ContextId) (state : State)

/-- What a socket in pairing mode gave for its admission: nothing where nothing is asked,
or a live ticket, which is consumed. -/
inductive Presented (role : Role) : List Act → Option AttestedKey → Prop
  | nothing (free : attestationRequired env = false ∨ role = .mac) : Presented role [] none
  | ticket (ticket : String) (rec : TicketRec) (required : attestationRequired env = true)
      (phone : role = .phone) (issued : state.store.tickets.lookup ticket = some rec)
      (live : ¬ rec.expiresAt < now) :
      Presented role [.get, .delete (.ticket ticket)] (some ⟨rec.keyId, rec.publicKey⟩)

/-- What pairingProof asks of a proof before it calls Room.admit. -/
def passesPairing (role : Role) (proof : Json) : Bool :=
  if attestationRequired env then
    match role with
    | .mac => true
    | .phone =>
        match proof.readString "ticket" with
        | some (some ticket) =>
            match state.store.tickets.lookup ticket with
            | some rec => !decide (rec.expiresAt < now)
            | none => false
        | _ => false
  else true

/-- What handleProof asks of a proof before it calls Room.admit in the same turn. -/
def passesProof (role : Role) (frame : Frame) : Bool :=
  !(rateLimited (state.admissionWindow ctx) now maxAdmissionAttempts admissionWindowMs).2 &&
    match env.parse frame with
    | none => false
    | some proof => (truthy state.store.verifier).isNone && passesPairing env now state role proof

@[simp] def refusedVerbs : List Verb := [.count, .read, .suspend, .send, .close, .throw]

theorem pairingProof_cases (random : Bytes) (ws : SocketId) (role : Role) (proof : Json) :
    (passesPairing env now state role proof = false ∧
      Within refusedVerbs (pairingProof env now ctx state random ws role proof)) ∨
    (passesPairing env now state role proof = true ∧
      ∃ lead attest, Presented env now state role lead attest ∧
        pairingProof env now ctx state random ws role proof =
          lead ++ admitSocket env now ctx state random ws role attest) := by
  have rejected : ∀ error, Within refusedVerbs (reject ws error) :=
    fun error => (reject_within ws error).mono (by simp)
  unfold pairingProof passesPairing
  cases required : attestationRequired env with
  | false => exact .inr ⟨rfl, [], none, .nothing (.inl required), rfl⟩
  | true =>
      cases role with
      | mac => exact .inr ⟨rfl, [], none, .nothing (.inr rfl), rfl⟩
      | phone =>
          simp only [if_true]
          cases given : proof.readString "ticket" with
          | none => exact .inl ⟨rfl, by simp⟩
          | some text =>
              cases text with
              | none => exact .inl ⟨rfl, rejected _⟩
              | some ticket =>
                  dsimp only
                  cases issued : state.store.tickets.lookup ticket with
                  | none => exact .inl ⟨rfl, Within.cons_iff.mpr ⟨by simp, rejected _⟩⟩
                  | some rec =>
                      by_cases stale : rec.expiresAt < now
                      · simp only [stale, if_true]
                        exact .inl ⟨by simp, Within.cons_iff.mpr ⟨by simp, rejected _⟩⟩
                      · simp only [stale, if_false]
                        exact .inr ⟨by simp, _, _,
                          .ticket ticket rec required rfl issued stale, rfl⟩

theorem handleProof_cases (id : Nat) (ws : SocketId) (role : Role) (nonce : String)
    (random : Bytes) (frame : Frame) :
    (passesProof env now ctx state role frame = false ∧
      Within refusedVerbs (handleProof env now ctx state id ws role nonce random frame)) ∨
    (passesProof env now ctx state role frame = true ∧
      ∃ window lead attest, Presented env now state role lead attest ∧
        truthy state.store.verifier = none ∧
        handleProof env now ctx state id ws role nonce random frame =
          .countAdmission window :: .get :: lead ++
            admitSocket env now ctx state random ws role attest) := by
  have rejected : ∀ error, Within refusedVerbs (reject ws error) :=
    fun error => (reject_within ws error).mono (by simp)
  unfold handleProof passesProof
  dsimp only
  cases limited : (rateLimited (state.admissionWindow ctx) now maxAdmissionAttempts
    admissionWindowMs).2 with
  | true => exact .inl ⟨rfl, Within.cons_iff.mpr ⟨by simp, rejected _⟩⟩
  | false =>
      cases env.parse frame with
      | none => exact .inl ⟨rfl, Within.cons_iff.mpr ⟨by simp, rejected _⟩⟩
      | some proof =>
          cases stored : truthy state.store.verifier with
          | none =>
              rcases pairingProof_cases env now ctx state random ws role proof with
                ⟨fails, quiet⟩ | ⟨passes, lead, attest, presented, whole⟩
              · exact .inl ⟨by simpa using fails, by simpa using quiet⟩
              · right
                refine ⟨by simpa using passes, (rateLimited (state.admissionWindow ctx) now
                  maxAdmissionAttempts admissionWindowMs).1, lead, attest, presented, rfl, ?_⟩
                simp only [Bool.false_eq_true, if_false]
                rw [whole]
                rfl
          | some verifier =>
              refine .inl ⟨by simp, ?_⟩
              simp only [Bool.false_eq_true, if_false, Within.cons_iff]
              refine ⟨by simp, by simp, ?_⟩
              split
              · simp
              · exact rejected _
              · split <;> simp

end Proof

/-- The parts of the state on which admission decides. -/
structure SameRoom (first second : State) : Prop where
  live : first.live = second.live
  sockets : first.sockets = second.sockets
  home : first.home = second.home
  attachment : first.attachment = second.attachment
  serverClosed : first.serverClosed = second.serverClosed
  verifier : first.store.verifier = second.store.verifier
  pairingCycles : first.store.pairingCycles = second.store.pairingCycles

namespace SameRoom
variable {first second : State} (same : SameRoom first second)
include same

theorem admission (ws : SocketId) : first.admission ws = second.admission ws :=
  admission_eq first second ws (by rw [same.attachment])

theorem holders (ctx : ContextId) (ws : SocketId) (role : Role) :
    first.holders ctx ws role = second.holders ctx ws role := by
  simp only [State.holders, State.holds, same.sockets, same.admission]

theorem established : Relay.established first = Relay.established second := by
  simp only [Relay.established, same.verifier]

theorem nonDisplacing (ws : SocketId) :
    Relay.nonDisplacing first ws = Relay.nonDisplacing second ws := by
  simp only [Relay.nonDisplacing, same.admission]

end SameRoom

theorem bump_same_room (now : Nat) (ctx : ContextId) (state : State) :
    SameRoom (replay ctx state (bumpActivity now state)) state := by
  unfold bumpActivity ensureAlarm
  dsimp only
  split
  · constructor <;> rfl
  · split <;> constructor <;> rfl

section Joins
variable (env : Env) (state : State)

/-- A proof that reaches Room.admit: the script before the call, and the state in
which the call decides. -/
structure Join where
  now : Nat
  ctx : ContextId
  ws : SocketId
  role : Role
  random : Bytes
  attest : Option AttestedKey
  lead : List Act
  mid : State

def Join.script (join : Join) : List Act :=
  join.lead ++ admitSocket env join.now join.ctx join.mid join.random join.ws join.role join.attest

/-- The two ways a proof reaches Room.admit. -/
inductive Joins : Event → Join → Prop
  | pairing (now : Nat) (ws : SocketId) (role : Role) (nonce : String) (yields : Bool)
      (frame : Frame) (random : Bytes) (fault : Option Nat) (rest : List Task) (window : Window)
      (lead : List Act) (attest : Option AttestedKey)
      (drained : state.draining = some ws) (free : state.verifying ws = false)
      (next : state.chain ws = .message frame random fault :: rest)
      (challenged : state.admission ws = some (.challenged role nonce yields))
      (absent : truthy state.store.verifier = none)
      (presented : Presented env now state role lead attest) :
      Joins (.run now)
        ⟨now, state.home ws, ws, role, random, attest, .countAdmission window :: .get :: lead,
          state.pop ws rest⟩
  | signature (now id : Nat) (random : Bytes) (fault : Option Nat) (ctx : ContextId)
      (check : JoinCheck) (found : state.find id = some ⟨id, ctx, .proofSignature check⟩)
      (verified : env.verifyJoin check.sig check.transcript check.verifier = true) :
      Joins (.resume now id random fault)
        ⟨now, ctx, check.ws, check.role, random, none,
          bumpActivity now (state.wake id (some check.ws)),
          replay ctx (state.wake id (some check.ws))
            (bumpActivity now (state.wake id (some check.ws)))⟩

/-- The socket and the role of the proof that an event takes to Room.admit, if any. -/
def joining : Event → Option (SocketId × Role)
  | .run now =>
      match state.draining with
      | none => none
      | some ws =>
          if state.verifying ws then none
          else
            match state.chain ws with
            | .message frame _ _ :: _ =>
                match state.admission ws with
                | some (.challenged role _ _) =>
                    if frame.size ≤ frameCap state ws ∧
                      passesProof env now (state.home ws) state role frame = true
                    then some (ws, role) else none
                | _ => none
            | _ => none
  | .resume now id random fault =>
      if state.busy (.resume now id random fault) then none
      else
        match state.find id with
        | some ⟨_, _, .proofSignature check⟩ =>
            if env.verifyJoin check.sig check.transcript check.verifier
              then some (check.ws, check.role) else none
        | _ => none
  | _ => none

end Joins

/-- The acts that only Room.admit performs. -/
def Act.admits : Act → Bool
  | .attach _ ⟨.admitted _, _, _, _⟩ => true
  | .send _ (.ok _) => true
  | .put (.pairingCycles _) | .put (.regToken _ _) => true
  | _ => false

def admittingVerbs : List Verb := [.attach, .sendOk, .putPairingCycles, .putRegToken]

theorem admits_verb {act : Act} (admits : act.admits = true) : act.verb ∈ admittingVerbs := by
  cases act with
  | put row => cases row <;> simp [Act.admits, admittingVerbs] at admits ⊢
  | attach ws attachment => simp [admittingVerbs]
  | send ws message => cases message <;> simp [Act.admits, admittingVerbs] at admits ⊢
  | _ => simp [Act.admits] at admits

theorem Within.not_admits {verbs : List Verb} {script : List Act} (fits : Within verbs script)
    (apart : ∀ verb ∈ admittingVerbs, verb ∉ verbs) : ∀ act ∈ script, act.admits = false := by
  intro act member
  by_contra admits
  rw [Bool.not_eq_false] at admits
  exact apart _ (admits_verb admits) (fits.each act member)

theorem handleHello_not_admits (env : Env) (state : State) (ws : SocketId) (random : Bytes)
    (frame : Frame) : ∀ act ∈ handleHello env state ws random frame, act.admits = false := by
  intro act member
  unfold handleHello at member
  split at member
  · split at member
    · dsimp only at member
      split at member
      · split at member
        · simp only [List.mem_cons, List.not_mem_nil, or_false] at member
          rcases member with rfl | rfl <;> rfl
        · rw [List.mem_singleton.mp member]
          rfl
      · rw [List.mem_singleton.mp member]
        rfl
    · rw [List.mem_singleton.mp member]
      rfl
    · rw [List.mem_singleton.mp member]
      rfl
  · rw [List.mem_singleton.mp member]
    rfl

-- An upgrade continues on a socket that has sent nothing yet.
theorem finishUpgrade_not_admits (env : Env) (now : Nat) (ctx : ContextId) (state : State)
    (ws : SocketId) (waiting : state.admission ws = some .hello) :
    ∀ act ∈ finishUpgrade env now ctx state ws, act.admits = false := by
  intro act member
  by_contra admits
  rw [Bool.not_eq_false] at admits
  have verb := (finishUpgrade_within env now ctx state ws).each _ member
  have attaches : act.verb = .attach := by
    rcases List.mem_cons.mp verb with attaches | other
    · exact attaches
    · have kept := admits_verb admits
      generalize act.verb = verb at other kept
      cases verb <;> simp [admittingVerbs] at other kept
  obtain ⟨target, value, rfl⟩ := attach_of_verb attaches
  obtain ⟨rfl, same⟩ := finishUpgrade_admission env now ctx state ws target value member
  obtain ⟨admission, roomName, tag, connectedAt⟩ := value
  obtain rfl : Admission.hello = admission := by simpa [waiting] using same
  simp [Act.admits] at admits

section Reached
variable {env : Env} {state : State} {event : Event} {met : Turn} {join : Join}

/-- The kinds of act of a frame's handler that does not reach Room.admit. -/
@[simp] def plainVerbs : List Verb := [.attach, .meter, .putQuota, .sendRelayed] ++ refusedVerbs

theorem webSocketMessage_joining (now : Nat) (ws : SocketId) (frame : Frame) (random : Bytes)
    (fault : Option Nat) (rest : List Task) (drained : state.draining = some ws)
    (free : state.verifying ws = false)
    (next : state.chain ws = .message frame random fault :: rest) :
    (joining env state (.run now) = none ∧
      (∀ act ∈ webSocketMessage env now (state.home ws) (state.pop ws rest) state.nextId ws random
        frame, act.admits = false) ∧
      Within plainVerbs (webSocketMessage env now (state.home ws) (state.pop ws rest) state.nextId
        ws random frame)) ∨
    ∃ join, Joins env state (.run now) join ∧
      joining env state (.run now) = some (join.ws, join.role) ∧
      webSocketMessage env now (state.home ws) (state.pop ws rest) state.nextId ws random frame =
        join.script env ∧ join.ctx = state.home ws := by
  have quiet : ∀ {verbs script}, Within verbs script →
      (∀ verb ∈ admittingVerbs, verb ∉ verbs) ∧ verbs ⊆ plainVerbs →
      (∀ act ∈ script, act.admits = false) ∧ Within plainVerbs script :=
    fun fits apart => ⟨fits.not_admits apart.1, fits.mono apart.2⟩
  have hello : (∀ act ∈ handleHello env (state.pop ws rest) ws random frame, act.admits = false) ∧
      Within plainVerbs (handleHello env (state.pop ws rest) ws random frame) :=
    ⟨handleHello_not_admits env _ ws random frame, (handleHello_within ..).mono (by simp)⟩
  have same : (state.pop ws rest).admission ws = state.admission ws := rfl
  simp only [joining, drained, free, Bool.false_eq_true, if_false, next]
  unfold webSocketMessage
  rw [same]
  by_cases large : frame.size > frameCap (state.pop ws rest) ws
  · left
    rw [if_pos large]
    have large : ¬ frame.size ≤ frameCap state ws := Nat.not_le_of_lt large
    constructor
    · split
      · simp [large]
      · rfl
    · have ends : Within [.close] (closePeerOf (state.home ws) (state.pop ws rest) ws ++
          [.close ws 1009 "frame too large"]) :=
        Within.append_iff.mpr ⟨closePeerOf_within _ _ ws, by simp⟩
      exact quiet ends (by simp [admittingVerbs])
  · rw [if_neg large]
    cases admission : state.admission ws with
    | none => exact .inl ⟨rfl, hello⟩
    | some current =>
        cases current with
        | hello => exact .inl ⟨rfl, hello⟩
        | admitted role =>
            exact .inl ⟨rfl, quiet (spliceFrame_within ..) (by simp [admittingVerbs])⟩
        | challenged role nonce yields =>
            have small : frame.size ≤ frameCap state ws := Nat.le_of_not_lt large
            rcases handleProof_cases env now (state.home ws) (state.pop ws rest) state.nextId ws
              role nonce random frame with ⟨fails, refused⟩ |
              ⟨passes, window, lead, attest, presented, absent, whole⟩
            · left
              have fails : passesProof env now (state.home ws) state role frame = false := fails
              exact ⟨by simp [fails], quiet refused (by simp [admittingVerbs])⟩
            · right
              have passes : passesProof env now (state.home ws) state role frame = true := passes
              refine ⟨_, .pairing now ws role nonce yields frame random fault rest window lead
                attest drained free next admission absent ?_, by simp [small, passes], whole, rfl⟩
              cases presented with
              | nothing open_ => exact .nothing open_
              | ticket ticket rec required phone issued live =>
                  exact .ticket ticket rec required phone issued live

theorem finishProof_joining (now id : Nat) (random : Bytes) (fault : Option Nat)
    (ctx : ContextId) (check : JoinCheck)
    (found : state.find id = some ⟨id, ctx, .proofSignature check⟩)
    (free : state.busy (.resume now id random fault) = false) :
    (joining env state (.resume now id random fault) = none ∧
      finishProof env now ctx (state.wake id (some check.ws)) random check =
        reject check.ws "bad signature") ∨
    ∃ join, Joins env state (.resume now id random fault) join ∧
      joining env state (.resume now id random fault) = some (join.ws, join.role) ∧
      finishProof env now ctx (state.wake id (some check.ws)) random check = join.script env ∧
      join.ctx = ctx := by
  cases verified : env.verifyJoin check.sig check.transcript check.verifier with
  | false =>
      exact .inl ⟨by simp [joining, free, found, verified], by simp [finishProof, verified]⟩
  | true =>
      right
      refine ⟨_, .signature now id random fault ctx check found verified,
        by simp [joining, free, found, verified], ?_, rfl⟩
      simp only [finishProof, verified, if_true]
      rfl

theorem Turns.joining_cases (wired : Wired env state) (turns : Turns env state event met)
    (free : state.busy event = false) :
    (joining env state event = none ∧ ∀ act ∈ met.script, act.admits = false) ∨
    ∃ join, Joins env state event join ∧
      joining env state event = some (join.ws, join.role) ∧
      met.script = join.script env ∧ join.ctx = met.ctx := by
  have fits := turns.script_within
  cases turns with
  | task now ws task rest drained unproved next =>
      cases task with
      | message frame random fault =>
          rcases webSocketMessage_joining now ws frame random fault rest drained
            unproved next with ⟨none_, quiet, _⟩ | reached
          · exact .inl ⟨none_, quiet⟩
          · exact .inr reached
      | closed =>
          exact .inl ⟨by simp [joining, drained, unproved, next],
            (closePeerOf_within ..).not_admits (by simp [admittingVerbs])⟩
      | errored =>
          exact .inl ⟨by simp [joining, drained, unproved, next],
            (closePeerOf_within ..).not_admits (by simp [admittingVerbs])⟩
  | idle now ws drained stopped =>
      left
      simp only [joining, drained, List.not_mem_nil, false_implies, implies_true, and_true]
      split
      · rfl
      · rename_i unproved
        rcases stopped with verifying | empty
        · exact absurd verifying unproved
        · simp [empty]
  | resume now id random fault handler found quiet =>
      obtain ⟨member, numbered⟩ := mem_find found
      obtain ⟨handlerId, ctx, await⟩ := handler
      obtain rfl : handlerId = id := numbered
      cases await with
      | proofSignature check =>
          rcases finishProof_joining now handlerId random fault ctx check found free with
            ⟨none_, refused⟩ | reached
          · refine .inl ⟨none_, ?_⟩
            have fits := reject_within check.ws "bad signature"
            rw [← refused] at fits
            exact fits.not_admits (by simp [admittingVerbs])
          · exact .inr reached
      | upgradeTag ws =>
          exact .inl ⟨by simp [joining, free, found], finishUpgrade_not_admits _ _ _ _ ws
            (wired.upgrading _ member ws rfl).1⟩
      | _ =>
          refine .inl ⟨by simp [joining, free, found], ?_⟩
          simp only [footprint, found, Option.map_some, Option.getD_some] at fits
          exact fits.not_admits (by simp [admittingVerbs])
  | connect now ws ctx resident unseen =>
      refine .inl ⟨rfl, fun act member => ?_⟩
      simp only [handleUpgrade, List.mem_cons, List.not_mem_nil, or_false] at member
      rcases member with rfl | rfl | rfl <;> rfl
  | request now request random fault ctx resident =>
      refine .inl ⟨rfl, fits.not_admits ?_⟩
      cases request with
      | register body =>
          cases required : attestationRequired env <;> simp [admittingVerbs, footprint, required]
      | _ => simp [admittingVerbs, footprint]
  | get => exact .inl ⟨rfl, by simp⟩
  | chunk => exact .inl ⟨rfl, by simp⟩
  | ended => exact .inl ⟨rfl, by simp⟩
  | fire => exact .inl ⟨rfl, fits.not_admits (by simp [admittingVerbs, footprint])⟩
  | alarm => exact .inl ⟨rfl, fits.not_admits (by simp [admittingVerbs, footprint])⟩
  | drain => exact .inl ⟨rfl, fits.not_admits (by simp [admittingVerbs, footprint])⟩
  | restart => exact .inl ⟨rfl, by simp⟩

end Reached

section Unadmitted
variable {env : Env} {state : State} {event : Event} {met : Turn}

theorem webSocketMessage_unadmitted (env : Env) (now : Nat) (ctx : ContextId) (state : State)
    (id : Nat) (ws : SocketId) (random : Bytes) (frame : Frame) (role : Role)
    (admitted : state.admission ws = some (.admitted role)) (other : SocketId)
    (value : Attachment) :
    .attach other value ∉ webSocketMessage env now ctx state id ws random frame := by
  unfold webSocketMessage
  simp only [admitted]
  split
  · have ends : Within [.close] (closePeerOf ctx state ws ++ [.close ws 1009 "frame too large"]) :=
      Within.append_iff.mpr ⟨closePeerOf_within ctx state ws, by simp⟩
    exact ends.lacks (by simp)
  · exact (spliceFrame_within ..).lacks (by simp)

-- No handler writes the attachment of an admitted socket.
theorem Turns.attaches_unadmitted (wired : Wired env state) (turns : Turns env state event met)
    {ws : SocketId} {value : Attachment} (member : .attach ws value ∈ met.acts) (role : Role) :
    state.admission ws ≠ some (.admitted role) := by
  intro admitted
  have ran : .attach ws value ∈ met.script := by
    rcases turn_act member with ran | caught
    · exact ran
    · exact absurd (turns.on_throw.each _ caught) (by simp)
  have fits := turns.script_within
  cases turns with
  | connect now other ctx resident unseen =>
      simp only [handleUpgrade, List.mem_cons, reduceCtorEq, Act.attach.injEq, List.not_mem_nil,
        or_false, false_or] at ran
      obtain ⟨rfl, _⟩ := ran
      simp [State.admission, unseen] at admitted
  | task now other task rest drained free next =>
      cases task with
      | message frame random fault =>
          have same := (webSocketMessage_attaches env now (state.home other) (state.pop other rest)
            state.nextId other random frame).only _ _ ran
          subst same
          exact webSocketMessage_unadmitted env now _ (state.pop ws rest) _ ws random frame role
            admitted ws value ran
      | closed => exact absurd ((closePeerOf_within ..).each _ ran) (by simp)
      | errored => exact absurd ((closePeerOf_within ..).each _ ran) (by simp)
  | resume now id random fault handler found quiet =>
      obtain ⟨suspended, _⟩ := mem_find found
      cases await : handler.await with
      | upgradeTag target =>
          simp only [await, continuation] at ran
          have kept := finishUpgrade_admission env now handler.ctx _ target ws value ran
          rw [kept.1, (wired.upgrading handler suspended target await).1] at admitted
          simp at admitted
      | proofSignature check =>
          simp only [await, continuation] at ran
          have same := (finishProof_attaches env now handler.ctx _ random check).only _ _ ran
          obtain ⟨nonce, flag, challenged, _⟩ :=
            (wired.proving handler suspended check await).challenged
          rw [same, challenged] at admitted
          simp at admitted
      | _ =>
          have none_ := (continuation_attaches env now handler.ctx
            (state.wake id handler.await.drains) random id handler.await
            (by simp [await, Await.concerns]) (ws + 1)).only _ _ ran
          exact absurd none_ (by simp)
  | request now request random fault ctx resident =>
      exact (request_plain env request).2 (List.mem_append_right _ (fits.each _ ran))
  | get => simp at ran
  | chunk => simp at ran
  | ended => simp at ran
  | idle => simp at ran
  | fire => exact absurd (fits.each _ ran) (by simp [footprint])
  | alarm => exact absurd (fits.each _ ran) (by simp [footprint])
  | drain => exact absurd (fits.each _ ran) (by simp [footprint])
  | restart => simp at ran

theorem attachment_kept {script : List Act} {ws : SocketId}
    (apart : ∀ value, .attach ws value ∉ script) (attachment : SocketId → Option Attachment) :
    script.foldl attachmentAfter attachment ws = attachment ws := by
  induction script generalizing attachment with
  | nil => rfl
  | cons act rest ih =>
      rw [List.foldl_cons, ih (fun value member => apart value (List.mem_cons_of_mem act member))]
      cases act with
      | attach other value =>
          have different : ws ≠ other := by
            intro same
            exact apart value (by simp [same])
          simp [attachmentAfter, Function.update_of_ne different]
      | _ => rfl

theorem admitted_stays (wired : Wired env state) {ws : SocketId} {role : Role}
    (admitted : state.admission ws = some (.admitted role)) :
    (step env state event).admission ws = some (.admitted role) := by
  rw [← admitted]
  apply admission_eq
  rw [step_attachment]
  rcases step_cases env state event with ⟨none_, _⟩ | ⟨met, turns, performed, _⟩
  · rw [none_]
    rfl
  · rw [performed]
    have apart : ∀ value, .attach ws value ∉ met.acts := fun value member =>
      turns.attaches_unadmitted wired member role admitted
    exact attachment_kept apart state.attachment

end Unadmitted

namespace Joins
variable {env : Env} {state : State} {event : Event} {join : Join}

theorem challenged (wired : Wired env state) (joins : Joins env state event join) :
    ∃ nonce yields, state.admission join.ws = some (.challenged join.role nonce yields) := by
  cases joins with
  | pairing now ws role nonce yields frame random fault rest window lead attest drained free next
      admission absent presented => exact ⟨nonce, yields, admission⟩
  | signature now id random fault ctx check found verified =>
      obtain ⟨nonce, yields, admission, _⟩ :=
        (wired.proving _ (mem_find found).1 check rfl).challenged
      exact ⟨nonce, yields, admission⟩

theorem ctx_home (wired : Wired env state) (joins : Joins env state event join) :
    join.ctx = state.home join.ws := by
  cases joins with
  | pairing => rfl
  | signature now id random fault ctx check found verified =>
      exact (wired.proving _ (mem_find found).1 check rfl).home.symm

theorem same_room (joins : Joins env state event join) : SameRoom join.mid state := by
  cases joins with
  | pairing => constructor <;> rfl
  | signature now id random fault ctx check found verified =>
      have bumped := bump_same_room now ctx (state.wake id (some check.ws))
      exact ⟨bumped.live, bumped.sockets, bumped.home, bumped.attachment, bumped.serverClosed,
        bumped.verifier, bumped.pairingCycles⟩

theorem lead_within (joins : Joins env state event join) :
    Within [.count, .read, .deleteTicket, .putLastActivity, .getAlarm, .setAlarm] join.lead := by
  cases joins with
  | pairing now ws role nonce yields frame random fault rest window lead attest drained free next
      admission absent presented =>
      cases presented <;> simp
  | signature now id random fault ctx check found verified =>
      exact (bumpActivity_within ..).mono (by simp)

end Joins

end Relay

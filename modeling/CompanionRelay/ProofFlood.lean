import CompanionRelay.FixedWindow
import CompanionRelay.Housekeeping

/-!
The limiter of handleProof over whole runs. Its window lives in the Room of a context, so a
room has as many windows as it has had contexts. Where a proof opens a window only when
those of the other contexts are over, they are one sequence of fixed windows.
-/

namespace Relay

open Function (update)

section Statement
variable (env : Env) (state : State)

/-- Whether a frame of the socket is taken as a proof. -/
def isProof (ws : SocketId) (frame : Frame) : Bool :=
  match state.admission ws with
  | some (.challenged _ _ _) => decide (frame.size ≤ frameCap state ws)
  | _ => false

/-- The context in which an event counts a proof, and the frame of the proof. -/
def countedProof : Event → Option (ContextId × Frame)
  | .run _ =>
      match state.draining with
      | none => none
      | some ws =>
          if state.verifying ws then none
          else
            match state.chain ws with
            | .message frame _ _ :: _ =>
                if isProof state ws frame then some (state.home ws, frame) else none
            | _ => none
  | _ => none

/-- Date.now() in an event, if its handler reads the clock. -/
def Event.clock : Event → Option Nat
  | .chunk _ _ _ | .ended _ | .drain => none
  | event => some event.now

/-- When the event takes a proof past the limiter. -/
def passedLimiter (event : Event) : Option Nat :=
  match countedProof state event with
  | none => none
  | some (ctx, _) =>
      if (rateLimited (state.admissionWindow ctx) event.now maxAdmissionAttempts
        admissionWindowMs).2 then none else some event.now

/-- When the event takes a proof past the limiter to the lookup of the verifier. -/
def verifierLookup (event : Event) : Option Nat :=
  match countedProof state event with
  | none => none
  | some (_, frame) => if (env.parse frame).isSome then passedLimiter state event else none

/-- The proofs of a run that reach the lookup in an interval of the window's length. -/
def lookups (events : List Event) (from_ : Nat) : Nat :=
  FixedWindow.within admissionWindowMs
    ((steps env events).filterMap fun met => verifierLookup env met.1 met.2) from_

def FloodBounded (events : List Event) : Prop :=
  ∀ from_, lookups env events from_ ≤ 2 * maxAdmissionAttempts

/-- The clock does not run backwards. -/
def Steady (events : List Event) : Prop := (events.filterMap Event.clock).Pairwise (· ≤ ·)

instance (events : List Event) : Decidable (Steady events) :=
  inferInstanceAs (Decidable (List.Pairwise _ _))

/-- The window counts nothing at this time. -/
def Window.elapsed (window : Window) (now : Nat) : Bool :=
  window.count = 0 || decide (now - window.start > admissionWindowMs)

/-- A proof that opens a window of its context finds the windows of the other contexts that
the room has had, evicted ones too, over. -/
def OneWindow (event : Event) : Prop :=
  ∀ ctx ∈ (countedProof state event).map (·.1),
    (state.admissionWindow ctx).elapsed event.now = true → ∀ other < state.nextId, other ≠ ctx →
      (state.admissionWindow other).elapsed event.now = true

instance (event : Event) : Decidable (OneWindow state event) :=
  inferInstanceAs (Decidable (∀ ctx ∈ (countedProof state event).map (·.1),
    (state.admissionWindow ctx).elapsed event.now = true → ∀ other < state.nextId, other ≠ ctx →
      (state.admissionWindow other).elapsed event.now = true))

end Statement

section Counting

def Act.counts : Act → Bool
  | .countAdmission _ => true
  | _ => false

theorem Within.not_counts {verbs : List Verb} {script : List Act} (fits : Within verbs script)
    (missing : Verb.count ∉ verbs) : ∀ act ∈ script, act.counts = false := by
  intro act member
  have apart := fits.avoids missing act member
  cases act <;> first | rfl | exact absurd rfl apart

theorem replay_windows (ctx : ContextId) (state : State) {script : List Act}
    (quiet : ∀ act ∈ script, act.counts = false) :
    (replay ctx state script).admissionWindow = state.admissionWindow := by
  apply Script.replay_keeps (perform ctx) State.admissionWindow script
  intro act member other
  cases act with
  | countAdmission window => exact absurd (quiet _ member) (by simp [Act.counts])
  | _ => rfl

variable (env : Env) (now : Nat) (ctx : ContextId) (state : State)

theorem pairingProof_quiet (random : Bytes) (ws : SocketId) (role : Role) (proof : Json) :
    ∀ act ∈ pairingProof env now ctx state random ws role proof, act.counts = false := by
  have rejected : ∀ error, ∀ act ∈ reject ws error, act.counts = false :=
    fun error => (reject_within ws error).not_counts (by simp)
  have admitted : ∀ attest, ∀ act ∈ admitSocket env now ctx state random ws role attest,
      act.counts = false := fun attest => (admit_within ..).not_counts (by simp)
  unfold pairingProof
  split
  · cases role with
    | mac => exact admitted _
    | phone =>
        dsimp only
        split
        · simp [Act.counts]
        · exact rejected _
        · rw [List.forall_mem_cons]
          refine ⟨rfl, ?_⟩
          split
          · exact rejected _
          · split
            · exact rejected _
            · exact List.forall_mem_cons.mpr ⟨rfl, admitted _⟩
  · exact admitted _

theorem handleProof_counts (id : Nat) (ws : SocketId) (role : Role) (nonce : String)
    (random : Bytes) (frame : Frame) :
    ∃ rest, handleProof env now ctx state id ws role nonce random frame =
        .countAdmission (rateLimited (state.admissionWindow ctx) now maxAdmissionAttempts
          admissionWindowMs).1 :: rest ∧
      ∀ act ∈ rest, act.counts = false := by
  have rejected : ∀ error, ∀ act ∈ reject ws error, act.counts = false :=
    fun error => (reject_within ws error).not_counts (by simp)
  unfold handleProof
  dsimp only
  refine ⟨_, rfl, ?_⟩
  split
  · exact rejected _
  · split
    · exact rejected _
    · rw [List.forall_mem_cons]
      refine ⟨rfl, ?_⟩
      split
      · exact pairingProof_quiet env now ctx state random ws role _
      · split
        · simp [Act.counts]
        · exact rejected _
        · split <;> simp [Act.counts]

theorem spliceFrame_quiet (ws : SocketId) (role : Role) (frame : Frame) :
    ∀ act ∈ spliceFrame env now ctx state ws role frame, act.counts = false := by
  unfold spliceFrame
  dsimp only
  rw [List.forall_mem_cons]
  refine ⟨rfl, ?_⟩
  split
  · have ends : Within [.close] (closePeerOf ctx state ws ++ [.close ws 1008 "frame rate exceeded"]) :=
      Within.append_iff.mpr ⟨closePeerOf_within ctx state ws, by simp⟩
    exact ends.not_counts (by simp)
  · rw [List.forall_mem_append]
    refine ⟨(meterQuota_within ..).not_counts (by simp), ?_⟩
    split
    · simp
    · exact (forward_within ..).not_counts (by simp)

-- A frame that is taken as a proof is counted, and no other is.
theorem webSocketMessage_counts (id : Nat) (ws : SocketId) (random : Bytes) (frame : Frame) :
    (isProof state ws frame = false ∧
      ∀ act ∈ webSocketMessage env now ctx state id ws random frame, act.counts = false) ∨
    (isProof state ws frame = true ∧
      ∃ rest, webSocketMessage env now ctx state id ws random frame =
          .countAdmission (rateLimited (state.admissionWindow ctx) now maxAdmissionAttempts
            admissionWindowMs).1 :: rest ∧
        ∀ act ∈ rest, act.counts = false) := by
  have hello : ∀ act ∈ handleHello env state ws random frame, act.counts = false :=
    (handleHello_within ..).not_counts (by simp)
  unfold webSocketMessage isProof
  by_cases large : frame.size > frameCap state ws
  · left
    rw [if_pos large]
    have ends : Within [.close] (closePeerOf ctx state ws ++ [.close ws 1009 "frame too large"]) :=
      Within.append_iff.mpr ⟨closePeerOf_within ctx state ws, by simp⟩
    refine ⟨?_, ends.not_counts (by simp)⟩
    split
    · simpa using large
    · rfl
  · rw [if_neg large]
    cases state.admission ws with
    | none => exact .inl ⟨rfl, hello⟩
    | some admission =>
        cases admission with
        | hello => exact .inl ⟨rfl, hello⟩
        | admitted role => exact .inl ⟨rfl, spliceFrame_quiet env now ctx state ws role frame⟩
        | challenged role nonce yields =>
            exact .inr ⟨by simpa using large, handleProof_counts ..⟩

/-- The windows after an event. -/
def windowsAfter (event : Event) : ContextId → Window :=
  match countedProof state event with
  | none => state.admissionWindow
  | some (ctx, _) => update state.admissionWindow ctx
      (rateLimited (state.admissionWindow ctx) event.now maxAdmissionAttempts admissionWindowMs).1

end Counting

section Turn
variable {env : Env} {state : State} {event : Event} {met : Turn}

theorem acts_head (met : Turn) {act : Act} {later : List Act} (script : met.script = act :: later)
    (safe : act.isStorage = false ∧ act.isThrow = false) :
    ∃ tail, met.acts = act :: tail ∧ ∀ other ∈ tail, other ∈ later ∨ other ∈ met.onThrow := by
  have first := Script.done_cons_safe Act.isStorage Act.isThrow met.fault act later safe.1 safe.2
  refine ⟨done met.fault later ++ if threw met.fault met.script then met.onThrow else [], ?_, ?_⟩
  · rw [Turn.acts, script, done, first]
    rfl
  · intro other member
    rcases List.mem_append.mp member with ran | caught
    · exact .inl (Script.done_subset _ _ ran)
    · split at caught
      · exact .inr caught
      · exact absurd caught List.not_mem_nil

theorem replayed_windows (turns : Turns env state event met) :
    met.result.admissionWindow = (replay met.ctx met.start met.acts).admissionWindow := by
  rw [Turn.result]
  rcases turns.finish_keeps (replay met.ctx met.start met.acts) with same | evicted
  · rw [same]
  · rw [evicted, maybe_evict_live]

theorem quiet_result (turns : Turns env state event met)
    (quiet : ∀ act ∈ met.script, act.counts = false) :
    met.result.admissionWindow = met.start.admissionWindow := by
  rw [replayed_windows turns]
  apply replay_windows
  intro act member
  rcases turn_act member with ran | caught
  · exact quiet act ran
  · exact turns.on_throw.not_counts (by simp) act caught

theorem message_windows {now : Nat} {ws : SocketId} {rest : List Task} {frame : Frame}
    {random : Bytes} {fault : Option Nat} (drained : state.draining = some ws)
    (free : state.verifying ws = false)
    (next : state.chain ws = .message frame random fault :: rest)
    (turns : Turns env state (.run now)
      (taskTurn env now (state.pop ws rest) ws state.nextId (.message frame random fault))) :
    (taskTurn env now (state.pop ws rest) ws state.nextId
      (.message frame random fault)).result.admissionWindow = windowsAfter state (.run now) := by
  unfold windowsAfter
  simp only [countedProof, drained, free, Bool.false_eq_true, if_false, next]
  rcases webSocketMessage_counts env now (state.home ws) (state.pop ws rest) state.nextId ws random
    frame with ⟨other, quiet⟩ | ⟨proof, later, whole, quiet⟩
  · have other : isProof state ws frame = false := other
    simp only [other, Bool.false_eq_true, if_false]
    exact quiet_result turns quiet
  · have proof : isProof state ws frame = true := proof
    simp only [proof, if_true]
    rw [replayed_windows turns]
    obtain ⟨tail, acts, inside⟩ := acts_head (taskTurn env now (state.pop ws rest) ws
      state.nextId (.message frame random fault)) whole ⟨rfl, rfl⟩
    have silent : ∀ act ∈ tail, act.counts = false := by
      intro act member
      rcases inside act member with ran | caught
      · exact quiet act ran
      · exact turns.on_throw.not_counts (by simp) act caught
    rw [acts, replay_cons, replay_windows _ _ silent]
    rfl

/-- Context numbers are not used again, and a context without a number has no window. -/
structure Numbered (state : State) : Prop where
  live : ∀ ctx, state.live = some ctx → ctx < state.nextId
  homes : ∀ ws, state.home ws < state.nextId ∨ state.home ws = 0
  blank : state.nextId = 0 → state.draining = none ∧ ∀ ws, state.attachment ws = none
  fresh : ∀ ctx, state.nextId ≤ ctx → state.admissionWindow ctx = {}

theorem Numbered.renew (numbered : Numbered state) :
    update state.admissionWindow state.nextId {} = state.admissionWindow := by
  rw [← numbered.fresh state.nextId (le_refl _), Function.update_eq_self]

theorem Turns.start_windows (turns : Turns env state event met) (numbered : Numbered state) :
    met.start.admissionWindow = state.admissionWindow := by
  cases turns with
  | get now absent quiet =>
      rw [init_keeps]
      exact numbered.renew
  | chunk ws frames tail attached hears upgraded quiet => rw [hang_up_keeps]; rfl
  | ended ws attached open_ quiet => rw [maybe_evict_live]; rfl
  | task now ws task rest drained free next => cases task <;> rfl
  | restart now =>
      dsimp only [Relay.restart]
      split
      · rfl
      · rw [maybe_evict_live, init_keeps]
        exact numbered.renew
  | _ => rfl

theorem step_windows (numbered : Numbered state) (event : Event) :
    (step env state event).admissionWindow = windowsAfter state event := by
  cases happens : turn env state event with
  | none =>
      have idle : countedProof state event = none := by
        cases event with
        | run now =>
            cases drained : state.draining with
            | none => simp [countedProof, drained]
            | some ws => simp [turn, State.busy, quietTurn, drained] at happens
        | _ => rfl
      rw [step, happens, windowsAfter, idle]
  | some met =>
      have turns := turn_turns happens
      have result : step env state event = met.result := by
        rw [step, happens]
      have quiet : countedProof state event = none → (∀ act ∈ met.script, act.counts = false) →
          met.result.admissionWindow = windowsAfter state event := by
        intro none_ quiet
        rw [quiet_result turns quiet, turns.start_windows numbered, windowsAfter, none_]
      have fits := turns.script_within
      rw [result]
      cases turns with
      | task now ws task rest drained free next =>
          cases task with
          | message frame random fault =>
              exact message_windows drained free next (.task now ws _ rest drained free next)
          | closed =>
              exact quiet (by simp [countedProof, drained, free, next])
                ((closePeerOf_within ..).not_counts (by simp))
          | errored =>
              exact quiet (by simp [countedProof, drained, free, next])
                ((closePeerOf_within ..).not_counts (by simp))
      | idle now ws drained stopped =>
          refine quiet ?_ (by simp)
          rcases stopped with verifying | empty
          · simp [countedProof, drained, verifying]
          · simp [countedProof, drained, empty]
      | resume now id random fault handler found free =>
          refine quiet rfl (fits.not_counts ?_)
          simp only [footprint, found, Option.map_some, Option.getD_some]
          cases handler.await <;> simp
      | request now request random fault ctx resident =>
          refine quiet rfl (fits.not_counts ?_)
          cases request with
          | register body => cases required : attestationRequired env <;> simp [footprint, required]
          | _ => simp [footprint]
      | get => exact quiet rfl (by simp)
      | connect => exact quiet rfl (fits.not_counts (by simp [footprint]))
      | chunk => exact quiet rfl (by simp)
      | ended => exact quiet rfl (by simp)
      | fire => exact quiet rfl (fits.not_counts (by simp [footprint]))
      | alarm => exact quiet rfl (fits.not_counts (by simp [footprint]))
      | drain => exact quiet rfl (fits.not_counts (by simp [footprint]))
      | restart => exact quiet rfl (by simp)

theorem Numbered.homed (numbered : Numbered state) {ws : SocketId}
    (drained : state.draining = some ws) : state.home ws < state.nextId := by
  have started : state.nextId ≠ 0 := by
    intro zero
    have none_ := (numbered.blank zero).1
    rw [drained] at none_
    cases none_
  rcases numbered.homes ws with below | zero
  · exact below
  · rw [zero]
    exact Nat.pos_of_ne_zero started

theorem counted_numbered (numbered : Numbered state) {ctx : ContextId} {frame : Frame}
    (counted : countedProof state event = some (ctx, frame)) : ctx < state.nextId := by
  cases event with
  | run now =>
      cases drained : state.draining with
      | none => simp [countedProof, drained] at counted
      | some ws =>
          obtain rfl : state.home ws = ctx := by
            simp only [countedProof, drained] at counted
            split at counted
            · simp at counted
            · split at counted
              · split at counted
                · simp at counted
                  exact counted.1
                · simp at counted
              · simp at counted
          exact numbered.homed drained
  | _ => simp [countedProof] at counted

theorem evicted_live {ctx other : ContextId} {state : State}
    (resident : (maybeEvict ctx state).live = some other) : state.live = some other := by
  unfold maybeEvict at resident
  split at resident
  · cases resident
  · exact resident

theorem restart_numbers (now : Nat) (state : State) :
    state.nextId ≤ (restart now state).nextId ∧
      ∀ ctx, (restart now state).live = some ctx → ctx < (restart now state).nextId := by
  unfold restart
  dsimp only
  split
  · simp
  · rw [maybe_evict_live, init_keeps]
    refine ⟨Nat.le_succ _, ?_⟩
    intro ctx resident
    have resident := evicted_live resident
    rw [init_keeps] at resident
    cases resident
    exact Nat.lt_succ_self _

theorem Turns.start_next (turns : Turns env state event met) : state.nextId ≤ met.start.nextId := by
  cases turns with
  | get now absent quiet =>
      rw [init_keeps]
      exact Nat.le_succ _
  | chunk ws frames tail attached hears upgraded quiet => rw [hang_up_keeps]; exact le_refl _
  | ended ws attached open_ quiet => rw [maybe_evict_live]; exact le_refl _
  | task now ws task rest drained free following => cases task <;> exact Nat.le_succ _
  | connect => exact Nat.le_succ _
  | request => exact Nat.le_succ _
  | restart now => exact (restart_numbers now state).1
  | _ => exact le_refl _

theorem Turns.start_live (turns : Turns env state event met) (numbered : Numbered state)
    (ctx : ContextId) (resident : met.start.live = some ctx) : ctx < met.start.nextId := by
  have before : state.live = some ctx → ctx < met.start.nextId :=
    fun resident => lt_of_lt_of_le (numbered.live ctx resident) turns.start_next
  cases turns with
  | get now absent quiet =>
      rw [init_keeps] at resident ⊢
      cases resident
      exact Nat.lt_succ_self _
  | chunk ws frames tail attached hears upgraded quiet =>
      rw [hang_up_keeps] at resident
      exact before resident
  | ended ws attached open_ quiet =>
      have kept : (maybeEvict (state.home ws) (endSocket ws
          (state.push ws (if state.serverClosed ws then [] else [.closed])))).live = some ctx := resident
      have early := evicted_live kept
      exact before early
  | task now ws task rest drained free following => cases task <;> exact before resident
  | restart now => exact (restart_numbers now state).2 ctx resident
  | _ => exact before resident

theorem Turns.result_numbers (turns : Turns env state event met) :
    met.result.nextId = met.start.nextId ∧
      ∀ ctx, met.result.live = some ctx → met.start.live = some ctx := by
  rw [Turn.result]
  rcases turns.finish_keeps (replay met.ctx met.start met.acts) with same | evicted
  · rw [same, replay_next_id, replay_live]
    exact ⟨rfl, fun _ => id⟩
  · rw [evicted]
    constructor
    · rw [maybe_evict_live]
      exact replay_next_id ..
    · intro ctx resident
      have resident := evicted_live resident
      rwa [replay_live] at resident

theorem Turns.result_home (turns : Turns env state event met) (ws : SocketId) :
    met.result.home ws = state.home ws ∨ state.live = some (met.result.home ws) := by
  by_cases accepts : ∃ other, Act.accept other ∈ met.acts
  · obtain ⟨other, member⟩ := accepts
    obtain ⟨now, opened, rfl⟩ := turns.connects member
    cases turns with
    | connect now opened ctx resident unseen =>
        have home : (Turn.result
            { ctx := ctx
              start := (freshSocket opened state).enter
              script := handleUpgrade env now state.nextId opened }).home =
            update state.home opened ctx := rfl
        rw [home, Function.update_apply]
        split
        · exact .inr resident
        · exact .inl rfl
  · left
    rw [turns.result_sockets.2, replay_home _ _ _ (not_exists.mp accepts), turns.start_home]

-- As long as no context has a number, no socket is there and no chain runs.
theorem Turns.blank (wired : Wired env state) (turns : Turns env state event met)
    (blank : state.nextId = 0 → state.draining = none ∧ ∀ ws, state.attachment ws = none)
    (zero : met.start.nextId = 0) :
    state.nextId = 0 ∧ met.start.draining = none ∧ ∀ ws value, Act.attach ws value ∉ met.acts := by
  have none_ : state.nextId = 0 := Nat.le_zero.mp (zero ▸ turns.start_next)
  obtain ⟨idle, unseen⟩ := blank none_
  have fits := turns.within turns.script_within
  refine ⟨none_, ?_⟩
  cases turns with
  | get now absent quiet =>
      rw [init_keeps] at zero
      exact absurd zero (Nat.succ_ne_zero _)
  | connect => exact absurd zero (Nat.succ_ne_zero _)
  | request => exact absurd zero (Nat.succ_ne_zero _)
  | task now ws task rest drained free next =>
      rw [idle] at drained
      cases drained
  | idle now ws drained stopped =>
      rw [idle] at drained
      cases drained
  | chunk ws frames tail attached hears upgraded quiet =>
      rw [unseen ws] at attached
      cases attached
  | ended ws attached open_ quiet =>
      rw [unseen ws] at attached
      cases attached
  | resume now id random fault handler found quiet =>
      have below := wired.numbered handler (mem_find found).1
      omega
  | fire => exact ⟨idle, fun ws value => fits.lacks (by simp [footprint])⟩
  | alarm => exact ⟨idle, fun ws value => fits.lacks (by simp [footprint])⟩
  | drain => exact ⟨idle, fun ws value => fits.lacks (by simp [footprint])⟩
  | restart now =>
      refine ⟨?_, fun ws value => fits.lacks (by simp [footprint])⟩
      dsimp only [Relay.restart]
      split
      · rfl
      · rw [maybe_evict_live, init_keeps]
        rfl

theorem step_numbered (wired : Wired env state) (numbered : Numbered state) (event : Event) :
    Numbered (step env state event) := by
  rcases step_cases env state event with ⟨_, same⟩ | ⟨met, turns, performed, result⟩
  · rw [same]
    exact numbered
  · have grows := turns.start_next
    have lives := turns.start_live numbered
    obtain ⟨next, resides⟩ := turns.result_numbers
    have windows : (step env state event).admissionWindow = windowsAfter state event :=
      step_windows numbered event
    rw [result] at windows ⊢
    refine ⟨?_, ?_, ?_, ?_⟩
    · intro ctx resident
      rw [next]
      exact lives ctx (resides ctx resident)
    · intro ws
      rw [next]
      rcases turns.result_home ws with same | resident
      · rw [same]
        exact (numbered.homes ws).imp_left fun below => lt_of_lt_of_le below grows
      · exact .inl (lt_of_lt_of_le (numbered.live _ resident) grows)
    · intro zero
      rw [next] at zero
      obtain ⟨none_, idle, unattached⟩ := turns.blank wired numbered.blank zero
      constructor
      · have replayed : (replay met.ctx met.start met.acts).draining = met.start.draining :=
          Script.replay_keeps _ State.draining _ (fun act _ => (perform_draining met.ctx · act)) _
        rw [Turn.result]
        rcases turns.finish_keeps (replay met.ctx met.start met.acts) with same | evicted
        · rw [same, replayed, idle]
        · rw [evicted, maybe_evict_live]
          exact replayed.trans idle
      · intro ws
        rw [← result, step_attachment, performed, attachment_kept (unattached ws)]
        exact (numbered.blank none_).2 ws
    · intro ctx above
      rw [next] at above
      have unnumbered : state.nextId ≤ ctx := grows.trans above
      rw [windows]
      unfold windowsAfter
      cases counted : countedProof state event with
      | none => exact numbered.fresh ctx unnumbered
      | some proof =>
          have below := counted_numbered numbered counted
          have apart : ctx ≠ proof.1 := (lt_of_lt_of_le below unnumbered).ne'
          simp only [Function.update_of_ne apart]
          exact numbered.fresh ctx unnumbered

end Turn

section Run
variable {env : Env}

theorem Numbered.initial : Numbered initial := by
  constructor <;> simp [Relay.initial]

/-- When the proofs of a run got past the limiter. -/
def passes (past : List (State × Event)) : List Nat :=
  past.filterMap fun met => passedLimiter met.1 met.2

/-- The windows of a room are one sequence of fixed windows: nothing has been counted yet, or
one window counts and those of the other contexts are over when it starts. -/
inductive Sequential (hits : List Nat) (windows : ContextId → Window) : Prop
  | nothing (none_ : hits = []) (fresh : ∀ ctx, windows ctx = {})
  | counting (ctx : ContextId) (counts : (windows ctx).count ≠ 0)
      (windowed : FixedWindow.Windowed admissionWindowMs maxAdmissionAttempts hits
        (windows ctx).start (windows ctx).count)
      (started : (windows ctx).start = 0 ∨ (windows ctx).start ∈ hits)
      (others : ∀ other, other ≠ ctx → windows other = {} ∨
        (windows other).start + admissionWindowMs < (windows ctx).start)

theorem rateLimited_next {window : Window} {now max length : Nat} (room : 1 ≤ max)
    (elapsed : window.start + length < now) :
    rateLimited window now max length = (⟨now, 1⟩, false) := by
  have late : now - window.start > length := by omega
  simp [rateLimited, late, Nat.not_lt.mpr room]

theorem rateLimited_same {window : Window} {now max length : Nat}
    (open_ : ¬ window.start + length < now) :
    rateLimited window now max length =
      (⟨window.start, window.count + 1⟩, decide (max < window.count + 1)) := by
  have early : ¬ now - window.start > length := by omega
  simp [rateLimited, early]

theorem Sequential.count {hits : List Nat} {windows : ContextId → Window}
    (sequential : Sequential hits windows) (ctx : ContextId) (now : Nat)
    (latest : ∀ hit ∈ hits, hit ≤ now)
    (alone : (windows ctx).elapsed now = true →
      ∀ other, other ≠ ctx → (windows other).elapsed now = true) :
    Sequential
      (if (rateLimited (windows ctx) now maxAdmissionAttempts admissionWindowMs).2 then hits
        else hits ++ [now])
      (update windows ctx (rateLimited (windows ctx) now maxAdmissionAttempts admissionWindowMs).1) := by
  have room : 1 ≤ maxAdmissionAttempts := by decide
  cases sequential with
  | nothing none_ fresh =>
      subst none_
      rw [fresh ctx]
      by_cases late : (0 : Nat) + admissionWindowMs < now
      · rw [rateLimited_next room late]
        refine .counting ctx (by simp) ?_ (.inr (by simp)) ?_
        · simpa using FixedWindow.Windowed.first room (le_refl now)
        · intro other apart
          exact .inl (by rw [Function.update_of_ne apart, fresh])
      · rw [rateLimited_same late]
        refine .counting ctx (by simp) ?_ (.inl (by simp)) ?_
        · simpa [Nat.not_lt.mpr room] using FixedWindow.Windowed.first room (Nat.zero_le now)
        · intro other apart
          exact .inl (by rw [Function.update_of_ne apart, fresh])
  | counting current counts windowed started others =>
      have begun : (windows current).start ≤ now := by
        rcases started with zero | hit
        · omega
        · exact latest _ hit
      by_cases late : (windows current).start + admissionWindowMs < now
      · -- the window that counted is over, so this proof starts the next one
        have next : (windows ctx).start + admissionWindowMs < now := by
          by_cases same : ctx = current
          · exact same ▸ late
          · rcases others ctx same with fresh | gone
            · rw [fresh]
              have zero : (({} : Window).start : Nat) = 0 := rfl
              omega
            · omega
        rw [rateLimited_next room next]
        refine .counting ctx (by simp) ?_ (.inr (by simp)) ?_
        · simpa using windowed.next room late latest
        · intro other apart
          simp only [Function.update_of_ne apart, Function.update_self]
          by_cases same : other = current
          · exact .inr (same ▸ late)
          · rcases others other same with fresh | gone
            · exact .inl fresh
            · exact .inr (by omega)
      · -- so it is counted in that window, for another context would find it open
        have here : ctx = current := by
          by_contra apart
          have elapsed : (windows ctx).elapsed now = true := by
            rcases others ctx apart with fresh | gone
            · simp [Window.elapsed, fresh]
            · have passed : now - (windows ctx).start > admissionWindowMs := by omega
              simp [Window.elapsed, passed]
          have ended := alone elapsed current fun same => apart same.symm
          simp only [Window.elapsed, counts, decide_false, Bool.false_or, decide_eq_true_eq] at ended
          omega
        subst here
        rw [rateLimited_same late]
        by_cases full : maxAdmissionAttempts < (windows ctx).count + 1
        · simp only [full, decide_true, if_true]
          refine .counting ctx (by simp) ?_ (by simpa using started) ?_
          · simpa using windowed.refused
          · intro other apart
            simpa [Function.update_of_ne apart] using others other apart
        · simp only [full, decide_false, Bool.false_eq_true, if_false]
          refine .counting ctx (by simp) ?_ ?_ ?_
          · simpa using windowed.hit (Nat.not_lt.mp full) begun
          · simp only [Function.update_self, List.mem_append]
            exact started.imp_right .inl
          · intro other apart
            simpa [Function.update_of_ne apart] using others other apart

theorem passed_clock {state : State} {event : Event} {hit : Nat}
    (passed : passedLimiter state event = some hit) : event.clock = some hit := by
  unfold passedLimiter at passed
  cases event with
  | run now =>
      split at passed
      · cases passed
      · split at passed
        · cases passed
        · exact passed
  | _ => simp [countedProof] at passed

theorem Sequential.step {past : List (State × Event)} {state : State} {event : Event}
    (sequential : Sequential (passes past) state.admissionWindow) (numbered : Numbered state)
    (one : OneWindow state event)
    (steady : ∀ now ∈ event.clock, ∀ met ∈ past, ∀ earlier ∈ met.2.clock, earlier ≤ now) :
    Sequential (passes (past ++ [(state, event)])) (step env state event).admissionWindow := by
  have whole : passes (past ++ [(state, event)]) =
      passes past ++ (passedLimiter state event).toList := by
    cases passed : passedLimiter state event <;> simp [passes, passed]
  rw [step_windows numbered, windowsAfter, whole]
  cases counted : countedProof state event with
  | none => simpa [passedLimiter, counted] using sequential
  | some proof =>
      obtain ⟨ctx, frame⟩ := proof
      have clock : event.clock = some event.now := by
        cases event with
        | run now => rfl
        | _ => simp [countedProof] at counted
      have latest : ∀ hit ∈ passes past, hit ≤ event.now := by
        intro hit member
        obtain ⟨met, before, passed⟩ := List.mem_filterMap.mp member
        exact steady event.now clock met before hit (passed_clock passed)
      have alone : (state.admissionWindow ctx).elapsed event.now = true →
          ∀ other, other ≠ ctx → (state.admissionWindow other).elapsed event.now = true := by
        intro elapsed other apart
        by_cases known : other < state.nextId
        · exact one ctx (by simp [counted]) elapsed other known apart
        · rw [numbered.fresh other (Nat.not_lt.mp known)]
          rfl
      have next := sequential.count ctx event.now latest alone
      simp only [passedLimiter, counted]
      split at next <;> rename_i limited <;> simpa [limited] using next

theorem Sequential.bounded {hits : List Nat} {windows : ContextId → Window}
    (sequential : Sequential hits windows) (from_ : Nat) :
    FixedWindow.within admissionWindowMs hits from_ ≤ 2 * maxAdmissionAttempts := by
  cases sequential with
  | nothing none_ fresh => simp [none_, FixedWindow.within]
  | counting ctx counts windowed started others => exact windowed.bounded from_

-- What reaches the lookup has passed the limiter.
theorem lookups_passed (met : List (State × Event)) (from_ : Nat) :
    FixedWindow.within admissionWindowMs
        (met.filterMap fun met => verifierLookup env met.1 met.2) from_ ≤
      FixedWindow.within admissionWindowMs (passes met) from_ := by
  apply List.Sublist.countP_le
  induction met with
  | nil => exact List.Sublist.refl _
  | cons first rest ih =>
      simp only [passes, List.filterMap_cons] at ih ⊢
      have looks : verifierLookup env first.1 first.2 = none ∨
          verifierLookup env first.1 first.2 = passedLimiter first.1 first.2 := by
        unfold verifierLookup
        split
        · exact .inl rfl
        · split
          · exact .inr rfl
          · exact .inl rfl
      rcases looks with nothing | same
      · rw [nothing]
        cases passedLimiter first.1 first.2 with
        | none => exact ih
        | some hit => exact ih.cons hit
      · rw [same]
        cases passedLimiter first.1 first.2 with
        | none => exact ih
        | some hit => exact ih.cons_cons hit

theorem steady_split {events earlier later : List Event} {event : Event}
    (steady : Steady events) (split : events = earlier ++ event :: later) :
    ∀ now ∈ event.clock, ∀ before ∈ earlier, ∀ time ∈ before.clock, time ≤ now := by
  intro now here before member time there
  subst split
  unfold Steady at steady
  rw [List.filterMap_append, List.pairwise_append] at steady
  apply steady.2.2 time (List.mem_filterMap.mpr ⟨before, member, there⟩)
  have here : event.clock = some now := here
  simp [here]

/-- In every run with a steady clock in which a proof opens a window only when the windows of
the room's other contexts are over, the flood is bounded. -/
theorem proof_flood_bounded (events : List Event) (steady : Steady events)
    (one : ∀ met ∈ steps env events, OneWindow met.1 met.2) : FloodBounded env events := by
  have invariant := Machine.history_invariant (step env)
    (fun past state => Wired env state ∧ Numbered state ∧
      Sequential (passes past) state.admissionWindow)
    (fun past state event => OneWindow state event ∧
      ∀ now ∈ event.clock, ∀ met ∈ past, ∀ earlier ∈ met.2.clock, earlier ≤ now)
    (fun past state event holds admissible =>
      ⟨wired_step holds.1, step_numbered holds.1 holds.2.1 event,
        holds.2.2.step holds.2.1 admissible.1 admissible.2⟩)
    [] initial ⟨Wired.initial env, Numbered.initial, .nothing rfl fun _ => rfl⟩ events (by
      intro before met after split
      obtain ⟨earlier, later, whole, rfl, state, _⟩ := Machine.steps_split _ _ _ _ _ _ split
      refine ⟨one met (by rw [steps, split]; simp), ?_⟩
      intro now here other member time there
      rw [List.nil_append] at member
      obtain ⟨lead, rest, inside, _⟩ := Machine.steps_mem _ _ _ _ member
      exact steady_split steady whole now here other.2 (by rw [inside]; simp) time there)
  intro from_
  rw [List.nil_append] at invariant
  exact (lookups_passed _ from_).trans (invariant.2.2.bounded from_)

/-- One socket's proof, and a second one after the window of its context is over. -/
theorem proof_flood_bounded_two :
    FloodBounded (sampleEnv false) (.get 1 :: joins 1 0 1 macHello openProof [1] ++
      joins 10002 1 4 phoneHello openProof [2]) :=
  proof_flood_bounded _ (by decide) (by decide +kernel)

/-- A housekeeping alarm that lapsed leaves a row behind that keeps ensureAlarm from arming
a timer, so every burst of proofs ends with the eviction of its context. -/
def lapsedAlarm : List Event :=
  [.get 1, .connect 1 0, .resume 1 1 [] none, .ended 0, .run 1, .run 1, .fire 15001 0 none]

def burst (ws id count : Nat) : List Event :=
  [.get 20000, .alarm 20000 none, .connect 20000 ws, .resume 20000 id [] none,
    .chunk ws ((phoneHello, [1], none) :: List.replicate count (openProof, [], none)) .none] ++
    List.replicate (count + 2) (.run 20000) ++ [.ended ws, .run 20000]

def proofFlood : List Event := lapsedAlarm ++ burst 1 4 40 ++ burst 2 47 40 ++ burst 3 90 1

theorem evictions_reset_limiter :
    Steady proofFlood ∧ ¬ FloodBounded (sampleEnv false) proofFlood := by
  constructor
  · decide +kernel
  · intro bounded
    have here := bounded 20000
    revert here
    decide +kernel

end Run

end Relay

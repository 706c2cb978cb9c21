import CompanionRelay.Departures

/-!
Which storage call of a handler throws. An event brings the number of the call that is to throw,
and the calls of a join and of a metered frame are counted from the state before the step.
-/

namespace Relay

section Counts
variable (env : Env) (state : State) (event : Event)

def storageCalls (script : List Act) : Nat := script.countP Act.isStorage

/-- The number of the storage call that is to throw in the handler that the event starts or
resumes. -/
def givenFault : Option Nat :=
  match event, state.draining with
  | .run _, some ws =>
      match state.chain ws with
      | .message _ _ fault :: _ => fault
      | _ => none
  | .resume _ _ _ fault, _ => fault
  | _, _ => none

def throwsIn (calls : Nat) : Bool := (givenFault state event).any fun call => decide (call < calls)

/-- The calls of a proof before Room.admit: the verifier and perhaps the ticket, or what an
accepted signature writes. -/
def leadCalls (role : Role) : Nat :=
  match event with
  | .resume now _ _ _ => storageCalls (bumpActivity now state)
  | _ => if attestationRequired env = true ∧ role = .phone then 3 else 1

/-- The calls of a join before it displaces the holders of its slot. -/
def seatCalls (role : Role) : Nat :=
  leadCalls env state event role + 1 + storageCalls (charge state role)

/-- The calls of a join before it empties the room. -/
def killCalls (role : Role) : Nat := leadCalls env state event role + 2

-- the alarm of a signed join has been set before its admission
def greetCalls : Role → Nat
  | .mac => 0
  | .phone =>
      match event with
      | .run now => 1 + storageCalls (ensureAlarm now state)
      | _ => 2

def joinCalls (role : Role) : Nat := seatCalls env state event role + greetCalls state event role

/-- Room.admit gives the slot: a phone needs a parked mac, and before the registration a budget
that is not spent; a join that yields needs the slot free. -/
def grants (ws : SocketId) (role : Role) : Bool :=
  (decide (role = .mac) || !(state.holders (state.home ws) ws .mac).isEmpty &&
    (established state || decide (cycles state + 1 ≤ maxPairingCycles))) &&
  !(nonDisplacing state ws && !(state.holders (state.home ws) ws role).isEmpty)

/-- The calls of metering a frame. -/
def meterCalls (now : Nat) (ws : SocketId) : Task → Nat
  | .message frame _ _ => storageCalls (meterQuota env now (state.home ws) state frame.size)
  | .closed | .errored => 0

end Counts

section Joins
variable {env : Env} {state : State} {event : Event} {met : Turn} {join : Join}

@[simp] theorem storageCalls_append (first second : List Act) :
    storageCalls (first ++ second) = storageCalls first + storageCalls second :=
  List.countP_append

theorem Joins.fault (joins : Joins env state event join)
    (happens : turn env state event = some met) : met.fault = givenFault state event := by
  cases joins with
  | pairing now ws role nonce yields frame random fault rest window lead attest drained free next =>
      rw [run_turn drained] at happens
      obtain rfl := Option.some.inj happens
      simp [givenFault, drained, next, runTurn, free, taskTurn]
  | signature now id random fault ctx check found verified =>
      have turns := turn_turns happens
      cases turns with
      | resume => rfl

theorem Joins.lead_calls (joins : Joins env state event join) :
    storageCalls join.lead = leadCalls env state event join.role := by
  cases joins with
  | pairing now ws role nonce yields frame random fault rest window lead attest drained free next
      challenged absent presented =>
      cases presented with
      | nothing open_ =>
          rcases open_ with off | rfl
          · simp [leadCalls, storageCalls, off, Act.isStorage]
          · simp [leadCalls, storageCalls, Act.isStorage]
      | ticket ticket rec required phone issued live =>
          simp only [leadCalls, required, phone, and_self, if_true]
          rfl
  | signature now id random fault ctx check found verified => rfl

theorem charge_calls {first second : State} (same : SameRoom first second) (role : Role) :
    storageCalls (charge first role) = storageCalls (charge second role) := by
  simp only [charge, same.established, same.pairingCycles]

/-- The acts of a join before it displaces anyone. -/
def Join.front (join : Join) : List Act := join.lead ++ .get :: charge join.mid join.role

theorem Joins.front_within (joins : Joins env state event join) :
    Within [.count, .read, .deleteTicket, .putLastActivity, .getAlarm, .setAlarm,
      .putPairingCycles] join.front :=
  Within.append_iff.mpr ⟨joins.lead_within.mono (by simp), Within.cons_iff.mpr ⟨by simp,
    (charge_within ..).mono (by simp)⟩⟩

theorem Joins.front_calls (joins : Joins env state event join) :
    storageCalls join.front = seatCalls env state event join.role := by
  have gets : ∀ script, storageCalls (.get :: script) = 1 + storageCalls script :=
    fun script => by simp [storageCalls, List.countP_cons, Act.isStorage, Nat.add_comm]
  rw [Join.front, storageCalls_append, gets, joins.lead_calls, charge_calls joins.same_room,
    seatCalls, Nat.add_assoc]

theorem displace_calls (ctx : ContextId) (state : State) (ws : SocketId) (role : Role) :
    storageCalls (displace ctx state ws role) = 0 := by
  simp [storageCalls, displace, List.countP_eq_zero, Act.isStorage]

theorem bump_alarm (now : Nat) (ctx : ContextId) (state : State) :
    storageCalls (ensureAlarm now (replay ctx state (bumpActivity now state))) = 1 := by
  have set_ : ∃ existing, (replay ctx state (bumpActivity now state)).alarmRow = some existing ∧
      ¬ existing > now + housekeepingIntervalMs := by
    unfold bumpActivity ensureAlarm
    dsimp only
    cases row : state.alarmRow with
    | none => exact ⟨_, rfl, Nat.lt_irrefl _⟩
    | some existing =>
        dsimp only
        split
        · exact ⟨_, rfl, Nat.lt_irrefl _⟩
        · rename_i early
          exact ⟨existing, row, early⟩
  obtain ⟨existing, row, early⟩ := set_
  simp only [ensureAlarm, row, if_neg early]
  rfl

theorem Joins.greet_calls (joins : Joins env state event join) :
    storageCalls (greet join.now join.mid join.random join.ws join.attest join.role) =
      greetCalls state event join.role := by
  have puts : ∀ token record script, storageCalls (.put (.regToken token record) :: script) =
      1 + storageCalls script :=
    fun _ _ script => by simp [storageCalls, List.countP_cons, Act.isStorage, Nat.add_comm]
  cases role : join.role with
  | mac => simp [greet, greetCalls, storageCalls, Act.isStorage]
  | phone =>
      rw [greet, storageCalls_append, puts]
      cases joins with
      | pairing => simp [greetCalls, storageCalls, Act.isStorage, State.pop, ensureAlarm]
      | signature =>
          simp only [bump_alarm, greetCalls]
          rfl

theorem Joins.granted (wired : Wired env state) (joins : Joins env state event join)
    {target : SocketId} {value : Attachment} (member : .attach target value ∈ join.script env) :
    grants state join.ws join.role = true ∧ join.script env = join.front ++
      seat env join.now join.ctx join.mid join.random join.ws join.role join.attest := by
  have lead := joins.lead_within
  rw [Join.script, List.mem_append] at member
  have member := member.resolve_left (lead.lacks (by simp))
  rcases admit_cases env join.now join.ctx join.mid join.random join.ws join.role join.attest with
    ⟨whole, _⟩ | ⟨whole, _⟩ | ⟨whole, parked⟩
  · rw [whole] at member
    simp [reject] at member
  · rw [whole] at member
    have torn : Within [.read, .close, .deleteAll, .deleteAlarm]
        (.get :: .get :: teardownRoom join.ctx join.mid "pairing cycle cap") :=
      Within.cons_iff.mpr ⟨by simp, Within.cons_iff.mpr ⟨by simp,
        (teardownRoom_within ..).mono (by simp)⟩⟩
    exact absurd member (torn.lacks (by simp))
  · have charged : Within [.read, .putPairingCycles] (.get :: charge join.mid join.role) :=
      Within.cons_iff.mpr ⟨by simp, charge_within ..⟩
    rw [whole, List.mem_append] at member
    have member := member.resolve_left (charged.lacks (by simp))
    rcases takeSlot_cases env join.now join.ctx join.mid join.random join.ws join.role join.attest
      with ⟨refused, _⟩ | ⟨taken, free⟩
    · rw [refused] at member
      simp [reject] at member
    · refine ⟨?_, by rw [Join.script, whole, taken, Join.front]; simp⟩
      have same := joins.same_room
      rw [same.holders, same.nonDisplacing, joins.ctx_home wired] at free
      rw [same.holders, same.established, same.pairingCycles, joins.ctx_home wired] at parked
      rw [grants, Bool.and_eq_true]
      constructor
      · cases role : join.role with
        | mac => rfl
        | phone =>
            obtain ⟨mac, budget⟩ := parked role
            cases registered : established state with
            | true => simp [mac]
            | false => simp [mac, cycles, budget registered]
      · rcases free with displacing | none_
        · simp [displacing]
        · simp [none_]

-- A join that empties the room over its budget does so after its reads.
theorem Joins.killed (wired : Wired env state) (joins : Joins env state event join)
    (happens : turn env state event = some met) (script : met.script = join.script env)
    (killed : kills state join.ws join.role = true) {ws : SocketId}
    (ran : ws ∈ closes (done met.fault met.script)) :
    throwsIn state event (killCalls env state event join.role) = false := by
  have same := joins.same_room
  simp only [kills, Bool.and_eq_true, Bool.not_eq_true', List.isEmpty_eq_false_iff,
    decide_eq_true_eq] at killed
  obtain ⟨⟨⟨phone, mac⟩, unregistered⟩, exceeds⟩ := killed
  rcases admit_cases env join.now join.ctx join.mid join.random join.ws join.role join.attest with
    ⟨_, _, offline⟩ | ⟨whole, _⟩ | ⟨_, parked⟩
  · rw [same.holders, joins.ctx_home wired] at offline
    exact absurd offline mac
  · have front : Within [.count, .read, .deleteTicket, .putLastActivity, .getAlarm, .setAlarm]
        (join.lead ++ [.get, .get]) := Within.append_iff.mpr ⟨joins.lead_within, by simp⟩
    have shape : met.script = (join.lead ++ [.get, .get]) ++
        teardownRoom join.ctx join.mid "pairing cycle cap" := by
      rw [script, Join.script, whole]
      simp
    obtain ⟨code, reason, closed⟩ := mem_closes.mp ran
    rw [shape] at closed
    have past := Script.fault_past _ _ (front.calm (by simp)) (front.lacks (by simp)) closed
    have count : storageCalls (join.lead ++ [.get, .get]) =
        killCalls env state event join.role := by
      rw [storageCalls_append, joins.lead_calls]
      rfl
    rw [throwsIn, ← joins.fault happens, ← count]
    exact past
  · have budget := (parked phone).2
    rw [same.established, same.pairingCycles] at budget
    exact absurd (budget unregistered) (Nat.not_le.mpr exceeds)

theorem Seats.granted (wired : Wired env state) {ws : SocketId} {role : Role}
    (seats : Seats env state event ws role) :
    joining env state event = some (ws, role) ∧ grants state ws role = true ∧
      throwsIn state event (seatCalls env state event role) = false ∧
      cutShort env state event = throwsIn state event (joinCalls env state event role) := by
  obtain ⟨⟨admission, room, tag, since⟩, member, admitted⟩ := seats
  obtain rfl : admission = .admitted role := admitted
  unfold acts at member
  cases happens : turn env state event with
  | none => simp [happens] at member
  | some met =>
      rw [happens] at member
      have turns := turn_turns happens
      have ran : .attach ws ⟨.admitted role, room, tag, since⟩ ∈ done met.fault met.script := by
        rcases List.mem_append.mp member with ran | caught
        · exact ran
        · split at caught
          · exact absurd caught (turns.on_throw.lacks (by simp))
          · exact absurd caught List.not_mem_nil
      rcases turns.joining_cases wired (turn_free happens) with
        ⟨_, quiet⟩ | ⟨join, joins, joined, script, _⟩
      · have plain := quiet _ (Script.done_subset _ _ ran)
        cases plain
      · rw [script] at ran
        obtain ⟨granted, shape⟩ := joins.granted wired (Script.done_subset _ _ ran)
        have seated := joins.seated wired happens script member (by simp)
        obtain ⟨rfl, same⟩ := (seated.attaches _ _).mp member
        obtain rfl : join.role = role := by
          have slot := congrArg Attachment.admission same
          simpa [admittedAs] using slot.symm
        have front := joins.front_within
        have displaces : Within [.close] (displace join.ctx join.mid join.ws join.role) :=
          Within.map_of (by simp)
        have greets := greet_within join.now join.mid join.random join.ws join.attest join.role
        refine ⟨joined, granted, ?_, ?_⟩
        · rw [shape] at ran
          have past := Script.fault_past _ _ (front.calm (by simp)) (front.lacks (by simp)) ran
          rw [throwsIn, ← joins.fault happens, ← joins.front_calls]
          exact past
        · have seats : Within [.close, .attach, .sendOk, .putRegToken, .getAlarm, .setAlarm]
              (seat env join.now join.ctx join.mid join.random join.ws join.role join.attest) :=
            Within.append_iff.mpr ⟨displaces.mono (by simp), Within.cons_iff.mpr ⟨by simp,
              greets.mono (by simp)⟩⟩
          have calm : ∀ act ∈ met.script, act.isThrow = false := by
            rw [script, shape]
            exact fun act inside => (List.mem_append.mp inside).elim
              (front.calm (by simp) act) (seats.calm (by simp) act)
          have count : storageCalls met.script = joinCalls env state event join.role := by
            rw [script, shape, storageCalls_append, joins.front_calls, seat, storageCalls_append,
              displace_calls, Nat.zero_add, joinCalls, ← joins.greet_calls]
            simp [storageCalls, Act.isStorage]
          simp only [cutShort, happens, throwsIn, ← joins.fault happens, ← count]
          exact Script.threw_count _ _ _ _ calm

end Joins

section Frames
variable {env : Env} {state : State} {ws : SocketId} {role : Role}

-- The script of a frame within the caps: its metering, and the frame itself if within the
-- quota, which makes no storage call.
theorem spliced_script (id : Nat) {now : Nat} {random : Bytes} {frame : Frame}
    {fault : Option Nat} (holds : state.holds ws role = true)
    (admits : severs now state ws (.message frame random fault) = false) :
    ∃ window rest, webSocketMessage env now (state.home ws) state id ws random frame =
        .countFrame window :: (meterQuota env now (state.home ws) state frame.size ++ rest) ∧
      Within [.sendRelayed] rest := by
  obtain ⟨small, slow⟩ : ¬ frame.size > frameCap state ws ∧
      (rateLimited (state.frameWindow (state.home ws)) now maxFramesPerWindow
        frameWindowMs).2 = false := by simpa [severs] using admits
  simp only [webSocketMessage, small, if_false, holds_iff.mp holds, spliceFrame, slow,
    Bool.false_eq_true]
  refine ⟨_, _, rfl, ?_⟩
  split
  · exact Within.nil
  · exact forward_within ..

theorem cut_metering {now : Nat} {task : Task} (starts : Starts state ws task)
    (holds : state.holds ws role = true) (admits : severs now state ws task = false) :
    cutShort env state (.run now) =
      throwsIn state (.run now) (meterCalls env state now ws task) := by
  obtain ⟨rest, next⟩ := List.head?_eq_some_iff.mp starts.next
  have happens : turn env state (.run now) =
      some (taskTurn env now (state.pop ws rest) ws state.nextId task) := by
    rw [run_turn starts.drained]
    simp [runTurn, starts.free, next]
  cases task with
  | message frame random fault =>
      have popped : (state.pop ws rest).holds ws role = true := holds
      have slow : severs now (state.pop ws rest) ws (.message frame random fault) = false := admits
      obtain ⟨window, last, script, relays⟩ :=
        @spliced_script env (state.pop ws rest) ws role state.nextId now random frame fault popped slow
      have script : webSocketMessage env now (state.home ws) (state.pop ws rest) state.nextId ws
          random frame =
          .countFrame window :: (meterQuota env now (state.home ws) state frame.size ++ last) :=
        script
      have metered := meterQuota_within env now (state.home ws) state frame.size
      have parts : Within [.count, .read, .meter, .putQuota, .close, .sendRelayed]
          (.countFrame window :: (meterQuota env now (state.home ws) state frame.size ++ last)) :=
        Within.cons_iff.mpr ⟨by simp, Within.append_iff.mpr ⟨metered.mono (by simp),
          relays.mono (by simp)⟩⟩
      have silent : storageCalls last = 0 := by
        rw [storageCalls, List.countP_eq_zero]
        intro act member
        have verb := relays.each act member
        cases act with
        | put row => cases row <;> simp at verb
        | delete key => cases key <;> simp at verb
        | _ => simp [Act.isStorage] at verb ⊢
      have count : storageCalls (.countFrame window ::
          (meterQuota env now (state.home ws) state frame.size ++ last)) =
          storageCalls (meterQuota env now (state.home ws) state frame.size) := by
        rw [storageCalls, List.countP_cons, ← storageCalls, storageCalls_append, silent]
        rfl
      simp only [cutShort, happens, taskTurn, throwsIn, givenFault, starts.drained, next,
        meterCalls, ← count]
      change threw fault (webSocketMessage env now (state.home ws) (state.pop ws rest) state.nextId
        ws random frame) = _
      rw [script]
      exact Script.threw_count _ _ fault _ (parts.calm (by simp))
  | _ => simp [severs] at admits

end Frames

end Relay

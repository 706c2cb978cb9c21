import CompanionRelay.AlarmSpec

/-!
The idle TTL of an established room. Its end is guarded by a lease: the stored alarm time and
the timer of the registered context both lie at or before it. ensureAlarm moves them nearer
only, alarm() sets them by the deadline, and a recorded activity moves the deadline away, so a
lease is kept from the registration on, if the registration gets a timer to begin with.
-/

namespace Relay

section Statement
variable (env : Env) (state : State) (event : Event)

/-- The room is reaped at the end of its TTL: a timer of the registered context is armed for
it or earlier, and an alarm at the end or later wipes the room. -/
structure TtlEnforced : Prop where
  armed : state.store.verifier ≠ none → ∃ last ctx at_, state.store.lastActivity = some last ∧
    state.live = some ctx ∧ state.timer ctx = some at_ ∧ at_ ≤ last + establishedIdleTtlMs env
  reaps : state.store.verifier ≠ none → state.draining = none → state.alarming = none →
    state.loading = none → ∀ last now, state.store.lastActivity = some last →
      last + establishedIdleTtlMs env ≤ now → ∃ ctx, state.live = some ctx ∧
        (step env state (.fire now ctx none)).store = {}

/-- ensureAlarm sets the alarm, or a timer is armed within the TTL already. -/
def Awake (now : Nat) : Prop :=
  (∀ at_ ∈ state.alarmRow, now + housekeepingIntervalMs < at_) ∨
    ∃ ctx ∈ state.live, ∃ at_ ∈ state.timer ctx, at_ ≤ now + establishedIdleTtlMs env

instance (now : Nat) : Decidable (Awake env state now) :=
  inferInstanceAs (Decidable ((∀ at_ ∈ state.alarmRow, _) ∨ ∃ ctx ∈ state.live, _))

def Event.boots : Event → Bool
  | .restart _ => true
  | _ => false

/-- The steps that keep the TTL enforced. -/
structure Timely : Prop where
  boots : event.boots = true → state.store.verifier ≠ none → ∀ at_ ∈ state.alarmRow, event.now < at_
  registers : ∀ act ∈ acts env state event, act.verb = .putVerifier →
    act ≠ .put (.verifier "") ∧ Awake env state event.now ∧ cutShort env state event = false
  -- the clock is not behind the last activity that was recorded
  renews : state.store.verifier ≠ none → .put (.lastActivity event.now) ∈ acts env state event →
    ∀ last ∈ state.store.lastActivity, last ≤ event.now
  retries : state.store.verifier ≠ none → event.isAlarm = true →
    cutShort env state event = true → .deleteAll ∉ acts env state event →
    ∀ last ∈ state.store.lastActivity, event.now + alarmRetryMs ≤ last + establishedIdleTtlMs env

set_option synthInstance.maxSize 512 in
instance : Decidable (Timely env state event) :=
  decidable_of_iff
    ((event.boots = true → state.store.verifier ≠ none →
        ∀ at_ ∈ state.alarmRow, event.now < at_) ∧
      (∀ act ∈ acts env state event, act.verb = .putVerifier →
        act ≠ .put (.verifier "") ∧ Awake env state event.now ∧
          cutShort env state event = false) ∧
      (state.store.verifier ≠ none → .put (.lastActivity event.now) ∈ acts env state event →
        ∀ last ∈ state.store.lastActivity, last ≤ event.now) ∧
      (state.store.verifier ≠ none → event.isAlarm = true → cutShort env state event = true →
        .deleteAll ∉ acts env state event → ∀ last ∈ state.store.lastActivity,
          event.now + alarmRetryMs ≤ last + establishedIdleTtlMs env))
    ⟨fun ⟨boots, registers, renews, retries⟩ => ⟨boots, registers, renews, retries⟩,
      fun timely => ⟨timely.boots, timely.registers, timely.renews, timely.retries⟩⟩

/-- The alarm time and the timer of the registered context lie within the TTL. -/
structure Lease (last : Nat) : Prop where
  active : state.store.lastActivity = some last
  row : ∃ at_, state.alarmRow = some at_ ∧ at_ ≤ last + establishedIdleTtlMs env
  timer : ∃ ctx at_, state.live = some ctx ∧ state.timer ctx = some at_ ∧
    at_ ≤ last + establishedIdleTtlMs env

/-- A room that holds a verifier has a lease. -/
structure Tended : Prop where
  filled : state.store.verifier ≠ some ""
  leased : state.store.verifier ≠ none → ∃ last, Lease env state last

end Statement

section Leases
variable {env : Env} {state after : State} {last now : Nat} {ctx : ContextId}

theorem Lease.moved (lease : Lease env state last)
    (active : after.store.lastActivity = state.store.lastActivity)
    (row : after.alarmRow = state.alarmRow) (live : after.live = state.live)
    (timer : ∀ ctx, state.live = some ctx → after.timer ctx = state.timer ctx) :
    Lease env after last where
  active := active.trans lease.active
  row := by
    rw [row]
    exact lease.row
  timer := by
    obtain ⟨ctx, at_, resident, armed, near⟩ := lease.timer
    exact ⟨ctx, at_, live.trans resident, (timer ctx resident).trans armed, near⟩

theorem Lease.renewed (lease : Lease env state last) (later : last ≤ now) :
    Lease env (perform ctx state (.put (.lastActivity now))) now where
  active := rfl
  row := by
    obtain ⟨at_, stored, near⟩ := lease.row
    exact ⟨at_, stored, by omega⟩
  timer := by
    obtain ⟨home, at_, resident, armed, near⟩ := lease.timer
    exact ⟨home, at_, resident, armed, by omega⟩

theorem Lease.ensured (lease : Lease env state last) :
    Lease env (replay ctx state (ensureAlarm now state)) last := by
  obtain ⟨stored, row, near⟩ := lease.row
  obtain ⟨home, at_, resident, armed, by_⟩ := lease.timer
  by_cases late : stored > now + housekeepingIntervalMs
  · have sets : replay ctx state (ensureAlarm now state) =
        perform ctx state (.setAlarm (now + housekeepingIntervalMs)) := by
      simp [ensureAlarm, row, late, perform]
    rw [sets]
    refine ⟨lease.active, ⟨_, rfl, by omega⟩, home, ?_⟩
    by_cases here : home = ctx
    · exact ⟨now + housekeepingIntervalMs, resident, by simp [perform, here], by omega⟩
    · exact ⟨at_, resident, by simpa [perform, Function.update_of_ne here] using armed, by_⟩
  · have keeps : replay ctx state (ensureAlarm now state) = state := by
      simp [ensureAlarm, row, late, perform]
    rw [keeps]
    exact lease

theorem Lease.resident (lease : Lease env state last) (ctx : ContextId) :
    maybeEvict ctx state = state := by
  unfold maybeEvict
  refine if_neg ?_
  rintro ⟨resident, idle⟩
  obtain ⟨home, at_, live, armed, _⟩ := lease.timer
  obtain rfl : ctx = home := Option.some.inj (resident.symm.trans live)
  simp [evictable, armed] at idle

theorem established_iff (filled : state.store.verifier ≠ some "") :
    established state = true ↔ state.store.verifier ≠ none := by
  unfold established
  cases stored : state.store.verifier with
  | none => simp [truthy]
  | some verifier =>
      have some_ : verifier ≠ "" := fun same => filled (stored.trans (congrArg some same))
      simp [truthy, some_]

theorem Lease.enforces (lease : Lease env state last) (filled : state.store.verifier ≠ some "") :
    TtlEnforced env state where
  armed _ := by
    obtain ⟨ctx, at_, resident, armed, near⟩ := lease.timer
    exact ⟨last, ctx, at_, lease.active, resident, armed, near⟩
  reaps registered undrained unalarmed unloaded time now active due := by
    obtain ⟨ctx, at_, resident, armed, near⟩ := lease.timer
    obtain rfl : last = time := Option.some.inj (lease.active.symm.trans active)
    refine ⟨ctx, resident, ?_⟩
    let fired : State := { state with timer := Function.update state.timer ctx none }
    have reaped_ : reaped env now ctx fired := by
      apply ((alarm_does env now ctx fired).reaps_).mpr
      refine ⟨(established_iff filled).mpr registered, ?_⟩
      simpa [lastActivity, fired, active] using due
    have free : state.busy (.fire now ctx none) = false := by
      simp [State.busy, undrained, unalarmed, unloaded]
    have happens : turn env state (.fire now ctx none) = some (soundAlarm env now ctx fired) := by
      simp only [turn, free, quietTurn, armed, Bool.false_eq_true, if_false]
      exact if_pos (near.trans due)
    rw [step, happens]
    exact ((alarm_does env now ctx fired).wipes reaped_).1

theorem restart_lease (lease : Lease env state last)
    (boots : ∀ at_ ∈ state.alarmRow, now < at_) : Lease env (restart now state) last := by
  obtain ⟨at_, row, near⟩ := lease.row
  have later := boots at_ row
  unfold Relay.restart
  rw [if_neg (by simp [row])]
  have armed : Lease env (init now state.nextId (newContext state.nextId
      { state with
        live := none, sockets := fun _ => [], timer := fun _ => none, deaf := fun _ => true,
        ended := fun _ => true, chain := fun _ => [], suspended := [], draining := none,
        alarming := none, loading := none })) last := by
    have undue : ¬ at_ ≤ now := by omega
    simp only [init, newContext, row, undue, if_false]
    exact ⟨lease.active, ⟨at_, rfl, near⟩, state.nextId, at_, rfl, by simp, near⟩
  rw [armed.resident]
  exact armed

theorem Turns.start_lease {event : Event} {met : Turn} (turns : Turns env state event met)
    (other : event.isAlarm = false) (lease : Lease env state last)
    (boots : ∀ now, event = .restart now → ∀ at_ ∈ state.alarmRow, now < at_) :
    Lease env met.start last := by
  cases turns with
  | get now absent quiet =>
      obtain ⟨ctx, _, resident, _⟩ := lease.timer
      cases absent.symm.trans resident
  | chunk ws frames tail attached hears upgraded quiet =>
      rw [hang_up_keeps]
      exact lease.moved rfl rfl rfl (fun _ _ => rfl)
  | ended ws attached open_ quiet =>
      have pushed : Lease env (endSocket ws (state.push ws
          (if state.serverClosed ws then [] else [.closed]))) last :=
        lease.moved rfl rfl rfl (fun _ _ => rfl)
      rw [pushed.resident]
      exact pushed
  | task now ws task rest drained free next =>
      cases task <;> exact lease.moved rfl rfl rfl (fun _ _ => rfl)
  | fire => simp [Event.isAlarm] at other
  | alarm => simp [Event.isAlarm] at other
  | restart now => exact restart_lease lease (boots now rfl)
  | _ => exact lease.moved rfl rfl rfl (fun _ _ => rfl)

end Leases

section Handlers
variable {env : Env} {now : Nat} {ctx : ContextId} {renewing : Prop} {state : State}

/-- The rows that a handler stores which registers nobody. -/
def Light (now : Nat) (renewing : Prop) (row : Row) : Prop :=
  (∀ verifier, row ≠ .verifier verifier) ∧ ∀ time, row = .lastActivity time → time = now ∧ renewing

/-- The lease of a room that is not wiped, renewed in time where it is renewed. -/
def Holds (env : Env) (now : Nat) (renewing : Prop) (state : State) : Prop :=
  state.store.verifier = none ∨ ∃ last, Lease env state last ∧ (renewing → last ≤ now)

theorem plain_lease (act : Act) (plain : act.verb ∉ housekeptVerbs) :
    (perform ctx state act).store.verifier = state.store.verifier ∧
      (perform ctx state act).store.lastActivity = state.store.lastActivity := by
  cases act with
  | put row => cases row <;> first | exact ⟨rfl, rfl⟩ | simp at plain
  | delete key => cases key <;> exact ⟨rfl, rfl⟩
  | deleteAll => simp at plain
  | _ => exact ⟨rfl, rfl⟩

theorem Holds.moved {after : State} (holds : Holds env now renewing state)
    (verifier : after.store.verifier = state.store.verifier)
    (active : after.store.lastActivity = state.store.lastActivity)
    (row : after.alarmRow = state.alarmRow) (live : after.live = state.live)
    (timer : ∀ ctx, state.live = some ctx → after.timer ctx = state.timer ctx) :
    Holds env now renewing after := by
  rcases holds with unregistered | ⟨last, lease, later⟩
  · exact .inl (verifier.trans unregistered)
  · exact .inr ⟨last, lease.moved active row live timer, later⟩

theorem Holds.put {row : Row} (light : Light now renewing row)
    (holds : Holds env now renewing state) :
    Holds env now renewing (perform ctx state (.put row)) := by
  cases row with
  | verifier verifier => exact absurd rfl (light.1 verifier)
  | lastActivity time =>
      obtain ⟨rfl, renews⟩ := light.2 time rfl
      rcases holds with unregistered | ⟨last, lease, later⟩
      · exact .inl unregistered
      · exact .inr ⟨_, lease.renewed (later renews), fun _ => Nat.le_refl _⟩
  | _ => exact holds.moved rfl rfl rfl rfl (fun _ _ => rfl)

-- The handlers other than alarm() keep the lease of a room, or wipe it.
theorem holds_upheld (env : Env) (now : Nat) (ctx : ContextId) (renewing : Prop) :
    Upholds now ctx (fun _ => false) (Light now renewing) (fun _ => True)
      (Holds env now renewing) where
  plain state act plain holds := by
    have kept := perform_plain ctx state plain
    exact holds.moved (plain_lease act plain).1 (plain_lease act plain).2 kept.1 (perform_live ..)
      (fun other _ => congrFun kept.2.1 other)
  light state row light _ holds := holds.put light
  armed state rows _ light _ holds := by
    rw [replay_armed]
    have stored : Holds env now renewing (replay ctx state (rows.map Act.put)) := by
      apply Script.replay_invariant (perform ctx) _ _ _ state holds
      intro act member other holds
      obtain ⟨row, inside, rfl⟩ := List.mem_map.mp member
      exact holds.put (light row inside)
    rcases stored with unregistered | ⟨last, lease, later⟩
    · left
      rcases replay_ensureAlarm now ctx (replay ctx state (rows.map Act.put)) with ⟨same, _⟩ | same
      · rwa [same]
      · rwa [same]
    · exact .inr ⟨last, lease.ensured, later⟩
  emptied state _ _ := .inl rfl
  wiped state _ _ := .inl rfl

end Handlers

section Step
variable {env : Env} {state : State} {event : Event} {met : Turn}

theorem Turns.result_lease (turns : Turns env state event met) {last : Nat}
    (lease : Lease env (replay met.ctx met.start met.acts) last) : Lease env met.result last := by
  rw [Turn.result]
  rcases turns.finish_keeps (replay met.ctx met.start met.acts) with same | evicted
  · rwa [same]
  · rw [evicted, lease.resident]
    exact lease

theorem result_store (turns : Turns env state event met) :
    met.result.store = (replay met.ctx met.start met.acts).store := by
  rw [Turn.result]
  rcases turns.finish_keeps (replay met.ctx met.start met.acts) with same | evicted
  · rw [same]
  · rw [evicted, maybe_evict_store]

theorem plain_step (wired : Wired env state) (timely : Timely env state event)
    (registered : state.store.verifier ≠ none) {last : Nat} (lease : Lease env state last)
    (plain : event.isAlarm = false)
    (silent : ∀ verifier, .put (.verifier verifier) ∉ acts env state event) :
    (step env state event).store.verifier = none ∨ ∃ last, Lease env (step env state event) last := by
  cases happens : turn env state event with
  | none =>
      rw [step, happens]
      exact .inr ⟨last, lease⟩
  | some met =>
      have turns := turn_turns happens
      have result : step env state event = met.result := by rw [step, happens]
      have started := turns.start_lease plain lease (fun now same => by
        have boots := timely.boots (by rw [same]; rfl) registered
        rwa [same] at boots)
      rw [result]
      rcases turns.housekept wired (turn_free happens) with
        ⟨_, kept, handled⟩ | ⟨now, ws, rfl, fits⟩ | ⟨alarms, _, _⟩
      · have holds := (holds_upheld env event.now met.ctx
            (.put (.lastActivity event.now) ∈ acts env state event)).turn happens
          (fun row member => ⟨fun verifier same => silent verifier (same ▸ member),
            fun time same => by
              rw [same] at member
              obtain rfl := put_activity wired member
              exact ⟨rfl, member⟩⟩)
          kept handled (fun _ _ _ => trivial) (fun _ _ _ => rfl)
          (.inr ⟨last, started, fun renews => timely.renews registered renews last lease.active⟩)
        rcases holds with unregistered | ⟨time, kept, _⟩
        · exact .inl ((congrArg Store.verifier (result_store turns)).trans unregistered)
        · exact .inr ⟨time, turns.result_lease kept⟩
      · right
        refine ⟨last, turns.result_lease ?_⟩
        apply Script.replay_invariant (perform met.ctx) (Lease env · last) met.acts _ _ started
        intro act member other lease
        have verb := fits.each act member
        cases act with
        | accept ws => exact lease.moved rfl rfl rfl (fun _ _ => rfl)
        | attach ws value => exact lease.moved rfl rfl rfl (fun _ _ => rfl)
        | suspend id await => exact lease.moved rfl rfl rfl (fun _ _ => rfl)
        | put row => cases row <;> simp at verb
        | delete key => cases key <;> simp at verb
        | send ws message => cases message <;> simp at verb
        | reply id endpoint status body => cases endpoint <;> cases body <;> simp at verb
        | _ => simp at verb
      · cases plain.symm.trans alarms

theorem wiped_verifier {script : List Act} {store : Store} (wipes : .deleteAll ∈ script)
    (silent : ∀ verifier, .put (.verifier verifier) ∉ script) :
    (script.foldl Store.after store).verifier = none := by
  obtain ⟨lead, rest, rfl⟩ := List.append_of_mem wipes
  rw [List.foldl_append, List.foldl_cons]
  by_contra stored
  obtain ⟨verifier, stored⟩ := Option.ne_none_iff_exists'.mp stored
  have source : (rest.foldl Store.after (Store.after (lead.foldl Store.after store) .deleteAll)).stores
      (.verifier verifier) := stored
  rcases stores_run source with before | put
  · cases before
  · exact silent verifier (by simp [put])

/-- A lease whose timer, in the context of an alarm(), may have fired. -/
structure Fired (env : Env) (ctx : ContextId) (last : Nat) (state : State) : Prop where
  active : state.store.lastActivity = some last
  row : ∃ at_, state.alarmRow = some at_ ∧ at_ ≤ last + establishedIdleTtlMs env
  timer : ∃ home, state.live = some home ∧ (home ≠ ctx →
    ∃ at_, state.timer home = some at_ ∧ at_ ≤ last + establishedIdleTtlMs env)

theorem Fired.plain {ctx : ContextId} {last : Nat} (fired : Fired env ctx last state) {act : Act}
    (plain : act.verb ∉ housekeptVerbs) : Fired env ctx last (perform ctx state act) := by
  have kept := perform_plain ctx state plain
  refine ⟨(plain_lease act plain).2.trans fired.active, ?_, ?_⟩
  · rw [kept.1]
    exact fired.row
  · rw [kept.2.1, perform_live]
    exact fired.timer

theorem Fired.rearmed {ctx : ContextId} {last at_ : Nat} (fired : Fired env ctx last state)
    (near : at_ ≤ last + establishedIdleTtlMs env) :
    Lease env (perform ctx state (.setAlarm at_)) last ∧
      Lease env (perform ctx state (.rearm at_)) last := by
  obtain ⟨home, live, elsewhere⟩ := fired.timer
  have timer : ∃ ctx' at', state.live = some ctx' ∧
      Function.update state.timer ctx (some at_) ctx' = some at' ∧
      at' ≤ last + establishedIdleTtlMs env := by
    by_cases here : home = ctx
    · exact ⟨home, at_, live, by simp [here], near⟩
    · obtain ⟨other, armed, before⟩ := elsewhere here
      exact ⟨home, other, live, by simpa [Function.update_of_ne here] using armed, before⟩
  exact ⟨⟨fired.active, ⟨at_, rfl, near⟩, timer⟩, fired.active, fired.row, timer⟩

theorem Turns.start_fired (turns : Turns env state event met) (alarms : event.isAlarm = true)
    {last : Nat} (lease : Lease env state last) : Fired env met.ctx last met.start := by
  obtain ⟨home, at_, live, armed, near⟩ := lease.timer
  cases turns with
  | fire now ctx due fault here passed quiet =>
      refine ⟨lease.active, lease.row, home, live, fun apart => ⟨at_, ?_, near⟩⟩
      have apart : home ≠ ctx := apart
      simpa [alarmTurn, Function.update_of_ne apart] using armed
  | alarm now ctx fault started =>
      exact ⟨lease.active, lease.row, home, live, fun _ => ⟨at_, armed, near⟩⟩
  | _ => simp [Event.isAlarm] at alarms

theorem alarmFront_plain (now : Nat) (seen : List SocketId) {start : State} {last : Nat}
    (active : start.store.lastActivity = some last) :
    Within [.close, .read, .deleteTicket, .deleteRegToken, .deleteChallenge]
      (alarmFront now start seen) := by
  simp only [alarmFront, Within.append_iff, Within.cons_iff, active]
  refine ⟨⟨Within.map_of (by simp), (pruneExpired_within ..).mono (by simp)⟩, by simp, ?_⟩
  split <;> simp

theorem alarmFront_unkept {now : Nat} {seen : List SocketId} {start : State} {last : Nat}
    (active : start.store.lastActivity = some last) :
    ∀ act ∈ alarmFront now start seen, act.verb ∉ housekeptVerbs := by
  intro act member
  have verb := (alarmFront_plain now seen active).each act member
  revert verb
  generalize act.verb = verb
  cases verb <;> simp

theorem alarm_plain {now : Nat} {ctx : ContextId} {start : State} {last : Nat}
    {seen : List SocketId} {fault : Option Nat}
    (active : start.store.lastActivity = some last)
    (spared : .deleteAll ∉ done fault (alarm env now ctx start seen))
    (thrown : threw fault (alarm env now ctx start seen) = true) :
    ∀ act ∈ done fault (alarm env now ctx start seen), act.verb ∉ housekeptVerbs := by
  have front : ∀ act ∈ alarmFront now start seen, act.verb ∉ housekeptVerbs :=
    alarmFront_unkept active
  intro act member
  have unlisted : .deleteAlarm ∉ done fault (alarm env now ctx start seen) := fun deletes =>
    spared (alarm_deletes now ctx start seen fault deletes)
  have inside := Script.done_subset _ _ member
  rcases alarm_cases env now ctx start seen with ⟨_, whole⟩ | ⟨_, next, _, whole⟩ | ⟨_, _, whole⟩
  · rw [whole] at inside
    rcases List.mem_append.mp inside with early | late
    · exact front act early
    · rcases List.mem_append.mp late with closing | wiping
      · rw [List.mem_singleton.mp ((closeAll_within ..).each act closing)]
        simp
      · rcases List.mem_cons.mp wiping with rfl | last_
        · exact absurd member spared
        · rw [List.mem_singleton.mp last_] at member
          exact absurd member unlisted
  · rw [whole] at inside
    rcases List.mem_append.mp inside with early | late
    · exact front act early
    · obtain rfl := List.mem_singleton.mp late
      have apart : .setAlarm next ∉ alarmFront now start seen :=
        (alarmFront_plain now seen active).lacks (by simp)
      rw [whole] at member thrown
      have all := Script.done_rest _ _ (by simp) apart member
      cases thrown.symm.trans (Script.not_threw_of_done _ _ all)
  · rw [whole] at inside
    exact front act inside

-- alarm() keeps the lease of an established room, or wipes the room.
theorem alarm_step (wired : Wired env state) (timely : Timely env state event)
    (filled : state.store.verifier ≠ some "") (registered : state.store.verifier ≠ none)
    {last : Nat} (lease : Lease env state last) (alarms : event.isAlarm = true) :
    (step env state event).store.verifier = none ∨ ∃ last, Lease env (step env state event) last := by
  cases happens : turn env state event with
  | none =>
      rw [step, happens]
      exact .inr ⟨last, lease⟩
  | some met =>
      have turns := turn_turns happens
      have result : step env state event = met.result := by rw [step, happens]
      have performed : acts env state event = met.acts := by rw [acts, happens]
      obtain ⟨⟨seen, script⟩, caught⟩ :
          (∃ seen, met.script = Relay.alarm env event.now met.ctx met.start seen) ∧
          met.onThrow = [.rearm (event.now + alarmRetryMs)] := by
        rcases turns.housekept wired (turn_free happens) with
          ⟨plain, _, _⟩ | ⟨now, ws, rfl, _⟩ | ⟨_, script, caught⟩
        · cases plain.symm.trans alarms
        · cases alarms
        · exact ⟨script, caught⟩
      by_cases wipes : .deleteAll ∈ met.acts
      · left
        rw [step_store, performed]
        apply wiped_verifier wipes
        intro verifier put
        rcases turn_act put with ran | handled
        · rw [script] at ran
          exact absurd ran ((alarm_within ..).lacks (by simp))
        · simp [caught] at handled
      · right
        refine ⟨last, ?_⟩
        rw [result]
        apply turns.result_lease
        have fired := turns.start_fired alarms lease
        have settled : ∀ script, (∀ act ∈ script, act.verb ∉ housekeptVerbs) →
            Fired env met.ctx last (replay met.ctx met.start script) := fun script plain =>
          Script.replay_invariant (perform met.ctx) _ script
            (fun act member _ fired => fired.plain (plain act member)) _ fired
        cases thrown : threw met.fault met.script with
        | true =>
            -- the retry
            have acts_ : met.acts = done met.fault met.script ++
                [.rearm (event.now + alarmRetryMs)] := by
              simp [Turn.acts, thrown, caught]
            have cut : cutShort env state event = true := by simp [cutShort, happens, thrown]
            have near := timely.retries registered alarms cut (by rwa [performed]) last lease.active
            rw [acts_] at wipes ⊢
            rw [script] at wipes thrown ⊢
            have plain := alarm_plain fired.active (fun inside => wipes (by simp [inside])) thrown
            rw [replay_append]
            exact ((settled _ plain).rearmed near).2
        | false =>
            have whole := Turn.acts_whole thrown
            rw [whole, script] at wipes ⊢
            have established_ : established met.start = true := by
              rw [established_iff (by rwa [turns.start_keeps.1]), turns.start_keeps.1]
              exact registered
            rcases alarm_cases env event.now met.ctx met.start seen with
              ⟨_, shape⟩ | ⟨spared, next, found, shape⟩ | ⟨_, none_, _⟩
            · exact absurd (by rw [shape]; simp [teardownRoom]) wipes
            · have near := nextAlarm_idle env event.now met.start established_ found
              rw [lastActivity, fired.active, Option.getD_some] at near
              rw [shape, replay_append]
              exact ((settled _ (alarmFront_unkept fired.active)).rearmed near).1
            · have idle := (nextAlarm_none _ _ _ none_).1
              cases idle.symm.trans established_

theorem ensured_awake {now : Nat} {ctx : ContextId}
    (wide : housekeepingIntervalMs ≤ establishedIdleTtlMs env) (resident : state.live = some ctx)
    (awake : Awake env state now) (active : state.store.lastActivity = some now) :
    Lease env (replay ctx state (ensureAlarm now state)) now := by
  have sets : (∀ at_ ∈ state.alarmRow, now + housekeepingIntervalMs < at_) →
      Lease env (replay ctx state (ensureAlarm now state)) now := by
    intro late
    have called : replay ctx state (ensureAlarm now state) =
        perform ctx state (.setAlarm (now + housekeepingIntervalMs)) := by
      unfold ensureAlarm
      cases row : state.alarmRow with
      | none => rfl
      | some at_ => simp [late at_ row, perform]
    rw [called]
    exact ⟨active, ⟨_, rfl, by omega⟩, ctx, now + housekeepingIntervalMs, resident,
      by simp [perform], by omega⟩
  rcases awake with late | ⟨home, live, at_, armed, near⟩
  · exact sets late
  · by_cases late : ∀ at_ ∈ state.alarmRow, now + housekeepingIntervalMs < at_
    · exact sets late
    · push Not at late
      obtain ⟨stored, row, early⟩ := late
      have row : state.alarmRow = some stored := row
      have called : replay ctx state (ensureAlarm now state) = state := by
        have kept : ¬ stored > now + housekeepingIntervalMs := by omega
        simp [ensureAlarm, row, kept, perform]
      rw [called]
      exact ⟨active, ⟨stored, row, by omega⟩, home, at_, live, armed, near⟩

-- The turns that register write the verifier at the end of what they do, in the registered
-- context and on the alarm that their state has.
theorem register_shape (wired : Wired env state) (turns : Turns env state event met)
    {verifier : String} (member : .put (.verifier verifier) ∈ met.script) :
    (∃ lead other id token value,
      met.script = lead ++ writeVerifier event.now other id token value ∧
        (∀ act ∈ lead, act.verb ∉ housekeptVerbs) ∧ other.alarmRow = state.alarmRow) ∧
      state.live = some met.ctx ∧ met.start.live = state.live ∧ met.start.timer = state.timer := by
  have verb := turns.script_within.each _ member
  cases turns with
  | task now ws task rest drained free next =>
      cases task <;> simp [footprint, drained, next] at verb
  | idle => cases member
  | resume now other random fault handler found quiet =>
      obtain ⟨number, ctx, await⟩ := handler
      obtain ⟨suspended, numbered⟩ := mem_find found
      obtain rfl : number = other := numbered
      simp only [footprint, found, Option.map_some, Option.getD_some] at verb
      cases await with
      | registerAssertion call =>
          refine ⟨?_, wired.pinned _ suspended (fun _ => rfl), rfl, rfl⟩
          simp only [continuation, finishRegister] at member ⊢
          split at member
          · simp [answer] at member
          · rename_i counter verdict
            split at member
            · rename_i fresh
              rw [if_pos fresh]
              refine ⟨.get :: [.put (.assertCounter call.key.keyId counter),
                .put (.registrantKeyId call.key.keyId)], state.wake number none, number,
                call.token, call.verifier, rfl, ?_, rfl⟩
              simp
            · simp [answer] at member
      | _ => simp at verb
  | request now request random fault ctx resident =>
      refine ⟨?_, resident, rfl, rfl⟩
      cases request with
      | register body =>
          rcases handleRegister_cases env now state.enter state.nextId body with
            refused | ⟨lead, token, value, reads, whole⟩
          · exact absurd member (refused.lacks (by simp))
          · refine ⟨lead, state.enter, state.nextId, token, value, whole, ?_, rfl⟩
            intro act inside
            rw [List.mem_singleton.mp (reads.each act inside)]
            simp
      | _ => simp [footprint] at verb
  | _ => simp [footprint] at verb

theorem register_step (wide : housekeepingIntervalMs ≤ establishedIdleTtlMs env)
    (wired : Wired env state) (timely : Timely env state event) {verifier : String}
    (registers : .put (.verifier verifier) ∈ acts env state event) :
    Lease env (step env state event) event.now := by
  obtain ⟨_, awake, whole⟩ := timely.registers _ registers (by simp)
  cases happens : turn env state event with
  | none => simp [acts, happens] at registers
  | some met =>
      have turns := turn_turns happens
      have ran : .put (.verifier verifier) ∈ met.script := by
        rcases turn_act (by simpa [acts, happens] using registers) with ran | caught
        · exact ran
        · exact absurd caught (turns.on_throw.lacks (by simp))
      obtain ⟨⟨lead, other, id, token, value, script, plain, row⟩, resident, live, timer⟩ :=
        register_shape wired turns ran
      have finished : threw met.fault met.script = false := by simpa [cutShort, happens] using whole
      rw [show step env state event = met.result by rw [step, happens]]
      apply turns.result_lease
      have led : (replay met.ctx met.start lead).alarmRow = state.alarmRow ∧
          (replay met.ctx met.start lead).timer = state.timer ∧
          (replay met.ctx met.start lead).live = state.live := by
        refine ⟨?_, ?_, by rw [replay_live, live]⟩
        · rw [← turns.start_keeps.2.1]
          exact Script.replay_keeps (perform met.ctx) State.alarmRow lead
            (fun act member start => (perform_plain met.ctx start (plain act member)).1) met.start
        · rw [← timer]
          exact Script.replay_keeps (perform met.ctx) State.timer lead
            (fun act member start => (perform_plain met.ctx start (plain act member)).2.1) met.start
      let written := replay met.ctx (replay met.ctx met.start lead)
        [.delete (.regToken token), .put (.verifier value), .put (.lastActivity event.now)]
      have kept : written.alarmRow = state.alarmRow ∧ written.timer = state.timer ∧
          written.live = state.live := led
      have same : ensureAlarm event.now other = ensureAlarm event.now written :=
        ensureAlarm_eq event.now (row.trans kept.1.symm)
      have shape : met.acts = lead ++ ([.delete (.regToken token), .put (.verifier value),
          .put (.lastActivity event.now)] ++ (ensureAlarm event.now written ++
            answer id .register 200 .ok)) := by
        rw [Turn.acts_whole finished, script, ← same]
        simp [writeVerifier, bumpActivity]
      rw [shape, replay_append, replay_append, replay_append]
      have leased : Lease env (replay met.ctx written (ensureAlarm event.now written)) event.now := by
        apply ensured_awake wide (kept.2.2.trans resident) _ rfl
        unfold Awake
        rwa [kept.1, kept.2.1, kept.2.2]
      exact leased.moved rfl rfl rfl (fun _ _ => rfl)

theorem tended_step (wide : housekeepingIntervalMs ≤ establishedIdleTtlMs env)
    (wired : Wired env state) (timely : Timely env state event) (tended : Tended env state) :
    Tended env (step env state event) where
  filled blank := by
    have source : (step env state event).store.stores (.verifier "") := blank
    rcases step_stores source with before | put
    · exact tended.filled before
    · exact (timely.registers _ put (by simp)).1 rfl
  leased stored := by
    by_cases registers : ∃ verifier, .put (.verifier verifier) ∈ acts env state event
    · obtain ⟨verifier, registers⟩ := registers
      exact ⟨_, register_step wide wired timely registers⟩
    · push Not at registers
      have registered : state.store.verifier ≠ none := by
        obtain ⟨verifier, stored⟩ := Option.ne_none_iff_exists'.mp stored
        have source : (step env state event).store.stores (.verifier verifier) := stored
        have before : state.store.verifier = some verifier :=
          (step_stores source).resolve_right (registers verifier)
        simp [before]
      obtain ⟨last, lease⟩ := tended.leased registered
      cases alarms : event.isAlarm with
      | true =>
          exact (alarm_step wired timely tended.filled registered lease alarms).resolve_left stored
      | false => exact (plain_step wired timely registered lease alarms registers).resolve_left stored

theorem Tended.enforces (tended : Tended env state) : TtlEnforced env state := by
  by_cases stored : state.store.verifier = none
  · exact ⟨fun registered => absurd stored registered, fun registered => absurd stored registered⟩
  · obtain ⟨last, lease⟩ := tended.leased stored
    exact lease.enforces tended.filled

end Step

/-- In a run of timely steps the idle TTL of a room that holds a verifier is enforced in every
state. -/
theorem idle_ttl_enforced (env : Env)
    (wide : housekeepingIntervalMs ≤ establishedIdleTtlMs env) (events : List Event)
    (timely : ∀ met ∈ steps env events, Timely env met.1 met.2) :
    ∀ lead, lead <+: events → TtlEnforced env (run env lead) := by
  have kept : ∀ state event, Wired env state ∧ Tended env state → Timely env state event →
      Wired env (step env state event) ∧ Tended env (step env state event) :=
    fun state event holds timely =>
      ⟨wired_step holds.1, tended_step wide holds.1 timely holds.2⟩
  have initially : Wired env initial ∧ Tended env initial :=
    ⟨Wired.initial env, fun blank => (by cases blank), fun stored => absurd rfl stored⟩
  intro lead short
  obtain ⟨rest, rfl⟩ := short
  have reached := Machine.run_invariant (step env) _ (Timely env) kept initial initially lead
    (fun met member => timely met (by
      rw [steps, Machine.steps_append]
      exact List.mem_append_left _ member))
  exact reached.2.enforces

/-- A room registered at 1 whose process boots again at 20000, and a signed join at 30000. -/
def rebootedRoom : List Event :=
  registeredRoom ++ (.restart 20000 :: joins 30000 2 9 macHello signedProof [3]) ++
    [.resume 30000 11 [4] none]

theorem rebooted_enforced :
    (run (sampleEnv false) rebootedRoom).store.verifier = some "AQID" ∧
      ∀ lead, lead <+: rebootedRoom → TtlEnforced (sampleEnv false) (run (sampleEnv false) lead) :=
  ⟨by decide +kernel,
    idle_ttl_enforced (sampleEnv false) (by decide) rebootedRoom (by decide +kernel)⟩

/-- A mac parks, its housekeeping alarm lapses, and a phone joins and registers. -/
def registeredLate : List Event :=
  .get 1 :: joins 1 0 1 macHello openProof [1] ++ [.fire 15001 0 none] ++
    joins 20000 1 4 phoneHello openProof [2] ++
    [.run 20000, .request 20000 (registration "Ag==" "AQID" "" "") [] none, .resume 20000 7 [] none]

-- The stored time of the lapsed alarm keeps bumpActivity from setting another.
theorem late_registration_unguarded :
    ¬ TtlEnforced (sampleEnv false) (run (sampleEnv false) registeredLate) := by
  intro enforced
  obtain ⟨last, ctx, at_, _, live, timer, _⟩ := enforced.armed (by decide +kernel)
  have resident : (run (sampleEnv false) registeredLate).live = some 0 := by decide +kernel
  have unarmed : (run (sampleEnv false) registeredLate).timer 0 = none := by decide +kernel
  obtain rfl : 0 = ctx := Option.some.inj (resident.symm.trans live)
  cases unarmed.symm.trans timer

end Relay

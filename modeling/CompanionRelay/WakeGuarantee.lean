import CompanionRelay.Lockstep

/-!
The wake that ensureAlarm is there for. ensureAlarm looks at the stored alarm time
only, and a stored time says nothing of a timer: an alarm() that lapses leaves its time
behind. In a run that calls ensureAlarm only while the timer keeps up with the row, every
call leaves the room with a timer, and so what alarm() has to visit has one.
-/

namespace Relay

/-- The resident context has a timer armed for `soon` or earlier. -/
def armedBy (state : State) (soon : Nat) : Bool :=
  match state.live with
  | none => false
  | some resident =>
      match state.timer resident with
      | none => false
      | some at_ => at_ ≤ soon

/-- ensureAlarm sets the alarm in the resident context, or the timer of the resident
context is armed for the interval already. -/
def prompt (now : Nat) (ctx : ContextId) (state : State) : Bool :=
  match state.live with
  | none => false
  | some resident =>
      (decide (resident = ctx) &&
        match state.alarmRow with
        | none => true
        | some at_ => now + housekeepingIntervalMs < at_) ||
      match state.timer resident with
      | none => false
      | some at_ => at_ ≤ now + housekeepingIntervalMs

theorem ensureAlarm_arms (now : Nat) (ctx : ContextId) (state : State) :
    armedBy (replay ctx state (ensureAlarm now state)) (now + housekeepingIntervalMs) =
      prompt now ctx state := by
  have calls : (replay ctx state (ensureAlarm now state)) =
      (match state.alarmRow with
        | none => perform ctx state (.setAlarm (now + housekeepingIntervalMs))
        | some at_ =>
            if now + housekeepingIntervalMs < at_ then
              perform ctx state (.setAlarm (now + housekeepingIntervalMs))
            else state) := by
    unfold ensureAlarm
    cases state.alarmRow with
    | none => rfl
    | some at_ =>
        by_cases late : now + housekeepingIntervalMs < at_
        · simp [late, perform]
        · simp [late, perform]
  have sets : armedBy (perform ctx state (.setAlarm (now + housekeepingIntervalMs)))
      (now + housekeepingIntervalMs) = (match state.live with
        | none => false
        | some resident => decide (resident = ctx) ||
            match state.timer resident with
            | none => false
            | some at_ => at_ ≤ now + housekeepingIntervalMs) := by
    simp only [armedBy, perform, Function.update_apply]
    cases state.live with
    | none => rfl
    | some resident => by_cases same : resident = ctx <;> simp [same]
  rw [calls]
  cases row : state.alarmRow with
  | none =>
      simp only [sets, prompt, row, Bool.and_true]
  | some at_ =>
      by_cases late : now + housekeepingIntervalMs < at_
      · simp only [late, if_true, sets, prompt, row, decide_true, Bool.and_true]
      · simp only [late, if_false, prompt, row, decide_false, Bool.and_false, Bool.false_or]
        rfl

/-- A call of ensureAlarm that a step of a run makes and completes. -/
def Called (env : Env) (events : List Event) (now : Nat) (ctx : ContextId) (state : State) : Prop :=
  ∃ met ∈ steps env events, ∃ turned, turn env met.1 met.2 = some turned ∧ now = met.2.now ∧
    ctx = turned.ctx ∧ ∃ before rest,
      turned.acts = before ++ (ensureAlarm now (replay ctx turned.start before) ++ rest) ∧
      state = replay ctx turned.start before

/-- Right after every call of ensureAlarm the resident context has a timer armed whose
deadline is at most the housekeeping interval away. -/
def WakesWithin (env : Env) (events : List Event) : Prop :=
  ∀ now ctx state, Called env events now ctx state →
    armedBy (replay ctx state (ensureAlarm now state)) (now + housekeepingIntervalMs) = true

/-- The timer of this pace, or the alarm time that ensureAlarm sees, is within the interval. -/
def Pace.within (soon : Nat) : Pace → Bool
  | .kept => true
  | .retry at_ => at_ ≤ soon
  | .lost => false

/-- If the turn of the event calls ensureAlarm, it does so in the registered context, no alarm()
of that context is under way, and the events before it have not lost the timer. -/
def SteadyStep (env : Env) (lead : List Event) (event : Event) : Prop :=
  ∀ met, turn env (run env lead) event = some met →
    (∃ before rest, met.acts =
      before ++ (ensureAlarm event.now (replay met.ctx met.start before) ++ rest)) →
    met.start.live = some met.ctx ∧ met.start.alarming ≠ some met.ctx ∧
      (pace env lead).within (event.now + housekeepingIntervalMs) = true

def CallsSteady (env : Env) (events : List Event) : Prop :=
  ∀ index < events.length, ∀ event ∈ events[index]?, SteadyStep env (events.take index) event

/-- alarm() will run in the context. -/
def State.watching (state : State) (ctx : ContextId) : Prop :=
  state.timer ctx ≠ none ∨ state.alarming = some ctx

def Store.recorded (store : Store) : Key → Prop
  | .ticket ticket => ticket ∈ store.tickets
  | .regToken token => token ∈ store.regTokens
  | .challenge challenge => challenge ∈ store.challenges

/-- alarm() will visit every ephemeral record, and every routable socket that is neither
admitted nor still in its upgrade. -/
structure Watched (state : State) : Prop where
  -- by the registered context, if there is one
  records : ∀ key, state.store.recorded key → state.alarmRow ≠ none ∧
    (∃ ctx, state.watching ctx) ∧ ∀ resident, state.live = some resident → state.watching resident
  sockets : ∀ ws, state.routable ws → (∀ role, state.admission ws ≠ some (.admitted role)) →
    state.upgrading ws = false → state.watching (state.home ws)

/-- A handler stores a row of this kind and is cut short: a storage call throws. -/
def strands (weighs : Row → Bool) (env : Env) (met : State × Event) : Bool :=
  cutShort env met.1 met.2 && (acts env met.1 met.2).any fun act =>
    match act with
    | .put row => weighs row
    | _ => false

section Records
variable {store : Store} {script : List Act} {act : Act} {key : Key}

theorem recorded_put {row : Row} (light : row.ephemeral = false) :
    (store.put row).recorded key ↔ store.recorded key := by
  cases row with
  | ticket => simp [Row.ephemeral] at light
  | regToken => simp [Row.ephemeral] at light
  | challenge => simp [Row.ephemeral] at light
  | _ => cases key <;> exact Iff.rfl

theorem recorded_delete {other : Key} :
    (store.delete other).recorded key ↔ key ≠ other ∧ store.recorded key := by
  cases other <;> cases key <;> simp [Store.delete, Store.recorded, AList.mem_erase]

theorem not_recorded_empty : ¬ ({} : Store).recorded key := by
  cases key <;> exact AList.notMem_empty _

-- Only the puts of ephemeral rows add a record.
theorem recorded_after (light : ∀ row, act = .put row → row.ephemeral = false)
    (after : (store.after act).recorded key) :
    store.recorded key ∧ act ≠ .delete key ∧ act ≠ .deleteAll := by
  cases act with
  | put row => exact ⟨(recorded_put (light row rfl)).mp after, by simp, by simp⟩
  | delete other =>
      obtain ⟨apart, before⟩ := recorded_delete.mp after
      exact ⟨before, by simpa using fun same => apart same.symm, by simp⟩
  | deleteAll => exact absurd after not_recorded_empty
  | _ => exact ⟨after, by simp, by simp⟩

theorem recorded_fold (light : ∀ row, .put row ∈ script → row.ephemeral = false)
    (after : (script.foldl Store.after store).recorded key) :
    store.recorded key ∧ .delete key ∉ script ∧ .deleteAll ∉ script := by
  induction script generalizing store with
  | nil => exact ⟨after, by simp, by simp⟩
  | cons act rest ih =>
      obtain ⟨between, undeleted, unwiped⟩ :=
        ih (fun row member => light row (List.mem_cons_of_mem act member)) after
      obtain ⟨before, here⟩ := recorded_after (fun row same => light row (by simp [same])) between
      simp only [List.mem_cons, not_or]
      exact ⟨before, ⟨here.1.symm, undeleted⟩, here.2.symm, unwiped⟩

end Records

section Sweep
variable (env : Env) (now : Nat) (ctx : ContextId) (state : State)

theorem expired_all {Rec : Type} (expiresAt : Rec → Nat) (table : Table Rec)
    (none_ : liveCount now expiresAt table = 0) (key : String) (member : key ∈ table) :
    key ∈ expired now expiresAt table := by
  obtain ⟨row, inside, rfl⟩ := List.mem_map.mp (AList.mem_keys.mp member)
  refine List.mem_map.mpr ⟨row, List.mem_filter.mpr ⟨inside, ?_⟩, rfl⟩
  have empty : table.entries.filter (fun row => !decide (expiresAt row.2 < now)) = [] :=
    List.length_eq_zero_iff.mp none_
  have gone := List.filter_eq_nil_iff.mp empty row inside
  simpa using gone

theorem pruned_all (none_ : remainingEphemeral now state = 0) (key : Key)
    (recorded : state.store.recorded key) : .delete key ∈ pruneExpired now state := by
  unfold remainingEphemeral at none_
  cases key with
  | ticket ticket =>
      have gone := expired_all now (·.expiresAt) state.store.tickets (by omega) ticket recorded
      simp [pruneExpired, gone]
  | regToken token =>
      have gone := expired_all now (·.expiresAt) state.store.regTokens (by omega) token recorded
      simp [pruneExpired, gone]
  | challenge challenge =>
      have gone := expired_all now id state.store.challenges (by omega) challenge recorded
      simp [pruneExpired, gone]

-- A sweep after which no socket waits has closed every socket that it has found.
theorem swept_all {seen : List SocketId} (none_ : pendingPreAuth now state seen = 0) (ws : SocketId)
    (found : ws ∈ seen) : ws ∈ closes (sweepPreAuth now state seen) := by
  rw [sweepPreAuth, closes_map]
  refine List.mem_filter.mpr ⟨found, ?_⟩
  have empty := List.length_eq_zero_iff.mp none_
  have gone := List.filter_eq_nil_iff.mp empty ws found
  simpa using gone

theorem mem_preAuth (ws : SocketId) : ws ∈ preAuth ctx state ↔
    ws ∈ state.sockets ctx ∧ state.admission ws ≠ none ∧
      ∀ role, state.admission ws ≠ some (.admitted role) := by
  unfold preAuth
  rw [List.mem_filter]
  constructor
  · rintro ⟨there, waits⟩
    refine ⟨there, ?_⟩
    split at waits
    · simp at waits
    · simp at waits
    · rename_i current apart found
      rw [found]
      refine ⟨by simp, ?_⟩
      intro role same
      exact apart role (by simpa using same)
  · rintro ⟨there, some_, waits⟩
    refine ⟨there, ?_⟩
    split
    · rename_i found
      exact absurd found some_
    · rename_i role found
      exact absurd found (waits role)
    · rfl

theorem nextAlarm_none {seen : List SocketId} (none_ : nextAlarm env now state seen = none) :
    established state = false ∧ pendingPreAuth now state seen = 0 ∧
      remainingEphemeral now state = 0 := by
  unfold nextAlarm at none_
  by_cases work : 0 < pendingPreAuth now state seen ∨ 0 < remainingEphemeral now state
  · simp only [work, if_true] at none_
    cases idle : idleDeadline env now state <;> simp [idle] at none_
  · simp only [work, if_false] at none_
    have unregistered : idleDeadline env now state = none := none_
    unfold idleDeadline at unregistered
    refine ⟨?_, by omega, by omega⟩
    by_contra registered
    rw [Bool.not_eq_false] at registered
    simp [registered] at unregistered

end Sweep

section Watch

/-- alarm() will visit every ephemeral record, that of the registered context if there is one. -/
def Recording (state : State) : Prop :=
  ∀ key, state.store.recorded key → state.alarmRow ≠ none ∧
    (∃ ctx, state.watching ctx) ∧ ∀ resident, state.live = some resident → state.watching resident

/-- alarm() will visit the routable sockets among `waits`. -/
def Attending (waits : SocketId → Prop) (state : State) : Prop :=
  ∀ ws, waits ws → state.routable ws → state.watching (state.home ws)

theorem perform_plain (ctx : ContextId) (state : State) {act : Act}
    (plain : act.verb ∉ housekeptVerbs) :
    (perform ctx state act).alarmRow = state.alarmRow ∧
      (perform ctx state act).timer = state.timer ∧
      (perform ctx state act).home = state.home ∧
      ∀ other, (perform ctx state act).sockets other ⊆ state.sockets other := by
  have same : ∀ other, state.sockets other ⊆ state.sockets other := fun _ => List.Subset.refl _
  cases act with
  | setAlarm at_ => simp at plain
  | deleteAlarm => simp at plain
  | rearm at_ => simp at plain
  | accept ws => simp at plain
  | close ws code reason => exact ⟨rfl, rfl, rfl, close_sockets_subset state ws⟩
  | _ => exact ⟨rfl, rfl, rfl, same⟩

theorem plain_light {act : Act} (plain : act.verb ∉ housekeptVerbs) :
    ∀ row, act = .put row → row.ephemeral = false := by
  rintro row rfl
  cases row <;> first | rfl | simp at plain

theorem armed_watching {state : State} {soon : Nat} (armed : armedBy state soon = true) :
    ∃ resident, state.live = some resident ∧ state.watching resident := by
  unfold armedBy at armed
  cases resident : state.live with
  | none => simp [resident] at armed
  | some ctx =>
      cases at_ : state.timer ctx with
      | none => simp [resident, at_] at armed
      | some deadline => exact ⟨ctx, rfl, .inl (by simp [at_])⟩

theorem replay_ensureAlarm (now : Nat) (ctx : ContextId) (state : State) :
    replay ctx state (ensureAlarm now state) = state ∧ state.alarmRow ≠ none ∨
      replay ctx state (ensureAlarm now state) =
        perform ctx state (.setAlarm (now + housekeepingIntervalMs)) := by
  unfold ensureAlarm
  cases row : state.alarmRow with
  | none => exact .inr rfl
  | some at_ =>
      by_cases late : at_ > now + housekeepingIntervalMs
      · exact .inr (by simp [late, perform])
      · exact .inl ⟨by simp [late, perform], by simp⟩

theorem watching_grows {now : Nat} {ctx other : ContextId} {state : State}
    (watching : state.watching other) :
    (replay ctx state (ensureAlarm now state)).watching other := by
  rcases replay_ensureAlarm now ctx state with ⟨same, _⟩ | same
  · rw [same]
    exact watching
  · rw [same]
    rcases watching with timer | alarming
    · left
      simp only [perform, Function.update_apply]
      split
      · simp
      · exact timer
    · exact .inr alarming

theorem replay_armed (now : Nat) (ctx : ContextId) (state : State) (rows : List Row) :
    replay ctx state (armed now state rows) =
      replay ctx (replay ctx state (rows.map Act.put))
        (ensureAlarm now (replay ctx state (rows.map Act.put))) := by
  rw [armed, replay_append, ensureAlarm_eq now (stored_alarm_row ctx state rows).symm]

theorem recording_maintained (now : Nat) (ctx : ContextId) :
    Maintains now ctx Row.ephemeral (fun state => prompt now ctx state = true) Recording where
  plain state act plain holds key recorded := by
    rw [perform_store] at recorded
    have before := holds key (recorded_after (plain_light plain) recorded).1
    have kept := perform_plain ctx state plain
    rw [kept.1]
    have same : ∀ other, (perform ctx state act).watching other ↔ state.watching other := by
      intro other
      unfold State.watching
      rw [kept.2.1, perform_alarming]
    simp only [perform_live, same]
    exact before
  light state row light holds key recorded := holds key ((recorded_put light).mp recorded)
  armed state rows stored call holds key recorded := by
    rw [replay_armed]
    constructor
    · rcases replay_ensureAlarm now ctx (replay ctx state (rows.map Act.put)) with ⟨same, row⟩ | same
      · rw [same]
        exact row
      · rw [same]
        simp [perform]
    · have arms := ensureAlarm_arms now ctx (replay ctx state (rows.map Act.put))
      rw [call] at arms
      obtain ⟨watcher, live, watching⟩ := armed_watching arms
      refine ⟨⟨watcher, watching⟩, fun resident registered => ?_⟩
      obtain rfl : watcher = resident := Option.some.inj (live.symm.trans registered)
      exact watching
  emptied state empty holds key recorded := absurd recorded not_recorded_empty
  wiped state empty holds key recorded := absurd recorded not_recorded_empty

theorem attending_maintained (now : Nat) (ctx : ContextId) (waits : SocketId → Prop) :
    Maintains now ctx (fun _ => false) (fun _ => True) (Attending waits) where
  plain state act plain holds ws waiting routed := by
    have kept := perform_plain ctx state plain
    unfold State.routable at routed
    rw [kept.2.2.1] at routed ⊢
    have watching := holds ws waiting (kept.2.2.2 _ routed)
    unfold State.watching
    rw [kept.2.1, perform_alarming]
    exact watching
  light state row light holds := holds
  armed state rows stored call holds ws waiting routed := by
    rw [replay_armed, replay_puts] at routed ⊢
    rcases replay_ensureAlarm now ctx { state with store := rows.foldl Store.put state.store } with
      ⟨same, _⟩ | same
    · rw [same] at routed ⊢
      exact holds ws waiting routed
    · have watching := holds ws waiting (by rw [same] at routed; exact routed)
      have home : (replay ctx { state with store := rows.foldl Store.put state.store }
          (ensureAlarm now { state with store := rows.foldl Store.put state.store })).home ws =
          state.home ws := by
        rw [same]
        rfl
      rw [home]
      have put : State.watching { state with store := rows.foldl Store.put state.store }
        (state.home ws) := watching
      exact watching_grows put
  emptied state empty holds := holds
  wiped state empty holds ws waiting routed := by
    have apart : state.home ws ≠ ctx := by
      intro same
      have routed : ws ∈ state.sockets (state.home ws) := routed
      rw [same, empty] at routed
      simp at routed
    have watching := holds ws waiting routed
    unfold State.watching at watching ⊢
    simpa [perform, Function.update_of_ne apart] using watching

section Start
variable {env : Env} {state : State} {event : Event} {met : Turn}

theorem init_watching {now : Nat} {ctx : ContextId} (row : state.alarmRow ≠ none) :
    (init now ctx state).watching ctx := by
  unfold init
  cases stored : state.alarmRow with
  | none => exact absurd stored row
  | some at_ =>
      by_cases due : at_ ≤ now
      · simp only [due, if_true]
        exact .inr rfl
      · simp only [due, if_false]
        exact .inl (by simp)

@[simp] theorem maybe_evict_watching (ctx other : ContextId) :
    (maybeEvict ctx state).watching other ↔ state.watching other := by
  rw [maybe_evict_live]
  exact Iff.rfl

theorem evicted_registered {ctx resident : ContextId}
    (registered : (maybeEvict ctx state).live = some resident) : state.live = some resident := by
  unfold maybeEvict at registered
  split at registered
  · cases registered
  · exact registered

theorem Turns.result_watching (turns : Turns env state event met) (other : ContextId) :
    met.result.watching other ↔ (replay met.ctx met.start met.acts).watching other := by
  unfold Turn.result
  rcases turns.finish_keeps (replay met.ctx met.start met.acts) with same | evicted
  · rw [same]
  · rw [evicted, maybe_evict_watching]

theorem Turns.start_recording (turns : Turns env state event met)
    (other : event.isAlarm = false) (holds : Recording state) : Recording met.start := by
  intro key recorded
  obtain ⟨store, alarmRow, _⟩ := turns.start_keeps
  rw [store] at recorded
  rw [alarmRow]
  obtain ⟨row, watched, resident⟩ := holds key recorded
  refine ⟨row, ?_⟩
  cases turns with
  | get now absent quiet =>
      refine ⟨⟨_, init_watching row⟩, fun made registered => ?_⟩
      rw [init_keeps] at registered
      obtain rfl : state.nextId = made := Option.some.inj registered
      exact init_watching row
  | restart now =>
      unfold Relay.restart
      simp only [row, and_false, if_false, maybe_evict_watching]
      refine ⟨⟨state.nextId, init_watching row⟩, fun made registered => ?_⟩
      have registered := evicted_registered registered
      rw [init_keeps] at registered
      obtain rfl : state.nextId = made := Option.some.inj registered
      exact init_watching row
  | chunk ws frames tail attached hears upgraded quiet =>
      rw [hang_up_keeps]
      exact ⟨watched, resident⟩
  | ended ws attached open_ quiet =>
      simp only [maybe_evict_watching]
      refine ⟨watched, fun other registered => ?_⟩
      have before := evicted_registered registered
      exact resident other before
  | fire => simp [Event.isAlarm] at other
  | alarm => simp [Event.isAlarm] at other
  | task now ws task rest drained free next => cases task <;> exact ⟨watched, resident⟩
  | _ => exact ⟨watched, resident⟩

end Start

section Alarm
variable {env : Env} {state : State} {event : Event} {met : Turn}

theorem row_stays {script : List Act} (kept : .deleteAlarm ∉ script) (row : Option Nat)
    (stored : row ≠ none) : script.foldl rowAfter row ≠ none := by
  induction script generalizing row with
  | nil => exact stored
  | cons act rest ih =>
      apply ih (fun member => kept (List.mem_cons_of_mem act member))
      cases act with
      | setAlarm at_ => simp [rowAfter]
      | deleteAlarm => exact absurd (by simp) kept
      | _ => exact stored

theorem replay_timer_elsewhere {ctx other : ContextId} (script : List Act) (apart : other ≠ ctx) :
    (replay ctx state script).timer other = state.timer other := by
  apply Script.replay_keeps (perform ctx) (fun state => state.timer other) script
  intro act _ state
  cases act <;> simp [perform, State.closeSocket, Function.update_of_ne apart]

theorem replay_alarming (ctx : ContextId) (script : List Act) :
    (replay ctx state script).alarming = state.alarming :=
  Script.replay_keeps (perform ctx) State.alarming script (fun act _ => (perform_alarming ctx · act))
    state

theorem alarm_deletes (now : Nat) (ctx : ContextId) (start : State) (seen : List SocketId)
    (fault : Option Nat) (member : .deleteAlarm ∈ done fault (alarm env now ctx start seen)) :
    .deleteAll ∈ done fault (alarm env now ctx start seen) := by
  have front := alarmFront_within now start seen
  have early : .deleteAlarm ∉ alarmFront now start seen := front.lacks (by simp)
  rcases alarm_cases env now ctx start seen with
    ⟨_, whole⟩ | ⟨_, next, _, whole⟩ | ⟨_, _, whole⟩
  · have shape : alarm env now ctx start seen =
        (alarmFront now start seen ++ closeAll ctx (replay ctx start (alarmFront now start seen))
          1000 "room expired") ++ .deleteAll :: [.deleteAlarm] := by
      rw [whole]
      simp [teardownRoom]
    rw [shape] at member ⊢
    refine Script.done_reached _ _ ?_ member
    intro inside
    rcases List.mem_append.mp inside with first | closing
    · exact early first
    · exact absurd ((closeAll_within ..).each _ closing) (by simp)
  · have inside := Script.done_subset _ _ member
    rw [whole] at inside
    simp [early] at inside
  · have inside := Script.done_subset _ _ member
    rw [whole] at inside
    exact absurd inside early

theorem alarm_watches (seen : List SocketId)
    (caught : met.onThrow = [.rearm (event.now + alarmRetryMs)])
    (work : threw met.fault met.script = true ∨
      ∃ next, met.script = alarmFront event.now met.start seen ++ [.setAlarm next]) :
    (replay met.ctx met.start met.acts).watching met.ctx := by
  left
  cases finished : threw met.fault met.script with
  | true =>
      simp [Turn.acts, finished, caught, perform]
  | false =>
      rcases work with wrong | ⟨next, shape⟩
      · rw [finished] at wrong
        exact Bool.noConfusion wrong
      · simp [Turn.acts_whole finished, shape, perform]

theorem alarm_elsewhere (turns : Turns env state event met) (alarms : event.isAlarm = true)
    {other : ContextId} (apart : other ≠ met.ctx) (watching : state.watching other) :
    (replay met.ctx met.start met.acts).watching other := by
  unfold State.watching
  rw [replay_timer_elsewhere met.acts apart, replay_alarming]
  cases turns with
  | fire now ctx at_ fault armed due quiet =>
      have apart : other ≠ ctx := apart
      rcases watching with timer | alarming
      · left
        simpa [alarmTurn, Function.update_of_ne apart] using timer
      · exact .inr alarming
  | alarm now ctx fault started =>
      rcases watching with timer | alarming
      · exact .inl timer
      · rw [started] at alarming
        exact absurd (Option.some.inj alarming).symm apart
  | _ => simp [Event.isAlarm] at alarms

theorem alarm_live (turns : Turns env state event met) (alarms : event.isAlarm = true) :
    met.start.live = state.live := by
  cases turns with
  | fire => rfl
  | alarm => rfl
  | _ => simp [Event.isAlarm] at alarms

theorem alarm_recording (turns : Turns env state event met) (alarms : event.isAlarm = true)
    {seen : List SocketId} (script : met.script = Relay.alarm env event.now met.ctx met.start seen)
    (caught : met.onThrow = [.rearm (event.now + alarmRetryMs)]) (holds : Recording state) :
    Recording (replay met.ctx met.start met.acts) := by
  intro key recorded
  have store := Script.replay_part (perform met.ctx) State.store Store.after
    (perform_store met.ctx) met.acts met.start
  rw [show (replay met.ctx met.start met.acts).store = _ from store] at recorded
  have fits := alarm_within env event.now met.ctx met.start seen
  have light : ∀ row, .put row ∈ met.acts → row.ephemeral = false := by
    intro row member
    rcases turn_act member with ran | handled
    · rw [script] at ran
      have verb := fits.each _ ran
      cases row <;> first | rfl | simp at verb
    · simp [caught] at handled
  obtain ⟨before, kept, unwiped⟩ := recorded_fold light recorded
  have rowKept : .deleteAlarm ∉ met.acts := by
    intro member
    rcases List.mem_append.mp member with ran | handled
    · apply unwiped
      rw [script] at ran
      have wiped := alarm_deletes event.now met.ctx met.start seen met.fault ran
      rw [← script] at wiped
      exact List.mem_append_left _ wiped
    · split at handled
      · simp [caught] at handled
      · simp at handled
  have old := holds key (turns.start_keeps.1 ▸ before)
  have here : (replay met.ctx met.start met.acts).watching met.ctx := by
    apply alarm_watches seen caught
    cases finished : threw met.fault met.script with
    | true => exact .inl rfl
    | false =>
        right
        have whole := Turn.acts_whole finished
        rcases alarm_cases env event.now met.ctx met.start seen with
          ⟨_, shape⟩ | ⟨_, next, _, shape⟩ | ⟨_, none_, shape⟩
        · exact absurd (by rw [whole, script, shape]; simp [teardownRoom]) unwiped
        · exact ⟨next, by rw [script, shape]⟩
        · exfalso
          apply kept
          rw [whole, script, shape]
          have gone := pruned_all event.now met.start (nextAlarm_none _ _ _ none_).2.2 key before
          simp [alarmFront, gone]
  refine ⟨?_, ⟨met.ctx, here⟩, fun resident registered => ?_⟩
  · rw [replay_alarm_row]
    exact row_stays rowKept _ (by rw [turns.start_keeps.2.1]; exact old.1)
  · rw [replay_live, alarm_live turns alarms] at registered
    by_cases same : resident = met.ctx
    · rw [same]
      exact here
    · exact alarm_elsewhere turns alarms same (old.2.2 resident registered)

theorem alarm_unaccepted (turns : Turns env state event met) (alarms : event.isAlarm = true)
    (ws : SocketId) : Act.accept ws ∉ met.acts := by
  have fits := turns.within turns.script_within
  cases turns with
  | fire => exact fits.lacks (by simp [footprint])
  | alarm => exact fits.lacks (by simp [footprint])
  | _ => simp [Event.isAlarm] at alarms

theorem alarm_start (turns : Turns env state event met) (alarms : event.isAlarm = true) :
    met.start.sockets = state.sockets := by
  cases turns with
  | fire => rfl
  | alarm => rfl
  | _ => simp [Event.isAlarm] at alarms

/-- The sockets that alarm() has to visit. -/
def Waiting (state : State) (ws : SocketId) : Prop :=
  (∀ role, state.admission ws ≠ some (.admitted role)) ∧ state.upgrading ws = false

/-- While an alarm() that init() has started is under way, its context has no sockets but those
whose upgrade is. -/
def Entering (state : State) : Prop :=
  ∀ ws, state.routable ws → state.alarming = some (state.home ws) → state.upgrading ws = true

-- alarm() finds every socket that waits.
theorem alarm_finds (wired : Wired env state) (entering : Entering state)
    (turns : Turns env state event met) (alarms : event.isAlarm = true) :
    met.onThrow = [.rearm (event.now + alarmRetryMs)] ∧
      ∃ seen, met.script = Relay.alarm env event.now met.ctx met.start seen ∧
        ∀ ws ∈ met.start.sockets met.ctx, Waiting state ws → ws ∈ seen := by
  cases turns with
  | fire now ctx at_ fault armed due quiet =>
      refine ⟨rfl, preAuth ctx state, rfl, fun ws there waits => ?_⟩
      have anchor := wired.anchored ctx ws there
      exact (mem_preAuth ctx state ws).mpr
        ⟨there, by simpa [State.admission] using anchor.2.2, waits.1⟩
  | alarm now ctx fault started =>
      refine ⟨rfl, [], rfl, fun ws there waits => ?_⟩
      have anchor := wired.anchored ctx ws there
      have enters := entering ws (by rw [State.routable, anchor.2.1]; exact there)
        (by rw [anchor.2.1]; exact started)
      rw [waits.2] at enters
      exact Bool.noConfusion enters
  | _ => simp [Event.isAlarm] at alarms

-- A turn of alarm() closes the sockets of its context that wait, or leaves them to a later
-- alarm().
theorem alarm_attending (wired : Wired env state) (turns : Turns env state event met)
    (free : state.busy event = false) (alarms : event.isAlarm = true) {seen : List SocketId}
    (script : met.script = Relay.alarm env event.now met.ctx met.start seen)
    (caught : met.onThrow = [.rearm (event.now + alarmRetryMs)])
    (finds : ∀ ws ∈ met.start.sockets met.ctx, Waiting state ws → ws ∈ seen) {ws : SocketId}
    (waits : Waiting state ws)
    (routed : met.result.routable ws) (watching : state.watching (state.home ws)) :
    met.result.watching (met.result.home ws) := by
  have unaccepted := alarm_unaccepted turns alarms
  obtain ⟨home, there, open_⟩ := turns.result_routable unaccepted routed
  rw [home, turns.result_watching]
  by_cases here : state.home ws = met.ctx
  · rw [here] at there ⊢
    cases finished : threw met.fault met.script with
    | true => exact alarm_watches seen caught (.inl finished)
    | false =>
        have whole := Turn.acts_whole finished
        rcases alarm_cases env event.now met.ctx met.start seen with
          ⟨_, shape⟩ | ⟨_, next, _, shape⟩ | ⟨_, none_, shape⟩
        · have wiped := (turns.wiped wired free (by
            rw [whole, script, shape]
            simp [teardownRoom])).1
          unfold State.routable at routed
          rw [turns.result_sockets.1, home, here, wiped] at routed
          simp at routed
        · exact alarm_watches seen caught (.inr ⟨next, by rw [script, shape]⟩)
        · exfalso
          apply open_
          rw [whole, script, shape]
          have idle := (nextAlarm_none _ _ _ none_).2.1
          have swept := swept_all event.now met.start idle ws (finds ws there waits)
          simp only [alarmFront, closes_append]
          exact List.mem_append_left _ (List.mem_append_left _ swept)
  · exact alarm_elsewhere turns alarms here watching

end Alarm

section Step
variable {env : Env} {state : State} {event : Event} {met : Turn}

/-- Every completed call of ensureAlarm in the step is prompt. -/
def PromptStep (env : Env) (state : State) (event : Event) : Prop :=
  ∀ met, turn env state event = some met → ∀ before rest,
    met.acts = before ++ (ensureAlarm event.now (replay met.ctx met.start before) ++ rest) →
    prompt event.now met.ctx (replay met.ctx met.start before) = true

/-- What a turn does before each of its calls of ensureAlarm. -/
def Turn.beforeCalls (met : Turn) (now : Nat) : List (List Act) :=
  met.acts.inits.filter fun before =>
    (ensureAlarm now (replay met.ctx met.start before)).isPrefixOf (met.acts.drop before.length)

theorem mem_beforeCalls {met : Turn} {now : Nat} {before : List Act} :
    before ∈ met.beforeCalls now ↔ ∃ rest,
      met.acts = before ++ (ensureAlarm now (replay met.ctx met.start before) ++ rest) := by
  rw [Turn.beforeCalls, List.mem_filter, List.mem_inits, List.isPrefixOf_iff_prefix]
  constructor
  · rintro ⟨inside, rest, tail⟩
    exact ⟨rest, by rw [tail]; exact (List.prefix_iff_eq_append.mp inside).symm⟩
  · rintro ⟨rest, split⟩
    rw [split, List.drop_left]
    exact ⟨List.prefix_append before _, List.prefix_append _ rest⟩

instance (env : Env) (state : State) (event : Event) : Decidable (PromptStep env state event) :=
  decidable_of_iff (∀ met ∈ turn env state event, ∀ before ∈ met.beforeCalls event.now,
    prompt event.now met.ctx (replay met.ctx met.start before) = true) <| by
    simp only [PromptStep, mem_beforeCalls, Option.mem_def, forall_exists_index]

instance (env : Env) (lead : List Event) (event : Event) : Decidable (SteadyStep env lead event) :=
  decidable_of_iff (∀ met ∈ turn env (run env lead) event, ∀ before ∈ met.beforeCalls event.now,
    met.start.live = some met.ctx ∧ met.start.alarming ≠ some met.ctx ∧
      (pace env lead).within (event.now + housekeepingIntervalMs) = true) <| by
    simp only [SteadyStep, mem_beforeCalls, Option.mem_def, forall_exists_index]

instance (env : Env) (events : List Event) : Decidable (CallsSteady env events) :=
  inferInstanceAs (Decidable (∀ index < events.length, ∀ event ∈ events[index]?,
    SteadyStep env (events.take index) event))

theorem step_records (env : Env) (state : State) (event : Event) :
    ∀ met, turn env state event = some met →
      (Recording (replay met.ctx met.start met.acts) → Recording (step env state event)) := by
  intro met happens holds key recorded
  have turns := turn_turns happens
  have result : step env state event = met.result := by rw [step, happens]
  rw [result] at recorded ⊢
  have kept : met.result.store = (replay met.ctx met.start met.acts).store ∧
      met.result.alarmRow = (replay met.ctx met.start met.acts).alarmRow := by
    unfold Turn.result
    rcases turns.finish_keeps (replay met.ctx met.start met.acts) with same | evicted
    · rw [same]
      exact ⟨rfl, rfl⟩
    · rw [evicted, maybe_evict_store, maybe_evict_alarm_row]
      exact ⟨rfl, rfl⟩
  rw [kept.1] at recorded
  rw [kept.2]
  obtain ⟨row, ⟨watcher, watching⟩, watched⟩ := holds key recorded
  refine ⟨row, ⟨watcher, (turns.result_watching watcher).mpr watching⟩,
    fun resident registered => (turns.result_watching resident).mpr ?_⟩
  apply watched resident
  unfold Turn.result at registered
  rcases turns.finish_keeps (replay met.ctx met.start met.acts) with same | evicted
  · rwa [same] at registered
  · rw [evicted] at registered
    exact evicted_registered registered

theorem recording_step (wired : Wired env state) (holds : Recording state)
    (calls : PromptStep env state event)
    (unstranded : strands Row.ephemeral env (state, event) = false) :
    Recording (step env state event) := by
  cases happens : turn env state event with
  | none =>
      rw [step, happens]
      exact holds
  | some met =>
      have turns := turn_turns happens
      apply step_records env state event met happens
      rcases turns.housekept wired (turn_free happens) with
        ⟨other, kept, handled⟩ | ⟨now, ws, rfl, fits⟩ | ⟨alarms, ⟨seen, script⟩, caught⟩
      · apply (recording_maintained event.now met.ctx).turn happens kept handled (calls met happens)
        · intro cut row member
          by_contra heavy
          rw [Bool.not_eq_false] at heavy
          have stranded : strands Row.ephemeral env (state, event) = true := by
            simp only [strands, cut, Bool.true_and, List.any_eq_true]
            exact ⟨.put row, member, heavy⟩
          rw [unstranded] at stranded
          exact Bool.noConfusion stranded
        · exact turns.start_recording other holds
      · have started := turns.start_recording rfl holds
        apply Script.replay_invariant (perform met.ctx) Recording met.acts _ met.start started
        intro act member other holds
        have verb := fits.each act member
        cases act with
        | accept ws => exact holds
        | attach ws value => exact holds
        | suspend id await => exact holds
        | put row => cases row <;> simp at verb
        | delete key => cases key <;> simp at verb
        | send ws message => cases message <;> simp at verb
        | reply id endpoint status body => cases endpoint <;> cases body <;> simp at verb
        | _ => simp at verb
      · exact alarm_recording turns alarms script caught holds

theorem attending_turn (turns : Turns env state event met) (other : event.isAlarm = false)
    (wired : Wired env state) (waits : SocketId → Prop) (holds : Attending waits state) :
    Attending waits met.start := by
  have start := turns.wired_start wired
  cases turns with
  | get now absent quiet =>
      intro ws _ routed
      have anchor := (start.anchored _ ws routed).1
      unfold State.routable at routed
      generalize State.home _ ws = ctx at routed anchor
      rw [init_keeps] at routed anchor
      obtain rfl : state.nextId = ctx := Option.some.inj anchor
      simp [newContext] at routed
  | restart now => exact fun ws _ routed => absurd routed (restart_unroutable now state ws)
  | chunk ws frames tail attached hears upgraded quiet =>
      intro target waiting routed
      rw [hang_up_keeps]
      apply holds target waiting
      unfold State.routable at routed ⊢
      rw [hang_up_keeps] at routed
      cases tail with
      | none => exact routed
      | closeFrame => exact close_sockets_subset _ ws _ routed
      | protocolError => exact close_sockets_subset _ ws _ routed
  | ended ws attached open_ quiet =>
      intro target waiting routed
      rw [maybe_evict_watching, maybe_evict_live]
      apply holds target waiting
      unfold State.routable at routed ⊢
      rw [maybe_evict_live] at routed
      simp only [endSocket, State.push, Function.update_apply] at routed
      split at routed
      · rename_i same
        rw [same]
        exact (List.mem_filter.mp routed).1
      · exact routed
  | fire => simp [Event.isAlarm] at other
  | alarm => simp [Event.isAlarm] at other
  | task now ws task rest drained free next => cases task <;> exact holds
  | _ => exact holds

theorem Turns.upgraded (wired : Wired env state) (turns : Turns env state event met)
    {ws : SocketId} (before : state.upgrading ws = true) (after : met.result.upgrading ws = false) :
    (∃ now, event = .restart now) ∨ ∃ now id random fault ctx,
      event = .resume now id random fault ∧ state.find id = some ⟨id, ctx, .upgradeTag ws⟩ := by
  have suspended : met.result.suspended = (replay met.ctx met.start met.acts).suspended := by
    unfold Turn.result
    rcases turns.finish_keeps (replay met.ctx met.start met.acts) with same | evicted
    · rw [same]
    · rw [evicted, maybe_evict_live]
  rw [replay_suspended] at suspended
  obtain ⟨handler, member, upgrade⟩ := List.any_eq_true.mp before
  have upgrade : handler.await = .upgradeTag ws := by simpa using upgrade
  have gone : handler ∉ met.start.suspended := by
    intro there
    have busy : met.result.upgrading ws = true := by
      refine List.any_eq_true.mpr ⟨handler, ?_, by simpa using upgrade⟩
      rw [suspended]
      exact List.mem_append_left _ there
    rw [after] at busy
    exact Bool.noConfusion busy
  cases turns with
  | restart now => exact .inl ⟨now, rfl⟩
  | resume now id random fault other found quiet =>
      have same : handler.id = id := by
        by_contra apart
        exact gone (List.mem_filter.mpr ⟨member, by simpa using apart⟩)
      obtain ⟨otherMember, numbered⟩ := mem_find found
      have one : handler = other :=
        List.inj_on_of_nodup_map wired.distinct member otherMember (same.trans numbered.symm)
      obtain ⟨handlerId, ctx, await⟩ := handler
      obtain rfl : handlerId = id := same
      obtain rfl : await = .upgradeTag ws := upgrade
      exact .inr ⟨now, handlerId, random, fault, ctx, rfl, by rw [one]; exact found⟩
  | get now absent quiet =>
      rw [init_keeps] at gone
      exact absurd member gone
  | chunk other frames tail attached hears upgraded quiet =>
      rw [hang_up_keeps] at gone
      exact absurd member gone
  | ended other attached open_ quiet =>
      rw [maybe_evict_live] at gone
      exact absurd member gone
  | task now other task rest drained free next => cases task <;> exact absurd member gone
  | _ => exact absurd member gone

-- A socket whose upgrade has been completed has a timer in its context.
theorem upgrade_watched (wired : Wired env state) {now id : Nat} {random : Bytes}
    {fault : Option Nat} {ctx : ContextId} {ws : SocketId}
    (found : state.find id = some ⟨id, ctx, .upgradeTag ws⟩)
    (happens : turn env state (.resume now id random fault) = some met)
    (calls : PromptStep env state (.resume now id random fault))
    (routed : met.result.routable ws) : met.result.watching (met.result.home ws) := by
  have turns := turn_turns happens
  have prompt := calls met happens
  have unaccepted : ∀ other, Act.accept other ∉ met.acts := by
    intro other
    have fits := turns.within turns.script_within
    simp only [footprint, found, Option.map_some, Option.getD_some] at fits
    exact fits.lacks (by simp)
  obtain ⟨home, there, open_⟩ := turns.result_routable unaccepted routed
  have anchor := ((turns.wired_start wired).anchored _ ws there).1
  obtain ⟨script, caught⟩ : met.script = finishUpgrade env now met.ctx met.start ws ∧
      met.onThrow = [.close ws 1011 "internal error"] := by
    cases turns with
    | resume _ _ _ _ handler same quiet =>
        obtain rfl : handler = ⟨id, ctx, .upgradeTag ws⟩ := by
          rw [found] at same
          exact (Option.some.inj same).symm
        exact ⟨rfl, rfl⟩
  cases finished : threw met.fault met.script with
  | true =>
      exfalso
      apply open_
      rw [Turn.acts, finished, closes_append, caught]
      exact List.mem_append_right _ (by simp [closes, Act.closes])
  | false =>
      have lead : Within [.attach, .close]
          (backfillTag env met.start ws ++ evictExcessPreAuth met.ctx met.start) :=
        Within.append_iff.mpr ⟨(backfillTag_within env met.start ws).mono (by simp),
          (evictExcessPreAuth_within met.ctx met.start).mono (by simp)⟩
      have same : ensureAlarm now met.start = ensureAlarm now (replay met.ctx met.start
          (backfillTag env met.start ws ++ evictExcessPreAuth met.ctx met.start)) :=
        ensureAlarm_eq now (replay_alarm_row_kept lead (by simp)).symm
      have whole : met.acts = (backfillTag env met.start ws ++ evictExcessPreAuth met.ctx met.start) ++
          (ensureAlarm now (replay met.ctx met.start
            (backfillTag env met.start ws ++ evictExcessPreAuth met.ctx met.start)) ++ []) := by
        rw [Turn.acts_whole finished, script, ← same, List.append_nil]
        rfl
      have arms := (ensureAlarm_arms now met.ctx (replay met.ctx met.start
        (backfillTag env met.start ws ++ evictExcessPreAuth met.ctx met.start))).trans
          (prompt _ _ whole)
      obtain ⟨resident, live, watching⟩ := armed_watching arms
      rw [← replay_append, replay_live, anchor] at live
      obtain rfl : state.home ws = resident := Option.some.inj live
      rw [home, turns.result_watching, whole, List.append_nil, replay_append]
      exact watching

theorem entering_step (wired : Wired env state) (entering : Entering state) :
    Entering (step env state event) := by
  rcases step_met env state event with ⟨_, same⟩ | ⟨met, turns, free, _, result⟩
  · rwa [same]
  · have running : met.result.alarming = met.start.alarming := by
      unfold Turn.result
      rcases turns.finish_keeps (replay met.ctx met.start met.acts) with same | evicted
      · rw [same, replay_alarming]
      · rw [evicted, maybe_evict_live]
        exact replay_alarming _ _
    intro ws routed started
    rw [result] at routed started ⊢
    rw [running] at started
    by_contra idle
    rw [Bool.not_eq_true] at idle
    by_cases fresh : ∃ now, event = .connect now ws
    · obtain ⟨now, rfl⟩ := fresh
      cases turns with
      | connect now opened ctx resident unseen =>
          have whole : Turn.result
              { ctx := ctx
                start := (freshSocket ws state).enter
                script := handleUpgrade env now state.nextId ws } =
              replay ctx (freshSocket ws state).enter (handleUpgrade env now state.nextId ws) := rfl
          rw [whole] at idle
          simp [handleUpgrade, perform, State.upgrading] at idle
    · have before := turns.routable_before (fun now same => fresh ⟨now, same⟩) routed
      have home : met.result.home ws = state.home ws := by
        have stays : (step env state event).home ws = state.home ws :=
          home_stays (wired.anchored _ ws before.1).2.2
        rwa [result] at stays
      rw [home] at started
      have under : state.alarming = some (state.home ws) → False := fun same => by
        have busy := entering ws before.1 same
        rcases turns.upgraded wired busy idle with ⟨now, rfl⟩ | ⟨now, id, random, fault, ctx, rfl, _⟩
        · cases turns with
          | restart => exact restart_unroutable now state ws routed
        · simp [State.busy, same] at free
      cases turns with
      | get now absent quiet =>
          have live := (wired.anchored _ ws before.1).1
          rw [absent] at live
          cases live
      | restart now => exact absurd routed (restart_unroutable now state ws)
      | chunk target frames tail attached hears upgraded quiet =>
          rw [hang_up_keeps] at started
          exact under started
      | ended target attached open_ quiet =>
          rw [maybe_evict_live] at started
          exact under started
      | alarm now ctx fault running => cases started
      | task now target task rest drained unproved next => cases task <;> exact under started
      | _ => exact under started

theorem watched_step (wired : Wired env state) (entering : Entering state) (watched : Watched state)
    (calls : PromptStep env state event)
    (unstranded : strands Row.ephemeral env (state, event) = false) :
    Watched (step env state event) := by
  refine ⟨recording_step wired watched.records calls unstranded, ?_⟩
  cases happens : turn env state event with
  | none =>
      rw [step, happens]
      exact watched.sockets
  | some met =>
      have result : step env state event = met.result := by rw [step, happens]
      have turns := turn_turns happens
      intro ws routed unadmitted upgraded
      rw [result] at routed ⊢
      have waits : ∀ role, state.admission ws ≠ some (.admitted role) := by
        intro role admitted
        exact unadmitted role (admitted_stays wired admitted)
      have after : met.result.upgrading ws = false := by rw [← result]; exact upgraded
      rcases turns.housekept wired (turn_free happens) with
        ⟨other, kept, handled⟩ | ⟨now, opened, rfl, fits⟩ | ⟨alarms, _⟩
      · cases before : state.upgrading ws with
        | false =>
            have started := attending_turn turns other wired (Waiting state)
              (fun target waiting there => watched.sockets target there waiting.1 waiting.2)
            have ends := (attending_maintained event.now met.ctx (Waiting state)).turn happens kept
              handled (fun _ _ _ => trivial) (fun _ _ _ => rfl) started
            rw [turns.result_watching, turns.result_sockets.2]
            apply ends ws ⟨waits, before⟩
            unfold State.routable at routed ⊢
            rw [turns.result_sockets.1, turns.result_sockets.2] at routed
            exact routed
        | true =>
            rcases turns.upgraded wired before after with
              ⟨now, rfl⟩ | ⟨now, id, random, fault, ctx, rfl, found⟩
            · cases turns with
              | restart now => exact absurd routed (restart_unroutable now state ws)
            · exact upgrade_watched wired found happens calls routed
      · cases turns with
        | connect now opened ctx resident unseen =>
            have whole : Turn.result
                { ctx := ctx
                  start := (freshSocket opened state).enter
                  script := handleUpgrade env now state.nextId opened } =
                replay ctx (freshSocket opened state).enter
                  (handleUpgrade env now state.nextId opened) := rfl
            rw [whole] at routed after ⊢
            simp only [handleUpgrade, replay_cons, replay_nil, perform, freshSocket, State.enter,
              State.routable, State.upgrading, State.watching] at routed after ⊢
            by_cases same : ws = opened
            · simp [same] at after
            · simp only [Function.update_of_ne same] at routed ⊢
              have before : state.upgrading ws = false := by
                simp only [List.any_append, Bool.or_eq_false_iff] at after
                exact after.1
              apply watched.sockets ws _ waits before
              simp only [Function.update_apply, State.routable] at routed ⊢
              split at routed
              · rename_i here
                simp only [List.mem_append, List.mem_singleton, same, or_false] at routed
                rw [here]
                exact routed
              · exact routed
      · obtain ⟨home, there, _⟩ := turns.result_routable (alarm_unaccepted turns alarms) routed
        obtain ⟨caught, seen, script, finds⟩ := alarm_finds wired entering turns alarms
        have before : state.upgrading ws = false := by
          by_contra before
          rw [Bool.not_eq_false] at before
          rcases turns.upgraded wired before after with
            ⟨now, rfl⟩ | ⟨now, id, random, fault, ctx, rfl, found⟩
          · simp [Event.isAlarm] at alarms
          · simp [Event.isAlarm] at alarms
        apply alarm_attending wired turns (turn_free happens) alarms script caught finds
          ⟨waits, before⟩ routed
        apply watched.sockets ws _ waits before
        rw [alarm_start turns alarms] at there
        exact there

end Step

end Watch

section Run
variable {env : Env}

theorem Turns.unretried {state : State} {event : Event} {met : Turn}
    (turns : Turns env state event met) (other : event.isAlarm = false) (at_ : Nat) :
    .rearm at_ ∉ met.acts := by
  intro member
  rcases turn_act member with ran | caught
  · have verb := turns.script_within.each _ ran
    cases turns with
    | task now ws task rest drained free next => cases task <;> simp [footprint, drained, next] at verb
    | resume now id random fault handler found quiet =>
        simp only [footprint, found, Option.map_some, Option.getD_some] at verb
        cases await : handler.await <;> simp [await] at verb
    | request now request random fault ctx resident =>
        cases request <;> simp [footprint] at verb
        split at verb <;> simp at verb
    | idle now ws drained stopped =>
        simp only [footprint, drained, Option.map_some] at verb
        split at verb <;> simp at verb
    | _ => simp [footprint] at verb
  · cases turns with
    | task now ws task rest drained free next => cases task <;> simp [taskTurn] at caught
    | resume now id random fault handler found quiet =>
        cases await : handler.await <;> simp [await, Await.onThrow] at caught
    | fire => simp [Event.isAlarm] at other
    | alarm => simp [Event.isAlarm] at other
    | _ => simp at caught

-- ensureAlarm is not called by alarm(), nor before a context is loaded.
theorem Turns.calling {state : State} {event : Event} {met : Turn}
    (turns : Turns env state event met) (calls : .getAlarm ∈ met.acts) :
    event.isAlarm = false ∧ event.loads = false := by
  have verb := (turns.within turns.script_within).each _ calls
  cases turns with
  | fire => simp [footprint] at verb
  | alarm => simp [footprint] at verb
  | get => simp [footprint] at verb
  | restart => simp [footprint] at verb
  | _ => exact ⟨rfl, rfl⟩

theorem Pace.within_fold {soon : Nat} {pace : Pace} {script : List Act}
    (unretried : ∀ at_, .rearm at_ ∉ script) (near : pace.within soon = true) :
    (script.foldl (Pace.after true) pace).within soon = true := by
  induction script generalizing pace with
  | nil => exact near
  | cons act rest ih =>
      refine ih (fun at_ member => unretried at_ (List.mem_cons_of_mem act member)) ?_
      cases act with
      | rearm at_ => exact absurd List.mem_cons_self (unretried at_)
      | setAlarm at_ => rfl
      | deleteAlarm => rfl
      | _ => exact near

-- A timer that keeps up with the row is within the interval whenever ensureAlarm trusts the row.
theorem Paced.prompt {now : Nat} {ctx : ContextId} {state : State} {pace : Pace}
    (paced : Paced state pace) (registered : state.live = some ctx)
    (awake : state.alarming ≠ some ctx)
    (near : pace.within (now + housekeepingIntervalMs) = true) : prompt now ctx state = true := by
  have timed := (paced ctx registered).resolve_left awake
  simp only [Relay.prompt, registered, decide_true, Bool.true_and, Bool.or_eq_true]
  cases pace with
  | kept =>
      cases row : state.alarmRow with
      | none => exact .inl rfl
      | some at_ =>
          simp only [row, reduceCtorEq, false_or, Option.mem_some_iff, forall_eq'] at timed
          obtain ⟨armed, timer, early⟩ := timed
          rw [timer]
          simp only [decide_eq_true_eq]
          omega
  | retry at_ =>
      obtain ⟨armed, timer, early⟩ := timed
      have near : at_ ≤ now + housekeepingIntervalMs := by simpa [Pace.within] using near
      rw [timer]
      exact .inr (by simpa using early.trans near)
  | lost => cases near

theorem steady_prompt {lead : List Event} {event : Event} (steady : SteadyStep env lead event) :
    PromptStep env (run env lead) event := by
  intro met happens before rest split
  have turns := turn_turns happens
  obtain ⟨registered, awake, near⟩ := steady met happens ⟨before, rest, split⟩
  have calls : .getAlarm ∈ met.acts := by
    rw [split]
    exact List.mem_append_right _ (List.mem_append_left _ List.mem_cons_self)
  obtain ⟨other, old⟩ := turns.calling calls
  have start := turns.paced_start (paced_run env lead)
  simp only [Pace.starting, old, other, Bool.false_and, Bool.false_eq_true, if_false] at start
  have here := paced_replay met.ctx start before
  simp only [registered, decide_true] at here
  refine here.prompt (by rw [replay_live]; exact registered) (by rw [replay_alarming]; exact awake)
    (Pace.within_fold (fun at_ member => turns.unretried other at_ ?_) near)
  rw [split]
  exact List.mem_append_left _ member

theorem steady_steps (events : List Event) (calls : CallsSteady env events) :
    ∀ met ∈ steps env events, PromptStep env met.1 met.2 := by
  intro met member
  obtain ⟨lead, rest, whole, same⟩ := Machine.steps_mem (step env) initial events met member
  have steady := calls lead.length (by simp [whole]) met.2 (by simp [whole])
  rw [whole, List.take_left] at steady
  rw [same]
  exact steady_prompt steady

theorem watched_run (events : List Event)
    (admissible : ∀ met ∈ steps env events, PromptStep env met.1 met.2 ∧
      strands Row.ephemeral env met = false) : Watched (run env events) := by
  refine (Machine.run_invariant (step env)
    (fun state => Wired env state ∧ Entering state ∧ Watched state)
    (fun state event => PromptStep env state event ∧
      strands Row.ephemeral env (state, event) = false)
    (fun state event inv fits => ⟨wired_step inv.1, entering_step inv.1 inv.2.1,
      watched_step inv.1 inv.2.1 inv.2.2 fits.1 fits.2⟩) initial ?_ events admissible).2.2
  have alone : ∀ ws, ¬ initial.routable ws := by simp [State.routable, initial]
  exact ⟨Wired.initial env, fun ws routed => absurd routed (alone ws),
    fun key recorded => absurd recorded not_recorded_empty, fun ws routed => absurd routed (alone ws)⟩

/-- In a run that calls ensureAlarm only while the timer keeps up with the alarm row, every call
leaves the registered context with a timer within the interval; and when no storage call cuts off
the call after a stored record, alarm() will visit every ephemeral record and every socket that
waits for its admission. -/
theorem ensureAlarm_wakes (env : Env) (events : List Event) (calls : CallsSteady env events) :
    WakesWithin env events ∧
      ((∀ met ∈ steps env events, strands Row.ephemeral env met = false) →
        Watched (run env events)) := by
  have prompt := steady_steps events calls
  constructor
  · rintro now ctx state ⟨met, member, turned, happens, rfl, rfl, before, rest, split, rfl⟩
    rw [ensureAlarm_arms]
    exact prompt met member turned happens before rest split
  · intro unstranded
    exact watched_run events fun met member => ⟨prompt met member, unstranded met member⟩

/-- A socket that is slow to say hello is visited once, and another one connects. -/
def slowSocket : List Event :=
  [.get 1, .connect 1 0, .resume 1 1 [] none, .fire 15001 0 none, .connect 20000 1,
    .resume 20000 2 [] none]

theorem slow_socket_watched :
    WakesWithin (sampleEnv false) slowSocket ∧ Watched (run (sampleEnv false) slowSocket) :=
  have wakes := ensureAlarm_wakes (sampleEnv false) slowSocket (by decide +kernel)
  ⟨wakes.1, wakes.2 (by decide +kernel)⟩

/-- A mac parks and stays, its housekeeping alarm fires and lapses, and a phone connects. -/
def lapsedPark : List Event :=
  .get 1 :: joins 1 0 1 macHello openProof [1] ++ [.fire 15001 0 none, .connect 20000 1]

/-- The turn makes its only call of ensureAlarm last, and leaves the room without a timer. -/
def starves (now : Nat) (met : Turn) : Bool :=
  let before := met.acts.dropLast
  decide (met.acts = before ++ (ensureAlarm now (replay met.ctx met.start before) ++ [])) &&
    !prompt now met.ctx (replay met.ctx met.start before)

-- The stored time of the lapsed alarm keeps ensureAlarm from setting another.
theorem lapsed_alarm_starves :
    ¬ WakesWithin (sampleEnv false) (lapsedPark ++ [.resume 20000 4 [] none]) := by
  intro wakes
  have late : ((turn (sampleEnv false) (run (sampleEnv false) lapsedPark)
      (.resume 20000 4 [] none)).any (starves 20000)) = true := by
    decide +kernel
  obtain ⟨met, happens, starved⟩ := (Option.any_eq_true _ _).mp late
  simp only [starves, Bool.and_eq_true, decide_eq_true_eq, Bool.not_eq_true'] at starved
  have arms := wakes 20000 met.ctx (replay met.ctx met.start met.acts.dropLast)
    ⟨(run (sampleEnv false) lapsedPark, .resume 20000 4 [] none), by simp [Machine.steps_append],
      met, happens, rfl, rfl, _, [], starved.1, rfl⟩
  rw [ensureAlarm_arms, starved.2] at arms
  exact Bool.noConfusion arms

end Run

end Relay

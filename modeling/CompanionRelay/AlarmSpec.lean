import CompanionRelay.ProofFlood
import CompanionRelay.Reclaim
import CompanionRelay.RefusedJoin
import CompanionRelay.Sources
import CompanionRelay.Splice

/-!
What one alarm() does to any room, and what follows for a room in use: a join of an established
room and a registration renew its lease, and no alarm reaps it while the lease lasts.
-/

namespace Relay

section Statement
variable (env : Env) (now : Nat) (ctx : ContextId) (state : State)

def Act.wakes : Act → Option Nat
  | .setAlarm at_ => some at_
  | _ => none

def Row.expiresAt : Row → Option Nat
  | .ticket _ rec => some rec.expiresAt
  | .regToken _ rec => some rec.expiresAt
  | .challenge _ expiresAt => some expiresAt
  | _ => none

/-- The turn of alarm() in which no storage call fails. -/
def soundAlarm : Turn := alarmTurn env now ctx state (preAuth ctx state) none

def reaped : Prop := .deleteAll ∈ (soundAlarm env now ctx state).acts

/-- An un-admitted socket or an ephemeral record is left. -/
def remains (waits : SocketId → Prop) : Prop :=
  (∃ ws ∈ state.sockets ctx, waits ws ∧ ws ∉ closes (soundAlarm env now ctx state).acts) ∨
    ∃ key, (soundAlarm env now ctx state).result.store.recorded key

/-- What alarm() does, by what it takes for an un-admitted socket, for one that is connected
for too long, and for a stored verifier. -/
structure OneAlarm (waits overdue : SocketId → Prop) (registered : Prop) : Prop where
  reaps_ : reaped env now ctx state ↔
    registered ∧ now ≥ lastActivity now state + establishedIdleTtlMs env
  wipes : reaped env now ctx state →
    (soundAlarm env now ctx state).result.store = {} ∧
      (soundAlarm env now ctx state).result.alarmRow = none ∧
      ∀ ws ∈ state.sockets ctx, ws ∈ closes (soundAlarm env now ctx state).acts
  spares : ¬ reaped env now ctx state → ∀ ws role, state.admission ws = some (.admitted role) →
    ws ∉ closes (soundAlarm env now ctx state).acts
  closes_ : ¬ reaped env now ctx state → ∀ ws,
    ws ∈ closes (soundAlarm env now ctx state).acts ↔
      ws ∈ state.sockets ctx ∧ waits ws ∧ overdue ws
  prunes : ¬ reaped env now ctx state → ∀ row : Row, (∀ time, row ≠ .lastActivity time) →
    ((soundAlarm env now ctx state).result.store.stores row ↔
      state.store.stores row ∧ ∀ expiresAt ∈ row.expiresAt, ¬ expiresAt < now)
  stamps : ¬ reaped env now ctx state →
    (registered → (soundAlarm env now ctx state).result.store.lastActivity =
      some (lastActivity now state)) ∧
    (¬ registered → (soundAlarm env now ctx state).result.store.lastActivity =
      state.store.lastActivity)
  wakes : ¬ reaped env now ctx state → ∃ next : Option Nat,
    (soundAlarm env now ctx state).acts.filterMap Act.wakes = next.toList ∧
      (next = none ↔ ¬ remains env now ctx state waits ∧ ¬ registered) ∧
      ∀ at_ ∈ next, now < at_ ∧
        (remains env now ctx state waits → at_ ≤ now + housekeepingIntervalMs) ∧
        (registered → at_ ≤ lastActivity now state + establishedIdleTtlMs env)

/-- The socket is not admitted, and has an attachment. -/
def State.pends (ws : SocketId) : Prop :=
  state.admission ws ≠ none ∧ ∀ role, state.admission ws ≠ some (.admitted role)

/-- Connected for too long, for all that the attachment tells: a connect time of 0 is none. -/
def overdue (ws : SocketId) : Prop :=
  connectedAt state ws ≠ 0 ∧ now - connectedAt state ws > preauthDeadlineMs

/-- An alarm as the code has it. -/
def AlarmDoes : Prop :=
  OneAlarm env now ctx state state.pends (overdue now state) (established state = true)

/-- An alarm that takes every socket and every verifier into account. -/
def AlarmDoesForAll : Prop :=
  OneAlarm env now ctx state (fun ws => ∀ role, state.admission ws ≠ some (.admitted role))
    (fun ws => now - connectedAt state ws > preauthDeadlineMs) (state.store.verifier ≠ none)

/-- A join of an established room or a registration that is answered with success. -/
def succeeds (met : State × Event) : Bool :=
  (acts env met.1 met.2).any fun
    | .send _ (.ok _) => established met.1
    | .reply _ .register 200 .ok => true
    | _ => false

/-- Every alarm that finds a verifier comes within the TTL after a success. -/
def KeptAlive (events : List Event) : Prop :=
  ∀ index < (steps env events).length, ∀ met ∈ (steps env events)[index]?,
    met.2.isAlarm = true → established met.1 = true →
    ∃ earlier ∈ (steps env events).take index, succeeds env earlier = true ∧
      met.2.now < earlier.2.now + establishedIdleTtlMs env

instance (events : List Event) : Decidable (KeptAlive env events) :=
  inferInstanceAs (Decidable (∀ index < (steps env events).length,
    ∀ met ∈ (steps env events)[index]?, met.2.isAlarm = true → established met.1 = true →
      ∃ earlier ∈ (steps env events).take index, succeeds env earlier = true ∧
        met.2.now < earlier.2.now + establishedIdleTtlMs env))

/-- No alarm of the run reaps the room. -/
def Unreaped (events : List Event) : Prop :=
  ∀ met ∈ steps env events, met.2.isAlarm = true → .deleteAll ∉ acts env met.1 met.2

end Statement

section Script
variable (env : Env) (now : Nat) (ctx : ContextId) (state : State)

theorem sound_acts :
    (soundAlarm env now ctx state).acts = alarm env now ctx state (preAuth ctx state) := by
  have calm : .throw ∉ alarm env now ctx state (preAuth ctx state) :=
    (alarm_within ..).lacks (by simp)
  have finished : threw none (alarm env now ctx state (preAuth ctx state)) = false := by
    rw [← Bool.not_eq_true, threw, Script.threw_unfaulted]
    rintro ⟨act, member, throws⟩
    cases act <;> simp [Act.isThrow] at throws
    exact calm member
  exact Turn.acts_whole finished

theorem reaps_iff : reaps env now state = true ↔
    established state = true ∧ now ≥ lastActivity now state + establishedIdleTtlMs env := by
  unfold reaps idleDeadline
  cases established state with
  | true => simp
  | false => simp

theorem reaped_iff : reaped env now ctx state ↔ reaps env now state = true := by
  have front : .deleteAll ∉ alarmFront now state (preAuth ctx state) :=
    (alarmFront_within ..).lacks (by simp)
  rw [reaped, sound_acts]
  rcases alarm_cases env now ctx state (preAuth ctx state) with
    ⟨reaps_, whole⟩ | ⟨spares, next, _, whole⟩ | ⟨spares, _, whole⟩
  · rw [whole, reaps_]
    simp [teardownRoom]
  · rw [whole, spares]
    simp [front]
  · rw [whole, spares]
    simp [front]

theorem spared_script (spared : ¬ reaped env now ctx state) :
    (soundAlarm env now ctx state).acts =
      alarmFront now state (preAuth ctx state) ++
        ((nextAlarm env now state (preAuth ctx state)).map Act.setAlarm).toList := by
  rw [reaped_iff] at spared
  rw [sound_acts]
  rcases alarm_cases env now ctx state (preAuth ctx state) with
    ⟨reaps_, _⟩ | ⟨_, next, same, whole⟩ | ⟨_, same, whole⟩
  · exact absurd reaps_ spared
  · rw [whole, same]
    rfl
  · rw [whole, same]
    simp

theorem closes_alarmFront (seen : List SocketId) :
    closes (alarmFront now state seen) = seen.filter (timedOut now state) := by
  have pruning : closes (pruneExpired now state) = [] := (pruneExpired_within ..).closes_nil (by simp)
  have stamping : closes (.get :: if established state then
      .get :: if state.store.lastActivity = none then [.put (.lastActivity now)] else []
      else []) = [] := by
    split
    · split <;> rfl
    · rfl
  rw [alarmFront, closes_append, closes_append, sweepPreAuth, closes_map, pruning, stamping]
  simp

theorem closes_spared (spared : ¬ reaped env now ctx state) (ws : SocketId) :
    ws ∈ closes (soundAlarm env now ctx state).acts ↔
      ws ∈ state.sockets ctx ∧ state.pends ws ∧ overdue now state ws := by
  have setting :
      closes ((nextAlarm env now state (preAuth ctx state)).map Act.setAlarm).toList = [] := by
    cases nextAlarm env now state (preAuth ctx state) <;> rfl
  rw [spared_script env now ctx state spared, closes_append, setting, List.append_nil,
    closes_alarmFront, List.mem_filter, mem_preAuth, and_assoc]
  simp [State.pends, overdue, timedOut, and_assoc]

end Script

section Records
variable {now : Nat} {store : Store} {script : List Act}

def Row.key : Row → Option Key
  | .ticket name _ => some (.ticket name)
  | .regToken name _ => some (.regToken name)
  | .challenge name _ => some (.challenge name)
  | _ => none

/-- The acts of a sweep: they delete records one by one, and put the last activity at most. -/
def Act.sweeps : Act → Bool
  | .put (.lastActivity _) => true
  | .put _ | .deleteAll => false
  | _ => true

theorem lookup_erase_iff {Rec : Type} {table : Table Rec} {key gone : String} {rec : Rec} :
    (table.erase gone).lookup key = some rec ↔ table.lookup key = some rec ∧ gone ≠ key := by
  by_cases same : key = gone
  · subst same
    simp
  · simp [AList.lookup_erase_ne same, Ne.symm same]

theorem stores_swept {act : Act} {row : Row} (sweeps : act.sweeps = true)
    (lasting : ∀ time, row ≠ .lastActivity time) :
    (store.after act).stores row ↔ store.stores row ∧ ∀ key ∈ row.key, act ≠ .delete key := by
  cases act with
  | put written =>
      cases written with
      | lastActivity time =>
          cases row <;> first | exact absurd rfl (lasting _) | simp [Store.after, Store.put, Store.stores]
      | _ => simp [Act.sweeps] at sweeps
  | delete gone =>
      cases gone <;> cases row <;>
        simp [Store.after, Store.delete, Store.stores, Row.key, lookup_erase_iff]
  | deleteAll => simp [Act.sweeps] at sweeps
  | _ => simp [Store.after]

theorem stores_sweep (sweeps : ∀ act ∈ script, act.sweeps = true) {row : Row}
    (lasting : ∀ time, row ≠ .lastActivity time) :
    (script.foldl Store.after store).stores row ↔
      store.stores row ∧ ∀ key ∈ row.key, .delete key ∉ script := by
  induction script generalizing store with
  | nil => simp
  | cons act rest ih =>
      rw [List.forall_mem_cons] at sweeps
      rw [List.foldl_cons, ih sweeps.2, stores_swept sweeps.1 lasting, and_assoc]
      refine and_congr_right fun _ => ?_
      constructor
      · rintro ⟨here, later⟩ key same
        simp [Ne.symm (here key same), later key same]
      · intro absent
        refine ⟨fun key same => ?_, fun key same => ?_⟩
        · rintro rfl
          exact absent key same (by simp)
        · exact fun member => absent key same (List.mem_cons_of_mem act member)

theorem mem_expired {Rec : Type} (now : Nat) (expiresAt : Rec → Nat) {table : Table Rec}
    {key : String} {rec : Rec} (stored : table.lookup key = some rec) :
    key ∈ expired now expiresAt table ↔ expiresAt rec < now := by
  unfold expired
  constructor
  · intro member
    obtain ⟨⟨_, other⟩, inside, rfl⟩ := List.mem_map.mp member
    obtain ⟨there, late⟩ := List.mem_filter.mp inside
    have same := AList.mem_lookup_iff.mpr there
    rw [Option.mem_def, stored] at same
    obtain rfl := Option.some.inj same
    simpa using late
  · intro late
    refine List.mem_map.mpr ⟨⟨key, rec⟩, List.mem_filter.mpr ⟨?_, by simpa using late⟩, rfl⟩
    exact AList.mem_lookup_iff.mp stored

end Records

section Script
variable (env : Env) (now : Nat) (ctx : ContextId) (state : State)

-- A sweep deletes a stored record just where it has expired.
theorem pruned_iff {row : Row} (stored : state.store.stores row) :
    (∀ key ∈ row.key, .delete key ∉ alarmFront now state (preAuth ctx state)) ↔
      ∀ expiresAt ∈ row.expiresAt, ¬ expiresAt < now := by
  have closing : ∀ key, .delete key ∉ sweepPreAuth now state (preAuth ctx state) := by
    simp [sweepPreAuth]
  have front : ∀ key, .delete key ∈ alarmFront now state (preAuth ctx state) ↔
      .delete key ∈ pruneExpired now state := by
    intro key
    simp only [alarmFront, List.mem_append, closing, false_or, List.mem_cons, reduceCtorEq]
    refine or_iff_left ?_
    split
    · split <;> simp
    · simp
  cases row with
  | ticket ticket rec =>
      have late := mem_expired now (fun rec : TicketRec => rec.expiresAt) stored
      have deleted : .delete (.ticket ticket) ∈ pruneExpired now state ↔
          ticket ∈ expired now (·.expiresAt) state.store.tickets := by
        simp [pruneExpired]
      simp only [Row.key, Row.expiresAt, Option.mem_some_iff, forall_eq', front, deleted, late]
  | regToken token rec =>
      have late := mem_expired now (fun rec : RegTokenRec => rec.expiresAt) stored
      have deleted : .delete (.regToken token) ∈ pruneExpired now state ↔
          token ∈ expired now (·.expiresAt) state.store.regTokens := by
        simp [pruneExpired]
      simp only [Row.key, Row.expiresAt, Option.mem_some_iff, forall_eq', front, deleted, late]
  | challenge challenge expiresAt =>
      have late := mem_expired now id stored
      have deleted : .delete (.challenge challenge) ∈ pruneExpired now state ↔
          challenge ∈ expired now id state.store.challenges := by
        simp [pruneExpired]
      simp only [Row.key, Row.expiresAt, Option.mem_some_iff, forall_eq', front, deleted, late, id]
  | _ => simp [Row.key, Row.expiresAt]

theorem alarmFront_sweeps : ∀ act ∈ alarmFront now state (preAuth ctx state), act.sweeps = true := by
  have fits := alarmFront_within now state (preAuth ctx state)
  intro act member
  have verb := fits.each act member
  cases act with
  | put row => cases row <;> first | rfl | simp at verb
  | deleteAll => simp at verb
  | _ => rfl

theorem sound_store : (soundAlarm env now ctx state).result.store =
    (soundAlarm env now ctx state).acts.foldl Store.after state.store := by
  have replayed := Script.replay_part (perform ctx) State.store Store.after (perform_store ctx)
    (soundAlarm env now ctx state).acts state
  exact (maybe_evict_store ctx _).trans replayed

theorem stamp_fold (store : Store) {script : List Act}
    (unstamped : ∀ time, .put (.lastActivity time) ∉ script) (unwiped : .deleteAll ∉ script) :
    (script.foldl Store.after store).lastActivity = store.lastActivity := by
  induction script generalizing store with
  | nil => rfl
  | cons act rest ih =>
      rw [List.foldl_cons, ih _ (fun time member => unstamped time (List.mem_cons_of_mem act member))
        (fun member => unwiped (List.mem_cons_of_mem act member))]
      cases act with
      | put row =>
          cases row with
          | lastActivity time => exact absurd (by simp) (unstamped time)
          | _ => rfl
      | delete key => cases key <;> rfl
      | deleteAll => exact absurd (by simp) unwiped
      | _ => rfl

theorem spared_activity (spared : ¬ reaped env now ctx state) :
    (soundAlarm env now ctx state).result.store.lastActivity =
      if established state then some (lastActivity now state) else state.store.lastActivity := by
  have setting : Within [.setAlarm]
      ((nextAlarm env now state (preAuth ctx state)).map Act.setAlarm).toList := by
    cases nextAlarm env now state (preAuth ctx state) <;> simp
  have sweeping : Within [.close, .read, .deleteTicket, .deleteRegToken, .deleteChallenge]
      (sweepPreAuth now state (preAuth ctx state) ++ pruneExpired now state) :=
    Within.append_iff.mpr ⟨Within.map_of (by simp), (pruneExpired_within ..).mono (by simp)⟩
  rw [sound_store, spared_script env now ctx state spared, alarmFront, List.foldl_append,
    List.foldl_append, stamp_fold _ (fun _ => setting.lacks (by simp)) (setting.lacks (by simp))]
  have kept : ((sweepPreAuth now state (preAuth ctx state) ++
      pruneExpired now state).foldl Store.after state.store).lastActivity = state.store.lastActivity :=
    stamp_fold _ (fun _ => sweeping.lacks (by simp)) (sweeping.lacks (by simp))
  cases established state with
  | false => simpa [Store.after] using kept
  | true =>
      cases last : state.store.lastActivity with
      | none => simp [Store.after, Store.put, lastActivity, last]
      | some time => simpa [Store.after, lastActivity, last] using kept

theorem reaped_wipes (reaps_ : reaped env now ctx state) :
    (soundAlarm env now ctx state).result.store = {} ∧
      (soundAlarm env now ctx state).result.alarmRow = none ∧
      ∀ ws ∈ state.sockets ctx, ws ∈ closes (soundAlarm env now ctx state).acts := by
  rw [reaped_iff] at reaps_
  have whole : (soundAlarm env now ctx state).acts = alarmFront now state (preAuth ctx state) ++
      teardownRoom ctx (replay ctx state (alarmFront now state (preAuth ctx state))) "room expired" := by
    rw [sound_acts]
    rcases alarm_cases env now ctx state (preAuth ctx state) with
      ⟨_, whole⟩ | ⟨spared, _⟩ | ⟨spared, _⟩
    · exact whole
    · simp [reaps_] at spared
    · simp [reaps_] at spared
  have row : (soundAlarm env now ctx state).result.alarmRow =
      (soundAlarm env now ctx state).acts.foldl rowAfter state.alarmRow := by
    have replayed := Script.replay_part (perform ctx) State.alarmRow rowAfter (perform_alarm_row ctx)
      (soundAlarm env now ctx state).acts state
    exact (maybe_evict_alarm_row ctx _).trans replayed
  refine ⟨?_, ?_, ?_⟩
  · rw [sound_store, whole, teardownRoom]
    simp [Store.after]
  · rw [row, whole, teardownRoom]
    simp [rowAfter]
  · intro ws there
    rw [whole, closes_append, List.mem_append]
    by_cases early : ws ∈ closes (alarmFront now state (preAuth ctx state))
    · exact .inl early
    · right
      have unaccepted : ∀ other, .accept other ∉ alarmFront now state (preAuth ctx state) :=
        fun other => (alarmFront_within ..).lacks (by simp)
      have left : ws ∈ (replay ctx state (alarmFront now state (preAuth ctx state))).sockets ctx :=
        (mem_replay_sockets ctx state _ unaccepted ctx ws).mpr
          ⟨there, fun both => early both.2⟩
      rw [teardownRoom, closes_append]
      exact List.mem_append_left _ (mem_closeAll.mpr left)

theorem spared_stores (spared : ¬ reaped env now ctx state) {row : Row}
    (lasting : ∀ time, row ≠ .lastActivity time) :
    (soundAlarm env now ctx state).result.store.stores row ↔
      state.store.stores row ∧ ∀ expiresAt ∈ row.expiresAt, ¬ expiresAt < now := by
  have sweeps : ∀ act ∈ (soundAlarm env now ctx state).acts, act.sweeps = true := by
    rw [spared_script env now ctx state spared, List.forall_mem_append]
    refine ⟨alarmFront_sweeps now ctx state, ?_⟩
    cases nextAlarm env now state (preAuth ctx state) <;> simp [Act.sweeps]
  rw [sound_store, stores_sweep sweeps lasting]
  refine and_congr_right fun stored => ?_
  rw [← pruned_iff now ctx state stored, spared_script env now ctx state spared]
  cases nextAlarm env now state (preAuth ctx state) <;> simp

theorem liveCount_pos {Rec : Type} (expiresAt : Rec → Nat) (table : Table Rec) :
    0 < liveCount now expiresAt table ↔
      ∃ key rec, table.lookup key = some rec ∧ ¬ expiresAt rec < now := by
  rw [liveCount, List.length_pos_iff_exists_mem]
  constructor
  · rintro ⟨⟨key, rec⟩, member⟩
    obtain ⟨there, live⟩ := List.mem_filter.mp member
    exact ⟨key, rec, AList.mem_lookup_iff.mpr there, by simpa using live⟩
  · rintro ⟨key, rec, stored, live⟩
    exact ⟨⟨key, rec⟩, List.mem_filter.mpr ⟨AList.mem_lookup_iff.mp stored, by simpa using live⟩⟩

theorem recorded_row {store : Store} {key : Key} : store.recorded key ↔
    ∃ row, Row.key row = some key ∧ (∀ time, row ≠ .lastActivity time) ∧ store.stores row := by
  cases key with
  | ticket name =>
      rw [Store.recorded, ← AList.lookup_isSome, Option.isSome_iff_exists]
      constructor
      · rintro ⟨rec, stored⟩
        exact ⟨.ticket name rec, rfl, by simp, stored⟩
      · rintro ⟨row, same, _, stored⟩
        cases row <;> simp [Row.key] at same
        subst same
        exact ⟨_, stored⟩
  | regToken name =>
      rw [Store.recorded, ← AList.lookup_isSome, Option.isSome_iff_exists]
      constructor
      · rintro ⟨rec, stored⟩
        exact ⟨.regToken name rec, rfl, by simp, stored⟩
      · rintro ⟨row, same, _, stored⟩
        cases row <;> simp [Row.key] at same
        subst same
        exact ⟨_, stored⟩
  | challenge name =>
      rw [Store.recorded, ← AList.lookup_isSome, Option.isSome_iff_exists]
      constructor
      · rintro ⟨rec, stored⟩
        exact ⟨.challenge name rec, rfl, by simp, stored⟩
      · rintro ⟨row, same, _, stored⟩
        cases row <;> simp [Row.key] at same
        subst same
        exact ⟨_, stored⟩

theorem records_left (spared : ¬ reaped env now ctx state) :
    (∃ key, (soundAlarm env now ctx state).result.store.recorded key) ↔
      0 < remainingEphemeral now state := by
  have counted : 0 < remainingEphemeral now state ↔
      0 < liveCount now (·.expiresAt) state.store.tickets ∨
        0 < liveCount now (·.expiresAt) state.store.regTokens ∨
        0 < liveCount now id state.store.challenges := by
    unfold remainingEphemeral
    omega
  rw [counted, liveCount_pos, liveCount_pos, liveCount_pos]
  constructor
  · rintro ⟨key, recorded⟩
    obtain ⟨row, same, lasting, stored⟩ := recorded_row.mp recorded
    obtain ⟨before, live⟩ := (spared_stores env now ctx state spared lasting).mp stored
    cases row with
    | ticket name rec => exact .inl ⟨name, rec, before, live _ rfl⟩
    | regToken name rec => exact .inr (.inl ⟨name, rec, before, live _ rfl⟩)
    | challenge name expiresAt => exact .inr (.inr ⟨name, expiresAt, before, live _ rfl⟩)
    | _ => simp [Row.key] at same
  · have left : ∀ row key, Row.key row = some key → (∀ time, row ≠ .lastActivity time) →
        state.store.stores row → (∀ expiresAt ∈ row.expiresAt, ¬ expiresAt < now) →
        ∃ key, (soundAlarm env now ctx state).result.store.recorded key :=
      fun row key same lasting before live => ⟨key, recorded_row.mpr ⟨row, same, lasting,
        (spared_stores env now ctx state spared lasting).mpr ⟨before, live⟩⟩⟩
    rintro (⟨name, rec, stored, live⟩ | ⟨name, rec, stored, live⟩ | ⟨name, expiresAt, stored, live⟩)
    · exact left (.ticket name rec) _ rfl (by simp) stored (by simpa [Row.expiresAt] using live)
    · exact left (.regToken name rec) _ rfl (by simp) stored (by simpa [Row.expiresAt] using live)
    · exact left (.challenge name expiresAt) _ rfl (by simp) stored
        (by simpa [Row.expiresAt] using live)

theorem sockets_left (spared : ¬ reaped env now ctx state) :
    (∃ ws ∈ state.sockets ctx, state.pends ws ∧ ws ∉ closes (soundAlarm env now ctx state).acts) ↔
      0 < pendingPreAuth now state (preAuth ctx state) := by
  rw [pendingPreAuth, List.length_pos_iff_exists_mem]
  refine exists_congr fun ws => ?_
  rw [List.mem_filter, mem_preAuth, closes_spared env now ctx state spared]
  simp only [State.pends, overdue, timedOut, Bool.not_eq_true', Bool.and_eq_false_iff,
    decide_eq_false_iff_not]
  tauto

theorem remains_iff (spared : ¬ reaped env now ctx state) :
    remains env now ctx state state.pends ↔
      0 < pendingPreAuth now state (preAuth ctx state) ∨ 0 < remainingEphemeral now state := by
  rw [remains, sockets_left env now ctx state spared, records_left env now ctx state spared]

theorem nextAlarm_idle {seen : List SocketId} {next : Nat}
    (registered : established state = true) (found : nextAlarm env now state seen = some next) :
    next ≤ lastActivity now state + establishedIdleTtlMs env := by
  unfold nextAlarm idleDeadline at found
  by_cases work : 0 < pendingPreAuth now state seen ∨ 0 < remainingEphemeral now state
  · simp only [work, registered, if_true, Option.some.injEq] at found
    omega
  · simp only [work, registered, if_false, if_true, Option.some.injEq] at found
    omega

theorem nextAlarm_bounds (spared : ¬ reaped env now ctx state) :
    (nextAlarm env now state (preAuth ctx state) = none ↔
      ¬ remains env now ctx state state.pends ∧ ¬ established state = true) ∧
    ∀ at_ ∈ nextAlarm env now state (preAuth ctx state), now < at_ ∧
      (remains env now ctx state state.pends → at_ ≤ now + housekeepingIntervalMs) ∧
      (established state = true → at_ ≤ lastActivity now state + establishedIdleTtlMs env) := by
  have interval : 0 < housekeepingIntervalMs := by decide
  rw [remains_iff env now ctx state spared]
  rw [reaped_iff, reaps_iff] at spared
  unfold nextAlarm idleDeadline
  by_cases work : 0 < pendingPreAuth now state (preAuth ctx state) ∨ 0 < remainingEphemeral now state
  · cases registered : established state with
    | true =>
        have early : ¬ now ≥ lastActivity now state + establishedIdleTtlMs env :=
          fun late => spared ⟨registered, late⟩
        simp [work]
        omega
    | false => simp [work, interval]
  · cases registered : established state with
    | true =>
        have early : ¬ now ≥ lastActivity now state + establishedIdleTtlMs env :=
          fun late => spared ⟨registered, late⟩
        simp [work]
        omega
    | false => simp [work]

theorem alarm_does : AlarmDoes env now ctx state where
  reaps_ := by rw [reaped_iff, reaps_iff]
  wipes := reaped_wipes env now ctx state
  spares spared ws role admitted closed := by
    obtain ⟨_, pends, _⟩ := (closes_spared env now ctx state spared ws).mp closed
    exact pends.2 role admitted
  closes_ := closes_spared env now ctx state
  prunes spared _ lasting := spared_stores env now ctx state spared lasting
  stamps spared := by
    rw [spared_activity env now ctx state spared]
    exact ⟨fun registered => if_pos registered, fun unregistered => if_neg unregistered⟩
  wakes spared := by
    refine ⟨nextAlarm env now state (preAuth ctx state), ?_,
      nextAlarm_bounds env now ctx state spared⟩
    have front : (alarmFront now state (preAuth ctx state)).filterMap Act.wakes = [] := by
      rw [List.filterMap_eq_nil_iff]
      intro act member
      have verb := (alarmFront_within now state (preAuth ctx state)).each act member
      cases act <;> first | rfl | simp at verb
    rw [spared_script env now ctx state spared, List.filterMap_append, front]
    cases nextAlarm env now state (preAuth ctx state) <;> rfl

end Script

section Renewal
variable {env : Env} {now : Nat} {ctx : ContextId} {state : State} {event : Event} {met : Turn}
variable {events : List Event}

theorem Housekept.activity {script : List Act} (kept : Housekept now ctx state script) {time : Nat}
    (member : .put (.lastActivity time) ∈ script) : time = now := by
  induction kept with
  | nil state => cases member
  | plain plain _ ih =>
      rcases List.mem_cons.mp member with rfl | later
      · simp at plain
      · exact ih later
  | armed stored _ ih =>
      rcases List.mem_append.mp member with here | later
      · rcases List.mem_append.mp here with put | arming
        · cases stored with
          | nothing => cases put
          | record row ephemeral =>
              simp only [List.map_cons, List.map_nil, List.mem_singleton, Act.put.injEq] at put
              subst put
              cases ephemeral
          | activity => simpa using put
          | registration verifier => simpa using put
        · exact absurd arming ((ensureAlarm_within ..).lacks (by simp))
      · exact ih later
  | wipe empty _ ih =>
      simp only [List.mem_cons, reduceCtorEq, false_or] at member
      exact ih member

-- The last activity that is stored is the time of the event that stores it.
theorem put_activity (wired : Wired env state) {time : Nat}
    (member : .put (.lastActivity time) ∈ acts env state event) : time = event.now := by
  unfold acts at member
  cases happens : turn env state event with
  | none => simp [happens] at member
  | some met =>
      rw [happens] at member
      have turns := turn_turns happens
      have ran : .put (.lastActivity time) ∈ met.script := by
        rcases turn_act member with ran | caught
        · exact ran
        · exact absurd caught (turns.on_throw.lacks (by simp))
      rcases turns.housekept wired (turn_free happens) with
        ⟨_, kept, _⟩ | ⟨_, _, _, fits⟩ | ⟨_, ⟨seen, script⟩, _⟩
      · exact kept.activity ran
      · exact absurd member (fits.lacks (by simp))
      · have front : .put (.lastActivity time) ∈ alarmFront event.now met.start seen →
            time = event.now := by
          intro member
          simp only [alarmFront, sweepPreAuth, pruneExpired, List.mem_append, List.mem_map,
            List.mem_cons, reduceCtorEq, and_false, exists_false, false_or] at member
          split at member
          · split at member
            · simpa using member
            · simp at member
          · cases member
        rw [script] at ran
        rcases alarm_cases env event.now met.ctx met.start seen with
          ⟨_, whole⟩ | ⟨_, next, _, whole⟩ | ⟨_, _, whole⟩
        · rw [whole] at ran
          rcases List.mem_append.mp ran with early | late
          · exact front early
          · exact absurd late ((teardownRoom_within ..).lacks (by simp))
        · rw [whole] at ran
          rcases List.mem_append.mp ran with early | late
          · exact front early
          · simp at late
        · rw [whole] at ran
          exact front ran

theorem stamp_stays {script : List Act}
    (timely : ∀ time, .put (.lastActivity time) ∈ script → time = now)
    (unwiped : .deleteAll ∉ script) (store : Store) (stamped : store.lastActivity = some now) :
    (script.foldl Store.after store).lastActivity = some now := by
  induction script generalizing store with
  | nil => exact stamped
  | cons act rest ih =>
      refine ih (fun time member => timely time (List.mem_cons_of_mem act member))
        (fun member => unwiped (List.mem_cons_of_mem act member)) _ ?_
      cases act with
      | put row =>
          cases row with
          | lastActivity time =>
              rw [timely time (by simp)]
              rfl
          | _ => exact stamped
      | delete key => cases key <;> exact stamped
      | deleteAll => exact absurd (by simp) unwiped
      | _ => exact stamped

theorem stamped_fold {script : List Act} (stamps : .put (.lastActivity now) ∈ script)
    (timely : ∀ time, .put (.lastActivity time) ∈ script → time = now)
    (unwiped : .deleteAll ∉ script) (store : Store) :
    (script.foldl Store.after store).lastActivity = some now := by
  obtain ⟨lead, rest, rfl⟩ := List.append_of_mem stamps
  rw [List.foldl_append, List.foldl_cons]
  exact stamp_stays (fun time member => timely time (by simp [member]))
    (fun member => unwiped (by simp [member])) _ rfl

theorem joined_stamps (wired : Wired env state) (registered : established state = true)
    {ws : SocketId} {token : Option String} (member : .send ws (.ok token) ∈ acts env state event) :
    .put (.lastActivity event.now) ∈ acts env state event ∧ .deleteAll ∉ acts env state event := by
  obtain ⟨join, met, seated, script, _⟩ := greeted wired member rfl (by simp)
  have performed := seated.lead_performed script
  have unwiped : .deleteAll ∉ met.acts := by
    have fits : .deleteAll ∉ join.script env := by
      rcases seated.joins.script_cases with ⟨verbs, fits, unseated⟩ | ⟨front, quiet, whole⟩
      · have ran : .send ws (.ok token) ∈ join.script env := by
          rw [seated.performs] at member
          rcases turn_act member with ran | caught
          · exact script ▸ ran
          · exact absurd caught ((turn_turns seated.happens).on_throw.lacks (by simp))
        exact absurd (fits.each _ ran) (unseated _ (by simp))
      · rw [whole]
        intro wipes
        rcases List.mem_append.mp wipes with early | late
        · exact absurd early (quiet.lacks (by simp))
        · exact absurd late ((seat_within ..).lacks (by simp))
    intro wipes
    rcases turn_act wipes with ran | caught
    · exact fits (script ▸ ran)
    · exact absurd caught ((turn_turns seated.happens).on_throw.lacks (by simp))
  refine ⟨?_, by rw [seated.performs]; exact unwiped⟩
  have joins := seated.joins
  cases joins with
  | pairing now ws role nonce yields frame random fault rest window lead attest drained free next
      challenged absent presented =>
      simp [established, absent] at registered
  | signature now id random fault ctx check found verified =>
      exact performed (by simp [bumpActivity, Event.now])

theorem writeVerifier_stamps (id other : Nat) (token verifier : String) (lead : List Act)
    (silent : .reply other .register 200 .ok ∉ lead) :
    ∃ front back, lead ++ writeVerifier now state id token verifier =
        front ++ .put (.lastActivity now) :: back ∧ .reply other .register 200 .ok ∉ front := by
  refine ⟨lead ++ [.delete (.regToken token), .put (.verifier verifier)],
    ensureAlarm now state ++ answer id .register 200 .ok, ?_, ?_⟩
  · simp [writeVerifier, bumpActivity]
  · simp [silent]

theorem registered_script (turns : Turns env state event met) {id : Nat}
    (member : .reply id .register 200 .ok ∈ met.script) :
    .deleteAll ∉ met.acts ∧ ∃ front back,
      met.script = front ++ .put (.lastActivity event.now) :: back ∧
        .reply id .register 200 .ok ∉ front := by
  have fits := turns.within turns.script_within
  have verb := turns.script_within.each _ member
  cases turns with
  | task now ws task rest drained free next =>
      cases task <;> simp [footprint, drained, next] at verb
  | idle => cases member
  | resume now other random fault handler found quiet =>
      obtain ⟨number, ctx, await⟩ := handler
      obtain rfl : number = other := (mem_find found).2
      simp only [footprint, found, Option.map_some, Option.getD_some] at verb fits
      cases await with
      | registerAssertion call =>
          refine ⟨fits.lacks (by simp), ?_⟩
          simp only [continuation, finishRegister] at member ⊢
          split at member
          · simp [answer] at member
          · rename_i counter verdict
            split at member
            · rename_i fresh
              rw [if_pos fresh, ← List.cons_append]
              exact writeVerifier_stamps _ id _ _ _ (by simp)
            · simp [answer] at member
      | _ => simp at verb
  | request now request random fault ctx resident =>
      cases request with
      | register body =>
          refine ⟨fits.lacks ?_, ?_⟩
          · cases required : attestationRequired env <;> simp [footprint, required]
          · rcases handleRegister_cases env now state.enter state.nextId body with
              refused | ⟨lead, token, verifier, reads, whole⟩
            · exact absurd member (refused.lacks (by simp))
            · simp only [handleHttp, whole]
              exact writeVerifier_stamps _ id _ _ _ (reads.lacks (by simp))
      | _ => simp [footprint] at verb
  | _ => simp [footprint] at verb

theorem registered_stamps {id : Nat} (member : .reply id .register 200 .ok ∈ acts env state event) :
    .put (.lastActivity event.now) ∈ acts env state event ∧ .deleteAll ∉ acts env state event := by
  obtain ⟨met, turns, performed, ran⟩ := mem_script member (by simp)
  rw [performed] at member ⊢
  obtain ⟨unwiped, front, back, script, silent⟩ := registered_script turns ran
  refine ⟨?_, unwiped⟩
  refine Turn.done_earlier script member silent ?_
  exact turns.on_throw.lacks (by simp)

theorem succeeds_cases {met : State × Event} (success : succeeds env met = true) :
    (established met.1 = true ∧ ∃ ws token, .send ws (.ok token) ∈ acts env met.1 met.2) ∨
      ∃ id, .reply id .register 200 .ok ∈ acts env met.1 met.2 := by
  obtain ⟨act, member, answers⟩ := List.any_eq_true.mp success
  split at answers
  · exact .inl ⟨answers, _, _, member⟩
  · exact .inr ⟨_, member⟩
  · cases answers

theorem success_stamps (wired : Wired env state) (success : succeeds env (state, event) = true) :
    (step env state event).store.lastActivity = some event.now := by
  have stamps : .put (.lastActivity event.now) ∈ acts env state event ∧
      .deleteAll ∉ acts env state event := by
    rcases succeeds_cases success with ⟨registered, ws, token, answered⟩ | ⟨id, answered⟩
    · exact joined_stamps wired registered answered
    · exact registered_stamps answered
  rw [step_store]
  exact stamped_fold stamps.1 (fun _ => put_activity wired) stamps.2 _

/-- The last activity that is stored, if any, is not before a success. -/
def Leased (env : Env) (past : List (State × Event)) (state : State) : Prop :=
  ∀ met ∈ past, succeeds env met = true → ∀ time, state.store.lastActivity = some time → met.2.now ≤ time

theorem clocked {act : Act} (member : act ∈ acts env state event) (verb : act.verb ∉ catchVerbs) :
    event.clock = some event.now := by
  obtain ⟨met, turns, _, ran⟩ := mem_script member verb
  have inside := turns.script_within.each _ ran
  cases event with
  | chunk ws frames tail => simp [footprint] at inside
  | ended ws => simp [footprint] at inside
  | drain =>
      have closes_ : act.verb = .close := List.mem_singleton.mp inside
      rw [closes_] at verb
      simp at verb
  | _ => rfl

theorem success_clock {met : State × Event} (success : succeeds env met = true) :
    met.2.clock = some met.2.now := by
  rcases succeeds_cases success with ⟨_, ws, token, answered⟩ | ⟨id, answered⟩
  · exact clocked answered (by simp)
  · exact clocked answered (by simp)

theorem Leased.next {past : List (State × Event)} (wired : Wired env state)
    (leased : Leased env past state)
    (steady : ∀ met ∈ past, succeeds env met = true → ∀ time,
      .put (.lastActivity time) ∈ acts env state event → met.2.now ≤ event.now) :
    Leased env (past ++ [(state, event)]) (step env state event) := by
  intro met member success time stored
  rcases List.mem_append.mp member with early | here
  · have source : (step env state event).store.stores (.lastActivity time) := stored
    rcases step_stores source with before | put
    · exact leased met early success time before
    · rw [put_activity wired put]
      exact steady met early success time put
  · obtain rfl := List.mem_singleton.mp here
    rw [success_stamps wired success] at stored
    exact Nat.le_of_eq (Option.some.inj stored)

theorem leased_run (env : Env) (steady : Steady events) (earlier later : List Event)
    (split : events = earlier ++ later) :
    Wired env (run env earlier) ∧ Leased env (steps env earlier) (run env earlier) := by
  have invariant := Machine.history_invariant (step env)
    (fun past state => Wired env state ∧ Leased env past state)
    (fun past state event => ∀ met ∈ past, succeeds env met = true → ∀ time,
      .put (.lastActivity time) ∈ acts env state event → met.2.now ≤ event.now)
    (fun past state event holds timely => ⟨wired_step holds.1, holds.2.next holds.1 timely⟩)
    [] initial ⟨Wired.initial env, fun met member => absurd member List.not_mem_nil⟩ earlier (by
      intro before met after met_split other member success time put
      obtain ⟨lead, rest, whole, rfl, _⟩ := Machine.steps_split _ _ _ _ _ _ met_split
      rw [List.nil_append] at member
      obtain ⟨first, others, inside, _⟩ := Machine.steps_mem _ _ _ _ member
      have ordered := steady_split steady (split.trans (by rw [whole, List.append_assoc]; rfl))
      exact ordered _ (clocked put (by simp)) other.2 (by rw [inside]; simp) _
        (success_clock success))
  rwa [List.nil_append] at invariant

theorem ttl_pos (env : Env) : 0 < establishedIdleTtlMs env := by
  unfold establishedIdleTtlMs
  split
  · split
    · omega
    · decide
  · decide

theorem wiped_by_alarm (alarms : event.isAlarm = true) (wipes : .deleteAll ∈ acts env state event) :
    established state = true ∧
      event.now ≥ lastActivity event.now state + establishedIdleTtlMs env := by
  obtain ⟨met, turns, _, ran⟩ := mem_script wipes (by simp)
  have reaps_ : ∀ now ctx start seen, start.store = state.store →
      Act.deleteAll ∈ alarm env now ctx start seen → established state = true ∧
        now ≥ lastActivity now state + establishedIdleTtlMs env := by
    intro now ctx start seen same member
    have due := (reaps_iff env now start).mp (alarm_wipes now ctx start seen member)
    simpa [established, lastActivity, same] using due
  cases turns with
  | fire now ctx at_ fault armed due quiet =>
      exact reaps_ now ctx { state with timer := Function.update state.timer ctx none } _ rfl ran
  | alarm now ctx fault started => exact reaps_ now ctx { state with alarming := none } _ rfl ran
  | _ => simp [Event.isAlarm] at alarms

-- While the successes of a room are closer together than the TTL, no alarm reaps it.
theorem unreaped (steady : Steady events) (alive : KeptAlive env events) : Unreaped env events := by
  intro met member alarms wipes
  obtain ⟨before, after, split⟩ := List.append_of_mem member
  obtain ⟨earlier, later, whole, befores, here, _⟩ := Machine.steps_split _ _ _ _ _ _ split
  obtain ⟨_, leased⟩ := leased_run env steady earlier _ whole
  have reached : met.1 = run env earlier := here
  have past : before = steps env earlier := befores
  rw [← reached, ← past] at leased
  obtain ⟨registered, due⟩ := wiped_by_alarm alarms wipes
  have indexed : (steps env events)[before.length]? = some met := by simp [split]
  have early : (steps env events).take before.length = before := by simp [split]
  obtain ⟨success, inside, succeeded, recent⟩ :=
    alive before.length (by simp [split]) met indexed alarms registered
  rw [early] at inside
  have positive := ttl_pos env
  cases last : met.1.store.lastActivity with
  | none =>
      rw [lastActivity, last, Option.getD_none] at due
      omega
  | some time =>
      have renewed := leased success inside succeeded time last
      rw [lastActivity, last, Option.getD_some] at due
      omega

end Renewal

/-- What one alarm does to any room, and that none reaps a room in use. -/
theorem alarm_spec (env : Env) :
    (∀ now ctx state, AlarmDoes env now ctx state) ∧
      ∀ events, Steady events → KeptAlive env events → Unreaped env events :=
  ⟨alarm_does env, fun _ => unreaped⟩

/-- A room that is registered at 1, and its housekeeping alarm at 15001. -/
def registeredRoom : List Event :=
  pairedRoom ++ [.request 1 (registration "Ag==" "AQID" "" "") [] none, .fire 15001 0 none]

theorem registered_unreaped : Unreaped (sampleEnv false) registeredRoom :=
  (alarm_spec (sampleEnv false)).2 registeredRoom (by decide +kernel) (by decide +kernel)

/-- A room with one socket, and what is attached to it. -/
def loneSocket (attachment : Option Attachment) : State :=
  { sockets := fun ctx => if ctx = 0 then [0] else []
    attachment := fun ws => if ws = 0 then attachment else none }

/-- An empty verifier, a connect time of 0 and a socket without an attachment are passed over. -/
theorem blanks_passed_over :
    ¬ AlarmDoesForAll (sampleEnv false) defaultEstablishedIdleTtlMs 0
        { store := { verifier := some "", lastActivity := some 0 } } ∧
      ¬ AlarmDoesForAll (sampleEnv false) 15001 0
        (loneSocket (some ⟨.hello, "room", none, 0⟩)) ∧
      ¬ AlarmDoesForAll (sampleEnv false) 15001 0 (loneSocket none) := by
  refine ⟨fun all => ?_, fun all => ?_, fun all => ?_⟩
  · have due := all.reaps_.mpr ⟨by simp, by decide⟩
    rw [reaped_iff] at due
    exact absurd due (by decide)
  · have closed := (all.closes_ (by rw [reaped_iff]; decide) 0).mpr
      ⟨by decide, fun role => by cases role <;> decide, by decide⟩
    exact absurd closed (by decide)
  · have closed := (all.closes_ (by rw [reaped_iff]; decide) 0).mpr
      ⟨by decide, fun role => by cases role <;> decide, by decide⟩
    exact absurd closed (by decide)

end Relay

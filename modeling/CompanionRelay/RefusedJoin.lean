import CompanionRelay.PairingBudget

/-!
A proof that Room.admit refuses. The refusal closes its own socket and no other, but it
comes late: by then handleProof may have consumed a ticket, and admit itself may have reset
or charged the budget of the park. What is left behind is said exactly, row by row.
-/

namespace Relay

section Statement
variable (env : Env) (state : State) (event : Event) (ws : SocketId) (role : Role)

/-- The event takes a proof to Room.admit, which refuses it. -/
structure Refusal : Prop where
  joins : joining env state event = some (ws, role)
  refused : ∃ error, .send ws (.refused error) ∈ acts env state event

/-- The rows but for the stamp of the idle time, which every signed join refreshes before
it reaches Room.admit. -/
def Store.unstamped (store : Store) : Store := { store with lastActivity := none }

structure SameSocket (state after : State) (ws : SocketId) : Prop where
  attachment : after.attachment ws = state.attachment ws
  routable : after.routable ws ↔ state.routable ws
  serverClosed : after.serverClosed ws = state.serverClosed ws
  chain : after.chain ws = state.chain ws

/-- A step that changes nothing but the socket. -/
structure Unharmed : Prop where
  others : ∀ other, other ≠ ws → SameSocket state (step env state event) other
  rows : (step env state event).store.unstamped = state.store.unstamped
  kept : .deleteAll ∉ acts env state event

/-- A phone's proof in pairing mode has spent its ticket where one is asked for. -/
def spendsTicket : Event → Bool
  | .run _ => attestationRequired env && role = .phone
  | _ => false

/-- A refusal that spends no ticket, and comes before the budget or does not move it. -/
def Spares : Prop :=
  spendsTicket env role event = false ∧
    (established state = true ∨
      (role = .phone ∧ state.holders (state.home ws) ws .mac = []) ∨
      (role = .mac ∧ state.store.pairingCycles = some 0))

instance : Decidable (Spares env state event ws role) :=
  inferInstanceAs (Decidable (_ ∧ (_ ∨ _ ∨ _)))

end Statement

section Rows
variable {store : Store} {script : List Act} {verbs : List Verb}

@[simp] def stampingVerbs : List Verb :=
  [.count, .read, .send, .close, .putLastActivity, .getAlarm, .setAlarm]

theorem unstamped_kept (fits : Within stampingVerbs script) :
    (script.foldl Store.after store).unstamped = store.unstamped := by
  induction script generalizing store with
  | nil => rfl
  | cons act rest ih =>
      rw [Within.cons_iff] at fits
      rw [List.foldl_cons, ih fits.2]
      have verb := fits.1
      cases act with
      | put row => cases row <;> first | rfl | simp at verb
      | delete key => cases key <;> simp at verb
      | deleteAll => simp at verb
      | _ => rfl

theorem unstamped_put {first second : Store} (row : Row)
    (same : first.unstamped = second.unstamped) :
    (first.put row).unstamped = (second.put row).unstamped := by
  have parts := Store.mk.inj same
  cases row <;> simp [Store.put, Store.unstamped, parts]

theorem unstamped_parts {store after : Store} (same : after.unstamped = store.unstamped) :
    after.pairingCycles = store.pairingCycles ∧ after.tickets = store.tickets := by
  have parts := Store.mk.inj same
  exact ⟨parts.2.2.1, parts.2.2.2.2.2.2.1⟩

end Rows

section Script
variable {env : Env} {state : State} {event : Event} {join : Join}

theorem seat_within (env : Env) (now : Nat) (ctx : ContextId) (state : State) (random : Bytes)
    (ws : SocketId) (role : Role) (attest : Option AttestedKey) :
    Within [.close, .attach, .sendOk, .putRegToken, .getAlarm, .setAlarm]
      (seat env now ctx state random ws role attest) := by
  unfold seat displace
  rw [Within.append_iff, Within.cons_iff]
  refine ⟨Within.map_of (by simp), by simp, ?_⟩
  cases role with
  | mac => simp [greet]
  | phone =>
      simp only [greet, Within.append_iff, Within.cons_iff]
      exact ⟨⟨by simp, (ensureAlarm_within now state).mono (by simp)⟩, by simp⟩

theorem charge_within (state : State) (role : Role) :
    Within [.read, .putPairingCycles] (charge state role) := by
  unfold charge
  cases role <;> cases established state <;> simp

theorem Joins.refused (joins : Joins env state event join) {error : String}
    (member : .send join.ws (.refused error) ∈ join.script env) :
    (join.script env = (join.lead ++ [.get]) ++ reject join.ws "mac offline" ∧
      join.role = .phone ∧ state.holders join.ctx join.ws .mac = []) ∨
    (join.script env = (join.lead ++ .get :: charge join.mid join.role) ++
        reject join.ws "slot occupied" ∧
      (join.role = .phone → state.holders join.ctx join.ws .mac ≠ [])) := by
  have same := joins.same_room
  have unsent : ∀ {verbs script}, Within verbs script → Verb.send ∉ verbs →
      .send join.ws (.refused error) ∉ script := fun fits missing => fits.lacks missing
  have lead := unsent joins.lead_within (by simp)
  unfold Join.script at member ⊢
  rcases admit_cases env join.now join.ctx join.mid join.random join.ws join.role join.attest with
    ⟨whole, phone, offline⟩ | ⟨whole, _⟩ | ⟨whole, parked⟩
  · left
    rw [same.holders] at offline
    exact ⟨by rw [whole]; simp, phone, offline⟩
  · rw [whole] at member
    have torn : Within [.read, .close, .deleteAll, .deleteAlarm]
        (.get :: .get :: teardownRoom join.ctx join.mid "pairing cycle cap") :=
      Within.cons_iff.mpr ⟨by simp, Within.cons_iff.mpr ⟨by simp,
        (teardownRoom_within ..).mono (by simp)⟩⟩
    rcases List.mem_append.mp member with early | late
    · exact absurd early lead
    · exact absurd late (unsent torn (by simp))
  · rcases takeSlot_cases env join.now join.ctx join.mid join.random join.ws join.role join.attest
      with ⟨taken, _⟩ | ⟨taken, _⟩
    · right
      refine ⟨by rw [whole, taken]; simp, fun phone => ?_⟩
      rw [← same.holders]
      exact (parked phone).1
    · rw [whole, taken] at member
      simp only [List.cons_append, List.mem_append, List.mem_cons, reduceCtorEq, false_or] at member
      rcases member with early | charged | seated
      · exact absurd early lead
      · exact absurd charged (unsent (charge_within ..) (by simp))
      · exact absurd seated (unsent (seat_within ..) (by simp))

theorem reject_done {fault : Option Nat} {front : List Act} {ws : SocketId} {error other : String}
    (quiet : Verb.send ∉ verbs) (fits : Within verbs front)
    (member : .send ws (.refused error) ∈ done fault (front ++ reject ws other)) :
    done fault (front ++ reject ws other) = front ++ reject ws other := by
  have here : .send ws (.refused error) ∈ front ++ reject ws other := Script.done_subset _ _ member
  obtain rfl : error = other := by
    rcases List.mem_append.mp here with early | late
    · exact absurd early (fits.lacks quiet)
    · simpa [reject] using late
  exact Script.done_rest _ _ (by simp [Act.isStorage, Act.isThrow]) (fits.lacks quiet) member

/-- What a turn with a refused join has done, and where it has done it. -/
structure Refused (env : Env) (state : State) (event : Event) (join : Join) (met : Turn) : Prop where
  happens : turn env state event = some met
  joins : Joins env state event join
  ctx : join.ctx = met.ctx
  acts : (met.acts = (join.lead ++ [.get]) ++ reject join.ws "mac offline" ∧
      join.role = .phone ∧ state.holders join.ctx join.ws .mac = []) ∨
    (met.acts = (join.lead ++ .get :: charge join.mid join.role) ++
        reject join.ws "slot occupied" ∧
      (join.role = .phone → state.holders join.ctx join.ws .mac ≠ []))

theorem Refusal.refused_turn (wired : Wired env state) {ws : SocketId} {role : Role}
    (refusal : Refusal env state event ws role) :
    ∃ join met, Refused env state event join met ∧ join.ws = ws ∧ join.role = role := by
  obtain ⟨joined, error, member⟩ := refusal
  obtain ⟨met, happens⟩ := joining_happens joined
  have turns := turn_turns happens
  rcases turns.joining_cases wired (turn_free happens) with
    ⟨none_, _⟩ | ⟨join, joins, same, script, ctx⟩
  · rw [joined] at none_
    cases none_
  · rw [joined] at same
    obtain ⟨rfl, rfl⟩ : ws = join.ws ∧ role = join.role := by simpa using same
    rw [acts, happens] at member
    have ran : .send join.ws (.refused error) ∈ done met.fault met.script := by
      rcases List.mem_append.mp member with ran | caught
      · exact ran
      · split at caught
        · exact absurd (turns.on_throw.each _ caught) (by simp)
        · exact absurd caught List.not_mem_nil
    have whole : ∀ {verbs front error}, Verb.send ∉ verbs → Within verbs front →
        met.script = front ++ reject join.ws error → met.acts = front ++ reject join.ws error := by
      intro verbs front error quiet fits shape
      rw [shape] at ran
      have finished := reject_done quiet fits ran
      rw [← shape] at finished ⊢
      exact Turn.acts_whole (Script.not_threw_of_done _ _ finished)
    have inside : .send join.ws (.refused error) ∈ join.script env :=
      script ▸ Script.done_subset _ _ ran
    refine ⟨join, met, ⟨happens, joins, ctx, ?_⟩, rfl, rfl⟩
    have front : ∀ {script}, Within [.read, .putPairingCycles] script →
        Within [.count, .read, .deleteTicket, .putLastActivity, .getAlarm, .setAlarm,
          .putPairingCycles] (join.lead ++ script) := fun fits =>
      Within.append_iff.mpr ⟨joins.lead_within.mono (by simp), fits.mono (by simp)⟩
    rcases joins.refused inside with ⟨shape, offline⟩ | ⟨shape, occupied⟩
    · exact .inl ⟨whole (by simp) (front (by simp)) (script.trans shape), offline⟩
    · refine .inr ⟨whole (by simp) (front ?_) (script.trans shape), occupied⟩
      exact Within.cons_iff.mpr ⟨by simp, charge_within ..⟩

-- The rows after the part of handleProof before Room.admit: a ticket is gone, or only the
-- stamp of the idle time has moved.
theorem Joins.lead_rows (joins : Joins env state event join) :
    (spendsTicket env join.role event = false ∧
      (join.lead.foldl Store.after state.store).unstamped = state.store.unstamped) ∨
    (spendsTicket env join.role event = true ∧ established state = false ∧
      (join.lead.foldl Store.after state.store).tickets ≠ state.store.tickets ∧
      (join.lead.foldl Store.after state.store).pairingCycles = state.store.pairingCycles) := by
  cases joins with
  | pairing now ws role nonce yields frame random fault rest window lead attest drained free next
      admission absent presented =>
      cases presented with
      | nothing open_ =>
          left
          refine ⟨?_, rfl⟩
          rcases open_ with open_ | mac
          · simp [spendsTicket, open_]
          · simp [spendsTicket, mac]
      | ticket ticket rec required phone issued live =>
          right
          have issued : state.store.tickets.lookup ticket = some rec := issued
          refine ⟨by simp [spendsTicket, required, phone], by simp [established, absent], ?_, rfl⟩
          intro same
          have gone := AList.lookup_erase ticket state.store.tickets
          have kept : state.store.tickets.erase ticket = state.store.tickets := same
          rw [kept, issued] at gone
          cases gone
  | signature now id random fault ctx check found verified =>
      left
      exact ⟨rfl, unstamped_kept ((bumpActivity_within ..).mono (by simp))⟩

theorem charge_rows (state : State) (role : Role) (store : Store) :
    (charge state role).foldl Store.after store =
      if established state then store
      else store.put (.pairingCycles (match role with
        | .mac => 0
        | .phone => state.store.pairingCycles.getD 0 + 1)) := by
  unfold charge
  cases role <;> cases established state <;> rfl

end Script

section Turn
variable {env : Env} {state : State} {event : Event} {join : Join} {met : Turn}

theorem replay_server_closed (ctx : ContextId) (state : State) (script : List Act)
    {ws : SocketId} (open_ : ws ∉ closes script) :
    (replay ctx state script).serverClosed ws = state.serverClosed ws := by
  apply Script.replay_keeps (perform ctx) (fun state => state.serverClosed ws) script
  intro act member other
  cases act with
  | close target code reason =>
      have apart : ws ≠ target := by
        rintro rfl
        exact open_ (mem_closes.mpr ⟨code, reason, member⟩)
      simp [perform, State.closeSocket, Function.update_of_ne apart]
  | _ => rfl

theorem Joins.start (joins : Joins env state event join) (happens : turn env state event = some met) :
    met.start.sockets = state.sockets ∧ met.start.serverClosed = state.serverClosed ∧
      ∀ ws, ws ≠ join.ws → met.start.chain ws = state.chain ws := by
  have turns := turn_turns happens
  cases joins with
  | pairing now ws role nonce yields frame random fault rest window lead attest drained free next
      admission absent presented =>
      cases turns with
      | idle now other drained' stopped => exact ⟨rfl, rfl, fun _ _ => rfl⟩
      | task now other task rest' drained' free' next' =>
          rw [drained] at drained'
          cases drained'
          cases task <;> exact ⟨rfl, rfl, fun other apart => Function.update_of_ne apart _ _⟩
  | signature now id random fault ctx check found verified =>
      cases turns with
      | resume => exact ⟨rfl, rfl, fun _ _ => rfl⟩

theorem Refused.closes_one (refused : Refused env state event join met) :
    closes met.acts = [join.ws] := by
  have quiet : ∀ {script}, Within [.count, .read, .deleteTicket, .putLastActivity, .getAlarm,
      .setAlarm, .putPairingCycles] script → Relay.closes script = [] :=
    fun fits => fits.closes_nil (by simp)
  have front : ∀ {script}, Within [.read, .putPairingCycles] script →
      Relay.closes (join.lead ++ script) = [] := fun fits => quiet
    (Within.append_iff.mpr ⟨refused.joins.lead_within.mono (by simp), fits.mono (by simp)⟩)
  rcases refused.acts with ⟨whole, _⟩ | ⟨whole, _⟩
  · rw [whole, closes_append, front (by simp)]
    rfl
  · rw [whole, closes_append, front (Within.cons_iff.mpr ⟨by simp, charge_within ..⟩)]
    rfl

theorem Refused.within (refused : Refused env state event join met) :
    Within (.deleteTicket :: .putPairingCycles :: stampingVerbs) met.acts := by
  have lead := refused.joins.lead_within
  rcases refused.acts with ⟨whole, _⟩ | ⟨whole, _⟩
  · rw [whole, Within.append_iff, Within.append_iff]
    exact ⟨⟨lead.mono (by simp), by simp⟩, (reject_within ..).mono (by simp)⟩
  · rw [whole, Within.append_iff, Within.append_iff]
    exact ⟨⟨lead.mono (by simp), Within.cons_iff.mpr ⟨by simp, (charge_within ..).mono (by simp)⟩⟩,
      (reject_within ..).mono (by simp)⟩

theorem Refused.same_socket (refused : Refused env state event join met) {other : SocketId}
    (apart : other ≠ join.ws) : SameSocket state (step env state event) other := by
  have turns := turn_turns refused.happens
  have fits := refused.within
  have result : step env state event = met.result := by
    rw [step, refused.happens]
  have unaccepted : ∀ ws, Act.accept ws ∉ met.acts := fun ws => fits.lacks (by simp)
  have open_ : other ∉ closes met.acts := by
    rw [refused.closes_one]
    simpa using apart
  obtain ⟨sockets, serverClosed, chain⟩ := refused.joins.start refused.happens
  have home : met.result.home = state.home := by
    rw [turns.result_sockets.2, replay_home _ _ _ unaccepted, turns.start_home]
  constructor
  · rw [step_attachment, Relay.acts, refused.happens]
    exact attachment_kept (fun value => fits.lacks (by simp)) _
  · rw [result]
    unfold State.routable
    rw [turns.result_sockets.1, home, mem_replay_sockets _ _ _ unaccepted, sockets]
    simp [open_]
  · rw [result, Turn.result]
    rcases turns.finish_keeps (replay met.ctx met.start met.acts) with same | evicted
    · rw [same, replay_server_closed _ _ _ open_, serverClosed]
    · rw [evicted, maybe_evict_live]
      exact (replay_server_closed _ _ _ open_).trans (congrFun serverClosed other)
  · rw [result, Turn.result]
    rcases turns.finish_keeps (replay met.ctx met.start met.acts) with same | evicted
    · rw [same, replay_chain]
      exact chain other apart
    · rw [evicted, maybe_evict_live]
      exact (congrFun (replay_chain _ _ _) other).trans (chain other apart)

-- The rows after a refused join are as before exactly if it spares them.
theorem Refused.rows_iff (wired : Wired env state) (refused : Refused env state event join met) :
    (step env state event).store.unstamped = state.store.unstamped ↔
      Spares env state event join.ws join.role := by
  have joins := refused.joins
  have same := joins.same_room
  have ends : ∀ error, Within stampingVerbs (reject join.ws error) :=
    fun error => (reject_within ..).mono (by simp)
  have after : (step env state event).store.unstamped =
      ((if join.role = .phone ∧ state.holders join.ctx join.ws .mac = [] then [] else
        charge join.mid join.role).foldl Store.after
          (join.lead.foldl Store.after state.store)).unstamped := by
    rw [step_store, Relay.acts, refused.happens]
    rcases refused.acts with ⟨whole, offline⟩ | ⟨whole, occupied⟩
    · simp only [whole, List.foldl_append]
      rw [unstamped_kept (ends _), if_pos offline]
      rfl
    · simp only [whole, List.foldl_append]
      rw [unstamped_kept (ends _), if_neg fun offline => occupied offline.1 offline.2]
      rfl
  rw [after]
  unfold Spares
  rw [← joins.ctx_home wired]
  rcases joins.lead_rows with ⟨unspent, stamped⟩ | ⟨spent, _, gone, _⟩
  · simp only [unspent, true_and]
    by_cases offline : join.role = .phone ∧ state.holders join.ctx join.ws .mac = []
    · rw [if_pos offline, List.foldl_nil, stamped]
      exact iff_of_true rfl (.inr (.inl offline))
    · rw [if_neg offline, charge_rows, same.established, same.pairingCycles]
      cases registered : established state with
      | true =>
          rw [if_pos rfl, stamped]
          exact iff_of_true rfl (.inl rfl)
      | false =>
          rw [if_neg (by simp), unstamped_put _ stamped]
          simp only [Bool.false_eq_true, false_or, or_iff_right offline]
          cases role : join.role with
          | mac =>
              simp only [true_and]
              constructor
              · intro unchanged
                exact (unstamped_parts unchanged).1.symm
              · intro zero
                simp [Store.put, Store.unstamped, zero]
          | phone =>
              simp only [reduceCtorEq, false_and, iff_false]
              intro unchanged
              have charged : some (state.store.pairingCycles.getD 0 + 1) =
                  state.store.pairingCycles := (unstamped_parts unchanged).1
              cases count : state.store.pairingCycles <;> simp [count] at charged
  · simp only [spent, Bool.true_eq_false, false_and, iff_false]
    intro unchanged
    apply gone
    rw [← (unstamped_parts unchanged).2]
    split
    · rfl
    · rw [charge_rows]
      split <;> rfl

theorem Refused.kept (refused : Refused env state event join met) :
    Act.deleteAll ∉ Relay.acts env state event := by
  rw [Relay.acts, refused.happens]
  exact refused.within.lacks (by simp)

end Turn

/-- In every reachable state a refused join changes nothing but its own socket, if and only
if it spends no ticket and does not move the budget of the park. -/
theorem refused_join_harmless (env : Env) (events : List Event) (event : Event) (ws : SocketId)
    (role : Role) (refusal : Refusal env (run env events) event ws role) :
    Unharmed env (run env events) event ws ↔ Spares env (run env events) event ws role := by
  obtain ⟨join, met, refused, rfl, rfl⟩ := refusal.refused_turn (wired_run env events)
  rw [← refused.rows_iff (wired_run env events)]
  constructor
  · exact Unharmed.rows
  · intro rows
    exact ⟨fun other apart => refused.same_socket apart, rows, refused.kept⟩

/-- A mac parks, a phone joins it, another socket connects, and the mac leaves; then a phone comes
up to its proof. -/
def deserted : List Event :=
  .get 1 :: joins 1 0 1 macHello openProof [1] ++ joins 1 1 4 phoneHello openProof [2] ++
    [.connect 2 2, .resume 2 7 [] none, .chunk 0 [] .closeFrame, .run 2, .ended 0, .run 3, .run 3] ++
    (joins 4 3 9 phoneHello openProof [3]).take 4

/-- A phone is turned away because no mac is parked; the rows of the park and the socket stay. -/
theorem refused_phone_harmless :
    (run (sampleEnv false) deserted).store.pairingCycles = some 1 ∧
      (run (sampleEnv false) deserted).routable 2 ∧
      Unharmed (sampleEnv false) (run (sampleEnv false) deserted) (.run 4) 3 :=
  ⟨by decide +kernel, by decide +kernel,
    (refused_join_harmless (sampleEnv false) deserted (.run 4) 3 .phone
      ⟨by decide +kernel, "mac offline", by decide +kernel⟩).mpr (by decide +kernel)⟩

/-- A parked mac with a phone, and a mac that yields to it. -/
def yieldingMac : List Event :=
  .get 1 :: joins 1 0 1 macHello openProof [1] ++ joins 1 1 4 phoneHello openProof [2] ++
    (joins 1 2 7 yieldingHello openProof [3]).take 4

theorem refused_mac_resets :
    Refusal (sampleEnv false) (run (sampleEnv false) yieldingMac) (.run 1) 2 .mac ∧
      ¬ Unharmed (sampleEnv false) (run (sampleEnv false) yieldingMac) (.run 1) 2 := by
  constructor
  · exact ⟨by decide +kernel, "slot occupied", by decide +kernel⟩
  · intro unharmed
    have rows := congrArg Store.pairingCycles unharmed.rows
    revert rows
    decide +kernel

end Relay

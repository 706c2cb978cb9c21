import CompanionRelay.Closing

/-!
The budget of a park. A phone that joins raises the stored count of the park and is
admitted only while the count is at most maxPairingCycles; a mac that joins resets it.
The reset comes before the checks that may still refuse the mac, so the count of a
park only grows as long as no mac gets that far without taking the slot.
-/

namespace Relay

/-- A routable socket holds the mac slot. -/
def State.parks (state : State) (mac : SocketId) : Prop :=
  state.routable mac ∧ state.holds mac .mac = true

instance (state : State) (mac : SocketId) : Decidable (state.parks mac) :=
  inferInstanceAs (Decidable (_ ∧ _))

def cycles (state : State) : Nat := state.store.pairingCycles.getD 0

/-- The answer of a phone's join: a mac's has no registration token. -/
def Act.welcomesPhone : Act → Bool
  | .send _ (.ok (some _)) => true
  | _ => false

def phoneJoins (env : Env) (met : State × Event) : Nat :=
  (acts env met.1 met.2).countP Act.welcomesPhone

/-- A phone's join that reaches the charge of the budget. -/
def charges (env : Env) (state : State) (event : Event) : Bool :=
  match joining env state event with
  | some (ws, .phone) =>
      !established state && !(state.holders (state.home ws) ws .mac).isEmpty
  | _ => false

/-- A mac's join resets the budget without taking the slot: it yields to the holder, or
it runs in a context that is no longer registered. -/
def refills (env : Env) (state : State) (event : Event) : Bool :=
  match joining env state event with
  | some (ws, .mac) =>
      !established state && (decide (state.live ≠ some (state.home ws)) ||
        nonDisplacing state ws && !(state.holders (state.home ws) ws .mac).isEmpty)
  | _ => false

/-- The same mac holds the slot, and no verifier is stored, at every state of a segment. -/
def ParkedOver (env : Env) (mac : SocketId) (before during : List Event) : Prop :=
  ∀ lead, lead <+: during →
    (run env (before ++ lead)).parks mac ∧ established (run env (before ++ lead)) = false

/-- The room is gone: no rows, no alarm and no routable socket. -/
structure Torn (state : State) : Prop where
  store : state.store = {}
  alarmRow : state.alarmRow = none
  sockets : ∀ ws, ¬ state.routable ws

/-- While one mac holds the slot the count never falls, at most maxPairingCycles phones
join, and the next phone's join that reaches the charge tears the room down. -/
def ParkCapped (env : Env) (events : List Event) : Prop :=
  ∀ mac before during after, events = before ++ during ++ after →
    ParkedOver env mac before during →
    cycles (run env before) ≤ cycles (run env (before ++ during)) ∧
    ((Machine.steps (step env) (run env before) during).map (phoneJoins env)).sum ≤
      maxPairingCycles ∧
    ∀ event rest, after = event :: rest →
      ((Machine.steps (step env) (run env before) during).map (phoneJoins env)).sum =
        maxPairingCycles →
      charges env (run env (before ++ during)) event = true →
      cutShort env (run env (before ++ during)) event = false →
      Torn (step env (run env (before ++ during)) event)

section Count

def Act.charge : Act → Option Nat
  | .put (.pairingCycles count) => some count
  | _ => none

theorem cycles_kept {script : List Act} (kept : .deleteAll ∉ script)
    (free : ∀ act ∈ script, act.charge = none) (store : Store) :
    (script.foldl Store.after store).pairingCycles = store.pairingCycles := by
  induction script generalizing store with
  | nil => rfl
  | cons act rest ih =>
      rw [List.foldl_cons, ih (fun member => kept (List.mem_cons_of_mem act member))
        (fun other member => free other (List.mem_cons_of_mem act member))]
      have head := free act (by simp)
      cases act with
      | put row => cases row <;> first | rfl | simp [Act.charge] at head
      | delete key => cases key <;> rfl
      | deleteAll => exact absurd (by simp) kept
      | _ => rfl

theorem cycles_charged {front back : List Act} {count : Nat}
    (kept : .deleteAll ∉ front ++ .put (.pairingCycles count) :: back)
    (free : ∀ act ∈ back, act.charge = none) (store : Store) :
    ((front ++ .put (.pairingCycles count) :: back).foldl Store.after store).pairingCycles =
      some count := by
  rw [List.foldl_append, List.foldl_cons, cycles_kept _ free]
  · rfl
  · exact fun member => kept (by simp [member])

theorem Within.not_charge {verbs : List Verb} {script : List Act} (fits : Within verbs script)
    (missing : Verb.putPairingCycles ∉ verbs) : ∀ act ∈ script, act.charge = none := by
  intro act member
  have apart := fits.avoids missing act member
  cases act with
  | put row => cases row <;> first | rfl | exact absurd rfl apart
  | _ => rfl

theorem Within.not_welcome {verbs : List Verb} {script : List Act} (fits : Within verbs script)
    (missing : Verb.sendOk ∉ verbs) : ∀ act ∈ script, act.welcomesPhone = false := by
  intro act member
  have apart := fits.avoids missing act member
  cases act with
  | send ws message => cases message <;> first | rfl | exact absurd rfl apart
  | _ => rfl

end Count

section Step
variable {env : Env} {state : State} {event : Event} {join : Join}

theorem not_admits {act : Act} (quiet : act.admits = false) :
    act.charge = none ∧ act.welcomesPhone = false := by
  cases act with
  | put row => cases row <;> first | exact ⟨rfl, rfl⟩ | simp [Act.admits] at quiet
  | send ws message => cases message <;> first | exact ⟨rfl, rfl⟩ | simp [Act.admits] at quiet
  | _ => exact ⟨rfl, rfl⟩

theorem phoneJoins_none {script : List Act} (quiet : ∀ act ∈ script, act.welcomesPhone = false) :
    script.countP Act.welcomesPhone = 0 := by
  apply List.countP_eq_zero.mpr
  intro act member
  simp [quiet act member]

theorem seat_plain (env : Env) (now : Nat) (ctx : ContextId) (state : State) (random : Bytes)
    (ws : SocketId) (role : Role) (attest : Option AttestedKey) :
    (∀ act ∈ takeSlot env now ctx state random ws role attest, act.charge = none) ∧
      (takeSlot env now ctx state random ws role attest).countP Act.welcomesPhone ≤ 1 := by
  constructor
  · exact (takeSlot_within ..).not_charge (by simp)
  · rcases takeSlot_cases env now ctx state random ws role attest with ⟨whole, _⟩ | ⟨whole, _⟩
    · rw [whole, phoneJoins_none ((reject_within ..).not_welcome (by simp))]
      exact Nat.zero_le 1
    · have displaced : (displace ctx state ws role).countP Act.welcomesPhone = 0 :=
        phoneJoins_none ((Within.map_of (by simp) : Within [.close] _).not_welcome (by simp))
      have armed : (ensureAlarm now state).countP Act.welcomesPhone = 0 :=
        phoneJoins_none ((ensureAlarm_within now state).not_welcome (by simp))
      rw [whole, seat, List.countP_append, displaced]
      cases role with
      | mac => simp [greet, Act.welcomesPhone]
      | phone => simp [greet, armed, Act.welcomesPhone]

-- What a join of the room in pairing mode does to the budget.
theorem Joins.charge_cases (joins : Joins env state event join)
    (pairing : established state = false) :
    (∀ act ∈ join.script env, act.charge = none ∧ act.welcomesPhone = false) ∨
    ∃ front count, join.script env = front ++ .put (.pairingCycles count) ::
        takeSlot env join.now join.ctx join.mid join.random join.ws join.role join.attest ∧
      (∀ act ∈ front, act.charge = none ∧ act.welcomesPhone = false) ∧
      (join.role = .mac ∨
        join.role = .phone ∧ count = cycles state + 1 ∧ count ≤ maxPairingCycles) := by
  have same := joins.same_room
  have paired : established join.mid = false := same.established.trans pairing
  have plain : ∀ {verbs script}, Within verbs script → Verb.putPairingCycles ∉ verbs →
      Verb.sendOk ∉ verbs →
      ∀ act ∈ join.lead ++ script, act.charge = none ∧ act.welcomesPhone = false := by
    intro verbs script fits uncharged unwelcome act member
    have lead := joins.lead_within
    rcases List.mem_append.mp member with early | late
    · exact ⟨lead.not_charge (by simp) act early, lead.not_welcome (by simp) act early⟩
    · exact ⟨fits.not_charge uncharged act late, fits.not_welcome unwelcome act late⟩
  unfold Join.script
  rcases admit_cases env join.now join.ctx join.mid join.random join.ws join.role join.attest with
    ⟨whole, _⟩ | ⟨whole, _⟩ | ⟨whole, parked⟩
  · rw [whole]
    have ends : Within [.read, .send, .close] (.get :: reject join.ws "mac offline") := by
      simp [reject]
    exact .inl (plain ends (by simp) (by simp))
  · rw [whole]
    have ends : Within [.read, .close, .deleteAll, .deleteAlarm]
        (.get :: .get :: teardownRoom join.ctx join.mid "pairing cycle cap") :=
      Within.cons_iff.mpr ⟨by simp, Within.cons_iff.mpr ⟨by simp,
        (teardownRoom_within ..).mono (by simp)⟩⟩
    exact .inl (plain ends (by simp) (by simp))
  · right
    rw [whole]
    have reads : ∀ count, Within [.read] (List.replicate count .get) := by
      intro count
      constructor
      intro act member
      rw [List.eq_of_mem_replicate member]
      simp
    cases role : join.role with
    | mac =>
        refine ⟨join.lead ++ [.get], 0, by simp [charge, paired], ?_, .inl rfl⟩
        exact plain (reads 1) (by simp) (by simp)
    | phone =>
        refine ⟨join.lead ++ [.get, .get], cycles state + 1, ?_, plain (reads 2) (by simp) (by simp),
          .inr ⟨rfl, rfl, ?_⟩⟩
        · simp [charge, paired, cycles, same.pairingCycles]
        · have bound := (parked role).2 paired
          rw [same.pairingCycles] at bound
          exact bound

theorem quiet_step (performed : List Act) (kept : .deleteAll ∉ performed)
    (quiet : ∀ act ∈ performed, act.charge = none ∧ act.welcomesPhone = false)
    (same : acts env state event = performed) :
    cycles (step env state event) = cycles state ∧ phoneJoins env (state, event) = 0 := by
  constructor
  · rw [cycles, cycles, step_store, same, cycles_kept kept fun act member => (quiet act member).1]
  · rw [phoneJoins, same]
    exact phoneJoins_none fun act member => (quiet act member).2

theorem mac_closes {mac : SocketId} (wired : Wired env state) (parks : state.parks mac)
    (pairing : established state = false) (kept : refills env state event = false)
    (joins : Joins env state event join)
    (joined : joining env state event = some (join.ws, join.role)) (role : join.role = .mac) :
    mac ∈ closes (takeSlot env join.now join.ctx join.mid join.random join.ws .mac join.attest) ∧
      ∀ act ∈ takeSlot env join.now join.ctx join.mid join.random join.ws .mac join.attest,
        act.isStorage = false ∧ act.isThrow = false := by
  have same := joins.same_room
  have home := joins.ctx_home wired
  obtain ⟨nonce, yields, challenged⟩ := joins.challenged wired
  simp only [refills, joined, role, pairing, Bool.not_false, Bool.true_and, Bool.or_eq_false_iff,
    decide_eq_false_iff_not, not_not] at kept
  obtain ⟨resident, polite⟩ := kept
  have anchor := (wired.anchored _ mac parks.1).1
  have here : state.home mac = join.ctx := by
    rw [resident] at anchor
    rw [home]
    exact (by simpa using anchor : _ = _).symm
  have apart : mac ≠ join.ws := by
    rintro rfl
    have holds := parks.2
    simp [State.holds, challenged] at holds
  have holder : mac ∈ join.mid.holders join.ctx join.ws .mac := by
    rw [same.holders]
    refine List.mem_filter.mpr ⟨here ▸ parks.1, ?_⟩
    simp [apart, parks.2]
  have held : state.holders (state.home join.ws) join.ws .mac ≠ [] := by
    rw [← home, ← same.holders]
    exact List.ne_nil_of_mem holder
  have firm : nonDisplacing join.mid join.ws = false := by
    rw [same.nonDisplacing]
    simpa [held] using polite
  rcases takeSlot_cases env join.now join.ctx join.mid join.random join.ws .mac join.attest with
    ⟨_, flag, _⟩ | ⟨whole, _⟩
  · rw [firm] at flag
    exact Bool.noConfusion flag
  · rw [whole, seat]
    constructor
    · rw [closes_append, displace, closes_map]
      exact List.mem_append_left _ holder
    · intro act member
      rcases List.mem_append.mp member with displaced | later
      · obtain ⟨other, _, rfl⟩ := List.mem_map.mp displaced
        exact ⟨rfl, rfl⟩
      · simp only [greet, List.mem_cons, List.not_mem_nil, or_false] at later
        rcases later with rfl | rfl <;> exact ⟨rfl, rfl⟩

-- One step of a park: its count never falls, and a phone that joins raises it.
theorem budget_step {mac : SocketId} (wired : Wired env state) (parks : state.parks mac)
    (parksOn : (step env state event).parks mac) (pairing : established state = false)
    (kept : refills env state event = false) :
    cycles state ≤ cycles (step env state event) ∧
      (phoneJoins env (state, event) = 0 ∨
        phoneJoins env (state, event) = 1 ∧
          cycles (step env state event) = cycles state + 1 ∧
          cycles (step env state event) ≤ maxPairingCycles) := by
  rcases step_met env state event with ⟨none_, same⟩ | ⟨met, turns, free, performed, result⟩
  · rw [same]
    exact ⟨le_refl _, .inl (by simp [phoneJoins, none_])⟩
  · have store : established met.start = established state := by
      simp only [established, turns.start_keeps.1]
    have unwiped : .deleteAll ∉ met.acts := by
      intro wiped
      have gone := turns.wiped_pairing wired free wiped (store.trans pairing) mac
      rw [← result] at gone
      exact gone parksOn.1
    have idle : (∀ act ∈ met.acts, act.charge = none ∧ act.welcomesPhone = false) →
        cycles state ≤ cycles (step env state event) ∧
          (phoneJoins env (state, event) = 0 ∨ phoneJoins env (state, event) = 1 ∧
            cycles (step env state event) = cycles state + 1 ∧
            cycles (step env state event) ≤ maxPairingCycles) := by
      intro quiet
      obtain ⟨steady, silent⟩ := quiet_step met.acts unwiped quiet performed
      exact ⟨steady.ge, .inl silent⟩
    have caught : ∀ act ∈ met.onThrow, act.charge = none ∧ act.welcomesPhone = false :=
      fun act member => ⟨turns.on_throw.not_charge (by simp) act member,
        turns.on_throw.not_welcome (by simp) act member⟩
    have quietScript : (∀ act ∈ done met.fault met.script,
        act.charge = none ∧ act.welcomesPhone = false) →
        ∀ act ∈ met.acts, act.charge = none ∧ act.welcomesPhone = false := by
      intro quiet act member
      rcases List.mem_append.mp member with ran | handled
      · exact quiet act ran
      · split at handled
        · exact caught act handled
        · simp at handled
    rcases turns.joining_cases wired free with ⟨_, quiet⟩ | ⟨join, joins, joined, script, ctx⟩
    · exact idle (quietScript fun act ran => not_admits (quiet act (Script.done_subset _ _ ran)))
    · rcases joins.charge_cases pairing with quiet | ⟨front, count, shape, quiet, pays⟩
      · rw [← script] at quiet
        exact idle (quietScript fun act ran => quiet act (Script.done_subset _ _ ran))
      · rw [← script] at shape
        by_cases paid : .put (.pairingCycles count) ∈ done met.fault met.script
        · have apart : .put (.pairingCycles count) ∉ front := by
            intro early
            have none_ := (quiet _ early).1
            simp [Act.charge] at none_
          rw [shape] at paid
          rcases pays with role | ⟨role, next, bound⟩
          · obtain ⟨closed, safe⟩ := mac_closes wired parks pairing kept joins joined role
            rw [role] at shape paid
            have whole : done met.fault met.script = met.script := by
              rw [shape]
              exact Script.done_rest _ _ safe apart paid
            have gone : ¬ met.result.routable mac := by
              apply turns.closed_unroutable wired
              rw [Turn.acts, whole, shape, closes_append, closes_append]
              exact List.mem_append_left _ (List.mem_append_right _ closed)
            rw [← result] at gone
            exact absurd parksOn.1 gone
          · obtain ⟨tail, ran, short⟩ : ∃ tail, done met.fault met.script =
                front ++ .put (.pairingCycles count) :: tail ∧
                tail <+: takeSlot env join.now join.ctx join.mid join.random join.ws join.role
                  join.attest := by
              rw [shape]
              exact Script.done_through _ _ apart paid
            have plain := seat_plain env join.now join.ctx join.mid join.random join.ws join.role
              join.attest
            have whole : met.acts = front ++ .put (.pairingCycles count) ::
                (tail ++ if threw met.fault met.script then met.onThrow else []) := by
              rw [Turn.acts, ran, List.append_assoc, List.cons_append]
            have after : cycles (step env state event) = cycles state + 1 := by
              rw [cycles, step_store, performed, whole, cycles_charged (whole ▸ unwiped)]
              · exact next
              · intro act member
                rcases List.mem_append.mp member with early | late
                · exact plain.1 act (short.subset early)
                · split at late
                  · exact (caught act late).1
                  · simp at late
            refine ⟨by omega, ?_⟩
            have atMost : phoneJoins env (state, event) ≤ 1 := by
              have tailJoins := short.sublist.countP_le (p := Act.welcomesPhone)
              have handled : (if threw met.fault met.script then met.onThrow else []).countP
                  Act.welcomesPhone = 0 := by
                split
                · exact phoneJoins_none fun act member => (caught act member).2
                · rfl
              rw [phoneJoins, performed, whole, List.countP_append, List.countP_cons,
                List.countP_append, handled, phoneJoins_none fun act member => (quiet act member).2]
              simp only [Act.welcomesPhone, Bool.false_eq_true, if_false]
              omega
            omega
        · apply idle
          apply quietScript
          intro act ran
          apply quiet
          by_contra late
          rw [shape] at ran paid
          exact paid (Script.done_reached _ _ late ran)

theorem Joins.capped (joins : Joins env state event join) (spent : maxPairingCycles ≤ cycles state)
    (pairing : established state = false) (role : join.role = .phone)
    (parked : state.holders join.ctx join.ws .mac ≠ []) :
    join.script env =
      join.lead ++ .get :: .get :: teardownRoom join.ctx join.mid "pairing cycle cap" := by
  have same := joins.same_room
  unfold Join.script
  rcases admit_cases env join.now join.ctx join.mid join.random join.ws join.role join.attest with
    ⟨_, _, offline⟩ | ⟨whole, _⟩ | ⟨_, afford⟩
  · rw [same.holders] at offline
    exact absurd offline parked
  · rw [whole]
  · have bound := (afford role).2 (same.established.trans pairing)
    rw [same.pairingCycles] at bound
    have exceeds : maxPairingCycles < state.store.pairingCycles.getD 0 + 1 := Nat.lt_succ_of_le spent
    exact absurd bound (Nat.not_le_of_lt exceeds)

theorem joining_happens {proof : SocketId × Role} (joined : joining env state event = some proof) :
    ∃ met, turn env state event = some met := by
  cases event with
  | run now =>
      cases drained : state.draining with
      | none => simp [joining, drained] at joined
      | some ws => exact ⟨runTurn env now state ws, by simp [turn, State.busy, quietTurn, drained]⟩
  | resume now id random fault =>
      cases busy : state.busy (.resume now id random fault) with
      | true => simp [joining, busy] at joined
      | false =>
          cases found : state.find id with
          | none => simp [joining, busy, found] at joined
          | some handler => exact ⟨_, by simp [turn, busy, quietTurn, found]; rfl⟩
  | _ => simp [joining] at joined

theorem spent_tears_down (wired : Wired env state) (pairing : established state = false)
    (spent : maxPairingCycles ≤ cycles state) (reaches : charges env state event = true)
    (whole : cutShort env state event = false) : Torn (step env state event) := by
  unfold charges at reaches
  cases joined : joining env state event with
  | none => simp [joined] at reaches
  | some proof =>
      obtain ⟨met, happens⟩ := joining_happens joined
      have turns := turn_turns happens
      obtain ⟨ws, role⟩ := proof
      rcases turns.joining_cases wired (turn_free happens) with
        ⟨none_, _⟩ | ⟨join, joins, same, script, ctx⟩
      · rw [joined] at none_
        cases none_
      · rw [joined] at same
        obtain ⟨rfl, rfl⟩ : ws = join.ws ∧ role = join.role := by simpa using same
        cases role : join.role with
        | mac => simp [joined, role] at reaches
        | phone =>
            have parked : state.holders join.ctx join.ws .mac ≠ [] := by
              rw [joins.ctx_home wired]
              simpa [joined, role, pairing] using reaches
            have shape := joins.capped spent pairing role parked
            have finished : threw met.fault met.script = false := by
              simpa [cutShort, happens] using whole
            have performed : acts env state event = join.lead ++ .get :: .get ::
                teardownRoom join.ctx join.mid "pairing cycle cap" := by
              rw [← shape, ← script, acts, happens]
              simp only [Turn.acts, finished, Bool.false_eq_true, if_false, List.append_nil]
              exact Script.done_of_not_threw _ _ _ _ finished
            have result : step env state event = met.result := by
              rw [step, happens]
            have wiped : .deleteAll ∈ met.acts := by
              have same : acts env state event = met.acts := by rw [acts, happens]
              rw [← same, performed]
              simp [teardownRoom]
            constructor
            · rw [step_store, performed]
              simp [teardownRoom, Store.after]
            · rw [step_alarm_row, performed]
              simp [teardownRoom, rowAfter]
            · intro other
              rw [result]
              exact turns.wiped_pairing wired (turn_free happens) wiped (by
                rw [established, turns.start_keeps.1]
                exact pairing) other

end Step

section Run
variable {env : Env}

theorem budget_segment (mac : SocketId) (during : List Event) (start : State)
    (wired : Wired env start)
    (parked : ∀ lead, lead <+: during → (Machine.run (step env) start lead).parks mac ∧
      established (Machine.run (step env) start lead) = false)
    (kept : ∀ met ∈ Machine.steps (step env) start during, refills env met.1 met.2 = false) :
    cycles start + ((Machine.steps (step env) start during).map (phoneJoins env)).sum ≤
        cycles (Machine.run (step env) start during) ∧
      (((Machine.steps (step env) start during).map (phoneJoins env)).sum = 0 ∨
        cycles start + ((Machine.steps (step env) start during).map (phoneJoins env)).sum ≤
          maxPairingCycles) := by
  induction during generalizing start with
  | nil => exact ⟨le_refl _, .inl rfl⟩
  | cons event rest ih =>
      simp only [Machine.steps_cons, List.forall_mem_cons] at kept
      have first := parked [] List.nil_prefix
      have second := parked [event] ⟨rest, rfl⟩
      obtain ⟨grows, joins⟩ := budget_step wired first.1 second.1 first.2 kept.1
      obtain ⟨later, bound⟩ := ih (step env start event) (wired_step wired)
        (fun lead short => parked (event :: lead) ((List.prefix_cons_inj event).mpr short)) kept.2
      simp only [Machine.steps_cons, Machine.run_cons, List.map_cons, List.sum_cons]
      constructor
      · omega
      · omega

/-- In every run in which no mac resets the budget without taking the slot, a park is capped. -/
theorem park_capped (events : List Event)
    (kept : ∀ met ∈ steps env events, refills env met.1 met.2 = false) :
    ParkCapped env events := by
  intro mac before during after split parked
  have inside : ∀ met ∈ Machine.steps (step env) (run env before) during,
      refills env met.1 met.2 = false := by
    intro met member
    apply kept
    rw [split, List.append_assoc, steps, Machine.steps_append, Machine.steps_append]
    exact List.mem_append_right _ (List.mem_append_left _ member)
  have here : ∀ lead, run env (before ++ lead) = Machine.run (step env) (run env before) lead :=
    fun lead => Machine.run_append (step env) initial before lead
  obtain ⟨grows, bound⟩ := budget_segment mac during (run env before) (wired_run env before)
    (fun lead short => here lead ▸ parked lead short) inside
  rw [here during]
  refine ⟨by omega, by omega, ?_⟩
  intro event rest _ spent reaches whole
  rw [← here during] at reaches whole grows ⊢
  exact spent_tears_down (wired_run env _) (parked during (List.prefix_refl _)).2 (by omega)
    reaches whole

theorem park_capped_one_phone :
    ParkCapped (sampleEnv false) (.get 1 :: joins 1 0 1 macHello openProof [1] ++
      joins 1 1 4 phoneHello openProof [2]) :=
  park_capped _ (by decide +kernel)

/-- Eight phones join, a mac that yields is refused, and a ninth phone joins. -/
def refilledPark : List Event :=
  joins 1 1 4 phoneHello openProof [2] ++ joins 1 2 7 phoneHello openProof [3] ++
    joins 1 3 10 phoneHello openProof [4] ++ joins 1 4 13 phoneHello openProof [5] ++
    joins 1 5 16 phoneHello openProof [6] ++ joins 1 6 19 phoneHello openProof [7] ++
    joins 1 7 22 phoneHello openProof [8] ++ joins 1 8 25 phoneHello openProof [9] ++
    joins 1 9 28 yieldingHello openProof [10] ++ joins 1 10 31 phoneHello openProof [11]

-- The refused mac has reset the budget of the park before it was refused.
theorem refused_mac_refills :
    ¬ ParkCapped (sampleEnv false)
      ((.get 1 :: joins 1 0 1 macHello openProof [1]) ++ refilledPark ++ []) := by
  intro capped
  have parked : ParkedOver (sampleEnv false) 0 (.get 1 :: joins 1 0 1 macHello openProof [1])
      refilledPark := by
    intro lead short
    rw [run, Machine.run_append]
    revert lead
    rw [Machine.states_iff (step (sampleEnv false))
      (fun state => state.parks 0 ∧ established state = false)]
    decide +kernel
  have bound := (capped 0 _ refilledPark [] rfl parked).2.1
  have nine : ((Machine.steps (step (sampleEnv false)) (run (sampleEnv false)
      (.get 1 :: joins 1 0 1 macHello openProof [1])) refilledPark).map
        (phoneJoins (sampleEnv false))).sum = 9 := by
    decide +kernel
  rw [nine] at bound
  exact absurd bound (by decide)

end Run

end Relay

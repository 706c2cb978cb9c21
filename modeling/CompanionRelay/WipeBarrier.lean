import CompanionRelay.Wiring

/-!
What a wipe leaves behind. teardownRoom empties the room, but a handler suspended at
a crypto await still carries what it read before. Such a handler writes after the
wipe exactly when the check it waits for accepts.
-/

namespace Relay

/-- The acts that store an identity, an activity time or a counter, mint a ticket or
a token, or admit a socket. -/
def Act.lasting : Act → Bool
  | .put (.verifier _) | .put (.registrantKeyId _) | .put (.assertCounter _ _)
  | .put (.ticket _ _) | .put (.regToken _ _) | .put (.lastActivity _)
  | .put (.pairingCycles _) => true
  | .attach _ ⟨.admitted _, _, _, _⟩ => true
  | .send _ (.ok _) => true
  | _ => false

/-- Whether the check a suspended handler waits for accepts. -/
def Await.accepted (env : Env) (state : State) : Await → Bool
  | .proofSignature check => env.verifyJoin check.sig check.transcript check.verifier
  | .attestCheck call since => (attestVerdict env call since).isOk
  | .registerAssertion call =>
      match assertionVerdict env call with
      | .error _ => false
      | .ok counter => freshCounter state call.key.keyId counter
  | _ => false

/-- The storage calls before the first write of the rest of a handler. -/
def Await.readsFirst : Await → Nat
  | .registerAssertion _ => 1
  | _ => 0

/-- The storage call that throws, if any, comes no later than the first write. -/
def Await.stopped (fault : Option Nat) (await : Await) : Bool :=
  match fault with
  | none => false
  | some left => left ≤ await.readsFirst

/-- No handler that had started before a completed teardownRoom stores, mints or admits
when it goes on after it. A handler keeps its number over all its awaits. -/
def NothingOutlives (env : Env) (events : List Event) : Prop :=
  ∀ before wipe between now id random fault after,
    events = before ++ wipe :: (between ++ .resume now id random fault :: after) →
    .deleteAlarm ∈ acts env (run env before) wipe → id < (run env before).nextId →
    ∀ act ∈ acts env (run env (before ++ wipe :: between)) (.resume now id random fault),
      act.lasting = false

/-- The check such a handler waits for refuses, or storage throws before its first write. -/
def RefusedAfterWipe (env : Env) (events : List Event) : Prop :=
  ∀ before wipe between now id random fault after,
    events = before ++ wipe :: (between ++ .resume now id random fault :: after) →
    .deleteAlarm ∈ acts env (run env before) wipe → id < (run env before).nextId →
    ∀ handler, (run env (before ++ wipe :: between)).find id = some handler →
      (run env (before ++ wipe :: between)).busy (.resume now id random fault) = false →
      handler.await.accepted env (run env (before ++ wipe :: between)) = false ∨
        handler.await.stopped fault = true

def lastingVerbs : List Verb :=
  [.putVerifier, .putRegistrantKeyId, .putAssertCounter, .putTicket, .putRegToken,
    .putLastActivity, .putPairingCycles, .attach, .sendOk]

theorem lasting_verb {act : Act} (lasting : act.lasting = true) : act.verb ∈ lastingVerbs := by
  cases act with
  | put row => cases row <;> simp [Act.lasting, lastingVerbs] at lasting ⊢
  | attach ws attachment => simp [lastingVerbs]
  | send ws message => cases message <;> simp [Act.lasting, lastingVerbs] at lasting ⊢
  | _ => simp [Act.lasting] at lasting

theorem Within.not_lasting {verbs : List Verb} {script : List Act} (fits : Within verbs script)
    (apart : ∀ verb ∈ lastingVerbs, verb ∉ verbs) :
    ∀ act ∈ script, act.lasting = false := by
  intro act member
  by_contra lasting
  rw [Bool.not_eq_false] at lasting
  exact apart _ (lasting_verb lasting) (fits.each act member)

-- An upgrade continues on a socket that has sent nothing yet.
theorem finishUpgrade_not_lasting (env : Env) (now : Nat) (ctx : ContextId) (state : State)
    (ws : SocketId) (waiting : state.admission ws = some .hello) :
    ∀ act ∈ finishUpgrade env now ctx state ws, act.lasting = false := by
  intro act member
  by_contra lasting
  rw [Bool.not_eq_false] at lasting
  have verb := (finishUpgrade_within env now ctx state ws).each _ member
  have attaches : act.verb = .attach := by
    rcases List.mem_cons.mp verb with attaches | other
    · exact attaches
    · have kept := lasting_verb lasting
      generalize act.verb = verb at other kept
      cases verb <;> simp [lastingVerbs] at other kept
  obtain ⟨target, value, rfl⟩ := attach_of_verb attaches
  obtain ⟨rfl, same⟩ := finishUpgrade_admission env now ctx state ws target value member
  obtain ⟨admission, roomName, tag, connectedAt⟩ := value
  obtain rfl : Admission.hello = admission := by simpa [waiting] using same
  simp [Act.lasting] at lasting

variable {env : Env} {state : State}

theorem acts_busy {event : Event} (busy : state.busy event = true) : acts env state event = [] := by
  simp [acts, turn, busy]

theorem acts_unfound {now id : Nat} {random : Bytes} {fault : Option Nat}
    (gone : state.find id = none) : acts env state (.resume now id random fault) = [] := by
  simp only [acts, turn, quietTurn, gone, Option.map_none]
  split <;> simp_all

theorem acts_resume (env : Env) {now id : Nat} {random : Bytes} {fault : Option Nat} {handler : Suspended}
    (found : state.find id = some handler)
    (free : state.busy (.resume now id random fault) = false) :
    ∃ caught, caught ⊆ handler.await.onThrow id ∧
      acts env state (.resume now id random fault) =
        done fault (continuation env now handler.ctx (state.wake id handler.await.drains) random id
          handler.await) ++ caught := by
  refine ⟨if threw fault (continuation env now handler.ctx (state.wake id handler.await.drains)
    random id handler.await) then handler.await.onThrow id else [], ?_, ?_⟩
  · split
    · exact List.Subset.refl _
    · exact List.nil_subset _
  · simp [acts, turn, free, quietTurn, found, Turn.acts]

theorem done_first {fault : Option Nat} {act : Act} {rest : List Act} (writes : act.isStorage = true)
    (sound : act.isThrow = false) (going : fault ≠ some 0) : act ∈ done fault (act :: rest) := by
  cases fault with
  | none => simp [Script.done, writes, sound]
  | some left =>
      cases left with
      | zero => exact absurd rfl going
      | succ left => simp [Script.done, writes, sound]

-- Storage that throws at the first write or before it leaves nothing done but reads.
theorem stopped_not_lasting {script rest : List Act} {fault : Option Nat} {await : Await}
    {first : Act} (reads : List Act) (shape : script = reads ++ first :: rest)
    (size : reads.length = await.readsFirst) (storage : ∀ act ∈ reads, act.isStorage = true)
    (harmless : ∀ act ∈ reads, act.lasting = false) (writes : first.isStorage = true)
    (stopped : await.stopped fault = true) :
    ∀ act ∈ done fault script, act.lasting = false := by
  subst shape
  have short : ∀ (reads : List Act) (left : Nat), (∀ act ∈ reads, act.isStorage = true) →
      left ≤ reads.length → ∀ act ∈ done (some left) (reads ++ first :: rest), act ∈ reads := by
    intro reads
    induction reads with
    | nil =>
        intro left _ bound act member
        obtain rfl : left = 0 := by simpa using bound
        cases throws : first.isThrow <;> simp [Script.done, writes, throws] at member
    | cons read others ih =>
        intro left storage bound act member
        have here := storage read (by simp)
        cases left with
        | zero => cases throws : read.isThrow <;> simp [Script.done, here, throws] at member
        | succ left =>
            have tail := ih left (fun act inside => storage act (by simp [inside]))
              (by simpa using bound) act
            cases throws : read.isThrow <;> simp [Script.done, here, throws] at member
            rcases member with rfl | later
            · simp
            · exact List.mem_cons_of_mem _ (tail later)
  cases fault with
  | none => simp [Await.stopped] at stopped
  | some left =>
      intro act member
      apply harmless
      exact short reads left storage (by simpa [Await.stopped, size] using stopped) act member

theorem Await.onThrow_not_lasting (id : Nat) (await : Await) :
    ∀ act ∈ await.onThrow id, act.lasting = false := by
  cases await <;> simp [Await.onThrow, Act.lasting]

-- A resumed handler leaves something lasting exactly when its check accepts and no
-- storage call stops it before its first write.
theorem resume_not_lasting (wired : Wired env state) {now id : Nat} {random : Bytes}
    {fault : Option Nat} {handler : Suspended} (found : state.find id = some handler)
    (free : state.busy (.resume now id random fault) = false) :
    (∀ act ∈ acts env state (.resume now id random fault), act.lasting = false) ↔
      handler.await.accepted env state = false ∨ handler.await.stopped fault = true := by
  obtain ⟨member, numbered⟩ := mem_find found
  obtain ⟨caught, handled, performed⟩ := acts_resume env found free
  have scriptOnly : ∀ script : List Act, (∀ act ∈ done fault script ++ caught, act.lasting = false) ↔
      ∀ act ∈ done fault script, act.lasting = false := by
    intro script
    constructor
    · exact fun all act inside => all act (List.mem_append_left _ inside)
    · intro ran act inside
      rcases List.mem_append.mp inside with early | late
      · exact ran act early
      · exact handler.await.onThrow_not_lasting id act (handled late)
  rw [performed, scriptOnly]
  have subset : ∀ {script : List Act}, (∀ act ∈ script, act.lasting = false) →
      ∀ act ∈ done fault script, act.lasting = false :=
    fun all act inside => all act (Script.done_subset _ _ inside)
  have going : (∀ left, fault = some left → ¬ left ≤ 0) → fault ≠ some 0 := by
    rintro apart rfl
    exact apart 0 rfl (Nat.zero_le _)
  cases await : handler.await with
  | upgradeTag ws =>
      have waiting := (wired.upgrading handler member ws await).1
      simp only [Await.accepted, true_or, iff_true]
      exact subset (finishUpgrade_not_lasting env now handler.ctx _ ws waiting)
  | proofSignature check =>
      simp only [Await.accepted, continuation, finishProof]
      cases verdict : env.verifyJoin check.sig check.transcript check.verifier with
      | false =>
          simp only [Bool.false_eq_true, if_false, true_or, iff_true]
          exact subset ((reject_within ..).not_lasting (by simp [lastingVerbs]))
      | true =>
          simp only [if_true, Bool.true_eq_false, false_or, bumpActivity, List.cons_append]
          constructor
          · intro clean
            by_contra moving
            have first := clean (.put (.lastActivity now)) (done_first rfl rfl (going (by
              intro left given bound
              exact moving (by simp [Await.stopped, given, Await.readsFirst, bound]))))
            simp [Act.lasting] at first
          · exact fun stopped => stopped_not_lasting [] rfl rfl (by simp) (by simp) rfl stopped
  | attestDigest call =>
      simp only [Await.accepted, true_or, iff_true]
      exact subset (by simp [continuation, Act.lasting])
  | attestCheck call since =>
      simp only [Await.accepted, continuation, finishAttest]
      cases verdict : attestVerdict env call since with
      | error message =>
          simp only [Except.isOk, Except.toBool, true_or, iff_true]
          exact subset ((answer_within ..).not_lasting (by simp [lastingVerbs]))
      | ok attested =>
          obtain ⟨keyId, publicKeyRaw⟩ := attested
          simp only [Except.isOk, Except.toBool, Bool.true_eq_false, false_or]
          constructor
          · intro clean
            by_contra moving
            have first := clean (.put (.ticket (b64 random)
              ⟨now + ticketTtlMs, b64 keyId, b64 publicKeyRaw⟩)) (done_first rfl rfl (going (by
                intro left given bound
                exact moving (by simp [Await.stopped, given, Await.readsFirst, bound]))))
            simp [Act.lasting] at first
          · exact fun stopped => stopped_not_lasting [] rfl rfl (by simp) (by simp) rfl stopped
  | registerDigest call =>
      simp only [Await.accepted, true_or, iff_true]
      exact subset (by simp [continuation, Act.lasting])
  | registerAssertion call =>
      simp only [Await.accepted, continuation, finishRegister]
      cases verdict : assertionVerdict env call with
      | error message =>
          simp only [true_or, iff_true]
          exact subset ((answer_within ..).not_lasting (by simp [lastingVerbs]))
      | ok counter =>
          dsimp only
          have fresh : freshCounter (state.wake id (Await.registerAssertion call).drains)
              call.key.keyId counter = freshCounter state call.key.keyId counter := rfl
          rw [fresh]
          cases freshCounter state call.key.keyId counter with
          | false =>
              simp only [Bool.false_eq_true, if_false, true_or, iff_true]
              apply subset
              intro act inside
              rcases List.mem_cons.mp inside with rfl | later
              · rfl
              · exact (answer_within ..).not_lasting (by simp [lastingVerbs]) act later
          | true =>
              simp only [if_true, Bool.true_eq_false, false_or]
              constructor
              · intro clean
                by_contra moving
                have apart : ∀ left, fault = some left → ¬ left ≤ 1 := by
                  intro left given bound
                  exact moving (by simp [Await.stopped, given, Await.readsFirst, bound])
                have first := clean (.put (.assertCounter call.key.keyId counter)) (by
                  cases fault with
                  | none => simp [Script.done, Act.isStorage, Act.isThrow]
                  | some left =>
                      have beyond := apart left rfl
                      obtain ⟨rest, rfl⟩ : ∃ rest, left = rest + 2 := ⟨left - 2, by omega⟩
                      simp [Script.done, Act.isStorage, Act.isThrow])
                simp [Act.lasting] at first
              · exact fun stopped => stopped_not_lasting [.get] rfl rfl
                  (by simp [Act.isStorage]) (by simp [Act.lasting]) rfl stopped
  | deleteSignature call =>
      simp only [Await.accepted, true_or, iff_true]
      exact subset ((finishDelete_within ..).not_lasting (by simp [lastingVerbs]))
  | deleteTag =>
      simp only [Await.accepted, true_or, iff_true]
      apply subset
      intro act inside
      rcases List.mem_append.mp inside with early | late
      · exact (teardownRoom_within ..).not_lasting (by simp [lastingVerbs]) act early
      · exact (answer_within ..).not_lasting (by simp [lastingVerbs]) act late
  | responseTag =>
      simp only [Await.accepted, true_or, iff_true]
      exact subset (by simp [continuation])

/-- Nothing outlives a wipe exactly in the runs where every check that a handler carries
over a wipe refuses. -/
theorem nothing_outlives_iff (env : Env) (events : List Event) :
    NothingOutlives env events ↔ RefusedAfterWipe env events := by
  constructor
  · intro clean before wipe between now id random fault after split wiped older handler found free
    have quiet := clean before wipe between now id random fault after split wiped older
    exact (resume_not_lasting (wired_run env _) found free).mp quiet
  · intro refused before wipe between now id random fault after split wiped older
    cases busy : (run env (before ++ wipe :: between)).busy (.resume now id random fault) with
    | true =>
        rw [acts_busy busy]
        simp
    | false =>
        cases found : (run env (before ++ wipe :: between)).find id with
        | none =>
            rw [acts_unfound found]
            simp
        | some handler =>
            exact (resume_not_lasting (wired_run env _) found busy).mpr
              (refused before wipe between now id random fault after split wiped older handler found
                busy)

/-- A pairing is registered and deleted while a mac's signature is being checked. -/
def deletedWhileJoining : List Event :=
  [.get 1] ++ joins 1 0 1 macHello openProof [1] ++ joins 1 1 4 phoneHello openProof [2] ++
    asks 1 7 (registration "Ag==" "AQID" "" "") [] 1 ++ asks 1 8 .challenge [3] 1 ++
    [.request 2 (deletion "Aw==") [] none] ++ joins 2 2 10 macHello signedProof [4] ++
    [.resume 2 9 [] none]

-- The check accepts after the wipe: the handler stores an activity time and admits.
theorem proof_outlives_wipe :
    ¬ NothingOutlives (sampleEnv false)
      (deletedWhileJoining ++ .resume 2 9 [] none :: ([] ++ .resume 2 12 [5] none :: [])) := by
  intro clean
  have quiet := clean deletedWhileJoining (.resume 2 9 [] none) [] 2 12 [5] none [] rfl
    (by decide +kernel) (by decide +kernel) (.put (.lastActivity 2)) (by decide +kernel)
  exact Bool.noConfusion quiet

end Relay

import CompanionRelay.AlarmSpec
import CompanionRelay.PreAuth

/-!
Why a turn closes an admitted socket: the whole context is emptied, a frame or the end of the
socket or of its peer ends the splice, the handler of its own frame throws, or a join takes
its slot.
-/

namespace Relay

/-- The handler of the socket's task starts with the next turn of its chain. -/
structure Starts (state : State) (ws : SocketId) (task : Task) : Prop where
  drained : state.draining = some ws
  free : state.verifying ws = false
  next : (state.chain ws).head? = some task

/-- The handler of the task closes the peer of its socket. -/
def severs (now : Nat) (state : State) (ws : SocketId) : Task → Bool
  | .message frame _ _ =>
      decide (frame.size > frameCap state ws) ||
        (rateLimited (state.frameWindow (state.home ws)) now maxFramesPerWindow frameWindowMs).2
  | .closed | .errored => true

inductive Departure (env : Env) (state : State) (event : Event) (met : Turn) (ws : SocketId)
    (role : Role) : Prop
  | emptied (all : ∀ other ∈ state.sockets (state.home ws), other ∈ closes met.acts)
  | severed (now : Nat) (source : SocketId) (task : Task) (runs : event = .run now)
      (starts : Starts state source task) (severs : severs now state source task = true)
      (cut : ws = source ∨ ∃ other, state.holds source other = true ∧
        ws ∈ state.holders (state.home source) source other.other)
      (peers : ∀ other, state.holds source other = true →
        ∀ peer ∈ state.holders (state.home source) source other.other, peer ∈ closes met.acts)
      (ends : task.isMessage = true → source ∈ closes met.acts)
  | thrown (now : Nat) (task : Task) (runs : event = .run now) (starts : Starts state ws task)
      (admits : severs now state ws task = false) (cut : cutShort env state event = true)
  | displaced (join : Join) (seated : Seated env state event join met) (same : join.role = role)
      (held : ws ∈ state.holders (state.home join.ws) join.ws role)

section Targets
variable (env : Env) (now : Nat) (ctx : ContextId) (state : State)

/-- The script closes no other socket than this one. -/
def ClosesOnly (ws : SocketId) (script : List Act) : Prop := ∀ other ∈ closes script, other = ws

theorem ClosesOnly.cons {ws : SocketId} {act : Act} {rest : List Act} (plain : act.closes = none)
    (only : ClosesOnly ws rest) : ClosesOnly ws (act :: rest) := by
  intro other member
  have same : closes (act :: rest) = closes rest := by simp [closes, plain]
  exact only other (same ▸ member)

theorem reject_only (ws : SocketId) (error : String) : ClosesOnly ws (reject ws error) := by
  intro other member
  have same : closes (reject ws error) = [ws] := rfl
  simpa [same] using member

theorem handleHello_only (ws : SocketId) (random : Bytes) (frame : Frame) :
    ClosesOnly ws (handleHello env state ws random frame) := by
  intro other member
  obtain ⟨code, reason, closed⟩ := mem_closes.mp member
  unfold handleHello at closed
  split at closed
  · split at closed
    · dsimp only at closed
      split at closed
      · split at closed <;> simp at closed
        exact closed.1
      · simp at closed
        exact closed.1
    · simp at closed
    · simp at closed
      exact closed.1
  · simp at closed
    exact closed.1

theorem pairingProof_only (random : Bytes) (ws : SocketId) (role : Role) (proof : Json)
    (fails : passesPairing env now state role proof = false) :
    ClosesOnly ws (pairingProof env now ctx state random ws role proof) := by
  unfold passesPairing at fails
  unfold pairingProof
  cases required : attestationRequired env with
  | false => simp [required] at fails
  | true =>
      cases role with
      | mac => simp [required] at fails
      | phone =>
          have throws : ClosesOnly ws [.throw] := fun other member => absurd member List.not_mem_nil
          simp only [required, if_true] at fails ⊢
          split at fails
          · rename_i ticket given
            simp only [given]
            apply ClosesOnly.cons rfl
            split at fails
            · rename_i rec issued
              simp only [issued]
              rw [if_pos (by simpa using fails)]
              exact reject_only ws _
            · rename_i missing
              simp only [missing]
              exact reject_only ws _
          · rename_i given
            split
            · exact throws
            · exact reject_only ws _
            · rename_i ticket presented
              exact absurd presented (given ticket)

theorem handleProof_only (id : Nat) (ws : SocketId) (role : Role) (nonce : String)
    (random : Bytes) (frame : Frame) (fails : passesProof env now ctx state role frame = false) :
    ClosesOnly ws (handleProof env now ctx state id ws role nonce random frame) := by
  have throws : ClosesOnly ws [.throw] := fun other member => absurd member List.not_mem_nil
  unfold passesProof at fails
  unfold handleProof
  dsimp only
  apply ClosesOnly.cons rfl
  split
  · exact reject_only ws _
  · rename_i unlimited
    split
    · exact reject_only ws _
    · rename_i proof parsed
      apply ClosesOnly.cons rfl
      split
      · rename_i absent
        simp only [unlimited, parsed, absent, Bool.not_false, Bool.true_and,
          Option.isNone_none] at fails
        exact pairingProof_only env now ctx state random ws role proof fails
      · split
        · exact throws
        · exact reject_only ws _
        · split
          · exact throws
          · exact fun other member => absurd member List.not_mem_nil

end Targets

section Blocks
variable {fault : Option Nat} {front block rest : List Act} {ws : SocketId}

theorem closes_steady {code : Nat} {reason : String} {sockets : List SocketId} {act : Act}
    (member : act ∈ sockets.map (Act.close · code reason)) :
    act.isStorage = false ∧ act.isThrow = false := by
  obtain ⟨_, _, rfl⟩ := List.mem_map.mp member
  exact ⟨rfl, rfl⟩

theorem closes_prefix {first second : List Act} (initial : first <+: second) :
    closes first ⊆ closes second := by
  obtain ⟨rest, rfl⟩ := initial
  simp

theorem closed_all {code : Nat} {reason : String} {ctx : ContextId} {state : State}
    (first : ws ∉ closes front) (last : ws ∉ closes rest)
    (member : ws ∈ closes (done fault (front ++ (closeAll ctx state code reason ++ rest)))) :
    ws ∈ state.sockets ctx ∧ ∀ other, other ∈ closes front ∨ other ∈ state.sockets ctx →
      other ∈ closes (done fault (front ++ (closeAll ctx state code reason ++ rest))) := by
  obtain ⟨code', reason', closed⟩ := mem_closes.mp member
  have inside := Script.done_subset _ _ closed
  rw [List.mem_append, List.mem_append] at inside
  have early : Act.close ws code' reason' ∉ front :=
    fun there => first (mem_closes.mpr ⟨_, _, there⟩)
  have here : Act.close ws code' reason' ∈ closeAll ctx state code reason := by
    rcases inside with before | here | late
    · exact absurd before early
    · exact here
    · exact absurd (mem_closes.mpr ⟨_, _, late⟩) last
  have performed := closes_prefix
    (Script.done_block _ _ early (fun act inside => closes_steady inside) closed)
  rw [closes_append] at performed
  refine ⟨mem_closeAll.mp (mem_closes.mpr ⟨_, _, here⟩), ?_⟩
  rintro other (before | routed)
  · exact performed (List.mem_append_left _ before)
  · exact performed (List.mem_append_right _ (mem_closeAll.mpr routed))

theorem closed_only {verbs wider : List Verb} {code : Nat} {reason : String} {ctx : ContextId}
    {state : State} (quiet : Within verbs front) (calm : Verb.close ∉ verbs)
    (after : Within wider rest) (still : Verb.close ∉ wider)
    (member : ws ∈ closes (done fault (front ++ (closeAll ctx state code reason ++ rest)))) :
    ws ∈ state.sockets ctx ∧ ∀ other ∈ state.sockets ctx,
      other ∈ closes (done fault (front ++ (closeAll ctx state code reason ++ rest))) := by
  have empty : ∀ {verbs script}, Within verbs script → Verb.close ∉ verbs → ws ∉ closes script := by
    intro verbs script fits missing
    rw [fits.closes_nil missing]
    exact List.not_mem_nil
  obtain ⟨routed, emptied⟩ := closed_all (empty quiet calm) (empty after still) member
  exact ⟨routed, fun other there => emptied other (.inr there)⟩

end Blocks

section Departs
variable {env : Env} {state : State} {event : Event} {met : Turn} {ws : SocketId} {role : Role}

theorem mem_closePeerOf {ctx : ContextId} {source other : SocketId} :
    other ∈ closes (closePeerOf ctx state source) ↔
      ∃ role, state.holds source role = true ∧ other ∈ state.holders ctx source role.other := by
  unfold closePeerOf
  split
  · rename_i role admitted
    rw [closes_map]
    constructor
    · exact fun held => ⟨role, holds_iff.mpr admitted, held⟩
    · rintro ⟨other, holds, held⟩
      rw [holds_iff, admitted] at holds
      cases holds
      exact held
  · rename_i unadmitted
    simp only [closes_nil, List.not_mem_nil, false_iff, not_exists, not_and]
    intro role holds
    exact absurd (holds_iff.mp holds) (unadmitted role)

theorem closePeerOf_steady {ctx : ContextId} {source : SocketId} {act : Act}
    (member : act ∈ closePeerOf ctx state source) :
    act.isStorage = false ∧ act.isThrow = false := by
  unfold closePeerOf at member
  split at member
  · exact closes_steady member
  · exact absurd member List.not_mem_nil

theorem cut_short (happens : turn env state event = some met) :
    cutShort env state event = threw met.fault met.script := by
  rw [cutShort, happens]

-- The turn's closes are those of its script and, if it throws, of its catch.
theorem closes_acts (closed : ws ∈ closes met.acts) :
    ws ∈ closes (done met.fault met.script) ∨
      threw met.fault met.script = true ∧ ws ∈ closes met.onThrow := by
  rw [Turn.acts, closes_append, List.mem_append] at closed
  rcases closed with ran | caught
  · exact .inl ran
  · split at caught
    · exact .inr ⟨‹_›, caught⟩
    · exact absurd caught List.not_mem_nil

theorem closes_done {fault : Option Nat} {script : List Act}
    (closed : ws ∈ closes (done fault script)) : ws ∈ closes script :=
  closes_prefix (Script.done_initial _ _ _ _) closed

theorem emptied (wired : Wired env state) {front rest : List Act} {verbs wider : List Verb}
    {ctx : ContextId} {mid : State} {code : Nat} {reason : String} (quiet : Within verbs front)
    (calm : Verb.close ∉ verbs) (after : Within wider rest) (still : Verb.close ∉ wider)
    (sockets : mid.sockets = state.sockets)
    (shape : met.script = front ++ (closeAll ctx mid code reason ++ rest))
    (ran : ws ∈ closes (done met.fault met.script)) :
    ∀ other ∈ state.sockets (state.home ws), other ∈ closes met.acts := by
  rw [shape] at ran
  obtain ⟨routed, emptied⟩ := closed_only quiet calm after still ran
  rw [sockets] at routed emptied
  intro other there
  rw [(wired.anchored _ _ routed).2.1] at there
  have gone := emptied other there
  rw [← shape] at gone
  rw [Turn.acts, closes_append]
  exact List.mem_append_left _ gone

/-- The proof of a phone that exceeds the cap on the pairing cycles of the park. -/
def kills (state : State) (ws : SocketId) (role : Role) : Bool :=
  decide (role = .phone) && !(state.holders (state.home ws) ws .mac).isEmpty &&
    !established state && decide (maxPairingCycles < cycles state + 1)

theorem Joins.closing (wired : Wired env state) {join : Join} (joins : Joins env state event join)
    (happens : turn env state event = some met) (script : met.script = join.script env)
    (apart : ws ≠ join.ws) (closed : ws ∈ closes met.acts) :
    ws ∈ closes (done met.fault met.script) ∧
    (Seated env state event join met ∧
        ws ∈ state.holders (state.home join.ws) join.ws join.role ∨
      kills state join.ws join.role = true ∧
        ∀ other ∈ state.sockets (state.home ws), other ∈ closes met.acts) := by
  have ran : ws ∈ closes (done met.fault met.script) := by
    rcases closes_acts closed with ran | ⟨_, caught⟩
    · exact ran
    · rw [joins.on_throw happens] at caught
      exact absurd (by simpa [closes, Act.closes, eq_comm] using caught) apart
  refine ⟨ran, ?_⟩
  have lead := joins.lead_within
  have refused : ∀ {front : List Act} {verbs : List Verb} {error : String}, Within verbs front →
      Verb.close ∉ verbs → met.script = front ++ reject join.ws error → False := by
    intro front verbs error quiet calm shape
    have inside := closes_done ran
    rw [shape, closes_append, quiet.closes_nil calm, List.nil_append] at inside
    exact apart (reject_only join.ws error ws inside)
  rcases admit_cases env join.now join.ctx join.mid join.random join.ws join.role join.attest with
    ⟨whole, _⟩ | ⟨whole, phone, unregistered, parked, exceeds⟩ | ⟨whole, _⟩
  · have front : Within [.count, .read, .deleteTicket, .putLastActivity, .getAlarm, .setAlarm]
        (join.lead ++ [.get]) := Within.append_iff.mpr ⟨lead, by simp⟩
    have shape : met.script = (join.lead ++ [.get]) ++ reject join.ws "mac offline" := by
      rw [script, Join.script, whole]
      simp
    exact (refused front (by simp) shape).elim
  · have front : Within [.count, .read, .deleteTicket, .putLastActivity, .getAlarm, .setAlarm]
        (join.lead ++ [.get, .get]) := Within.append_iff.mpr ⟨lead, by simp⟩
    have shape : met.script = (join.lead ++ [.get, .get]) ++
        (closeAll join.ctx join.mid 1000 "pairing cycle cap" ++ [.deleteAll, .deleteAlarm]) := by
      rw [script, Join.script, whole]
      simp [teardownRoom]
    have ends : Within [.deleteAll, .deleteAlarm] [Act.deleteAll, .deleteAlarm] := by simp
    refine .inr ⟨?_, emptied wired front (by simp) ends (by simp) joins.same_room.sockets shape ran⟩
    have same := joins.same_room
    rw [same.holders, joins.ctx_home wired] at parked
    rw [same.established] at unregistered
    rw [same.pairingCycles] at exceeds
    simp only [kills, Bool.and_eq_true, Bool.not_eq_true', List.isEmpty_eq_false_iff,
      decide_eq_true_eq]
    exact ⟨⟨⟨phone, parked⟩, unregistered⟩, exceeds⟩
  · have front : Within [.count, .read, .deleteTicket, .putLastActivity, .getAlarm, .setAlarm,
        .putPairingCycles] (join.lead ++ .get :: charge join.mid join.role) :=
      Within.append_iff.mpr ⟨lead.mono (by simp), Within.cons_iff.mpr ⟨by simp,
        (charge_within ..).mono (by simp)⟩⟩
    rcases takeSlot_cases env join.now join.ctx join.mid join.random join.ws join.role join.attest
      with ⟨taken, _⟩ | ⟨taken, _⟩
    · have shape : met.script = (join.lead ++ .get :: charge join.mid join.role) ++
          reject join.ws "slot occupied" := by
        rw [script, Join.script, whole, taken]
        simp
      exact (refused front (by simp) shape).elim
    · have shape : met.script = (join.lead ++ .get :: charge join.mid join.role) ++
          ((displace join.ctx join.mid join.ws join.role ++
            [.attach join.ws (admittedAs env join.now join.mid join.ws join.role)]) ++
          greet join.now join.mid join.random join.ws join.attest join.role) := by
        rw [script, Join.script, whole, taken, seat]
        simp
      obtain ⟨code, reason, member⟩ := mem_closes.mp ran
      have first : Act.close ws code reason ∉ join.lead ++ .get :: charge join.mid join.role :=
        front.lacks (by simp)
      rw [shape] at member
      have performed := Script.done_block Act.isStorage Act.isThrow first (by
        intro act inside
        rcases List.mem_append.mp inside with displaced | attached
        · exact closes_steady displaced
        · obtain rfl := List.mem_singleton.mp attached
          exact ⟨rfl, rfl⟩) member
      have attached : .attach join.ws (admittedAs env join.now join.mid join.ws join.role) ∈
          met.acts := by
        rw [Turn.acts, shape]
        exact List.mem_append_left _ (performed.subset (by simp))
      have seated := joins.seated wired happens script attached (by simp)
      exact .inl ⟨seated, (seated.spares ws closed).resolve_left apart⟩

theorem Joins.departs (wired : Wired env state) {join : Join} (joins : Joins env state event join)
    (happens : turn env state event = some met) (script : met.script = join.script env)
    (holds : state.holds ws role = true) (closed : ws ∈ closes met.acts) :
    Departure env state event met ws role := by
  obtain ⟨nonce, yields, challenged⟩ := joins.challenged wired
  have apart : ws ≠ join.ws := by
    rintro rfl
    simp [State.holds, challenged] at holds
  rcases (joins.closing wired happens script apart closed).2 with ⟨seated, held⟩ | ⟨_, all⟩
  · have same : join.role = role := by
      have slot := (mem_holders.mp held).2.2
      rw [holds_iff] at slot holds
      rw [holds] at slot
      cases slot
      rfl
    exact .displaced join seated same (same ▸ held)
  · exact .emptied all

theorem severed_script (env : Env) {now : Nat} (id : Nat) {source : SocketId} {random : Bytes}
    {frame : Frame} {fault : Option Nat} (holds : state.holds source role = true)
    (exceeds : severs now state source (.message frame random fault) = true) :
    ∃ (windows : List Window) (code : Nat) (reason : String),
      webSocketMessage env now (state.home source) state id source random frame =
        windows.map .countFrame ++
          (closePeerOf (state.home source) state source ++ [.close source code reason]) := by
  unfold webSocketMessage
  by_cases large : frame.size > frameCap state source
  · exact ⟨[], _, _, by simp only [large, if_true]; rfl⟩
  · have fast : (rateLimited (state.frameWindow (state.home source)) now maxFramesPerWindow
        frameWindowMs).2 = true := by simpa [severs, large] using exceeds
    simp only [large, if_false, holds_iff.mp holds, spliceFrame, fast, if_true]
    exact ⟨[_], _, _, rfl⟩

@[simp] def meteringVerbs : List Verb := [.count, .read, .meter, .putQuota]

theorem meterQuota_cases {now : Nat} {ctx : ContextId} {size : Nat} :
    (overQuota env now ctx state size = true ∧ ∃ front, Within meteringVerbs front ∧
      meterQuota env now ctx state size = front ++ closeAll ctx state 1008 "daily quota exceeded") ∨
    (overQuota env now ctx state size = false ∧
      Within meteringVerbs (meterQuota env now ctx state size)) := by
  unfold meterQuota
  dsimp only
  generalize loadedQuota now ctx state = loaded
  generalize rolledQuota now ctx state = rolled
  have loads : Within meteringVerbs
      (if (state.quota ctx).isNone then [.get, .meter loaded.1 loaded.2] else []) := by
    split <;> simp
  have rolls : Within meteringVerbs (if now - loaded.1.dayStart ≥ quotaWindowMs
      then [.meter rolled.1 rolled.2, .put (.quota rolled.1)] else []) := by
    split <;> simp
  cases overQuota env now ctx state size with
  | true =>
      refine .inl ⟨rfl, _, ?_, (List.append_assoc _ _ _).symm⟩
      exact Within.append_iff.mpr ⟨Within.append_iff.mpr ⟨loads, rolls⟩, by simp⟩
  | false =>
      refine .inr ⟨rfl, Within.append_iff.mpr ⟨Within.append_iff.mpr ⟨loads, rolls⟩, ?_⟩⟩
      simp only [Bool.false_eq_true, if_false]
      split <;> simp

theorem relaying_script (id : Nat) {now : Nat} {source : SocketId} {random : Bytes} {frame : Frame}
    {fault : Option Nat} (holds : state.holds source role = true)
    (under : severs now state source (.message frame random fault) = false) :
    closes (webSocketMessage env now (state.home source) state id source random frame) = [] ∨
      overQuota env now (state.home source) state frame.size = true ∧
      ∃ front, Within meteringVerbs front ∧
        webSocketMessage env now (state.home source) state id source random frame =
          front ++ (closeAll (state.home source) state 1008 "daily quota exceeded" ++ []) := by
  obtain ⟨small, slow⟩ : ¬ frame.size > frameCap state source ∧
      (rateLimited (state.frameWindow (state.home source)) now maxFramesPerWindow
        frameWindowMs).2 = false := by simpa [severs] using under
  simp only [webSocketMessage, small, if_false, holds_iff.mp holds, spliceFrame, slow,
    Bool.false_eq_true]
  rcases @meterQuota_cases env state now (state.home source) frame.size with
    ⟨exceeds, front, quiet, shape⟩ | ⟨within, quiet⟩
  · right
    generalize (rateLimited (state.frameWindow (state.home source)) now maxFramesPerWindow
      frameWindowMs).1 = window
    refine ⟨exceeds, .countFrame window :: front, Within.cons_iff.mpr ⟨by simp, quiet⟩, ?_⟩
    simp only [exceeds, shape, if_true, List.append_nil, List.cons_append]
  · left
    have relays : Within (.sendRelayed :: meteringVerbs)
        (.countFrame (rateLimited (state.frameWindow (state.home source)) now maxFramesPerWindow
          frameWindowMs).1 :: (meterQuota env now (state.home source) state frame.size ++
          forward (state.home source) state source role frame)) :=
      Within.cons_iff.mpr ⟨by simp, Within.append_iff.mpr ⟨quiet.mono (by simp),
        (forward_within ..).mono (by simp)⟩⟩
    simp only [within, Bool.false_eq_true, if_false]
    exact relays.closes_nil (by simp)

theorem closePeerOf_done (fault : Option Nat) (ctx : ContextId) (source : SocketId) :
    done fault (closePeerOf ctx state source) = closePeerOf ctx state source :=
  Script.done_safe _ _ _ _ fun _ member => closePeerOf_steady member

theorem uncaught_acts (caught : met.onThrow = []) : met.acts = done met.fault met.script := by
  rw [Turn.acts, caught, ite_self, List.append_nil]

theorem gone_departs {now : Nat} {source : SocketId} {task : Task}
    (starts : Starts state source task) (plain : task.isMessage = false)
    (script : met.script = closePeerOf (state.home source) state source) (caught : met.onThrow = [])
    (closed : ws ∈ closes met.acts) : Departure env state (.run now) met ws role := by
  have performed : closes met.acts = closes (closePeerOf (state.home source) state source) := by
    rw [uncaught_acts caught, script, closePeerOf_done]
  rw [performed, mem_closePeerOf] at closed
  have ends : severs now state source task = true := by
    cases task with
    | message frame random fault => simp [Task.isMessage] at plain
    | _ => rfl
  refine .severed now source task rfl starts ends (.inr closed) ?_ (by simp [plain])
  intro other holds peer held
  rw [performed, mem_closePeerOf]
  exact ⟨other, holds, held⟩

theorem over_departs {now : Nat} {source : SocketId} {frame : Frame} {random : Bytes}
    {fault : Option Nat} {windows : List Window} {code : Nat} {reason : String}
    (starts : Starts state source (.message frame random fault))
    (exceeds : severs now state source (.message frame random fault) = true)
    (script : met.script = windows.map .countFrame ++
      (closePeerOf (state.home source) state source ++ [.close source code reason]))
    (caught : closes met.onThrow ⊆ [source]) (closed : ws ∈ closes met.acts) :
    Departure env state (.run now) met ws role := by
  have whole : done met.fault met.script = met.script := by
    rw [script]
    apply Script.done_safe
    intro act member
    rcases List.mem_append.mp member with early | late
    · obtain ⟨_, _, rfl⟩ := List.mem_map.mp early
      exact ⟨rfl, rfl⟩
    · rcases List.mem_append.mp late with peers | self
      · exact closePeerOf_steady peers
      · obtain rfl := List.mem_singleton.mp self
        exact ⟨rfl, rfl⟩
  have performed : closes met.script =
      closes (closePeerOf (state.home source) state source) ++ [source] := by
    have counts : Within [.count] (windows.map Act.countFrame) := Within.map_of (by simp)
    rw [script, closes_append, closes_append, counts.closes_nil (by simp)]
    rfl
  have inside : ∀ other ∈ closes met.script, other ∈ closes met.acts := by
    intro other member
    rw [Turn.acts, closes_append, whole]
    exact List.mem_append_left _ member
  have self : source ∈ closes met.acts := inside source (by rw [performed]; simp)
  refine .severed now source _ rfl starts exceeds ?_ ?_ fun _ => self
  · rcases closes_acts closed with ran | ⟨_, thrown⟩
    · have member := closes_done ran
      rw [performed, List.mem_append, mem_closePeerOf] at member
      rcases member with peers | self
      · exact .inr peers
      · exact .inl (by simpa using self)
    · exact .inl (by simpa using caught thrown)
  · intro other holds peer held
    apply inside
    rw [performed]
    exact List.mem_append_left _ (mem_closePeerOf.mpr ⟨other, holds, held⟩)

theorem under_departs (wired : Wired env state) {now : Nat} {source : SocketId} {frame : Frame}
    {random : Bytes} {fault : Option Nat}
    (starts : Starts state source (.message frame random fault))
    (under : severs now state source (.message frame random fault) = false)
    (script : closes met.script = [] ∨ ∃ front, Within meteringVerbs front ∧ met.script =
      front ++ (closeAll (state.home source) state 1008 "daily quota exceeded" ++ []))
    (caught : closes met.onThrow ⊆ [source])
    (happens : turn env state (.run now) = some met) (closed : ws ∈ closes met.acts) :
    Departure env state (.run now) met ws role := by
  rcases closes_acts closed with ran | ⟨thrown, inside⟩
  · rcases script with none_ | ⟨front, quiet, shape⟩
    · have member := closes_done ran
      rw [none_] at member
      exact absurd member List.not_mem_nil
    · exact .emptied (emptied wired quiet (by simp) Within.nil List.not_mem_nil rfl shape ran)
  · obtain rfl : ws = source := by simpa using caught inside
    exact .thrown now _ rfl starts under (by rw [cut_short happens, thrown])

-- A frame of a socket that is not admitted, and does not join, closes no other socket.
theorem webSocketMessage_only {now id : Nat} {source : SocketId} {random : Bytes} {frame : Frame}
    (unadmitted : ∀ role, state.admission source ≠ some (.admitted role))
    (fails : ∀ role nonce yields, state.admission source = some (.challenged role nonce yields) →
      frame.size ≤ frameCap state source →
        passesProof env now (state.home source) state role frame = false) :
    ClosesOnly source
      (webSocketMessage env now (state.home source) state id source random frame) := by
  unfold webSocketMessage
  by_cases large : frame.size > frameCap state source
  · have peers : closePeerOf (state.home source) state source = [] := by
      unfold closePeerOf
      split
      · rename_i role admitted
        exact absurd admitted (unadmitted role)
      · rfl
    intro other member
    have same : closes [Act.close source 1009 "frame too large"] = [source] := rfl
    simpa [large, peers, same] using member
  · simp only [large, if_false]
    cases admission : state.admission source with
    | none => exact handleHello_only env state source random frame
    | some current =>
        cases current with
        | hello => exact handleHello_only env state source random frame
        | admitted role => exact absurd admission (unadmitted role)
        | challenged role nonce yields =>
            exact handleProof_only _ _ _ _ _ _ _ _ _ _ (fails role nonce yields admission
              (Nat.le_of_not_lt large))

theorem unadmitted_script {now : Nat} {source : SocketId} {frame : Frame} {random : Bytes}
    {fault : Option Nat} {rest : List Task} (drained : state.draining = some source)
    (free : state.verifying source = false)
    (next : state.chain source = .message frame random fault :: rest)
    (unadmitted : ∀ role, state.admission source ≠ some (.admitted role)) :
    ClosesOnly source (webSocketMessage env now (state.home source) (state.pop source rest)
        state.nextId source random frame) ∨
      ∃ join, Joins env state (.run now) join ∧
        joining env state (.run now) = some (join.ws, join.role) ∧ join.ws = source ∧
        webSocketMessage env now (state.home source) (state.pop source rest) state.nextId source
          random frame = join.script env := by
  rcases @webSocketMessage_joining env state now source frame random fault rest drained free next
    with ⟨unjoined, _⟩ | ⟨join, joins, joined, shape, _⟩
  · left
    refine webSocketMessage_only (fun role => unadmitted role) ?_
    intro role nonce yields challenged small
    have challenged : state.admission source = some (.challenged role nonce yields) := challenged
    have small : frame.size ≤ frameCap state source := small
    by_contra passes
    have passes : passesProof env now (state.home source) state role frame = true := by
      exact Bool.not_eq_false _ ▸ passes
    simp [joining, drained, free, next, challenged, small, passes] at unjoined
  · refine .inr ⟨join, joins, joined, ?_, shape⟩
    cases joins with
    | pairing now ws role nonce yields frame random fault rest window lead attest drained' =>
        rw [drained] at drained'
        cases drained'
        rfl

theorem message_departs (wired : Wired env state) {now : Nat} {source : SocketId} {frame : Frame}
    {random : Bytes} {fault : Option Nat} {rest : List Task}
    (drained : state.draining = some source) (free : state.verifying source = false)
    (next : state.chain source = .message frame random fault :: rest)
    (happens : turn env state (.run now) = some met)
    (turns : met = taskTurn env now (state.pop source rest) source state.nextId
      (.message frame random fault))
    (holds : state.holds ws role = true) (closed : ws ∈ closes met.acts) :
    Departure env state (.run now) met ws role := by
  have starts : Starts state source (.message frame random fault) :=
    ⟨drained, free, by rw [next]; rfl⟩
  have script : met.script = webSocketMessage env now (state.home source) (state.pop source rest)
      state.nextId source random frame := by rw [turns]; rfl
  have caught : closes met.onThrow ⊆ [source] := by
    rw [turns]
    exact List.Subset.refl _
  by_cases admitted : ∃ other, state.holds source other = true
  · obtain ⟨other, admitted⟩ := admitted
    have popped : (state.pop source rest).holds source other = true := admitted
    cases exceeds : severs now (state.pop source rest) source (.message frame random fault) with
    | true =>
        obtain ⟨windows, code, reason, shape⟩ := severed_script env state.nextId popped exceeds
        exact over_departs starts exceeds (script.trans shape) caught closed
    | false =>
        refine under_departs wired starts exceeds ?_ caught happens closed
        rw [script]
        exact (relaying_script _ popped exceeds).imp_right And.right
  · have apart : ws ≠ source := by
      rintro rfl
      exact admitted ⟨role, holds⟩
    have unadmitted : ∀ role, state.admission source ≠ some (.admitted role) :=
      fun role slot => admitted ⟨role, holds_iff.mpr slot⟩
    rcases @unadmitted_script env state now source frame random fault rest drained free next
      unadmitted with only | ⟨join, joins, _, _, shape⟩
    · exfalso
      rcases closes_acts closed with ran | ⟨_, thrown⟩
      · have member := closes_done ran
        rw [script] at member
        exact apart (only ws member)
      · exact apart (by simpa using caught thrown)
    · exact joins.departs wired happens (script.trans shape) holds closed

-- An alarm closes an admitted socket only when it reaps the room.
theorem alarm_departs (wired : Wired env state) {now : Nat} {ctx : ContextId} {start : State}
    {seen : List SocketId} {fault : Option Nat} (sockets : start.sockets = state.sockets)
    (found : seen ⊆ preAuth ctx state) (holds : state.holds ws role = true)
    (closed : ws ∈ closes (alarmTurn env now ctx start seen fault).acts) :
    Departure env state event (alarmTurn env now ctx start seen fault) ws role := by
  have front := alarmFront_within now start seen
  have unswept : ws ∉ closes (alarmFront now start seen) := by
    rw [closes_alarmFront]
    intro swept
    have waits := ((mem_preAuth _ _ ws).mp (found (List.mem_filter.mp swept).1)).2.2 role
    exact waits (holds_iff.mp holds)
  have ran : ws ∈ closes (done fault (alarm env now ctx start seen)) := by
    rcases closes_acts closed with ran | ⟨_, caught⟩
    · exact ran
    · exact absurd caught List.not_mem_nil
  have quiet : ∀ {rest : List Act}, closes rest = [] →
      alarm env now ctx start seen = alarmFront now start seen ++ rest → False := by
    intro rest none_ shape
    have inside := closes_done ran
    rw [shape, closes_append, none_, List.append_nil] at inside
    exact unswept inside
  rcases alarm_cases env now ctx start seen with ⟨_, shape⟩ | ⟨_, next, _, shape⟩ | ⟨_, _, shape⟩
  · have shape : alarm env now ctx start seen = alarmFront now start seen ++
        (closeAll ctx (replay ctx start (alarmFront now start seen)) 1000 "room expired" ++
          [.deleteAll, .deleteAlarm]) := shape
    rw [shape] at ran
    obtain ⟨routed, emptied⟩ := closed_all unswept (by simp [closes, Act.closes]) ran
    have unaccepted : ∀ other, Act.accept other ∉ alarmFront now start seen :=
      fun other => front.lacks (by simp)
    rw [mem_replay_sockets _ _ _ unaccepted, sockets] at routed
    have home := (wired.anchored _ _ routed.1).2.1
    refine .emptied fun other there => ?_
    rw [home] at there
    have gone : other ∈ closes (alarmFront now start seen) ∨
        other ∈ (replay ctx start (alarmFront now start seen)).sockets ctx := by
      rw [mem_replay_sockets _ _ _ unaccepted, sockets]
      by_cases swept : other ∈ closes (alarmFront now start seen)
      · exact .inl swept
      · exact .inr ⟨there, fun both => swept both.2⟩
    have performed := emptied other gone
    rw [← shape] at performed
    rw [Turn.acts, closes_append]
    exact List.mem_append_left _ performed
  · exact (quiet rfl shape).elim
  · exact (@quiet [] rfl (by rw [shape, List.append_nil])).elim

theorem Turns.departs (wired : Wired env state) (turns : Turns env state event met)
    (happens : turn env state event = some met) (holds : state.holds ws role = true)
    (closed : ws ∈ closes met.acts) : Departure env state event met ws role := by
  have unadmitted : ∀ {other : SocketId} {admission : Admission},
      state.admission other = some admission → (∀ role, admission ≠ .admitted role) →
        ws ≠ other := by
    rintro other admission stands waits rfl
    rw [holds_iff, stands] at holds
    exact waits role (Option.some.inj holds)
  have quiet : ∀ {verbs}, Within verbs met.script → Verb.close ∉ verbs →
      ws ∉ closes met.onThrow → False := by
    intro verbs fits calm caught
    rcases closes_acts closed with ran | ⟨_, thrown⟩
    · have inside := closes_done ran
      rw [fits.closes_nil calm] at inside
      exact absurd inside List.not_mem_nil
    · exact caught thrown
  cases turns with
  | get => exact (quiet Within.nil List.not_mem_nil List.not_mem_nil).elim
  | connect now opened ctx resident unseen =>
      exact (quiet (handleUpgrade_within ..) (by simp) List.not_mem_nil).elim
  | chunk => exact (quiet Within.nil List.not_mem_nil List.not_mem_nil).elim
  | ended => exact (quiet Within.nil List.not_mem_nil List.not_mem_nil).elim
  | idle => exact (quiet Within.nil List.not_mem_nil List.not_mem_nil).elim
  | task now source task rest drained free next =>
      cases task with
      | message frame random fault =>
          exact message_departs wired drained free next happens rfl holds closed
      | closed => exact gone_departs ⟨drained, free, by rw [next]; rfl⟩ rfl rfl rfl closed
      | errored => exact gone_departs ⟨drained, free, by rw [next]; rfl⟩ rfl rfl rfl closed
  | resume now id random fault handler found idle =>
      obtain ⟨suspended, numbered⟩ := mem_find found
      obtain ⟨handlerId, ctx, await⟩ := handler
      obtain rfl : handlerId = id := numbered
      have fits := continuation_within env now ctx (state.wake handlerId await.drains) handlerId
        random await
      cases await with
      | upgradeTag opened =>
          exfalso
          have hello := (wired.upgrading _ suspended opened rfl).1
          rcases closes_acts closed with ran | ⟨_, thrown⟩
          · have inside := closes_done ran
            have script : ws ∈ closes (finishUpgrade env now ctx
              (state.wake handlerId (Await.upgradeTag opened).drains) opened) := inside
            rw [finishUpgrade, closes_append, closes_append,
              (backfillTag_within ..).closes_nil (by simp),
              (ensureAlarm_within ..).closes_nil (by simp), List.nil_append,
              List.append_nil] at script
            have waits := ((mem_preAuth _ _ ws).mp (evicted_preAuth script)).2.2 role
            exact waits (holds_iff.mp holds)
          · have here : ws = opened := by
              simpa [closes, Act.closes, Await.onThrow, eq_comm] using thrown
            exact unadmitted hello (by simp) here
      | proofSignature check =>
          obtain ⟨nonce, flag, challenged, _⟩ := (wired.proving _ suspended check rfl).challenged
          have apart := unadmitted challenged (by simp)
          rcases finishProof_joining now handlerId random fault ctx check found (turn_free happens)
            with ⟨_, refused⟩ | ⟨join, joins, _, script, _⟩
          · exfalso
            rcases closes_acts closed with ran | ⟨_, thrown⟩
            · have inside := closes_done ran
              have script : ws ∈ closes (finishProof env now ctx
                (state.wake handlerId (some check.ws)) random check) := inside
              rw [refused] at script
              exact apart (reject_only check.ws _ ws script)
            · exact apart (by simpa [closes, Act.closes, Await.onThrow, eq_comm] using thrown)
          · exact joins.departs wired happens script holds closed
      | deleteTag =>
          rcases closes_acts closed with ran | ⟨_, thrown⟩
          · have answers : Within [.deleteAll, .deleteAlarm, .reply, .suspend]
                ([.deleteAll, .deleteAlarm] ++ answer handlerId .delete 200 .ok) :=
              Within.append_iff.mpr ⟨by simp, (answer_within ..).mono (by simp)⟩
            have shape : continuation env now ctx (state.wake handlerId Await.deleteTag.drains)
                random handlerId .deleteTag = [] ++
                  (closeAll ctx (state.wake handlerId none) 1000 "room deleted" ++
                    ([.deleteAll, .deleteAlarm] ++ answer handlerId .delete 200 .ok)) := by
              simp [continuation, teardownRoom, Await.drains]
            exact .emptied
              (emptied wired Within.nil List.not_mem_nil answers (by simp) rfl shape ran)
          · simp [closes, Act.closes, Await.onThrow] at thrown
      | _ => exact (quiet fits (by simp) (by simp [Await.onThrow, closes, Act.closes])).elim
  | request now request random fault ctx resident =>
      refine (quiet (handleHttp_within ..) ?_ (by simp [closes, Act.closes])).elim
      cases request <;> simp
      split <;> simp
  | fire now ctx at_ fault armed due idle =>
      exact alarm_departs wired rfl (List.Subset.refl _) holds closed
  | alarm now ctx fault started =>
      exact alarm_departs wired rfl (List.nil_subset _) holds closed
  | drain ctx resident =>
      rcases closes_acts closed with ran | ⟨_, thrown⟩
      · exact .emptied (emptied wired Within.nil List.not_mem_nil Within.nil List.not_mem_nil rfl
          (List.append_nil _).symm ran)
      · exact absurd thrown List.not_mem_nil
  | restart => exact (quiet Within.nil List.not_mem_nil List.not_mem_nil).elim

end Departs
end Relay

import CompanionRelay.ProofFlood
import CompanionRelay.Quota
import CompanionRelay.Splice
import CompanionRelay.Utf8

/-!
The daily quota and the frame cap in bytes. A text frame is measured in UTF-16 units and sent in
UTF-8, so the two agree on a frame just where its characters are ASCII.
-/

namespace Relay

open Function (update)
open WriteBehind (Memory)

section Statement

/-- The length of the payload on the wire. -/
def Frame.bytes : Frame → Nat
  | .text content => (utf8 content).length
  | .binary content => content.length

def Frame.ascii : Frame → Bool
  | .text content => content.toList.all (·.toNat < 0x80)
  | .binary _ => true

def Act.forwards : Act → Option Frame
  | .send _ (.relayed frame) => some frame
  | _ => none

variable (env : Env) (ctx : ContextId)

/-- The frames that forward hands to a peer in the turn of an event. -/
def forwarded (met : State × Event) : List Frame :=
  match turn env met.1 met.2 with
  | none => []
  | some turn => if turn.ctx = ctx then turn.acts.filterMap Act.forwards else []

/-- The quota window of the instance starts anew. -/
def rollsQuota (met : State × Event) : Bool :=
  match met.1.quota ctx, (step env met.1 met.2).quota ctx with
  | some before, some after => before.dayStart ≠ after.dayStart
  | _, _ => false

/-- Between two rolls of an instance, the first of which may be the first event: what it
forwards is in bytes within the quota, and each frame within the cap. -/
def BytesBounded (events : List Event) : Prop :=
  ∀ ctx before during after, events = before ++ (during ++ after) →
    (∀ met ∈ (Machine.steps (step env) (run env before) during).tail,
      rollsQuota env ctx met = false) →
    let sent := (Machine.steps (step env) (run env before) during).flatMap (forwarded env ctx)
    (((sent.map Frame.bytes).sum : Nat) : Int) ≤ dailyByteLimit env ∧
      ∀ frame ∈ sent, frame.bytes ≤ maxFrameBytes

/-- The frames of a socket that holds a slot are ASCII where they are text. -/
def SplicesAscii (met : State × Event) : Prop :=
  ∀ ws ∈ met.1.draining, ∀ role ∈ [Role.mac, Role.phone], met.1.holds ws role = true →
    ∀ frame ∈ handled ws met, frame.ascii = true

instance (met : State × Event) : Decidable (SplicesAscii met) :=
  inferInstanceAs (Decidable (∀ ws ∈ met.1.draining, ∀ role ∈ [Role.mac, Role.phone],
    met.1.holds ws role = true → ∀ frame ∈ handled ws met, frame.ascii = true))

end Statement

section Width

theorem char_width (char : Char) :
    (if char.toNat < 0x10000 then 1 else 2) ≤ char.utf8Size ∧
      (char.utf8Size = (if char.toNat < 0x10000 then 1 else 2) ↔ char.toNat < 0x80) := by
  have value : char.val.toNat = char.toNat := rfl
  rcases char.utf8Size_eq with size | size | size | size
  · have range := char.utf8Size_eq_one_iff.mp size
    simp only [UInt32.le_iff_toNat_le, value, UInt32.reduceToNat] at range
    split <;> omega
  · have range := char.utf8Size_eq_two_iff.mp size
    simp only [UInt32.le_iff_toNat_le, UInt32.lt_iff_toNat_lt, value, UInt32.reduceToNat] at range
    split <;> omega
  · have range := char.utf8Size_eq_three_iff.mp size
    simp only [UInt32.le_iff_toNat_le, UInt32.lt_iff_toNat_lt, value, UInt32.reduceToNat] at range
    split <;> omega
  · have range := char.utf8Size_eq_four_iff.mp size
    simp only [UInt32.lt_iff_toNat_lt, value, UInt32.reduceToNat] at range
    split <;> omega

theorem utf8_size (text : String) : (utf8 text).length = (text.toList.map Char.utf8Size).sum := by
  rw [utf8_chars, List.length_flatMap]
  simp

theorem text_width (chars : List Char) :
    (chars.map fun char => if char.toNat < 0x10000 then 1 else 2).sum ≤
        (chars.map Char.utf8Size).sum ∧
      ((chars.map Char.utf8Size).sum =
          (chars.map fun char => if char.toNat < 0x10000 then 1 else 2).sum ↔
        chars.all (·.toNat < 0x80) = true) := by
  induction chars with
  | nil => simp
  | cons char rest ih =>
      obtain ⟨wide, ascii⟩ := char_width char
      obtain ⟨wider, asciis⟩ := ih
      simp only [List.map_cons, List.sum_cons, List.all_cons, Bool.and_eq_true, decide_eq_true_eq]
      rw [← ascii, ← asciis]
      omega

theorem bytes_eq_size_iff (frame : Frame) : frame.bytes = frame.size ↔ frame.ascii = true := by
  cases frame with
  | binary content => simp [Frame.bytes, Frame.size, Frame.ascii]
  | text content =>
      rw [Frame.bytes, utf8_size]
      exact (text_width content.toList).2

end Width

section Script
variable (env : Env) (now : Nat) (ctx : ContextId) (state : State) (ws : SocketId) (role : Role)
variable (frame : Frame)

theorem Within.forwards_nil {verbs : List Verb} {script : List Act} (fits : Within verbs script)
    (missing : Verb.sendRelayed ∉ verbs) : script.filterMap Act.forwards = [] := by
  rw [List.filterMap_eq_nil_iff]
  intro act member
  have apart := fits.avoids missing act member
  cases act with
  | send target message =>
      cases message with
      | relayed frame => exact absurd rfl apart
      | _ => rfl
  | _ => rfl

theorem splice_through (id : Nat) (random : Bytes)
    (admitted : state.admission ws = some (.admitted role))
    (through : cutOff env ws now state frame = false) :
    webSocketMessage env now (state.home ws) state id ws random frame =
      .countFrame (rateLimited (state.frameWindow (state.home ws)) now maxFramesPerWindow
        frameWindowMs).1 :: meterQuota env now (state.home ws) state frame.size ++
        forward (state.home ws) state ws role frame := by
  simp only [cutOff, Bool.or_eq_false_iff, decide_eq_false_iff_not] at through
  obtain ⟨⟨small, slow⟩, allowed⟩ := through
  simp [webSocketMessage, small, admitted, spliceFrame, slow, allowed]

-- The handler of a holder's frame forwards nothing, or it has let the frame through and has
-- done all of its script.
theorem splice_forwards (id : Nat) (random : Bytes) (fault : Option Nat)
    (admitted : state.admission ws = some (.admitted role)) :
    let script := webSocketMessage env now (state.home ws) state id ws random frame
    (done fault script).filterMap Act.forwards = [] ∨
      cutOff env ws now state frame = false ∧ done fault script = script ∧
        (done fault script).filterMap Act.forwards = [frame] := by
  intro script
  obtain ⟨lead, fits, shape⟩ := splice_shape env now id random frame admitted
  cases cut : cutOff env ws now state frame with
  | true =>
      left
      have whole : script = lead := by simpa [cut] using shape
      rw [whole, (fits.performed fault).forwards_nil (by simp)]
  | false =>
      have whole : script = lead ++ forward (state.home ws) state ws role frame := by
        simpa [cut] using shape
      rcases Script.done_append Act.isStorage Act.isThrow fault lead
        (forward (state.home ws) state ws role frame) with short | ⟨left, long⟩
      · left
        rw [whole, done, short, (fits.performed fault).forwards_nil (by simp)]
      · have safe : ∀ act ∈ forward (state.home ws) state ws role frame,
            act.isStorage = false ∧ act.isThrow = false := by
          unfold forward
          split <;> simp [Act.isStorage, Act.isThrow]
        rw [Script.done_safe _ _ left _ safe] at long
        have sent : (done fault script).filterMap Act.forwards =
            (forward (state.home ws) state ws role frame).filterMap Act.forwards := by
          rw [whole, done, long, List.filterMap_append, fits.forwards_nil (by simp), List.nil_append]
        rw [sent, whole, done, long]
        unfold forward
        split
        · exact .inr ⟨rfl, rfl, rfl⟩
        · exact .inl rfl

theorem forward_unmetered (other : State) :
    replay ctx other (forward ctx state ws role frame) = other := by
  unfold forward
  split <;> rfl

theorem metered_quota (size : Nat) :
    (replay ctx state (meterQuota env now ctx state size)).quota ctx =
      some ⟨(rolledQuota now ctx state).1.dayStart, (rolledQuota now ctx state).1.bytes + size⟩ := by
  have copies := congrArg Memory.live (meterQuota_copies env now ctx state size)
  have live : (WriteBehind.spend quotaWindowMs quotaFlushBytes (dailyByteLimit env) now size
      (state.copies ctx)).live = some ⟨(rolledQuota now ctx state).1.dayStart,
        (rolledQuota now ctx state).1.bytes + size⟩ := by
    unfold WriteBehind.spend
    rw [roll_copies]
    dsimp only
    split
    · rfl
    · split <;> rfl
  rw [live] at copies
  obtain ⟨quota, held, same⟩ := Option.map_eq_some_iff.mp copies
  rw [held]
  cases quota
  simpa [Quota.count] using same

theorem rolled_grown {held : Quota} (loaded : state.quota ctx = some held)
    (same : (rolledQuota now ctx state).1.dayStart = held.dayStart) :
    (rolledQuota now ctx state).1 = held := by
  have load : (loadedQuota now ctx state).1 = held := by simp [loadedQuota, loaded]
  unfold rolledQuota at same ⊢
  dsimp only at same ⊢
  rw [load] at same ⊢
  split at same
  · rename_i expired
    have window : quotaWindowMs > 0 := by decide
    dsimp only at same
    omega
  · rename_i lasts
    rw [if_neg lasts, load]

theorem meterQuota_grown {held quota : Quota} {size flushed : Nat}
    (loaded : state.quota ctx = some held)
    (member : Act.meter quota flushed ∈ meterQuota env now ctx state size)
    (same : quota.dayStart = held.dayStart) : held.bytes ≤ quota.bytes := by
  have rolled := rolled_grown now ctx state loaded
  have shapes : quota = (rolledQuota now ctx state).1 ∨ quota =
      ⟨(rolledQuota now ctx state).1.dayStart, (rolledQuota now ctx state).1.bytes + size⟩ := by
    unfold meterQuota at member
    simp only [loaded, Option.isNone_some, Bool.false_eq_true, if_false, List.nil_append,
      List.mem_append] at member
    rcases member with opens | spends
    · split at opens
      · left
        simp at opens
        exact opens.1
      · simp at opens
    · right
      split at spends
      · simp [closeAll] at spends
        exact spends.1
      · split at spends
        · simp at spends
          exact spends.1
        · simp at spends
          exact spends.1
  rcases shapes with rfl | rfl
  · rw [rolled same]
  · rw [rolled same]
    exact Nat.le_add_right ..

theorem message_meters (id : Nat) (random : Bytes) {quota : Quota} {flushed : Nat}
    (member : Act.meter quota flushed ∈ webSocketMessage env now ctx state id ws random frame) :
    Act.meter quota flushed ∈ meterQuota env now ctx state frame.size := by
  unfold webSocketMessage at member
  split at member
  · exact absurd member ((closeBoth_within ..).lacks (by simp))
  · split at member
    · exact absurd member ((handleHello_within ..).lacks (by simp))
    · exact absurd member ((handleHello_within ..).lacks (by simp))
    · exact absurd member ((handleProof_within ..).lacks (by simp))
    · unfold spliceFrame at member
      dsimp only at member
      rw [List.mem_cons] at member
      rcases member with counts | member
      · cases counts
      · split at member
        · exact absurd member ((closeBoth_within ..).lacks (by simp))
        · rcases List.mem_append.mp member with meters | sends
          · exact meters
          · split at sends
            · simp at sends
            · exact absurd sends ((forward_within ..).lacks (by simp))

theorem through_quota (id : Nat) (random : Bytes)
    (admitted : state.admission ws = some (.admitted role))
    (through : cutOff env ws now state frame = false) :
    (replay (state.home ws) state
      (webSocketMessage env now (state.home ws) state id ws random frame)).quota (state.home ws) =
      some ⟨(rolledQuota now (state.home ws) state).1.dayStart,
        (rolledQuota now (state.home ws) state).1.bytes + frame.size⟩ := by
  rw [splice_through env now state ws role frame id random admitted through, List.cons_append,
    replay_cons, replay_append, forward_unmetered]
  -- overQuota does not read the frame window
  exact metered_quota env now (state.home ws) (perform (state.home ws) state (.countFrame
    (rateLimited (state.frameWindow (state.home ws)) now maxFramesPerWindow frameWindowMs).1))
    frame.size

end Script

section Turn
variable {env : Env} {state : State} {event : Event} {met : Turn} {ctx : ContextId}

theorem Turns.start_quota (turns : Turns env state event met) (below : ctx < state.nextId) :
    met.start.quota ctx = state.quota ctx := by
  have renewed : update state.quota state.nextId none ctx = state.quota ctx :=
    Function.update_of_ne (Nat.ne_of_lt below) ..
  cases turns with
  | get now absent quiet =>
      rw [init_keeps]
      exact renewed
  | chunk ws frames tail attached hears upgraded quiet => rw [hang_up_keeps]; rfl
  | ended ws attached open_ quiet => rw [maybe_evict_live]; rfl
  | task now ws task rest drained free next => cases task <;> rfl
  | restart now =>
      dsimp only [Relay.restart]
      split
      · rfl
      · rw [maybe_evict_live, init_keeps]
        exact renewed
  | _ => rfl

theorem Turns.result_quota (turns : Turns env state event met) :
    met.result.quota = (replay met.ctx met.start met.acts).quota := by
  rw [Turn.result]
  rcases turns.finish_keeps (replay met.ctx met.start met.acts) with same | evicted
  · rw [same]
  · rw [evicted, maybe_evict_live]

theorem meters_message (turns : Turns env state event met) {quota : Quota} {flushed : Nat}
    (member : Act.meter quota flushed ∈ met.acts) :
    ∃ now ws frame random fault rest, event = .run now ∧ state.draining = some ws ∧
      state.verifying ws = false ∧ state.chain ws = .message frame random fault :: rest ∧
      met = taskTurn env now (state.pop ws rest) ws state.nextId (.message frame random fault) := by
  have inside : Verb.meter ∈ footprint env state event := by
    simpa using (turns.within turns.script_within).each _ member
  obtain ⟨now, ws, frame, random, fault, rest, rfl, drained, next⟩ :=
    footprint_frame (by simp) inside
  cases turns with
  | task now other task others drained' free next' =>
      obtain rfl : ws = other := Option.some.inj (drained.symm.trans drained')
      obtain ⟨rfl, rfl⟩ := List.cons.inj (next.symm.trans next')
      exact ⟨now, ws, frame, random, fault, rest, rfl, drained, free, next, rfl⟩
  | idle now ws drained stopped => simp [Turn.acts, done, Script.done, threw, Script.threw] at member

-- A loaded window stays loaded, and without a roll it only grows.
theorem step_grown (env : Env) (event : Event) (below : ctx < state.nextId) {held : Quota}
    (loaded : state.quota ctx = some held) :
    ∃ quota, (step env state event).quota ctx = some quota ∧
      (quota.dayStart = held.dayStart → held.bytes ≤ quota.bytes) := by
  rcases step_cases env state event with ⟨_, same⟩ | ⟨met, turns, _, result⟩
  · exact ⟨held, by rw [same, loaded], fun _ => Nat.le_refl _⟩
  · rw [result, turns.result_quota]
    refine Script.replay_invariant (perform met.ctx) (fun state => ∃ quota,
      state.quota ctx = some quota ∧ (quota.dayStart = held.dayStart → held.bytes ≤ quota.bytes))
      met.acts ?_ met.start ⟨held, by rw [turns.start_quota below, loaded], fun _ => Nat.le_refl _⟩
    intro act member state' grown
    cases act with
    | meter quota flushed =>
        by_cases here : ctx = met.ctx
        · refine ⟨quota, by simp [perform, here], ?_⟩
          obtain ⟨now, ws, frame, random, fault, rest, rfl, _, _, _, rfl⟩ :=
            meters_message turns member
          have script : Act.meter quota flushed ∈ webSocketMessage env now (state.home ws)
              (state.pop ws rest) state.nextId ws random frame := by
            rcases turn_act member with ran | caught
            · exact ran
            · exact absurd caught (turns.on_throw.lacks (by simp))
          have home : ctx = state.home ws := here
          exact meterQuota_grown env now (state.home ws) (state.pop ws rest)
            (home ▸ loaded : state.quota (state.home ws) = some held)
            (message_meters env now _ _ ws frame _ random script)
        · simpa [perform, Function.update_of_ne here] using grown
    | _ => simpa [perform, State.closeSocket] using grown

theorem Turns.forwards_acts (turns : Turns env state event met) :
    met.acts.filterMap Act.forwards = (done met.fault met.script).filterMap Act.forwards := by
  rw [Turn.acts, List.filterMap_append]
  split
  · rw [turns.on_throw.forwards_nil (by simp), List.append_nil]
  · exact List.append_nil _

theorem message_unforwarded (env : Env) (now : Nat) (ctx : ContextId) (state : State) (id : Nat)
    (ws : SocketId) (random : Bytes) (frame : Frame)
    (slotless : ∀ role, state.admission ws ≠ some (.admitted role)) (fault : Option Nat) :
    (done fault (webSocketMessage env now ctx state id ws random frame)).filterMap Act.forwards =
      [] := by
  unfold webSocketMessage
  split
  · exact ((closeBoth_within ..).performed fault).forwards_nil (by simp)
  · split
    · exact ((handleHello_within ..).performed fault).forwards_nil (by simp)
    · exact ((handleHello_within ..).performed fault).forwards_nil (by simp)
    · exact ((handleProof_within ..).performed fault).forwards_nil (by simp)
    · rename_i role admitted
      exact absurd admitted (slotless role)

theorem quiet_unforwarded (turns : Turns env state event met)
    (quiet : ∀ now ws random fault rest frame, event = .run now →
      state.draining = some ws → state.chain ws ≠ .message frame random fault :: rest) :
    met.acts.filterMap Act.forwards = [] := by
  rw [turns.forwards_acts]
  refine (turns.script_within.performed met.fault).forwards_nil fun forwards => ?_
  obtain ⟨now, ws, frame, random, fault, rest, run, drained, next⟩ :=
    footprint_frame (by simp) forwards
  exact quiet now ws random fault rest frame run drained next

-- What the instance forwards in a turn, and what it has metered for it.
theorem forwarded_cases (env : Env) (ctx : ContextId) (state : State) (event : Event) :
    forwarded env ctx (state, event) = [] ∨
      ∃ now ws role frame, state.draining = some ws ∧ ctx = state.home ws ∧
        state.holds ws role = true ∧ handled ws (state, event) = [frame] ∧
        cutOff env ws now state frame = false ∧ forwarded env ctx (state, event) = [frame] ∧
        (step env state event).quota ctx = some ⟨(rolledQuota now ctx state).1.dayStart,
          (rolledQuota now ctx state).1.bytes + frame.size⟩ := by
  cases happens : turn env state event with
  | none => exact .inl (by simp [forwarded, happens])
  | some met =>
      have turns := turn_turns happens
      have sends : forwarded env ctx (state, event) =
          if met.ctx = ctx then met.acts.filterMap Act.forwards else [] := by
        simp [forwarded, happens]
      by_cases here : met.ctx = ctx
      · rw [if_pos here] at sends
        by_cases message : ∃ now ws random fault rest frame, event = .run now ∧
            state.draining = some ws ∧ state.chain ws = .message frame random fault :: rest
        · obtain ⟨now, ws, random, fault, rest, frame, rfl, drained, next⟩ := message
          have result : step env state (.run now) = met.result := by rw [step, happens]
          obtain rfl : runTurn env now state ws = met :=
            Option.some.inj ((run_turn drained).symm.trans happens)
          rw [turns.forwards_acts] at sends
          cases free : state.verifying ws with
          | true =>
              left
              rw [sends]
              simp [runTurn, free, done, Script.done]
          | false =>
              have turn_ : runTurn env now state ws = taskTurn env now (state.pop ws rest) ws
                  state.nextId (.message frame random fault) := by
                simp [runTurn, free, next]
              rw [turn_] at turns sends here result
              by_cases slot : ∃ role, state.admission ws = some (.admitted role)
              · obtain ⟨role, admitted⟩ := slot
                rcases splice_forwards env now (state.pop ws rest) ws role frame state.nextId random
                  fault admitted with nothing | ⟨through, whole, sent⟩
                · exact .inl (sends.trans nothing)
                · refine .inr ⟨now, ws, role, frame, drained, here.symm, holds_iff.mpr admitted, ?_,
                    through, sends.trans sent, ?_⟩
                  · simp [handled, drained, free, next, Task.frame]
                  · obtain rfl : state.home ws = ctx := here
                    have finished := Script.not_threw_of_done Act.isStorage Act.isThrow whole
                    rw [result, turns.result_quota, Turn.acts_whole finished]
                    exact through_quota env now (state.pop ws rest) ws role frame _ random admitted
                      through
              · left
                rw [sends]
                exact message_unforwarded env now _ _ _ ws random frame
                  (fun role admitted => slot ⟨role, admitted⟩) fault
        · left
          rw [sends]
          refine quiet_unforwarded turns fun now ws random fault rest frame run drained next =>
            message ⟨now, ws, random, fault, rest, frame, run, drained, next⟩
      · exact .inl (sends.trans (if_neg here))

end Turn

section Run
variable {env : Env} {ctx : ContextId} {state : State}

/-- What has been forwarded in a window so far is within the quota, and paid for. -/
structure Paid (env : Env) (ctx : ContextId) (sent : List Frame) (state : State) : Prop where
  fits : (((sent.map Frame.bytes).sum : Nat) : Int) ≤ dailyByteLimit env
  capped : ∀ frame ∈ sent, frame.bytes ≤ maxFrameBytes
  metered : sent ≠ [] → ctx < state.nextId ∧
    ∃ quota, state.quota ctx = some quota ∧ (sent.map Frame.bytes).sum ≤ quota.bytes

theorem step_next_id (env : Env) (state : State) (event : Event) :
    state.nextId ≤ (step env state event).nextId := by
  rcases step_cases env state event with ⟨_, same⟩ | ⟨met, turns, _, result⟩
  · rw [same]
  · rw [result, turns.result_numbers.1]
    exact turns.start_next

theorem rolls_not {event : Event} {before after : Quota}
    (loaded : state.quota ctx = some before)
    (metered : (step env state event).quota ctx = some after)
    (lasts : rollsQuota env ctx (state, event) = false) : after.dayStart = before.dayStart := by
  simp only [rollsQuota, loaded, metered, ne_eq, decide_not, Bool.not_eq_false',
    decide_eq_true_eq] at lasts
  exact lasts.symm

theorem Paid.next {sent : List Frame} (paid : Paid env ctx sent state) (numbered : Numbered state)
    (event : Event) (ascii : SplicesAscii (state, event))
    (lasts : sent = [] ∨ rollsQuota env ctx (state, event) = false) :
    Paid env ctx (sent ++ forwarded env ctx (state, event)) (step env state event) := by
  rcases forwarded_cases env ctx state event with nothing |
    ⟨now, ws, role, frame, drained, rfl, holds, one, through, sends, metered⟩
  · rw [nothing, List.append_nil]
    refine ⟨paid.fits, paid.capped, fun some_ => ?_⟩
    obtain ⟨below, held, loaded, covered⟩ := paid.metered some_
    obtain ⟨quota, after, grown⟩ := step_grown env event below loaded
    have same := rolls_not loaded after (lasts.resolve_left some_)
    exact ⟨Nat.lt_of_lt_of_le below (step_next_id env state event), quota, after,
      Nat.le_trans covered (grown same)⟩
  · -- the size that is metered is the length in bytes
    have width : frame.bytes = frame.size := by
      refine (bytes_eq_size_iff frame).mpr (ascii ws drained role ?_ holds frame (by simp [one]))
      cases role <;> simp
    have admitted := holds_iff.mp holds
    simp only [cutOff, Bool.or_eq_false_iff, decide_eq_false_iff_not, frameCap, admitted]
      at through
    obtain ⟨⟨small, _⟩, allowed⟩ := through
    have within_ := of_decide_eq_false allowed
    have covered : (sent.map Frame.bytes).sum ≤ (rolledQuota now (state.home ws) state).1.bytes := by
      rcases lasts with rfl | lasts
      · exact Nat.zero_le _
      · by_cases some_ : sent = []
        · subst some_
          exact Nat.zero_le _
        · obtain ⟨_, held, loaded, covered⟩ := paid.metered some_
          have same := rolls_not loaded metered lasts
          rwa [rolled_grown now (state.home ws) state loaded same]
    have total : ((sent ++ [frame]).map Frame.bytes).sum =
        (sent.map Frame.bytes).sum + frame.size := by simp [width]
    rw [sends]
    refine ⟨?_, ?_, fun _ => ?_⟩
    · rw [total]
      omega
    · intro other member
      rcases List.mem_append.mp member with early | late
      · exact paid.capped other early
      · obtain rfl := List.mem_singleton.mp late
        omega
    · refine ⟨Nat.lt_of_lt_of_le (numbered.homed drained) (step_next_id env state event), _,
        metered, ?_⟩
      rw [total]
      exact Nat.add_le_add_right covered _

theorem Paid.run {sent : List Frame} (paid : Paid env ctx sent state) (wired : Wired env state)
    (numbered : Numbered state) (during : List Event)
    (ascii : ∀ met ∈ Machine.steps (step env) state during, SplicesAscii met)
    (lasts : ∀ met ∈ Machine.steps (step env) state during, rollsQuota env ctx met = false) :
    Paid env ctx
      (sent ++ (Machine.steps (step env) state during).flatMap (forwarded env ctx))
      (Machine.run (step env) state during) := by
  induction during generalizing state sent with
  | nil => simpa using paid
  | cons event rest ih =>
      rw [Machine.steps_cons, List.forall_mem_cons] at ascii lasts
      have after := ih (paid.next numbered event ascii.1 (.inr lasts.1)) (wired_step wired)
        (step_numbered wired numbered event) ascii.2 lasts.2
      rwa [List.append_assoc] at after

theorem numbered_run (env : Env) (events : List Event) : Numbered (run env events) :=
  (Machine.run_invariant (step env) (fun state => Wired env state ∧ Numbered state)
    (fun _ _ => True)
    (fun _ event holds _ => ⟨wired_step holds.1, step_numbered holds.1 holds.2 event⟩) _
    ⟨Wired.initial env, Numbered.initial⟩ events (fun _ _ => trivial)).2

/-- The quota and the cap in bytes, for every run of ASCII text and binary frames. -/
theorem bytes_bounded (env : Env) (configured : 0 ≤ dailyByteLimit env) (events : List Event)
    (ascii : ∀ met ∈ steps env events, SplicesAscii met) : BytesBounded env events := by
  intro ctx before during after whole lasts
  subst whole
  rw [steps, Machine.steps_append, Machine.steps_append] at ascii
  have wired := wired_run env before
  have numbered := numbered_run env before
  have unpaid : Paid env ctx [] (run env before) := ⟨configured, by simp, by simp⟩
  cases during with
  | nil => exact ⟨configured, by simp⟩
  | cons event rest =>
      simp only [Machine.steps_cons, List.tail_cons] at lasts
      have own : ∀ met ∈ Machine.steps (step env) (run env before) (event :: rest),
          SplicesAscii met := by
        intro met member
        exact ascii met (List.mem_append_right _ (List.mem_append_left _ member))
      rw [Machine.steps_cons, List.forall_mem_cons] at own
      have paid := (unpaid.next numbered event own.1 (.inl rfl)).run (wired_step wired)
        (step_numbered wired numbered event) rest own.2 lasts
      exact ⟨paid.fits, paid.capped⟩

/-- A binary frame and an ASCII one, between two sockets of one instance. -/
def plainFrames : List Event :=
  pairedRoom ++ [.chunk 0 [(cipherText, [], none), (.text "abc", [], none)] .none, .run 1, .run 1]

theorem plain_bounded : BytesBounded (sampleEnv false) plainFrames :=
  bytes_bounded (sampleEnv false) (by decide) plainFrames (by decide +kernel)

def narrowEnv : Env := { sampleEnv false with dailyByteQuota := some 1 }

/-- One character of one unit and two bytes goes through a quota of one byte. -/
theorem wide_text_exceeds :
    ¬ BytesBounded narrowEnv (pairedRoom ++ [.chunk 0 [(.text "é", [], none)] .none, .run 1]) := by
  intro bounded
  have sent := (bounded 0 pairedRoom [.chunk 0 [(.text "é", [], none)] .none, .run 1] []
    (by simp) (by decide +kernel)).1
  revert sent
  decide +kernel

end Run

end Relay

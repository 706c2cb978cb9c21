import CompanionRelay.RefusedCall
import CompanionRelay.WakeGuarantee

/-!
One context under a room name. Sockets, an armed timer and pinned handlers keep a context
registered; alarm() and a frame that waits on the chain of a closed socket do not. So what
is in use is registered just as long as nothing evicts a context whose alarm() is under way
and no frame is handled in a context that has been evicted.
-/

namespace Relay

open Function (update)

/-- The context has a routable socket, an operation or alarm() in progress, or an armed
timer. -/
def State.inUse (state : State) (ctx : ContextId) : Prop :=
  state.sockets ctx ≠ [] ∨ (∃ handler ∈ state.suspended, handler.ctx = ctx) ∨
    state.loading = some ctx ∨ state.alarming = some ctx ∨ state.timer ctx ≠ none

/-- Every context in use is the one registered under the room name. -/
def Undivided (state : State) : Prop := ∀ ctx, state.inUse ctx → state.live = some ctx

structure NoSplitBrain (env : Env) (events : List Event) : Prop where
  registered : ∀ lead, lead <+: events → Undivided (run env lead)
  alone : ∀ lead, lead <+: events → ∀ first second, (run env lead).inUse first →
    (run env lead).inUse second → first = second
  -- a handler that does anything runs in the registered context
  handled : ∀ met ∈ steps env events, ∀ turned, turn env met.1 met.2 = some turned →
    turned.acts ≠ [] → turned.start.live = some turned.ctx
  lapsed : ∀ lead, lead <+: events → ∀ ctx, (run env lead).live ≠ some ctx →
    (run env lead).timer ctx = none

/-- The frame that is handled next. -/
def State.handles (state : State) : Option SocketId :=
  state.draining.filter fun ws =>
    !state.verifying ws && (state.chain ws).head?.any (·.isMessage)

theorem mem_handles {state : State} {ws : SocketId} : ws ∈ state.handles ↔
    state.draining = some ws ∧ state.verifying ws = false ∧
      ∃ frame random fault rest, state.chain ws = .message frame random fault :: rest := by
  simp only [State.handles, Option.mem_def, Option.filter_eq_some_iff, Bool.and_eq_true,
    Bool.not_eq_true']
  refine and_congr_right fun _ => and_congr_right fun _ => ?_
  cases state.chain ws with
  | nil => simp
  | cons task rest => cases task <;> simp [Task.isMessage]

/-- The steps that leave the registry whole: a boot finds the room's alarm not yet due, no
frame is left over from a context that has been evicted, and a call that comes while an
overdue alarm() is under way does not throw. -/
def Loyal (env : Env) (state : State) : Event → Prop
  | .restart now => ∀ at_ ∈ state.alarmRow, now < at_
  | .run _ => ∀ ws ∈ state.handles, state.live = some (state.home ws)
  | .request now request random fault =>
      state.alarming = none ∨ cutShort env state (.request now request random fault) = false
  | _ => True

section Parts
variable {env : Env} {state after : State} {ctx other : ContextId}

theorem Undivided.shrinks (undivided : Undivided state) (live : after.live = state.live)
    (sockets : ∀ ctx, after.sockets ctx ⊆ state.sockets ctx)
    (suspended : after.suspended ⊆ state.suspended)
    (loading : ∀ ctx, after.loading = some ctx → state.loading = some ctx)
    (alarming : ∀ ctx, after.alarming = some ctx → state.alarming = some ctx)
    (timer : ∀ ctx, after.timer ctx ≠ none → state.timer ctx ≠ none) : Undivided after := by
  intro ctx used
  rw [live]
  apply undivided
  rcases used with socket | ⟨handler, member, runs⟩ | loaded | alarmed | armed
  · exact .inl fun empty => socket (List.subset_nil.mp (empty ▸ sockets ctx))
  · exact .inr (.inl ⟨handler, suspended member, runs⟩)
  · exact .inr (.inr (.inl (loading ctx loaded)))
  · exact .inr (.inr (.inr (.inl (alarming ctx alarmed))))
  · exact .inr (.inr (.inr (.inr (timer ctx armed))))

theorem perform_in_use (state : State) (act : Act)
    (used : (perform ctx state act).inUse other) : state.inUse other ∨ other = ctx := by
  by_cases here : other = ctx
  · exact .inr here
  · left
    rcases used with socket | ⟨handler, member, runs⟩ | loading | alarming | timer
    · left
      intro empty
      apply socket
      cases act with
      | accept ws => simpa [perform, Function.update_of_ne here] using empty
      | close ws code reason =>
          rw [List.eq_nil_iff_forall_not_mem]
          intro target member
          have before := close_sockets_subset state ws other member
          rw [empty] at before
          exact List.not_mem_nil before
      | _ => exact empty
    · refine .inr (.inl ?_)
      cases act with
      | suspend id await =>
          rcases List.mem_append.mp member with old | new
          · exact ⟨handler, old, runs⟩
          · rw [List.mem_singleton.mp new] at runs
            exact absurd runs.symm here
      | _ => exact ⟨handler, member, runs⟩
    · rw [perform_loading] at loading
      exact .inr (.inr (.inl loading))
    · rw [perform_alarming] at alarming
      exact .inr (.inr (.inr (.inl alarming)))
    · have kept : (perform ctx state act).timer other = state.timer other := by
        cases act <;> simp [perform, State.closeSocket, Function.update_of_ne here]
      rw [kept] at timer
      exact .inr (.inr (.inr (.inr timer)))

theorem Undivided.replayed (undivided : Undivided state) (script : List Act)
    (live : state.live = some ctx) : Undivided (replay ctx state script) := by
  have kept := Script.replay_invariant (perform ctx)
    (fun state => Undivided state ∧ state.live = some ctx) script
    (fun act _ state holds => by
      have live : (perform ctx state act).live = some ctx := (perform_live ..).trans holds.2
      refine ⟨fun other used => ?_, live⟩
      rw [live]
      rcases perform_in_use state act used with before | rfl
      · rw [← holds.2]
        exact holds.1 other before
      · rfl) state ⟨undivided, live⟩
  exact kept.1

-- Runtime.maybeEvict leaves it whole unless alarm() is under way.
theorem Undivided.evict (undivided : Undivided state)
    (awake : state.alarming = some ctx → evictable ctx state = false) :
    Undivided (maybeEvict ctx state) := by
  unfold maybeEvict
  split
  · rename_i idle
    obtain ⟨resident, idle⟩ := idle
    intro other used
    exfalso
    have same : other = ctx := by
      have registered := undivided other used
      rw [resident] at registered
      exact (Option.some.inj registered).symm
    subst same
    have quiet : state.alarming ≠ some other := by
      intro alarming
      rw [awake alarming] at idle
      exact Bool.noConfusion idle
    simp only [evictable, Bool.and_eq_true, List.isEmpty_iff, Option.isNone_iff_eq_none,
      List.all_eq_true, decide_eq_true_eq] at idle
    obtain ⟨⟨⟨empty, unarmed⟩, unpinned⟩, unloaded⟩ := idle
    rcases used with socket | ⟨handler, member, runs⟩ | loading | alarming | timer
    · exact socket empty
    · exact unpinned handler member runs
    · exact unloaded loading
    · exact quiet alarming
    · exact timer unarmed
  · exact undivided

theorem in_use_init {now : Nat} (used : (init now ctx state).inUse other) :
    state.inUse other ∨ other = ctx := by
  unfold init at used
  split at used
  · exact .inl used
  · split at used
    · rcases used with socket | suspended | loading | alarming | timer
      · exact .inl (.inl socket)
      · exact .inl (.inr (.inl suspended))
      · exact .inl (.inr (.inr (.inl loading)))
      · exact .inr (Option.some.inj alarming).symm
      · exact .inl (.inr (.inr (.inr (.inr timer))))
    · by_cases here : other = ctx
      · exact .inr here
      · left
        rcases used with socket | suspended | loading | alarming | timer
        · exact .inl socket
        · exact .inr (.inl suspended)
        · exact .inr (.inr (.inl loading))
        · exact .inr (.inr (.inr (.inl alarming)))
        · refine .inr (.inr (.inr (.inr ?_)))
          simpa only [Function.update_of_ne here] using timer

theorem init_alarming {now : Nat} (quiet : state.alarming = none)
    (alarming : (init now ctx state).alarming = some other) :
    other = ctx ∧ init now ctx state = { state with alarming := some ctx } := by
  unfold init at alarming ⊢
  split at alarming
  · cases quiet.symm.trans alarming
  · rename_i at_ row
    split at alarming
    · rename_i due
      exact ⟨(Option.some.inj alarming).symm, by rw [row]; exact if_pos due⟩
    · cases quiet.symm.trans alarming

theorem in_use_new {loading : Option ContextId}
    (only : ∀ loaded, loading = some loaded → loaded = ctx)
    (used : { newContext ctx state with loading := loading }.inUse other) :
    state.inUse other ∨ other = ctx := by
  by_cases here : other = ctx
  · exact .inr here
  · left
    rcases used with socket | suspended | loaded | alarming | timer
    · left
      simpa only [newContext, Function.update_of_ne here] using socket
    · exact .inr (.inl suspended)
    · exact absurd (only other loaded) here
    · exact .inr (.inr (.inr (.inl alarming)))
    · refine .inr (.inr (.inr (.inr ?_)))
      simpa only [newContext, Function.update_of_ne here] using timer

theorem unused_at_first (sockets : ∀ ctx, state.sockets ctx = []) (suspended : state.suspended = [])
    (loading : state.loading = none) (alarming : state.alarming = none)
    (timer : ∀ ctx, state.timer ctx = none) : ¬ state.inUse ctx := by
  rintro (socket | ⟨handler, member, _⟩ | loaded | alarmed | armed)
  · exact socket (sockets ctx)
  · rw [suspended] at member
    exact List.not_mem_nil member
  · cases loading.symm.trans loaded
  · cases alarming.symm.trans alarmed
  · exact armed (timer ctx)

end Parts

section Calls
variable {env : Env} {id now : Nat} {state : State} {named : Option String} {script : List Act}

theorem pinned_unevictable {ctx : ContextId} {handler : Suspended}
    (member : handler ∈ state.suspended) (runs : handler.ctx = ctx) :
    evictable ctx state = false := by
  rw [Bool.eq_false_iff]
  intro idle
  simp only [evictable, Bool.and_eq_true, List.all_eq_true, decide_eq_true_eq] at idle
  exact idle.1.2 handler member runs

theorem Refusing.suspends (refusing : Refusing id now state named script) :
    .throw ∈ script ∨ ∃ await, .suspend id await ∈ script := by
  induction refusing with
  | answers endpoint status error refused => exact .inr ⟨.responseTag, by simp [answer]⟩
  | throws => exact .inl (by simp)
  | waits await call => exact .inr ⟨await, by simp⟩
  | reads rest ih => simpa using ih
  | spends challenge given live rest ih => simpa using ih

theorem Granting.suspends (grants : Granting id script) : ∃ await, .suspend id await ∈ script := by
  obtain ⟨lead, endpoint, body, rfl, _⟩ := grants
  exact ⟨.responseTag, by simp [answer]⟩

theorem handleHttp_suspends (env : Env) (id now : Nat) (state : State) (random : Bytes)
    (request : Request) : .throw ∈ handleHttp env now state id random request ∨
      ∃ await, .suspend id await ∈ handleHttp env now state id random request := by
  have asked : request.endpoint = .attest ∨ request.endpoint = .register ∨
      request.endpoint = .delete → _ := handleHttp_outcome env id now state random request
  cases request with
  | challenge =>
      refine .inr ⟨.responseTag, ?_⟩
      simp only [handleHttp, handleAttestChallenge]
      split <;> simp [answer]
  | other => exact .inr ⟨.responseTag, by simp [handleHttp, answer]⟩
  | _ =>
      rcases asked (by simp [Request.endpoint]) with refusing | grants
      · exact refusing.suspends
      · exact .inr grants.suspends

theorem request_pinned {random : Bytes} {request : Request} {ctx : ContextId} {start : State}
    {fault : Option Nat} (whole : threw fault (handleHttp env now state id random request) = false) :
    evictable ctx (replay ctx start (handleHttp env now state id random request)) = false := by
  rcases handleHttp_suspends env id now state random request with throws | ⟨await, suspends⟩
  · have thrown : threw fault _ = true := Script.threw_of_mem _ _ throws rfl
    cases whole.symm.trans thrown
  · have member : (⟨id, ctx, await⟩ : Suspended) ∈
        (replay ctx start (handleHttp env now state id random request)).suspended := by
      rw [replay_suspended]
      apply List.mem_append_right
      exact List.mem_map.mpr ⟨(id, await), List.mem_filterMap.mpr ⟨_, suspends, rfl⟩, rfl⟩
    exact pinned_unevictable member rfl

end Calls

section Step
variable {env : Env} {state : State} {event : Event} {met : Turn}

theorem Turns.start_undivided (turns : Turns env state event met) (undivided : Undivided state)
    (free : state.busy event = false) (loyal : Loyal env state event) : Undivided met.start := by
  have same : ∀ ctx, state.sockets ctx ⊆ state.sockets ctx := fun _ => List.Subset.refl _
  have whole : state.suspended ⊆ state.suspended := List.Subset.refl _
  cases turns with
  | get now absent quiet =>
      intro ctx used
      rw [init_keeps]
      rcases in_use_init used with before | rfl
      · have only : ∀ loaded, some state.nextId = some loaded → loaded = state.nextId :=
          fun loaded same => (Option.some.inj same).symm
        rcases in_use_new only before with earlier | rfl
        · exact absurd ((undivided ctx earlier).symm.trans absent) (by simp)
        · rfl
      · rfl
  | connect now ws ctx resident unseen =>
      exact undivided.shrinks rfl same whole (by simp [State.enter]) (fun _ => id) (fun _ => id)
  | chunk ws frames tail attached hears upgraded quiet =>
      rw [hang_up_keeps]
      refine undivided.shrinks rfl ?_ whole (fun _ => id) (fun _ => id) (fun _ => id)
      intro ctx
      cases tail with
      | none => exact same ctx
      | closeFrame => exact close_sockets_subset _ ws ctx
      | protocolError => exact close_sockets_subset _ ws ctx
  | ended ws attached open_ quiet =>
      simp only [State.busy, Bool.or_eq_false_iff] at free
      have unalarmed : state.alarming = none := by simpa using free.1.2
      apply Undivided.evict
      · refine undivided.shrinks rfl ?_ whole (fun _ => id) (fun _ => id) (fun _ => id)
        intro ctx target member
        simp only [endSocket, State.push, Function.update_apply] at member
        split at member
        · rename_i home
          rw [home]
          exact (List.mem_filter.mp member).1
        · exact member
      · intro alarming
        have alarming : state.alarming = some _ := alarming
        simp [unalarmed] at alarming
  | idle now ws drained stopped =>
      exact undivided.shrinks rfl same whole (fun _ => id) (fun _ => id) (fun _ => id)
  | task now ws task rest drained free next =>
      cases task <;>
        exact undivided.shrinks rfl same whole (fun _ => id) (fun _ => id) (fun _ => id)
  | resume now id random fault handler found quiet =>
      exact undivided.shrinks rfl same (List.filter_subset_self _) (fun _ loaded => loaded)
        (fun _ alarmed => alarmed) (fun _ armed => armed)
  | request now request random fault ctx resident =>
      exact undivided.shrinks rfl same whole (by simp [State.enter]) (fun _ => id) (fun _ => id)
  | fire now ctx at_ fault armed due quiet =>
      refine undivided.shrinks rfl same whole (fun _ => id) (fun _ => id) fun other set => ?_
      simp only [alarmTurn, Function.update_apply] at set
      split at set
      · simp at set
      · exact set
  | alarm now ctx fault started =>
      exact undivided.shrinks rfl same whole (fun _ => id) (by simp [alarmTurn]) (fun _ => id)
  | drain ctx resident => exact undivided
  | restart now =>
      have loyal : ∀ at_ ∈ state.alarmRow, now < at_ := loyal
      have gone : ∀ ctx, ¬ State.inUse
          { state with
            live := none, sockets := fun _ => [], timer := fun _ => none, deaf := fun _ => true,
            ended := fun _ => true, chain := fun _ => [], suspended := [], draining := none,
            alarming := none, loading := none } ctx :=
        fun ctx => unused_at_first (fun _ => rfl) rfl rfl rfl (fun _ => rfl)
      unfold Relay.restart
      split
      · intro ctx used
        exact absurd used (gone ctx)
      · apply Undivided.evict
        · intro ctx used
          rw [init_keeps]
          rcases in_use_init used with before | rfl
          · have only : ∀ loaded, none = some loaded → loaded = state.nextId := fun _ same => by cases same
            rcases in_use_new only before with earlier | rfl
            · exact absurd earlier (gone ctx)
            · rfl
          · rfl
        · intro alarming
          exfalso
          unfold init at alarming
          split at alarming
          · cases alarming
          · rename_i at_ row
            have later := loyal at_ row
            rw [if_neg (by omega)] at alarming
            cases alarming

theorem evict_under_way (ctx : ContextId) (state : State) :
    (maybeEvict ctx state).alarming = state.alarming ∧
      (maybeEvict ctx state).draining = state.draining ∧
      (maybeEvict ctx state).loading = state.loading := by
  unfold maybeEvict
  split
  · exact ⟨rfl, rfl, rfl⟩
  · exact ⟨rfl, rfl, rfl⟩

theorem turn_under_way (turns : Turns env state event met) :
    met.result.alarming = met.start.alarming ∧ met.result.draining = met.start.draining ∧
      met.result.loading = met.start.loading := by
  have kept : (replay met.ctx met.start met.acts).alarming = met.start.alarming ∧
      (replay met.ctx met.start met.acts).draining = met.start.draining ∧
      (replay met.ctx met.start met.acts).loading = met.start.loading :=
    ⟨replay_alarming .., Script.replay_keeps _ State.draining _ (fun _ _ _ => perform_draining ..) _,
      Script.replay_keeps _ State.loading _ (fun _ _ _ => perform_loading ..) _⟩
  rw [Turn.result]
  rcases turns.finish_keeps (replay met.ctx met.start met.acts) with same | evicted
  · rwa [same]
  · rw [evicted, (evict_under_way _ _).1, (evict_under_way _ _).2.1, (evict_under_way _ _).2.2]
    exact kept

-- Only after a get() is an overdue alarm() under way together with the caller of the get(),
-- and never with a socket's chain.
theorem Turns.under_way (turns : Turns env state event met) (free : state.busy event = false)
    (apart : state.alarming = none ∨ state.draining = none) :
    (∃ now, event = .get now ∧ met.start.draining = none) ∨ met.start.alarming = none ∨
      (met.start.draining = none ∧ met.start.loading = none) := by
  cases turns with
  | get now absent quiet =>
      left
      refine ⟨now, rfl, ?_⟩
      simp only [State.busy, Bool.or_eq_false_iff] at free
      rw [init_keeps]
      have undrained : state.draining = none := by simpa using free.1.1
      exact undrained
  | connect now ws ctx resident unseen =>
      simp only [State.busy, Bool.or_eq_false_iff] at free
      have undrained : state.draining = none := by simpa using free.1
      exact .inr (.inr ⟨undrained, rfl⟩)
  | chunk ws frames tail attached hears upgraded quiet =>
      simp only [State.busy, Bool.or_eq_false_iff] at free
      rw [hang_up_keeps]
      have unalarmed : state.alarming = none := by simpa using free.1.2
      exact .inr (.inl unalarmed)
  | ended ws attached open_ quiet =>
      simp only [State.busy, Bool.or_eq_false_iff] at free
      rw [(evict_under_way _ _).1]
      have unalarmed : state.alarming = none := by simpa using free.1.2
      exact .inr (.inl unalarmed)
  | idle now ws drained stopped => exact .inr (.inl (apart.resolve_right (by simp [drained])))
  | task now ws task rest drained unproved next =>
      have unalarmed := apart.resolve_right (by simp [drained])
      cases task <;> exact .inr (.inl unalarmed)
  | resume now id random fault handler found quiet =>
      simp only [State.busy, Bool.or_eq_false_iff] at free
      have unalarmed : state.alarming = none := by simpa using free.1.2
      exact .inr (.inl unalarmed)
  | request now request random fault ctx resident =>
      simp only [State.busy, Bool.or_eq_false_iff] at free
      have undrained : state.draining = none := by simpa using free.1
      exact .inr (.inr ⟨undrained, rfl⟩)
  | fire now ctx at_ fault armed due quiet => exact .inr (.inl quiet)
  | alarm now ctx fault started => exact .inr (.inl rfl)
  | drain ctx resident =>
      simp only [State.busy, Bool.or_eq_false_iff] at free
      have unalarmed : state.alarming = none := by simpa using free.1.2
      exact .inr (.inl unalarmed)
  | restart now =>
      right
      right
      dsimp only [Relay.restart]
      split
      · exact ⟨rfl, rfl⟩
      · rw [(evict_under_way _ _).2.1, (evict_under_way _ _).2.2, init_keeps]
        exact ⟨rfl, rfl⟩

theorem apart_step (apart : state.alarming = none ∨ state.draining = none) :
    (step env state event).alarming = none ∨ (step env state event).draining = none := by
  rcases step_met env state event with ⟨_, same⟩ | ⟨met, turns, free, _, result⟩
  · rwa [same]
  rw [result, (turn_under_way turns).1, (turn_under_way turns).2.1]
  rcases turns.under_way free apart with ⟨now, _, undrained⟩ | unalarmed | ⟨undrained, _⟩
  · exact .inr undrained
  · exact .inl unalarmed
  · exact .inr undrained

theorem Turn.acts_idle (script : met.script = []) : met.acts = [] := by
  simp [Turn.acts, script, done, threw, Script.done, Script.threw]

theorem Turns.handled (turns : Turns env state event met) (undivided : Undivided state)
    (loyal : Loyal env state event) (busy : met.acts ≠ []) : met.start.live = some met.ctx := by
  have nothing : ∀ {met : Turn}, met.script = [] → met.acts ≠ [] → met.start.live = some met.ctx :=
    fun script busy => absurd (Turn.acts_idle script) busy
  cases turns with
  | get now absent quiet => exact nothing rfl busy
  | connect now ws ctx resident unseen => exact resident
  | chunk ws frames tail attached hears upgraded quiet => exact nothing rfl busy
  | ended ws attached open_ quiet => exact nothing rfl busy
  | idle now ws drained stopped => exact nothing rfl busy
  | task now ws task rest drained free next =>
      have closing : closePeerOf (state.home ws) (state.pop ws rest) ws ≠ [] →
          state.live = some (state.home ws) := by
        intro peers
        apply undivided
        left
        intro empty
        apply peers
        unfold closePeerOf
        split
        · simp [State.holders, State.pop, empty]
        · rfl
      cases task with
      | message frame random fault =>
          exact loyal ws (mem_handles.mpr ⟨drained, free, frame, random, fault, rest, next⟩)
      | closed =>
          apply closing
          intro empty
          exact busy (Turn.acts_idle empty)
      | errored =>
          apply closing
          intro empty
          exact busy (Turn.acts_idle empty)
  | resume now id random fault handler found quiet =>
      exact undivided handler.ctx (.inr (.inl ⟨handler, (mem_find found).1, rfl⟩))
  | request now request random fault ctx resident => exact resident
  | fire now ctx at_ fault armed due quiet =>
      exact undivided ctx (.inr (.inr (.inr (.inr (by simp [armed])))))
  | alarm now ctx fault started => exact undivided ctx (.inr (.inr (.inr (.inl started))))
  | drain ctx resident => exact resident
  | restart now => exact nothing rfl busy

theorem undivided_step (undivided : Undivided state)
    (apart : state.alarming = none ∨ state.draining = none) (loyal : Loyal env state event) :
    Undivided (step env state event) := by
  rcases step_met env state event with ⟨_, same⟩ | ⟨met, turns, free, _, result⟩
  · rwa [same]
  have start := turns.start_undivided undivided free loyal
  have handled := turns.handled undivided loyal
  have replayed : Undivided (replay met.ctx met.start met.acts) := by
    by_cases idle : met.acts = []
    · rw [idle]
      exact start
    · exact start.replayed met.acts (handled idle)
  -- maybeEvict at the end of the turn
  have quiet : met.start.alarming = none → Undivided met.result := by
    intro unalarmed
    rw [Turn.result]
    rcases turns.finish_keeps (replay met.ctx met.start met.acts) with same | evicted
    · rwa [same]
    · rw [evicted]
      apply replayed.evict
      intro alarming
      rw [replay_alarming, unalarmed] at alarming
      cases alarming
  rw [result]
  cases turns with
  | get => exact replayed
  | connect => exact replayed
  | chunk => exact replayed
  | ended => exact replayed
  | idle => exact replayed
  | drain => exact replayed
  | restart => exact replayed
  | task now ws task rest drained unproved next =>
      have unalarmed := apart.resolve_right (by simp [drained])
      apply quiet
      cases task <;> exact unalarmed
  | resume now id random fault handler found calm =>
      simp only [State.busy, Bool.or_eq_false_iff] at free
      have unalarmed : state.alarming = none := by simpa using free.1.2
      exact quiet unalarmed
  | fire now ctx at_ fault armed due unalarmed => exact quiet unalarmed
  | alarm now ctx fault started => exact quiet rfl
  | request now request random fault ctx resident =>
      rcases loyal with unalarmed | finished
      · exact quiet unalarmed
      · have whole : threw fault (handleHttp env now state.enter state.nextId random request)
            = false := by
          simpa only [cutShort, turn, free, quietTurn, resident, Option.map_some,
            Bool.false_eq_true, if_false] using finished
        apply replayed.evict
        intro _
        rw [Turn.acts_whole whole]
        exact request_pinned whole

end Step

section Cut
variable {id now : Nat} {state : State} {script rest : List Act}

/-- The scripts that set the alarm or suspend only when nothing that can throw is left. -/
inductive Sealed : List Act → Prop
  | calm {script : List Act}
      (safe : ∀ act ∈ script, act.isStorage = false ∧ act.isThrow = false) : Sealed script
  | arms (at_ : Nat) {rest : List Act}
      (safe : ∀ act ∈ rest, act.isStorage = false ∧ act.isThrow = false) :
      Sealed (.setAlarm at_ :: rest)
  | cons {act : Act} {rest : List Act} (plain : act.verb ≠ .setAlarm ∧ act.verb ≠ .suspend)
      (tail : Sealed rest) : Sealed (act :: rest)

-- A handler of this kind that throws has neither set the alarm nor suspended.
theorem Sealed.cut (sealed_ : Sealed script) {fault : Option Nat} (thrown : threw fault script = true)
    {act : Act} (member : act ∈ done fault script) : act.verb ≠ .setAlarm ∧ act.verb ≠ .suspend := by
  have finished : ∀ {fault : Option Nat} {script : List Act}, done fault script = script →
      threw fault script = true → False := by
    intro fault script whole thrown
    cases thrown.symm.trans (Script.not_threw_of_done _ _ whole)
  induction sealed_ generalizing fault with
  | calm safe => exact (finished (Script.done_safe _ _ fault _ safe) thrown).elim
  | arms at_ safe =>
      rcases Script.done_cons Act.isStorage Act.isThrow fault (.setAlarm at_) with stops | ⟨left, goes⟩
      · rw [done, stops] at member
        exact absurd member List.not_mem_nil
      · refine (finished ?_ thrown).elim
        rw [done, goes, Script.done_safe _ _ left _ safe]
  | @cons first rest plain tail ih =>
      rcases Script.done_cons Act.isStorage Act.isThrow fault first with stops | ⟨left, goes⟩
      · rw [done, stops] at member
        exact absurd member List.not_mem_nil
      · rw [done, goes] at member
        rcases List.mem_cons.mp member with rfl | later
        · exact plain
        · refine ih ?_ later
          by_contra calm
          rw [Bool.not_eq_true] at calm
          refine finished ?_ thrown
          rw [done, goes, Script.done_of_not_threw _ _ left rest calm]

theorem Sealed.append {verbs : List Verb} (fits : Within verbs script)
    (apart : Verb.setAlarm ∉ verbs ∧ Verb.suspend ∉ verbs) (tail : Sealed rest) :
    Sealed (script ++ rest) := by
  induction script with
  | nil => exact tail
  | cons act others ih =>
      rw [Within.cons_iff] at fits
      refine .cons ⟨fun same => apart.1 (same ▸ fits.1), fun same => apart.2 (same ▸ fits.1)⟩ ?_
      exact ih fits.2

theorem answer_sealed (endpoint : Endpoint) (status : Nat) (body : Body) :
    Sealed (answer id endpoint status body) :=
  .calm (by simp [answer, Act.isStorage, Act.isThrow])

theorem ensureAlarm_sealed (endpoint : Endpoint) (status : Nat) (body : Body) :
    Sealed (ensureAlarm now state ++ answer id endpoint status body) := by
  have answered : ∀ act ∈ answer id endpoint status body,
      act.isStorage = false ∧ act.isThrow = false := by simp [answer, Act.isStorage, Act.isThrow]
  unfold ensureAlarm
  refine .cons (by simp) ?_
  split
  · exact .arms _ answered
  · split
    · exact .arms _ answered
    · exact .calm answered

theorem Refusing.sealed {named : Option String} (refusing : Refusing id now state named script) :
    Sealed script := by
  induction refusing with
  | answers endpoint status error refused => exact answer_sealed ..
  | throws => exact .cons (by simp) (.calm (by simp))
  | waits await call => exact .calm (by simp [Act.isStorage, Act.isThrow])
  | reads rest ih => exact .cons (by simp) ih
  | spends challenge given live rest ih => exact .cons (by simp) ih

theorem writeVerifier_sealed (token verifier : String) :
    Sealed (writeVerifier now state id token verifier) := by
  have stored : Within [.deleteRegToken, .putVerifier, .putLastActivity]
      [.delete (.regToken token), .put (.verifier verifier), .put (.lastActivity now)] := by simp
  have armed : Sealed (ensureAlarm now state ++ answer id .register 200 .ok) :=
    ensureAlarm_sealed ..
  simpa [writeVerifier, bumpActivity] using Sealed.append stored (by simp) armed

theorem handleRegister_sealed (env : Env) (body : Option Json) :
    Sealed (handleRegister env now state id body) := by
  have refused : ∀ status message, Sealed (answer id .register status (.error message)) :=
    fun status message => answer_sealed ..
  have throws : Sealed [.throw] := .cons (by simp) (.calm (by simp))
  unfold handleRegister
  dsimp only
  split
  · exact refused _ _
  · split
    · exact throws
    · exact throws
    · exact refused _ _
    · refine .cons (by simp) ?_
      split
      · exact refused _ _
      · split
        · exact refused _ _
        · refine .cons (by simp) ?_
          split
          · exact refused _ _
          · split
            · exact refused _ _
            · split
              · exact writeVerifier_sealed ..
              · split
                · exact refused _ _
                · split
                  · refine .cons (by simp) ?_
                    split
                    · refine .cons (by simp) ?_
                      split
                      · exact throws
                      · exact .calm (by simp [Act.isStorage, Act.isThrow])
                    · exact refused _ _
                  · exact refused _ _

theorem handleHttp_sealed (env : Env) (random : Bytes) (request : Request) :
    Sealed (handleHttp env now state id random request) := by
  cases request with
  | challenge =>
      simp only [handleHttp, handleAttestChallenge]
      refine Sealed.append (?_ : Within [.read, .deleteChallenge] _) (by simp) ?_
      · exact Within.cons_iff.mpr ⟨by simp, Within.map_of (by simp)⟩
      split
      · exact answer_sealed ..
      · exact .cons (by simp) (ensureAlarm_sealed ..)
  | attest body => exact (handleAttest_refusing env body).sealed
  | register body => exact handleRegister_sealed env body
  | delete body => exact (handleDelete_refusing env body).sealed
  | other => exact answer_sealed ..

end Cut

section Converse
variable {env : Env} {state : State} {event : Event} {met : Turn}

/-- Nothing keeps the context in memory. -/
structure Bare (ctx : ContextId) (state : State) : Prop where
  empty : state.sockets ctx = []
  unarmed : state.timer ctx = none
  unpinned : ∀ handler ∈ state.suspended, handler.ctx ≠ ctx

theorem Bare.perform {ctx : ContextId} {act : Act} (bare : Bare ctx state)
    (plain : act.verb ∉ [.accept, .suspend, .setAlarm, .rearm]) :
    Bare ctx (perform ctx state act) := by
  cases act with
  | accept ws => exact absurd (by simp) plain
  | suspend id await => exact absurd (by simp) plain
  | setAlarm at_ => exact absurd (by simp) plain
  | rearm at_ => exact absurd (by simp) plain
  | close ws code reason =>
      refine ⟨?_, bare.unarmed, bare.unpinned⟩
      have fewer := close_sockets_subset state ws ctx
      rw [bare.empty] at fewer
      exact List.subset_nil.mp fewer
  | deleteAlarm => exact ⟨bare.empty, by simp [Relay.perform], bare.unpinned⟩
  | _ => exact ⟨bare.empty, bare.unarmed, bare.unpinned⟩

theorem Bare.evicted {ctx : ContextId} (bare : Bare ctx state) (unloaded : state.loading = none)
    (resident : state.live = some ctx) : (maybeEvict ctx state).live = none := by
  have idle : evictable ctx state = true := by
    simpa [evictable, bare.empty, bare.unarmed, unloaded] using bare.unpinned
  simp [maybeEvict, resident, idle]

/-- The context of an overdue alarm() whose get() is still to return has nothing yet. -/
def Newborn (state : State) : Prop :=
  ∀ ctx, state.alarming = some ctx → state.loading.isSome = true →
    Bare ctx state

theorem newborn_step (undivided : Undivided state)
    (apart : state.alarming = none ∨ state.draining = none) (newborn : Newborn state) :
    Newborn (step env state event) := by
  rcases step_met env state event with ⟨_, same⟩ | ⟨met, turns, free, _, result⟩
  · rwa [same]
  intro ctx alarming loading
  rw [result] at alarming loading ⊢
  rw [(turn_under_way turns).1] at alarming
  rw [(turn_under_way turns).2.2] at loading
  rcases turns.under_way free apart with ⟨now, rfl, _⟩ | unalarmed | ⟨_, unloaded⟩
  · cases turns with
    | get now absent quiet =>
        simp only [Turn.result, Turn.acts, done, threw, Script.done, Script.threw, id_eq,
          Bool.false_eq_true, if_false, List.append_nil, replay_nil]
        have unused : ∀ ctx, ¬ state.inUse ctx := by
          intro ctx used
          cases (undivided ctx used).symm.trans absent
        obtain ⟨rfl, started⟩ := init_alarming (by exact quiet) alarming
        rw [started]
        refine ⟨by simp [newContext], by simp [newContext], ?_⟩
        exact fun handler member runs => unused _ (.inr (.inl ⟨handler, member, runs⟩))
  · cases unalarmed.symm.trans alarming
  · rw [unloaded] at loading
    cases loading

theorem handleHello_acts (ws : SocketId) (random : Bytes) (frame : Frame) :
    handleHello env state ws random frame ≠ [] := by
  unfold handleHello
  split
  · split
    · dsimp only
      split
      · split <;> simp
      · simp
    · simp
    · simp
  · simp

theorem webSocketMessage_acts (now : Nat) (ctx : ContextId) (id : Nat) (ws : SocketId)
    (random : Bytes) (frame : Frame) :
    webSocketMessage env now ctx state id ws random frame ≠ [] := by
  unfold webSocketMessage
  split
  · simp
  · split
    · exact handleHello_acts ws random frame
    · exact handleHello_acts ws random frame
    · simp [handleProof]
    · simp [spliceFrame]

theorem Turn.acts_some (script : met.script ≠ []) (caught : met.onThrow ≠ []) : met.acts ≠ [] := by
  intro idle
  obtain ⟨performed, handled⟩ := List.append_eq_nil_iff.mp idle
  cases thrown : threw met.fault met.script with
  | true =>
      rw [thrown] at handled
      exact caught handled
  | false =>
      have whole : done met.fault met.script = met.script :=
        Script.done_of_not_threw _ _ _ _ thrown
      exact script (whole.symm.trans performed)

theorem restart_evicts {now at_ : Nat} (row : state.alarmRow = some at_) (due : at_ ≤ now) :
    (step env state (.restart now)).live = none ∧
      (step env state (.restart now)).alarming = some state.nextId := by
  have stepped : step env state (.restart now) = restart now state := rfl
  rw [stepped]
  unfold Relay.restart
  rw [if_neg (by simp [row]), (evict_under_way _ _).1]
  simp only [init, newContext, row, if_pos due]
  refine ⟨Bare.evicted ⟨by simp, by simp, by simp⟩ rfl rfl, trivial⟩

theorem request_unarmed (env : Env) (request : Request) : Verb.rearm ∉ request.verbs env := by
  cases request with
  | register body => cases required : attestationRequired env <;> simp [required]
  | _ => simp

-- A call that throws while its context's overdue alarm() is under way evicts the context.
theorem request_evicts {now : Nat} {request : Request} {random : Bytes} {fault : Option Nat}
    {ctx : ContextId} (resident : state.live = some ctx) (newborn : Newborn state)
    (alarming : state.alarming = some ctx)
    (thrown : cutShort env state (.request now request random fault) = true) :
    (step env state (.request now request random fault)).live = none ∧
      (step env state (.request now request random fault)).alarming = some ctx := by
  have free : state.busy (.request now request random fault) = false := by
    by_contra held
    rw [Bool.not_eq_false] at held
    simp [cutShort, turn, held] at thrown
  obtain ⟨met, happens, start, here, script, fails, finish⟩ : ∃ met : Turn,
      turn env state (.request now request random fault) = some met ∧ met.start = state.enter ∧
        met.ctx = ctx ∧ met.script = handleHttp env now state.enter state.nextId random request ∧
        Within [.reply] met.onThrow ∧ met.finish = maybeEvict ctx := by
    refine ⟨{ ctx := ctx
              start := state.enter
              script := handleHttp env now state.enter state.nextId random request
              fault := fault
              onThrow := [.reply state.nextId request.endpoint 500 (.error "internal error")]
              finish := maybeEvict ctx }, ?_, rfl, rfl, rfl, by simp, rfl⟩
    simp only [turn, free, quietTurn, resident, Option.map_some, Bool.false_eq_true, if_false]
  have cut : threw met.fault met.script = true := by simpa [cutShort, happens] using thrown
  simp only [State.busy, alarming, Option.isSome_some, Bool.true_and, Bool.or_eq_false_iff] at free
  have entered : Bare ctx met.start := by
    obtain ⟨empty, unarmed, unpinned⟩ := newborn ctx alarming (by simpa using free.2)
    rw [start]
    exact ⟨empty, unarmed, unpinned⟩
  have fits : Within (request.verbs env) met.script := by
    rw [script]
    exact handleHttp_within ..
  have bare : Bare ctx (replay ctx met.start met.acts) := by
    refine Script.replay_invariant (perform ctx) _ _ (fun act member other bare => ?_) _ entered
    apply bare.perform
    rcases List.mem_append.mp member with ran | caught
    · have sealed_ : Sealed met.script := by
        rw [script]
        exact handleHttp_sealed ..
      obtain ⟨unset, rests⟩ := sealed_.cut cut ran
      have verb := fits.each act (Script.done_subset _ _ ran)
      simp only [List.mem_cons, List.not_mem_nil, or_false, not_or]
      refine ⟨fun accepts => ?_, rests, unset, fun rearms => ?_⟩
      · exact (request_plain env request).1 (List.mem_append_right _ (accepts ▸ verb))
      · exact request_unarmed env request (rearms ▸ verb)
    · rw [cut, if_pos rfl] at caught
      have verb := fails.each act caught
      rw [List.mem_singleton.mp verb]
      simp
  have stepped : step env state (.request now request random fault) = met.result := by
    rw [step, happens]
  rw [stepped, (turn_under_way (turn_turns happens)).1, start]
  refine ⟨?_, alarming⟩
  rw [Turn.result, finish, here]
  apply bare.evicted
  · rw [Script.replay_keeps _ State.loading _ (fun _ _ _ => perform_loading ..) _, start]
    rfl
  · rw [replay_live, start]
    exact resident

-- A step that leaves the registry whole is admissible.
theorem loyal_of_whole (undivided : Undivided state)
    (newborn : Newborn state) (after : Undivided (step env state event))
    (handled : ∀ met, turn env state event = some met → met.acts ≠ [] →
      met.start.live = some met.ctx) : Loyal env state event := by
  cases event with
  | restart now =>
      intro at_ row
      by_contra due
      obtain ⟨gone, left⟩ := restart_evicts row (by omega : at_ ≤ now)
      have registered := after _ (.inr (.inr (.inr (.inl left))))
      cases gone.symm.trans registered
  | run now =>
      intro ws member
      obtain ⟨drained, free, frame, random, fault, rest, next⟩ := mem_handles.mp member
      have happens : turn env state (.run now) = some (taskTurn env now
          (state.pop ws rest) ws state.nextId (.message frame random fault)) := by
        simp [turn, State.busy, quietTurn, drained, runTurn, free, next]
      have script : (taskTurn env now (state.pop ws rest) ws state.nextId
          (.message frame random fault)).script ≠ [] :=
        webSocketMessage_acts now _ _ ws random frame
      exact handled _ happens (Turn.acts_some script (by simp [taskTurn]))
  | request now request random fault =>
      by_contra disloyal
      obtain ⟨alarming, thrown⟩ := not_or.mp disloyal
      obtain ⟨ctx, alarming⟩ := Option.ne_none_iff_exists'.mp alarming
      rw [Bool.not_eq_false] at thrown
      have resident : state.live = some ctx := undivided ctx (.inr (.inr (.inr (.inl alarming))))
      obtain ⟨gone, left⟩ := request_evicts resident newborn alarming thrown
      have registered := after ctx (.inr (.inr (.inr (.inl left))))
      cases gone.symm.trans registered
  | _ => trivial

/-- What the steps of a run keep as long as the registry is whole. -/
structure Kept (state : State) : Prop where
  undivided : Undivided state
  apart : state.alarming = none ∨ state.draining = none
  newborn : Newborn state

theorem kept_initially : Kept initial where
  undivided _ used := absurd used (unused_at_first (fun _ => rfl) rfl rfl rfl (fun _ => rfl))
  apart := .inl rfl
  newborn := fun _ alarming => by cases alarming

theorem Kept.step (kept : Kept state) (loyal : Loyal env state event) :
    Kept (step env state event) where
  undivided := undivided_step kept.undivided kept.apart loyal
  apart := apart_step kept.apart
  newborn := newborn_step kept.undivided kept.apart kept.newborn

/-- The registry is whole in every state of a run, and every handler runs in the registered
context, exactly when each step of the run is admissible. -/
theorem no_split_brain (env : Env) (events : List Event) :
    NoSplitBrain env events ↔ ∀ met ∈ steps env events, Loyal env met.1 met.2 := by
  constructor
  · intro whole met member
    have registered := (Machine.states_iff (Relay.step env) Undivided initial events).mp
      whole.registered
    have kept := Machine.steps_invariant (Relay.step env)
      (fun state => (state.alarming = none ∨ state.draining = none) ∧ Newborn state)
      (fun state _ => Undivided state)
      (fun _ _ kept undivided => ⟨apart_step kept.1, newborn_step undivided kept.1 kept.2⟩)
      initial ⟨kept_initially.apart, kept_initially.newborn⟩ events registered.1 met member
    obtain ⟨earlier, later, split, reached⟩ := Machine.steps_mem _ _ _ met member
    have after : Undivided (Relay.step env met.1 met.2) := by
      have next : Undivided (Machine.run (Relay.step env) initial (earlier ++ [met.2])) :=
        whole.registered _ ⟨later, by simp [split]⟩
      rwa [Machine.run_append, ← reached] at next
    exact loyal_of_whole (registered.1 met member) kept.2 after (whole.handled met member)
  · intro loyal
    have kept := Machine.steps_invariant (Relay.step env) Kept (Loyal env)
      (fun _ _ kept loyal => kept.step loyal) initial kept_initially events loyal
    have last := Machine.run_invariant (Relay.step env) Kept (Loyal env)
      (fun _ _ kept loyal => kept.step loyal) initial kept_initially events loyal
    have registered := (Machine.states_iff (Relay.step env) Undivided initial events).mpr
      ⟨fun met member => (kept met member).undivided, last.undivided⟩
    refine ⟨registered, ?_, ?_, ?_⟩
    · intro lead short first second one two
      have same := (registered lead short first one).symm.trans (registered lead short second two)
      exact Option.some.inj same
    · intro met member turned happens busy
      exact (turn_turns happens).handled (kept met member).undivided (loyal met member) busy
    · intro lead short ctx away
      by_contra armed
      exact away (registered lead short ctx (.inr (.inr (.inr (.inr armed)))))

/-- A room with a live challenge, and a boot when its alarm is overdue. -/
def overdueBoot : List Event :=
  [.get 1] ++ joins 1 0 1 macHello openProof [1] ++ asks 1 4 .challenge [10] 1 ++
    [.restart 20000, .alarm 20000 none]

-- rehydrate() evicts the context, and its alarm() arms the timer of the evicted context.
theorem evicted_timer_armed : ¬ NoSplitBrain (sampleEnv true) overdueBoot := by
  intro whole
  have evicted : (run (sampleEnv true) overdueBoot).live = none := by decide +kernel
  have armed : (run (sampleEnv true) overdueBoot).timer 5 = some 35000 := by decide +kernel
  have unarmed := whole.lapsed overdueBoot List.prefix_rfl 5 (by simp [evicted])
  cases armed.symm.trans unarmed

end Converse

end Relay

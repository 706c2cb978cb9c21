import CompanionRelay.Machine
import Mathlib.Algebra.Ring.Int.Defs
import Mathlib.Data.List.Infix
import Mathlib.Data.List.Nodup
import Mathlib.Order.Nat

/-!
host/runtime.js: the timer of one RoomContext, as _reschedule, _armTimer, _fire and _dispose
keep it, and what Runtime does to it when it evicts the context or shuts down. Beside the
fields stand what the timer service holds and a record of what has happened: the alarms that
were set, those that were replaced or cancelled, the delays asked for and the starts of
alarm(). What alarm() does until its first await is, like all it does later, an event after
its start.
-/

namespace Relay
namespace AlarmTimer

def MAX_DELAY : Int := 2 ^ 31 - 1

def ALARM_RETRY_MS : Int := 30 * 1000

/-- An alarm that was set: the place it has among those, its time and when it was set. -/
structure Alarm where
  id : Nat
  at_ : Int
  since : Int
  deriving DecidableEq

/-- What setTimeout was called with, and when. -/
structure Timer where
  id : Nat
  since : Int
  delay : Int
  deriving DecidableEq

structure Context where
  timer : Option Nat := none
  alarmAt : Option Alarm := none
  sockets : Nat := 0
  pending : Nat := 0
  -- whether the registry of the runtime holds the context, and the runtime is shut down
  registered : Bool := true
  closed : Bool := false
  -- the alarm() runs that have not ended
  runs : Nat := 0
  held : List Timer := []
  timers : Nat := 0
  alarms : Nat := 0
  replaced : List Alarm := []
  asked : List (Option Alarm × Int) := []
  started : List (Option Alarm × Int) := []

namespace Context

def clearTimeout (ctx : Context) (id : Nat) : Context :=
  { ctx with held := ctx.held.filter (·.id ≠ id) }

def setTimeout (ctx : Context) (now delay : Int) : Context :=
  { ctx with
    held := ctx.held ++ [⟨ctx.timers, now, delay⟩]
    timers := ctx.timers + 1
    timer := some ctx.timers
    asked := ctx.asked ++ [(ctx.alarmAt, delay)] }

def dispose (ctx : Context) : Context :=
  match ctx.timer with
  | some id => { ctx.clearTimeout id with timer := none }
  | none => ctx

/-- _fire up to the start of alarm(). -/
def fire (ctx : Context) (now : Int) : Context :=
  if ctx.closed then { ctx with timer := none }
  else
    { ctx with
      timer := none
      alarmAt := none
      runs := ctx.runs + 1
      started := ctx.started ++ [(ctx.alarmAt, now)] }

def armTimer (ctx : Context) (now : Int) : Context :=
  -- null counts as 0 in the subtraction
  let remaining := (ctx.alarmAt.elim 0 Alarm.at_) - now
  if remaining ≤ 0 then ctx.fire now else ctx.setTimeout now (min remaining MAX_DELAY)

/-- _alarmAt = at, with what that replaces. -/
def pend (ctx : Context) (now : Int) (at_ : Option Int) : Context :=
  { ctx with
    alarmAt := at_.map fun time => ⟨ctx.alarms, time, now⟩
    alarms := ctx.alarms + 1
    replaced := ctx.replaced ++ ctx.alarmAt.toList }

def reschedule (ctx : Context) (now : Int) (at_ : Option Int) : Context :=
  let cleared := ctx.dispose
  if cleared.closed then cleared
  else if at_.isNone then cleared.pend now at_
  else (cleared.pend now at_).armTimer now

def idle (ctx : Context) : Bool := ctx.sockets = 0 && ctx.alarmAt.isNone && ctx.pending = 0

def evict (ctx : Context) : Context :=
  if ctx.registered then { ctx.dispose with registered := false } else ctx

def maybeEvict (ctx : Context) : Context := if ctx.idle then ctx.evict else ctx

/-- The rest of _fire, when alarm() has returned or thrown. -/
def settle (ctx : Context) (now : Int) (threw : Bool) : Context :=
  let ended := { ctx with runs := ctx.runs - 1 }
  (if threw then ended.reschedule now (some (now + ALARM_RETRY_MS)) else ended).maybeEvict

def shutdown (ctx : Context) : Context :=
  { (if ctx.registered then ctx.dispose else ctx) with closed := true, registered := false }

end Context

/-- What happens to a context: a setAlarm or deleteAlarm on its storage, by alarm() or by any
other handler; a timer that calls back; the end of a run of alarm(); sockets and handlers that
come and go; a maybeEvict of the rest of the runtime; its shutdown. -/
inductive Event
  | alarmChange (now : Int) (at_ : Option Int)
  | callback (now : Int) (id : Nat)
  | settles (now : Int) (threw : Bool)
  | load (sockets pending : Nat)
  | maybeEvict
  | shutdown

/-- The timer service calls back a timer it holds, and no earlier than asked. -/
def due (ctx : Context) (now : Int) (id : Nat) : Bool :=
  ctx.held.any fun timer => timer.id = id && timer.since + timer.delay ≤ now

def step (ctx : Context) : Event → Context
  | .alarmChange now at_ => ctx.reschedule now at_
  | .callback now id => if due ctx now id then (ctx.clearTimeout id).armTimer now else ctx
  | .settles now threw => if ctx.runs = 0 then ctx else ctx.settle now threw
  | .load sockets pending => { ctx with sockets := sockets, pending := pending }
  | .maybeEvict => ctx.maybeEvict
  | .shutdown => ctx.shutdown

abbrev running : Context → List Event → Context := Machine.run step

abbrev met : Context → List Event → List (Context × Event) := Machine.steps step

/-- The alarm that an event sets. -/
def sets (ctx : Context) : Event → Option Alarm
  | .alarmChange now (some at_) => if ctx.closed then none else some ⟨ctx.alarms, at_, now⟩
  | .settles now true =>
      if ctx.runs = 0 ∨ ctx.closed then none else some ⟨ctx.alarms, now + ALARM_RETRY_MS, now⟩
  | _ => none

/-- An event that neither sets nor cancels an alarm, nor shuts down. -/
def quiet : Event → Bool
  | .alarmChange _ _ | .settles _ true | .shutdown => false
  | _ => true

/-- Whether the timer service calls back. -/
def served (step : Context × Event) : Bool :=
  match step.2 with
  | .callback now id => due step.1 now id
  | _ => false

section Invariant
variable {ctx : Context} {now : Int} {alarm : Alarm}

/-- How often setTimeout was called for an alarm. -/
def Context.hops (ctx : Context) (alarm : Alarm) : Nat := ctx.asked.countP (·.1 = some alarm)

/-- The record of a context: each alarm that has started was pending before, and no other is
started or replaced twice. -/
structure Recorded (ctx : Context) : Prop where
  known : ∀ alarm, ctx.alarmAt = some alarm ∨ alarm ∈ ctx.replaced ∨
    some alarm ∈ ctx.started.map Prod.fst ∨ some alarm ∈ ctx.asked.map Prod.fst →
      alarm.id < ctx.alarms
  fresh : ∀ alarm, ctx.alarmAt = some alarm →
    some alarm ∉ ctx.started.map Prod.fst ∧ alarm ∉ ctx.replaced
  punctual : ∀ start ∈ ctx.started, ∃ alarm, start.1 = some alarm ∧ alarm.at_ ≤ start.2
  once : (ctx.started.map Prod.fst).Nodup
  dropped : ∀ alarm ∈ ctx.replaced, some alarm ∉ ctx.started.map Prod.fst
  delays : ∀ asked ∈ ctx.asked, 0 < asked.2 ∧ asked.2 ≤ MAX_DELAY
  hops : ∀ alarm before, ctx.hops alarm = before + 1 → before * MAX_DELAY < alarm.at_ - alarm.since

/-- The timer that is armed for the pending alarm: its delay is what remains, or the longest
there is, and each hop before took that long. -/
structure Hop (ctx : Context) (timer : Timer) (alarm : Alarm) : Prop where
  held : ctx.held = [timer]
  handle : ctx.timer = some timer.id
  pending : ctx.alarmAt = some alarm
  positive : 0 < timer.delay
  delay : timer.delay = min (alarm.at_ - timer.since) MAX_DELAY
  gone : ∃ before, ctx.hops alarm = before + 1 ∧ before * MAX_DELAY ≤ timer.since - alarm.since

structure Kept (ctx : Context) : Prop where
  recorded : Recorded ctx
  timing : ctx.held = [] ∧ ctx.timer = none ∨ ∃ timer alarm, Hop ctx timer alarm
  waiting : ctx.closed = false → ∀ alarm, ctx.alarmAt = some alarm → ctx.held ≠ []

/-- A pending alarm without a timer, as _armTimer finds it. -/
structure Arming (ctx : Context) (now : Int) (alarm : Alarm) : Prop where
  recorded : Recorded ctx
  held : ctx.held = []
  pending : ctx.alarmAt = some alarm
  gone : now < alarm.at_ → ctx.hops alarm * MAX_DELAY ≤ now - alarm.since

theorem dispose_held (kept : Kept ctx) : ctx.dispose.held = [] ∧ ctx.dispose.timer = none := by
  rcases kept.timing with ⟨nothing, handle⟩ | ⟨timer, alarm, hop⟩
  · simp [Context.dispose, handle, nothing]
  · simp [Context.dispose, Context.clearTimeout, hop.handle, hop.held]

theorem dispose_rest (ctx : Context) :
    ctx.dispose = { ctx with held := ctx.dispose.held, timer := ctx.dispose.timer } := by
  unfold Context.dispose
  cases ctx.timer <;> rfl

theorem fire_kept (arming : Arming ctx now alarm) (reached : alarm.at_ ≤ now) :
    Kept (ctx.fire now) := by
  obtain ⟨recorded, held, pending, _⟩ := arming
  obtain ⟨unstarted, unreplaced⟩ := recorded.fresh alarm pending
  unfold Context.fire
  cases closed : ctx.closed with
  | true =>
      rw [if_pos rfl]
      exact ⟨⟨recorded.known, recorded.fresh, recorded.punctual, recorded.once, recorded.dropped,
        recorded.delays, recorded.hops⟩, .inl ⟨held, rfl⟩, fun open_ => by simp at open_⟩
  | false =>
      rw [if_neg (by simp)]
      refine ⟨⟨?_, by simp, ?_, ?_, ?_, recorded.delays, recorded.hops⟩, .inl ⟨held, rfl⟩, by simp⟩
      · intro other there
        apply recorded.known
        simp only [reduceCtorEq, false_or, List.map_append, List.map_singleton, List.mem_append,
          List.mem_singleton, pending, Option.some.injEq] at there ⊢
        rcases there with replaced | (started | same) | asked
        · exact .inr (.inl replaced)
        · exact .inr (.inr (.inl started))
        · exact .inl same.symm
        · exact .inr (.inr (.inr asked))
      · intro start member
        rcases List.mem_append.mp member with before | last
        · exact recorded.punctual start before
        · rw [List.mem_singleton.mp last]
          exact ⟨alarm, pending, reached⟩
      · rw [List.map_append, List.map_singleton, pending]
        exact List.nodup_append.mpr ⟨recorded.once, List.nodup_singleton _, by
          intro first before second last same
          obtain rfl : first = some alarm := same.trans (List.mem_singleton.mp last)
          exact unstarted before⟩
      · intro other replaced there
        rw [List.map_append, List.map_singleton, pending, List.mem_append,
          List.mem_singleton] at there
        rcases there with before | same
        · exact recorded.dropped other replaced before
        · exact unreplaced (Option.some.inj same ▸ replaced)

theorem hops_setTimeout (pending : ctx.alarmAt = some alarm) (now delay : Int) (other : Alarm) :
    (ctx.setTimeout now delay).hops other = ctx.hops other + if other = alarm then 1 else 0 := by
  unfold Context.hops Context.setTimeout
  rw [List.countP_append, List.countP_singleton, pending]
  simp [eq_comm]

theorem setTimeout_hop (arming : Arming ctx now alarm) (early : now < alarm.at_) :
    Hop (ctx.setTimeout now (min (alarm.at_ - now) MAX_DELAY))
      ⟨ctx.timers, now, min (alarm.at_ - now) MAX_DELAY⟩ alarm := by
  have limit : 0 < MAX_DELAY := by decide
  refine ⟨?_, rfl, arming.pending, ?_, rfl, ctx.hops alarm, ?_, arming.gone early⟩
  · simp [Context.setTimeout, arming.held]
  · change 0 < min (alarm.at_ - now) MAX_DELAY
    omega
  · rw [hops_setTimeout arming.pending, if_pos rfl]

theorem setTimeout_kept (arming : Arming ctx now alarm) (early : now < alarm.at_) :
    Kept (ctx.setTimeout now (min (alarm.at_ - now) MAX_DELAY)) := by
  have hop := setTimeout_hop arming early
  obtain ⟨recorded, _, pending, gone⟩ := arming
  have gone := gone early
  refine ⟨⟨?_, recorded.fresh, recorded.punctual, recorded.once, recorded.dropped, ?_, ?_⟩,
    .inr ⟨_, alarm, hop⟩, fun _ _ _ => by simp [hop.held]⟩
  · intro other there
    apply recorded.known
    simp only [Context.setTimeout, List.map_append, List.map_singleton, List.mem_append,
      List.mem_singleton, pending, Option.some.injEq] at there ⊢
    rcases there with same | replaced | started | asked | same
    · exact .inl same
    · exact .inr (.inl replaced)
    · exact .inr (.inr (.inl started))
    · exact .inr (.inr (.inr asked))
    · exact .inl same.symm
  · intro asked member
    rcases List.mem_append.mp member with before | last
    · exact recorded.delays asked before
    · rw [List.mem_singleton.mp last]
      exact ⟨hop.positive, Int.min_le_right _ _⟩
  · intro other before total
    rw [hops_setTimeout pending] at total
    by_cases same : other = alarm
    · subst same
      rw [if_pos rfl] at total
      have count : ctx.hops other = before := by omega
      rw [count] at gone
      omega
    · rw [if_neg same] at total
      exact recorded.hops other before total

theorem armTimer_kept (arming : Arming ctx now alarm) : Kept (ctx.armTimer now) := by
  unfold Context.armTimer
  rw [arming.pending]
  dsimp only [Option.elim]
  by_cases reached : alarm.at_ - now ≤ 0
  · rw [if_pos reached]
    exact fire_kept arming (by omega)
  · rw [if_neg reached]
    exact setTimeout_kept arming (by omega)

theorem hops_fresh (recorded : Recorded ctx) (fresh : ctx.alarms ≤ alarm.id) :
    ctx.hops alarm = 0 := by
  apply List.countP_eq_zero.mpr
  intro asked member same
  have inside : some alarm ∈ ctx.asked.map Prod.fst :=
    List.mem_map.mpr ⟨asked, member, of_decide_eq_true same⟩
  have known := recorded.known alarm (.inr (.inr (.inr inside)))
  omega

theorem dispose_kept (kept : Kept ctx) : Recorded ctx.dispose := by
  obtain ⟨⟨known, fresh, punctual, once, dropped, delays, hops⟩, _, _⟩ := kept
  rw [dispose_rest]
  exact ⟨known, fresh, punctual, once, dropped, delays, hops⟩

theorem Recorded.pend (recorded : Recorded ctx) (now : Int) (at_ : Option Int) :
    Recorded (ctx.pend now at_) := by
  refine ⟨?_, ?_, recorded.punctual, recorded.once, ?_, recorded.delays, recorded.hops⟩
  · intro other there
    change other.id < ctx.alarms + 1
    simp only [Context.pend, List.mem_append, Option.mem_toList, Option.map_eq_some_iff] at there
    rcases there with ⟨_, _, rfl⟩ | (before | pending) | others
    · exact Nat.lt_succ_self _
    · exact Nat.lt_succ_of_lt (recorded.known other (.inr (.inl before)))
    · exact Nat.lt_succ_of_lt (recorded.known other (.inl pending))
    · exact Nat.lt_succ_of_lt (recorded.known other (.inr (.inr others)))
  · intro other same
    simp only [Context.pend, Option.map_eq_some_iff] at same
    obtain ⟨time, rfl, rfl⟩ := same
    constructor
    · intro started
      exact absurd (recorded.known _ (.inr (.inr (.inl started)))) (Nat.lt_irrefl _)
    · intro there
      rcases List.mem_append.mp there with before | pending
      · exact absurd (recorded.known _ (.inr (.inl before))) (Nat.lt_irrefl _)
      · exact absurd (recorded.known _ (.inl (Option.mem_toList.mp pending))) (Nat.lt_irrefl _)
  · intro other there
    rcases List.mem_append.mp there with before | pending
    · exact recorded.dropped other before
    · exact (recorded.fresh other (Option.mem_toList.mp pending)).1

theorem Recorded.arming (recorded : Recorded ctx) (held : ctx.held = []) (now time : Int) :
    Arming (ctx.pend now (some time)) now ⟨ctx.alarms, time, now⟩ := by
  refine ⟨recorded.pend now (some time), held, rfl, fun _ => ?_⟩
  have unasked : ctx.hops ⟨ctx.alarms, time, now⟩ = 0 := hops_fresh recorded (Nat.le_refl _)
  change (ctx.hops ⟨ctx.alarms, time, now⟩ : Int) * MAX_DELAY ≤ now - now
  rw [unasked]
  omega

theorem reschedule_kept (kept : Kept ctx) (now : Int) (at_ : Option Int) :
    Kept (ctx.reschedule now at_) := by
  obtain ⟨held, handle⟩ := dispose_held kept
  have recorded := dispose_kept kept
  unfold Context.reschedule
  generalize ctx.dispose = cleared at held handle recorded ⊢
  dsimp only
  by_cases closed : cleared.closed = true
  · rw [if_pos closed]
    exact ⟨recorded, .inl ⟨held, handle⟩, fun open_ => by simp [closed] at open_⟩
  · rw [if_neg closed]
    cases at_ with
    | none =>
        rw [if_pos Option.isNone_none]
        exact ⟨recorded.pend now none, .inl ⟨held, handle⟩, by simp [Context.pend]⟩
    | some time =>
        rw [if_neg (by simp)]
        exact armTimer_kept (recorded.arming held now time)

theorem maybeEvict_kept (kept : Kept ctx) : Kept ctx.maybeEvict := by
  unfold Context.maybeEvict
  by_cases idle : ctx.idle = true
  · rw [if_pos idle]
    unfold Context.evict
    by_cases registered : ctx.registered = true
    · rw [if_pos registered]
      obtain ⟨known, fresh, punctual, once, dropped, delays, hops⟩ := dispose_kept kept
      refine ⟨⟨known, fresh, punctual, once, dropped, delays, hops⟩, .inl (dispose_held kept), ?_⟩
      intro _ alarm pending
      have nothing : ctx.alarmAt = none := by
        simp only [Context.idle, Bool.and_eq_true, Option.isNone_iff_eq_none] at idle
        exact idle.1.2
      rw [dispose_rest] at pending
      simp [nothing] at pending
    · rw [if_neg registered]
      exact kept
  · rw [if_neg idle]
    exact kept

theorem Kept.load (kept : Kept ctx) (sockets pending runs : Nat) :
    Kept { ctx with sockets := sockets, pending := pending, runs := runs } := by
  obtain ⟨⟨known, fresh, punctual, once, dropped, delays, hops⟩, timing, waiting⟩ := kept
  refine ⟨⟨known, fresh, punctual, once, dropped, delays, hops⟩, ?_, waiting⟩
  exact timing.imp_right fun ⟨timer, alarm, hop⟩ =>
    ⟨timer, alarm, hop.held, hop.handle, hop.pending, hop.positive, hop.delay, hop.gone⟩

theorem settle_kept (kept : Kept ctx) (now : Int) (threw : Bool) : Kept (ctx.settle now threw) := by
  have ended := kept.load ctx.sockets ctx.pending (ctx.runs - 1)
  unfold Context.settle
  dsimp only
  cases threw with
  | true =>
      rw [if_pos rfl]
      exact maybeEvict_kept (reschedule_kept ended now _)
  | false =>
      rw [if_neg (by simp)]
      exact maybeEvict_kept ended

theorem shutdown_kept (kept : Kept ctx) : Kept ctx.shutdown := by
  unfold Context.shutdown
  by_cases registered : ctx.registered = true
  · rw [if_pos registered]
    obtain ⟨known, fresh, punctual, once, dropped, delays, hops⟩ := dispose_kept kept
    exact ⟨⟨known, fresh, punctual, once, dropped, delays, hops⟩, .inl (dispose_held kept),
      fun open_ => by simp at open_⟩
  · rw [if_neg registered]
    obtain ⟨⟨known, fresh, punctual, once, dropped, delays, hops⟩, timing, _⟩ := kept
    refine ⟨⟨known, fresh, punctual, once, dropped, delays, hops⟩, ?_, fun open_ => by simp at open_⟩
    exact timing.imp_right fun ⟨timer, alarm, hop⟩ =>
      ⟨timer, alarm, hop.held, hop.handle, hop.pending, hop.positive, hop.delay, hop.gone⟩

theorem due_hop {timer : Timer} {id : Nat} (hop : Hop ctx timer alarm) :
    due ctx now id = true ↔ timer.id = id ∧ timer.since + timer.delay ≤ now := by
  simp [due, hop.held]

theorem Hop.early {timer : Timer} (hop : Hop ctx timer alarm)
    (called : timer.since + timer.delay ≤ now) (early : now < alarm.at_) :
    timer.delay = MAX_DELAY := by
  have delay := hop.delay
  omega

theorem Hop.arming {timer : Timer} (hop : Hop ctx timer alarm) (kept : Kept ctx)
    (called : timer.since + timer.delay ≤ now) : Arming (ctx.clearTimeout timer.id) now alarm := by
  obtain ⟨known, fresh, punctual, once, dropped, delays, hops⟩ := kept.recorded
  refine ⟨⟨known, fresh, punctual, once, dropped, delays, hops⟩, ?_, hop.pending, fun early => ?_⟩
  · simp [Context.clearTimeout, hop.held]
  · obtain ⟨before, count, gone⟩ := hop.gone
    have full := hop.early called early
    change (ctx.hops alarm : Int) * MAX_DELAY ≤ now - alarm.since
    rw [count, Int.natCast_add, Int.add_mul]
    omega

theorem step_kept (kept : Kept ctx) (event : Event) : Kept (step ctx event) := by
  cases event with
  | alarmChange now at_ => exact reschedule_kept kept now at_
  | callback now id =>
      unfold step
      dsimp only
      by_cases called : due ctx now id = true
      · rw [if_pos called]
        rcases kept.timing with ⟨nothing, _⟩ | ⟨timer, alarm, hop⟩
        · simp [due, nothing] at called
        · obtain ⟨rfl, passed⟩ := (due_hop hop).mp called
          exact armTimer_kept (hop.arming kept passed)
      · rw [if_neg called]
        exact kept
  | settles now threw =>
      unfold step
      dsimp only
      by_cases none_ : ctx.runs = 0
      · rw [if_pos none_]
        exact kept
      · rw [if_neg none_]
        exact settle_kept kept now threw
  | load sockets pending => exact kept.load sockets pending ctx.runs
  | maybeEvict => exact maybeEvict_kept kept
  | shutdown => exact shutdown_kept kept

end Invariant

section Starts
variable {ctx : Context} {now : Int} {alarm : Alarm} {timer : Timer}

theorem Hop.load (hop : Hop ctx timer alarm) (sockets pending runs : Nat) :
    Hop { ctx with sockets := sockets, pending := pending, runs := runs } timer alarm :=
  ⟨hop.held, hop.handle, hop.pending, hop.positive, hop.delay, hop.gone⟩

end Starts

section Shutdown
variable {ctx after : Context} {events : List Event}

/-- A closed context that holds no timer, and what neither arms nor starts anything in it. -/
structure Still (ctx after : Context) : Prop where
  closed : after.closed = true
  held : after.held = []
  started : after.started = ctx.started
  asked : after.asked = ctx.asked

theorem Still.dispose (still : Still ctx after) : Still ctx after.dispose := by
  have nothing : after.dispose.held = [] := by
    unfold Context.dispose
    cases after.timer with
    | none => exact still.held
    | some id => simp [Context.clearTimeout, still.held]
  have rest := dispose_rest after
  refine ⟨?_, nothing, ?_, ?_⟩
  · rw [rest]
    exact still.closed
  · rw [rest]
    exact still.started
  · rw [rest]
    exact still.asked

theorem Still.reschedule (still : Still ctx after) (now : Int) (at_ : Option Int) :
    Still ctx (after.reschedule now at_) := by
  unfold Context.reschedule
  dsimp only
  rw [if_pos still.dispose.closed]
  exact still.dispose

theorem Still.maybeEvict (still : Still ctx after) : Still ctx after.maybeEvict := by
  unfold Context.maybeEvict Context.evict
  by_cases idle : after.idle = true
  · rw [if_pos idle]
    by_cases registered : after.registered = true
    · rw [if_pos registered]
      exact ⟨still.dispose.closed, still.dispose.held, still.dispose.started, still.dispose.asked⟩
    · rw [if_neg registered]
      exact still
  · rw [if_neg idle]
    exact still

theorem Still.step (still : Still ctx after) (event : Event) : Still ctx (step after event) := by
  cases event with
  | alarmChange now at_ => exact still.reschedule now at_
  | callback now id =>
      have same : AlarmTimer.step after (.callback now id) = after := by
        simp [AlarmTimer.step, due, still.held]
      rw [same]
      exact still
  | settles now threw =>
      unfold AlarmTimer.step
      dsimp only
      by_cases none_ : after.runs = 0
      · rw [if_pos none_]
        exact still
      · have ended : Still ctx { after with runs := after.runs - 1 } :=
          ⟨still.closed, still.held, still.started, still.asked⟩
        rw [if_neg none_, Context.settle]
        cases threw with
        | true => exact (ended.reschedule now _).maybeEvict
        | false => exact ended.maybeEvict
  | load sockets pending => exact ⟨still.closed, still.held, still.started, still.asked⟩
  | maybeEvict => exact still.maybeEvict
  | shutdown =>
      unfold AlarmTimer.step Context.shutdown
      dsimp only
      by_cases registered : after.registered = true
      · rw [if_pos registered]
        exact ⟨rfl, still.dispose.held, still.dispose.started, still.dispose.asked⟩
      · rw [if_neg registered]
        exact ⟨rfl, still.held, still.started, still.asked⟩

/-- A closed context holds no timer. -/
def Silent (ctx : Context) : Prop := ctx.closed = true → ctx.held = []

end Shutdown

end AlarmTimer
end Relay

import CompanionRelay.Machine
import Mathlib.Data.Int.Order.Basic
import Mathlib.Data.List.Induction
import Mathlib.Tactic.Common

/-!
bin/relay.js around its relay, once that listens: the exceptions that the process survives, the
signals that end it and the signal that turns its log on and off. The queue of the times of
exceptions holds those of the last minute, so the process ends at the exception that is one too
many in a minute.
-/

namespace Relay.Bin

def excWindowMs : Int := 60000

def excLimit : Nat := 25

structure Process where
  -- process_exceptions_total
  exceptions : Nat := 0
  excTimes : List Int := []
  shuttingDown : Bool := false
  -- the calls of relay.close()
  closes : Nat := 0
  -- RELAY_LOG === "true"
  verbose : Bool
  -- the argument of process.exit
  exit : Option Nat := none

inductive Event
  -- an unhandledRejection or an uncaughtException
  | exception (now : Int)
  -- SIGTERM or SIGINT
  | shutdown
  | usr2
  -- the promise of relay.close() is settled
  | closed
  deriving DecidableEq

def onProcessException (process : Process) (now : Int) : Process :=
  let excTimes := (process.excTimes ++ [now]).dropWhile fun time => now - time > excWindowMs
  { process with
      exceptions := process.exceptions + 1
      excTimes := excTimes
      exit := if excTimes.length > excLimit then some 1 else none }

def shutdown (process : Process) : Process :=
  if process.shuttingDown then process
  else { process with shuttingDown := true, closes := process.closes + 1 }

def step (process : Process) (event : Event) : Process :=
  if process.exit.isSome then process
  else
    match event with
    | .exception now => onProcessException process now
    | .shutdown => shutdown process
    | .usr2 => { process with verbose := !process.verbose }
    | .closed => if process.shuttingDown then { process with exit := some 0 } else process

abbrev run (verbose : Bool) (events : List Event) : Process :=
  Machine.run step { verbose := verbose } events

def Event.time : Event → Option Int
  | .exception now => some now
  | _ => none

/-- The times of the exceptions. -/
def times (events : List Event) : List Int := events.filterMap Event.time

/-- The clock does not go back. -/
def Steady (events : List Event) : Prop := (times events).Pairwise (· ≤ ·)

instance (events : List Event) : Decidable (Steady events) :=
  inferInstanceAs (Decidable (List.Pairwise _ _))

/-- The exceptions of the last minute. -/
def recent (events : List Event) (now : Int) : Nat :=
  (times events).countP fun time => now - time ≤ excWindowMs

/-- What an event does to a process that has come through the events before it. -/
structure Survives (verbose : Bool) (before : List Event) (event : Event) : Prop where
  counted : (run verbose before).exceptions = (times before).length
  fails : (step (run verbose before) event).exit = some 1 ↔
    ∃ now, event = .exception now ∧ excLimit ≤ recent before now
  leaves : (step (run verbose before) event).exit = some 0 ↔
    event = .closed ∧ .shutdown ∈ before
  -- the relay is closed once, however many signals come
  closes : (run verbose before).closes = if .shutdown ∈ before then 1 else 0
  logs : (run verbose before).verbose = (verbose ^^ decide (before.count .usr2 % 2 = 1))

section Queue
variable {list : List Int} {now : Int}

theorem dropped_front (ordered : list.Pairwise (· ≤ ·)) :
    list.dropWhile (fun time => now - time > excWindowMs) =
      list.filter fun time => now - time ≤ excWindowMs := by
  induction list with
  | nil => rfl
  | cons first rest ih =>
      obtain ⟨least, tail⟩ := List.pairwise_cons.mp ordered
      by_cases old : now - first > excWindowMs
      · have new : ¬ now - first ≤ excWindowMs := by omega
        rw [List.dropWhile_cons_of_pos (by rwa [decide_eq_true_eq]), ih tail,
          List.filter_cons_of_neg (by rwa [decide_eq_true_eq])]
      · rw [List.dropWhile_cons_of_neg (by rwa [decide_eq_true_eq]), eq_comm, List.filter_eq_self]
        intro time member
        rcases List.mem_cons.mp member with rfl | later
        · rw [decide_eq_true_eq]
          omega
        · have after := least time later
          simp only [decide_eq_true_eq]
          omega

end Queue

/-- What holds of a process that has not ended. -/
structure Alive (verbose : Bool) (before : List Event) (process : Process) : Prop where
  counted : process.exceptions = (times before).length
  queue : ∃ last, (times before ≠ [] → last ∈ times before) ∧
    process.excTimes = (times before).filter fun time => last - time ≤ excWindowMs
  down : process.shuttingDown = decide (.shutdown ∈ before)
  closes : process.closes = if .shutdown ∈ before then 1 else 0
  logs : process.verbose = (verbose ^^ decide (before.count .usr2 % 2 = 1))

theorem times_append (before : List Event) (event : Event) :
    times (before ++ [event]) = times before ++ event.time.toList := by
  cases time : event.time <;> simp [times, time]

section Step
variable {verbose : Bool} {before : List Event} {process : Process}

theorem steady_append {now : Int} (steady : Steady (before ++ [.exception now])) :
    (times before ++ [now]).Pairwise (· ≤ ·) := by
  rw [Steady, times_append] at steady
  exact steady

-- The queue after an exception holds those of the last minute.
theorem Alive.queued (alive : Alive verbose before process) {now : Int}
    (steady : Steady (before ++ [.exception now])) :
    (process.excTimes ++ [now]).dropWhile (fun time => now - time > excWindowMs) =
      ((times before).filter fun time => now - time ≤ excWindowMs) ++ [now] := by
  obtain ⟨last, latest, queue⟩ := alive.queue
  have ordered := steady_append steady
  have sublist : (process.excTimes ++ [now]).Sublist (times before ++ [now]) := by
    rw [queue]
    exact List.filter_sublist.append_right _
  rw [dropped_front (ordered.sublist sublist), List.filter_append, queue, List.filter_filter]
  congr 1
  · refine List.filter_congr fun time member => ?_
    have before_now := (List.pairwise_append.mp ordered).2.2 last
      (latest (List.ne_nil_of_mem member)) now (List.mem_singleton_self now)
    rw [Bool.eq_iff_iff, Bool.and_eq_true, decide_eq_true_eq, decide_eq_true_eq]
    omega
  · simp [excWindowMs]

theorem Alive.excepted (alive : Alive verbose before process) {now : Int}
    (steady : Steady (before ++ [.exception now])) :
    Alive verbose (before ++ [.exception now]) (onProcessException process now) ∧
      ((onProcessException process now).exit = some 1 ↔ excLimit ≤ recent before now) := by
  have queued := alive.queued steady
  have all := times_append before (.exception now)
  constructor
  · refine ⟨?_, ⟨now, fun _ => ?_, ?_⟩, ?_, ?_, ?_⟩
    · rw [all, List.length_append, onProcessException, alive.counted]
      rfl
    · rw [all]
      simp [Event.time]
    · rw [all, onProcessException, queued, List.filter_append]
      simp [Event.time, excWindowMs]
    · simpa [onProcessException] using alive.down
    · simpa [onProcessException] using alive.closes
    · simpa [onProcessException, List.count_append] using alive.logs
  · simp only [onProcessException, queued, List.length_append, List.length_singleton, recent,
      List.countP_eq_length_filter]
    split
    · rename_i many
      exact iff_of_true rfl (by omega)
    · rename_i few
      exact iff_of_false (by simp) (by omega)

theorem Alive.quiet (alive : Alive verbose before process) {event : Event}
    (other : event.time = none) {after : Process}
    (counted : after.exceptions = process.exceptions) (queue : after.excTimes = process.excTimes)
    (down : after.shuttingDown = decide (.shutdown ∈ before ++ [event]))
    (closes : after.closes = if .shutdown ∈ before ++ [event] then 1 else 0)
    (logs : after.verbose = (verbose ^^ decide ((before ++ [event]).count .usr2 % 2 = 1))) :
    Alive verbose (before ++ [event]) after := by
  have same : times (before ++ [event]) = times before := by
    rw [times_append, other]
    exact List.append_nil _
  refine ⟨?_, ?_, down, closes, logs⟩
  · rw [same, counted]
    exact alive.counted
  · rw [same, queue]
    exact alive.queue

theorem Alive.step (alive : Alive verbose before process) (running : process.exit = none)
    {event : Event} (steady : Steady (before ++ [event])) :
    Alive verbose (before ++ [event]) (Bin.step process event) := by
  simp only [Bin.step, running, Option.isSome_none, Bool.false_eq_true, if_false]
  cases event with
  | exception now => exact (alive.excepted steady).1
  | shutdown =>
      dsimp only [Bin.shutdown]
      split
      · rename_i down
        have first : Event.shutdown ∈ before := of_decide_eq_true (alive.down.symm.trans down)
        refine alive.quiet rfl rfl rfl ?_ ?_ ?_
        · simp [down]
        · rw [alive.closes, if_pos first, if_pos (List.mem_append_left _ first)]
        · simpa [List.count_append] using alive.logs
      · rename_i up
        have first : Event.shutdown ∉ before := fun member =>
          up (alive.down.trans (decide_eq_true member))
        refine alive.quiet rfl rfl rfl ?_ ?_ ?_
        · simp
        · rw [alive.closes, if_neg first, if_pos (by simp)]
        · simpa [List.count_append] using alive.logs
  | usr2 =>
      refine alive.quiet rfl rfl rfl ?_ ?_ ?_
      · simpa using alive.down
      · simpa using alive.closes
      · dsimp only
        rw [alive.logs, List.count_append, List.count_singleton_self]
        rcases Nat.mod_two_eq_zero_or_one (before.count .usr2) with even | odd
        · have next : (before.count .usr2 + 1) % 2 = 1 := by omega
          simp [even, next]
        · have next : (before.count .usr2 + 1) % 2 = 0 := by omega
          simp [odd, next]
  | closed =>
      dsimp only
      split
      · exact alive.quiet rfl rfl rfl (by simpa using alive.down) (by simpa using alive.closes)
          (by simpa [List.count_append] using alive.logs)
      · exact alive.quiet rfl rfl rfl (by simpa using alive.down) (by simpa using alive.closes)
          (by simpa [List.count_append] using alive.logs)

theorem step_exited (ended : process.exit.isSome = true) (event : Event) :
    Bin.step process event = process := by
  unfold Bin.step
  rw [if_pos ended]

theorem alive_run (steady : Steady before) (running : (run verbose before).exit = none) :
    Alive verbose before (run verbose before) := by
  induction before using List.reverseRecOn with
  | nil =>
      refine ⟨rfl, ⟨0, fun some_ => absurd rfl some_, rfl⟩, rfl, rfl, ?_⟩
      simp [run]
  | append_singleton before event ih =>
      rw [run, Machine.run_append] at running ⊢
      have earlier : (run verbose before).exit = none := by
        by_contra ended
        have stays := step_exited (Option.isSome_iff_ne_none.mpr ended) event
        exact ended ((congrArg Process.exit stays).symm.trans running)
      have prior : Steady before := by
        rw [Steady, times_append] at steady
        exact (List.pairwise_append.mp steady).1
      exact (ih prior earlier).step earlier steady

end Step

theorem process_survives (verbose : Bool) (before : List Event) (event : Event)
    (steady : Steady (before ++ [event])) (running : (run verbose before).exit = none) :
    Survives verbose before event := by
  have prior : Steady before := by
    rw [Steady, times_append] at steady
    exact (List.pairwise_append.mp steady).1
  have alive := alive_run prior running
  refine ⟨alive.counted, ?_, ?_, alive.closes, alive.logs⟩
  · simp only [step, running, Option.isSome_none, Bool.false_eq_true, if_false]
    cases event with
    | exception now =>
        rw [(alive.excepted steady).2]
        simp
    | shutdown =>
        dsimp only [shutdown]
        split <;> simp [running]
    | usr2 => simp
    | closed =>
        dsimp only
        split <;> simp [running]
  · simp only [step, running, Option.isSome_none, Bool.false_eq_true, if_false, alive.down]
    cases event with
    | exception now =>
        simp only [onProcessException]
        split <;> simp
    | shutdown =>
        dsimp only [shutdown]
        split <;> simp [running]
    | usr2 => simp
    | closed =>
        dsimp only
        split
        · rename_i down
          simpa using down
        · rename_i up
          simpa [running] using up

theorem third_exception_survives :
    Survives false [.exception 0, .usr2, .shutdown, .exception 59999] (.exception 60001) :=
  process_survives false _ _ (by decide) rfl

end Relay.Bin

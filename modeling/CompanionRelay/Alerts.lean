import Mathlib.Logic.Function.Basic
import CompanionRelay.Machine

/-!
src/monitor: dueAlerts and the end of run(), where an email goes out and the cooldown
advances. The object sentAt keeps two properties for a key, the time of its last email and
its severity, in one map; a tick keeps the old map if the email did not go out.
-/

namespace Relay.Monitor

open Function (update)

inductive Severity
  | warn
  | critical
  deriving DecidableEq

def severityKey (key : String) : String := key ++ ":sev"

/-- Every key that run() builds ends in one of its own literals, none of them a severity key. -/
structure Alert where
  key : String
  severity : Severity
  plain : ¬ ":sev".toList <:+ key.toList
  deriving DecidableEq

inductive Stamp
  | time (at_ : Nat)
  | severity (severity : Severity)
  deriving DecidableEq

abbrev SentAt := String → Option Stamp

variable (cooldownMs : Nat)

def escalated (prev : SentAt) (alert : Alert) : Bool :=
  prev (severityKey alert.key) = some (.severity .warn) && alert.severity = .critical

/-- A difference of whole times: a cooldown between two milliseconds is the later one. -/
def cool (prev : SentAt) (now : Nat) (key : String) : Bool :=
  match prev key with
  | none => true
  | some (.time last) => (now : Int) - last ≥ cooldownMs
  | some (.severity _) => false

def isDue (prev : SentAt) (now : Nat) (alert : Alert) : Bool :=
  escalated prev alert || cool cooldownMs prev now alert.key

/-- The body of the loop of dueAlerts. -/
def stamp (prev : SentAt) (now : Nat) (result : List Alert × SentAt) (alert : Alert) :
    List Alert × SentAt :=
  let sent := if isDue cooldownMs prev now alert then some (.time now) else prev alert.key
  (if isDue cooldownMs prev now alert then result.1 ++ [alert] else result.1,
    update (update result.2 alert.key sent) (severityKey alert.key)
      (some (.severity alert.severity)))

def dueAlerts (alerts : List Alert) (prev : SentAt) (now : Nat) : List Alert × SentAt :=
  alerts.foldl (stamp cooldownMs prev now) ([], fun _ => none)

/-- What a tick of run() gets from outside: its clock, the alerts that its checks raise, and
whether sendEmail goes through. -/
structure Tick where
  now : Nat
  alerts : List Alert
  sends : Bool

def due (sentAt : SentAt) (tick : Tick) : List Alert :=
  (dueAlerts cooldownMs tick.alerts sentAt tick.now).1

def delivered (sentAt : SentAt) (tick : Tick) : Bool :=
  (due cooldownMs sentAt tick).isEmpty || tick.sends

def run (sentAt : SentAt) (tick : Tick) : SentAt :=
  if delivered cooldownMs sentAt tick then (dueAlerts cooldownMs tick.alerts sentAt tick.now).2
  else sentAt

/-- The cooldown state after the first ticks of a monitor. -/
def sentAfter (ticks : List Tick) : SentAt := Machine.run (run cooldownMs) (fun _ => none) ticks

/-- The email of a tick that goes out, with what it reports. -/
def email (sentAt : SentAt) (tick : Tick) : List Alert :=
  if tick.sends then due cooldownMs sentAt tick else []

section Claims

def Tick.mentions (tick : Tick) (key : String) : Prop := ∃ alert ∈ tick.alerts, alert.key = key

def Tick.raises (tick : Tick) (alert : Alert) : Prop :=
  alert ∈ tick.alerts ∧ ∀ other ∈ tick.alerts, other.key = alert.key → other = alert

instance (tick : Tick) (key : String) : Decidable (tick.mentions key) :=
  inferInstanceAs (Decidable (∃ alert ∈ tick.alerts, alert.key = key))

instance (tick : Tick) (alert : Alert) : Decidable (tick.raises alert) :=
  inferInstanceAs (Decidable (alert ∈ tick.alerts ∧
    ∀ other ∈ tick.alerts, other.key = alert.key → other = alert))

/-- The tick after `before` raises an alert whose key the last of them did not raise. -/
def Raised (before : List Tick) (tick : Tick) (alert : Alert) : Prop :=
  tick.raises alert ∧ ∀ last ∈ before.getLast?, ¬ last.mentions alert.key

/-- A new alert that stays raised is in the email of the first tick whose send succeeds. -/
def Delivers (ticks : List Tick) : Prop :=
  ∀ before during tick after alert, ticks = before ++ (during ++ tick :: after) →
    (∀ first ∈ (during ++ [tick]).head?, Raised before first alert) →
    (∀ held ∈ during ++ [tick], held.raises alert) →
    (∀ held ∈ during, held.sends = false) → tick.sends = true →
    alert ∈ email cooldownMs (sentAfter cooldownMs (before ++ during)) tick

/-- An alert that went out and stays raised is not sent again within the cooldown. -/
def Cools (ticks : List Tick) : Prop :=
  ∀ before first during tick after alert,
    ticks = before ++ first :: (during ++ tick :: after) →
    alert ∈ email cooldownMs (sentAfter cooldownMs before) first →
    (∀ held ∈ first :: (during ++ [tick]), held.raises alert) →
    (tick.now : Int) - first.now < cooldownMs →
    alert ∉ due cooldownMs (sentAfter cooldownMs (before ++ first :: during)) tick

/-- No record of an earlier period holds a new alert back. -/
def Unblocked (ticks : List Tick) : Prop :=
  ∀ before first after alert, ticks = before ++ first :: after → Raised before first alert →
    escalated (sentAfter cooldownMs before) alert = true ∨
      ∀ later ∈ first :: after,
        cool cooldownMs (sentAfter cooldownMs before) later.now alert.key = true

end Claims

section Stamps
variable (cooldownMs : Nat) (prev : SentAt) (now : Nat) {alerts : List Alert} {alert : Alert}

theorem severityKey_injective {first second : String}
    (same : severityKey first = severityKey second) : first = second := by
  have chars := congrArg String.toList same
  simp only [severityKey, String.toList_append, List.append_cancel_right_eq] at chars
  exact String.toList_inj.mp chars

theorem Alert.key_plain (alert : Alert) (key : String) : alert.key ≠ severityKey key := by
  intro same
  apply alert.plain
  rw [same, severityKey, String.toList_append]
  exact List.suffix_append _ _

theorem mem_dueAlerts :
    alert ∈ (dueAlerts cooldownMs alerts prev now).1 ↔
      alert ∈ alerts ∧ isDue cooldownMs prev now alert = true := by
  have folded : ∀ result : List Alert × SentAt,
      (alerts.foldl (stamp cooldownMs prev now) result).1 =
        result.1 ++ alerts.filter (isDue cooldownMs prev now) := by
    induction alerts with
    | nil => simp
    | cons first rest ih =>
        intro result
        rw [List.foldl_cons, ih]
        by_cases dueNow : isDue cooldownMs prev now first = true <;> simp [stamp, dueNow]
  rw [dueAlerts, folded, List.nil_append, List.mem_filter]

/-- What a tick leaves of an alert that it has seen. -/
structure Recorded (cooldownMs : Nat) (prev : SentAt) (now : Nat) (alert : Alert)
    (sentAt : SentAt) : Prop where
  time : sentAt alert.key =
    if isDue cooldownMs prev now alert then some (.time now) else prev alert.key
  severity : sentAt (severityKey alert.key) = some (.severity alert.severity)

theorem stamp_recorded (result : List Alert × SentAt) :
    Recorded cooldownMs prev now alert (stamp cooldownMs prev now result alert).2 := by
  constructor
  · simp [stamp, Function.update_of_ne (alert.key_plain alert.key)]
  · simp [stamp]

theorem stamp_elsewhere (result : List Alert × SentAt) {other : Alert}
    (apart : other.key ≠ alert.key) :
    (stamp cooldownMs prev now result other).2 alert.key = result.2 alert.key ∧
      (stamp cooldownMs prev now result other).2 (severityKey alert.key) =
        result.2 (severityKey alert.key) := by
  have severity : severityKey alert.key ≠ severityKey other.key :=
    fun same => apart (severityKey_injective same).symm
  constructor
  · simp [stamp, Function.update_of_ne (alert.key_plain other.key), Function.update_of_ne apart.symm]
  · simp [stamp, Function.update_of_ne severity, Function.update_of_ne (other.key_plain alert.key).symm]

-- An alert that is the only one of its key is recorded, in whichever place it stands.
theorem dueAlerts_recorded (raised : alert ∈ alerts)
    (only : ∀ other ∈ alerts, other.key = alert.key → other = alert) :
    Recorded cooldownMs prev now alert (dueAlerts cooldownMs alerts prev now).2 := by
  have folded : ∀ result : List Alert × SentAt,
      alert ∈ alerts ∨ Recorded cooldownMs prev now alert result.2 →
      Recorded cooldownMs prev now alert (alerts.foldl (stamp cooldownMs prev now) result).2 := by
    clear raised
    induction alerts with
    | nil =>
        rintro result (inside | recorded)
        · exact absurd inside List.not_mem_nil
        · exact recorded
    | cons first rest ih =>
        intro result reached
        simp only [List.forall_mem_cons] at only
        apply ih only.2
        by_cases same : first.key = alert.key
        · rw [only.1 same]
          exact .inr (stamp_recorded cooldownMs prev now result)
        · rcases reached with inside | recorded
          · rcases List.mem_cons.mp inside with rfl | later
            · exact absurd rfl same
            · exact .inl later
          · obtain ⟨time, severity⟩ := stamp_elsewhere cooldownMs prev now result same
            exact .inr ⟨time.trans recorded.time, severity.trans recorded.severity⟩
  exact folded _ (.inl raised)

end Stamps

section Runs
variable {cooldownMs : Nat} {sentAt : SentAt} {tick : Tick} {alert : Alert}

theorem sentAfter_append (before during : List Tick) :
    sentAfter cooldownMs (before ++ during) =
      Machine.run (run cooldownMs) (sentAfter cooldownMs before) during :=
  Machine.run_append _ _ _ _

theorem run_failed (waits : alert ∈ due cooldownMs sentAt tick) (failed : tick.sends = false) :
    run cooldownMs sentAt tick = sentAt := by
  have some_ : (due cooldownMs sentAt tick).isEmpty = false := by
    rw [List.isEmpty_eq_false_iff]
    exact List.ne_nil_of_mem waits
  simp [run, delivered, failed, some_]

-- While an alert is due and no send succeeds, the cooldown state stands still.
theorem stands_still (during : List Tick)
    (waits : ∀ held ∈ during, alert ∈ due cooldownMs sentAt held)
    (failed : ∀ held ∈ during, held.sends = false) :
    Machine.run (run cooldownMs) sentAt during = sentAt := by
  induction during with
  | nil => rfl
  | cons held rest ih =>
      simp only [List.forall_mem_cons] at waits failed
      rw [Machine.run_cons, run_failed waits.1 failed.1]
      exact ih waits.2 failed.2

theorem delivers_of_unblocked (ticks : List Tick) (unblocked : Unblocked cooldownMs ticks) :
    Delivers cooldownMs ticks := by
  intro before during tick after alert whole raised held failed sends
  have waits : ∀ held ∈ during ++ [tick], alert ∈ due cooldownMs (sentAfter cooldownMs before) held := by
    have free : escalated (sentAfter cooldownMs before) alert = true ∨
        ∀ later ∈ during ++ tick :: after,
          cool cooldownMs (sentAfter cooldownMs before) later.now alert.key = true := by
      cases during with
      | nil => exact unblocked before tick after alert whole (raised tick rfl)
      | cons first rest =>
          exact unblocked before first (rest ++ tick :: after) alert whole (raised first rfl)
    intro later inside
    apply (mem_dueAlerts ..).mpr
    refine ⟨(held later inside).1, ?_⟩
    unfold isDue
    rcases free with escalates | cools
    · rw [escalates]
      rfl
    · rw [cools later (by simpa [or_assoc] using Or.inl (List.mem_append.mp inside)), Bool.or_true]
  have still : sentAfter cooldownMs (before ++ during) = sentAfter cooldownMs before := by
    rw [sentAfter_append]
    exact stands_still during (fun held inside => waits held (List.mem_append_left _ inside)) failed
  rw [still, email, if_pos sends]
  exact waits tick (List.mem_append_right _ (List.mem_singleton.mpr rfl))

/-- The record of an alert that went out at `since` and has been raised from then on. -/
structure Cooling (cooldownMs since : Nat) (alert : Alert) (sentAt : SentAt) : Prop where
  time : ∃ last, sentAt alert.key = some (.time last) ∧ (last = since ∨ since + cooldownMs ≤ last)
  severity : sentAt (severityKey alert.key) = some (.severity alert.severity)

theorem Cooling.due {since : Nat} (cooling : Cooling cooldownMs since alert sentAt) {now : Nat}
    (dueNow : isDue cooldownMs sentAt now alert = true) : since + cooldownMs ≤ now := by
  obtain ⟨last, found, recent⟩ := cooling.time
  have calm : escalated sentAt alert = false := by
    cases severity : alert.severity <;> simp [escalated, cooling.severity, severity]
  simp only [isDue, calm, Bool.false_or, cool, found, decide_eq_true_eq] at dueNow
  omega

theorem Cooling.run {since : Nat} (cooling : Cooling cooldownMs since alert sentAt)
    (raised : tick.raises alert) : Cooling cooldownMs since alert (run cooldownMs sentAt tick) := by
  unfold Monitor.run
  split
  · have recorded := dueAlerts_recorded cooldownMs sentAt tick.now raised.1 raised.2
    refine ⟨?_, recorded.severity⟩
    rw [recorded.time]
    split
    · rename_i dueNow
      exact ⟨tick.now, rfl, .inr (cooling.due dueNow)⟩
    · exact cooling.time
  · exact cooling

theorem cools (ticks : List Tick) : Cools cooldownMs ticks := by
  intro before first during tick after alert whole sent held recent again
  unfold email at sent
  split at sent
  · rename_i sends
    have dueNow := ((mem_dueAlerts ..).mp sent).2
    have raised := held first List.mem_cons_self
    have recorded := dueAlerts_recorded cooldownMs (sentAfter cooldownMs before) first.now
      raised.1 raised.2
    have start : Cooling cooldownMs first.now alert
        (run cooldownMs (sentAfter cooldownMs before) first) := by
      rw [run, delivered, sends, Bool.or_true, if_pos rfl]
      exact ⟨⟨first.now, by rw [recorded.time, if_pos dueNow], .inl rfl⟩, recorded.severity⟩
    have later : Cooling cooldownMs first.now alert
        (sentAfter cooldownMs (before ++ first :: during)) := by
      rw [sentAfter_append, Machine.run_cons]
      apply Machine.run_invariant _ _ (fun _ held => held.raises alert)
        (fun _ _ cooling raised => cooling.run raised) _ start
      intro met member
      obtain ⟨lead, rest, rfl, _⟩ := Machine.steps_mem _ _ _ _ member
      exact held met.2 (by simp)
    have elapsed := later.due ((mem_dueAlerts ..).mp again).2
    omega
  · exact absurd sent List.not_mem_nil

/-- A new alert that is not held back goes out with the first email, and an alert that went
out is not repeated within the cooldown. -/
theorem alerts_delivered (ticks : List Tick) (unblocked : Unblocked cooldownMs ticks) :
    Delivers cooldownMs ticks ∧ Cools cooldownMs ticks :=
  ⟨delivers_of_unblocked ticks unblocked, cools ticks⟩

section Sample

def errors : Alert := ⟨"errors", .warn, by decide⟩
def probe : Alert := ⟨"probe", .critical, by decide⟩

/-- An alert that stays raised over a failed send. -/
def failedSend : List Tick := [⟨0, [errors], false⟩, ⟨60000, [errors, probe], true⟩]

theorem failed_send_delivered :
    errors ∈ email 21600000 (sentAfter 21600000 (failedSend.take 1)) ⟨60000, [errors, probe], true⟩ := by
  have unrecorded : ∀ key, sentAfter 21600000 [⟨0, [errors], false⟩] key = none := fun _ => rfl
  refine (alerts_delivered failedSend ?_).1 [] [⟨0, [errors], false⟩]
    ⟨60000, [errors, probe], true⟩ [] errors rfl ?_ ?_ ?_ ?_
  · intro before first after alert split _
    right
    intro later _
    match before, split with
    | [], _ => rfl
    | [_], split =>
        cases split
        simp [cool, unrecorded]
    | _ :: _ :: rest, split => simp [failedSend] at split
  · rintro first ⟨⟩
    exact ⟨by decide, by simp⟩
  · decide
  · decide
  · rfl

/-- An alert that went out, resolved while another email failed, and came back. -/
def recurring : List Tick :=
  [⟨0, [errors], true⟩, ⟨60000, [probe], false⟩, ⟨120000, [errors, probe], true⟩]

theorem recurring_alert_held : ¬ Delivers 21600000 recurring := by
  intro delivers
  have sent := delivers (recurring.take 2) [] ⟨120000, [errors, probe], true⟩ [] errors rfl
    (by
      rintro first ⟨⟩
      exact ⟨by decide, by decide⟩)
    (by decide) (by simp) rfl
  revert sent
  decide +kernel

end Sample

end Runs

end Relay.Monitor

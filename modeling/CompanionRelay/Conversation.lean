import CompanionRelay.Departures

/-!
What a client sees of the relay on one socket: the messages that it is sent while the socket is
open, and the code and reason with which the relay closes it. The relay keeps to one protocol: a
nonce, a verdict on the proof, frames only after it has let the client in, and an end that fits.
-/

namespace Relay

inductive Item
  | said (message : Message)
  | hungUp (code : Nat) (reason : String)
  deriving DecidableEq

/-- How far a client has got. -/
inductive Phase
  | greeting
  | challenged (nonce : String)
  | refused (error : String)
  | admitted (role : Role)
  | ended
  deriving DecidableEq

/-- The ends that a socket can come to in any phase. -/
def commonEndings : List (Nat × String) :=
  [(1011, "internal error"), (1009, "frame too large"), (1008, "daily quota exceeded"),
    (1000, "room deleted"), (1000, "pairing cycle cap"), (1000, "room expired"),
    (wsReshardCode, "reshard")]

def Phase.endings : Phase → List (Nat × String)
  | .greeting =>
      [(1008, "bad hello"), (1008, "too many pending"), (1008, "admission timeout")] ++ commonEndings
  | .challenged _ => [(1008, "too many pending"), (1008, "admission timeout")] ++ commonEndings
  | .refused error => [(1008, error)]
  | .admitted _ =>
      [(1000, "displaced"), (1001, "peer gone"), (1008, "frame rate exceeded")] ++ commonEndings
  | .ended => []

/-- What the relay may do next in a phase, and the phase after it. -/
def Phase.next : Phase → Item → Option Phase
  | .greeting, .said (.challenge nonce) => some (.challenged nonce)
  | .challenged _, .said (.ok none) => some (.admitted .mac)
  | .challenged _, .said (.ok (some _)) => some (.admitted .phone)
  | .challenged _, .said (.refused error) => some (.refused error)
  | .admitted role, .said (.relayed _) => some (.admitted role)
  | phase, .hungUp code reason =>
      if (code, reason) ∈ phase.endings then some .ended else none
  | _, _ => none

def Phase.of : Admission → Phase
  | .hello => .greeting
  | .challenged _ nonce _ => .challenged nonce
  | .admitted role => .admitted role

section Statement
variable (env : Env) (ws : SocketId)

/-- What a script does to one socket, were it open all along. -/
def toward (script : List Act) : List Item :=
  script.filterMap fun
    | .send target message => if target = ws then some (.said message) else none
    | .close target code reason => if target = ws then some (.hungUp code reason) else none
    | _ => none

/-- A socket that has been closed takes no more messages. -/
def untilClosed : List Item → List Item
  | [] => []
  | .said message :: rest => .said message :: untilClosed rest
  | .hungUp code reason :: _ => [.hungUp code reason]

/-- What a client sees of one step. A socket is open while it is in the routable set. -/
def seen (met : State × Event) : List Item :=
  if met.1.routable ws then untilClosed (toward ws (acts env met.1 met.2)) else []

/-- The phase to which what a client has seen leads, if it is as the protocol says. -/
def conversation (events : List Event) : Option Phase :=
  ((steps env events).flatMap (seen env ws)).foldlM Phase.next .greeting

/-- A client has seen a conversation of the protocol, and an open socket is in its phase. -/
def Conversant (events : List Event) : Prop :=
  ∃ phase, conversation env ws events = some phase ∧
    ((run env events).routable ws →
      ∃ admission, (run env events).admission ws = some admission ∧ phase = .of admission)

end Statement

section Script
variable {ws : SocketId} {first second : List Act} {verbs : List Verb}

theorem toward_append : toward ws (first ++ second) = toward ws first ++ toward ws second :=
  List.filterMap_append ..

theorem mem_toward_said {script : List Act} {message : Message} :
    .said message ∈ toward ws script ↔ .send ws message ∈ script := by
  rw [toward, List.mem_filterMap]
  constructor
  · rintro ⟨act, member, same⟩
    cases act with
    | send target given =>
        by_cases here : target = ws
        · obtain rfl : given = message := by simpa [here] using same
          rwa [here] at member
        · simp [here] at same
    | close target code reason =>
        by_cases here : target = ws <;> simp [here] at same
    | _ => simp at same
  · exact fun member => ⟨_, member, by simp⟩

theorem mem_toward_hungUp {script : List Act} {code : Nat} {reason : String} :
    .hungUp code reason ∈ toward ws script ↔ .close ws code reason ∈ script := by
  rw [toward, List.mem_filterMap]
  constructor
  · rintro ⟨act, member, same⟩
    cases act with
    | send target given =>
        by_cases here : target = ws <;> simp [here] at same
    | close target given why =>
        by_cases here : target = ws
        · obtain ⟨rfl, rfl⟩ : given = code ∧ why = reason := by simpa [here] using same
          rwa [here] at member
        · simp [here] at same
    | _ => simp at same
  · exact fun member => ⟨_, member, by simp⟩

end Script

section Exchange
variable {before after admission : Admission} {items : List Item} {state : State} {ws : SocketId}
  {first second : List Act} {verbs : List Verb}

/-- What a step may say to an open socket, and the admission that it leaves it with. -/
inductive Exchange : Admission → List Item → Admission → Prop
  | closings (admission : Admission) (items : List Item)
      (fit : ∀ item ∈ items, ∃ code reason, item = .hungUp code reason ∧
        (code, reason) ∈ (Phase.of admission).endings) : Exchange admission items admission
  | greeted (role : Role) (nonce : String) (flag : Bool) :
      Exchange .hello [.said (.challenge nonce)] (.challenged role nonce flag)
  | refused (role : Role) (nonce : String) (flag : Bool) (error : String) :
      Exchange (.challenged role nonce flag) [.said (.refused error), .hungUp 1008 error]
        (.challenged role nonce flag)
  | parked (nonce : String) (flag : Bool) :
      Exchange (.challenged .mac nonce flag) [.said (.ok none)] (.admitted .mac)
  | joined (nonce : String) (flag : Bool) (token : String) :
      Exchange (.challenged .phone nonce flag) [.said (.ok (some token))] (.admitted .phone)
  -- a storage call throws between the slot and the answer
  | torn (role : Role) (nonce : String) (flag : Bool) :
      Exchange (.challenged role nonce flag) [.hungUp 1011 "internal error"] (.admitted role)
  | relayed (role : Role) (frame : Frame) :
      Exchange (.admitted role) [.said (.relayed frame)] (.admitted role)

theorem common_endings (phase : Admission) : commonEndings ⊆ (Phase.of phase).endings := by
  cases phase <;> exact List.subset_append_right ..

theorem Exchange.leads (exchange : Exchange before items after) :
    ∃ phase, (untilClosed items).foldlM Phase.next (.of before) = some phase ∧
      ((∀ code reason, .hungUp code reason ∉ items) → phase = .of after) := by
  cases exchange with
  | closings admission items fit =>
      cases items with
      | nil => exact ⟨_, rfl, fun _ => rfl⟩
      | cons item rest =>
          obtain ⟨code, reason, rfl, ending⟩ := fit item List.mem_cons_self
          refine ⟨.ended, ?_, fun open_ => absurd List.mem_cons_self (open_ code reason)⟩
          cases before <;> simp [untilClosed, Phase.of, Phase.next] <;> exact ending
  | greeted role nonce flag => exact ⟨_, rfl, fun _ => rfl⟩
  | refused role nonce flag error =>
      exact ⟨.ended, by simp [untilClosed, Phase.of, Phase.next, Phase.endings],
        fun open_ => absurd (by simp) (open_ 1008 error)⟩
  | parked nonce flag => exact ⟨_, rfl, fun _ => rfl⟩
  | joined nonce flag token => exact ⟨_, rfl, fun _ => rfl⟩
  | torn role nonce flag =>
      exact ⟨.ended, by simp [untilClosed, Phase.of, Phase.next, Phase.endings, commonEndings],
        fun open_ => absurd (by simp) (open_ 1011 "internal error")⟩
  | relayed role frame => exact ⟨_, rfl, fun _ => rfl⟩

/-- The script leaves the socket in its phase: it says nothing to it, closes it in a way that fits,
and does not change its admission. -/
structure Fits (ws : SocketId) (admission : Admission) (script : List Act) : Prop where
  silent : ∀ message, .send ws message ∉ script
  ends : ∀ code reason, .close ws code reason ∈ script →
    (code, reason) ∈ (Phase.of admission).endings
  stays : ∀ value, .attach ws value ∈ script → value.admission = admission

theorem Fits.subset (fits : Fits ws admission first) (part : ∀ act ∈ second, act ∈ first) :
    Fits ws admission second where
  silent _ member := fits.silent _ (part _ member)
  ends _ _ member := fits.ends _ _ (part _ member)
  stays _ member := fits.stays _ (part _ member)

theorem Fits.append (one : Fits ws admission first) (two : Fits ws admission second) :
    Fits ws admission (first ++ second) where
  silent _ member := (List.mem_append.mp member).elim (one.silent _) (two.silent _)
  ends _ _ member := (List.mem_append.mp member).elim (one.ends _ _) (two.ends _ _)
  stays _ member := (List.mem_append.mp member).elim (one.stays _) (two.stays _)

def Act.aims : Act → Option SocketId
  | .attach ws _ | .send ws _ | .close ws _ _ => some ws
  | _ => none

/-- The script neither speaks to the socket nor closes it, and keeps its attachment. -/
def Aside (ws : SocketId) (script : List Act) : Prop := ∀ act ∈ script, act.aims ≠ some ws

@[simp] def aimedVerbs : List Verb := [.attach, .send, .sendOk, .sendRelayed, .close]

theorem Within.aside (fits : Within verbs first) (missing : ∀ verb ∈ aimedVerbs, verb ∉ verbs) :
    Aside ws first := by
  intro act member aimed
  have verb : act.verb ∈ aimedVerbs := by
    cases act with
    | send target message => cases message <;> simp
    | attach | close => simp
    | _ => simp [Act.aims] at aimed
  exact missing _ verb (fits.each _ member)

@[simp] theorem aside_nil : Aside ws [] := fun _ member => absurd member List.not_mem_nil

@[simp] theorem aside_cons {act : Act} :
    Aside ws (act :: first) ↔ act.aims ≠ some ws ∧ Aside ws first := by
  simp [Aside]

@[simp] theorem aside_append : Aside ws (first ++ second) ↔ Aside ws first ∧ Aside ws second := by
  simp [Aside, or_imp, forall_and]

theorem Aside.toward_nil (aside : Aside ws first) : toward ws first = [] := by
  rw [List.eq_nil_iff_forall_not_mem]
  intro item member
  cases item with
  | said message => exact aside _ (mem_toward_said.mp member) rfl
  | hungUp code reason => exact aside _ (mem_toward_hungUp.mp member) rfl

theorem Aside.fits (aside : Aside ws first) : Fits ws admission first where
  silent _ member := aside _ member rfl
  ends _ _ member := absurd rfl (aside _ member)
  stays _ member := absurd rfl (aside _ member)

theorem Aside.subset (aside : Aside ws first) (part : ∀ act ∈ second, act ∈ first) :
    Aside ws second :=
  fun act member => aside act (part act member)

theorem fits_closes {sockets : List SocketId} {code : Nat} {reason : String}
    (ending : ws ∈ sockets → (code, reason) ∈ (Phase.of admission).endings) :
    Fits ws admission (sockets.map (.close · code reason)) where
  silent _ member := by simp at member
  ends _ _ member := by
    obtain ⟨_, here, same⟩ := List.mem_map.mp member
    simp only [Act.close.injEq] at same
    obtain ⟨rfl, rfl, rfl⟩ := same
    exact ending here
  stays _ member := by simp at member

theorem fits_close {target : SocketId} {code : Nat} {reason : String}
    (ending : target = ws → (code, reason) ∈ (Phase.of admission).endings) :
    Fits ws admission [.close target code reason] := by
  have closes : Fits ws admission ([target].map (.close · code reason)) :=
    fits_closes fun member => ending (List.mem_singleton.mp member).symm
  exact closes

theorem Fits.exchange (fits : Fits ws admission first) :
    Exchange admission (toward ws first) admission := by
  refine .closings _ _ fun item member => ?_
  cases item with
  | said message => exact absurd (mem_toward_said.mp member) (fits.silent message)
  | hungUp code reason =>
      exact ⟨code, reason, rfl, fits.ends code reason (mem_toward_hungUp.mp member)⟩

end Exchange

section Course
variable {ws : SocketId} {before admission : Admission} {script first second catch_ : List Act}

/-- What the acts of a step say to an open socket, and the admission that they leave it with. -/
structure Speaks (ws : SocketId) (before : Admission) (performed : List Act) : Prop where
  spoken : ∃ after, Exchange before (toward ws performed) after ∧
    (∀ value, .attach ws value ∈ performed → value.admission = after) ∧
    (after = before ∨ ∃ value, .attach ws value ∈ performed)

theorem Fits.speaks (fits : Fits ws before first) : Speaks ws before first :=
  ⟨⟨before, fits.exchange, fits.stays, .inl rfl⟩⟩

theorem Speaks.prepend (speaks : Speaks ws before second) (aside : Aside ws first) :
    Speaks ws before (first ++ second) := by
  obtain ⟨after, exchange, writes, wrote⟩ := speaks.spoken
  refine ⟨after, ?_, fun value member => ?_, wrote.imp_right ?_⟩
  · rwa [toward_append, aside.toward_nil, List.nil_append]
  · exact (List.mem_append.mp member).elim (fun early => absurd rfl (aside _ early)) (writes value)
  · exact fun ⟨value, member⟩ => ⟨value, List.mem_append_right _ member⟩

/-- What the script of a turn has in store for an open socket, where `catch_` is what the host does
if the script throws. -/
inductive Course (ws : SocketId) : List Act → Admission → List Act → Prop
  | fits {script catch_ : List Act} {admission : Admission} (fits : Fits ws admission script)
      (caught : Fits ws admission catch_) : Course ws catch_ admission script
  | greets {catch_ : List Act} (value : Attachment) (role : Role) (nonce : String) (flag : Bool)
      (written : value.admission = .challenged role nonce flag) :
      Course ws catch_ .hello [.attach ws value, .send ws (.challenge nonce)]
  | refuses {catch_ : List Act} (role : Role) (nonce : String) (flag : Bool) (error : String) :
      Course ws catch_ (.challenged role nonce flag) (reject ws error)
  | seats (role : Role) (nonce : String) (flag : Bool) (value : Attachment) (middle : List Act)
      (token : Option String) (written : value.admission = .admitted role)
      (aside : Aside ws middle) (issued : token = none ↔ role = .mac) :
      Course ws [.close ws 1011 "internal error"] (.challenged role nonce flag)
        (.attach ws value :: (middle ++ [.send ws (.ok token)]))
  | relays {catch_ : List Act} (role : Role) (frame : Frame) :
      Course ws catch_ (.admitted role) [.send ws (.relayed frame)]
  | after {catch_ : List Act} {admission : Admission} (front rest : List Act)
      (aside : Aside ws front) (caught : Fits ws admission catch_)
      (course : Course ws catch_ admission rest) : Course ws catch_ admission (front ++ rest)

/-- What has run when the script of a turn ends, however it ends. -/
def outcome (fault : Option Nat) (script catch_ : List Act) : List Act :=
  done fault script ++ if threw fault script then catch_ else []

theorem outcome_safe {fault : Option Nat}
    (safe : ∀ act ∈ script, act.isStorage = false ∧ act.isThrow = false) :
    outcome fault script catch_ = script := by
  have whole := Script.done_safe Act.isStorage Act.isThrow fault script safe
  have finished := Script.not_threw_of_done Act.isStorage Act.isThrow whole
  rw [outcome, done, whole, threw, finished]
  exact List.append_nil _

theorem outcome_cons {act : Act} (steady : act.isStorage = false) (calm : act.isThrow = false)
    (fault : Option Nat) (rest catch_ : List Act) :
    outcome fault (act :: rest) catch_ = act :: outcome fault rest catch_ := by
  have thrown : threw fault (act :: rest) = threw fault rest := by
    conv_lhs => unfold threw Script.threw
    simp [steady, calm]
  have performed := Script.done_cons_safe Act.isStorage Act.isThrow fault act rest steady calm
  rw [outcome, done, performed, thrown]
  rfl

theorem outcome_cases (fault : Option Nat) (first second catch_ : List Act) :
    outcome fault (first ++ second) catch_ = done fault first ++ catch_ ∨
      ∃ left, outcome fault (first ++ second) catch_ = first ++ outcome left second catch_ := by
  unfold outcome
  rcases Script.outcome_append Act.isStorage Act.isThrow fault first second with
    ⟨short, thrown⟩ | ⟨left, long, rest⟩
  · exact .inl (by rw [done, short, threw, thrown]; rfl)
  · exact .inr ⟨left, by rw [done, long, threw, rest, List.append_assoc]⟩

-- The socket has its slot; the last act of the script tells it so, unless a storage call between
-- the two throws.
theorem seats_speaks {role : Role} {nonce : String} {flag : Bool} {value : Attachment}
    {middle : List Act} {token : Option String} (written : value.admission = .admitted role)
    (aside : Aside ws middle) (issued : token = none ↔ role = .mac) (fault : Option Nat) :
    Speaks ws (.challenged role nonce flag)
      (outcome fault (.attach ws value :: (middle ++ [.send ws (.ok token)]))
        [.close ws 1011 "internal error"]) := by
  have only : ∀ {rest : List Act}, Aside ws rest → ∀ closing : List Act,
      (∀ given, .attach ws given ∉ closing) → ∀ given,
      .attach ws given ∈ .attach ws value :: (rest ++ closing) →
        given.admission = .admitted role := by
    intro rest aside closing none_ given member
    simp only [List.mem_append, List.mem_cons, Act.attach.injEq, true_and] at member
    rcases member with rfl | inside | last
    · exact written
    · exact absurd rfl (aside _ inside)
    · exact absurd last (none_ given)
  have spoken : ∀ {rest : List Act}, Aside ws rest → ∀ closing : List Act,
      toward ws (.attach ws value :: (rest ++ closing)) = toward ws closing := by
    intro rest aside closing
    have skip : toward ws (.attach ws value :: (rest ++ closing)) = toward ws (rest ++ closing) :=
      rfl
    rw [skip, toward_append, aside.toward_nil, List.nil_append]
  rw [outcome_cons rfl rfl]
  rcases outcome_cases fault middle [.send ws (.ok token)] [.close ws 1011 "internal error"] with
    torn | ⟨left, goes⟩
  · have begun : Aside ws (done fault middle) :=
      aside.subset fun _ => Script.done_subset Act.isStorage Act.isThrow
    rw [torn]
    refine ⟨.admitted role, ?_, only begun _ (by simp), .inr ⟨value, by simp⟩⟩
    rw [spoken begun]
    simpa [toward] using Exchange.torn role nonce flag
  · rw [goes, outcome_safe (by simp [Act.isStorage, Act.isThrow])]
    refine ⟨.admitted role, ?_, only aside _ (by simp), .inr ⟨value, by simp⟩⟩
    rw [spoken aside]
    cases token with
    | none =>
        obtain rfl := issued.mp rfl
        simpa [toward] using Exchange.parked nonce flag
    | some given =>
        cases role with
        | mac => simp at issued
        | phone => simpa [toward] using Exchange.joined nonce flag given

theorem Course.speaks (course : Course ws catch_ before script) (fault : Option Nat) :
    Speaks ws before (outcome fault script catch_) := by
  induction course generalizing fault with
  | fits fits caught =>
      refine Fits.speaks (Fits.append ?_ ?_)
      · exact fits.subset fun _ => Script.done_subset Act.isStorage Act.isThrow
      · split
        · exact caught
        · exact Aside.fits aside_nil
  | greets value role nonce flag written =>
      rw [outcome_safe (by simp [Act.isStorage, Act.isThrow])]
      refine ⟨.challenged role nonce flag, ?_, by simp [written], .inr ⟨value, by simp⟩⟩
      simpa [toward] using Exchange.greeted role nonce flag
  | refuses role nonce flag error =>
      rw [outcome_safe (by simp [reject, Act.isStorage, Act.isThrow])]
      refine ⟨.challenged role nonce flag, ?_, by simp [reject], .inl rfl⟩
      simpa [reject, toward] using Exchange.refused role nonce flag error
  | seats role nonce flag value middle token written aside issued =>
      exact seats_speaks written aside issued fault
  | relays role frame =>
      rw [outcome_safe (by simp [Act.isStorage, Act.isThrow])]
      refine ⟨.admitted role, ?_, by simp, .inl rfl⟩
      simpa [toward] using Exchange.relayed role frame
  | after front rest aside caught course ih =>
      rcases outcome_cases fault front rest _ with cut | ⟨left, goes⟩
      · have begun : Aside ws (done fault front) :=
          aside.subset fun _ => Script.done_subset Act.isStorage Act.isThrow
        rw [cut]
        exact (begun.fits.append caught).speaks
      · rw [goes]
        exact (ih left).prepend aside

end Course

section Handlers
variable (env : Env) (now : Nat) (ctx : ContextId) (state : State)
variable {ws source : SocketId} {admission : Admission} {catch_ : List Act}

theorem caught_fits : Fits ws admission [.close source 1011 "internal error"] :=
  fits_close fun _ => common_endings admission (by simp [commonEndings])

theorem Aside.course {script : List Act} (aside : Aside ws script)
    (caught : Fits ws admission catch_) : Course ws catch_ admission script :=
  .fits aside.fits caught

theorem Course.read {act : Act} {rest : List Act} (plain : act.aims = none)
    (caught : Fits ws admission catch_) (course : Course ws catch_ admission rest) :
    Course ws catch_ admission (act :: rest) :=
  .after [act] rest (by simp [plain]) caught course

theorem closeAll_fits {code : Nat} {reason : String} (common : (code, reason) ∈ commonEndings) :
    Fits ws admission (closeAll ctx state code reason) :=
  fits_closes fun _ => common_endings admission common

theorem teardownRoom_fits {reason : String} (common : (1000, reason) ∈ commonEndings) :
    Fits ws admission (teardownRoom ctx state reason) :=
  (closeAll_fits ctx state common).append (Aside.fits (by simp [Act.aims]))

variable (stands : state.admission ws = some admission)
include stands

theorem holders_admitted {role : Role} (held : ws ∈ state.holders ctx source role) :
    admission = .admitted role := by
  have holds := holds_iff.mp (mem_holders.mp held).2.2
  rw [stands] at holds
  exact Option.some.inj holds

theorem preAuth_waits (waits : ws ∈ preAuth ctx state) :
    admission = .hello ∨ ∃ role nonce flag, admission = .challenged role nonce flag := by
  have unadmitted := ((mem_preAuth ctx state ws).mp waits).2.2
  cases admission with
  | hello => exact .inl rfl
  | challenged role nonce flag => exact .inr ⟨role, nonce, flag, rfl⟩
  | admitted role => exact absurd stands (unadmitted role)

theorem closePeerOf_fits : Fits ws admission (closePeerOf ctx state source) := by
  unfold closePeerOf
  split
  · refine fits_closes fun held => ?_
    rw [holders_admitted ctx state stands held]
    simp [Phase.of, Phase.endings]
  · exact Aside.fits aside_nil

theorem displace_fits (role : Role) : Fits ws admission (displace ctx state source role) := by
  refine fits_closes fun held => ?_
  rw [holders_admitted ctx state stands held]
  simp [Phase.of, Phase.endings]

theorem evictExcessPreAuth_fits : Fits ws admission (evictExcessPreAuth ctx state) := by
  refine fits_closes fun member => ?_
  have waits : ws ∈ preAuth ctx state :=
    evicted_preAuth (by rw [evictExcessPreAuth, closes_map]; exact member)
  rcases preAuth_waits ctx state stands waits with rfl | ⟨role, nonce, flag, rfl⟩
  · simp [Phase.of, Phase.endings]
  · simp [Phase.of, Phase.endings]

theorem sweepPreAuth_fits {seen : List SocketId} (found : ws ∈ seen → ws ∈ preAuth ctx state) :
    Fits ws admission (sweepPreAuth now state seen) := by
  refine fits_closes fun member => ?_
  rcases preAuth_waits ctx state stands (found (List.mem_filter.mp member).1) with
    rfl | ⟨role, nonce, flag, rfl⟩
  · simp [Phase.of, Phase.endings]
  · simp [Phase.of, Phase.endings]

theorem alarm_fits {seen : List SocketId} (found : ws ∈ seen → ws ∈ preAuth ctx state) :
    Fits ws admission (alarm env now ctx state seen) := by
  have front : Fits ws admission (alarmFront now state seen) := by
    unfold alarmFront
    rw [List.append_assoc]
    refine (sweepPreAuth_fits now ctx state stands found).append (Fits.append ?_ ?_)
    · exact ((pruneExpired_within now state).aside (by simp)).fits
    · apply Aside.fits
      split
      · split <;> simp [Act.aims]
      · simp [Act.aims]
  rcases alarm_cases env now ctx state seen with ⟨_, whole⟩ | ⟨_, next, _, whole⟩ | ⟨_, _, whole⟩
  · rw [whole]
    exact front.append (teardownRoom_fits ctx _ (by simp [commonEndings]))
  · rw [whole]
    exact front.append (Aside.fits (by simp [Act.aims]))
  · rw [whole]
    exact front

theorem finishUpgrade_fits : Fits ws admission (finishUpgrade env now ctx state source) := by
  have backfills : Fits ws admission (backfillTag env state source) := by
    have writes := backfillTag_within env state source
    refine ⟨fun message => writes.lacks (by cases message <;> simp),
      fun code reason member => absurd member (writes.lacks (by simp)), ?_⟩
    · intro value member
      have written : .attach ws value ∈ finishUpgrade env now ctx state source :=
        List.mem_append_left _ (List.mem_append_left _ member)
      have kept := (finishUpgrade_admission env now ctx state source ws value written).2
      rw [stands] at kept
      exact (Option.some.inj kept).symm
  exact (backfills.append (evictExcessPreAuth_fits ctx state stands)).append
    ((ensureAlarm_within now state).aside (by simp)).fits

section Proof
variable {proving : Role} (challenged : ws = source → ∃ nonce flag,
  admission = .challenged proving nonce flag)
include challenged

omit stands in
theorem reject_course (error : String) :
    Course ws [.close source 1011 "internal error"] admission (reject source error) := by
  by_cases here : ws = source
  · subst here
    obtain ⟨nonce, flag, rfl⟩ := challenged rfl
    exact .refuses proving nonce flag error
  · exact Aside.course (by simp [reject, Act.aims, Ne.symm here]) caught_fits

theorem seat_course (random : Bytes) (attest : Option AttestedKey) :
    Course ws [.close source 1011 "internal error"] admission
      (seat env now ctx state random source proving attest) := by
  by_cases here : ws = source
  · subst here
    obtain ⟨nonce, flag, rfl⟩ := challenged rfl
    refine .after (displace ctx state ws proving) _ ?_ caught_fits ?_
    · intro act member aimed
      obtain ⟨other, held, rfl⟩ := List.mem_map.mp member
      exact (mem_holders.mp held).2.1 (Option.some.inj aimed)
    · cases proving with
      | mac => exact .seats .mac nonce flag _ [] none rfl aside_nil (by simp)
      | phone =>
          refine .seats .phone nonce flag _ (.put _ :: ensureAlarm now state) _ rfl ?_ (by simp)
          exact aside_cons.mpr ⟨by simp [Act.aims],
            (ensureAlarm_within now state).aside (by simp)⟩
  · refine .fits ((displace_fits ctx state stands proving).append (Aside.fits ?_)) caught_fits
    refine aside_cons.mpr ⟨by simp [Act.aims, Ne.symm here], ?_⟩
    cases proving with
    | mac => simp [greet, Act.aims, Ne.symm here]
    | phone =>
        simp only [greet, aside_append, aside_cons]
        exact ⟨⟨by simp [Act.aims], (ensureAlarm_within now state).aside (by simp)⟩,
          by simp [Act.aims, Ne.symm here], aside_nil⟩

theorem admit_course (random : Bytes) (attest : Option AttestedKey) :
    Course ws [.close source 1011 "internal error"] admission
      (admitSocket env now ctx state random source proving attest) := by
  rcases admit_cases env now ctx state random source proving attest with
    ⟨whole, _⟩ | ⟨whole, _⟩ | ⟨whole, _⟩
  · rw [whole]
    exact .read rfl caught_fits (reject_course challenged _)
  · rw [whole]
    refine .read rfl caught_fits (.read rfl caught_fits (.fits ?_ caught_fits))
    exact teardownRoom_fits ctx state (by simp [commonEndings])
  · rw [whole]
    have charged : Aside ws (.get :: charge state proving) :=
      aside_cons.mpr ⟨by simp [Act.aims], (charge_within ..).aside (by simp)⟩
    refine .after _ _ charged caught_fits ?_
    rcases takeSlot_cases env now ctx state random source proving attest with
      ⟨taken, _⟩ | ⟨taken, _⟩
    · rw [taken]
      exact reject_course challenged _
    · rw [taken]
      exact seat_course env now ctx state stands challenged random attest

theorem pairingProof_course (random : Bytes) (proof : Json) :
    Course ws [.close source 1011 "internal error"] admission
      (pairingProof env now ctx state random source proving proof) := by
  have admits := admit_course env now ctx state stands challenged random
  have rejects := reject_course challenged
  unfold pairingProof
  split
  · cases proving with
    | mac => exact admits none
    | phone =>
        dsimp only
        split
        · exact Aside.course (by simp [Act.aims]) caught_fits
        · exact rejects _
        · refine .read rfl caught_fits ?_
          split
          · exact rejects _
          · split
            · exact rejects _
            · exact .read rfl caught_fits (admits _)
  · exact admits none

theorem handleProof_course (id : Nat) (nonce : String) (random : Bytes) (frame : Frame) :
    Course ws [.close source 1011 "internal error"] admission
      (handleProof env now ctx state id source proving nonce random frame) := by
  have rejects := reject_course challenged
  unfold handleProof
  dsimp only
  refine .read rfl caught_fits ?_
  split
  · exact rejects _
  · split
    · exact rejects _
    · refine .read rfl caught_fits ?_
      split
      · exact pairingProof_course env now ctx state stands challenged random _
      · split
        · exact Aside.course (by simp [Act.aims]) caught_fits
        · exact rejects _
        · split
          · exact Aside.course (by simp [Act.aims]) caught_fits
          · exact Aside.course (by simp [Act.aims]) caught_fits

end Proof

theorem finishProof_course (random : Bytes) (check : JoinCheck)
    (challenged : ws = check.ws → ∃ nonce flag, admission = .challenged check.role nonce flag) :
    Course ws [.close check.ws 1011 "internal error"] admission
      (finishProof env now ctx state random check) := by
  unfold finishProof
  split
  · have bumps := bumpActivity_within now state
    refine .after _ _ (bumps.aside (by simp)) caught_fits (admit_course _ _ _ _ ?_ challenged _ _)
    rw [replay_admission_kept]
    · exact stands
    · exact fun other value member => absurd member (bumps.lacks (by simp))
  · exact reject_course challenged _

omit stands in
theorem handleHello_course (fresh : ws = source → admission = .hello) (random : Bytes)
    (frame : Frame) :
    Course ws [.close source 1011 "internal error"] admission
      (handleHello env state source random frame) := by
  have bad : Course ws [.close source 1011 "internal error"] admission
      [.close source 1008 "bad hello"] := by
    refine .fits (fits_close fun here => ?_) caught_fits
    rw [fresh here.symm]
    simp [Phase.of, Phase.endings]
  unfold handleHello
  split
  · split
    · dsimp only
      split
      · split
        · by_cases here : ws = source
          · subst here
            rw [fresh rfl]
            exact .greets _ _ _ _ rfl
          · exact Aside.course (by simp [Act.aims, Ne.symm here]) caught_fits
        · exact bad
      · exact bad
    · exact Aside.course (by simp [Act.aims]) caught_fits
    · exact bad
  · exact bad

theorem spliceFrame_course (role : Role) (seated : ws = source → admission = .admitted role)
    (frame : Frame) :
    Course ws [.close source 1011 "internal error"] admission
      (spliceFrame env now ctx state source role frame) := by
  have counts : ∀ window : Window, Aside ws [.countFrame window] := fun _ => by simp [Act.aims]
  unfold spliceFrame
  dsimp only
  split
  · refine .read rfl caught_fits (.fits ?_ caught_fits)
    refine (closePeerOf_fits ctx state stands).append (fits_close fun here => ?_)
    rw [seated here.symm]
    simp [Phase.of, Phase.endings]
  · refine .read rfl caught_fits ?_
    rcases @meterQuota_cases env state now ctx frame.size with
      ⟨exceeds, front, quiet, shape⟩ | ⟨within, quiet⟩
    · rw [exceeds, shape, if_pos rfl, List.append_nil]
      exact .fits ((quiet.aside (by simp)).fits.append
        (closeAll_fits ctx state (by simp [commonEndings]))) caught_fits
    · rw [within]
      simp only [Bool.false_eq_true, if_false]
      refine .after _ _ (quiet.aside (by simp)) caught_fits ?_
      unfold forward
      split
      · rename_i peer rest holders
        by_cases here : ws = peer
        · subst here
          rw [holders_admitted ctx state stands (holders ▸ List.mem_cons_self)]
          exact .relays _ frame
        · exact Aside.course (by simp [Act.aims, Ne.symm here]) caught_fits
      · exact Aside.course aside_nil caught_fits

theorem webSocketMessage_course (id : Nat) (random : Bytes) (frame : Frame) :
    Course ws [.close source 1011 "internal error"] admission
      (webSocketMessage env now ctx state id source random frame) := by
  unfold webSocketMessage
  split
  · refine .fits ((closePeerOf_fits ctx state stands).append (fits_close fun _ => ?_)) caught_fits
    exact common_endings admission (by simp [commonEndings])
  · have same : ∀ current, ws = source → state.admission source = current →
        current = some admission := by
      rintro current rfl rfl
      exact stands
    split
    · rename_i unseen
      exact handleHello_course env state
        (fun here => absurd (same _ here unseen) (by simp)) random frame
    · rename_i hello
      exact handleHello_course env state
        (fun here => (Option.some.inj (same _ here hello)).symm) random frame
    · rename_i role nonce flag challenged
      exact handleProof_course env now ctx state stands
        (fun here => ⟨nonce, flag, (Option.some.inj (same _ here challenged)).symm⟩) id nonce random
        frame
    · rename_i role admitted
      exact spliceFrame_course env now ctx state stands role
        (fun here => (Option.some.inj (same _ here admitted)).symm) frame

end Handlers

section Run
variable {env : Env} {state : State} {event : Event} {met : Turn} {ws : SocketId}
  {admission : Admission}

theorem Turns.course (wired : Wired env state) (turns : Turns env state event met)
    (stands : state.admission ws = some admission) :
    Course ws met.onThrow admission met.script := by
  cases turns with
  | get => exact Aside.course aside_nil aside_nil.fits
  | connect now opened ctx resident unseen =>
      have apart : opened ≠ ws := by
        rintro rfl
        simp [State.admission, unseen] at stands
      exact Aside.course (by simp [handleUpgrade, Act.aims, apart]) aside_nil.fits
  | chunk => exact Aside.course aside_nil aside_nil.fits
  | ended => exact Aside.course aside_nil aside_nil.fits
  | idle => exact Aside.course aside_nil aside_nil.fits
  | task now source task rest drained free next =>
      have popped : (state.pop source rest).admission ws = some admission := stands
      cases task with
      | message frame random fault =>
          exact webSocketMessage_course env now _ _ popped state.nextId random frame
      | closed => exact .fits (closePeerOf_fits _ _ popped) aside_nil.fits
      | errored => exact .fits (closePeerOf_fits _ _ popped) aside_nil.fits
  | resume now id random fault handler found free =>
      obtain ⟨suspended, numbered⟩ := mem_find found
      obtain ⟨handlerId, ctx, await⟩ := handler
      obtain rfl : handlerId = id := numbered
      have woken : ∀ draining, (state.wake handlerId draining).admission ws = some admission :=
        fun _ => stands
      have fits := continuation_within env now ctx (state.wake handlerId await.drains) handlerId
        random await
      cases await with
      | upgradeTag opened => exact .fits (finishUpgrade_fits env now ctx _ (woken _)) caught_fits
      | proofSignature check =>
          obtain ⟨nonce, flag, challenged, _⟩ := (wired.proving _ suspended check rfl).challenged
          refine finishProof_course env now ctx _ (woken _) random check ?_
          rintro rfl
          rw [stands] at challenged
          exact ⟨nonce, flag, Option.some.inj challenged⟩
      | deleteTag =>
          refine .fits ((teardownRoom_fits ctx _ (by simp [commonEndings])).append ?_)
            (Aside.fits (by simp [Await.onThrow, Act.aims]))
          exact ((answer_within ..).aside (by simp)).fits
      | _ =>
          exact (fits.aside (by simp)).course
            (Aside.fits (by simp [Await.onThrow, Act.aims]))
  | request now request random fault ctx resident =>
      refine ((handleHttp_within ..).aside ?_).course (Aside.fits (by simp [Act.aims]))
      cases request <;> simp
      split <;> simp
  | fire now ctx at_ fault armed due free =>
      have start : ({ state with timer := Function.update state.timer ctx none } : State).admission ws =
          some admission := stands
      exact .fits (alarm_fits env now ctx _ start id) (Aside.fits (by simp [alarmTurn, Act.aims]))
  | alarm now ctx fault started =>
      have start : ({ state with alarming := none } : State).admission ws = some admission := stands
      exact .fits (alarm_fits env now ctx _ start (absurd · List.not_mem_nil))
        (Aside.fits (by simp [alarmTurn, Act.aims]))
  | drain ctx resident =>
      exact .fits (closeAll_fits ctx state (by simp [commonEndings])) aside_nil.fits
  | restart => exact Aside.course aside_nil aside_nil.fits

theorem admission_after (env : Env) (state : State) (event : Event) {after : Admission}
    (stands : state.admission ws = some admission)
    (writes : ∀ value, .attach ws value ∈ acts env state event → value.admission = after)
    (wrote : after = admission ∨ ∃ value, .attach ws value ∈ acts env state event) :
    (step env state event).admission ws = some after := by
  rw [State.admission, step_attachment]
  generalize acts env state event = script at writes wrote
  induction script using List.reverseRecOn with
  | nil =>
      rcases wrote with rfl | ⟨_, member⟩
      · exact stands
      · exact absurd member List.not_mem_nil
  | append_singleton lead act ih =>
      rw [List.foldl_append, List.foldl_cons, List.foldl_nil]
      by_cases here : ∃ value, act = .attach ws value
      · obtain ⟨value, rfl⟩ := here
        simp [attachmentAfter, writes value]
      · have kept : attachmentAfter (lead.foldl attachmentAfter state.attachment) act ws =
            lead.foldl attachmentAfter state.attachment ws := by
          cases act with
          | attach target value =>
              have apart : ws ≠ target := by
                rintro rfl
                exact here ⟨value, rfl⟩
              exact Function.update_of_ne apart ..
          | _ => rfl
        rw [kept]
        refine ih (fun value member => writes value (List.mem_append_left _ member)) ?_
        rcases wrote with same | ⟨value, member⟩
        · exact .inl same
        · refine .inr ⟨value, (List.mem_append.mp member).resolve_right fun last => ?_⟩
          exact here ⟨value, (List.mem_singleton.mp last).symm⟩

-- What one step says to an open socket is what the protocol has next.
theorem step_leads (wired : Wired env state) (routed : state.routable ws)
    (stands : state.admission ws = some admission) :
    ∃ phase, (seen env ws (state, event)).foldlM Phase.next (.of admission) = some phase ∧
      ((step env state event).routable ws → ∃ after,
        (step env state event).admission ws = some after ∧ phase = .of after) := by
  simp only [seen, routed, if_true]
  rcases step_cases env state event with ⟨none_, same⟩ | ⟨met, turns, performed, result⟩
  · rw [none_, same]
    exact ⟨_, rfl, fun _ => ⟨admission, stands, rfl⟩⟩
  · obtain ⟨after, exchange, writes, wrote⟩ := ((turns.course wired stands).speaks met.fault).spoken
    have whole : outcome met.fault met.script met.onThrow = acts env state event := performed.symm
    rw [whole] at exchange writes wrote
    obtain ⟨phase, led, opened⟩ := exchange.leads
    refine ⟨phase, led, fun stays => ⟨after, admission_after env state event stands writes wrote, ?_⟩⟩
    refine opened fun code reason member => ?_
    rw [mem_toward_hungUp, performed] at member
    rw [result] at stays
    exact turns.closed_unroutable wired (mem_closes.mpr ⟨code, reason, member⟩) stays

theorem opened_hello (unrouted : ¬ state.routable ws)
    (routed : (step env state event).routable ws) :
    state.attachment ws = none ∧ (step env state event).admission ws = some .hello := by
  have unseen : state.attachment ws = none := by
    by_contra attached
    exact unrouted (routable_attached attached routed)
  refine ⟨unseen, ?_⟩
  rcases step_cases env state event with ⟨_, same⟩ | ⟨met, turns, performed, result⟩
  · rw [same] at routed
    exact absurd routed unrouted
  · by_cases fresh : ∃ now, event = .connect now ws
    · obtain ⟨now, rfl⟩ := fresh
      rw [State.admission, step_attachment, performed]
      cases turns with
      | connect now opened ctx resident unseen =>
          have whole : outcome none (handleUpgrade env now state.nextId ws) [] =
              handleUpgrade env now state.nextId ws :=
            outcome_safe (by simp [handleUpgrade, Act.isStorage, Act.isThrow])
          change ((outcome none (handleUpgrade env now state.nextId ws) []).foldl attachmentAfter
            state.attachment ws).map (·.admission) = some .hello
          rw [whole]
          simp [handleUpgrade, attachmentAfter]
    · rw [result] at routed
      exact absurd (turns.routable_before (fun now same => fresh ⟨now, same⟩) routed).1 unrouted

end Run

/-- In every run each client sees a conversation of the protocol. -/
theorem conversation_kept (env : Env) (events : List Event) (ws : SocketId) :
    Conversant env ws events := by
  suffices both : Conversant env ws events ∧ ((run env events).attachment ws = none →
      conversation env ws events = some .greeting) from both.1
  induction events using List.reverseRecOn with
  | nil => exact ⟨⟨.greeting, rfl, fun routed => absurd routed List.not_mem_nil⟩, fun _ => rfl⟩
  | append_singleton before event ih =>
      obtain ⟨⟨phase, said, agrees⟩, fresh⟩ := ih
      have wired := wired_run env before
      have ran : run env (before ++ [event]) = step env (run env before) event := by simp [run]
      have after : conversation env ws (before ++ [event]) =
          (seen env ws (run env before, event)).foldlM Phase.next phase := by
        rw [conversation, steps, Machine.steps_append, List.flatMap_append, List.foldlM_append]
        change (conversation env ws before >>= fun phase => _) = _
        rw [said]
        simp [Machine.steps]
      rw [Conversant, after, ran]
      by_cases routed : (run env before).routable ws
      · obtain ⟨admission, stands, rfl⟩ := agrees routed
        refine ⟨step_leads wired routed stands, fun unseen => ?_⟩
        exact absurd unseen (attached_stays (wired.anchored _ _ routed).2.2)
      · have silent : seen env ws (run env before, event) = [] := if_neg routed
        rw [silent]
        refine ⟨⟨phase, rfl, fun opened => ?_⟩, fun unseen => ?_⟩
        · obtain ⟨unseen, hello⟩ := opened_hello routed opened
          have start := said.symm.trans (fresh unseen)
          exact ⟨.hello, hello, by simpa [Phase.of] using start⟩
        · refine (said.symm.trans (fresh ?_))
          by_contra attached
          exact attached_stays attached unseen

end Relay

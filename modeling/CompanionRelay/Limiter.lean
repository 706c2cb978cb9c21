import CompanionRelay.Machine
import CompanionRelay.Ordered
import Mathlib.Data.List.Infix
import Mathlib.Order.Nat
import Mathlib.Tactic.Common

/-!
host/server.js: makeLimiter, the fixed windows of each key, and the bound on how many keys
are held. Its function over whole sequences of calls: what it holds, when it says that a key
is over its limit, and how often it does not within an interval.
-/

namespace Relay
namespace Limiter

structure Limits where
  limit : Nat
  windowMs : Nat
  maxKeys : Nat

structure Window where
  start : Nat
  count : Nat

abbrev Windows := OrderedMap String Window

def expired (limits : Limits) (now : Nat) (window : Window) : Bool :=
  now - window.start > limits.windowMs

/-- The sweep of the expired windows. -/
def sweep (limits : Limits) (now : Nat) (windows : Windows) : Windows :=
  ⟨windows.entries.filter fun entry => !expired limits now entry.2,
    windows.nodup.sublist (List.filter_sublist.map Prod.fst)⟩

/-- The loop that drops the oldest entry until no more are held than may be. -/
def dropOldest (maxKeys : Nat) : List (String × Window) → List (String × Window)
  | [] => []
  | oldest :: rest =>
      if (oldest :: rest).length > maxKeys then dropOldest maxKeys rest else oldest :: rest

theorem dropOldest_suffix (maxKeys : Nat) (entries : List (String × Window)) :
    dropOldest maxKeys entries <:+ entries := by
  induction entries with
  | nil => exact List.suffix_refl []
  | cons oldest rest ih =>
      unfold dropOldest
      by_cases many : (oldest :: rest).length > maxKeys
      · rw [if_pos many]
        exact ih.trans (List.suffix_cons oldest rest)
      · rw [if_neg many]

def evictOldest (limits : Limits) (windows : Windows) : Windows :=
  ⟨dropOldest limits.maxKeys windows.entries,
    windows.nodup.sublist ((dropOldest_suffix _ _).sublist.map Prod.fst)⟩

/-- The window that a call counts in, with the call. -/
def counted (limits : Limits) (windows : Windows) (key : String) (now : Nat) : Window :=
  match windows.get? key with
  | some window =>
      if expired limits now window then ⟨now, 1⟩ else ⟨window.start, window.count + 1⟩
  | none => ⟨now, 1⟩

/-- What makeLimiter returns: the windows after a call, and whether the key is over. -/
def «over» (limits : Limits) (windows : Windows) (key : String) (now : Nat) : Windows × Bool :=
  let window := counted limits windows key now
  let held := windows.set key window
  (if held.entries.length > limits.maxKeys then evictOldest limits (sweep limits now held)
    else held,
    window.count > limits.limit)

structure Call where
  key : String
  now : Nat

def step (limits : Limits) (windows : Windows) (call : Call) : Windows :=
  («over» limits windows call.key call.now).1

/-- Whether a call finds its key over the limit. -/
def refuses (limits : Limits) (met : Windows × Call) : Bool :=
  («over» limits met.1 met.2.key met.2.now).2

/-- A call drops a key whose window has not expired. -/
def Evicts (limits : Limits) (key : String) (met : Windows × Call) : Prop :=
  ∃ window, (met.1.set met.2.key (counted limits met.1 met.2.key met.2.now)).get? key = some window ∧
    expired limits met.2.now window = false ∧ (step limits met.1 met.2).get? key = none

def Steady (calls : List Call) : Prop := (calls.map Call.now).Pairwise (· ≤ ·)

instance (calls : List Call) : Decidable (Steady calls) :=
  inferInstanceAs (Decidable (List.Pairwise _ _))

abbrev calling (limits : Limits) : Windows → List Call → Windows := Machine.run (step limits)

abbrev called (limits : Limits) : Windows → List Call → List (Windows × Call) :=
  Machine.steps (step limits)

/-- Whether a call is one for the key in the interval of the length that begins at a time. -/
def inside (windowMs : Nat) (key : String) (from_ : Nat) (call : Call) : Bool :=
  call.key = key && from_ ≤ call.now && call.now ≤ from_ + windowMs

/-- What a limiter promises over a list of calls. -/
structure Bounded (limits : Limits) (calls : List Call) : Prop where
  held : ∀ lead, lead <+: calls →
    (calling limits OrderedMap.empty lead).entries.length ≤ limits.maxKeys
  keeps : ∀ met ∈ called limits OrderedMap.empty calls,
    met.2.key ∈ step limits met.1 met.2
  refused : ∀ before met after, called limits OrderedMap.empty calls = before ++ met :: after →
    refuses limits met = true →
      limits.limit < (before ++ [met]).countP fun past =>
        past.2.key = met.2.key && met.2.now ≤ past.2.now + limits.windowMs
  within : ∀ key from_,
    (∀ met ∈ called limits OrderedMap.empty calls,
      from_ ≤ met.2.now → met.2.now ≤ from_ + limits.windowMs → ¬ Evicts limits key met) →
    ((called limits OrderedMap.empty calls).countP fun met =>
      inside limits.windowMs key from_ met.2 && !refuses limits met) ≤ 2 * limits.limit

section Step
variable {limits : Limits} {windows : Windows} {call : Call} {key : String} {window : Window}

theorem expired_iff {now : Nat} :
    expired limits now window = true ↔ window.start + limits.windowMs < now := by
  simp only [expired, decide_eq_true_eq]
  omega

theorem dropOldest_length (maxKeys : Nat) (entries : List (String × Window)) :
    (dropOldest maxKeys entries).length ≤ maxKeys := by
  induction entries with
  | nil => exact Nat.zero_le _
  | cons oldest rest ih =>
      unfold dropOldest
      by_cases many : (oldest :: rest).length > maxKeys
      · rw [if_pos many]
        exact ih
      · rw [if_neg many]
        exact Nat.le_of_not_lt many

theorem dropOldest_newest {maxKeys : Nat} (positive : 1 ≤ maxKeys)
    (entries : List (String × Window)) (newest : String × Window) :
    newest ∈ dropOldest maxKeys (entries ++ [newest]) := by
  induction entries with
  | nil =>
      have few : ¬ [newest].length > maxKeys := Nat.not_lt.mpr positive
      have all : dropOldest maxKeys [newest] = [newest] := if_neg few
      rw [List.nil_append, all]
      exact List.mem_singleton_self newest
  | cons oldest rest ih =>
      rw [List.cons_append]
      unfold dropOldest
      by_cases many : (oldest :: (rest ++ [newest])).length > maxKeys
      · rw [if_pos many]
        exact ih
      · rw [if_neg many]
        exact List.mem_cons_of_mem _ (List.mem_append_right _ (List.mem_singleton_self newest))

-- A call counts in a window of its own, or in the one that its key has and that is not over.
theorem counted_cases (limits : Limits) (windows : Windows) (call : Call) :
    (counted limits windows call.key call.now = ⟨call.now, 1⟩ ∧
      ∀ window, windows.get? call.key = some window → window.start + limits.windowMs < call.now) ∨
    ∃ window, windows.get? call.key = some window ∧
      call.now ≤ window.start + limits.windowMs ∧
      counted limits windows call.key call.now = ⟨window.start, window.count + 1⟩ := by
  unfold counted
  cases windows.get? call.key with
  | none => exact .inl ⟨rfl, by simp⟩
  | some window =>
      dsimp only
      by_cases old : expired limits call.now window = true
      · rw [if_pos old]
        refine .inl ⟨rfl, fun other same => ?_⟩
        rw [← Option.some.inj same]
        exact expired_iff.mp old
      · rw [if_neg old]
        exact .inr ⟨window, rfl, Nat.le_of_not_lt fun past => old (expired_iff.mpr past), rfl⟩

theorem counted_fresh (limits : Limits) (windows : Windows) (call : Call) :
    call.now ≤ (counted limits windows call.key call.now).start + limits.windowMs := by
  rcases counted_cases limits windows call with ⟨same, _⟩ | ⟨window, _, open_, same⟩
  · rw [same]
    exact Nat.le_add_right _ _
  · rw [same]
    exact open_

theorem set_length (known : key ∈ windows) (window : Window) :
    (windows.set key window).entries.length = windows.entries.length := by
  have known : key ∈ windows.keys := known
  simp [OrderedMap.set, known]

theorem set_entries (fresh : key ∉ windows) (window : Window) :
    (windows.set key window).entries = windows.entries ++ [(key, window)] := by
  have fresh : key ∉ windows.keys := fresh
  simp [OrderedMap.set, fresh]

theorem step_length (windows : Windows) (call : Call) :
    (step limits windows call).entries.length ≤ limits.maxKeys := by
  unfold step «over»
  dsimp only
  by_cases many : (windows.set call.key
      (counted limits windows call.key call.now)).entries.length > limits.maxKeys
  · rw [if_pos many]
    exact dropOldest_length _ _
  · rw [if_neg many]
    exact Nat.le_of_not_lt many

theorem step_kept (kept : (step limits windows call).get? key = some window) :
    (windows.set call.key (counted limits windows call.key call.now)).get? key = some window := by
  unfold step «over» at kept
  dsimp only at kept
  by_cases many : (windows.set call.key
      (counted limits windows call.key call.now)).entries.length > limits.maxKeys
  · rw [if_pos many, OrderedMap.entry_iff] at kept
    have swept := (dropOldest_suffix _ _).subset kept
    exact (OrderedMap.entry_iff _ _ _).mpr (List.mem_of_mem_filter swept)
  · rw [if_neg many] at kept
    exact kept

theorem step_own (positive : 1 ≤ limits.maxKeys)
    (small : windows.entries.length ≤ limits.maxKeys) :
    (step limits windows call).get? call.key =
      some (counted limits windows call.key call.now) := by
  have inserted := (OrderedMap.get?_set windows call.key call.key _ _).mpr
    (.inl ⟨rfl, (rfl : counted limits windows call.key call.now = _)⟩)
  unfold step «over»
  dsimp only
  by_cases many : (windows.set call.key
      (counted limits windows call.key call.now)).entries.length > limits.maxKeys
  · rw [if_pos many, OrderedMap.entry_iff]
    -- The map has grown past its bound, so the key is new and stands last, the youngest of all.
    have fresh : call.key ∉ windows := by
      intro known
      rw [set_length known] at many
      omega
    unfold evictOldest sweep
    dsimp only
    have young : expired limits call.now (counted limits windows call.key call.now) = false :=
      eq_false_of_ne_true fun old =>
        absurd (expired_iff.mp old) (Nat.not_lt.mpr (counted_fresh limits windows call))
    rw [set_entries fresh, List.filter_append, List.filter_singleton, young]
    exact dropOldest_newest positive _ _
  · rw [if_neg many]
    exact inserted

theorem step_other (apart : key ≠ call.key) :
    (step limits windows call).get? key = windows.get? key ∨
      (step limits windows call).get? key = none ∧ ∃ window, windows.get? key = some window ∧
        (expired limits call.now window = true ∨ Evicts limits key (windows, call)) := by
  cases kept : (step limits windows call).get? key with
  | some window =>
      rcases (OrderedMap.get?_set _ _ _ _ _).mp (step_kept kept) with ⟨same, _⟩ | ⟨_, before⟩
      · exact absurd same apart
      · exact .inl before.symm
  | none =>
      cases before : windows.get? key with
      | none => exact .inl rfl
      | some window =>
          refine .inr ⟨rfl, window, rfl, ?_⟩
          cases old : expired limits call.now window with
          | true => exact .inl rfl
          | false =>
              have held := (OrderedMap.get?_set windows call.key key window
                (counted limits windows call.key call.now)).mpr (.inr ⟨apart, before⟩)
              exact .inr ⟨window, held, old, kept⟩

end Step

section Runs
variable {limits : Limits} {windows : Windows} {calls : List Call} {key : String} {from_ : Nat}

theorem Steady.tail {call : Call} (steady : Steady (call :: calls)) :
    (∀ later ∈ calls, call.now ≤ later.now) ∧ Steady calls := by
  simpa [Steady] using steady

/-- Whether a call is one for the key since a time. -/
def since (key : String) (start : Nat) (met : Windows × Call) : Bool :=
  met.2.key = key && start ≤ met.2.now

/-- Each window counts calls for its key since its start. -/
def Counts (past : List (Windows × Call)) (until_ : Nat) (windows : Windows) : Prop :=
  ∀ key window, windows.get? key = some window → window.start ≤ until_ ∧
    window.count ≤ past.countP (since key window.start)

theorem counted_counts (limits : Limits) {past : List (Windows × Call)} {call : Call}
    (counts : Counts past call.now windows) :
    (counted limits windows call.key call.now).start ≤ call.now ∧
      (counted limits windows call.key call.now).count ≤ (past ++ [(windows, call)]).countP
        (since call.key (counted limits windows call.key call.now).start) := by
  rcases counted_cases limits windows call with ⟨same, _⟩ | ⟨window, held, _, same⟩
  · rw [same, List.countP_append]
    exact ⟨Nat.le_refl _, by simp [since]⟩
  · obtain ⟨started, enough⟩ := counts call.key window held
    rw [same, List.countP_append]
    refine ⟨started, ?_⟩
    have here : [(windows, call)].countP (since call.key window.start) = 1 := by
      simp [since, started]
    rw [here]
    exact Nat.succ_le_succ enough

theorem step_counts {past : List (Windows × Call)} {call : Call}
    (counts : Counts past call.now windows) :
    Counts (past ++ [(windows, call)]) call.now (step limits windows call) := by
  intro key window kept
  rcases (OrderedMap.get?_set _ _ _ _ _).mp (step_kept kept) with ⟨rfl, rfl⟩ | ⟨_, before⟩
  · exact counted_counts limits counts
  · obtain ⟨started, enough⟩ := counts key window before
    refine ⟨started, enough.trans ?_⟩
    rw [List.countP_append]
    exact Nat.le_add_right _ _

-- A key is over only after more than limit calls for it within the last windowMs.
theorem refuses_counts {past : List (Windows × Call)} {until_ : Nat}
    (counts : Counts past until_ windows) (later : ∀ call ∈ calls, until_ ≤ call.now)
    (steady : Steady calls) (before after : List (Windows × Call)) (met : Windows × Call)
    (split : called limits windows calls = before ++ met :: after)
    (refused : refuses limits met = true) :
    limits.limit < (past ++ before ++ [met]).countP fun past =>
      past.2.key = met.2.key && met.2.now ≤ past.2.now + limits.windowMs := by
  induction before generalizing calls windows past until_ with
  | nil =>
      cases calls with
      | nil => simp at split
      | cons call rest =>
          obtain ⟨rfl, _⟩ := List.cons.inj split
          have here : Counts past call.now windows := fun key window held =>
            (counts key window held).imp_left fun started => started.trans (later call (by simp))
          obtain ⟨_, enough⟩ := counted_counts limits here
          have fresh := counted_fresh limits windows call
          have more : limits.limit < (counted limits windows call.key call.now).count :=
            of_decide_eq_true refused
          rw [List.append_nil]
          refine more.trans_le (enough.trans (List.countP_mono_left ?_))
          intro met _ same
          simp only [since, Bool.and_eq_true, decide_eq_true_eq] at same ⊢
          exact ⟨same.1, by omega⟩
  | cons first others ih =>
      cases calls with
      | nil => simp at split
      | cons call rest =>
          obtain ⟨rfl, tail⟩ := List.cons.inj split
          have here : Counts past call.now windows := fun key window held =>
            (counts key window held).imp_left fun started => started.trans (later call (by simp))
          obtain ⟨after_, steady'⟩ := steady.tail
          have whole := ih (step_counts here) after_ steady' tail
          rw [List.append_assoc past, List.singleton_append] at whole
          exact whole

/-- How often a key may still be let through in the interval that has begun. -/
def allowance (limits : Limits) (from_ : Nat) : Option Window → Nat
  | none => limits.limit
  | some window => (limits.limit - window.count) + if from_ ≤ window.start then 0 else limits.limit

theorem allowance_le (held : Option Window) : allowance limits from_ held ≤ 2 * limits.limit := by
  cases held with
  | none => exact Nat.le_mul_of_pos_left _ (by simp)
  | some window =>
      unfold allowance
      dsimp only
      by_cases begun : from_ ≤ window.start
      · rw [if_pos begun]
        omega
      · rw [if_neg begun]
        omega

-- Within the interval a new window can only replace one that began before it.
theorem allowance_spent (windows : Windows) {call : Call} (begun : from_ ≤ call.now)
    (open_ : call.now ≤ from_ + limits.windowMs) :
    (if (counted limits windows call.key call.now).count > limits.limit then 0 else 1) +
        allowance limits from_ (some (counted limits windows call.key call.now)) ≤
      allowance limits from_ (windows.get? call.key) := by
  -- A new window replaces none or one that has ended; in an open one the count goes up by one.
  rcases counted_cases limits windows call with ⟨same, ended⟩ | ⟨window, held, _, same⟩
  · rw [same]
    cases held : windows.get? call.key with
    | none =>
        simp only [allowance, begun, if_true]
        split <;> omega
    | some window =>
        have early : ¬ from_ ≤ window.start := by
          have past := ended window held
          omega
        simp only [allowance, begun, early, if_true, if_false]
        split <;> omega
  · rw [same, held]
    simp only [allowance]
    split <;> omega

theorem within_allowance (positive : 1 ≤ limits.maxKeys)
    (small : windows.entries.length ≤ limits.maxKeys) (steady : Steady calls)
    (begun : ∀ call ∈ calls, from_ ≤ call.now)
    (stays : ∀ met ∈ called limits windows calls,
      met.2.now ≤ from_ + limits.windowMs → ¬ Evicts limits key met) :
    ((called limits windows calls).countP fun met =>
      inside limits.windowMs key from_ met.2 && !refuses limits met) ≤
        allowance limits from_ (windows.get? key) := by
  induction calls generalizing windows with
  | nil => exact Nat.zero_le _
  | cons call rest ih =>
      obtain ⟨later, steady'⟩ := steady.tail
      rw [called, Machine.steps_cons, List.forall_mem_cons] at stays
      rw [List.forall_mem_cons] at begun
      have others := ih (step_length windows call) steady' begun.2 stays.2
      rw [called, Machine.steps_cons, List.countP_cons]
      by_cases open_ : call.now ≤ from_ + limits.windowMs
      · by_cases own : key = call.key
        · subst own
          rw [step_own positive small] at others
          have spent := allowance_spent windows begun.1 open_
          have here : inside limits.windowMs call.key from_ call = true := by
            simp [inside, begun.1, open_]
          have told : refuses limits (windows, call) =
            decide ((counted limits windows call.key call.now).count > limits.limit) := rfl
          rw [here, told, Bool.true_and]
          by_cases late : (counted limits windows call.key call.now).count > limits.limit
          · rw [if_pos late, Nat.zero_add] at spent
            rw [decide_eq_true late, if_neg (by simp)]
            exact others.trans spent
          · rw [if_neg late] at spent
            rw [decide_eq_false late, Bool.not_false, if_pos rfl, Nat.add_comm]
            exact (Nat.add_le_add_left others 1).trans spent
        -- A call for another key can only sweep a window that is over, eviction being excluded.
        · have outside : inside limits.windowMs key from_ call = false := by
            simp [inside, Ne.symm own]
          simp only [outside, Bool.false_and, Bool.false_eq_true, if_false, Nat.add_zero]
          rcases step_other own with same | ⟨gone, window, before, old | evicted⟩
          · rw [same] at others
            exact others
          · rw [gone] at others
            have early : ¬ from_ ≤ window.start := by
              have past := expired_iff.mp old
              omega
            refine others.trans ?_
            simp only [before, allowance, early, if_false]
            omega
          · exact absurd evicted (stays.1 open_)
      · -- The interval is over, for this call and for those after it.
        have none_ : (Machine.steps (step limits) (step limits windows call) rest).countP (fun met =>
            inside limits.windowMs key from_ met.2 && !refuses limits met) = 0 := by
          rw [List.countP_eq_zero]
          rintro met member
          obtain ⟨earlier, after, same, _⟩ := Machine.steps_mem _ _ _ met member
          have past := later met.2 (by simp [same])
          have outside : ¬ met.2.now ≤ from_ + limits.windowMs := by omega
          simp [inside, outside]
        rw [none_]
        simp [inside, open_]

theorem calling_length (calls : List Call) (small : windows.entries.length ≤ limits.maxKeys) :
    (calling limits windows calls).entries.length ≤ limits.maxKeys := by
  induction calls generalizing windows with
  | nil => exact small
  | cons call rest ih => exact ih (step_length windows call)

-- In an interval of windowMs a key is let through at most twice limit times.
theorem within_twice (positive : 1 ≤ limits.maxKeys)
    (small : windows.entries.length ≤ limits.maxKeys) (steady : Steady calls)
    (stays : ∀ met ∈ called limits windows calls, from_ ≤ met.2.now →
      met.2.now ≤ from_ + limits.windowMs → ¬ Evicts limits key met) :
    ((called limits windows calls).countP fun met =>
      inside limits.windowMs key from_ met.2 && !refuses limits met) ≤ 2 * limits.limit := by
  induction calls generalizing windows with
  | nil => exact Nat.zero_le _
  | cons call rest ih =>
      obtain ⟨later, steady'⟩ := steady.tail
      by_cases begun : from_ ≤ call.now
      · have after : ∀ other ∈ call :: rest, from_ ≤ other.now :=
          List.forall_mem_cons.mpr ⟨begun, fun other member => begun.trans (later other member)⟩
        have all : ∀ met ∈ called limits windows (call :: rest),
            met.2.now ≤ from_ + limits.windowMs → ¬ Evicts limits key met := by
          intro met member
          obtain ⟨_, _, same, _⟩ := Machine.steps_mem _ _ _ met member
          exact stays met member (after met.2 (by simp [same]))
        exact (within_allowance positive small steady after all).trans (allowance_le _)
      · rw [called, Machine.steps_cons, List.forall_mem_cons] at stays
        have outside : inside limits.windowMs key from_ call = false := by
          simp [inside, begun]
        rw [called, Machine.steps_cons, List.countP_cons]
        simp only [outside, Bool.false_and, Bool.false_eq_true, if_false, Nat.add_zero]
        exact ih (step_length windows call) steady' stays.2

/-- Per-key limiter bounds. -/
theorem limiter_bounded (limits : Limits) (positive : 1 ≤ limits.maxKeys) (calls : List Call)
    (steady : Steady calls) : Bounded limits calls := by
  have empty : (OrderedMap.empty : Windows).entries.length ≤ limits.maxKeys := Nat.zero_le _
  constructor
  · exact fun lead _ => calling_length lead empty
  · intro met member
    obtain ⟨earlier, _, _, reached⟩ := Machine.steps_mem _ _ _ met member
    have small : met.1.entries.length ≤ limits.maxKeys := by
      rw [reached]
      exact calling_length earlier empty
    exact (OrderedMap.mem_iff _ _).mpr ⟨_, step_own positive small⟩
  · intro before met after split refused
    have counts : Counts [] 0 OrderedMap.empty := fun key window held => by
      simp [OrderedMap.get?, OrderedMap.empty] at held
    exact refuses_counts counts (fun _ _ => Nat.zero_le _) steady before after met split refused
  · intro key from_ stays
    exact within_twice positive empty steady stays

/-- Two keys where one may be held: the third call finds its key evicted, and lets it through. -/
theorem single_key_bounded : Bounded ⟨1, 60000, 1⟩ [⟨"a", 0⟩, ⟨"b", 5⟩, ⟨"a", 9⟩, ⟨"a", 10⟩] :=
  limiter_bounded _ (by decide) _ (by decide)

end Runs

end Limiter
end Relay

import Mathlib.Data.List.Basic

/-!
Fixed windows: at most `max` hits are let through in a window, a window is over when more
than `length` has passed since its start, and the next one starts with a hit. An interval
of that length then meets the hits of two windows at most.
-/

namespace Relay.FixedWindow

variable (length max : Nat)

/-- Whether a hit is in the interval of the length that begins at a time. -/
def inside (from_ hit : Nat) : Bool := from_ ≤ hit && hit ≤ from_ + length

/-- How many hits are in the interval. -/
def within (hits : List Nat) (from_ : Nat) : Nat := hits.countP (inside length from_)

/-- The hits let through so far, and where the window that counts now has started: those of
that window, those of the window before it, and the older ones. -/
structure Windowed (hits : List Nat) (start count : Nat) : Prop where
  bounded : ∀ from_, within length hits from_ ≤ 2 * max
  split : ∃ older previous current, hits = older ++ previous ++ current ∧
    previous.length ≤ max ∧ current.length ≤ max ∧ current.length ≤ count ∧
    (∀ hit ∈ older, hit + length < start) ∧ (∀ hit ∈ previous, hit ≤ start) ∧
    ∀ hit ∈ current, start ≤ hit

variable {length max}

theorem within_append (first second : List Nat) (from_ : Nat) :
    within length (first ++ second) from_ =
      within length first from_ + within length second from_ :=
  List.countP_append

theorem within_length (length : Nat) (hits : List Nat) (from_ : Nat) : within length hits from_ ≤ hits.length :=
  List.countP_le_length

theorem within_before {hits : List Nat} {from_ : Nat} (before : ∀ hit ∈ hits, hit < from_) :
    within length hits from_ = 0 := by
  apply List.countP_eq_zero.mpr
  intro hit member
  have early := before hit member
  simp [inside, Nat.not_le.mpr early]

theorem within_outside {hits : List Nat} {hit from_ : Nat}
    (outside : inside length from_ hit = false) :
    within length (hits ++ [hit]) from_ = within length hits from_ := by
  rw [within_append]
  simp [within, outside]

theorem Windowed.first {start now : Nat} (room : 1 ≤ max) (started : start ≤ now) :
    Windowed length max [now] start 1 := by
  constructor
  · intro from_
    have one := within_length length [now] from_
    simp only [List.length_singleton] at one
    omega
  · exact ⟨[], [], [now], by simp, by simp, by simpa using room, by simp, by simp, by simp,
      by simpa using started⟩

variable {hits : List Nat} {start count now : Nat}

theorem Windowed.hit (windowed : Windowed length max hits start count) (room : count + 1 ≤ max)
    (started : start ≤ now) : Windowed length max (hits ++ [now]) start (count + 1) := by
  obtain ⟨bounded, older, previous, current, rfl, few, _, counted, gone, before, after⟩ := windowed
  constructor
  · intro from_
    cases reached : inside length from_ now with
    | false =>
        rw [within_outside reached]
        exact bounded from_
    | true =>
        simp only [inside, Bool.and_eq_true, decide_eq_true_eq] at reached
        have none_ : within length older from_ = 0 := by
          apply within_before
          intro hit member
          have past := gone hit member
          omega
        have second := within_length length previous from_
        have third := within_length length (current ++ [now]) from_
        rw [List.append_assoc, within_append, within_append, none_]
        simp only [List.length_append, List.length_singleton] at third
        omega
  · refine ⟨older, previous, current ++ [now], by simp, few, ?_, ?_, gone, before, ?_⟩
    · simp only [List.length_append, List.length_singleton]
      omega
    · simpa using counted
    · intro hit member
      rcases List.mem_append.mp member with here | last
      · exact after hit here
      · rw [List.mem_singleton.mp last]
        exact started

theorem Windowed.refused (windowed : Windowed length max hits start count) :
    Windowed length max hits start (count + 1) := by
  obtain ⟨bounded, older, previous, current, whole, few, many, counted, rest⟩ := windowed
  exact ⟨bounded, older, previous, current, whole, few, many, by omega, rest⟩

theorem Windowed.next (windowed : Windowed length max hits start count) (room : 1 ≤ max)
    (passed : start + length < now) (latest : ∀ hit ∈ hits, hit ≤ now) :
    Windowed length max (hits ++ [now]) now 1 := by
  obtain ⟨bounded, older, previous, current, rfl, few, many, counted, gone, before, after⟩ := windowed
  have past : ∀ hit ∈ older ++ previous, hit + length < now := by
    intro hit member
    rcases List.mem_append.mp member with early | late
    · have behind := gone hit early
      omega
    · have behind := before hit late
      omega
  constructor
  · intro from_
    cases reached : inside length from_ now with
    | false =>
        rw [within_outside reached]
        exact bounded from_
    | true =>
        simp only [inside, Bool.and_eq_true, decide_eq_true_eq] at reached
        have none_ : within length (older ++ previous) from_ = 0 := by
          apply within_before
          intro hit member
          have behind := past hit member
          omega
        have second := within_length length current from_
        have third := within_length length [now] from_
        rw [within_append, within_append, none_]
        simp only [List.length_singleton] at third
        omega
  · refine ⟨older ++ previous, current, [now], rfl, many, by simpa using room, by simp, past, ?_,
      by simp⟩
    intro hit member
    exact latest hit (List.mem_append_right _ member)

end Relay.FixedWindow

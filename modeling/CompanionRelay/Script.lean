import Mathlib.Data.List.Basic

/-!
Scripts: the acts a handler performs, in order. An act changes the state; some
acts can be made to throw by the outside world (a storage call), and some throw
by themselves. A handler that throws has done the acts before the throw and none
after it, so the acts done under any fault are a prefix of the script, and a fact
about each act of a script holds of each act done.
-/

namespace Relay.Script

universe u v
variable {State : Type u} {Act : Type v}

section Replay
variable (perform : State → Act → State)

def replay (state : State) (acts : List Act) : State := acts.foldl perform state

@[simp] theorem replay_nil (state : State) : replay perform state [] = state := rfl

@[simp] theorem replay_cons (state : State) (act : Act) (rest : List Act) :
    replay perform state (act :: rest) = replay perform (perform state act) rest := rfl

@[simp] theorem replay_append (state : State) (first second : List Act) :
    replay perform state (first ++ second) =
      replay perform (replay perform state first) second := by
  simp [replay]

theorem replay_keeps {Part : Type*} (part : State → Part) (acts : List Act)
    (untouched : ∀ act ∈ acts, ∀ state, part (perform state act) = part state)
    (state : State) : part (replay perform state acts) = part state := by
  induction acts generalizing state with
  | nil => rfl
  | cons act rest ih =>
      rw [replay_cons, ih (fun other member => untouched other (List.mem_cons_of_mem act member))]
      exact untouched act (by simp) state

-- A part of the state that changes by a function of its own follows the script.
theorem replay_part {Part : Type*} (part : State → Part) (after : Part → Act → Part)
    (each : ∀ state act, part (perform state act) = after (part state) act)
    (acts : List Act) (state : State) :
    part (replay perform state acts) = acts.foldl after (part state) := by
  induction acts generalizing state with
  | nil => rfl
  | cons act rest ih => rw [replay_cons, ih, each, List.foldl_cons]

theorem replay_invariant (Inv : State → Prop) (acts : List Act)
    (kept : ∀ act ∈ acts, ∀ state, Inv state → Inv (perform state act))
    (state : State) (initially : Inv state) : Inv (replay perform state acts) := by
  induction acts generalizing state with
  | nil => exact initially
  | cons act rest ih =>
      exact ih (fun other member => kept other (List.mem_cons_of_mem act member))
        _ (kept act (by simp) state initially)

end Replay

section Faults
variable (fallible aborts : Act → Bool)

/-- The acts done when the `fault`-th fallible act throws (never, for `none`). -/
def done : Option Nat → List Act → List Act
  | _, [] => []
  | fault, act :: rest =>
      if aborts act then []
      else if fallible act then
        match fault with
        | some 0 => []
        | some (left + 1) => act :: done (some left) rest
        | none => act :: done none rest
      else act :: done fault rest

def threw : Option Nat → List Act → Bool
  | _, [] => false
  | fault, act :: rest =>
      if aborts act then true
      else if fallible act then
        match fault with
        | some 0 => true
        | some (left + 1) => threw (some left) rest
        | none => threw none rest
      else threw fault rest

-- The first act throws, or is done and leaves the rest to a fault of its own.
theorem done_cons (fault : Option Nat) (act : Act) :
    (∀ rest, done fallible aborts fault (act :: rest) = []) ∨
      ∃ left, ∀ rest, done fallible aborts fault (act :: rest) =
        act :: done fallible aborts left rest := by
  by_cases stops : aborts act = true
  · exact .inl fun rest => by simp [done, stops]
  · by_cases risky : fallible act = true
    · match fault with
      | some 0 => exact .inl fun rest => by simp [done, risky]
      | some (left + 1) => exact .inr ⟨some left, fun rest => by simp [done, stops, risky]⟩
      | none => exact .inr ⟨none, fun rest => by simp [done, stops, risky]⟩
    · exact .inr ⟨fault, fun rest => by simp [done, stops, risky]⟩

theorem done_cons_safe (fault : Option Nat) (act : Act) (rest : List Act)
    (steady : fallible act = false) (calm : aborts act = false) :
    done fallible aborts fault (act :: rest) = act :: done fallible aborts fault rest := by
  conv_lhs => unfold done
  simp [steady, calm]

theorem done_initial (fault : Option Nat) (acts : List Act) :
    done fallible aborts fault acts <+: acts := by
  induction acts generalizing fault with
  | nil => simp [done]
  | cons act rest ih =>
      rcases done_cons fallible aborts fault act with threw | ⟨left, goes⟩
      · rw [threw]
        exact List.nil_prefix
      · rw [goes]
        exact (List.prefix_cons_inj act).mpr (ih left)

theorem done_subset {fault : Option Nat} {acts : List Act} {act : Act}
    (member : act ∈ done fallible aborts fault acts) : act ∈ acts :=
  (done_initial fallible aborts fault acts).subset member

theorem done_before {fault : Option Nat} {lead rest : List Act} {act : Act} (first : act ∉ lead)
    (member : act ∈ done fallible aborts fault (lead ++ act :: rest)) :
    lead <+: done fallible aborts fault (lead ++ act :: rest) := by
  have whole := done_initial fallible aborts fault (lead ++ act :: rest)
  rcases List.prefix_or_prefix_of_prefix whole (List.prefix_append lead (act :: rest)) with
    short | long
  · exact absurd (short.subset member) first
  · exact long

theorem done_append (fault : Option Nat) (first second : List Act) :
    done fallible aborts fault (first ++ second) = done fallible aborts fault first ∨
      ∃ left, done fallible aborts fault (first ++ second) =
        first ++ done fallible aborts left second := by
  induction first generalizing fault with
  | nil => exact .inr ⟨fault, rfl⟩
  | cons act rest ih =>
      rw [List.cons_append]
      rcases done_cons fallible aborts fault act with threw | ⟨left, goes⟩
      · exact .inl (by rw [threw, threw])
      · rw [goes, goes]
        rcases ih left with short | ⟨left', long⟩
        · exact .inl (by rw [short])
        · exact .inr ⟨left', by rw [long]; rfl⟩

theorem done_through {fault : Option Nat} {lead rest : List Act} {first : Act}
    (apart : first ∉ lead) (member : first ∈ done fallible aborts fault (lead ++ first :: rest)) :
    ∃ tail, done fallible aborts fault (lead ++ first :: rest) = lead ++ first :: tail ∧
      tail <+: rest := by
  rcases done_append fallible aborts fault lead (first :: rest) with short | ⟨left, long⟩
  · rw [short] at member
    exact absurd (done_subset fallible aborts member) apart
  · rw [long] at member ⊢
    rcases done_cons fallible aborts left first with threw | ⟨left', goes⟩
    · rw [threw, List.append_nil] at member
      exact absurd member apart
    · exact ⟨_, by rw [goes], done_initial fallible aborts left' rest⟩

theorem done_reached {fault : Option Nat} {lead rest : List Act} {first act : Act}
    (apart : act ∉ lead) (member : act ∈ done fallible aborts fault (lead ++ first :: rest)) :
    first ∈ done fallible aborts fault (lead ++ first :: rest) := by
  have whole := done_initial fallible aborts fault (lead ++ first :: rest)
  rcases List.prefix_or_prefix_of_prefix whole (List.prefix_append lead (first :: rest)) with
    short | ⟨tail, long⟩
  · exact absurd (short.subset member) apart
  · rw [← long] at whole member ⊢
    have within := (List.prefix_append_right_inj lead).mp whole
    rcases List.prefix_cons_iff.mp within with none_ | ⟨others, same, _⟩
    · rw [none_, List.append_nil] at member
      exact absurd member apart
    · simp [same]

theorem done_safe (fault : Option Nat) (acts : List Act)
    (safe : ∀ act ∈ acts, fallible act = false ∧ aborts act = false) :
    done fallible aborts fault acts = acts := by
  induction acts generalizing fault with
  | nil => rfl
  | cons act rest ih =>
      obtain ⟨steady, calm⟩ := safe act (by simp)
      unfold done
      simp only [steady, calm, Bool.false_eq_true, if_false]
      rw [ih fault (fun other member => safe other (List.mem_cons_of_mem act member))]

theorem done_front (fault : Option Nat) (front rest : List Act)
    (safe : ∀ act ∈ front, fallible act = false ∧ aborts act = false) :
    front <+: done fallible aborts fault (front ++ rest) := by
  rcases done_append fallible aborts fault front rest with short | ⟨left, long⟩
  · have whole := short.trans (done_safe fallible aborts fault front safe)
    exact ⟨[], by rw [whole, List.append_nil]⟩
  · rw [long]
    exact List.prefix_append front _

-- Acts that cannot throw are done together with what stands before them, or not at all.
theorem done_block {fault : Option Nat} {front block rest : List Act} {act : Act}
    (apart : act ∉ front) (safe : ∀ act ∈ block, fallible act = false ∧ aborts act = false)
    (member : act ∈ done fallible aborts fault (front ++ (block ++ rest))) :
    front ++ block <+: done fallible aborts fault (front ++ (block ++ rest)) := by
  rcases done_append fallible aborts fault front (block ++ rest) with short | ⟨left, long⟩
  · rw [short] at member
    exact absurd (done_subset fallible aborts member) apart
  · rw [long]
    exact (List.prefix_append_right_inj front).mpr
      (done_front fallible aborts left block rest safe)

theorem done_of_threw {fault : Option Nat} {first : List Act}
    (thrown : threw fallible aborts fault first = true) (second : List Act) :
    done fallible aborts fault (first ++ second) = done fallible aborts fault first := by
  induction first generalizing fault with
  | nil => simp [threw] at thrown
  | cons act rest ih =>
      rw [List.cons_append]
      unfold threw at thrown
      unfold done
      split
      · rfl
      · rename_i calm
        rw [if_neg calm] at thrown
        split
        · rename_i risky
          rw [if_pos risky] at thrown
          split
          · rfl
          · exact congrArg (List.cons act) (ih thrown)
          · exact congrArg (List.cons act) (ih thrown)
        · rename_i steady
          rw [if_neg steady] at thrown
          exact congrArg (List.cons act) (ih thrown)

theorem done_rest {fault : Option Nat} {lead rest : List Act} {first : Act}
    (safe : ∀ act ∈ rest, fallible act = false ∧ aborts act = false) (apart : first ∉ lead)
    (member : first ∈ done fallible aborts fault (lead ++ first :: rest)) :
    done fallible aborts fault (lead ++ first :: rest) = lead ++ first :: rest := by
  rcases done_append fallible aborts fault lead (first :: rest) with short | ⟨left, long⟩
  · rw [short] at member
    exact absurd (done_subset fallible aborts member) apart
  · rw [long] at member ⊢
    rcases done_cons fallible aborts left first with threw | ⟨left', goes⟩
    · rw [threw, List.append_nil] at member
      exact absurd member apart
    · rw [goes, done_safe fallible aborts _ rest safe]

theorem done_unfaulted (lead rest : List Act) (calm : ∀ act ∈ lead, aborts act = false) :
    done fallible aborts none (lead ++ rest) = lead ++ done fallible aborts none rest ∧
      threw fallible aborts none (lead ++ rest) = threw fallible aborts none rest := by
  induction lead with
  | nil => exact ⟨rfl, rfl⟩
  | cons act others ih =>
      rw [List.forall_mem_cons] at calm
      obtain ⟨performed, thrown⟩ := ih calm.2
      by_cases risky : fallible act = true
      · simp [done, threw, calm.1, risky, performed, thrown]
      · simp [done, threw, calm.1, risky, performed, thrown]

theorem done_of_not_threw (fault : Option Nat) (acts : List Act)
    (finished : threw fallible aborts fault acts = false) :
    done fallible aborts fault acts = acts := by
  induction acts generalizing fault with
  | nil => rfl
  | cons act rest ih =>
      unfold threw at finished
      unfold done
      split at finished
      · simp at finished
      · rename_i quiet
        rw [if_neg quiet]
        split at finished
        · rename_i risky
          rw [if_pos risky]
          split at finished
          · simp at finished
          · exact congrArg (List.cons act) (ih _ finished)
          · exact congrArg (List.cons act) (ih _ finished)
        · rename_i safe
          rw [if_neg safe]
          exact congrArg (List.cons act) (ih _ finished)

theorem not_threw_of_done {fault : Option Nat} {acts : List Act}
    (whole : done fallible aborts fault acts = acts) : threw fallible aborts fault acts = false := by
  induction acts generalizing fault with
  | nil => rfl
  | cons act rest ih =>
      unfold done at whole
      unfold threw
      by_cases stops : aborts act = true
      · simp [stops] at whole
      · rw [if_neg stops] at whole ⊢
        by_cases risky : fallible act = true
        · rw [if_pos risky] at whole ⊢
          match fault with
          | some 0 => simp at whole
          | some (left + 1) => exact ih (List.cons.inj whole).2
          | none => exact ih (List.cons.inj whole).2
        · rw [if_neg risky] at whole ⊢
          exact ih (List.cons.inj whole).2

theorem threw_of_mem {fault : Option Nat} {acts : List Act} {act : Act} (member : act ∈ acts)
    (stops : aborts act = true) : threw fallible aborts fault acts = true := by
  induction acts generalizing fault with
  | nil => exact absurd member List.not_mem_nil
  | cons first rest ih =>
      unfold threw
      by_cases here : aborts first = true
      · simp [here]
      · have later : act ∈ rest := by
          rcases List.mem_cons.mp member with rfl | later
          · exact absurd stops here
          · exact later
        rw [if_neg here]
        by_cases risky : fallible first = true
        · rw [if_pos risky]
          match fault with
          | some 0 => rfl
          | some (left + 1) => exact ih later
          | none => exact ih later
        · rw [if_neg risky]
          exact ih later

-- Without a fault a script throws exactly when it comes to an act that throws by itself.
theorem threw_unfaulted {acts : List Act} :
    threw fallible aborts none acts = true ↔ ∃ act ∈ acts, aborts act = true := by
  constructor
  · intro thrown
    by_contra calm
    push Not at calm
    have none_ := (done_unfaulted fallible aborts acts []
      fun act member => Bool.eq_false_iff.mpr (calm act member)).2
    rw [List.append_nil, thrown] at none_
    simp [threw] at none_
  · rintro ⟨act, member, stops⟩
    exact threw_of_mem fallible aborts member stops

-- A script without an act that throws by itself throws where the fault is one of its calls.
theorem threw_count (fault : Option Nat) (acts : List Act)
    (calm : ∀ act ∈ acts, aborts act = false) :
    threw fallible aborts fault acts = fault.any fun call => decide (call < acts.countP fallible) := by
  induction acts generalizing fault with
  | nil => cases fault <;> simp [threw]
  | cons act rest ih =>
      rw [List.forall_mem_cons] at calm
      unfold threw
      rw [calm.1, if_neg Bool.false_ne_true]
      cases risky : fallible act with
      | false => simpa [List.countP_cons, risky] using ih fault calm.2
      | true =>
          rw [if_pos rfl]
          match fault with
          | some 0 => simp [risky]
          | some (left + 1) => simpa [List.countP_cons, risky] using ih (some left) calm.2
          | none => simpa using ih none calm.2

theorem fault_past {fault : Option Nat} {front rest : List Act} {first : Act}
    (calm : ∀ act ∈ front, aborts act = false) (apart : first ∉ front)
    (member : first ∈ done fallible aborts fault (front ++ rest)) :
    (fault.any fun call => decide (call < front.countP fallible)) = false := by
  rw [← threw_count fallible aborts fault front calm]
  by_contra thrown
  rw [Bool.not_eq_false] at thrown
  rw [done_of_threw fallible aborts thrown] at member
  exact apart (done_subset fallible aborts member)

-- A script throws in its first part, or does all of it and leaves the rest to a fault of its
-- own.
theorem outcome_append (fault : Option Nat) (first second : List Act) :
    (done fallible aborts fault (first ++ second) = done fallible aborts fault first ∧
      threw fallible aborts fault (first ++ second) = true) ∨
    ∃ left, done fallible aborts fault (first ++ second) =
        first ++ done fallible aborts left second ∧
      threw fallible aborts fault (first ++ second) = threw fallible aborts left second := by
  induction first generalizing fault with
  | nil => exact .inr ⟨fault, rfl, rfl⟩
  | cons act rest ih =>
      rw [List.cons_append]
      by_cases stops : aborts act = true
      · exact .inl (by simp [done, threw, stops])
      by_cases risky : fallible act = true
      · match fault with
        | some 0 => exact .inl (by simp [done, threw, stops, risky])
        | some (left + 1) => simpa [done, threw, stops, risky] using ih (some left)
        | none => simpa [done, threw, stops, risky] using ih none
      · simpa [done, threw, stops, risky] using ih fault

end Faults
end Relay.Script

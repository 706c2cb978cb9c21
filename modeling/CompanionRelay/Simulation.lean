import CompanionRelay.Machine

/-!
Refinement of an abstract system by a machine. The system moves silently or with an output; the
machine refines it where each step of the machine, with the outputs of that step, is some moves of
the system. What all traces of the system satisfy, those of the machine then satisfy.
-/

namespace Relay.Simulation

universe u v w x
variable {Abstract : Type u} {Output : Type v}

/-- Moves of the system one after the other, with their outputs. -/
inductive Moves (move : Abstract → Option Output → Abstract → Prop) :
    Abstract → List Output → Abstract → Prop
  | done (state : Abstract) : Moves move state [] state
  | silent {first second last : Abstract} {outputs : List Output} (moves : move first none second)
      (rest : Moves move second outputs last) : Moves move first outputs last
  | loud {first second last : Abstract} {output : Output} {outputs : List Output}
      (moves : move first (some output) second) (rest : Moves move second outputs last) :
      Moves move first (output :: outputs) last

variable {move : Abstract → Option Output → Abstract → Prop} {first second last : Abstract}
  {outputs before after past : List Output} {output : Output}

theorem Moves.append (one : Moves move first before second) (two : Moves move second after last) :
    Moves move first (before ++ after) last := by
  induction one with
  | done state => exact two
  | silent moves rest ih => exact .silent moves (ih two)
  | loud moves rest ih => exact .loud moves (ih two)

theorem Moves.one (moves : move first none second) : Moves move first [] second :=
  .silent moves (.done second)

theorem Moves.still (each : ∀ output ∈ outputs, move first (some output) first) :
    Moves move first outputs first := by
  induction outputs with
  | nil => exact .done first
  | cons output rest ih =>
      rw [List.forall_mem_cons] at each
      exact .loud each.1 (ih each.2)

-- The move that made an output, with the moves before and after it.
theorem Moves.split (moves : Moves move first outputs last)
    (whole : outputs = before ++ output :: after) :
    ∃ left right, Moves move first before left ∧ move left (some output) right ∧
      Moves move right after last := by
  induction moves generalizing before with
  | done state => simp at whole
  | silent moves rest ih =>
      obtain ⟨left, right, earlier, here, later⟩ := ih whole
      exact ⟨left, right, .silent moves earlier, here, later⟩
  | @loud first second last given others moves rest ih =>
      cases before with
      | nil =>
          obtain ⟨rfl, rfl⟩ := List.cons.inj whole
          exact ⟨first, second, .done first, moves, rest⟩
      | cons given before =>
          obtain ⟨rfl, rfl⟩ := List.cons.inj whole
          obtain ⟨left, right, earlier, here, later⟩ := ih rfl
          exact ⟨left, right, .loud moves earlier, here, later⟩

theorem Moves.invariant (Inv : List Output → Abstract → Prop)
    (silent : ∀ past first second, Inv past first → move first none second → Inv past second)
    (loud : ∀ past first second output, Inv past first → move first (some output) second →
      Inv (past ++ [output]) second)
    (moves : Moves move first outputs last) (initially : Inv past first) :
    Inv (past ++ outputs) last := by
  induction moves generalizing past with
  | done state => rwa [List.append_nil]
  | silent moves rest ih => exact ih (silent _ _ _ initially moves)
  | loud moves rest ih => simpa using ih (loud _ _ _ _ initially moves)

variable {State : Type w} {Event : Type x} (step : State → Event → State)
  (view : State → Abstract) (heard : State × Event → List Output)

end Relay.Simulation

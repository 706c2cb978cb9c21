import CompanionRelay.Machine

/-!
The past of a run. What a step relies on is traced back to an earlier step together with the
steps before that one, so a chain of such facts is in the order of the run.
-/

namespace Relay.History

universe u
variable {Met : Type u}

/-- A step of the past with the steps before it. -/
def Once (happens : List Met → Met → Prop) (past : List Met) : Prop :=
  ∃ before met after, past = before ++ met :: after ∧ happens before met

variable {happens other : List Met → Met → Prop} {past : List Met}

theorem Once.later (once : Once happens past) (after : List Met) : Once happens (past ++ after) := by
  obtain ⟨before, met, between, rfl, holds⟩ := once
  exact ⟨before, met, between ++ after, by simp, holds⟩

theorem Once.now {met : Met} (holds : happens past met) : Once happens (past ++ [met]) :=
  ⟨past, met, [], rfl, holds⟩

theorem Once.imp (once : Once happens past)
    (weaker : ∀ before met, happens before met → other before met) : Once other past := by
  obtain ⟨before, met, after, split, holds⟩ := once
  exact ⟨before, met, after, split, weaker before met holds⟩

theorem Once.mem (once : Once happens past) : ∃ met ∈ past, ∃ before, happens before met := by
  obtain ⟨before, met, after, rfl, holds⟩ := once
  exact ⟨met, by simp, before, holds⟩

theorem Once.nested (once : Once (fun before _ => Once happens before) past) :
    Once happens past := by
  obtain ⟨before, met, after, rfl, earlier⟩ := once
  exact earlier.later _

end Relay.History

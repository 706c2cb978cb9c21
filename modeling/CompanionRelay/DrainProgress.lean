import CompanionRelay.DrainEpisodes
import Mathlib.Data.Finset.Card

/-!
How far the drain gets. A run that has a token closes a room or ends every episode that is
past its deadline. The rooms that are pending in those episodes, and not closed yet, are
what a run that ends none of them has fewer of.
-/

namespace Relay
namespace DrainScheduler

section Progress
variable {Rooms : Type} (liveRooms : Rooms → Int → List String)
  (evict : Rooms → String → Rooms)

/-- The pending rooms that their episodes have not closed. -/
def left (pending : Finset (Int × String)) (scheduler : DrainScheduler) :
    Finset (Int × String) :=
  pending.filter fun pair =>
    (scheduler.draining.get? pair.1).any fun episode => pair.2 ∉ episode.evicted

variable {scheduler : DrainScheduler} {bucket : Int} {episode : Episode}
  {now : Nat} {rooms : Rooms} {call : Call Rooms} {pending : Finset (Int × String)} {id : String}

theorem Steady.resumed {lead rest : List (Call Rooms)} (counted : scheduler.lastRunMs ≤ now)
    (steady : Steady now (lead ++ rest)) :
    ∃ until_, (calling liveRooms evict scheduler lead).lastRunMs ≤ until_ ∧ Steady until_ rest ∧
      (calling liveRooms evict scheduler lead).rate = scheduler.rate := by
  induction lead generalizing scheduler now with
  | nil => exact ⟨now, counted, steady, rfl⟩
  | cons call lead ih =>
      obtain ⟨later, _, tail⟩ := Steady.tail steady
      have counted' : (scheduler.step liveRooms evict call).lastRunMs ≤ call.now := by
        cases call with
        | relinquish time other => exact counted.trans later
        | reacquire time other => exact counted.trans later
        | run time rooms => exact le_refl time
      obtain ⟨until_, ends, others, same⟩ := ih counted' tail
      exact ⟨until_, ends, others, same.trans (step_rate call)⟩

end Progress

end DrainScheduler
end Relay

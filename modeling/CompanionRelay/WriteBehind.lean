import Mathlib.Order.Lattice
import Mathlib.Algebra.BigOperators.Group.List.Basic
import Mathlib.Algebra.GroupWithZero.Nat
import CompanionRelay.Machine

/-!
A counter that is written behind. It counts within windows of a fixed length, in memory, and
keeps in storage what it held when a window began, when the limit was passed, or when it had
grown by `flush` since it was last written. A memory that is lost is loaded again from
storage, so each loss forgets less than `flush` of the total and nothing of the window.
-/

namespace Relay.WriteBehind

structure Count where
  opened : Nat
  total : Nat
  deriving DecidableEq

structure Memory where
  live : Option Count := none
  -- the total that was last written, as the memory knows it
  flushed : Nat := 0
  kept : Option Count := none

inductive Event
  | spend (now size : Nat)
  | lose (now : Nat)

def Event.now : Event → Nat
  | .spend now _ => now
  | .lose now => now

variable (window flush : Nat) (limit : Int)

def load (now : Nat) (memory : Memory) : Count × Nat :=
  match memory.live with
  | some count => (count, memory.flushed)
  | none =>
      let kept := memory.kept.getD ⟨now, 0⟩
      (kept, kept.total)

def rolls (now : Nat) (memory : Memory) : Bool :=
  decide (now - (load now memory).1.opened ≥ window)

def roll (now : Nat) (memory : Memory) : Count × Nat :=
  if rolls window now memory then (⟨now, 0⟩, 0) else load now memory

/-- Whether the size would pass the limit. -/
def exceeds (now size : Nat) (memory : Memory) : Bool :=
  ((roll window now memory).1.total + size : Int) > limit

def spend (now size : Nat) (memory : Memory) : Memory :=
  let rolled := roll window now memory
  let spent : Count := ⟨rolled.1.opened, rolled.1.total + size⟩
  if exceeds window limit now size memory then ⟨some spent, rolled.2, some spent⟩
  else if spent.total - rolled.2 ≥ flush then ⟨some spent, spent.total, some spent⟩
  else ⟨some spent, rolled.2, if rolls window now memory then some rolled.1 else memory.kept⟩

def lose (memory : Memory) : Memory := { memory with live := none, flushed := 0 }

def step (memory : Memory) : Event → Memory
  | .spend now size => spend window flush limit now size memory
  | .lose _ => lose memory

/-- The event is refused because it passes the limit. -/
def refused (met : Memory × Event) : Bool :=
  match met.2 with
  | .spend now size => exceeds window limit now size met.1
  | .lose _ => false

/-- What the event spends in the interval of the window's length that begins at a time. -/
def spentIn (from_ : Nat) (met : Memory × Event) : Nat :=
  match met.2 with
  | .spend now size =>
      if from_ ≤ now ∧ now < from_ + window ∧ exceeds window limit now size met.1 = false
        then size else 0
  | .lose _ => 0

def lostIn (from_ : Nat) (met : Memory × Event) : Bool :=
  match met.2 with
  | .spend _ _ => false
  | .lose now => decide (from_ ≤ now ∧ now < from_ + window)

section Sound
variable {window flush : Nat} {limit : Int} {memory : Memory} {now size : Nat}

/-- What a loss would leave of the total. -/
def Memory.keptTotal (memory : Memory) : Nat := (memory.kept.map (·.total)).getD 0

def Memory.total (memory : Memory) : Nat := (memory.live.map (·.total)).getD memory.keptTotal

/-- The copy in memory is ahead of the one in storage by less than `flush`, and belongs to the
same window. -/
structure Sound (flush : Nat) (memory : Memory) : Prop where
  window : ∀ count, memory.live = some count → ∀ kept, memory.kept = some kept →
    count.opened = kept.opened
  written : ∀ count, memory.live = some count → memory.flushed ≤ memory.keptTotal
  ahead : ∀ count, memory.live = some count →
    memory.keptTotal ≤ count.total ∧ count.total < memory.keptTotal + flush

theorem Sound.lost (memory : Memory) : Sound flush (lose memory) := by
  constructor <;> simp [lose]

theorem total_load (now : Nat) (memory : Memory) : (load now memory).1.total = memory.total := by
  unfold load Memory.total Memory.keptTotal
  cases memory.live with
  | some count => rfl
  | none => cases memory.kept <;> rfl

theorem Sound.loaded (sound : Sound flush memory) (positive : 0 < flush) (now : Nat) :
    (load now memory).2 ≤ memory.keptTotal ∧ memory.keptTotal ≤ (load now memory).1.total ∧
      (load now memory).1.total < memory.keptTotal + flush ∧
      ∀ kept, memory.kept = some kept → (load now memory).1.opened = kept.opened := by
  unfold load
  cases live : memory.live with
  | some count =>
      exact ⟨sound.written count live, (sound.ahead count live).1, (sound.ahead count live).2,
        sound.window count live⟩
  | none =>
      cases kept : memory.kept with
      | none => simp [Memory.keptTotal, kept, positive]
      | some kept => simp [Memory.keptTotal, *]

theorem Sound.spent (sound : Sound flush memory) (positive : 0 < flush) :
    Sound flush (spend window flush limit now size memory) := by
  obtain ⟨written, behind, ahead, same⟩ := sound.loaded positive now
  have flushed : (roll window now memory).2 ≤ (roll window now memory).1.total := by
    unfold roll
    split
    · exact Nat.le_refl 0
    · exact Nat.le_trans written behind
  unfold spend
  dsimp only
  split
  · refine ⟨by simp, ?_, ?_⟩
    · simpa [Memory.keptTotal] using Nat.le_add_right_of_le flushed
    · simpa [Memory.keptTotal] using positive
  · split
    · refine ⟨by simp, by simp [Memory.keptTotal], ?_⟩
      simpa [Memory.keptTotal] using positive
    · rename_i small
      have grown : (roll window now memory).1.total + size - (roll window now memory).2 < flush := by
        omega
      unfold roll at *
      cases rolled : rolls window now memory with
      | true =>
          simp only [rolled, if_true] at *
          refine ⟨by simp, by simp [Memory.keptTotal], ?_⟩
          simpa [Memory.keptTotal] using grown
      | false =>
          simp only [rolled, Bool.false_eq_true, if_false] at *
          constructor
          · intro count live kept stored
            obtain rfl := Option.some.inj live
            exact same kept stored
          · intro count live
            exact written
          · intro count live
            obtain rfl := Option.some.inj live
            simp only [Memory.keptTotal] at *
            omega

theorem Sound.stepped (sound : Sound flush memory) (positive : 0 < flush) (event : Event) :
    Sound flush (step window flush limit memory event) := by
  cases event with
  | spend now size => exact sound.spent positive
  | lose now => exact Sound.lost memory

end Sound

section Refusals
variable {window flush : Nat} {limit : Int} {memory : Memory}

/-- The stored counter of the window has passed the limit, and the memory has not fallen
behind it. -/
def Passed (limit : Int) (opened : Nat) (memory : Memory) : Prop :=
  ∃ kept, memory.kept = some kept ∧ kept.opened = opened ∧ limit < kept.total ∧
    ∀ count, memory.live = some count → count.opened = opened ∧ kept.total ≤ count.total

theorem exceeds_passed (flush : Nat) {now size : Nat}
    (exceeded : exceeds window limit now size memory = true) :
    Passed limit (roll window now memory).1.opened (spend window flush limit now size memory) := by
  have beyond : limit < (roll window now memory).1.total + size := by
    simpa [exceeds] using exceeded
  unfold spend
  dsimp only
  rw [if_pos exceeded]
  refine ⟨_, rfl, rfl, by exact_mod_cast beyond, fun count live => ?_⟩
  obtain rfl := Option.some.inj live
  exact ⟨rfl, Nat.le_refl _⟩

theorem Passed.loaded {opened : Nat} (passed : Passed limit opened memory) (now : Nat) :
    (load now memory).1.opened = opened ∧ limit < (load now memory).1.total := by
  obtain ⟨kept, stored, rfl, beyond, ahead⟩ := passed
  unfold load
  cases live : memory.live with
  | some count =>
      obtain ⟨same, more⟩ := ahead count live
      refine ⟨same, ?_⟩
      dsimp only
      omega
  | none =>
      simpa [stored] using beyond

theorem Passed.refuses (flush : Nat) {opened now size : Nat} (lasts : 0 < window)
    (passed : Passed limit opened memory) (early : now < opened + window) :
    exceeds window limit now size memory = true ∧
      Passed limit opened (spend window flush limit now size memory) := by
  obtain ⟨same, beyond⟩ := passed.loaded now
  have stays : rolls window now memory = false := by
    simp only [rolls, same, decide_eq_false_iff_not]
    omega
  have rolled : roll window now memory = load now memory := by
    rw [roll, stays, if_neg Bool.false_ne_true]
  have exceeded : exceeds window limit now size memory = true := by
    simp only [exceeds, rolled, decide_eq_true_eq]
    omega
  refine ⟨exceeded, ?_⟩
  have after := exceeds_passed flush exceeded
  rwa [rolled, same] at after

theorem Passed.lost {opened : Nat} (passed : Passed limit opened memory) :
    Passed limit opened (lose memory) := by
  obtain ⟨kept, stored, same, beyond, _⟩ := passed
  exact ⟨kept, stored, same, beyond, by simp [lose]⟩

theorem Passed.run (flush : Nat) {opened : Nat} (lasts : 0 < window) (passed : Passed limit opened memory)
    (events : List Event) (early : ∀ event ∈ events, event.now < opened + window) :
    Passed limit opened (Machine.run (step window flush limit) memory events) := by
  induction events generalizing memory with
  | nil => exact passed
  | cons event rest ih =>
      rw [List.forall_mem_cons] at early
      rw [Machine.run_cons]
      refine ih ?_ early.2
      cases event with
      | spend now size => exact (passed.refuses flush lasts early.1).2
      | lose now => exact passed.lost

end Refusals

section Budget
variable {window flush : Nat} {limit : Int} {memory : Memory} {from_ : Nat}

/-- The sizes spent in an interval, and the losses in it. -/
def spentTotal (window : Nat) (limit : Int) (from_ : Nat) (past : List (Memory × Event)) : Nat :=
  (past.map (spentIn window limit from_)).sum

def losses (window from_ : Nat) (past : List (Memory × Event)) : Nat :=
  past.countP (lostIn window from_)

/-- The window that counts now began in the interval. -/
def Renewed (from_ : Nat) (memory : Memory) : Prop :=
  ∃ kept, memory.kept = some kept ∧ from_ ≤ kept.opened

/-- What has been spent in the interval so far: as long as no window has begun in it, no more
than the counter holds and the losses forgot; after that, no more than that and a limit. -/
structure Budget (window flush : Nat) (limit : Int) (from_ : Nat) (past : List (Memory × Event))
    (memory : Memory) : Prop where
  sound : Sound flush memory
  total : (spentTotal window limit from_ past : Int) ≤
    2 * max limit 0 + losses window from_ past * flush
  running : (∀ met ∈ past, met.2.now < from_ + window) →
    ((spentTotal window limit from_ past : Int) ≤ max limit 0 + losses window from_ past * flush ∧
      (spentTotal window limit from_ past : Int) ≤
        memory.total + losses window from_ past * flush) ∨
    (Renewed from_ memory ∧ (spentTotal window limit from_ past : Int) ≤
      max limit 0 + memory.total + losses window from_ past * flush)

theorem spentTotal_append (past : List (Memory × Event)) (met : Memory × Event) :
    spentTotal window limit from_ (past ++ [met]) =
      spentTotal window limit from_ past + spentIn window limit from_ met := by
  simp [spentTotal]

theorem losses_append (past : List (Memory × Event)) (met : Memory × Event) :
    losses window from_ (past ++ [met]) =
      losses window from_ past + if lostIn window from_ met then 1 else 0 := by
  simp [losses, List.countP_append, List.countP_singleton]

theorem outside_interval (limit : Int) (memory : Memory) {event : Event}
    (outside : ¬ (from_ ≤ event.now ∧ event.now < from_ + window)) :
    spentIn window limit from_ (memory, event) = 0 ∧
      lostIn window from_ (memory, event) = false := by
  cases event with
  | spend now size =>
      simp only [Event.now] at outside
      refine ⟨?_, rfl⟩
      simp only [spentIn]
      rw [if_neg fun inside => outside ⟨inside.1, inside.2.1⟩]
  | lose now =>
      simp only [Event.now] at outside
      exact ⟨rfl, decide_eq_false outside⟩

theorem nothing_before (window : Nat) (limit : Int) {past : List (Memory × Event)}
    (early : ∀ met ∈ past, met.2.now < from_) :
    spentTotal window limit from_ past = 0 ∧ losses window from_ past = 0 := by
  induction past with
  | nil => exact ⟨rfl, rfl⟩
  | cons met rest ih =>
      rw [List.forall_mem_cons] at early
      obtain ⟨spent, lost⟩ := ih early.2
      have outside : ¬ (from_ ≤ met.2.now ∧ met.2.now < from_ + window) :=
        fun inside => Nat.not_le.mpr early.1 inside.1
      obtain ⟨none_, kept⟩ := outside_interval limit met.1 outside
      simp_all [spentTotal, losses]

theorem spend_total (window flush : Nat) (limit : Int) (memory : Memory) (now size : Nat) :
    (spend window flush limit now size memory).total = (roll window now memory).1.total + size := by
  unfold spend
  dsimp only
  split
  · rfl
  · split <;> rfl

theorem spend_rolled (flush : Nat) (limit : Int) {now : Nat} (size : Nat)
    (rolled : rolls window now memory = true) :
    ∃ kept, (spend window flush limit now size memory).kept = some kept ∧ kept.opened = now := by
  unfold spend roll
  simp only [rolled, if_true]
  split
  · exact ⟨_, rfl, rfl⟩
  · split
    · exact ⟨_, rfl, rfl⟩
    · exact ⟨_, rfl, rfl⟩

theorem spend_renewed {now size : Nat} (positive : 0 < flush) (sound : Sound flush memory)
    (stays : rolls window now memory = false) (renewed : Renewed from_ memory) :
    Renewed from_ (spend window flush limit now size memory) := by
  obtain ⟨kept, stored, late⟩ := renewed
  have same := (sound.loaded positive now).2.2.2 kept stored
  unfold spend roll
  simp only [stays, Bool.false_eq_true, if_false]
  split
  · exact ⟨_, rfl, by simpa [same] using late⟩
  · split
    · exact ⟨_, rfl, by simpa [same] using late⟩
    · exact ⟨kept, stored, late⟩

theorem Renewed.stays {now : Nat} (positive : 0 < flush) (lasts : 0 < window)
    (sound : Sound flush memory) (renewed : Renewed from_ memory) (early : now < from_ + window) :
    rolls window now memory = false := by
  obtain ⟨kept, stored, late⟩ := renewed
  have same := (sound.loaded positive now).2.2.2 kept stored
  simp only [rolls, same, decide_eq_false_iff_not]
  omega

theorem roll_total (now : Nat) : (roll window now memory).1.total =
    if rolls window now memory then 0 else memory.total := by
  unfold roll
  split
  · rfl
  · exact total_load now memory

variable {past : List (Memory × Event)}

theorem Budget.outside (positive : 0 < flush) (budget : Budget window flush limit from_ past memory)
    {event : Event} (ordered : ∀ met ∈ past, met.2.now ≤ event.now)
    (outside : ¬ (from_ ≤ event.now ∧ event.now < from_ + window)) :
    Budget window flush limit from_ (past ++ [(memory, event)])
      (step window flush limit memory event) := by
  obtain ⟨none_, kept⟩ := outside_interval limit memory outside
  have spent : spentTotal window limit from_ (past ++ [(memory, event)]) =
      spentTotal window limit from_ past := by rw [spentTotal_append, none_, Nat.add_zero]
  have lost : losses window from_ (past ++ [(memory, event)]) = losses window from_ past := by
    rw [losses_append, kept]
    rfl
  refine ⟨budget.sound.stepped positive event, by rw [spent, lost]; exact budget.total, ?_⟩
  intro early
  have before : event.now < from_ := by
    have now_ := early (memory, event) (by simp)
    by_contra late
    exact outside ⟨Nat.le_of_not_lt late, now_⟩
  obtain ⟨nothing, unlost⟩ := nothing_before window limit
    fun met member => Nat.lt_of_le_of_lt (ordered met member) before
  left
  rw [spent, lost, nothing, unlost]
  constructor <;> simp

theorem Budget.lost (positive : 0 < flush) (budget : Budget window flush limit from_ past memory)
    {now : Nat} (ordered : ∀ met ∈ past, met.2.now ≤ now) (begun : from_ ≤ now)
    (early : now < from_ + window) :
    Budget window flush limit from_ (past ++ [(memory, .lose now)]) (lose memory) := by
  have spent : spentTotal window limit from_ (past ++ [(memory, .lose now)]) =
      spentTotal window limit from_ past := by
    rw [spentTotal_append]
    rfl
  have lost : losses window from_ (past ++ [(memory, .lose now)]) = losses window from_ past + 1 := by
    rw [losses_append]
    simp [lostIn, begun, early]
  -- what a loss forgets
  have forgets : memory.total ≤ (lose memory).total + flush := by
    have after : (lose memory).total = memory.keptTotal := rfl
    rw [after]
    unfold Memory.total
    cases live : memory.live with
    | none => simp
    | some count => exact Nat.le_of_lt (budget.sound.ahead count live).2
  have total := budget.total
  have counted : ((losses window from_ past + 1 : Nat) : Int) * flush =
      losses window from_ past * flush + flush := by
    rw [Int.natCast_add, Int.add_mul, Int.natCast_one, Int.one_mul]
  refine ⟨Sound.lost memory, ?_, fun _ => ?_⟩
  · rw [spent, lost, counted]
    omega
  · rw [spent, lost, counted]
    rcases budget.running fun met member => Nat.lt_of_le_of_lt (ordered met member) early with
      ⟨capped, held⟩ | ⟨renewed, held⟩
    · left
      constructor <;> omega
    · exact .inr ⟨renewed, by omega⟩

theorem Budget.spent (positive : 0 < flush) (lasts : 0 < window)
    (budget : Budget window flush limit from_ past memory) {now size : Nat}
    (ordered : ∀ met ∈ past, met.2.now ≤ now) (begun : from_ ≤ now)
    (early : now < from_ + window) :
    Budget window flush limit from_ (past ++ [(memory, .spend now size)])
      (spend window flush limit now size memory) := by
  have lost : losses window from_ (past ++ [(memory, .spend now size)]) =
      losses window from_ past := by
    rw [losses_append]
    rfl
  have total := budget.total
  have held := spend_total window flush limit memory now size
  rw [roll_total] at held
  have spent : spentTotal window limit from_ (past ++ [(memory, .spend now size)]) =
      spentTotal window limit from_ past +
        if exceeds window limit now size memory = false then size else 0 := by
    rw [spentTotal_append]
    simp [spentIn, begun, early]
  have running := budget.running fun met member => Nat.lt_of_le_of_lt (ordered met member) early
  -- what is let through stays within the limit of its window
  have allowed : exceeds window limit now size memory = false →
      (((if rolls window now memory then 0 else memory.total) + size : Nat) : Int) ≤ limit := by
    intro allowed
    have within_ := of_decide_eq_false allowed
    rw [roll_total] at within_
    omega
  have next : ((spentTotal window limit from_ (past ++ [(memory, .spend now size)]) : Int) ≤
        max limit 0 + losses window from_ past * flush ∧
      (spentTotal window limit from_ (past ++ [(memory, .spend now size)]) : Int) ≤
        (spend window flush limit now size memory).total + losses window from_ past * flush) ∨
    (Renewed from_ (spend window flush limit now size memory) ∧
      (spentTotal window limit from_ (past ++ [(memory, .spend now size)]) : Int) ≤
        max limit 0 + (spend window flush limit now size memory).total +
          losses window from_ past * flush) := by
    cases rolled : rolls window now memory with
    | true =>
        -- a second window begins in the interval, and no third one
        rcases running with ⟨capped, _⟩ | ⟨renewed, _⟩
        · obtain ⟨kept, stored, same⟩ := spend_rolled flush limit size rolled
          refine .inr ⟨⟨kept, stored, by omega⟩, ?_⟩
          simp only [rolled, if_true] at held
          split at spent <;> omega
        · rw [renewed.stays positive lasts budget.sound early] at rolled
          exact Bool.noConfusion rolled
    | false =>
        simp only [rolled, Bool.false_eq_true, if_false] at held allowed
        rcases running with ⟨capped, behind⟩ | ⟨renewed, behind⟩
        · left
          cases exceeded : exceeds window limit now size memory with
          | true =>
              simp only [exceeded, Bool.true_eq_false, if_false] at spent
              constructor <;> omega
          | false =>
              have fits := allowed exceeded
              simp only [exceeded, if_true] at spent
              constructor <;> omega
        · refine .inr ⟨spend_renewed positive budget.sound rolled renewed, ?_⟩
          split at spent <;> omega
  refine ⟨budget.sound.spent positive, ?_, fun _ => ?_⟩
  · rw [lost]
    cases exceeded : exceeds window limit now size memory with
    | true =>
        simp only [exceeded, Bool.true_eq_false, if_false] at spent
        omega
    | false =>
        have fits := allowed exceeded
        rcases next with ⟨capped, _⟩ | ⟨_, behind⟩
        · omega
        · omega
  · rw [lost]
    exact next

end Budget

-- In every interval of the window's length, what is let through is at most two limits and
-- what the losses in it forgot.
theorem spent_bounded (window flush : Nat) (limit : Int) (positive : 0 < flush)
    (lasts : 0 < window) (memory : Memory) (fresh : memory.live = none) (events : List Event)
    (ordered : events.Pairwise fun first second => first.now ≤ second.now) (from_ : Nat) :
    (spentTotal window limit from_ (Machine.steps (step window flush limit) memory events) : Int) ≤
      2 * max limit 0 +
        losses window from_ (Machine.steps (step window flush limit) memory events) * flush := by
  have budget := Machine.history_invariant (step window flush limit)
    (Budget window flush limit from_)
    (fun past _ event => ∀ met ∈ past, met.2.now ≤ event.now)
    (fun past memory event budget ordered => ?_) [] memory ?_ events ?_
  · exact budget.total
  · by_cases inside : from_ ≤ event.now ∧ event.now < from_ + window
    · cases event with
      | spend now size => exact budget.spent positive lasts ordered inside.1 inside.2
      | lose now => exact budget.lost positive ordered inside.1 inside.2
    · exact budget.outside positive ordered inside
  · have none_ : spentTotal window limit from_ [] = 0 ∧ losses window from_ [] = 0 := ⟨rfl, rfl⟩
    refine ⟨⟨by simp [fresh], by simp [fresh], by simp [fresh]⟩, ?_, fun _ => .inl ⟨?_, ?_⟩⟩ <;>
      rw [none_.1, none_.2] <;> omega
  · intro before met after split other member
    obtain ⟨earlier, later, rfl, rfl, _, _⟩ :=
      Machine.steps_split _ memory events before after met split
    obtain ⟨first, rest, whole, _⟩ := Machine.steps_mem _ memory earlier other member
    rw [whole, List.append_assoc, List.pairwise_append] at ordered
    have tail := (List.pairwise_cons.mp ordered.2.1).1
    exact tail met.2 (by simp)

-- Once something has been refused in a window, everything is until the window is over.
theorem refused_stays (window flush : Nat) (limit : Int) (lasts : 0 < window) (memory : Memory)
    (now size : Nat) (exceeded : exceeds window limit now size memory = true)
    (between : List Event) (later size' : Nat)
    (ordered : ∀ event ∈ between, event.now ≤ later)
    (early : later < (roll window now memory).1.opened + window) :
    exceeds window limit later size' (Machine.run (step window flush limit)
      (spend window flush limit now size memory) between) = true := by
  have passed := exceeds_passed flush exceeded
  have kept := passed.run flush lasts between fun event member =>
    Nat.lt_of_le_of_lt (ordered event member) early
  exact (kept.refuses flush lasts early).1

end Relay.WriteBehind

import Mathlib.Data.List.Sort

/-!
Lists of closed integer intervals that tile a segment. Walking the list in order of the
lower ends, each interval must begin where the one before it ended; that is so exactly
when every point of the segment is covered once.
-/

namespace Relay.Tiling

universe u
variable {Item : Type u} (low high : Item → Int)

def covers (point : Int) (item : Item) : Bool := low item ≤ point && point ≤ high item

/-- Where a walk from `next` ends, if every interval begins at the next free point. -/
def walk (next : Int) : List Item → Option Int
  | [] => some next
  | item :: rest => if low item ≠ next then none else walk (high item + 1) rest

/-- Every point from `start` up to `stop` is covered once. -/
def Tiles (start stop : Int) (items : List Item) : Prop :=
  ∀ point, start ≤ point → point < stop → items.countP (covers low high point) = 1

variable {low high}

theorem covers_iff {point : Int} {item : Item} :
    covers low high point item = true ↔ low item ≤ point ∧ point ≤ high item := by
  simp [covers]

theorem walk_ends {next stop : Int} {items : List Item} (proper : ∀ item ∈ items, low item ≤ high item)
    (walked : walk low high next items = some stop) : next ≤ stop := by
  induction items generalizing next with
  | nil =>
      cases walked
      exact le_refl _
  | cons item rest ih =>
      simp only [List.forall_mem_cons] at proper
      simp only [walk] at walked
      split at walked
      · cases walked
      · rename_i begins
        have later := ih proper.2 walked
        have here := proper.1
        omega

theorem walk_counts {next stop : Int} {items : List Item}
    (proper : ∀ item ∈ items, low item ≤ high item) (walked : walk low high next items = some stop)
    (point : Int) :
    items.countP (covers low high point) = if next ≤ point ∧ point < stop then 1 else 0 := by
  induction items generalizing next with
  | nil =>
      obtain rfl : next = stop := by simpa [walk] using walked
      have outside : ¬ (next ≤ point ∧ point < next) := by omega
      rw [if_neg outside, List.countP_nil]
  | cons item rest ih =>
      simp only [List.forall_mem_cons] at proper
      simp only [walk] at walked
      split at walked
      · cases walked
      · rename_i begins
        have begins : low item = next := by simpa using begins
        have ends := walk_ends proper.2 walked
        have here := proper.1
        rw [List.countP_cons, ih proper.2 walked]
        by_cases inside : covers low high point item = true
        · have bounds := covers_iff.mp inside
          have later : ¬ (high item + 1 ≤ point ∧ point < stop) := by omega
          have within_ : next ≤ point ∧ point < stop := by omega
          rw [if_neg later, if_pos within_, if_pos inside]
        · have bounds : ¬ (low item ≤ point ∧ point ≤ high item) := fun both =>
            inside (covers_iff.mpr both)
          have same : (high item + 1 ≤ point ∧ point < stop) ↔ (next ≤ point ∧ point < stop) := by
            omega
          rw [if_neg inside, Nat.add_zero]
          exact if_congr same rfl rfl

theorem walk_tiles {start stop : Int} {items : List Item}
    (proper : ∀ item ∈ items, low item ≤ high item)
    (walked : walk low high start items = some stop) : Tiles low high start stop items := by
  intro point after before
  rw [walk_counts proper walked point, if_pos ⟨after, before⟩]

theorem tiles_walk {start stop : Int} {items : List Item} (bounds : start ≤ stop)
    (proper : ∀ item ∈ items, start ≤ low item ∧ low item ≤ high item ∧ high item < stop)
    (sorted : items.Pairwise fun first second => low first ≤ low second)
    (tiles : Tiles low high start stop items) : walk low high start items = some stop := by
  induction items generalizing start with
  | nil =>
      by_contra apart
      have free := tiles start (le_refl _) (by
        have apart : start ≠ stop := by simpa [walk] using apart
        omega)
      simp at free
  | cons item rest ih =>
      have here := proper item (by simp)
      have later : ∀ other ∈ rest, _ := fun other member =>
        proper other (List.mem_cons_of_mem item member)
      rw [List.pairwise_cons] at sorted
      have begins : low item = start := by
        have covered := tiles start (le_refl _) (by omega)
        obtain ⟨first, member, covering⟩ := List.countP_pos_iff.mp (by
          rw [covered]
          exact one_pos)
        have reach := (covers_iff.mp covering).1
        rcases List.mem_cons.mp member with rfl | inside
        · omega
        · have order := sorted.1 first inside
          omega
      have apart : ∀ other ∈ rest, high item < low other := by
        intro other member
        by_contra overlap
        have bounds := later other member
        have order := sorted.1 other member
        have both := tiles (low other) (by omega) (by omega)
        rw [List.countP_cons, if_pos (covers_iff.mpr ⟨order, by omega⟩)] at both
        have none_ : rest.countP (covers low high (low other)) = 0 := by omega
        exact absurd (covers_iff.mpr ⟨le_refl _, bounds.2.1⟩)
          (List.countP_eq_zero.mp none_ other member)
      simp only [walk, begins, ne_eq, not_true_eq_false, if_false]
      apply ih (by omega) _ sorted.2
      · intro point after before
        have whole := tiles point (by omega) before
        have past : ¬ covers low high point item = true := by
          rw [covers_iff]
          omega
        rw [List.countP_cons, if_neg past] at whole
        exact whole
      · intro other member
        have bounds := later other member
        have order := apart other member
        omega

end Relay.Tiling

import Mathlib.Data.List.Pairwise
import Mathlib.Data.List.Infix

/-!
The neighbours in a list, and its windows: the lists that stand in it in one piece.
-/

namespace Relay.Adjacent

universe u
variable {Item : Type u}

/-- Each item with the one after it. -/
def pairs (items : List Item) : List (Item × Item) := items.zip items.tail

@[simp] theorem pairs_nil : pairs ([] : List Item) = [] := rfl

@[simp] theorem pairs_singleton (item : Item) : pairs [item] = [] := rfl

@[simp] theorem pairs_cons_cons (first second : Item) (rest : List Item) :
    pairs (first :: second :: rest) = (first, second) :: pairs (second :: rest) := rfl

theorem mem_pairs_iff {items : List Item} {first second : Item} :
    (first, second) ∈ pairs items ↔ [first, second] <:+: items := by
  induction items with
  | nil => simp
  | cons item rest ih =>
      cases rest with
      | nil =>
          simp only [pairs_singleton, List.not_mem_nil, false_iff]
          intro inside
          have short := inside.length_le
          simp at short
      | cons next rest =>
          have head : [first, second] <+: item :: next :: rest ↔ (first, second) = (item, next) := by
            simp [List.cons_prefix_cons]
          rw [pairs_cons_cons, List.mem_cons, ih, ← head]
          exact List.infix_cons_iff.symm

theorem pairs_window {window items : List Item} (inside : window <:+: items) {pair : Item × Item}
    (member : pair ∈ pairs window) : pair ∈ pairs items :=
  mem_pairs_iff.mpr ((mem_pairs_iff.mp member).trans inside)

end Relay.Adjacent

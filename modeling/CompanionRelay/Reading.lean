import Mathlib.Data.List.Basic

/-!
Readers that take one item off the front of a text, and grammars that say which texts an
item has. What a sound reader takes off is a text of the item it returns; a reader that runs
`count` times takes off a sequence of such texts.
-/

namespace Relay.Reading

universe u
variable {Symbol Item Error : Type u}

abbrev Reader (Symbol Error Item : Type u) := List Symbol → Except Error (Item × List Symbol)

abbrev Grammar (Symbol Item : Type u) := Item → List Symbol → Prop

def Sound (grammar : Grammar Symbol Item) (read : Reader Symbol Error Item) : Prop :=
  ∀ text item rest, read text = .ok (item, rest) →
    ∃ part, text = part ++ rest ∧ grammar item part

/-- The reader `count` times. -/
def times (read : Reader Symbol Error Item) : Nat → Reader Symbol Error (List Item)
  | 0, text => .ok ([], text)
  | count + 1, text => do
      let (item, rest) ← read text
      let (items, rest) ← times read count rest
      pure (item :: items, rest)

/-- The texts of the items, one after the other. -/
inductive Sequence (grammar : Grammar Symbol Item) : Grammar Symbol (List Item)
  | nil : Sequence grammar [] []
  | cons {item : Item} {items : List Item} {part parts : List Symbol} (first : grammar item part)
      (others : Sequence grammar items parts) : Sequence grammar (item :: items) (part ++ parts)

theorem bind_eq_ok {First Second : Type u} {read : Except Error First}
    {continue' : First → Except Error Second} {result : Second} :
    (read >>= continue') = .ok result ↔ ∃ first, read = .ok first ∧ continue' first = .ok result := by
  cases read with
  | error thrown => exact ⟨nofun, nofun⟩
  | ok first => exact ⟨fun rest => ⟨first, rfl, rest⟩, fun ⟨_, rfl, rest⟩ => rest⟩

end Relay.Reading

import Mathlib.Data.List.Nodup

/-!
Sets and maps that remember the order of insertion: a key keeps its place when it is
added or set again. Both carry the fact that no key stands twice.
-/

namespace Relay

universe u v

structure OrderedSet (Item : Type u) where
  items : List Item
  nodup : items.Nodup

namespace OrderedSet
variable {Item : Type u}

instance : Membership Item (OrderedSet Item) := ⟨fun set item => item ∈ set.items⟩

instance [DecidableEq Item] (set : OrderedSet Item) (item : Item) : Decidable (item ∈ set) :=
  inferInstanceAs (Decidable (item ∈ set.items))

def empty : OrderedSet Item := ⟨[], List.nodup_nil⟩

@[simp] theorem not_mem_empty (item : Item) : item ∉ (empty : OrderedSet Item) :=
  List.not_mem_nil

variable [DecidableEq Item]

def add (set : OrderedSet Item) (item : Item) : OrderedSet Item :=
  if fresh : item ∈ set.items then set
  else ⟨set.items ++ [item], List.nodup_append.mpr ⟨set.nodup, List.nodup_singleton item, by
    intro kept inside other last same
    rw [List.mem_singleton.mp last] at same
    exact fresh (same ▸ inside)⟩⟩

def addAll (set : OrderedSet Item) (items : List Item) : OrderedSet Item := items.foldl add set

@[simp] theorem mem_add (set : OrderedSet Item) (item other : Item) :
    other ∈ set.add item ↔ other ∈ set ∨ other = item := by
  unfold add
  by_cases fresh : item ∈ set.items
  · simp only [fresh, dif_pos]
    constructor
    · exact .inl
    · rintro (inside | rfl)
      · exact inside
      · exact fresh
  · simp only [fresh, not_false_eq_true, dif_neg]
    exact List.mem_append.trans (or_congr_right List.mem_singleton)

@[simp] theorem mem_addAll (set : OrderedSet Item) (items : List Item) (other : Item) :
    other ∈ set.addAll items ↔ other ∈ set ∨ other ∈ items := by
  induction items generalizing set with
  | nil => simp [addAll]
  | cons item rest ih =>
      have step : set.addAll (item :: rest) = (set.add item).addAll rest := rfl
      rw [step, ih, mem_add, List.mem_cons, or_assoc]

theorem items_addAll (set : OrderedSet Item) (items : List Item)
    (distinct : (set.items ++ items).Nodup) : (set.addAll items).items = set.items ++ items := by
  induction items generalizing set with
  | nil => simp [addAll]
  | cons item rest ih =>
      have fresh : item ∉ set.items := by
        intro inside
        exact (List.nodup_append.mp distinct).2.2 item inside item List.mem_cons_self rfl
      have added : (set.add item).items = set.items ++ [item] := by
        rw [add, dif_neg fresh]
      have step : set.addAll (item :: rest) = (set.add item).addAll rest := rfl
      have same : set.items ++ item :: rest = (set.items ++ [item]) ++ rest := by simp
      rw [same, ← added] at distinct
      rw [step, ih (set.add item) distinct, same, added]

def delete (set : OrderedSet Item) (item : Item) : OrderedSet Item :=
  ⟨set.items.filter (· ≠ item), set.nodup.sublist List.filter_sublist⟩

@[simp] theorem mem_delete (set : OrderedSet Item) (item other : Item) :
    other ∈ set.delete item ↔ other ∈ set ∧ other ≠ item := by
  change other ∈ set.items.filter (· ≠ item) ↔ _
  simp only [List.mem_filter, decide_eq_true_eq]
  exact Iff.rfl

end OrderedSet

structure OrderedMap (Key : Type u) (Value : Type v) where
  entries : List (Key × Value)
  nodup : (entries.map Prod.fst).Nodup

namespace OrderedMap
variable {Key : Type u} {Value : Type v}

def empty : OrderedMap Key Value := ⟨[], List.nodup_nil⟩

def keys (map : OrderedMap Key Value) : List Key := map.entries.map Prod.fst

instance : Membership Key (OrderedMap Key Value) := ⟨fun map key => key ∈ map.keys⟩

variable [DecidableEq Key]

def get? (map : OrderedMap Key Value) (key : Key) : Option Value := map.entries.lookup key

def delete (map : OrderedMap Key Value) (key : Key) : OrderedMap Key Value :=
  ⟨map.entries.filter (·.1 ≠ key), map.nodup.sublist (List.filter_sublist.map Prod.fst)⟩

/-- A key that is there already keeps its place. -/
def set (map : OrderedMap Key Value) (key : Key) (value : Value) : OrderedMap Key Value :=
  if fresh : key ∈ map.keys then
    ⟨map.entries.map fun entry => if entry.1 = key then (key, value) else entry, by
      have same : (map.entries.map fun entry => if entry.1 = key then (key, value) else entry).map
          Prod.fst = map.entries.map Prod.fst := by
        rw [List.map_map]
        apply List.map_congr_left
        intro entry _
        by_cases here : entry.1 = key <;> simp [here]
      rw [same]
      exact map.nodup⟩
  else
    ⟨map.entries ++ [(key, value)], by
      rw [List.map_append, List.nodup_append]
      refine ⟨map.nodup, List.nodup_singleton key, ?_⟩
      intro kept inside other last same
      have last : other = key := List.mem_singleton.mp last
      exact fresh (last ▸ same ▸ inside)⟩

theorem entry_iff (map : OrderedMap Key Value) (key : Key) (value : Value) :
    map.get? key = some value ↔ (key, value) ∈ map.entries := by
  obtain ⟨entries, nodup⟩ := map
  unfold get?
  induction entries with
  | nil => simp
  | cons entry rest ih =>
      obtain ⟨first, held⟩ := entry
      simp only [List.map_cons, List.nodup_cons] at nodup
      simp only [List.lookup_cons, List.mem_cons, Prod.mk.injEq]
      by_cases here : key = first
      · subst here
        simp only [beq_self_eq_true, Option.some.injEq, true_and]
        constructor
        · rintro rfl
          exact .inl rfl
        · rintro (same | later)
          · exact same.symm
          · exact absurd (List.mem_map_of_mem later) nodup.1
      · have apart : (key == first) = false := by simpa using here
        rw [apart]
        simp only [here, false_and, false_or]
        exact ih nodup.2

theorem mem_iff (map : OrderedMap Key Value) (key : Key) :
    key ∈ map ↔ ∃ value, map.get? key = some value := by
  simp only [entry_iff]
  constructor
  · intro inside
    obtain ⟨entry, member, rfl⟩ := List.mem_map.mp inside
    exact ⟨entry.2, member⟩
  · rintro ⟨value, member⟩
    exact List.mem_map.mpr ⟨(key, value), member, rfl⟩

theorem get?_delete (map : OrderedMap Key Value) (key other : Key) (value : Value) :
    (map.delete key).get? other = some value ↔ other ≠ key ∧ map.get? other = some value := by
  simp only [entry_iff, delete, List.mem_filter, decide_eq_true_eq]
  exact and_comm

theorem get?_set (map : OrderedMap Key Value) (key other : Key) (value stored : Value) :
    (map.set key stored).get? other = some value ↔
      (other = key ∧ value = stored) ∨ (other ≠ key ∧ map.get? other = some value) := by
  simp only [entry_iff]
  unfold set
  by_cases fresh : key ∈ map.keys
  · simp only [fresh, dif_pos, List.mem_map]
    constructor
    · rintro ⟨entry, member, same⟩
      by_cases here : entry.1 = key
      · rw [if_pos here] at same
        cases same
        exact .inl ⟨rfl, rfl⟩
      · rw [if_neg here] at same
        subst same
        exact .inr ⟨here, member⟩
    · rintro (⟨rfl, rfl⟩ | ⟨apart, member⟩)
      · obtain ⟨entry, member, same⟩ := List.mem_map.mp fresh
        exact ⟨entry, member, by rw [if_pos same]⟩
      · exact ⟨(other, value), member, by rw [if_neg apart]⟩
  · simp only [fresh, not_false_eq_true, dif_neg, List.mem_append, List.mem_singleton,
      Prod.mk.injEq]
    constructor
    · rintro (member | ⟨rfl, rfl⟩)
      · refine .inr ⟨?_, member⟩
        rintro rfl
        exact fresh (List.mem_map.mpr ⟨_, member, rfl⟩)
      · exact .inl ⟨rfl, rfl⟩
    · rintro (⟨rfl, rfl⟩ | ⟨_, member⟩)
      · exact .inr ⟨rfl, rfl⟩
      · exact .inl member

theorem get?_set_if (map : OrderedMap Key Value) (key other : Key) (stored : Value) :
    (map.set key stored).get? other = if other = key then some stored else map.get? other := by
  apply Option.ext
  intro value
  rw [get?_set]
  by_cases here : other = key
  · simp [here, eq_comm]
  · simp [here]

theorem get?_delete_if (map : OrderedMap Key Value) (key other : Key) :
    (map.delete key).get? other = if other = key then none else map.get? other := by
  apply Option.ext
  intro value
  rw [get?_delete]
  by_cases here : other = key
  · simp [here]
  · simp [here]

theorem mem_set (map : OrderedMap Key Value) (key other : Key) (stored : Value) :
    other ∈ map.set key stored ↔ other = key ∨ other ∈ map := by
  simp only [mem_iff, get?_set_if]
  by_cases here : other = key
  · simp [here]
  · simp [here]

theorem filter_key (map : OrderedMap Key Value) (key : Key) :
    map.entries.filter (·.1 = key) = ((map.get? key).map fun value => (key, value)).toList := by
  obtain ⟨entries, nodup⟩ := map
  unfold get?
  induction entries with
  | nil => rfl
  | cons entry rest ih =>
      obtain ⟨first, held⟩ := entry
      simp only [List.map_cons, List.nodup_cons] at nodup
      have later := ih nodup.2
      simp only [List.lookup_cons]
      by_cases here : first = key
      · subst here
        have others : rest.filter (·.1 = first) = [] := by
          rw [List.filter_eq_nil_iff]
          intro other member same
          exact nodup.1 (List.mem_map.mpr ⟨other, member, by simpa using same⟩)
        rw [List.filter_cons_of_pos (by simp), others]
        simp
      · have apart : (key == first) = false := by simpa using Ne.symm here
        rw [List.filter_cons_of_neg (by simpa using here), apart, later]

end OrderedMap
end Relay

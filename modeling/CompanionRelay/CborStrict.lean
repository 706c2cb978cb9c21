import CompanionRelay.CborGrammar
import Mathlib.Algebra.Order.BigOperators.Group.List

/-!
How far decode() is strict. A value is faithful to an item when it holds the texts, the
numbers, the elements and the entries of the item and nothing else. Three kinds of input are
reinterpreted instead: texts that are not UTF-8 or begin with a byte order mark, keys that
come twice, and the key `__proto__`.
-/

namespace Relay.Cbor

section Faithful

mutual

/-- The value is what the item says, a map as an object with one own property for each entry. -/
def Faithful : Item → Value → Prop
  | .uint number, .num read => read = number
  | .bytes content, .bytes read => read = content
  | .text raw, .text read => utf8 read = raw
  | .array items, .array values => FaithfulItems items values
  | .map entries, .object fields =>
      fields.length = entries.length ∧ (entries.map (·.1)).Nodup ∧ FaithfulEntries entries fields
  | _, _ => False

def FaithfulItems : List Item → List Value → Prop
  | [], [] => True
  | item :: items, value :: values => Faithful item value ∧ FaithfulItems items values
  | _, _ => False

def FaithfulEntries : List (Bytes × Item) → List (String × Value) → Prop
  | [], _ => True
  | (key, item) :: entries, fields =>
      (∃ name value, utf8 name = key ∧ fields.lookup name = some value ∧ Faithful item value) ∧
        FaithfulEntries entries fields

end

/-- What decode() does with a string of bytes: it ends, and a value that it returns is faithful
to the one item whose text the bytes are. -/
structure Strict (bytes : Bytes) : Prop where
  ends : ∀ fuel, bytes.length ≤ fuel → readItem fuel bytes = readItem bytes.length bytes
  exact : ∀ value, decode bytes = .ok value →
    (∃ item, Encodes item bytes) ∧ ∀ item, Encodes item bytes → Faithful item value

end Faithful

section Conditions

/-- UTF-8 without a byte order mark in front. -/
def Plain (raw : Bytes) : Prop :=
  ∃ content : String, utf8 content = raw ∧ content.toList.head? ≠ some TextDecoder.byteOrderMark

mutual

def Clean : Item → Prop
  | .uint _ | .bytes _ => True
  | .text raw => Plain raw
  | .array items => CleanItems items
  | .map entries => (entries.map (·.1)).Nodup ∧ CleanEntries entries

def CleanItems : List Item → Prop
  | [] => True
  | item :: items => Clean item ∧ CleanItems items

def CleanEntries : List (Bytes × Item) → Prop
  | [] => True
  | (key, item) :: entries =>
      (Plain key ∧ key ≠ utf8 "__proto__" ∧ Clean item) ∧ CleanEntries entries

end

/-- The items that make an object to JavaScript. -/
def Item.isObject : Item → Bool
  | .uint _ | .text _ => false
  | .bytes _ | .array _ | .map _ => true

mutual

/-- Whether the value of the item, as the prototype of an object, refuses the key. -/
def Item.locks : Item → String → Bool
  | .bytes _, key => decide (key ∈ readOnlyKeys)
  | .map entries, key => entriesLock entries false false key
  | _, _ => false

/-- The same after the entries, when the object that they are assigned to owns the key or
not, and has a prototype that refuses it or not. -/
def entriesLock : List (Bytes × Item) → (owned locked : Bool) → String → Bool
  | [], owned, locked, _ => !owned && locked
  | (name, item) :: entries, owned, locked, key =>
      if TextDecoder.decode name = "__proto__" then
        entriesLock entries owned (if item.isObject then item.locks key else locked) key
      else entriesLock entries (owned || TextDecoder.decode name = key) locked key

end

/-- A map of the item assigns a property that a Uint8Array, which an entry before made the
prototype of the map, does not let be assigned. -/
inductive Blocked : Item → Prop
  | element {items : List Item} {item : Item} (member : item ∈ items) (blocked : Blocked item) :
      Blocked (.array items)
  | field {entries : List (Bytes × Item)} {key : Bytes} {item : Item} (member : (key, item) ∈ entries)
      (blocked : Blocked item) : Blocked (.map entries)
  | readOnly {before after : List (Bytes × Item)} {key : Bytes} {item : Item}
      (plain : TextDecoder.decode key ≠ "__proto__")
      (locked : Item.locks (.map before) (TextDecoder.decode key) = true) :
      Blocked (.map (before ++ (key, item) :: after))

end Conditions

section Locks
variable {item : Item} {entries : List (Bytes × Item)} {out value after : Value} {key : String}

theorem value_isObject (made : item.value = .ok value) : value.isObject = item.isObject := by
  cases item with
  | uint number | bytes content | text raw =>
      cases made
      rfl
  | array items =>
      obtain ⟨values, -, made⟩ := Reading.bind_eq_ok.mp made
      cases made
      rfl
  | map entries =>
      have isMap := assignEntries_isMap rfl made
      cases value <;> first | rfl | cases isMap

theorem assignEntries_inherits (each : ∀ entry ∈ entries, ∀ value, entry.2.value = .ok value →
      ∀ key, value.locks key = entry.2.locks key)
    (isMap : out.isMap = true) (assigned : assignEntries entries out = .ok after) (key : String) :
    after.locks key = entriesLock entries (owns out.fields key) (out.inherits key) key := by
  induction entries generalizing out with
  | nil =>
      cases assigned
      exact locks_eq isMap
  | cons entry entries ih =>
      obtain ⟨name, item⟩ := entry
      obtain ⟨value, made, assigned⟩ := Reading.bind_eq_ok.mp assigned
      obtain ⟨next, first, assigned⟩ := Reading.bind_eq_ok.mp assigned
      have rest := ih (fun entry member => each entry (.tail _ member)) (assign_isMap isMap first) assigned
      rw [rest, entriesLock]
      split
      · rename_i proto
        obtain ⟨next', first', fields, inherits⟩ := assign_proto isMap value
        rw [proto, first'] at first
        cases first
        rw [fields, inherits, value_isObject made, each _ (.head _) _ made]
      · rename_i plain
        cases locked : out.locks (TextDecoder.decode name) with
        | true =>
            rw [assign_refused plain locked] at first
            cases first
        | false =>
            obtain ⟨next', first', fields, inherits⟩ := assign_plain isMap plain locked value
            rw [first'] at first
            cases first
            rw [fields, inherits, owns_setField]
            congr 2
            exact decide_eq_decide.mpr eq_comm

theorem value_locks (made : item.value = .ok value) (key : String) :
    value.locks key = item.locks key := by
  induction item using Item.nested generalizing value key with
  | uint number | bytes content | text raw =>
      cases made
      rfl
  | array items =>
      obtain ⟨values, -, made⟩ := Reading.bind_eq_ok.mp made
      cases made
      rfl
  | map entries ih =>
      exact assignEntries_inherits (fun entry member _ made key => ih entry member made key) rfl made key

theorem assigned_locks (assigned : assignEntries entries (.object []) = .ok out) (key : String) :
    out.locks key = (Item.map entries).locks key := by
  have made : (Item.map entries).value = .ok out := assigned
  exact value_locks made key

end Locks

section Refusals
variable {item : Item} {items : List Item} {entries : List (Bytes × Item)} {out : Value} {thrown : Thrown}

theorem assignEntries_append (front back : List (Bytes × Item)) (out : Value) :
    assignEntries (front ++ back) out = assignEntries front out >>= assignEntries back := by
  induction front generalizing out with
  | nil => rfl
  | cons entry front ih =>
      obtain ⟨key, item⟩ := entry
      simp only [List.cons_append, assignEntries, ih]
      cases item.value with
      | error thrown => rfl
      | ok value =>
          simp only [bind, Except.bind]
          cases out.assign (TextDecoder.decode key) value <;> rfl

theorem valueItems_error_iff :
    (∃ thrown, valueItems items = .error thrown) ↔ ∃ item ∈ items, ∃ thrown, item.value = .error thrown := by
  induction items with
  | nil => simp [valueItems]
  | cons item items ih =>
      rw [List.exists_mem_cons_iff, ← ih, valueItems]
      cases item.value with
      | error thrown => simp [bind, Except.bind]
      | ok value => cases valueItems items <;> simp [bind, Except.bind, pure, Except.pure]

theorem assignEntries_error {before : List (Bytes × Item)}
    (reached : assignEntries before (.object []) = .ok out)
    (stopped : assignEntries entries out = .error thrown) :
    (∃ entry ∈ entries, ∃ thrown, entry.2.value = .error thrown) ∨ Blocked (.map (before ++ entries)) := by
  induction entries generalizing before out with
  | nil => cases stopped
  | cons entry entries ih =>
      obtain ⟨key, item⟩ := entry
      cases made : item.value with
      | error thrown => exact .inl ⟨_, .head _, thrown, made⟩
      | ok value =>
          rw [assignEntries, made] at stopped
          change (out.assign (TextDecoder.decode key) value >>= _) = _ at stopped
          cases assigned : out.assign (TextDecoder.decode key) value with
          | ok after =>
              rw [assigned] at stopped
              have reached' : assignEntries (before ++ [(key, item)]) (.object []) = .ok after := by
                rw [assignEntries_append, reached]
                change assignEntries [(key, item)] out = _
                exact Reading.bind_eq_ok.mpr ⟨value, made, Reading.bind_eq_ok.mpr ⟨after, assigned, rfl⟩⟩
              rcases ih reached' stopped with ⟨entry, member, unmade⟩ | blocked
              · exact .inl ⟨entry, .tail _ member, unmade⟩
              · rw [List.append_assoc] at blocked
                exact .inr blocked
          | error refused =>
              have isMap := assignEntries_isMap rfl reached
              by_cases plain : TextDecoder.decode key = "__proto__"
              · obtain ⟨after, assigned', -⟩ := assign_proto isMap value
                rw [plain, assigned'] at assigned
                cases assigned
              · cases locked : out.locks (TextDecoder.decode key) with
                | false =>
                    obtain ⟨after, assigned', -⟩ := assign_plain isMap plain locked value
                    rw [assigned'] at assigned
                    cases assigned
                | true =>
                    have same := assigned_locks reached (TextDecoder.decode key)
                    exact .inr (.readOnly plain (same ▸ locked))

theorem assignEntries_unmade {entry : Bytes × Item} (member : entry ∈ entries)
    (unmade : entry.2.value = .error thrown) (out : Value) :
    ∃ thrown, assignEntries entries out = .error thrown := by
  obtain ⟨front, back, rfl⟩ := List.append_of_mem member
  rw [assignEntries_append]
  cases assignEntries front out with
  | error thrown => exact ⟨thrown, rfl⟩
  | ok out =>
      obtain ⟨key, item⟩ := entry
      refine ⟨thrown, ?_⟩
      change assignEntries ((key, item) :: back) out = _
      rw [assignEntries, unmade]
      rfl

-- The items that make no value are the blocked ones.
theorem value_error_iff : (∃ thrown, item.value = .error thrown) ↔ Blocked item := by
  constructor
  · intro unmade
    induction item using Item.nested with
    | uint number | bytes content | text raw => exact nomatch unmade
    | array items ih =>
        obtain ⟨thrown, unmade⟩ := unmade
        have some' : ∃ thrown, valueItems items = .error thrown := by
          cases items' : valueItems items with
          | error thrown => exact ⟨thrown, rfl⟩
          | ok values =>
              rw [Item.value, items'] at unmade
              cases unmade
        obtain ⟨item, member, unmade⟩ := valueItems_error_iff.mp some'
        exact .element member (ih item member unmade)
    | map entries ih =>
        obtain ⟨thrown, unmade⟩ := unmade
        have start : assignEntries [] (.object []) = .ok (.object []) := rfl
        rcases assignEntries_error start unmade with ⟨entry, member, unmade⟩ | blocked
        · obtain ⟨key, item⟩ := entry
          exact .field member (ih (key, item) member unmade)
        · exact blocked
  · intro blocked
    induction blocked with
    | element member blocked ih =>
        obtain ⟨thrown, unmade⟩ := valueItems_error_iff.mpr ⟨_, member, ih⟩
        exact ⟨thrown, by rw [Item.value, unmade]; rfl⟩
    | field member blocked ih =>
        obtain ⟨thrown, unmade⟩ := ih
        exact assignEntries_unmade member unmade _
    | @readOnly before after key item plain locked =>
        rw [Item.value, assignEntries_append]
        cases reached : assignEntries before (.object []) with
        | error thrown => exact ⟨thrown, rfl⟩
        | ok out =>
            change ∃ thrown, assignEntries ((key, item) :: after) out = _
            rw [assignEntries]
            cases item.value with
            | error thrown => exact ⟨thrown, rfl⟩
            | ok value =>
                rw [← assigned_locks reached] at locked
                refine ⟨.readOnly (TextDecoder.decode key), ?_⟩
                change (out.assign (TextDecoder.decode key) value >>= _) = _
                rw [assign_refused plain locked]
                rfl

end Refusals

section Entries
variable {entries : List (Bytes × Item)} {out after : Value} {fields : List (String × Value)}

theorem faithfulEntries_iff : FaithfulEntries entries fields ↔ ∀ entry ∈ entries, ∃ name value,
    utf8 name = entry.1 ∧ fields.lookup name = some value ∧ Faithful entry.2 value := by
  induction entries with
  | nil => simp [FaithfulEntries]
  | cons entry entries ih =>
      obtain ⟨key, item⟩ := entry
      rw [FaithfulEntries, ih, List.forall_mem_cons]

theorem cleanEntries_iff : CleanEntries entries ↔
    ∀ entry ∈ entries, Plain entry.1 ∧ entry.1 ≠ utf8 "__proto__" ∧ Clean entry.2 := by
  induction entries with
  | nil => simp [CleanEntries]
  | cons entry entries ih =>
      obtain ⟨key, item⟩ := entry
      rw [CleanEntries, ih, List.forall_mem_cons]

theorem decode_plain {content : String}
    (unmarked : content.toList.head? ≠ some TextDecoder.byteOrderMark) :
    TextDecoder.decode (utf8 content) = content := by
  rw [TextDecoder.decode_utf8, TextDecoder.stripped_eq_iff.mpr unmarked]

theorem assignEntries_owns (isMap : out.isMap = true) (assigned : assignEntries entries out = .ok after)
    {name : String} (owned : owns after.fields name = true) : owns out.fields name = true ∨
      name ≠ "__proto__" ∧ name ∈ entries.map (TextDecoder.decode ·.1) := by
  induction entries generalizing out with
  | nil =>
      cases assigned
      exact .inl owned
  | cons entry entries ih =>
      obtain ⟨key, item⟩ := entry
      obtain ⟨value, made, assigned⟩ := Reading.bind_eq_ok.mp assigned
      obtain ⟨next, first, assigned⟩ := Reading.bind_eq_ok.mp assigned
      rcases ih (assign_isMap isMap first) assigned with before | ⟨plain, listed⟩
      · by_cases plain : TextDecoder.decode key = "__proto__"
        · obtain ⟨next', first', same, -⟩ := assign_proto isMap value
          rw [plain, first'] at first
          cases first
          exact .inl (same ▸ before)
        · cases locked : out.locks (TextDecoder.decode key) with
          | true =>
              rw [assign_refused plain locked] at first
              cases first
          | false =>
              obtain ⟨next', first', set, -⟩ := assign_plain isMap plain locked value
              rw [first'] at first
              cases first
              rw [set, owns_setField, Bool.or_eq_true, decide_eq_true_eq] at before
              rcases before with before | rfl
              · exact .inl before
              · exact .inr ⟨plain, .head _⟩
      · exact .inr ⟨plain, .tail _ listed⟩

-- Keys that are plain and come once are assigned one after the other to an object that
-- keeps them all.
theorem assignEntries_plain (plain : ∀ entry ∈ entries, Plain entry.1 ∧ entry.1 ≠ utf8 "__proto__")
    (unique : (entries.map (·.1)).Nodup)
    (new : ∀ entry ∈ entries, owns fields (TextDecoder.decode entry.1) = false)
    (assigned : assignEntries entries (.object fields) = .ok after) :
    ∃ fields', after = .object fields' ∧ fields'.length = fields.length + entries.length ∧
      (∀ name, owns fields name = true → fields'.lookup name = fields.lookup name) ∧
      ∀ entry ∈ entries, ∃ value, entry.2.value = .ok value ∧
        fields'.lookup (TextDecoder.decode entry.1) = some value := by
  induction entries generalizing fields with
  | nil =>
      cases assigned
      exact ⟨fields, rfl, rfl, fun _ _ => rfl, nofun⟩
  | cons entry entries ih =>
      obtain ⟨key, item⟩ := entry
      obtain ⟨name, rfl, unmarked⟩ := (plain _ (.head _)).1
      obtain ⟨⟨-, special⟩, plain⟩ := List.forall_mem_cons.mp plain
      obtain ⟨value, made, assigned⟩ := Reading.bind_eq_ok.mp assigned
      obtain ⟨next, first, assigned⟩ := Reading.bind_eq_ok.mp assigned
      obtain ⟨fresh, new⟩ := List.forall_mem_cons.mp new
      obtain ⟨apart, unique⟩ := List.nodup_cons.mp unique
      rw [decode_plain unmarked] at first fresh
      have ordinary : name ≠ "__proto__" := fun same => special (congrArg utf8 same)
      rw [assign_object ordinary] at first
      cases first
      have new' : ∀ entry ∈ entries,
          owns (setField fields name value) (TextDecoder.decode entry.1) = false := by
        intro entry member
        obtain ⟨⟨other, named, unmarked'⟩, -⟩ := plain entry member
        have different : other ≠ name := by
          rintro rfl
          exact apart (List.mem_map.mpr ⟨entry, member, named.symm⟩)
        rw [owns_setField, new entry member, ← named, decode_plain unmarked', Bool.false_or]
        exact decide_eq_false different
      obtain ⟨fields', rfl, length, kept, each⟩ := ih plain unique new' assigned
      refine ⟨fields', rfl, ?_, fun other owned => ?_, List.forall_mem_cons.mpr ⟨⟨value, made, ?_⟩, each⟩⟩
      · rw [length, length_setField_new fresh, List.length_cons]
        omega
      · rw [kept other (by rw [owns_setField, owned, Bool.true_or]), lookup_setField, if_neg]
        rintro rfl
        rw [owned] at fresh
        cases fresh
      · rw [decode_plain unmarked, kept name (by rw [owns_setField]; simp), lookup_setField, if_pos rfl]

theorem stripped_all {names : List String} (unique : names.Nodup)
    (covered : ∀ name ∈ names, name ∈ names.map TextDecoder.stripped) :
    ∀ name ∈ names, TextDecoder.stripped name = name := by
  have permuted : names.Perm (names.map TextDecoder.stripped) :=
    (unique.subperm covered).perm_of_length_le (List.length_map _).le
  have total := (permuted.map (fun name : String => name.toList.length)).sum_nat
  rw [List.map_map] at total
  intro name member
  refine TextDecoder.stripped_eq_of_length (Nat.le_antisymm (TextDecoder.stripped_length_le name) ?_)
  by_contra shorter
  have less : ((names.map TextDecoder.stripped).map fun name : String => name.toList.length).sum <
      (names.map fun name : String => name.toList.length).sum := by
    rw [List.map_map]
    exact List.sum_lt_sum _ _ (fun name _ => TextDecoder.stripped_length_le name)
      ⟨name, member, Nat.lt_of_not_le shorter⟩
  rw [List.map_map] at less
  omega

end Entries

section Values
variable {item : Item} {items : List Item} {value : Value} {values : List Value}

theorem valueItems_faithful_iff (each : ∀ item ∈ items, ∀ value, item.value = .ok value →
      (Faithful item value ↔ Clean item))
    (made : valueItems items = .ok values) : FaithfulItems items values ↔ CleanItems items := by
  induction items generalizing values with
  | nil =>
      cases made
      simp [FaithfulItems, CleanItems]
  | cons item items ih =>
      obtain ⟨value, first, made⟩ := Reading.bind_eq_ok.mp made
      obtain ⟨others, rest, made⟩ := Reading.bind_eq_ok.mp made
      cases made
      obtain ⟨one, each⟩ := List.forall_mem_cons.mp each
      rw [FaithfulItems, CleanItems, one value first, ih each rest]

theorem entries_plain {entries : List (Bytes × Item)} {value : Value}
    (unique : (entries.map (·.1)).Nodup)
    (named : ∀ entry ∈ entries, ∃ name, utf8 name = entry.1 ∧ owns value.fields name = true)
    (assigned : assignEntries entries (.object []) = .ok value) :
    ∀ entry ∈ entries, Plain entry.1 ∧ entry.1 ≠ utf8 "__proto__" := by
  choose! name encoded owned using named
  have keys : entries.map (·.1) = (entries.map name).map utf8 := by
    rw [List.map_map]
    exact List.map_congr_left fun entry member => (encoded entry member).symm
  have decoded : entries.map (TextDecoder.decode ·.1) = (entries.map name).map TextDecoder.stripped := by
    rw [List.map_map]
    refine List.map_congr_left fun entry member => ?_
    change TextDecoder.decode entry.1 = TextDecoder.stripped (name entry)
    rw [← encoded entry member, TextDecoder.decode_utf8]
  have listed (entry) (member : entry ∈ entries) :
      name entry ≠ "__proto__" ∧ name entry ∈ (entries.map name).map TextDecoder.stripped := by
    rcases assignEntries_owns rfl assigned (owned entry member) with none | listed
    · cases none
    · rwa [decoded] at listed
  rw [keys] at unique
  have whole := stripped_all unique.of_map fun other found => by
    obtain ⟨entry, member, rfl⟩ := List.mem_map.mp found
    exact (listed entry member).2
  intro entry member
  refine ⟨⟨name entry, encoded entry member, ?_⟩, ?_⟩
  · exact TextDecoder.stripped_eq_iff.mp (whole _ (List.mem_map_of_mem member))
  · rw [← encoded entry member]
    exact fun same => (listed entry member).1 (utf8_injective same)

-- The value of an item is faithful to it if and only if the item is clean.
theorem faithful_iff (made : item.value = .ok value) : Faithful item value ↔ Clean item := by
  induction item using Item.nested generalizing value with
  | uint number | bytes content =>
      cases made
      simp [Faithful, Clean]
  | text raw =>
      cases made
      rw [Faithful, Clean]
      constructor
      · intro same
        refine ⟨_, same, TextDecoder.stripped_eq_iff.mp ?_⟩
        rw [← TextDecoder.decode_utf8, same]
      · rintro ⟨content, rfl, unmarked⟩
        rw [decode_plain unmarked]
  | array items ih =>
      obtain ⟨values, inner, made⟩ := Reading.bind_eq_ok.mp made
      cases made
      rw [Faithful, Clean]
      exact valueItems_faithful_iff (fun item member _ made => ih item member made) inner
  | map entries ih =>
      rw [Clean, cleanEntries_iff]
      constructor
      · intro faithful
        cases value with
        | object fields =>
            rw [Faithful] at faithful
            obtain ⟨-, unique, named⟩ := faithful
            have owned : ∀ entry ∈ entries, ∃ name, utf8 name = entry.1 ∧ owns (Value.object fields).fields name = true := by
              intro entry member
              obtain ⟨name, value, encoded, found, -⟩ := faithfulEntries_iff.mp named entry member
              exact ⟨name, encoded, by rw [Value.fields, owns_eq_lookup, found]; rfl⟩
            have plain := entries_plain unique owned made
            obtain ⟨fields', same, -, -, each⟩ := assignEntries_plain plain unique (fun _ _ => rfl) made
            cases same
            refine ⟨unique, fun entry member => ⟨(plain entry member).1, (plain entry member).2, ?_⟩⟩
            obtain ⟨name, value, encoded, found, faithful⟩ := faithfulEntries_iff.mp named entry member
            obtain ⟨value', made, found'⟩ := each entry member
            have whole : TextDecoder.decode entry.1 = name := by
              obtain ⟨content, encoded', unmarked⟩ := (plain entry member).1
              rw [← encoded', decode_plain unmarked]
              exact utf8_injective (encoded'.trans encoded.symm)
            rw [whole, found] at found'
            cases found'
            exact (ih entry member made).mp faithful
        | _ => simp [Faithful] at faithful
      · rintro ⟨unique, clean⟩
        have plain : ∀ entry ∈ entries, Plain entry.1 ∧ entry.1 ≠ utf8 "__proto__" :=
          fun entry member => ⟨(clean entry member).1, (clean entry member).2.1⟩
        obtain ⟨fields, rfl, length, -, each⟩ := assignEntries_plain plain unique (fun _ _ => rfl) made
        rw [Faithful, faithfulEntries_iff]
        refine ⟨by simpa using length, unique, fun entry member => ?_⟩
        obtain ⟨⟨name, encoded, unmarked⟩, -, cleanItem⟩ := clean entry member
        obtain ⟨value, made, found⟩ := each entry member
        rw [← encoded, decode_plain unmarked] at found
        exact ⟨name, value, encoded, found, (ih entry member made).mpr cleanItem⟩

end Values

section Strict

theorem readItem_ends (bytes : Bytes) (fuel : Nat) (enough : bytes.length ≤ fuel) :
    readItem fuel bytes = readItem bytes.length bytes := by
  induction fuel, enough using Nat.le_induction with
  | base => rfl
  | succ fuel enough ih => rw [readItem_fuel fuel bytes enough, ih]

/-- decode() is strict on the bytes of the items that are clean, and on those that it stops
at because they write to a read-only property. -/
theorem strict_iff (bytes : Bytes) :
    Strict bytes ↔ ∀ item, Encodes item bytes → Clean item ∨ Blocked item := by
  constructor
  · intro strict item encodes
    have decoded := decode_encoded encodes
    cases made : item.value with
    | error thrown => exact .inr (value_error_iff.mp ⟨thrown, made⟩)
    | ok value =>
        rw [made] at decoded
        exact .inl ((faithful_iff made).mp ((strict.exact value decoded).2 item encodes))
  · intro sound
    refine ⟨readItem_ends bytes, fun value decoded => ?_⟩
    obtain ⟨item, encodes, -⟩ := decode_ok decoded
    refine ⟨⟨item, encodes⟩, fun item encodes => ?_⟩
    rw [decode_encoded encodes] at decoded
    rcases sound item encodes with clean | blocked
    · exact (faithful_iff decoded).mpr clean
    · obtain ⟨thrown, unmade⟩ := value_error_iff.mpr blocked
      rw [decoded] at unmade
      cases unmade

theorem not_strict {bytes : Bytes} {item : Item} {value : Value} (decoded : decode bytes = .ok value)
    (encodes : Encodes item bytes) (unclean : ¬Clean item) : ¬Strict bytes := by
  intro strict
  have made := decode_encoded encodes
  rw [decoded] at made
  exact unclean ((faithful_iff made.symm).mp ((strict.exact value decoded).2 item encodes))

theorem not_plain {raw : Bytes} (other : utf8 (TextDecoder.decode raw) ≠ raw) : ¬Plain raw := by
  rintro ⟨content, rfl, unmarked⟩
  rw [decode_plain unmarked] at other
  exact other rfl

/-- Of two entries with the key `a` the first is lost, the entry with the key `__proto__`
leaves nothing, a byte that is not UTF-8 becomes a replacement character, and a byte order
mark is dropped. -/
theorem decode_reinterprets :
    decode [0xa2, 0x61, 0x61, 1, 0x61, 0x61, 2] = .ok (.object [("a", .num 2)]) ∧
    ¬Strict [0xa2, 0x61, 0x61, 1, 0x61, 0x61, 2] ∧
    decode [0xa1, 0x69, 0x5f, 0x5f, 0x70, 0x72, 0x6f, 0x74, 0x6f, 0x5f, 0x5f, 1] =
      .ok (.object []) ∧
    ¬Strict [0xa1, 0x69, 0x5f, 0x5f, 0x70, 0x72, 0x6f, 0x74, 0x6f, 0x5f, 0x5f, 1] ∧
    decode [0x61, 0xff] = .ok (.text "\uFFFD") ∧ ¬Strict [0x61, 0xff] ∧
    decode [0x63, 0xef, 0xbb, 0xbf] = .ok (.text "") ∧ ¬Strict [0x63, 0xef, 0xbb, 0xbf] := by
  have duplicate : Encodes (.map [([0x61], .uint 1), ([0x61], .uint 2)])
      [0xa2, 0x61, 0x61, 1, 0x61, 0x61, 2] :=
    .map _ [0xa2] _ (.tiny 2 (by omega))
      (.cons _ _ _ [0x61, 0x61] [1] _ (.text [0x61] [0x61] (.tiny 1 (by omega)))
        (.uint 1 _ (.tiny 1 (by omega)))
        (.cons _ _ _ [0x61, 0x61] [2] [] (.text [0x61] [0x61] (.tiny 1 (by omega)))
          (.uint 2 _ (.tiny 2 (by omega))) .nil))
  have proto : utf8 "__proto__" = [0x5f, 0x5f, 0x70, 0x72, 0x6f, 0x74, 0x6f, 0x5f, 0x5f] := by
    rw [utf8_chars]
    rfl
  have special : Encodes (.map [([0x5f, 0x5f, 0x70, 0x72, 0x6f, 0x74, 0x6f, 0x5f, 0x5f], .uint 1)])
      [0xa1, 0x69, 0x5f, 0x5f, 0x70, 0x72, 0x6f, 0x74, 0x6f, 0x5f, 0x5f, 1] :=
    .map _ [0xa1] _ (.tiny 1 (by omega))
      (.cons _ _ _ [0x69, 0x5f, 0x5f, 0x70, 0x72, 0x6f, 0x74, 0x6f, 0x5f, 0x5f] [1] []
        (.text _ [0x69] (.tiny 9 (by omega))) (.uint 1 _ (.tiny 1 (by omega))) .nil)
  refine ⟨rfl, not_strict rfl duplicate ?_, rfl, not_strict rfl special ?_, rfl,
    not_strict rfl (.text [0xff] [0x61] (.tiny 1 (by omega))) ?_, rfl,
    not_strict rfl (.text [0xef, 0xbb, 0xbf] [0x63] (.tiny 3 (by omega))) ?_⟩
  · rw [Clean]
    exact fun ⟨unique, _⟩ => absurd unique (by decide)
  · rw [Clean, cleanEntries_iff, ← proto]
    exact fun ⟨_, clean⟩ => (clean _ (.head _)).2.1 rfl
  · refine not_plain ?_
    rw [utf8_chars]
    decide
  · refine not_plain ?_
    rw [utf8_chars]
    decide

end Strict

end Relay.Cbor

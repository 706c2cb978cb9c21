import CompanionRelay.CborStrict
import Mathlib.Data.List.TakeWhile

/-!
decode() after encode(). The heads that encode() writes have at most four bytes of length, so
that a number from 2^32 on comes back without its high bits; a text loses its byte order
mark, and an own key `__proto__` goes to the prototype of the copy. Everything else comes back.
-/

namespace Relay.Cbor

open Reading (times)

section Values

/-- The keys of an object, as JavaScript lists them. -/
def Listed (fields : List (String × Value)) : Prop :=
  fields.Pairwise fun before after => before.1 ≠ after.1 ∧ listedBefore after.1 before.1 = true

mutual

/-- The values that the subset is about. -/
def Data : Value → Prop
  | .num number => number < 2 ^ 53
  | .bytes _ | .text _ => True
  | .array items => DataItems items
  | .object fields => Listed fields ∧ DataFields fields
  | .derived _ _ => False

def DataItems : List Value → Prop
  | [] => True
  | item :: items => Data item ∧ DataItems items

def DataFields : List (String × Value) → Prop
  | [] => True
  | (_, value) :: fields => Data value ∧ DataFields fields

end

mutual

/-- No length of the value is 2^32 or more. -/
def Short : Value → Prop
  | .num _ => True
  | .bytes content => content.length < 2 ^ 32
  | .text content => (utf8 content).length < 2 ^ 32
  | .array items => items.length < 2 ^ 32 ∧ ShortItems items
  | .object fields | .derived _ fields => fields.length < 2 ^ 32 ∧ ShortFields fields

def ShortItems : List Value → Prop
  | [] => True
  | item :: items => Short item ∧ ShortItems items

def ShortFields : List (String × Value) → Prop
  | [] => True
  | (key, value) :: fields => ((utf8 key).length < 2 ^ 32 ∧ Short value) ∧ ShortFields fields

end

def Unmarked (content : String) : Prop := content.toList.head? ≠ some TextDecoder.byteOrderMark

mutual

/-- The numbers, texts and keys of the value are ones that come back. -/
def Portable : Value → Prop
  | .num number => number < 2 ^ 32
  | .bytes _ => True
  | .text content => Unmarked content
  | .array items => PortableItems items
  | .object fields | .derived _ fields => PortableFields fields

def PortableItems : List Value → Prop
  | [] => True
  | item :: items => Portable item ∧ PortableItems items

def PortableFields : List (String × Value) → Prop
  | [] => True
  | (key, value) :: fields =>
      (Unmarked key ∧ key ≠ "__proto__" ∧ Portable value) ∧ PortableFields fields

end

mutual

/-- The keys of the value are read back as they are. -/
def PlainKeys : Value → Prop
  | .num _ | .bytes _ | .text _ => True
  | .array items => PlainKeysOfItems items
  | .object fields | .derived _ fields => PlainKeysOfFields fields

def PlainKeysOfItems : List Value → Prop
  | [] => True
  | item :: items => PlainKeys item ∧ PlainKeysOfItems items

def PlainKeysOfFields : List (String × Value) → Prop
  | [] => True
  | (key, value) :: fields =>
      ((utf8 key).length < 2 ^ 32 ∧ Unmarked key ∧ PlainKeys value) ∧ PlainKeysOfFields fields

end

theorem dataItems_iff {items : List Value} : DataItems items ↔ ∀ item ∈ items, Data item := by
  induction items with
  | nil => simp [DataItems]
  | cons item items ih => rw [DataItems, ih, List.forall_mem_cons]

theorem dataFields_iff {fields : List (String × Value)} :
    DataFields fields ↔ ∀ field ∈ fields, Data field.2 := by
  induction fields with
  | nil => simp [DataFields]
  | cons field fields ih =>
      obtain ⟨key, value⟩ := field
      rw [DataFields, ih, List.forall_mem_cons]

theorem shortItems_iff {items : List Value} : ShortItems items ↔ ∀ item ∈ items, Short item := by
  induction items with
  | nil => simp [ShortItems]
  | cons item items ih => rw [ShortItems, ih, List.forall_mem_cons]

theorem shortFields_iff {fields : List (String × Value)} :
    ShortFields fields ↔ ∀ field ∈ fields, (utf8 field.1).length < 2 ^ 32 ∧ Short field.2 := by
  induction fields with
  | nil => simp [ShortFields]
  | cons field fields ih =>
      obtain ⟨key, value⟩ := field
      rw [ShortFields, ih, List.forall_mem_cons]

theorem portableItems_iff {items : List Value} : PortableItems items ↔ ∀ item ∈ items, Portable item := by
  induction items with
  | nil => simp [PortableItems]
  | cons item items ih => rw [PortableItems, ih, List.forall_mem_cons]

theorem portableFields_iff {fields : List (String × Value)} : PortableFields fields ↔
    ∀ field ∈ fields, Unmarked field.1 ∧ field.1 ≠ "__proto__" ∧ Portable field.2 := by
  induction fields with
  | nil => simp [PortableFields]
  | cons field fields ih =>
      obtain ⟨key, value⟩ := field
      rw [PortableFields, ih, List.forall_mem_cons]

theorem plainKeysOfItems_iff {items : List Value} :
    PlainKeysOfItems items ↔ ∀ item ∈ items, PlainKeys item := by
  induction items with
  | nil => simp [PlainKeysOfItems]
  | cons item items ih => rw [PlainKeysOfItems, ih, List.forall_mem_cons]

theorem plainKeysOfFields_iff {fields : List (String × Value)} : PlainKeysOfFields fields ↔
    ∀ field ∈ fields, (utf8 field.1).length < 2 ^ 32 ∧ Unmarked field.1 ∧ PlainKeys field.2 := by
  induction fields with
  | nil => simp [PlainKeysOfFields]
  | cons field fields ih =>
      obtain ⟨key, value⟩ := field
      rw [PlainKeysOfFields, ih, List.forall_mem_cons]

/-- A plain value is made of values that the claim is already known of. -/
@[elab_as_elim]
theorem Value.nested {motive : Value → Prop} (num : ∀ number, motive (.num number))
    (bytes : ∀ content, motive (.bytes content)) (text : ∀ content, motive (.text content))
    (array : ∀ items, (∀ item ∈ items, motive item) → motive (.array items))
    (object : ∀ fields, (∀ field ∈ fields, motive field.2) → motive (.object fields))
    (derived : ∀ proto fields, motive (.derived proto fields)) : ∀ value, motive value
  | .num number => num number
  | .bytes content => bytes content
  | .text content => text content
  | .array items => array items fun item _ => Value.nested num bytes text array object derived item
  | .object fields =>
      object fields fun field _ => Value.nested num bytes text array object derived field.2
  | .derived proto fields => derived proto fields
termination_by value => sizeOf value
decreasing_by
  · rename_i member
    have := List.sizeOf_lt_of_mem member
    simp only [Value.array.sizeOf_spec]
    omega
  · rename_i member
    have := List.sizeOf_lt_of_mem member
    obtain ⟨key, value⟩ := field
    simp only [Prod.mk.sizeOf_spec] at this
    simp only [Value.object.sizeOf_spec]
    omega

end Values

section Items

mutual

/-- The tree that encode() writes. -/
def itemOf : Value → Item
  | .num number => .uint (number % 2 ^ 32)
  | .bytes content => .bytes content
  | .text content => .text (utf8 content)
  | .array items => .array (itemsOf items)
  | .object fields | .derived _ fields => .map (entriesOf fields)

def itemsOf : List Value → List Item
  | [] => []
  | value :: values => itemOf value :: itemsOf values

def entriesOf : List (String × Value) → List (Bytes × Item)
  | [] => []
  | (key, value) :: fields => (utf8 key, itemOf value) :: entriesOf fields

end

variable {value : Value} {fields front : List (String × Value)} {key : String}

theorem itemsOf_eq_map (values : List Value) : itemsOf values = values.map itemOf := by
  induction values with
  | nil => rfl
  | cons value values ih => rw [itemsOf, ih, List.map_cons]

theorem entriesOf_eq_map (fields : List (String × Value)) :
    entriesOf fields = fields.map fun field => (utf8 field.1, itemOf field.2) := by
  induction fields with
  | nil => rfl
  | cons field fields ih =>
      obtain ⟨key, value⟩ := field
      rw [entriesOf, ih, List.map_cons]

theorem writeTypeAndLength_head {major : Nat} (length : Nat) :
    Head major (length % 2 ^ 32) (writeTypeAndLength major length) := by
  unfold writeTypeAndLength
  dsimp only
  split_ifs with tiny one two
  · rw [Nat.mod_eq_of_lt (by omega)]
    exact .tiny length tiny
  · rw [Nat.mod_eq_of_lt (by omega)]
    exact .wide 24 1 length (by simp) (by omega) (by omega)
  · rw [Nat.mod_eq_of_lt (by omega)]
    exact .wide 25 2 length (by simp) (by omega) (by omega)
  · have byte (first second : Nat) (same : first % 256 = second % 256) :
        UInt8.ofNat first = UInt8.ofNat second := by
      rw [← UInt8.ofNat_mod_size, same, UInt8.ofNat_mod_size]
    have digits : BigEndian.digits 4 (length % 2 ^ 32) = [UInt8.ofNat (length / 2 ^ 24),
        UInt8.ofNat (length / 2 ^ 16), UInt8.ofNat (length / 2 ^ 8), UInt8.ofNat length] := by
      simp only [BigEndian.digits, List.nil_append, List.cons_append, List.cons.injEq, and_true]
      exact ⟨byte _ _ (by omega), byte _ _ (by omega), byte _ _ (by omega), byte _ _ (by omega)⟩
    rw [← digits]
    exact .wide 26 4 (length % 2 ^ 32) (by simp) (by omega) (by omega)

theorem encodeText_encodes {content : String} (short : (utf8 content).length < 2 ^ 32) :
    Encodes (.text (utf8 content)) (encodeText content) := by
  have head : Head 3 _ _ := writeTypeAndLength_head (utf8 content).length
  rw [Nat.mod_eq_of_lt short] at head
  exact .text _ _ head

theorem encode_encodes (data : Data value) (short : Short value) :
    Encodes (itemOf value) (encode value) := by
  have head (major : Nat) {length : Nat} (short : length < 2 ^ 32) :
      Head major length (writeTypeAndLength major length) := by
    have head : Head major _ _ := writeTypeAndLength_head length
    rwa [Nat.mod_eq_of_lt short] at head
  induction value using Value.nested with
  | num number => exact .uint _ _ (writeTypeAndLength_head number)
  | bytes content => exact .bytes _ _ (head 2 short)
  | text content => exact encodeText_encodes short
  | array items ih =>
      rw [Data, dataItems_iff] at data
      rw [Short, shortItems_iff] at short
      have body : EncodesItems (itemsOf items) (encodeItems items) := by
        obtain ⟨-, short⟩ := short
        induction items with
        | nil => exact .nil
        | cons item items ih' =>
            obtain ⟨first, others⟩ := List.forall_mem_cons.mp ih
            obtain ⟨data, dataRest⟩ := List.forall_mem_cons.mp data
            obtain ⟨short, shortRest⟩ := List.forall_mem_cons.mp short
            exact .cons _ _ _ _ (first data short) (ih' others dataRest shortRest)
      refine .array _ _ _ ?_ body
      rw [itemsOf_eq_map, List.length_map]
      exact head 4 short.1
  | object fields ih =>
      rw [Data, dataFields_iff] at data
      rw [Short, shortFields_iff] at short
      have body : EncodesEntries (entriesOf fields) (encodeFields fields) := by
        obtain ⟨-, short⟩ := short
        obtain ⟨-, data⟩ := data
        induction fields with
        | nil => exact .nil
        | cons field fields ih' =>
            obtain ⟨key, value⟩ := field
            obtain ⟨first, others⟩ := List.forall_mem_cons.mp ih
            obtain ⟨data, dataRest⟩ := List.forall_mem_cons.mp data
            obtain ⟨⟨shortKey, short⟩, shortRest⟩ := List.forall_mem_cons.mp short
            rw [entriesOf, encodeFields, List.append_assoc]
            exact .cons _ _ _ _ _ _ (encodeText_encodes shortKey) (first data short)
              (ih' others shortRest dataRest)
      refine .map _ _ _ ?_ body
      rw [entriesOf_eq_map, List.length_map]
      exact head 5 short.1
  | derived proto fields => exact data.elim

theorem assignEntries_entriesOf (listed : Listed (front ++ fields))
    (plain : ∀ field ∈ fields, Unmarked field.1 ∧ field.1 ≠ "__proto__")
    (each : ∀ field ∈ fields, (itemOf field.2).value = .ok field.2) :
    assignEntries (entriesOf fields) (.object front) = .ok (.object (front ++ fields)) := by
  induction fields generalizing front with
  | nil => rw [List.append_nil]; rfl
  | cons field fields ih =>
      obtain ⟨key, value⟩ := field
      obtain ⟨⟨unmarked, ordinary⟩, plain⟩ := List.forall_mem_cons.mp plain
      obtain ⟨made, each⟩ := List.forall_mem_cons.mp each
      have before : ∀ other ∈ front, other.1 ≠ key ∧ listedBefore key other.1 = true := fun other member =>
        (List.pairwise_append.mp listed).2.2 other member (key, value) (.head _)
      have new : ¬owns front key = true := by
        intro owned
        obtain ⟨other, member, same⟩ := List.any_eq_true.mp owned
        exact (before other member).1 (of_decide_eq_true same)
      have behind : ∀ other ∈ front, (listedBefore key ·.1) other = true := fun other member =>
        (before other member).2
      have set : setField front key value = front ++ [(key, value)] := by
        rw [setField, if_neg new, List.takeWhile_eq_self_iff.mpr behind,
          List.dropWhile_eq_nil_iff.mpr behind]
      have joined : front ++ (key, value) :: fields = front ++ [(key, value)] ++ fields := by simp
      rw [joined] at listed ⊢
      rw [← ih listed plain each, ← set, entriesOf, assignEntries, made, decode_plain unmarked]
      exact congrArg (· >>= assignEntries (entriesOf fields)) (assign_object ordinary value)

theorem listed_nodup (listed : Listed fields) : (fields.map (·.1)).Nodup :=
  List.pairwise_map.mpr (listed.imp And.left)

theorem listed_lookup (listed : Listed fields) {field : String × Value} (member : field ∈ fields) :
    fields.lookup field.1 = some field.2 := by
  induction fields with
  | nil => cases member
  | cons first fields ih =>
      obtain ⟨name, held⟩ := first
      obtain ⟨apart, listed⟩ := List.pairwise_cons.mp listed
      rcases List.mem_cons.mp member with rfl | later
      · exact List.lookup_cons_self
      · have different : field.1 ≠ name := Ne.symm (apart field later).1
        rw [List.lookup_cons, beq_false_of_ne different]
        exact ih listed later

-- The tree that encode() writes has the value if and only if everything in it comes back.
theorem value_itemOf_iff (data : Data value) : (itemOf value).value = .ok value ↔ Portable value := by
  induction value using Value.nested with
  | num number =>
      change Except.ok (Value.num (number % 2 ^ 32)) = _ ↔ number < 2 ^ 32
      rw [Except.ok.injEq, Value.num.injEq, Nat.mod_eq_iff_lt (by omega)]
  | bytes content => exact ⟨fun _ => trivial, fun _ => rfl⟩
  | text content =>
      change Except.ok (Value.text (TextDecoder.decode (utf8 content))) = _ ↔ Unmarked content
      rw [Except.ok.injEq, Value.text.injEq, TextDecoder.decode_utf8, TextDecoder.stripped_eq_iff]
      rfl
  | array items ih =>
      rw [Data, dataItems_iff] at data
      have each : valueItems (itemsOf items) = .ok items ↔ PortableItems items := by
        induction items with
        | nil => exact ⟨fun _ => trivial, fun _ => rfl⟩
        | cons item items ih' =>
            obtain ⟨first, others⟩ := List.forall_mem_cons.mp ih
            obtain ⟨data, dataRest⟩ := List.forall_mem_cons.mp data
            rw [PortableItems, ← first data, ← ih' others dataRest, itemsOf, valueItems]
            constructor
            · intro made
              obtain ⟨value, one, made⟩ := Reading.bind_eq_ok.mp made
              obtain ⟨values, more, made⟩ := Reading.bind_eq_ok.mp made
              cases made
              exact ⟨one, more⟩
            · rintro ⟨one, more⟩
              rw [one, more]
              rfl
      rw [Portable, ← each, itemOf, Item.value]
      constructor
      · intro made
        obtain ⟨values, inner, made⟩ := Reading.bind_eq_ok.mp made
        cases made
        exact inner
      · intro made
        rw [made]
        rfl
  | object fields ih =>
      rw [Data, dataFields_iff] at data
      obtain ⟨listed, data⟩ := data
      rw [Portable, portableFields_iff]
      constructor
      · intro made
        have owned : ∀ entry ∈ entriesOf fields, ∃ name, utf8 name = entry.1 ∧
            owns (Value.object fields).fields name = true := by
          rw [entriesOf_eq_map]
          intro entry found
          obtain ⟨field, member, rfl⟩ := List.mem_map.mp found
          refine ⟨field.1, rfl, ?_⟩
          rw [Value.fields, owns_eq_lookup, listed_lookup listed member]
          rfl
        have unique : ((entriesOf fields).map (·.1)).Nodup := by
          have names : (entriesOf fields).map (·.1) = (fields.map (·.1)).map utf8 := by
            rw [entriesOf_eq_map, List.map_map, List.map_map]
            rfl
          rw [names]
          exact (listed_nodup listed).map utf8_injective
        have plain := entries_plain unique owned made
        obtain ⟨fields', same, -, -, each⟩ := assignEntries_plain plain unique (fun _ _ => rfl) made
        cases same
        intro field member
        have entry : (utf8 field.1, itemOf field.2) ∈ entriesOf fields := by
          rw [entriesOf_eq_map]
          exact List.mem_map_of_mem member
        obtain ⟨⟨content, same, unmarked⟩, special⟩ := plain _ entry
        cases utf8_injective same
        obtain ⟨value, one, found⟩ := each _ entry
        rw [decode_plain unmarked, listed_lookup listed member, Option.some.injEq] at found
        rw [← found] at one
        exact ⟨unmarked, fun same => special (congrArg utf8 same),
          (ih field member (data field member)).mp one⟩
      · intro portable
        have start : Listed ([] ++ fields) := listed
        refine assignEntries_entriesOf start (fun field member => ?_) fun field member => ?_
        · exact ⟨(portable field member).1, (portable field member).2.1⟩
        · exact (ih field member (data field member)).mpr (portable field member).2.2
  | derived proto fields => exact data.elim

end Items

section Lengths
variable {fuel count : Nat} {out after value : Value} {text rest : Bytes} {key : String}

theorem times_length {values : List Value} (read : times (readItem fuel) count text = .ok (values, rest)) :
    values.length = count := by
  induction count generalizing text values with
  | zero =>
      cases read
      rfl
  | succ count ih =>
      obtain ⟨⟨value, text'⟩, first, read⟩ := Reading.bind_eq_ok.mp read
      obtain ⟨⟨others, text''⟩, more, read⟩ := Reading.bind_eq_ok.mp read
      cases read
      rw [List.length_cons, ih more]

-- An assignment adds an own property or leaves their number as it is; one that is added
-- has a new name other than `__proto__`, and the others stay.
theorem assign_length (isMap : out.isMap = true) (assigned : out.assign key value = .ok after) :
    after.fields.length ≤ out.fields.length ∨ after.fields.length = out.fields.length + 1 ∧
      key ≠ "__proto__" ∧ after.fields.lookup key = some value ∧
      ∀ name, owns out.fields name = true → after.fields.lookup name = out.fields.lookup name := by
  by_cases plain : key = "__proto__"
  · obtain ⟨after', assigned', same, -⟩ := assign_proto isMap value
    rw [plain, assigned'] at assigned
    cases assigned
    exact .inl (congrArg List.length same).le
  · cases locked : out.locks key with
    | true =>
        rw [assign_refused plain locked] at assigned
        cases assigned
    | false =>
        obtain ⟨after', assigned', set, -⟩ := assign_plain isMap plain locked value
        rw [assigned'] at assigned
        cases assigned
        rw [set]
        cases owned : owns out.fields key with
        | true =>
            refine .inl ?_
            rw [setField, if_pos owned, List.length_map]
        | false =>
            refine .inr ⟨length_setField_new owned, plain, by rw [lookup_setField, if_pos rfl], ?_⟩
            intro name before
            rw [lookup_setField, if_neg]
            rintro rfl
            rw [owned] at before
            cases before

theorem readEntries_length (isMap : out.isMap = true)
    (read : readEntries (readItem fuel) count out text = .ok (after, rest)) :
    after.fields.length ≤ out.fields.length + count ∧
      (after.fields.length = out.fields.length + count →
        ∀ name, owns out.fields name = true → after.fields.lookup name = out.fields.lookup name) := by
  induction count generalizing text out with
  | zero =>
      cases read
      exact ⟨Nat.le_refl _, fun _ _ _ => rfl⟩
  | succ count ih =>
      obtain ⟨⟨name, text'⟩, first, read⟩ := Reading.bind_eq_ok.mp read
      dsimp only at read
      split at read
      · obtain ⟨⟨field, text''⟩, second, read⟩ := Reading.bind_eq_ok.mp read
        obtain ⟨next, assigned, read⟩ := Reading.bind_eq_ok.mp read
        obtain ⟨bound, kept⟩ := ih (assign_isMap isMap assigned) read
        rcases assign_length isMap assigned with short | ⟨one, -, -, kept'⟩
        · exact ⟨by omega, fun all => by omega⟩
        · refine ⟨by omega, fun all name owned => ?_⟩
          have same := kept' name owned
          rw [kept (by omega) name (by rw [owns_eq_lookup, same, ← owns_eq_lookup, owned]), same]
      · cases read

end Lengths

section ReadsBack
variable {fuel : Nat} {rest rest' : Bytes}

def ReadsBack (value : Value) : Prop :=
  ∀ fuel rest rest', readItem fuel (encode value ++ rest) = .ok (value, rest') →
    Short value ∧ Portable value ∧ rest' = rest

theorem readItem_text {content : String} (short : (utf8 content).length < 2 ^ 32) (unmarked : Unmarked content)
    (fuel : Nat) (rest : Bytes) :
    readItem (fuel + 1) (encodeText content ++ rest) = .ok (.text content, rest) := by
  have head : Head 3 _ _ := writeTypeAndLength_head (utf8 content).length
  obtain ⟨initial, tail, wrote, high, read⟩ := head.read (by omega)
  rw [Nat.mod_eq_of_lt short] at read
  simp only [encodeText, wrote, List.cons_append, List.append_assoc, readItem, readUint8, bind,
    Except.bind, high, read, readBytes_append, decode_plain unmarked]
  rfl

theorem items_readBack {items : List Value} (each : ∀ item ∈ items, ReadsBack item)
    (read : times (readItem fuel) items.length (encodeItems items ++ rest) = .ok (items, rest')) :
    (∀ item ∈ items, Short item ∧ Portable item) ∧ rest' = rest := by
  induction items with
  | nil =>
      cases read
      exact ⟨nofun, rfl⟩
  | cons item items ih =>
      rw [encodeItems, List.append_assoc, List.length_cons] at read
      obtain ⟨⟨value, text'⟩, first, read⟩ := Reading.bind_eq_ok.mp read
      obtain ⟨⟨others, text''⟩, more, read⟩ := Reading.bind_eq_ok.mp read
      cases read
      obtain ⟨one, each⟩ := List.forall_mem_cons.mp each
      obtain ⟨short, portable, rfl⟩ := one _ _ _ first
      obtain ⟨all, same⟩ := ih each more
      exact ⟨List.forall_mem_cons.mpr ⟨⟨short, portable⟩, all⟩, same⟩

-- Each key of the fields is read as it was written, and is not written over, so that it has
-- the value that was read behind it.
theorem fields_readBack {fields : List (String × Value)} {out after : Value} (isMap : out.isMap = true)
    (each : ∀ field ∈ fields, ReadsBack field.2)
    (keys : ∀ field ∈ fields, (utf8 field.1).length < 2 ^ 32 ∧ Unmarked field.1)
    (held : ∀ field ∈ fields, after.fields.lookup field.1 = some field.2)
    (whole : after.fields.length = out.fields.length + fields.length)
    (read : readEntries (readItem fuel) fields.length out (encodeFields fields ++ rest) =
      .ok (after, rest')) :
    (∀ field ∈ fields, field.1 ≠ "__proto__" ∧ Short field.2 ∧ Portable field.2) ∧ rest' = rest := by
  induction fields generalizing out with
  | nil =>
      cases read
      exact ⟨nofun, rfl⟩
  | cons field fields ih =>
      obtain ⟨key, value⟩ := field
      obtain ⟨⟨short, unmarked⟩, keys⟩ := List.forall_mem_cons.mp keys
      obtain ⟨one, each⟩ := List.forall_mem_cons.mp each
      obtain ⟨held, heldRest⟩ := List.forall_mem_cons.mp held
      rw [List.length_cons] at whole read
      rw [encodeFields, List.append_assoc, List.append_assoc] at read
      cases fuel with
      | zero => cases read
      | succ fuel =>
          obtain ⟨⟨name, text'⟩, first, read⟩ := Reading.bind_eq_ok.mp read
          rw [readItem_text short unmarked] at first
          cases first
          obtain ⟨⟨value', text''⟩, second, read⟩ := Reading.bind_eq_ok.mp read
          obtain ⟨next, assigned, read⟩ := Reading.bind_eq_ok.mp read
          have isMap' := assign_isMap isMap assigned
          obtain ⟨bound, kept⟩ := readEntries_length isMap' read
          rcases assign_length isMap assigned with none | ⟨added, ordinary, set, -⟩
          · omega
          · have whole' : after.fields.length = next.fields.length + fields.length := by omega
            have owned : owns next.fields key = true := by
              rw [owns_eq_lookup, set]
              rfl
            dsimp only at held set
            rw [kept whole' key owned, set, Option.some.injEq] at held
            rw [held] at second
            obtain ⟨shortValue, portable, rfl⟩ := one _ _ _ second
            obtain ⟨all, same⟩ := ih isMap' each keys heldRest whole' read
            exact ⟨List.forall_mem_cons.mpr ⟨⟨ordinary, shortValue, portable⟩, all⟩, same⟩

theorem written_read (major length : Nat) (known : major < 8) :
    ∃ initial tail, writeTypeAndLength major length = initial :: tail ∧ initial.toNat / 32 = major ∧
      ∀ rest, readLength (initial.toNat % 32) (tail ++ rest) = .ok (length % 2 ^ 32, rest) :=
  (writeTypeAndLength_head length).read known

theorem text_readBack {content : String} {run : Bytes} (cut : utf8 content ++ rest = run ++ rest')
    (length : run.length = (utf8 content).length % 2 ^ 32) (decoded : TextDecoder.decode run = content) :
    (utf8 content).length < 2 ^ 32 ∧ Unmarked content ∧ rest' = rest := by
  have short : (utf8 content).length < 2 ^ 32 := by
    by_contra long
    have front : utf8 content = run ++ (utf8 content).drop run.length := by
      have prefix' : run <+: utf8 content := by
        refine List.prefix_of_prefix_length_le ⟨rest', cut.symm⟩ ⟨rest, rfl⟩ ?_
        omega
      exact (List.prefix_iff_eq_append.mp prefix').symm
    have few := TextDecoder.decode_cut front decoded
    rw [List.length_drop] at few
    omega
  rw [Nat.mod_eq_of_lt short] at length
  obtain ⟨same, same'⟩ := List.append_inj cut length.symm
  rw [← same, TextDecoder.decode_utf8] at decoded
  exact ⟨short, TextDecoder.stripped_eq_iff.mp decoded, same'.symm⟩

theorem reads_back {value : Value} (data : Data value) (keys : PlainKeys value) : ReadsBack value := by
  induction value using Value.nested with
  | num number =>
      intro fuel rest rest' read
      cases fuel with
      | zero => cases read
      | succ fuel =>
          obtain ⟨initial, tail, wrote, high, length⟩ := written_read 0 number (by omega)
          simp only [encode, wrote, List.cons_append, readItem, readUint8, bind, Except.bind, high,
            length, pure, Except.pure, Except.ok.injEq, Prod.mk.injEq, Value.num.injEq] at read
          have small : number < 2 ^ 32 := by omega
          exact ⟨trivial, small, read.2.symm⟩
  | bytes content =>
      intro fuel rest rest' read
      cases fuel with
      | zero => cases read
      | succ fuel =>
          obtain ⟨initial, tail, wrote, high, length⟩ := written_read 2 content.length (by omega)
          simp only [encode, wrote, List.cons_append, List.append_assoc, readItem, readUint8, bind,
            Except.bind, high, length] at read
          obtain ⟨⟨run, rest''⟩, taken, read⟩ := Reading.bind_eq_ok.mp read
          simp only [pure, Except.pure, Except.ok.injEq, Prod.mk.injEq, Value.bytes.injEq] at read
          obtain ⟨rfl, rfl⟩ := read
          obtain ⟨cut, same⟩ := readBytes_ok taken
          have short : run.length < 2 ^ 32 := by omega
          exact ⟨short, trivial, (List.append_cancel_left cut).symm⟩
  | text content =>
      intro fuel rest rest' read
      cases fuel with
      | zero => cases read
      | succ fuel =>
          obtain ⟨initial, tail, wrote, high, length⟩ := written_read 3 (utf8 content).length (by omega)
          simp only [encode, encodeText, wrote, List.cons_append, List.append_assoc, readItem, readUint8,
            bind, Except.bind, high, length] at read
          obtain ⟨⟨run, rest''⟩, taken, read⟩ := Reading.bind_eq_ok.mp read
          simp only [pure, Except.pure, Except.ok.injEq, Prod.mk.injEq, Value.text.injEq] at read
          obtain ⟨decoded, rfl⟩ := read
          obtain ⟨cut, same⟩ := readBytes_ok taken
          exact text_readBack cut same decoded
  | array items ih =>
      intro fuel rest rest' read
      rw [Data, dataItems_iff] at data
      rw [PlainKeys, plainKeysOfItems_iff] at keys
      cases fuel with
      | zero => cases read
      | succ fuel =>
          obtain ⟨initial, tail, wrote, high, length⟩ := written_read 4 items.length (by omega)
          simp only [encode, wrote, List.cons_append, List.append_assoc, readItem, readUint8, bind,
            Except.bind, high, length] at read
          obtain ⟨⟨values, rest''⟩, run, read⟩ := Reading.bind_eq_ok.mp read
          simp only [pure, Except.pure, Except.ok.injEq, Prod.mk.injEq, Value.array.injEq] at read
          obtain ⟨rfl, rfl⟩ := read
          have whole := times_length run
          rw [← whole] at run
          obtain ⟨all, same⟩ := items_readBack
            (fun item member => ih item member (data item member) (keys item member)) run
          rw [Short, Portable, shortItems_iff, portableItems_iff]
          exact ⟨⟨by omega, fun item member => (all item member).1⟩,
            fun item member => (all item member).2, same⟩
  | object fields ih =>
      intro fuel rest rest' read
      rw [Data, dataFields_iff] at data
      rw [PlainKeys, plainKeysOfFields_iff] at keys
      cases fuel with
      | zero => cases read
      | succ fuel =>
          obtain ⟨initial, tail, wrote, high, length⟩ := written_read 5 fields.length (by omega)
          simp only [encode, wrote, List.cons_append, List.append_assoc, readItem, readUint8, bind,
            Except.bind, high, length] at read
          have start : (Value.object []).isMap = true := rfl
          have bound : fields.length ≤ 0 + fields.length % 2 ^ 32 := (readEntries_length start read).1
          have whole : fields.length % 2 ^ 32 = fields.length := by omega
          have held : ∀ field ∈ fields, (Value.object fields).fields.lookup field.1 = some field.2 :=
            fun field member => listed_lookup data.1 member
          rw [whole] at read
          obtain ⟨all, same⟩ := fields_readBack start
            (fun field member => ih field member (data.2 field member) (keys field member).2.2)
            (fun field member => ⟨(keys field member).1, (keys field member).2.1⟩) held
            (Nat.zero_add _).symm read
          rw [Short, Portable, shortFields_iff, portableFields_iff]
          exact ⟨⟨by omega, fun field member => ⟨(keys field member).1, (all field member).2.1⟩⟩,
            fun field member => ⟨(keys field member).2.1, (all field member).1, (all field member).2.2⟩,
            same⟩
  | derived proto fields => exact data.elim

end ReadsBack

section RoundTrip
variable {value : Value}

/-- decode() returns what was given to encode() if its numbers and lengths are below 2^32, no
text or key begins with a byte order mark and no key is `__proto__`. These are the only such
values, but for those that have a length from 2^32 on and a key that is not read back. -/
theorem round_trip_iff (data : Data value) :
    (Short value ∧ Portable value → decode (encode value) = .ok value) ∧
    (Short value ∨ PlainKeys value → decode (encode value) = .ok value → Short value ∧ Portable value) := by
  constructor
  · rintro ⟨short, portable⟩
    rw [decode_encoded (encode_encodes data short), value_itemOf_iff data]
    exact portable
  · rintro (short | keys) decoded
    · rw [decode_encoded (encode_encodes data short), value_itemOf_iff data] at decoded
      exact ⟨short, decoded⟩
    · obtain ⟨⟨value', rest⟩, read, decoded⟩ := Reading.bind_eq_ok.mp decoded
      cases rest with
      | cons byte rest => cases decoded
      | nil =>
          cases decoded
          rw [← List.append_nil (encode value)] at read
          obtain ⟨short, portable, -⟩ := reads_back data keys _ _ _ read
          exact ⟨short, portable⟩

/-- An array of a map and a number of two bytes comes back. -/
theorem array_round_trip :
    decode (encode (.array [.object [("b", .bytes [1]), ("a", .text "a")], .num 500])) =
      .ok (.array [.object [("b", .bytes [1]), ("a", .text "a")], .num 500]) := by
  have listed : Listed [("b", .bytes [1]), ("a", .text "a")] := by
    rw [Listed]
    decide
  have data : Data (.array [.object [("b", .bytes [1]), ("a", .text "a")], .num 500]) :=
    ⟨⟨listed, trivial, trivial, trivial⟩, show 500 < 2 ^ 53 by omega, trivial⟩
  have one (letter : Char) (ascii : (String.utf8EncodeChar letter).length = 1) :
      (utf8 (String.ofList [letter])).length < 2 ^ 32 := by
    rw [utf8_chars, String.toList_ofList, List.flatMap_singleton, ascii]
    omega
  have short : ShortFields [("b", .bytes [1]), ("a", .text "a")] :=
    ⟨⟨one 'b' rfl, show 1 < 2 ^ 32 by omega⟩, ⟨one 'a' rfl, one 'a' rfl⟩, trivial⟩
  have portable : PortableFields [("b", .bytes [1]), ("a", .text "a")] := by
    refine ⟨⟨?_, by decide, trivial⟩, ⟨?_, by decide, ?_⟩, trivial⟩ <;> exact nofun
  exact (round_trip_iff data).1
    ⟨⟨show 2 < 2 ^ 32 by omega, ⟨show 2 < 2 ^ 32 by omega, short⟩, trivial, trivial⟩,
      ⟨portable, show 500 < 2 ^ 32 by omega, trivial⟩⟩

/-- The number 2^32 comes back as 0, a byte order mark as nothing, and an object whose own
key is `__proto__` without it. -/
theorem lost_in_round_trip :
    Data (.num (2 ^ 32)) ∧ decode (encode (.num (2 ^ 32))) = .ok (.num 0) ∧
    Data (.text "\uFEFF") ∧ decode (encode (.text "\uFEFF")) = .ok (.text "") ∧
    Data (.object [("__proto__", .num 1)]) ∧
    decode (encode (.object [("__proto__", .num 1)])) = .ok (.object []) := by
  have mark : utf8 "\uFEFF" = [0xef, 0xbb, 0xbf] := by
    rw [utf8_chars]
    rfl
  have proto : utf8 "__proto__" = [0x5f, 0x5f, 0x70, 0x72, 0x6f, 0x74, 0x6f, 0x5f, 0x5f] := by
    rw [utf8_chars]
    rfl
  have listed : Listed [("__proto__", .num 1)] := List.pairwise_singleton ..
  refine ⟨show 2 ^ 32 < 2 ^ 53 by omega, rfl, trivial, ?_, ⟨listed, ⟨show 1 < 2 ^ 53 by omega, trivial⟩⟩, ?_⟩
  · rw [encode, encodeText, mark]
    rfl
  · rw [encode, encodeFields, encodeText, proto]
    rfl

end RoundTrip

end Relay.Cbor

import CompanionRelay.Cbor

/-!
The grammar of the subset of CBOR that src/cbor.js reads: trees of items, the texts that
encode them, and the value that decode() makes of a tree. The decoder returns exactly on the
encodings of a tree that makes a value, and returns that value.
-/

namespace Relay.Cbor

open Reading (Reader times Sequence)

section Grammar

/-- An item as it stands in the input, a text with its raw bytes. -/
inductive Item
  | uint (number : Nat)
  | bytes (content : Bytes)
  | text (raw : Bytes)
  | array (items : List Item)
  | map (entries : List (Bytes × Item))

/-- The heads of an item of the major type that declare the number. -/
inductive Head (major : Nat) : Nat → Bytes → Prop
  | tiny (number : Nat) (small : number < 24) : Head major number [UInt8.ofNat (major * 32 + number)]
  | wide (minor width number : Nat) (form : (minor, width) ∈ [(24, 1), (25, 2), (26, 4), (27, 8)])
      (fits : number < 256 ^ width) (safe : number < 2 ^ 53) :
      Head major number (UInt8.ofNat (major * 32 + minor) :: BigEndian.digits width number)

mutual

/-- The texts of an item. -/
inductive Encodes : Item → Bytes → Prop
  | uint (number : Nat) (head : Bytes) (declares : Head 0 number head) : Encodes (.uint number) head
  | bytes (content head : Bytes) (declares : Head 2 content.length head) :
      Encodes (.bytes content) (head ++ content)
  | text (raw head : Bytes) (declares : Head 3 raw.length head) : Encodes (.text raw) (head ++ raw)
  | array (items : List Item) (head body : Bytes) (declares : Head 4 items.length head)
      (encodes : EncodesItems items body) : Encodes (.array items) (head ++ body)
  | map (entries : List (Bytes × Item)) (head body : Bytes) (declares : Head 5 entries.length head)
      (encodes : EncodesEntries entries body) : Encodes (.map entries) (head ++ body)

inductive EncodesItems : List Item → Bytes → Prop
  | nil : EncodesItems [] []
  | cons (item : Item) (items : List Item) (first rest : Bytes) (encodes : Encodes item first)
      (others : EncodesItems items rest) : EncodesItems (item :: items) (first ++ rest)

inductive EncodesEntries : List (Bytes × Item) → Bytes → Prop
  | nil : EncodesEntries [] []
  | cons (key : Bytes) (item : Item) (entries : List (Bytes × Item)) (name first rest : Bytes)
      (named : Encodes (.text key) name) (encodes : Encodes item first)
      (others : EncodesEntries entries rest) :
      EncodesEntries ((key, item) :: entries) (name ++ (first ++ rest))

end

mutual

/-- The value that decode() makes of a tree. -/
def Item.value : Item → Except Thrown Value
  | .uint number => .ok (.num number)
  | .bytes content => .ok (.bytes content)
  | .text raw => .ok (.text (TextDecoder.decode raw))
  | .array items => do
      let values ← valueItems items
      pure (.array values)
  | .map entries => assignEntries entries (.object [])

def valueItems : List Item → Except Thrown (List Value)
  | [] => .ok []
  | item :: rest => do
      let value ← item.value
      let values ← valueItems rest
      pure (value :: values)

def assignEntries : List (Bytes × Item) → Value → Except Thrown Value
  | [], out => .ok out
  | (key, item) :: rest, out => do
      let value ← item.value
      let out ← out.assign (TextDecoder.decode key) value
      assignEntries rest out

end

/-- An item is made of items that the claim is already known of. -/
@[elab_as_elim]
theorem Item.nested {motive : Item → Prop} (uint : ∀ number, motive (.uint number))
    (bytes : ∀ content, motive (.bytes content)) (text : ∀ raw, motive (.text raw))
    (array : ∀ items, (∀ item ∈ items, motive item) → motive (.array items))
    (map : ∀ entries, (∀ entry ∈ entries, motive entry.2) → motive (.map entries)) :
    ∀ item, motive item
  | .uint number => uint number
  | .bytes content => bytes content
  | .text raw => text raw
  | .array items => array items fun item _ => Item.nested uint bytes text array map item
  | .map entries => map entries fun entry _ => Item.nested uint bytes text array map entry.2
termination_by item => sizeOf item
decreasing_by
  · rename_i member
    have := List.sizeOf_lt_of_mem member
    simp only [Item.array.sizeOf_spec]
    omega
  · rename_i member
    have := List.sizeOf_lt_of_mem member
    obtain ⟨key, item⟩ := entry
    simp only [Prod.mk.sizeOf_spec] at this
    simp only [Item.map.sizeOf_spec]
    omega

end Grammar

section Heads
variable {major minor number : Nat} {text rest head : Bytes}

theorem readUintN_eq (n value : Nat) (text : Bytes) :
    readUintN n value text =
      if text.length < n then .error (.cbor "unexpected end of CBOR")
      else .ok (value * 256 ^ n + BigEndian.value (text.take n), text.drop n) := by
  induction n generalizing value text with
  | zero => simp [readUintN]
  | succ n ih =>
      cases text with
      | nil => rfl
      | cons byte rest =>
          rw [readUintN]
          simp only [readUint8, bind, Except.bind, ih, List.length_cons, Nat.add_lt_add_iff_right,
            List.take_succ_cons, List.drop_succ_cons]
          split
          · rfl
          · rename_i enough
            have split := BigEndian.value_append [byte] (rest.take n)
            rw [List.singleton_append, List.length_take, Nat.min_eq_left (Nat.not_lt.mp enough)]
              at split
            have one : BigEndian.value [byte] = byte.toNat := by simp [BigEndian.value]
            rw [split, one, pow_succ]
            ring_nf

theorem readUintN_digits (n number : Nat) (rest : Bytes) :
    readUintN n 0 (BigEndian.digits n number ++ rest) = .ok (number % 256 ^ n, rest) := by
  have length : (BigEndian.digits n number).length = n := BigEndian.digits_length ..
  rw [readUintN_eq, if_neg (by simp), List.take_left' length, List.drop_left' length,
    BigEndian.value_digits, Nat.zero_mul, Nat.zero_add]

theorem readUintN_ok {n number : Nat} {text rest : Bytes}
    (read : readUintN n 0 text = .ok (number, rest)) :
    ∃ bytes, bytes.length = n ∧ text = bytes ++ rest ∧ number = BigEndian.value bytes := by
  rw [readUintN_eq] at read
  split at read
  · cases read
  · rename_i enough
    simp only [Nat.zero_mul, Nat.zero_add, Except.ok.injEq, Prod.mk.injEq] at read
    obtain ⟨rfl, rfl⟩ := read
    exact ⟨text.take n, List.length_take_of_le (Nat.not_lt.mp enough),
      (List.take_append_drop n text).symm, rfl⟩

theorem readLength_narrow {minor width : Nat} (form : (minor, width) ∈ [(24, 1), (25, 2), (26, 4)])
    (text : Bytes) : readLength minor text = readUintN width 0 text := by
  simp only [List.mem_cons, Prod.mk.injEq, List.not_mem_nil, or_false] at form
  rcases form with ⟨rfl, rfl⟩ | ⟨rfl, rfl⟩ | ⟨rfl, rfl⟩
  · cases text with
    | nil => rfl
    | cons byte rest =>
        change Except.ok (byte.toNat, rest) = Except.ok (0 * 256 + byte.toNat, rest)
        rw [Nat.zero_mul, Nat.zero_add]
  · rfl
  · rfl

theorem readLength_eight (text : Bytes) : readLength 27 text = (do
    let (hi, rest) ← readUintN 4 0 text
    let (lo, rest) ← readUintN 4 0 rest
    if hi > 0x001fffff then .error (.cbor "CBOR length exceeds safe integer")
    else .ok (hi * 256 ^ 4 + lo, rest)) := by
  change (readUintN 4 0 text >>= _) = _
  rfl

theorem readBytes_append (content rest : Bytes) :
    readBytes content.length (content ++ rest) = .ok (content, rest) := by
  simp [readBytes]

theorem readBytes_ok {len : Nat} {text content rest : Bytes}
    (read : readBytes len text = .ok (content, rest)) :
    text = content ++ rest ∧ content.length = len := by
  unfold readBytes at read
  split at read
  · cases read
  · rename_i enough
    cases read
    exact ⟨(List.take_append_drop len text).symm, List.length_take_of_le (Nat.not_lt.mp enough)⟩

theorem Head.read (declares : Head major number head) (known : major < 8) :
    ∃ initial tail, head = initial :: tail ∧ initial.toNat / 32 = major ∧
      ∀ rest, readLength (initial.toNat % 32) (tail ++ rest) = .ok (number, rest) := by
  have initial : ∀ minor, minor < 32 → (UInt8.ofNat (major * 32 + minor)).toNat / 32 = major ∧
      (UInt8.ofNat (major * 32 + minor)).toNat % 32 = minor := by
    intro minor small
    rw [UInt8.toNat_ofNat']
    omega
  cases declares with
  | tiny number small =>
      obtain ⟨high, low⟩ := initial number (by omega)
      refine ⟨_, [], rfl, high, fun rest => ?_⟩
      rw [low, readLength, if_pos small]
      rfl
  | wide minor width number form fits safe =>
      rw [show [(24, 1), (25, 2), (26, 4), (27, 8)] = [(24, 1), (25, 2), (26, 4)] ++ [(27, 8)] from rfl,
        List.mem_append, List.mem_singleton, Prod.mk.injEq] at form
      rcases form with narrow | ⟨rfl, rfl⟩
      · have below : minor < 32 := by
          simp only [List.mem_cons, Prod.mk.injEq, List.not_mem_nil, or_false] at narrow
          omega
        obtain ⟨high, low⟩ := initial minor below
        refine ⟨_, _, rfl, high, fun rest => ?_⟩
        rw [low, readLength_narrow narrow, readUintN_digits, Nat.mod_eq_of_lt fits]
      · obtain ⟨high, low⟩ := initial 27 (by omega)
        refine ⟨_, _, rfl, high, fun rest => ?_⟩
        have upper : number / 256 ^ 4 % 256 ^ 4 = number / 256 ^ 4 := Nat.mod_eq_of_lt (by omega)
        have whole : number / 256 ^ 4 * 256 ^ 4 + number % 256 ^ 4 = number := Nat.div_add_mod' ..
        rw [low, readLength_eight, BigEndian.digits_append 4 4, List.append_assoc]
        simp only [readUintN_digits, bind, Except.bind, upper]
        have small : ¬number / 256 ^ 4 > 0x001fffff := by omega
        rw [if_neg small, whole]

theorem readLength_ok {initial : UInt8} (high : initial.toNat / 32 = major)
    (read : readLength (initial.toNat % 32) text = .ok (number, rest)) :
    ∃ tail, text = tail ++ rest ∧ Head major number (initial :: tail) := by
  have same : UInt8.ofNat (major * 32 + initial.toNat % 32) = initial := by
    rw [← high, Nat.div_add_mod', UInt8.ofNat_toNat]
  have wide (width : Nat) (bytes : Bytes)
      (form : (initial.toNat % 32, width) ∈ [(24, 1), (25, 2), (26, 4), (27, 8)])
      (length : bytes.length = width) (safe : BigEndian.value bytes < 2 ^ 53) :
      Head major (BigEndian.value bytes) (initial :: bytes) := by
    have head : Head major _ _ := .wide _ width (BigEndian.value bytes) form
      (length ▸ BigEndian.value_lt bytes) safe
    rwa [same, ← length, BigEndian.digits_value] at head
  have narrow (width : Nat) (form : (initial.toNat % 32, width) ∈ [(24, 1), (25, 2), (26, 4)]) :
      ∃ tail, text = tail ++ rest ∧ Head major number (initial :: tail) := by
    rw [readLength_narrow form] at read
    obtain ⟨bytes, length, split, rfl⟩ := readUintN_ok read
    refine ⟨bytes, split, wide width bytes (List.mem_append_left [(27, 8)] form) length ?_⟩
    have bound : BigEndian.value bytes < 256 ^ width := length ▸ BigEndian.value_lt bytes
    have short : width ≤ 4 := by
      simp only [List.mem_cons, Prod.mk.injEq, List.not_mem_nil, or_false] at form
      omega
    have := Nat.pow_le_pow_right (n := 256) (by omega) short
    omega
  by_cases tiny : initial.toNat % 32 < 24
  · rw [readLength, if_pos tiny] at read
    cases read
    have head : Head major _ _ := .tiny _ tiny
    rw [same] at head
    exact ⟨[], rfl, head⟩
  by_cases eight : initial.toNat % 32 = 27
  · rw [eight, readLength_eight] at read
    obtain ⟨⟨hi, upper⟩, readHi, read⟩ := Reading.bind_eq_ok.mp read
    obtain ⟨⟨lo, lower⟩, readLo, read⟩ := Reading.bind_eq_ok.mp read
    split_ifs at read with large
    cases read
    obtain ⟨first, firstLength, firstSplit, rfl⟩ := readUintN_ok readHi
    obtain ⟨second, secondLength, secondSplit, rfl⟩ := readUintN_ok readLo
    have joined := BigEndian.value_append first second
    have length : (first ++ second).length = 8 := by simp [firstLength, secondLength]
    have bound := secondLength ▸ BigEndian.value_lt second
    rw [secondLength] at joined
    have head := wide 8 (first ++ second) (by simp [eight]) length (by omega)
    refine ⟨first ++ second, ?_, ?_⟩
    · rw [firstSplit, secondSplit, List.append_assoc]
    · rwa [joined] at head
  · by_cases form : initial.toNat % 32 = 24 ∨ initial.toNat % 32 = 25 ∨ initial.toNat % 32 = 26
    · rcases form with one | two | four
      · exact narrow 1 (by simp [one])
      · exact narrow 2 (by simp [two])
      · exact narrow 4 (by simp [four])
    · obtain ⟨notOne, notTwo, notFour⟩ := not_or.mp form |>.imp_right not_or.mp
      rw [readLength, if_neg tiny, if_neg notOne, if_neg notTwo, if_neg notFour, if_neg eight] at read
      cases read

end Heads

section Complete
variable {fuel : Nat}

/-- The reader takes the text of an item of up to `fuel` bytes off whatever follows it. -/
def ReadsItems (fuel : Nat) : Prop :=
  ∀ item part rest, Encodes item part → part.length ≤ fuel →
    readItem fuel (part ++ rest) = item.value.map (·, rest)

theorem times_complete (each : ReadsItems fuel) {items : List Item} {body : Bytes}
    (encodes : EncodesItems items body) (short : body.length ≤ fuel) (rest : Bytes) :
    times (readItem fuel) items.length (body ++ rest) = (valueItems items).map (·, rest) := by
  induction items generalizing body with
  | nil => cases encodes; rfl
  | cons item items ih =>
      cases encodes with
      | cons _ _ first others encodes encodesRest =>
          rw [List.length_append] at short
          rw [List.append_assoc, List.length_cons, times, valueItems, each _ _ _ encodes (by omega)]
          cases item.value with
          | error thrown => rfl
          | ok value =>
              simp only [Except.map, bind, Except.bind, ih encodesRest (by omega)]
              cases valueItems items <;> rfl

theorem readEntries_complete (each : ReadsItems fuel) {entries : List (Bytes × Item)} {body : Bytes}
    (encodes : EncodesEntries entries body) (short : body.length ≤ fuel) (out : Value) (rest : Bytes) :
    readEntries (readItem fuel) entries.length out (body ++ rest) =
      (assignEntries entries out).map (·, rest) := by
  induction entries generalizing body out with
  | nil => cases encodes; rfl
  | cons entry entries ih =>
      cases encodes with
      | cons key item _ name first others named encodes encodesRest =>
          simp only [List.length_append] at short
          rw [List.append_assoc, List.append_assoc, List.length_cons, readEntries, assignEntries,
            each _ _ _ named (by omega)]
          simp only [Item.value, Except.map, bind, Except.bind, each _ _ _ encodes (by omega)]
          cases item.value with
          | error thrown => rfl
          | ok value =>
              dsimp only
              cases out.assign (TextDecoder.decode key) value with
              | error thrown => rfl
              | ok out => exact ih encodesRest (by omega) out

theorem Encodes.length_pos {item : Item} {part : Bytes} (encodes : Encodes item part) :
    0 < part.length := by
  have head {major number : Nat} {head : Bytes} (declares : Head major number head) :
      0 < head.length := by
    cases declares <;> simp
  cases encodes with
  | uint _ _ declares => exact head declares
  | bytes _ _ declares | text _ _ declares | array _ _ _ declares _ | map _ _ _ declares _ =>
      rw [List.length_append]
      exact Nat.add_pos_left (head declares) _

theorem readItem_complete (fuel : Nat) : ReadsItems fuel := by
  induction fuel with
  | zero =>
      intro item part rest encodes short
      exact absurd encodes.length_pos (by omega)
  | succ fuel ih =>
      intro item part rest encodes short
      cases encodes with
      | uint number _ declares =>
          obtain ⟨initial, tail, rfl, high, read⟩ := declares.read (by omega)
          simp only [List.cons_append, readItem, readUint8, bind, Except.bind, high, read]
          rfl
      | bytes content _ declares =>
          obtain ⟨initial, tail, rfl, high, read⟩ := declares.read (by omega)
          simp only [List.cons_append, List.append_assoc, readItem, readUint8, bind, Except.bind, high,
            read, readBytes_append]
          rfl
      | text raw _ declares =>
          obtain ⟨initial, tail, rfl, high, read⟩ := declares.read (by omega)
          simp only [List.cons_append, List.append_assoc, readItem, readUint8, bind, Except.bind, high,
            read, readBytes_append]
          rfl
      | array items _ body declares encodes =>
          obtain ⟨initial, tail, rfl, high, read⟩ := declares.read (by omega)
          simp only [List.cons_append, List.length_cons, List.length_append] at short
          simp only [List.cons_append, List.append_assoc, readItem, readUint8, bind, Except.bind, high,
            read, times_complete ih encodes (by omega), Item.value]
          cases valueItems items <;> rfl
      | map entries _ body declares encodes =>
          obtain ⟨initial, tail, rfl, high, read⟩ := declares.read (by omega)
          simp only [List.cons_append, List.length_cons, List.length_append] at short
          simp only [List.cons_append, List.append_assoc, readItem, readUint8, bind, Except.bind, high,
            read, readEntries_complete ih encodes (by omega), Item.value]

end Complete

section Sound
variable {fuel : Nat}

/-- What the reader takes off is the text of an item, and it returns the value of that item. -/
def ReadsOnlyItems (fuel : Nat) : Prop :=
  ∀ text value rest, readItem fuel text = .ok (value, rest) →
    ∃ item part, text = part ++ rest ∧ Encodes item part ∧ item.value = .ok value

theorem assignEntries_isMap {entries : List (Bytes × Item)} {out value : Value}
    (isMap : out.isMap = true) (assigned : assignEntries entries out = .ok value) :
    value.isMap = true := by
  induction entries generalizing out with
  | nil =>
      cases assigned
      exact isMap
  | cons entry entries ih =>
      obtain ⟨key, item⟩ := entry
      rw [assignEntries] at assigned
      obtain ⟨made, -, assigned⟩ := Reading.bind_eq_ok.mp assigned
      obtain ⟨after, first, assigned⟩ := Reading.bind_eq_ok.mp assigned
      exact ih (assign_isMap isMap first) assigned

theorem Item.of_text {item : Item} {content : String} (made : item.value = .ok (.text content)) :
    ∃ raw, item = .text raw ∧ TextDecoder.decode raw = content := by
  cases item with
  | text raw =>
      cases made
      exact ⟨raw, rfl, rfl⟩
  | uint number | bytes number => cases made
  | array items =>
      obtain ⟨values, -, made⟩ := Reading.bind_eq_ok.mp made
      cases made
  | map entries =>
      have isMap := assignEntries_isMap rfl made
      cases isMap

theorem times_sound (each : ReadsOnlyItems fuel) {count : Nat} {text rest : Bytes} {values : List Value}
    (read : times (readItem fuel) count text = .ok (values, rest)) :
    ∃ items body, items.length = count ∧ text = body ++ rest ∧ EncodesItems items body ∧
      valueItems items = .ok values := by
  induction count generalizing text values with
  | zero =>
      cases read
      exact ⟨[], [], rfl, rfl, .nil, rfl⟩
  | succ count ih =>
      obtain ⟨⟨value, text'⟩, first, read⟩ := Reading.bind_eq_ok.mp read
      obtain ⟨⟨others, text''⟩, more, read⟩ := Reading.bind_eq_ok.mp read
      cases read
      obtain ⟨item, part, rfl, encodes, made⟩ := each _ _ _ first
      obtain ⟨items, body, rfl, rfl, encodesRest, madeRest⟩ := ih more
      refine ⟨item :: items, part ++ body, rfl, (List.append_assoc ..).symm,
        .cons _ _ _ _ encodes encodesRest, ?_⟩
      rw [valueItems, made, madeRest]
      rfl

theorem readEntries_sound (each : ReadsOnlyItems fuel) {count : Nat} {text rest : Bytes}
    {out value : Value} (read : readEntries (readItem fuel) count out text = .ok (value, rest)) :
    ∃ entries body, entries.length = count ∧ text = body ++ rest ∧ EncodesEntries entries body ∧
      assignEntries entries out = .ok value := by
  induction count generalizing text out with
  | zero =>
      cases read
      exact ⟨[], [], rfl, rfl, .nil, rfl⟩
  | succ count ih =>
      obtain ⟨⟨name, text'⟩, first, read⟩ := Reading.bind_eq_ok.mp read
      obtain ⟨nameItem, namePart, split, named, madeName⟩ := each _ _ _ first
      dsimp only at read
      split at read
      · obtain ⟨⟨field, text''⟩, second, read⟩ := Reading.bind_eq_ok.mp read
        obtain ⟨after, assigned, read⟩ := Reading.bind_eq_ok.mp read
        obtain ⟨entries, body, rfl, rfl, encodesRest, madeRest⟩ := ih read
        obtain ⟨item, part, rfl, encodes, made⟩ := each _ _ _ second
        obtain ⟨raw, rfl, rfl⟩ := Item.of_text madeName
        refine ⟨(raw, item) :: entries, namePart ++ (part ++ body), rfl, by simp [split],
          .cons _ _ _ _ _ _ named encodes encodesRest, ?_⟩
        exact Reading.bind_eq_ok.mpr ⟨field, made, Reading.bind_eq_ok.mpr ⟨after, assigned, madeRest⟩⟩
      · cases read

theorem readItem_sound (fuel : Nat) : ReadsOnlyItems fuel := by
  induction fuel with
  | zero => exact fun _ _ _ read => nomatch read
  | succ fuel ih =>
      intro text value rest read
      cases text with
      | nil => cases read
      | cons initial text =>
          rw [readItem] at read
          simp only [readUint8, bind, Except.bind] at read
          split at read
          · rename_i high
            obtain ⟨⟨number, rest'⟩, length, read⟩ := Reading.bind_eq_ok.mp read
            cases read
            obtain ⟨tail, rfl, head⟩ := readLength_ok high length
            exact ⟨.uint number, _, rfl, .uint _ _ head, rfl⟩
          · rename_i high
            obtain ⟨⟨len, rest'⟩, length, read⟩ := Reading.bind_eq_ok.mp read
            obtain ⟨⟨content, rest''⟩, run, read⟩ := Reading.bind_eq_ok.mp read
            cases read
            obtain ⟨tail, rfl, head⟩ := readLength_ok high length
            obtain ⟨rfl, rfl⟩ := readBytes_ok run
            exact ⟨.bytes content, _, by simp, .bytes _ _ head, rfl⟩
          · rename_i high
            obtain ⟨⟨len, rest'⟩, length, read⟩ := Reading.bind_eq_ok.mp read
            obtain ⟨⟨content, rest''⟩, run, read⟩ := Reading.bind_eq_ok.mp read
            cases read
            obtain ⟨tail, rfl, head⟩ := readLength_ok high length
            obtain ⟨rfl, rfl⟩ := readBytes_ok run
            exact ⟨.text content, _, by simp, .text _ _ head, rfl⟩
          · rename_i high
            obtain ⟨⟨count, rest'⟩, length, read⟩ := Reading.bind_eq_ok.mp read
            obtain ⟨⟨values, rest''⟩, run, read⟩ := Reading.bind_eq_ok.mp read
            cases read
            obtain ⟨tail, rfl, head⟩ := readLength_ok high length
            obtain ⟨items, body, rfl, rfl, encodes, made⟩ := times_sound ih run
            refine ⟨.array items, _, by simp, .array _ _ _ head encodes, ?_⟩
            rw [Item.value, made]
            rfl
          · rename_i high
            obtain ⟨⟨count, rest'⟩, length, run⟩ := Reading.bind_eq_ok.mp read
            obtain ⟨tail, rfl, head⟩ := readLength_ok high length
            obtain ⟨entries, body, rfl, rfl, encodes, made⟩ := readEntries_sound ih run
            exact ⟨.map entries, _, by simp, .map _ _ _ head encodes, made⟩
          · cases read

end Sound

section Fuel
variable {fuel : Nat}

theorem readItem_shorter {text rest : Bytes} {value : Value}
    (read : readItem fuel text = .ok (value, rest)) : rest.length ≤ text.length := by
  obtain ⟨item, part, rfl, -, -⟩ := readItem_sound fuel text value rest read
  rw [List.length_append]
  omega

theorem times_fuel (same : ∀ text, text.length ≤ fuel → readItem (fuel + 1) text = readItem fuel text)
    (count : Nat) (text : Bytes) (short : text.length ≤ fuel) :
    times (readItem (fuel + 1)) count text = times (readItem fuel) count text := by
  induction count generalizing text with
  | zero => rfl
  | succ count ih =>
      rw [times, times, same text short]
      cases read : readItem fuel text with
      | error thrown => rfl
      | ok first =>
          have shorter := readItem_shorter read
          simp only [bind, Except.bind, ih first.2 (by omega)]

theorem readEntries_fuel
    (same : ∀ text, text.length ≤ fuel → readItem (fuel + 1) text = readItem fuel text)
    (count : Nat) (out : Value) (text : Bytes) (short : text.length ≤ fuel) :
    readEntries (readItem (fuel + 1)) count out text = readEntries (readItem fuel) count out text := by
  induction count generalizing out text with
  | zero => rfl
  | succ count ih =>
      rw [readEntries, readEntries, same text short]
      cases read : readItem fuel text with
      | error thrown => rfl
      | ok first =>
          have shorter := readItem_shorter read
          obtain ⟨name, rest⟩ := first
          cases name with
          | text key =>
              simp only [bind, Except.bind, same rest (by simpa using Nat.le_trans shorter short)]
              cases second : readItem fuel rest with
              | error thrown => rfl
              | ok entry =>
                  have shorter' := readItem_shorter second
                  dsimp only
                  cases out.assign key entry.1 with
                  | error thrown => rfl
                  | ok out => exact ih out entry.2 (by dsimp only at shorter; omega)
          | _ => rfl

-- One call more changes nothing once there is one for every byte.
theorem readItem_fuel (fuel : Nat) (text : Bytes) (short : text.length ≤ fuel) :
    readItem (fuel + 1) text = readItem fuel text := by
  induction fuel generalizing text with
  | zero =>
      cases text with
      | nil => rfl
      | cons byte rest => cases short
  | succ fuel ih =>
      cases text with
      | nil => rfl
      | cons initial text =>
          rw [List.length_cons, Nat.add_le_add_iff_right] at short
          rw [readItem, readItem]
          simp only [readUint8, bind, Except.bind]
          have inner (count : Nat) (rest : Bytes)
              (length : readLength (initial.toNat % 32) text = .ok (count, rest)) : rest.length ≤ fuel := by
            obtain ⟨tail, rfl, -⟩ := readLength_ok rfl length
            rw [List.length_append] at short
            omega
          split
          · rfl
          · rfl
          · rfl
          · cases length : readLength (initial.toNat % 32) text with
            | error thrown => rfl
            | ok counted => simp only [times_fuel ih counted.1 counted.2 (inner _ _ length)]
          · cases length : readLength (initial.toNat % 32) text with
            | error thrown => rfl
            | ok counted => exact readEntries_fuel ih counted.1 _ counted.2 (inner _ _ length)
          · rfl

end Fuel

section Decode
variable {bytes : Bytes} {item : Item} {value : Value}

theorem decode_encoded (encodes : Encodes item bytes) : decode bytes = item.value := by
  have read := readItem_complete bytes.length item bytes [] encodes (Nat.le_refl _)
  rw [List.append_nil] at read
  rw [decode, read]
  cases item.value <;> rfl

theorem decode_ok (decoded : decode bytes = .ok value) :
    ∃ item, Encodes item bytes ∧ item.value = .ok value := by
  obtain ⟨⟨made, rest⟩, read, decoded⟩ := Reading.bind_eq_ok.mp decoded
  cases rest with
  | cons byte rest => cases decoded
  | nil =>
      cases decoded
      obtain ⟨item, part, rfl, encodes, made⟩ := readItem_sound _ _ _ _ read
      exact ⟨item, by simpa using encodes, made⟩

end Decode

end Relay.Cbor

import CompanionRelay.BigEndian
import CompanionRelay.Reading
import CompanionRelay.Utf8

/-!
src/cbor.js, with the JavaScript values it makes. An object keeps its own keys in the order
of Object.keys, the array indices first. `out[key] = value` is an assignment: the key
`__proto__` sets the prototype of the object. Where that entry of a map is a byte string, the
object does not let the read-only properties of a Uint8Array be assigned; this much is followed.
Left out is what becomes of the number keys of such a map: they are kept here, where the typed
array would swallow each that is none of its indices.
-/

namespace Relay

open Reading (Reader times)

namespace Cbor

inductive Value
  | num (number : Nat)
  | bytes (content : Bytes)
  | text (content : String)
  | array (items : List Value)
  | object (fields : List (String × Value))
  -- an object whose prototype was set
  | derived (proto : Value) (fields : List (String × Value))

inductive Thrown
  | cbor (message : String)
  -- the TypeError of an assignment to a read-only property
  | readOnly (key : String)
  deriving DecidableEq

section Object

/-- The key as an array index, which JavaScript lists before the other keys. -/
def arrayIndex (key : String) : Option Nat :=
  let digits := key.toList
  if digits ≠ [] ∧ digits.all Char.isDigit = true ∧ (digits.head? = some '0' → digits.length = 1)
  then
    let number := digits.foldl (fun number digit => number * 10 + (digit.toNat - 48)) 0
    if number < 2 ^ 32 - 1 then some number else none
  else none

/-- An own key that is listed before a new one. -/
def listedBefore (new : String) (key : String) : Bool :=
  match arrayIndex new, arrayIndex key with
  | none, _ => true
  | some index, some other => other < index
  | some _, none => false

def owns (fields : List (String × Value)) (key : String) : Bool := fields.any (·.1 = key)

/-- The own properties after an assignment to a plain key. -/
def setField (fields : List (String × Value)) (key : String) (value : Value) :
    List (String × Value) :=
  if owns fields key then fields.map fun field => if field.1 = key then (key, value) else field
  else fields.takeWhile (listedBefore key ·.1) ++ (key, value) ::
    fields.dropWhile (listedBefore key ·.1)

/-- Whether the value is an object to JavaScript, so that it can be a prototype. -/
def Value.isObject : Value → Bool
  | .num _ | .text _ => false
  | .bytes _ | .array _ | .object _ | .derived _ _ => true

/-- `value instanceof Uint8Array`. -/
def Value.isUint8Array : Value → Bool
  | .bytes _ => true
  | .derived proto _ => proto.isUint8Array
  | _ => false

/-- The properties that the objects which inherit from a Uint8Array cannot be given. -/
def readOnlyKeys : List String := ["BYTES_PER_ELEMENT", "buffer", "byteLength", "byteOffset", "length"]

/-- Whether an assignment to an object with this prototype is refused: the first object on
the chain that has the key decides. -/
def Value.locks : Value → String → Bool
  | .bytes _, key => decide (key ∈ readOnlyKeys)
  | .derived proto fields, key => !owns fields key && proto.locks key
  | _, _ => false

/-- `out[key] = value` on an object. -/
def Value.assign (out : Value) (key : String) (value : Value) : Except Thrown Value :=
  if key = "__proto__" then
    match out with
    | .object fields | .derived _ fields =>
        .ok (if value.isObject then .derived value fields else out)
    | _ => .ok out
  else if out.locks key then .error (.readOnly key)
  else
    match out with
    | .object fields => .ok (.object (setField fields key value))
    | .derived proto fields => .ok (.derived proto (setField fields key value))
    | _ => .ok out

/-- The objects that the decoder makes of a map. -/
def Value.isMap : Value → Bool
  | .object _ | .derived _ _ => true
  | _ => false

def Value.fields : Value → List (String × Value)
  | .object fields | .derived _ fields => fields
  | _ => []

/-- What the prototype of the object refuses. -/
def Value.inherits : Value → String → Bool
  | .derived proto _, key => proto.locks key
  | _, _ => false

end Object

section OwnProperties
variable {fields : List (String × Value)} {key other : String} {value out after : Value}

theorem owns_eq_lookup : owns fields key = (fields.lookup key).isSome := by
  induction fields with
  | nil => rfl
  | cons field fields ih =>
      obtain ⟨name, held⟩ := field
      simp only [owns, List.any_cons, List.lookup_cons] at ih ⊢
      by_cases same : name = key
      · simp [same]
      · have different : (key == name) = false := beq_false_of_ne (Ne.symm same)
        simp [same, different, ih]

theorem lookup_overwrite (fields : List (String × Value)) :
    (fields.map fun field => if field.1 = key then (key, value) else field).lookup other =
      if other = key then (fields.lookup other).map fun _ => value else fields.lookup other := by
  induction fields with
  | nil => simp
  | cons field fields ih =>
      obtain ⟨name, held⟩ := field
      by_cases same : name = key
      · subst name
        by_cases found : other = key
        · simp [found]
        · simp [List.lookup_cons, ih, found, beq_false_of_ne found]
      · by_cases found : other = name
        · subst other
          simp [same]
        · simp [List.lookup_cons, ih, same, beq_false_of_ne found]

theorem lookup_setField :
    (setField fields key value).lookup other = if other = key then some value else fields.lookup other := by
  rw [setField]
  split
  · rename_i owned
    rw [owns_eq_lookup] at owned
    rw [lookup_overwrite]
    split
    · rename_i same
      obtain ⟨held, found⟩ := Option.isSome_iff_exists.mp owned
      simp [same, found]
    · rfl
  · rename_i new
    rw [owns_eq_lookup, Option.not_isSome_iff_eq_none] at new
    have joined := List.takeWhile_append_dropWhile (p := (listedBefore key ·.1)) (l := fields)
    rw [List.lookup_append, List.lookup_cons]
    by_cases same : other = key
    · rw [if_pos same, same, beq_self_eq_true]
      have front : (fields.takeWhile (listedBefore key ·.1)).lookup key = none := by
        rw [← joined, List.lookup_append, Option.or_eq_none_iff] at new
        exact new.1
      simp [front]
    · rw [if_neg same, beq_false_of_ne same]
      conv_rhs => rw [← joined, List.lookup_append]

theorem owns_setField : owns (setField fields key value) other = (owns fields other || decide (other = key)) := by
  rw [owns_eq_lookup, owns_eq_lookup, lookup_setField]
  split <;> simp [*]

theorem length_setField_new (new : owns fields key = false) :
    (setField fields key value).length = fields.length + 1 := by
  rw [setField, if_neg (by simp [new]), List.length_append, List.length_cons]
  conv_rhs => rw [← List.takeWhile_append_dropWhile (p := (listedBefore key ·.1)) (l := fields)]
  rw [List.length_append]
  omega

theorem assign_isMap (isMap : out.isMap = true) (assigned : out.assign key value = .ok after) :
    after.isMap = true := by
  unfold Value.assign at assigned
  cases out with
  | object fields | derived proto fields =>
      dsimp only at assigned
      split_ifs at assigned <;> cases assigned <;> rfl
  | _ => cases isMap

theorem locks_eq (isMap : out.isMap = true) :
    out.locks key = (!owns out.fields key && out.inherits key) := by
  cases out with
  | object fields => exact (Bool.and_false _).symm
  | derived proto fields => rfl
  | _ => cases isMap

theorem assign_proto (isMap : out.isMap = true) (value : Value) :
    ∃ after, out.assign "__proto__" value = .ok after ∧ after.fields = out.fields ∧
      ∀ key, after.inherits key = if value.isObject then value.locks key else out.inherits key := by
  cases out with
  | object fields | derived proto fields =>
      refine ⟨_, rfl, ?_, fun key => ?_⟩ <;> cases value.isObject <;> rfl
  | _ => cases isMap

theorem assign_plain (isMap : out.isMap = true) (plain : key ≠ "__proto__") (free : out.locks key = false)
    (value : Value) :
    ∃ after, out.assign key value = .ok after ∧ after.fields = setField out.fields key value ∧
      after.inherits = out.inherits := by
  have assigned : ¬out.locks key = true := by simp [free]
  cases out with
  | object fields =>
      exact ⟨.object (setField fields key value), by rw [Value.assign, if_neg plain, if_neg assigned],
        rfl, rfl⟩
  | derived proto fields =>
      exact ⟨.derived proto (setField fields key value),
        by rw [Value.assign, if_neg plain, if_neg assigned], rfl, rfl⟩
  | _ => cases isMap

theorem assign_object (plain : key ≠ "__proto__") (value : Value) :
    (Value.object fields).assign key value = .ok (.object (setField fields key value)) := by
  rw [Value.assign, if_neg plain]
  rfl

theorem assign_refused (plain : key ≠ "__proto__") (locked : out.locks key = true) (value : Value) :
    out.assign key value = .error (.readOnly key) := by
  unfold Value.assign
  rw [if_neg plain, if_pos locked]

end OwnProperties

section Decode

def readUint8 : Reader UInt8 Thrown Nat
  | [] => .error (.cbor "unexpected end of CBOR")
  | byte :: rest => .ok (byte.toNat, rest)

/-- The rest of readUintN, when `value` is read. -/
def readUintN : (n value : Nat) → Reader UInt8 Thrown Nat
  | 0, value, text => .ok (value, text)
  | n + 1, value, text => do
      let (byte, rest) ← readUint8 text
      readUintN n (value * 256 + byte) rest

def readLength (minor : Nat) : Reader UInt8 Thrown Nat := fun text =>
  if minor < 24 then .ok (minor, text)
  else if minor = 24 then readUint8 text
  else if minor = 25 then readUintN 2 0 text
  else if minor = 26 then readUintN 4 0 text
  else if minor = 27 then do
    let (hi, rest) ← readUintN 4 0 text
    let (lo, rest) ← readUintN 4 0 rest
    if hi > 0x001fffff then .error (.cbor "CBOR length exceeds safe integer")
    pure (hi * 0x100000000 + lo, rest)
  else .error (.cbor ("bad CBOR length encoding " ++ toString minor))

def readBytes (len : Nat) : Reader UInt8 Thrown Bytes := fun text =>
  if text.length < len then .error (.cbor "CBOR byte run past end")
  else .ok (text.take len, text.drop len)

/-- The loop over the entries of a map. -/
def readEntries (read : Reader UInt8 Thrown Value) : Nat → Value → Reader UInt8 Thrown Value
  | 0, out, text => .ok (out, text)
  | count + 1, out, text => do
      let (key, rest) ← read text
      match key with
      | .text key => do
          let (value, rest) ← read rest
          let out ← out.assign key value
          readEntries read count out rest
      | _ => .error (.cbor "only text-string map keys are supported")

/-- The fuel is the number of bytes that are left: an item takes at least one, so none of the
inner calls comes to the end of it before the end of the bytes. -/
def readItem : Nat → Reader UInt8 Thrown Value
  | 0, _ => .error (.cbor "unexpected end of CBOR")
  | fuel + 1, text => do
      let (initial, rest) ← readUint8 text
      let major := initial / 32
      let minor := initial % 32
      match major with
      | 0 => do
          let (number, rest) ← readLength minor rest
          pure (.num number, rest)
      | 2 => do
          let (len, rest) ← readLength minor rest
          let (content, rest) ← readBytes len rest
          pure (.bytes content, rest)
      | 3 => do
          let (len, rest) ← readLength minor rest
          let (content, rest) ← readBytes len rest
          pure (.text (TextDecoder.decode content), rest)
      | 4 => do
          let (count, rest) ← readLength minor rest
          let (items, rest) ← times (readItem fuel) count rest
          pure (.array items, rest)
      | 5 => do
          let (count, rest) ← readLength minor rest
          readEntries (readItem fuel) count (.object []) rest
      | _ => .error (.cbor ("unsupported CBOR major type " ++ toString major))

def decode (bytes : Bytes) : Except Thrown Value := do
  let (value, rest) ← readItem bytes.length bytes
  if rest ≠ [] then .error (.cbor "trailing bytes after CBOR item")
  pure value

end Decode

section Encode

/-- The shifts of a length are of 32 bits, so that a longer one loses its high bytes. -/
def writeTypeAndLength (major length : Nat) : Bytes :=
  let head := major * 32
  if length < 24 then [UInt8.ofNat (head + length)]
  else if length < 0x100 then [UInt8.ofNat (head + 24), UInt8.ofNat length]
  else if length < 0x10000 then
    [UInt8.ofNat (head + 25), UInt8.ofNat (length / 2 ^ 8), UInt8.ofNat length]
  else
    [UInt8.ofNat (head + 26), UInt8.ofNat (length / 2 ^ 24), UInt8.ofNat (length / 2 ^ 16),
      UInt8.ofNat (length / 2 ^ 8), UInt8.ofNat length]

def encodeText (content : String) : Bytes :=
  writeTypeAndLength 3 (utf8 content).length ++ utf8 content

mutual

def encode : Value → Bytes
  | .num number => writeTypeAndLength 0 number
  | .bytes content => writeTypeAndLength 2 content.length ++ content
  | .text content => encodeText content
  | .array items => writeTypeAndLength 4 items.length ++ encodeItems items
  | .object fields | .derived _ fields =>
      writeTypeAndLength 5 fields.length ++ encodeFields fields

def encodeItems : List Value → Bytes
  | [] => []
  | item :: rest => encode item ++ encodeItems rest

def encodeFields : List (String × Value) → Bytes
  | [] => []
  | (key, value) :: rest => encodeText key ++ encode value ++ encodeFields rest

end

end Encode

end Cbor
end Relay

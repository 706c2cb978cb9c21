import CompanionRelay.BigEndian
import CompanionRelay.Wire
import Mathlib.Data.Nat.Size

/-!
The DER reader of src/appattest.js. A JavaScript array read past its end gives undefined,
which a shift or an or turns into 0, a slice is clamped to the array and counts a negative
bound from its end, and a length of four bytes is a signed number of 32 bits. So a declared
length says nothing about the bytes that are there.
-/

namespace Relay

/-- `bytes[pos]`, with none for undefined. -/
def byteAt (bytes : Bytes) (pos : Int) : Option UInt8 :=
  if 0 ≤ pos then bytes[pos.toNat]? else none

def clampIndex (length : Nat) (index : Int) : Nat :=
  if index < 0 then (length + index).toNat else min index.toNat length

/-- Uint8Array.subarray. -/
def subarray (bytes : Bytes) (first last : Int) : Bytes :=
  (bytes.take (clampIndex bytes.length last)).drop (clampIndex bytes.length first)

/-- `(len << 8) | der[pos++]`, `n` times. -/
def lengthBytes (der : Bytes) : Nat → BitVec 32 → Int → BitVec 32
  | 0, len, _ => len
  | n + 1, len, pos =>
      let byte := ((byteAt der pos).map UInt8.toBitVec).getD 0
      lengthBytes der n ((len <<< 8) ||| byte.setWidth 32) (pos + 1)

/-- A declared length and where its contents start. -/
structure DerLength where
  len : Int
  pos : Int
  deriving DecidableEq

def readDerLength (der : Bytes) (pos : Int) : Except String DerLength :=
  match byteAt der pos with
  -- undefined & 0x7f is 0
  | none => .error "nonce extension: bad DER length"
  | some first =>
      if first < 0x80 then .ok ⟨first.toNat, pos + 1⟩
      else
        let n := first.toNat % 128
        if n = 0 ∨ 4 < n then .error "nonce extension: bad DER length"
        else .ok ⟨(lengthBytes der n 0 (pos + 1)).toInt, pos + 1 + n⟩

/-- The loop that drops the sign padding of an integer. -/
def dropPadding (size : Nat) : Bytes → Bytes
  | [] => []
  | byte :: rest =>
      if size < rest.length + 1 ∧ byte = 0 then dropPadding size rest else byte :: rest

def DerLength.contents (der : Bytes) (size : Nat) (declared : DerLength) : Bytes :=
  dropPadding size (subarray der declared.pos (declared.pos + declared.len))

/-- The tag and the length of an INTEGER. -/
def readIntHeader (der : Bytes) (pos : Int) : Except String DerLength :=
  if byteAt der pos = some 0x02 then readDerLength der (pos + 1)
  else .error "signature: expected INTEGER"

/-- The fixed-width integer that `readInt` makes of its contents. -/
def padInteger (der : Bytes) (size : Nat) (declared : DerLength) : Except String Bytes :=
  let val := declared.contents der size
  if size < val.length then .error "signature: integer too large"
  else .ok (List.replicate (size - val.length) 0 ++ val)

def derEcdsaToRaw (der : Bytes) (size : Nat) : Except String Bytes := do
  if byteAt der 0 ≠ some 0x30 then .error "signature: expected SEQUENCE"
  let sequence ← readDerLength der 1
  let first ← readIntHeader der sequence.pos
  let r ← padInteger der size first
  let second ← readIntHeader der (first.pos + first.len)
  let s ← padInteger der size second
  pure (r ++ s)

/-- `expect` of parseNonceExtension. -/
def expectTag (der : Bytes) (tag : UInt8) (pos : Int) : Except String DerLength :=
  if byteAt der pos = some tag then readDerLength der (pos + 1)
  else .error "nonce extension: unexpected DER tag"

def parseNonceExtension (der : Bytes) : Except String Bytes := do
  let sequence ← expectTag der 0x30 0
  let explicit ← expectTag der 0xa1 sequence.pos
  let octets ← expectTag der 0x04 explicit.pos
  if octets.len ≠ 32 then .error "nonce extension: bad nonce length"
  pure (subarray der octets.pos (octets.pos + 32))

section Encoding

/-- The minimal two's-complement contents of a non-negative INTEGER. -/
def derContents (number : Nat) : Bytes := BigEndian.digits (Nat.size number / 8 + 1) number

def derLength (length : Nat) : Bytes :=
  if length < 0x80 then [UInt8.ofNat length]
  else
    let width := (Nat.size length + 7) / 8
    UInt8.ofNat (0x80 + width) :: BigEndian.digits width length

def derInteger (number : Nat) : Bytes :=
  0x02 :: derLength (derContents number).length ++ derContents number

def derSequence (body : Bytes) : Bytes := 0x30 :: derLength body.length ++ body

end Encoding

section Slices

theorem byteAt_append (lead rest : Bytes) (byte : UInt8) :
    byteAt (lead ++ byte :: rest) lead.length = some byte := by
  simp [byteAt]

theorem subarray_take (lead text : Bytes) (count : Nat) :
    subarray (lead ++ text) lead.length (lead.length + count) = text.take count := by
  have first : clampIndex (lead ++ text).length lead.length = lead.length := by
    simp [clampIndex]
  have last : clampIndex (lead ++ text).length (lead.length + count) =
      lead.length + min count text.length := by
    simp only [clampIndex, List.length_append]
    rw [if_neg (by omega)]
    omega
  rw [subarray, first, last, List.take_length_add_append, List.drop_left, ← List.take_eq_take_min]

theorem subarray_append (lead body rest : Bytes) :
    subarray (lead ++ (body ++ rest)) lead.length (lead.length + body.length) = body := by
  rw [subarray_take, List.take_left]

theorem subarray_past {der : Bytes} {first : Int} (past : (der.length : Int) ≤ first) (last : Int) :
    subarray der first last = [] := by
  have start : clampIndex der.length first = der.length := by
    rw [clampIndex, if_neg (by omega)]
    omega
  rw [subarray, start]
  exact List.drop_eq_nil_of_le (List.length_take_le' ..)

end Slices

end Relay

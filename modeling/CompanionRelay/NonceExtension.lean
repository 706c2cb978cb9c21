import CompanionRelay.Der
import CompanionRelay.Reading

/-!
parseNonceExtension. It walks over the tags of the SEQUENCE, of the element [1] and of the
OCTET STRING, each where the length before it ends, and compares no length but that of the
OCTET STRING with anything. So it reads a nonce out of the extension that DER prescribes, and
out of every other one with these tags in these places.
-/

namespace Relay

section Forms

/-- The bytes of a length that readDerLength takes, minimal or not. -/
inductive LengthForm : Nat → Bytes → Prop
  | short (byte : UInt8) (small : byte < 0x80) : LengthForm byte.toNat [byte]
  | long (lead : UInt8) (bytes : Bytes) (wide : 0x80 < lead.toNat) (few : lead.toNat ≤ 0x84)
      (counted : lead.toNat = 0x80 + bytes.length) :
      LengthForm (BigEndian.value bytes) (lead :: bytes)

/-- The extension that carries the nonce, as DER has it. -/
def nonceExtension (nonce : Bytes) : Bytes := [0x30, 0x24, 0xa1, 0x22, 0x04, 0x20] ++ nonce

/-- The extensions that have the nonce where parseNonceExtension looks for it. -/
def Carries (der nonce : Bytes) : Prop :=
  ∃ outer inner octets first second third rest, LengthForm outer first ∧ LengthForm inner second ∧
    LengthForm octets third ∧ octets = 32 ∧
    der = 0x30 :: first ++ (0xa1 :: second ++ (0x04 :: third ++ (nonce ++ rest)))

end Forms

section Lengths
variable {der lead form rest bytes : Bytes} {tag : UInt8} {number : Nat} {declared : DerLength}

theorem byteAt_past {pos : Int} (past : (der.length : Int) ≤ pos) : byteAt der pos = none := by
  rw [byteAt, if_pos (by omega)]
  exact List.getElem?_eq_none (by omega)

theorem shift_byte (len : BitVec 32) (byte : UInt8) :
    len <<< 8 ||| byte.toBitVec.setWidth 32 = BitVec.ofNat 32 (len.toNat * 256 + byte.toNat) := by
  have small : byte.toNat < 2 ^ 8 := byte.toNat_lt
  have shifted : len.toNat <<< 8 % 2 ^ 32 = (len.toNat % 2 ^ 24) <<< 8 := by
    rw [Nat.shiftLeft_eq, Nat.shiftLeft_eq]
    omega
  apply BitVec.eq_of_toNat_eq
  rw [BitVec.toNat_or, BitVec.toNat_shiftLeft, BitVec.toNat_setWidth, BitVec.toNat_ofNat,
    UInt8.toNat_toBitVec, Nat.mod_eq_of_lt (by omega : byte.toNat < 2 ^ 32), shifted,
    ← Nat.shiftLeft_add_eq_or_of_lt small, Nat.shiftLeft_eq]
  omega

theorem lengthBytes_eq (lead bytes rest : Bytes) (len : BitVec 32) :
    lengthBytes (lead ++ (bytes ++ rest)) bytes.length len lead.length =
      BitVec.ofNat 32 (len.toNat * 256 ^ bytes.length + BigEndian.value bytes) := by
  induction bytes generalizing lead len with
  | nil => simp [lengthBytes]
  | cons byte bytes ih =>
      have step := ih (lead ++ [byte]) (BitVec.ofNat 32 (len.toNat * 256 + byte.toNat))
      have whole : lead ++ [byte] ++ (bytes ++ rest) = lead ++ (byte :: bytes ++ rest) := by simp
      have first := BigEndian.value_append [byte] bytes
      have one : BigEndian.value [byte] = byte.toNat := by simp [BigEndian.value]
      rw [whole, List.length_append, List.length_singleton, Int.natCast_add, Int.natCast_one] at step
      rw [List.singleton_append, one] at first
      rw [List.length_cons, lengthBytes, List.cons_append, byteAt_append]
      dsimp only [Option.map_some, Option.getD_some]
      rw [shift_byte, ← List.cons_append, step, first]
      apply BitVec.eq_of_toNat_eq
      rw [BitVec.toNat_ofNat, BitVec.toNat_ofNat, BitVec.toNat_ofNat, pow_succ]
      conv_lhs => rw [Nat.add_mod, Nat.mul_mod, Nat.mod_mod, ← Nat.mul_mod, ← Nat.add_mod]
      ring_nf

theorem readDerLength_form (form' : LengthForm number form) (lead rest : Bytes) :
    readDerLength (lead ++ (form ++ rest)) lead.length =
      .ok ⟨(BitVec.ofNat 32 number).toInt, (lead ++ form).length⟩ := by
  cases form' with
  | short byte small =>
      have bound : byte.toNat < 128 := by simpa [UInt8.lt_iff_toNat_lt] using small
      have whole : (BitVec.ofNat 32 byte.toNat).toNat = byte.toNat := by
        rw [BitVec.toNat_ofNat]
        omega
      have same : (BitVec.ofNat 32 byte.toNat).toInt = byte.toNat := by
        rw [BitVec.toInt_eq_toNat_of_lt (by omega), whole]
      rw [List.singleton_append, readDerLength, byteAt_append]
      simp [small, same]
  | long first bytes wide few counted =>
      have large : ¬first < 0x80 := by
        rw [UInt8.lt_iff_toNat_lt]
        exact Nat.not_lt.mpr wide.le
      have count : first.toNat % 128 = bytes.length := by omega
      have read := lengthBytes_eq (lead ++ [first]) bytes rest 0
      have whole : lead ++ [first] ++ (bytes ++ rest) = lead ++ (first :: bytes ++ rest) := by simp
      have zero : (0 : BitVec 32).toNat = 0 := rfl
      rw [whole, List.length_append, List.length_singleton, Int.natCast_add, Int.natCast_one, zero,
        Nat.zero_mul, Nat.zero_add] at read
      rw [List.cons_append, readDerLength, byteAt_append]
      dsimp only
      rw [if_neg large, count, if_neg (by omega), ← List.cons_append, read]
      simp only [List.length_append, List.length_cons, Nat.cast_add]
      congr 2
      omega

-- What is read is a length that is there, or one that runs over the end of the input.
theorem readDerLength_forms (read : readDerLength (lead ++ bytes) lead.length = .ok declared) :
    (∃ number form rest, LengthForm number form ∧ bytes = form ++ rest ∧
      declared = ⟨(BitVec.ofNat 32 number).toInt, (lead ++ form).length⟩) ∨
    ((lead ++ bytes).length : Int) < declared.pos := by
  cases bytes with
  | nil =>
      rw [List.append_nil, readDerLength, byteAt_past (Int.le_refl _)] at read
      cases read
  | cons first tail =>
      by_cases small : first < 0x80
      · have form := LengthForm.short first small
        have read' := readDerLength_form form lead tail
        rw [List.singleton_append, read] at read'
        cases read'
        exact .inl ⟨_, [first], tail, form, rfl, rfl⟩
      · have byte := first.toNat_lt
        have read' := read
        rw [readDerLength, byteAt_append] at read'
        dsimp only at read'
        rw [if_neg small] at read'
        rw [UInt8.lt_iff_toNat_lt, Nat.not_lt] at small
        change 128 ≤ first.toNat at small
        split at read'
        · cases read'
        · rename_i counted
          by_cases enough : first.toNat % 128 ≤ tail.length
          · have length := List.length_take_of_le enough
            have form := LengthForm.long first (tail.take (first.toNat % 128)) (by omega) (by omega)
              (by omega)
            have form' := readDerLength_form form lead (tail.drop (first.toNat % 128))
            rw [List.cons_append, List.take_append_drop, read] at form'
            cases form'
            exact .inl ⟨_, _, tail.drop (first.toNat % 128), form, by simp, rfl⟩
          · refine .inr ?_
            cases read'
            simp only [List.length_append, List.length_cons]
            omega

theorem expectTag_form (form' : LengthForm number form) (tag : UInt8) (lead rest : Bytes) :
    expectTag (lead ++ (tag :: form ++ rest)) tag lead.length =
      .ok ⟨(BitVec.ofNat 32 number).toInt, (lead ++ tag :: form).length⟩ := by
  have read := readDerLength_form form' (lead ++ [tag]) rest
  have whole : lead ++ [tag] ++ (form ++ rest) = lead ++ (tag :: form ++ rest) := by simp
  have after : lead ++ [tag] ++ form = lead ++ tag :: form := by simp
  rw [whole, after, List.length_append, List.length_singleton, Int.natCast_add, Int.natCast_one] at read
  rw [expectTag, List.cons_append, byteAt_append, if_pos rfl, ← List.cons_append, read]

theorem expectTag_ok {pos : Int} (split : der = lead ++ bytes) (start : pos = lead.length)
    (found : expectTag der tag pos = .ok declared) :
    (∃ number form rest, LengthForm number form ∧ bytes = tag :: form ++ rest ∧
      declared.len = (BitVec.ofNat 32 number).toInt ∧ declared.pos = (lead ++ tag :: form).length) ∨
    (der.length : Int) < declared.pos := by
  subst split start
  rw [expectTag] at found
  split at found
  · rename_i byte
    cases bytes with
    | nil =>
        rw [List.append_nil, byteAt_past (Int.le_refl _)] at byte
        cases byte
    | cons first bytes =>
        rw [byteAt_append] at byte
        cases byte
        have whole : lead ++ tag :: bytes = lead ++ [tag] ++ bytes := by simp
        have start : ((lead ++ [tag]).length : Int) = lead.length + 1 := by simp
        rw [whole, ← start] at found
        rcases readDerLength_forms found with ⟨number, form, rest, form', rfl, rfl⟩ | past
        · exact .inl ⟨number, form, rest, form', rfl, rfl, by simp⟩
        · rw [whole]
          exact .inr past
  · cases found

theorem expectTag_past {pos : Int} (past : (der.length : Int) < pos) :
    expectTag der tag pos = .error "nonce extension: unexpected DER tag" := by
  rw [expectTag, byteAt_past past.le, if_neg nofun]

theorem LengthForm.lt (form' : LengthForm number form) : number < 2 ^ 32 := by
  cases form' with
  | short byte small =>
      have := byte.toNat_lt
      omega
  | long first bytes wide few counted =>
      have bound := BigEndian.value_lt bytes
      have width : bytes.length ≤ 4 := by omega
      have := Nat.pow_le_pow_right (n := 256) (by omega) width
      omega

theorem toInt_eq_32 (bounded : number < 2 ^ 32) : (BitVec.ofNat 32 number).toInt = 32 ↔ number = 32 := by
  rw [BitVec.toInt_eq_toNat_cond, BitVec.toNat_ofNat, Nat.mod_eq_of_lt bounded]
  split <;> omega

theorem parseNonceExtension_iff {nonce : Bytes} (whole : nonce.length = 32) :
    parseNonceExtension der = .ok nonce ↔ Carries der nonce := by
  constructor
  · intro parsed
    obtain ⟨sequence, first, parsed⟩ := Reading.bind_eq_ok.mp parsed
    obtain ⟨explicit, second, parsed⟩ := Reading.bind_eq_ok.mp parsed
    obtain ⟨octets, third, parsed⟩ := Reading.bind_eq_ok.mp parsed
    split_ifs at parsed with short
    · cases parsed
    rw [not_not] at short
    have read : subarray der octets.pos (octets.pos + 32) = nonce := Except.ok.inj parsed
    rcases expectTag_ok (List.nil_append der).symm rfl first with
      ⟨outer, form, rest, isForm, split, -, start⟩ | past
    · rw [List.nil_append] at start
      rcases expectTag_ok split start second with ⟨inner, form', rest', isForm', split', -, start'⟩ | past
      · rw [split', ← List.append_assoc] at split
        rcases expectTag_ok split start' third with
          ⟨number, form'', rest'', isForm'', split'', len, start''⟩ | past
        · rw [short, eq_comm, toInt_eq_32 isForm''.lt] at len
          rw [split'', ← List.append_assoc] at split
          rw [split, start''] at read
          have cut := (subarray_take _ rest'' 32).symm.trans read
          refine ⟨outer, inner, number, form, form', form'', rest''.drop 32, isForm, isForm', isForm'',
            len, ?_⟩
          rw [split, ← cut, List.take_append_drop, List.append_assoc, List.append_assoc]
        · rw [subarray_past past.le] at read
          rw [← read] at whole
          cases whole
      · rw [expectTag_past past] at third
        cases third
    · rw [expectTag_past past] at second
      cases second
  · rintro ⟨outer, inner, octets, form, form', form'', rest, isForm, isForm', isForm'', rfl, rfl⟩
    have first := expectTag_form isForm 0x30 [] (0xa1 :: form' ++ (0x04 :: form'' ++ (nonce ++ rest)))
    have second := expectTag_form isForm' 0xa1 (0x30 :: form) (0x04 :: form'' ++ (nonce ++ rest))
    have third := expectTag_form isForm'' 0x04 (0x30 :: form ++ 0xa1 :: form') (nonce ++ rest)
    have read := subarray_take (0x30 :: form ++ 0xa1 :: form' ++ 0x04 :: form'') (nonce ++ rest) 32
    have cut : (nonce ++ rest).take 32 = nonce := List.take_left' whole
    have length : (BitVec.ofNat 32 32).toInt = 32 := by decide
    rw [List.append_assoc] at third
    rw [List.append_assoc, List.append_assoc, cut] at read
    change expectTag _ 0x30 0 = _ at first
    rw [List.nil_append, List.nil_append] at first
    simp only [parseNonceExtension, bind, Except.bind, first, second, third, length]
    rw [if_neg (by omega)]
    exact congrArg Except.ok read

end Lengths

end Relay

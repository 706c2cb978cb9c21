import CompanionRelay.Der

/-!
derEcdsaToRaw. A signature that is encoded as DER says is read back in fixed width. On every
other input the reader follows the declared lengths, whether the bytes are there or not: the
contents of an INTEGER are the slice that JavaScript makes of them.
-/

namespace Relay

section Statement

/-- The two INTEGERs as their headers declare them, each found where the one before ends. -/
def declaredIntegers (der : Bytes) : Except String (DerLength × DerLength) := do
  let sequence ← readDerLength der 1
  let first ← readIntHeader der sequence.pos
  let second ← readIntHeader der (first.pos + first.len)
  pure (first, second)

/-- A length that is not negative, of contents that lie wholly inside the input. -/
def DerLength.inside (der : Bytes) (declared : DerLength) : Prop :=
  0 ≤ declared.len ∧ declared.pos + declared.len ≤ der.length

instance (der : Bytes) (declared : DerLength) : Decidable (declared.inside der) :=
  inferInstanceAs (Decidable (_ ∧ _))

/-- The slice of the contents, without its padding, is not too large. -/
def DerLength.fits (der : Bytes) (declared : DerLength) : Prop :=
  (declared.contents der 32).length ≤ 32

/-- A signature is converted only if both INTEGERs lie inside the input. -/
def Contained (der : Bytes) : Prop :=
  ∀ raw, derEcdsaToRaw der 32 = .ok raw →
    ∃ first second, declaredIntegers der = .ok (first, second) ∧
      first.inside der ∧ second.inside der

/-- An input that starts as a signature does declares no INTEGER that runs past its end or
has a negative length, unless what is there is too large for an INTEGER. -/
def DeclaresInside (der : Bytes) : Prop :=
  byteAt der 0 = some 0x30 → ∀ first second, declaredIntegers der = .ok (first, second) →
    (first.inside der ∧ second.inside der) ∨ ¬ first.fits der ∨ ¬ second.fits der

structure SignatureRead (r s : Nat) (der : Bytes) : Prop where
  minimal : r < 2 ^ 256 → s < 2 ^ 256 →
    derEcdsaToRaw (derSequence (derInteger r ++ derInteger s)) 32 =
      .ok (BigEndian.digits 32 r ++ BigEndian.digits 32 s)
  fixed : ∀ raw, derEcdsaToRaw der 32 = .ok raw → raw.length = 64
  contained : Contained der ↔ DeclaresInside der

end Statement

section Minimal
variable {lead body rest : Bytes}

theorem derLength_short {length : Nat} (short : length < 128) :
    derLength length = [UInt8.ofNat length] := if_pos short

theorem readDerLength_short (lead rest : Bytes) {length : Nat} (short : length < 128) :
    readDerLength (lead ++ (derLength length ++ rest)) lead.length =
      .ok ⟨length, lead.length + 1⟩ := by
  have same : (UInt8.ofNat length).toNat = length := by
    rw [UInt8.toNat_ofNat']
    omega
  have small : UInt8.ofNat length < 0x80 := by
    rw [UInt8.lt_iff_toNat_lt, same]
    exact short
  rw [derLength_short short, List.singleton_append, readDerLength, byteAt_append]
  simp [small, same]

theorem derContents_length (number : Nat) :
    (derContents number).length = Nat.size number / 8 + 1 :=
  BigEndian.digits_length ..

theorem lt_derContents (number : Nat) : number < 256 ^ (derContents number).length := by
  calc number < 2 ^ Nat.size number := Nat.lt_size_self number
    _ ≤ 2 ^ (8 * (derContents number).length) := by
        rw [derContents_length]
        exact Nat.pow_le_pow_right (by omega) (by omega)
    _ = 256 ^ (derContents number).length := pow_mul 2 8 _

theorem derContents_le {number : Nat} (bounded : number < 2 ^ 256) :
    (derContents number).length ≤ 33 := by
  have size : Nat.size number ≤ 256 := Nat.size_le.mpr bounded
  rw [derContents_length]
  omega

theorem dropPadding_of_le {size : Nat} {val : Bytes} (short : val.length ≤ size) :
    dropPadding size val = val := by
  cases val with
  | nil => rfl
  | cons byte rest =>
      rw [dropPadding, if_neg]
      rintro ⟨long, _⟩
      rw [List.length_cons] at short
      omega

theorem dropPadding_signed {size : Nat} {val : Bytes} (full : val.length = size) :
    dropPadding size (0 :: val) = val := by
  rw [dropPadding, if_pos ⟨by omega, rfl⟩, dropPadding_of_le full.le]

-- The sign byte of an integer that fills its width is dropped, a short one is padded.
theorem pad_minimal {number : Nat} (bounded : number < 2 ^ 256) :
    (dropPadding 32 (derContents number)).length ≤ 32 ∧
      List.replicate (32 - (dropPadding 32 (derContents number)).length) 0 ++
        dropPadding 32 (derContents number) = BigEndian.digits 32 number := by
  have width := derContents_le bounded
  by_cases full : (derContents number).length = 33
  · have wide : number < 256 ^ 32 := by
      rw [show (256 : Nat) ^ 32 = 2 ^ 256 from (pow_mul 2 8 32).symm]
      exact bounded
    have padded := BigEndian.digits_padded 1 wide
    rw [List.replicate_one, List.singleton_append, Nat.add_comm 1 32] at padded
    have signed : derContents number = 0 :: BigEndian.digits 32 number := by
      rw [← padded, derContents, ← derContents_length, full]
    have dropped := dropPadding_signed (BigEndian.digits_length 32 number)
    rw [signed, dropped, BigEndian.digits_length, Nat.sub_self, List.replicate_zero,
      List.nil_append]
    simp
  · have short : (derContents number).length ≤ 32 := by omega
    have padded := BigEndian.digits_padded (32 - (derContents number).length)
      (lt_derContents number)
    rw [Nat.sub_add_cancel short] at padded
    rw [dropPadding_of_le short, padded]
    exact ⟨short, by rw [derContents_length]; rfl⟩

theorem derInteger_length {number : Nat} (bounded : number < 2 ^ 256) :
    (derInteger number).length = (derContents number).length + 2 := by
  have short := derContents_le bounded
  rw [derInteger, derLength_short (by omega)]
  simp

theorem read_integer (lead rest : Bytes) {number : Nat} (bounded : number < 2 ^ 256) :
    ∃ declared : DerLength,
      readIntHeader (lead ++ (derInteger number ++ rest)) lead.length = .ok declared ∧
      padInteger (lead ++ (derInteger number ++ rest)) 32 declared =
        .ok (BigEndian.digits 32 number) ∧
      declared.pos + declared.len = (lead ++ derInteger number).length := by
  have short : (derContents number).length < 128 := by
    have width := derContents_le bounded
    omega
  refine ⟨⟨(derContents number).length, lead.length + 2⟩, ?_, ?_, ?_⟩
  · have header := readDerLength_short (lead ++ [0x02]) (derContents number ++ rest) short
    rw [readIntHeader, derInteger, List.cons_append, List.cons_append, byteAt_append, if_pos rfl]
    simpa [Int.add_assoc] using header
  · have slice := subarray_append
      (lead ++ 0x02 :: derLength (derContents number).length) (derContents number) rest
    rw [derLength_short short] at slice
    obtain ⟨small, padded⟩ := pad_minimal bounded
    have same : DerLength.contents (lead ++ (derInteger number ++ rest)) 32
        ⟨(derContents number).length, lead.length + 2⟩ = dropPadding 32 (derContents number) := by
      rw [DerLength.contents, derInteger, derLength_short short]
      simpa using congrArg (dropPadding 32) slice
    rw [padInteger, same]
    simp [Nat.not_lt.mpr small, padded]
  · simp only [List.length_append, derInteger_length bounded]
    omega

theorem derEcdsaToRaw_ok {der r s : Bytes} {size : Nat} {sequence first second : DerLength}
    (tag : byteAt der 0 = some 0x30) (outer : readDerLength der 1 = .ok sequence)
    (header : readIntHeader der sequence.pos = .ok first)
    (padded : padInteger der size first = .ok r)
    (header' : readIntHeader der (first.pos + first.len) = .ok second)
    (padded' : padInteger der size second = .ok s) :
    derEcdsaToRaw der size = .ok (r ++ s) := by
  unfold derEcdsaToRaw
  simp [tag, outer, header, padded, header', padded', bind, Except.bind, pure, Except.pure]

theorem derEcdsaToRaw_minimal {r s : Nat} (bounded : r < 2 ^ 256) (bounded' : s < 2 ^ 256) :
    derEcdsaToRaw (derSequence (derInteger r ++ derInteger s)) 32 =
      .ok (BigEndian.digits 32 r ++ BigEndian.digits 32 s) := by
  have short : (derInteger r ++ derInteger s).length < 128 := by
    have widths := And.intro (derContents_le bounded) (derContents_le bounded')
    rw [List.length_append, derInteger_length bounded, derInteger_length bounded']
    omega
  have outer := readDerLength_short [0x30] (derInteger r ++ derInteger s) short
  obtain ⟨first, header, padded, next⟩ :=
    read_integer [0x30, UInt8.ofNat (derInteger r ++ derInteger s).length] (derInteger s) bounded
  obtain ⟨second, header', padded', _⟩ :=
    read_integer ([0x30, UInt8.ofNat (derInteger r ++ derInteger s).length] ++ derInteger r) []
      bounded'
  have whole : derSequence (derInteger r ++ derInteger s) =
      [0x30, UInt8.ofNat (derInteger r ++ derInteger s).length] ++
        (derInteger r ++ derInteger s) := by
    rw [derSequence, derLength_short short]
  rw [derLength_short short] at outer
  rw [List.append_nil, ← next, List.append_assoc] at header'
  rw [List.append_nil, List.append_assoc] at padded'
  rw [whole]
  exact derEcdsaToRaw_ok rfl outer header padded header' padded'

end Minimal

section Contained
variable {der raw : Bytes} {size : Nat}

theorem padInteger_ok {declared : DerLength} {r : Bytes} :
    padInteger der size declared = .ok r ↔ (declared.contents der size).length ≤ size ∧
      r = List.replicate (size - (declared.contents der size).length) 0 ++
        declared.contents der size := by
  unfold padInteger
  dsimp only
  by_cases large : size < (declared.contents der size).length
  · rw [if_pos large]
    simp [Nat.not_le.mpr large]
  · rw [if_neg large]
    simp [Nat.not_lt.mp large, eq_comm]

-- All that an input must be for the reader to return.
theorem derEcdsaToRaw_iff : derEcdsaToRaw der size = .ok raw ↔
    byteAt der 0 = some 0x30 ∧ ∃ first second r s, declaredIntegers der = .ok (first, second) ∧
      padInteger der size first = .ok r ∧ padInteger der size second = .ok s ∧ raw = r ++ s := by
  by_cases tag : byteAt der 0 = some 0x30
  · unfold derEcdsaToRaw declaredIntegers
    simp only [tag, ne_eq, not_true, if_false, true_and, bind, Except.bind, pure, Except.pure]
    cases readDerLength der 1 with
    | error _ => simp
    | ok sequence =>
        dsimp only
        cases readIntHeader der sequence.pos with
        | error _ => simp
        | ok first =>
            dsimp only
            cases padded : padInteger der size first with
            | error _ =>
                cases readIntHeader der (first.pos + first.len) <;> simp [padded]
            | ok r =>
                dsimp only
                cases readIntHeader der (first.pos + first.len) with
                | error _ => simp
                | ok second =>
                    cases padded' : padInteger der size second <;> simp [padded, padded', eq_comm]
  · unfold derEcdsaToRaw
    simp [tag, bind, Except.bind]

theorem derEcdsaToRaw_length (read : derEcdsaToRaw der size = .ok raw) :
    raw.length = size + size := by
  obtain ⟨_, first, second, r, s, _, padded, padded', rfl⟩ := derEcdsaToRaw_iff.mp read
  obtain ⟨small, rfl⟩ := padInteger_ok.mp padded
  obtain ⟨small', rfl⟩ := padInteger_ok.mp padded'
  simp only [List.length_append, List.length_replicate]
  omega

theorem contained_iff (der : Bytes) : Contained der ↔ DeclaresInside der := by
  constructor
  · intro contained tag first second declared
    by_cases fits : first.fits der
    · by_cases fits' : second.fits der
      · have returns := derEcdsaToRaw_iff.mpr ⟨tag, first, second, _, _, declared,
          padInteger_ok.mpr ⟨fits, rfl⟩, padInteger_ok.mpr ⟨fits', rfl⟩, rfl⟩
        obtain ⟨_, _, same, inside⟩ := contained _ returns
        rw [declared] at same
        cases same
        exact .inl inside
      · exact .inr (.inr fits')
    · exact .inr (.inl fits)
  · intro declares raw read
    obtain ⟨tag, first, second, r, s, declared, padded, padded', _⟩ := derEcdsaToRaw_iff.mp read
    refine ⟨first, second, declared, ?_⟩
    have fits : first.fits der := (padInteger_ok.mp padded).1
    have fits' : second.fits der := (padInteger_ok.mp padded').1
    rcases declares tag first second declared with inside | large | large
    · exact inside
    · exact absurd fits large
    · exact absurd fits' large

end Contained

/-- Minimal signatures are read as they are, the result has a fixed width, and exactly the
inputs whose INTEGERs lie outside of them are taken though they should not be. -/
theorem signature_read (r s : Nat) (der : Bytes) : SignatureRead r s der where
  minimal := derEcdsaToRaw_minimal
  fixed _ := derEcdsaToRaw_length
  contained := contained_iff der

/-- The second INTEGER declares 32 bytes and has one; both integers declare a length of -6, so
the second is read where the first begins. -/
theorem truncated_integer_taken :
    ¬ Contained [0x30, 0x06, 0x02, 0x01, 0x05, 0x02, 0x20, 0x07] ∧
      ¬ Contained [0x30, 0x06, 0x02, 0x84, 0xff, 0xff, 0xff, 0xfa] := by
  constructor
  · intro contained
    obtain ⟨first, second, declared, _, inside⟩ := contained _ rfl
    have same : declaredIntegers [0x30, 0x06, 0x02, 0x01, 0x05, 0x02, 0x20, 0x07] =
      .ok (⟨1, 4⟩, ⟨32, 7⟩) := by decide +kernel
    rw [same] at declared
    cases declared
    exact absurd inside (by decide)
  · intro contained
    obtain ⟨first, second, declared, inside, _⟩ := contained _ rfl
    have same : declaredIntegers [0x30, 0x06, 0x02, 0x84, 0xff, 0xff, 0xff, 0xfa] =
      .ok (⟨-6, 8⟩, ⟨-6, 8⟩) := by decide +kernel
    rw [same] at declared
    cases declared
    exact absurd inside (by decide)

end Relay

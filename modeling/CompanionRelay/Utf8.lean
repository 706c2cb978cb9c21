import CompanionRelay.Encoding

/-!
TextEncoder and TextDecoder. The decoder is the one of the web platform: it never fails, puts
U+FFFD for what is no UTF-8, and drops a byte order mark at the start. So it gives back every
text that does not begin with that mark.
-/

namespace Relay

namespace TextDecoder

/-- The bytes of a character that are still to come, the bounds of the next of them, and the
code point so far. -/
structure Pending where
  needed : Nat := 0
  lower : Nat := 0x80
  upper : Nat := 0xBF
  point : Nat := 0

def replacement : Char := '\uFFFD'

/-- The first byte of a character. -/
def start (byte : Nat) : List Char × Pending :=
  if byte < 0x80 then ([Char.ofNat byte], {})
  else if 0xC2 ≤ byte ∧ byte ≤ 0xDF then ([], { needed := 1, point := byte - 0xC0 })
  else if 0xE0 ≤ byte ∧ byte ≤ 0xEF then
    ([], { needed := 2
           lower := if byte = 0xE0 then 0xA0 else 0x80
           upper := if byte = 0xED then 0x9F else 0xBF
           point := byte - 0xE0 })
  else if 0xF0 ≤ byte ∧ byte ≤ 0xF4 then
    ([], { needed := 3
           lower := if byte = 0xF0 then 0x90 else 0x80
           upper := if byte = 0xF4 then 0x8F else 0xBF
           point := byte - 0xF0 })
  else ([replacement], {})

def next (pending : Pending) (byte : Nat) : List Char × Pending :=
  if pending.needed = 0 then start byte
  else if pending.lower ≤ byte ∧ byte ≤ pending.upper then
    let point := pending.point * 64 + (byte - 0x80)
    if pending.needed = 1 then ([Char.ofNat point], {})
    else ([], { needed := pending.needed - 1, point := point })
  else
    -- the byte is taken for the first of the next character
    let (chars, after) := start byte
    (replacement :: chars, after)

def chars : Pending → Bytes → List Char
  | pending, [] => if pending.needed = 0 then [] else [replacement]
  | pending, byte :: rest =>
      let (decoded, after) := next pending byte.toNat
      decoded ++ chars after rest

def byteOrderMark : Char := '\uFEFF'

def withoutMark (text : List Char) : List Char :=
  if text.head? = some byteOrderMark then text.tail else text

def decode (bytes : Bytes) : String := String.ofList (withoutMark (chars {} bytes))

end TextDecoder

section Utf8

theorem toList_loop (bytes : ByteArray) (index : Nat) (lead : Bytes) :
    ByteArray.toList.loop bytes index lead = lead.reverse ++ bytes.data.toList.drop index := by
  fun_induction ByteArray.toList.loop bytes index lead with
  | case1 index lead inside ih =>
      have within_ : index < bytes.data.toList.length := by simpa using inside
      have here : bytes.get! index = bytes.data.toList[index] :=
        getElem!_pos bytes.data index (by simpa using within_)
      rw [ih, List.drop_eq_getElem_cons within_]
      simp [here]
  | case2 index lead outside =>
      have beyond : bytes.data.toList.length ≤ index := by simpa using outside
      rw [List.drop_eq_nil_of_le beyond, List.append_nil]

theorem utf8_data (text : String) : utf8 text = text.toUTF8.data.toList := by
  simp only [utf8, ByteArray.toList, toList_loop, List.reverse_nil, List.nil_append, List.drop_zero]

theorem utf8_length (text : String) : (utf8 text).length = text.utf8ByteSize := by
  rw [utf8_data, Array.length_toList]
  rfl

theorem utf8_injective : Function.Injective utf8 := by
  intro first second same
  rw [utf8_data, utf8_data] at same
  have arrays : first.toUTF8.data = second.toUTF8.data := Array.toList_inj.mp same
  exact String.toByteArray_inj.mp (ByteArray.ext arrays)

theorem utf8_chars (text : String) : utf8 text = text.toList.flatMap String.utf8EncodeChar := by
  rw [utf8_data]
  have whole : text.toUTF8 = text.toList.utf8Encode := String.utf8Encode_toList.symm
  rw [whole, List.utf8Encode, List.toList_data_toByteArray]

end Utf8

namespace TextDecoder

theorem chars_lead {byte : Nat} (small : byte < 256) (rest : Bytes) :
    chars {} (UInt8.ofNat byte :: rest) = (start byte).1 ++ chars (start byte).2 rest := by
  have same : (UInt8.ofNat byte).toNat = byte := by
    rw [UInt8.toNat_ofNat']
    omega
  rw [chars, same]
  rfl

theorem chars_more {needed lower upper point byte : Nat} (small : byte < 256)
    (inside : lower ≤ byte ∧ byte ≤ upper) (rest : Bytes) :
    chars ⟨needed + 2, lower, upper, point⟩ (UInt8.ofNat byte :: rest) =
      chars ⟨needed + 1, 0x80, 0xBF, point * 64 + (byte - 0x80)⟩ rest := by
  have same : (UInt8.ofNat byte).toNat = byte := by
    rw [UInt8.toNat_ofNat']
    omega
  rw [chars, same]
  simp [next, inside]

theorem chars_last {lower upper point byte : Nat} (small : byte < 256)
    (inside : lower ≤ byte ∧ byte ≤ upper) (rest : Bytes) :
    chars ⟨1, lower, upper, point⟩ (UInt8.ofNat byte :: rest) =
      Char.ofNat (point * 64 + (byte - 0x80)) :: chars {} rest := by
  have same : (UInt8.ofNat byte).toNat = byte := by
    rw [UInt8.toNat_ofNat']
    omega
  rw [chars, same]
  simp [next, inside]

theorem trailing (bits : Nat) :
    bits % 0x40 + 0x80 < 256 ∧ 0x80 ≤ bits % 0x40 + 0x80 ∧ bits % 0x40 + 0x80 ≤ 0xBF := by
  omega

theorem chars_encoded (char : Char) (rest : Bytes) :
    chars {} (String.utf8EncodeChar char ++ rest) = char :: chars {} rest := by
  obtain ⟨point, named⟩ : ∃ point, char.val.toNat = point := ⟨_, rfl⟩
  have valid : point < 0xD800 ∨ 0xDFFF < point ∧ point < 0x110000 := named ▸ char.valid
  have back : Char.ofNat point = char := by
    rw [← named]
    exact Char.ofNat_toNat char
  unfold String.utf8EncodeChar
  rw [named]
  dsimp only
  by_cases one : point ≤ 0x7F
  · rw [if_pos one, List.singleton_append, chars_lead (by omega)]
    have lead : start point = ([Char.ofNat point], {}) := if_pos (by omega)
    rw [lead, back]
    rfl
  rw [if_neg one]
  by_cases two : point ≤ 0x7FF
  · rw [if_pos two, List.cons_append, List.singleton_append, chars_lead (by omega)]
    have lead : start (point / 64 % 0x20 + 0xC0) = ([], { needed := 1, point := point / 64 }) := by
      rw [start, if_neg (by omega), if_pos (by omega),
        show point / 64 % 0x20 + 0xC0 - 0xC0 = point / 64 by omega]
    rw [lead, List.nil_append, chars_last (trailing point).1 (trailing point).2 rest]
    rw [show point / 64 * 64 + (point % 0x40 + 0x80 - 0x80) = point by omega, back]
  rw [if_neg two]
  by_cases three : point ≤ 0xFFFF
  · rw [if_pos three, List.cons_append, List.cons_append, List.singleton_append,
      chars_lead (by omega)]
    have lead : start (point / 4096 % 0x10 + 0xE0) = ([],
        { needed := 2
          lower := if point / 4096 % 0x10 + 0xE0 = 0xE0 then 0xA0 else 0x80
          upper := if point / 4096 % 0x10 + 0xE0 = 0xED then 0x9F else 0xBF
          point := point / 4096 }) := by
      rw [start, if_neg (by omega), if_neg (by omega), if_pos (by omega),
        show point / 4096 % 0x10 + 0xE0 - 0xE0 = point / 4096 by omega]
    have second : (if point / 4096 % 0x10 + 0xE0 = 0xE0 then 0xA0 else 0x80) ≤
          point / 64 % 0x40 + 0x80 ∧ point / 64 % 0x40 + 0x80 ≤
          if point / 4096 % 0x10 + 0xE0 = 0xED then 0x9F else 0xBF := by
      split <;> split <;> omega
    rw [lead, List.nil_append, chars_more (trailing (point / 64)).1 second,
      chars_last (trailing point).1 (trailing point).2]
    rw [show (point / 4096 * 64 + (point / 64 % 0x40 + 0x80 - 0x80)) * 64 +
        (point % 0x40 + 0x80 - 0x80) = point by omega, back]
  · rw [if_neg three, List.cons_append, List.cons_append, List.cons_append, List.singleton_append,
      chars_lead (by omega)]
    have lead : start (point / 262144 % 0x08 + 0xF0) = ([],
        { needed := 3
          lower := if point / 262144 % 0x08 + 0xF0 = 0xF0 then 0x90 else 0x80
          upper := if point / 262144 % 0x08 + 0xF0 = 0xF4 then 0x8F else 0xBF
          point := point / 262144 }) := by
      rw [start, if_neg (by omega), if_neg (by omega), if_neg (by omega), if_pos (by omega),
        show point / 262144 % 0x08 + 0xF0 - 0xF0 = point / 262144 by omega]
    have second : (if point / 262144 % 0x08 + 0xF0 = 0xF0 then 0x90 else 0x80) ≤
          point / 4096 % 0x40 + 0x80 ∧ point / 4096 % 0x40 + 0x80 ≤
          if point / 262144 % 0x08 + 0xF0 = 0xF4 then 0x8F else 0xBF := by
      split <;> split <;> omega
    rw [lead, List.nil_append, chars_more (trailing (point / 4096)).1 second,
      chars_more (trailing (point / 64)).1 (trailing (point / 64)).2,
      chars_last (trailing point).1 (trailing point).2]
    rw [show ((point / 262144 * 64 + (point / 4096 % 0x40 + 0x80 - 0x80)) * 64 +
        (point / 64 % 0x40 + 0x80 - 0x80)) * 64 + (point % 0x40 + 0x80 - 0x80) = point by omega,
        back]

theorem chars_utf8 (text : String) : chars {} (utf8 text) = text.toList := by
  rw [utf8_chars]
  induction text.toList with
  | nil => rfl
  | cons char rest ih => rw [List.flatMap_cons, chars_encoded, ih]

/-- What the decoder makes of an encoded text. -/
def stripped (text : String) : String := String.ofList (withoutMark text.toList)

theorem decode_utf8 (text : String) : decode (utf8 text) = stripped text := by
  rw [decode, chars_utf8, stripped]

theorem stripped_length_le (text : String) : (stripped text).toList.length ≤ text.toList.length := by
  rw [stripped, String.toList_ofList, withoutMark]
  split <;> simp

theorem stripped_eq_iff {text : String} :
    stripped text = text ↔ text.toList.head? ≠ some byteOrderMark := by
  unfold stripped withoutMark
  constructor
  · intro same marked
    rw [if_pos marked] at same
    have lengths := congrArg (fun text => text.toList.length) same
    simp only [String.toList_ofList, List.length_tail] at lengths
    cases whole : text.toList with
    | nil => simp [whole] at marked
    | cons char rest => simp [whole] at lengths
  · intro plain
    rw [if_neg plain, String.ofList_toList]

theorem stripped_eq_of_length {text : String}
    (whole : (stripped text).toList.length = text.toList.length) : stripped text = text := by
  rw [stripped_eq_iff]
  intro marked
  rw [stripped, String.toList_ofList, withoutMark, if_pos marked, List.length_tail] at whole
  cases same : text.toList with
  | nil => simp [same] at marked
  | cons char rest => simp [same] at whole

section Cut
variable {pending : Pending}

/-- Four times the characters that the bytes read so far are worth. -/
def Pending.owed (pending : Pending) : Nat := if pending.needed = 0 then 0 else 4 - pending.needed

theorem start_owed (byte : Nat) :
    (start byte).2.needed ≤ 3 ∧ 1 ≤ 4 * (start byte).1.length + (start byte).2.owed := by
  unfold start
  split_ifs <;> simp [Pending.owed]

theorem next_owed (bounded : pending.needed ≤ 3) (byte : Nat) : (next pending byte).2.needed ≤ 3 ∧
    pending.owed + 1 ≤ 4 * (next pending byte).1.length + (next pending byte).2.owed := by
  have first := start_owed byte
  unfold next
  by_cases fresh : pending.needed = 0
  · rw [if_pos fresh, Pending.owed, if_pos fresh, Nat.zero_add]
    exact first
  · have owed : pending.owed = 4 - pending.needed := if_neg fresh
    rw [if_neg fresh, owed]
    split_ifs with inside last
    · simp [last, Pending.owed]
    · dsimp only [Pending.owed]
      rw [if_neg (by omega)]
      exact ⟨by omega, by omega⟩
    · dsimp only
      rw [List.length_cons]
      exact ⟨first.1, by omega⟩

theorem length_chars (bounded : pending.needed ≤ 3) (bytes : Bytes) :
    bytes.length + pending.owed ≤ 4 * (chars pending bytes).length := by
  induction bytes generalizing pending with
  | nil =>
      rw [chars, Pending.owed]
      split
      · simp
      · simp
  | cons byte bytes ih =>
      obtain ⟨bounded', step⟩ := next_owed bounded byte.toNat
      have rest := ih bounded'
      simp only [chars, List.length_append, List.length_cons]
      omega

theorem chars_cut (bounded : pending.needed ≤ 3) (front back : Bytes) :
    4 * (chars pending front).length + back.length ≤ 4 * (chars pending (front ++ back)).length + 4 := by
  induction front generalizing pending with
  | nil =>
      have rest := length_chars bounded back
      have one : (chars pending []).length ≤ 1 := by
        rw [chars]
        split <;> simp
      rw [List.nil_append]
      omega
  | cons byte front ih =>
      have rest := ih (next_owed bounded byte.toNat).1
      simp only [List.cons_append, chars, List.length_append]
      omega

-- A text is not the decoding of much less than its bytes.
theorem decode_cut {text : String} {front back : Bytes} (whole : utf8 text = front ++ back)
    (same : decode front = text) : back.length ≤ 4 := by
  have empty : ({} : Pending).needed ≤ 3 := Nat.zero_le 3
  have cut := chars_cut empty front back
  rw [← whole, chars_utf8] at cut
  have fewer : text.toList.length ≤ (chars {} front).length := by
    rw [← same, decode, String.toList_ofList, withoutMark]
    split <;> simp
  omega

end Cut

end TextDecoder

end Relay

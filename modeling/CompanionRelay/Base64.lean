import Mathlib.Data.List.Basic
import Mathlib.Data.UInt

/-!
The base64 of btoa and atob. The decoder is the forgiving one: it drops ASCII
white space and accepts a missing padding, so it is not injective; the round
trip from bytes is what its users rely on.
-/

namespace Relay.Base64

def alphabet : List Char :=
  "ABCDEFGHIJKLMNOPQRSTUVWXYZabcdefghijklmnopqrstuvwxyz0123456789+/".toList

def digit (value : Nat) : Char := alphabet.getD value 'A'

def sextets : List UInt8 → List Nat
  | [] => []
  | [a] => [a.toNat / 4, a.toNat % 4 * 16]
  | [a, b] => [a.toNat / 4, a.toNat % 4 * 16 + b.toNat / 16, b.toNat % 16 * 4]
  | a :: b :: c :: rest =>
      a.toNat / 4 :: (a.toNat % 4 * 16 + b.toNat / 16) ::
        (b.toNat % 16 * 4 + c.toNat / 64) :: c.toNat % 64 :: sextets rest

def padding : List UInt8 → List Char
  | [] => []
  | [_] => ['=', '=']
  | [_, _] => ['=']
  | _ :: _ :: _ :: rest => padding rest

def btoa (bytes : List UInt8) : String :=
  String.ofList ((sextets bytes).map digit ++ padding bytes)

def octets : List Nat → List UInt8
  | [] => []
  | [_] => []
  | [w, x] => [UInt8.ofNat (w * 4 + x / 16)]
  | [w, x, y] => [UInt8.ofNat (w * 4 + x / 16), UInt8.ofNat (x % 16 * 16 + y / 4)]
  | w :: x :: y :: z :: rest =>
      UInt8.ofNat (w * 4 + x / 16) :: UInt8.ofNat (x % 16 * 16 + y / 4) ::
        UInt8.ofNat (y % 4 * 64 + z) :: octets rest

def isBlank (char : Char) : Bool :=
  char = ' ' || char = '\t' || char = '\n' || char = '\r' || char = '\x0c'

def stripPadding (chars : List Char) : List Char :=
  if chars.length % 4 = 0 then
    match chars.reverse with
    | '=' :: '=' :: rest => rest.reverse
    | '=' :: rest => rest.reverse
    | _ => chars
  else chars

def atob (text : String) : Option (List UInt8) :=
  let body := stripPadding (text.toList.filter (!isBlank ·))
  if body.length % 4 = 1 then none
  else (body.mapM fun char => alphabet.idxOf? char).map octets

theorem sextets_lt (bytes : List UInt8) : ∀ value ∈ sextets bytes, value < 64 := by
  induction bytes using sextets.induct with
  | case1 => simp [sextets]
  | case2 a =>
      have := a.toNat_lt
      simp [sextets]
      omega
  | case3 a b =>
      have := a.toNat_lt
      have := b.toNat_lt
      simp [sextets]
      omega
  | case4 a b c rest ih =>
      have := a.toNat_lt
      have := b.toNat_lt
      have := c.toNat_lt
      simp only [sextets, List.forall_mem_cons]
      exact ⟨by omega, by omega, by omega, by omega, ih⟩

theorem octets_sextets (bytes : List UInt8) : octets (sextets bytes) = bytes := by
  induction bytes using sextets.induct with
  | case1 => rfl
  | case2 a =>
      have low : a.toNat / 4 * 4 + a.toNat % 4 * 16 / 16 = a.toNat := by omega
      simp only [sextets, octets, low, UInt8.ofNat_toNat]
  | case3 a b =>
      have := b.toNat_lt
      have first : a.toNat / 4 * 4 + (a.toNat % 4 * 16 + b.toNat / 16) / 16 = a.toNat := by omega
      have second : (a.toNat % 4 * 16 + b.toNat / 16) % 16 * 16 + b.toNat % 16 * 4 / 4 =
          b.toNat := by omega
      simp only [sextets, octets, first, second, UInt8.ofNat_toNat]
  | case4 a b c rest ih =>
      have := b.toNat_lt
      have := c.toNat_lt
      have first : a.toNat / 4 * 4 + (a.toNat % 4 * 16 + b.toNat / 16) / 16 = a.toNat := by omega
      have second : (a.toNat % 4 * 16 + b.toNat / 16) % 16 * 16 +
          (b.toNat % 16 * 4 + c.toNat / 64) / 4 = b.toNat := by omega
      have third : (b.toNat % 16 * 4 + c.toNat / 64) % 4 * 64 + c.toNat % 64 = c.toNat := by omega
      simp only [sextets, octets, first, second, third, UInt8.ofNat_toNat, ih]

theorem digit_index : ∀ value < 64, alphabet.idxOf? (digit value) = some value := by decide

theorem digit_plain : ∀ value < 64, isBlank (digit value) = false ∧ digit value ≠ '=' := by
  decide +kernel

theorem digits_index (values : List Nat) (small : ∀ value ∈ values, value < 64) :
    (values.map digit).mapM (fun char => alphabet.idxOf? char) = some values := by
  induction values with
  | nil => rfl
  | cons value rest ih =>
      rw [List.forall_mem_cons] at small
      simp [digit_index value small.1, ih small.2]

theorem padded_length (bytes : List UInt8) :
    ((sextets bytes).map digit ++ padding bytes).length % 4 = 0 := by
  induction bytes using sextets.induct with
  | case1 => rfl
  | case2 a => simp [sextets, padding]
  | case3 a b => simp [sextets, padding]
  | case4 a b c rest ih =>
      simp only [sextets, padding, List.map_cons, List.cons_append, List.length_cons] at ih ⊢
      omega

theorem sextets_length (bytes : List UInt8) : (sextets bytes).length % 4 ≠ 1 := by
  induction bytes using sextets.induct with
  | case1 => decide
  | case2 a => simp [sextets]
  | case3 a b => simp [sextets]
  | case4 a b c rest ih =>
      simp only [sextets, List.length_cons] at ih ⊢
      omega

theorem padding_cases (bytes : List UInt8) :
    padding bytes = [] ∨ padding bytes = ['='] ∨ padding bytes = ['=', '='] := by
  induction bytes using sextets.induct with
  | case1 => exact Or.inl rfl
  | case2 a => exact Or.inr (Or.inr rfl)
  | case3 a b => exact Or.inr (Or.inl rfl)
  | case4 a b c rest ih => exact ih

-- The last digit is not '=', so exactly the padding is stripped.
theorem strip_padded (values : List Nat) (small : ∀ value ∈ values, value < 64)
    (pad : List Char) (shape : pad = [] ∨ pad = ['='] ∨ pad = ['=', '='])
    (whole : (values.map digit ++ pad).length % 4 = 0) :
    stripPadding (values.map digit ++ pad) = values.map digit := by
  have last : ∀ head tail, (values.map digit).reverse = head :: tail → head ≠ '=' := by
    intro head tail shown
    have member : head ∈ values.map digit := by
      rw [← List.mem_reverse, shown]
      exact List.mem_cons_self
    obtain ⟨value, inside, rfl⟩ := List.mem_map.mp member
    exact (digit_plain value (small value inside)).2
  unfold stripPadding
  rw [if_pos whole]
  rcases shape with rfl | rfl | rfl
  · rw [List.append_nil]
    cases shown : (values.map digit).reverse with
    | nil => rfl
    | cons head tail =>
        have plain := last head tail shown
        split
        · rename_i same
          exact absurd (List.cons.inj same).1 plain
        · rename_i same
          exact absurd (List.cons.inj same).1 plain
        · rfl
  · cases shown : (values.map digit).reverse with
    | nil => simp_all
    | cons head tail =>
        have plain := last head tail shown
        have back : (head :: tail).reverse = values.map digit := by
          rw [← shown, List.reverse_reverse]
        rw [List.reverse_append, shown]
        simp only [List.reverse_cons, List.reverse_nil, List.nil_append, List.cons_append]
        split
        · rename_i same
          exact absurd (List.cons.inj (List.cons.inj same).2).1 plain
        · rename_i same
          rw [← back, ← (List.cons.inj same).2]
        · rename_i none
          exact absurd rfl (none _)
  · rw [List.reverse_append]
    simp

theorem atob_btoa (bytes : List UInt8) : atob (btoa bytes) = some bytes := by
  have small := sextets_lt bytes
  have plain : ((sextets bytes).map digit ++ padding bytes).filter (!isBlank ·) =
      (sextets bytes).map digit ++ padding bytes := by
    apply List.filter_eq_self.mpr
    intro char member
    rcases List.mem_append.mp member with inside | pad
    · obtain ⟨value, found, rfl⟩ := List.mem_map.mp inside
      simp [(digit_plain value (small value found)).1]
    · have equals : char = '=' := by
        rcases padding_cases bytes with shape | shape | shape <;> simp_all
      subst equals
      decide
  have body : stripPadding ((sextets bytes).map digit ++ padding bytes) =
      (sextets bytes).map digit :=
    strip_padded _ small _ (padding_cases bytes) (padded_length bytes)
  have length : ¬ ((sextets bytes).map digit).length % 4 = 1 := by
    simpa using sextets_length bytes
  simp only [atob, btoa, String.toList_ofList, plain, body, if_neg length,
    digits_index _ small, Option.map_some, octets_sextets]

end Relay.Base64

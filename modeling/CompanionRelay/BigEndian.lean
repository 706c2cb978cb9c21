import Mathlib.Algebra.Order.Ring.Nat
import Mathlib.Data.List.Induction
import Mathlib.Tactic.Ring

/-!
Numbers as strings of bytes, the most significant first. A string of a given width holds
each number below its bound once; a number that fits a narrower string has zeros in front
of it in a wider one.
-/

namespace Relay.BigEndian

/-- The last `width` bytes of a number. -/
def digits : Nat → Nat → List UInt8
  | 0, _ => []
  | width + 1, number => digits width (number / 256) ++ [UInt8.ofNat number]

def value (bytes : List UInt8) : Nat := bytes.foldl (fun number byte => number * 256 + byte.toNat) 0

@[simp] theorem value_nil : value [] = 0 := rfl

@[simp] theorem value_concat (bytes : List UInt8) (byte : UInt8) :
    value (bytes ++ [byte]) = value bytes * 256 + byte.toNat := by
  simp [value]

theorem value_append (bytes rest : List UInt8) :
    value (bytes ++ rest) = value bytes * 256 ^ rest.length + value rest := by
  induction rest using List.reverseRecOn with
  | nil => simp
  | append_singleton rest byte ih =>
      rw [← List.append_assoc, value_concat, value_concat, ih, List.length_append,
        List.length_singleton, pow_succ]
      ring

@[simp] theorem digits_length (width number : Nat) : (digits width number).length = width := by
  induction width generalizing number with
  | zero => rfl
  | succ width ih => simp [digits, ih]

theorem value_digits (width number : Nat) : value (digits width number) = number % 256 ^ width := by
  induction width generalizing number with
  | zero => simp [digits, Nat.mod_one]
  | succ width ih =>
      have split : number % 256 ^ (width + 1) = number % 256 + 256 * (number / 256 % 256 ^ width) := by
        rw [pow_succ', Nat.mod_mul]
      rw [digits, value_concat, ih, UInt8.toNat_ofNat', split]
      omega

theorem value_digits_of_lt {width number : Nat} (fits : number < 256 ^ width) :
    value (digits width number) = number := by
  rw [value_digits, Nat.mod_eq_of_lt fits]

theorem value_lt (bytes : List UInt8) : value bytes < 256 ^ bytes.length := by
  induction bytes using List.reverseRecOn with
  | nil => simp
  | append_singleton bytes byte ih =>
      rw [value_concat, List.length_append, List.length_singleton, pow_succ]
      have small := byte.toNat_lt
      omega

theorem digits_value (bytes : List UInt8) : digits bytes.length (value bytes) = bytes := by
  induction bytes using List.reverseRecOn with
  | nil => rfl
  | append_singleton bytes byte ih =>
      have small := byte.toNat_lt
      have high : (value bytes * 256 + byte.toNat) / 256 = value bytes := by omega
      have low : UInt8.ofNat (value bytes * 256 + byte.toNat) = byte := by
        apply UInt8.toNat_inj.mp
        rw [UInt8.toNat_ofNat']
        omega
      rw [value_concat, List.length_append, List.length_singleton, digits, high, ih, low]

theorem digits_padded (zeros : Nat) {width number : Nat} (fits : number < 256 ^ width) :
    digits (zeros + width) number = List.replicate zeros 0 ++ digits width number := by
  induction width generalizing number with
  | zero =>
      obtain rfl : number = 0 := by simpa using fits
      induction zeros with
      | zero => rfl
      | succ zeros ih =>
          have tail : digits zeros 0 = List.replicate zeros 0 := by simpa [digits] using ih
          simp [digits, tail, List.replicate_succ']
  | succ width ih =>
      have high : number / 256 < 256 ^ width := by
        rw [pow_succ] at fits
        omega
      rw [← Nat.add_assoc, digits, ih high, List.append_assoc]
      rfl

theorem digits_append (high low number : Nat) :
    digits (high + low) number = digits high (number / 256 ^ low) ++ digits low number := by
  induction low generalizing number with
  | zero => simp [digits]
  | succ low ih =>
      rw [← Nat.add_assoc, digits, ih, digits, Nat.div_div_eq_div_mul, ← pow_succ',
        List.append_assoc]

end Relay.BigEndian

import Mathlib.Data.List.Basic

/-!
Length-prefixed concatenation. Each element is written after a code of its length; the
codes have one width and are told apart below a bound. Then the first element and all
elements can be read back from the text, whatever stands after the part that is read.
-/

namespace Relay.Framing

universe u
variable {Symbol : Type u} (code : Nat → List Symbol)

def frame (elem : List Symbol) : List Symbol := code elem.length ++ elem

def frames (elems : List (List Symbol)) : List Symbol := elems.flatMap (frame code)

@[simp] theorem frames_nil : frames code [] = [] := rfl

@[simp] theorem frames_cons (elem : List Symbol) (rest : List (List Symbol)) :
    frames code (elem :: rest) = frame code elem ++ frames code rest := rfl

section Read
variable {code} {width bound : Nat} (wide : ∀ length, (code length).length = width)
  (apart : ∀ first second, first < bound → second < bound → code first = code second →
    first = second)
include wide apart

theorem frame_read {first second tail other : List Symbol} (short : first.length < bound)
    (short' : second.length < bound)
    (same : frame code first ++ tail = frame code second ++ other) :
    first = second ∧ tail = other := by
  simp only [frame, List.append_assoc] at same
  obtain ⟨codes, texts⟩ := List.append_inj same (by rw [wide, wide])
  have lengths := apart _ _ short short' codes
  exact List.append_inj texts lengths

theorem frames_head {first second : List Symbol} {rest others : List (List Symbol)}
    (short : first.length < bound) (short' : second.length < bound)
    (same : frames code (first :: rest) = frames code (second :: others)) : first = second :=
  (frame_read wide apart short short' same).1

theorem frames_injective (filled : 0 < width) {elems others : List (List Symbol)}
    (short : ∀ elem ∈ elems, elem.length < bound) (short' : ∀ elem ∈ others, elem.length < bound)
    (same : frames code elems = frames code others) : elems = others := by
  have nonempty : ∀ elem rest, frames code (elem :: rest) ≠ [] := by
    intro elem rest empty
    have length := congrArg List.length empty
    simp only [frames_cons, frame, List.length_append, wide, List.length_nil] at length
    omega
  induction elems generalizing others with
  | nil =>
      cases others with
      | nil => rfl
      | cons elem rest => exact absurd same.symm (nonempty elem rest)
  | cons elem rest ih =>
      cases others with
      | nil => exact absurd same (nonempty elem rest)
      | cons other tail =>
          simp only [List.forall_mem_cons] at short short'
          obtain ⟨heads, tails⟩ := frame_read wide apart short.1 short'.1 same
          rw [heads, ih short.2 short'.2 tails]

end Read
end Relay.Framing

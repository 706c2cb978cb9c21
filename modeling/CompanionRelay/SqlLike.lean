import Mathlib.Data.List.Infix

/-!
The LIKE operator of SQLite with an escape character: `%` for any characters, `_` for one, a
character after the escape character for itself, and every character for itself in either
case of the ASCII letters. A text whose special characters are escaped, with `%` behind it,
matches what begins with it up to that case. SQLite refuses a pattern of more than 50000 bytes,
which is left out here: no prefix that the relay lists by is that long.
-/

namespace Relay.SqlLike

variable (escape : Char)

/-- One character for another, in either case of the ASCII letters. -/
def alike (first second : Char) : Bool := first.toLower = second.toLower

def literal (char : Char) (rest : List Char → Bool) : List Char → Bool
  | [] => false
  | first :: text => alike char first && rest text

def like : List Char → List Char → Bool
  | [], text => text.isEmpty
  | char :: rest, text =>
      if char = '%' then text.tails.any (like rest)
      else if char = escape then
        match rest with
        | [] => false
        | escaped :: others => literal escaped (like others) text
      else if char = '_' then
        match text with
        | [] => false
        | _ :: others => like rest others
      else literal char (like rest) text

/-- A character so that it stands for itself in a pattern. -/
def quoted (char : Char) : List Char :=
  if char = escape ∨ char = '%' ∨ char = '_' then [escape, char] else [char]

/-- A text matches up to the case of the ASCII letters. -/
def BeginsAnyCase (lead text : List Char) : Prop := lead.map Char.toLower <+: text.map Char.toLower

instance (lead text : List Char) : Decidable (BeginsAnyCase lead text) :=
  inferInstanceAs (Decidable (_ <+: _))

variable {escape} (apart : escape ≠ '%')
include apart

theorem like_quoted (char : Char) (rest text : List Char) :
    like escape (quoted escape char ++ rest) text = literal char (like escape rest) text := by
  unfold quoted
  by_cases special : char = escape ∨ char = '%' ∨ char = '_'
  · rw [if_pos special]
    simp only [List.cons_append, List.nil_append]
    rw [like.eq_def]
    dsimp only
    rw [if_neg apart, if_pos rfl]
  · rw [if_neg special]
    obtain ⟨unescaped, unlimited, plain⟩ := not_or.mp special |>.imp_right not_or.mp
    simp only [List.cons_append, List.nil_append]
    rw [like.eq_def]
    dsimp only
    rw [if_neg unlimited, if_neg unescaped, if_neg plain]

theorem like_lead (lead text : List Char) :
    like escape (lead.flatMap (quoted escape) ++ ['%']) text = true ↔ BeginsAnyCase lead text := by
  induction lead generalizing text with
  | nil =>
      simp only [List.flatMap_nil, List.nil_append, BeginsAnyCase, List.map_nil,
        List.nil_prefix, iff_true]
      rw [like.eq_def]
      dsimp only
      rw [if_pos rfl, List.any_eq_true]
      exact ⟨[], (List.mem_tails [] text).mpr (List.nil_suffix), rfl⟩
  | cons char rest ih =>
      rw [List.flatMap_cons, List.append_assoc, like_quoted apart]
      cases text with
      | nil => simp [literal, BeginsAnyCase]
      | cons first others =>
          simp only [literal, Bool.and_eq_true, ih, alike, decide_eq_true_eq, BeginsAnyCase,
            List.map_cons]
          exact (List.cons_prefix_cons).symm

example : like '\\' "t\\_%".toList "T_1".toList = true := by decide

end Relay.SqlLike

/-
Streams that arrive in chunks.  A reader at some position of the stream sees
the rest of the chunk it is in and then the chunks that come; moving on does
not depend on the steps it is made in.
-/
import Mathlib.Data.List.Basic

namespace Chunks

universe u

variable {α : Type u}

/-- The chunks left when this much of the stream has been read.  Chunks that
are used up are gone. -/
def advance : Nat → List (List α) → List (List α)
  | _, [] => []
  | n, c :: cs =>
      if n < c.length then c.drop n :: cs else advance (n - c.length) cs

@[simp] theorem advance_nil (n : Nat) : advance n ([] : List (List α)) = [] :=
  rfl

theorem advance_cons_of_lt {n : Nat} {c : List α} (h : n < c.length)
    (cs : List (List α)) : advance n (c :: cs) = c.drop n :: cs := by
  rw [advance, if_pos h]

theorem advance_cons_of_le {n : Nat} {c : List α} (h : c.length ≤ n)
    (cs : List (List α)) : advance n (c :: cs) = advance (n - c.length) cs := by
  rw [advance, if_neg (Nat.not_lt.2 h)]

@[simp] theorem flatten_advance (n : Nat) (cs : List (List α)) :
    (advance n cs).flatten = cs.flatten.drop n := by
  induction cs generalizing n with
  | nil => simp
  | cons c cs ih =>
      by_cases h : n < c.length
      · rw [advance_cons_of_lt h, List.flatten_cons, List.flatten_cons,
          List.drop_append_of_le_length (Nat.le_of_lt h)]
      · have hle := Nat.not_lt.1 h
        rw [advance_cons_of_le hle, ih, List.flatten_cons, List.drop_append,
          List.drop_eq_nil_of_le hle, List.nil_append]

theorem advance_advance (m n : Nat) (cs : List (List α)) :
    advance m (advance n cs) = advance (n + m) cs := by
  induction cs generalizing n with
  | nil => rfl
  | cons c cs ih =>
      by_cases h : n < c.length
      · rw [advance_cons_of_lt h]
        by_cases hm : n + m < c.length
        · rw [advance_cons_of_lt hm, advance_cons_of_lt (by
            rw [List.length_drop]
            omega), List.drop_drop]
        · rw [advance_cons_of_le (Nat.not_lt.1 hm), advance_cons_of_le (by
            rw [List.length_drop]
            omega), List.length_drop]
          exact congrArg (advance · cs) (by omega)
      · have hle := Nat.not_lt.1 h
        rw [advance_cons_of_le hle, ih, advance_cons_of_le (by omega)]
        exact congrArg (advance · cs) (by omega)

/-- A chunk that has been read in part, or used up. -/
theorem advance_zero_drop {n : Nat} {c : List α} (h : n ≤ c.length)
    (cs : List (List α)) :
    advance 0 (c.drop n :: cs) = advance n (c :: cs) := by
  rcases Nat.lt_or_eq_of_le h with hlt | rfl
  · rw [advance_cons_of_lt hlt, advance_cons_of_lt (by
      rw [List.length_drop]
      omega), List.drop_zero]
  · rw [List.drop_length, advance_cons_of_le (Nat.zero_le 0),
      advance_cons_of_le (Nat.le_refl _), Nat.sub_self, List.length_nil]

theorem advance_zero {cs : List (List α)} (h : ∀ c ∈ cs, c ≠ []) :
    advance 0 cs = cs := by
  cases cs with
  | nil => rfl
  | cons c cs =>
      have hpos := List.length_pos_iff.2 (h c List.mem_cons_self)
      rw [advance_cons_of_lt hpos, List.drop_zero]

end Chunks

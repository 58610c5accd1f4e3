/-
A walk over the positions a list has when the walk begins, by a body that may
shorten the list on the way: the walk goes on to the old end, and reading a
position the list no longer has is a fault.
-/
import Mathlib.Data.List.Basic

namespace Sweep

universe u v

variable {A : Type u} {E : Type v}

/-- `turns` more positions, from `i` on; the list left and what was emitted,
or `none` after a read outside the list. -/
def sweep (body : A → List A → List A × List E) :
    Nat → Nat → List A → Option (List A × List E)
  | 0, _, xs => some (xs, [])
  | turns + 1, i, xs =>
      match xs[i]? with
      | none => none
      | some a =>
          (sweep body turns (i + 1) (body a xs).1).map fun r =>
            (r.1, (body a xs).2 ++ r.2)

variable {body : A → List A → List A × List E}

/-- A list that has become too short for the positions to come stays so. -/
theorem sweep_of_short (hbody : ∀ a xs, (body a xs).1.length ≤ xs.length)
    {turns i : Nat} {xs : List A} (hturns : 0 < turns)
    (hshort : xs.length < i + turns) : sweep body turns i xs = none := by
  induction turns generalizing i xs with
  | zero => exact absurd hturns (Nat.lt_irrefl 0)
  | succ turns ih =>
      rw [sweep]
      cases hread : xs[i]? with
      | none => rfl
      | some a =>
          have hinside : i < xs.length := (List.getElem?_eq_some_iff.1 hread).1
          have hless := hbody a xs
          simp only [Option.map_eq_none_iff]
          apply ih
          · omega
          · omega

/-- The elements the body leaves the list alone for are passed over. -/
theorem sweep_of_still {before : List A} {a : A} {after : List A}
    (hstill : body a (before ++ a :: after) = (before ++ a :: after, [])) :
    sweep body (a :: after).length before.length (before ++ a :: after) =
      sweep body after.length (before ++ [a]).length
        ((before ++ [a]) ++ after) := by
  rw [List.length_cons, sweep, List.getElem?_append_right (Nat.le_refl _),
    Nat.sub_self, List.getElem?_cons_zero]
  simp [hstill]

/-- Unless it is at the last position, an element the body shortens the list
for leads the walk out of the list. -/
theorem sweep_of_shortens (hbody : ∀ a xs, (body a xs).1.length ≤ xs.length)
    {before : List A} {a : A} {after : List A}
    (hless : (body a (before ++ a :: after)).1.length <
      (before ++ a :: after).length) :
    sweep body (a :: after).length before.length (before ++ a :: after) =
      if after = [] then some (body a (before ++ a :: after)) else none := by
  rw [List.length_cons, sweep, List.getElem?_append_right (Nat.le_refl _),
    Nat.sub_self, List.getElem?_cons_zero]
  cases after with
  | nil => simp [sweep]
  | cons next after =>
      have hnone : sweep body (next :: after).length (before.length + 1)
          (body a (before ++ a :: next :: after)).1 = none := by
        apply sweep_of_short hbody
        · exact Nat.zero_lt_succ _
        · simp only [List.length_append, List.length_cons] at hless ⊢
          omega
      simp only [hnone, Option.map_none, reduceCtorEq, ↓reduceIte]

end Sweep

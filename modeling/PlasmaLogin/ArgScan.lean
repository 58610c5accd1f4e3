/-
Searching an argument list for an option word and the value behind its first
occurrence, as a decoder without a grammar does it.
-/
import Mathlib.Data.List.Basic

namespace ArgScan

universe u

variable {A : Type u} [DecidableEq A]

/-- What a search for an option word finds: nothing, the word at the very end
of the list, or the element behind its first occurrence. -/
inductive Found (A : Type u) where
  | absent
  | dangling
  | value (v : A)
deriving DecidableEq, Repr

/-- Position of the first occurrence, then the element behind it. -/
def find (word : A) (args : List A) : Found A :=
  match args.idxOf? word with
  | none => .absent
  | some pos =>
      match args[pos + 1]? with
      | none => .dangling
      | some v => .value v

@[simp] theorem find_nil (word : A) : find word [] = .absent := rfl

@[simp] theorem find_cons_of_ne {word x : A} (hx : x ≠ word)
    (args : List A) : find word (x :: args) = find word args := by
  rw [find, find, List.idxOf?_cons, if_neg (by simpa using hx)]
  cases args.idxOf? word <;> rfl

@[simp] theorem find_cons_self (word v : A) (args : List A) :
    find word (word :: v :: args) = .value v := by
  simp [find, List.idxOf?_cons]

@[simp] theorem find_singleton_self (word : A) :
    find word [word] = .dangling := by
  simp [find]

theorem find_append_of_not_mem {word : A} {front : List A}
    (hfront : word ∉ front) (rest : List A) :
    find word (front ++ rest) = find word rest := by
  induction front with
  | nil => rfl
  | cons x front ih =>
      simp only [List.mem_cons, not_or] at hfront
      rw [List.cons_append, find_cons_of_ne (Ne.symm hfront.1), ih hfront.2]

theorem find_of_not_mem {word : A} {args : List A} (hargs : word ∉ args) :
    find word args = .absent := by
  simpa using find_append_of_not_mem hargs []

end ArgScan

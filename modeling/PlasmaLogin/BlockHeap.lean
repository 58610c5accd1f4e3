/-
A heap of numbered blocks.  A block that has been released is gone: to read,
write or release it again is a fault, so a program that ends without one has
released nothing twice.
-/
import Mathlib.Data.List.Basic

namespace BlockHeap

universe u

variable {κ : Type u}

/-- The blocks by number; a number is used once. -/
structure Heap (κ : Type u) where
  blocks : List (Option κ)

namespace Heap

/-- The number the next block gets. -/
def next (h : Heap κ) : Nat := h.blocks.length

def alloc (content : κ) (h : Heap κ) : Heap κ := ⟨h.blocks ++ [some content]⟩

/-- The content of a block that is there. -/
def read (p : Nat) (h : Heap κ) : Option κ := (h.blocks[p]?).join

def write (p : Nat) (content : κ) (h : Heap κ) : Option (Heap κ) :=
  if (h.read p).isSome then some ⟨h.blocks.set p (some content)⟩ else none

def free (p : Nat) (h : Heap κ) : Option (Heap κ) :=
  if (h.read p).isSome then some ⟨h.blocks.set p none⟩ else none

/-- Nothing is left of the blocks from a number on. -/
def Released (first : Nat) (h : Heap κ) : Prop :=
  ∀ p, first ≤ p → h.read p = none

/-- The blocks below a number are what they were. -/
def SameBelow (first : Nat) (h h' : Heap κ) : Prop :=
  ∀ p, p < first → h'.read p = h.read p

@[simp] theorem next_alloc (content : κ) (h : Heap κ) :
    (h.alloc content).next = h.next + 1 := by
  rw [next, alloc, List.length_append]
  rfl

theorem read_of_next_le {h : Heap κ} {p : Nat} (hp : h.next ≤ p) :
    h.read p = none := by
  rw [read, List.getElem?_eq_none hp]
  rfl

theorem read_alloc (content : κ) (h : Heap κ) (p : Nat) :
    (h.alloc content).read p =
      if p = h.next then some content else h.read p := by
  unfold read alloc next
  by_cases hp : p < h.blocks.length
  · rw [List.getElem?_append_left hp, if_neg (Nat.ne_of_lt hp)]
  · rw [List.getElem?_append_right (Nat.le_of_not_lt hp)]
    by_cases heq : p = h.blocks.length
    · subst heq
      simp
    · rw [if_neg heq, List.getElem?_eq_none (l := [some content])
        (by simp only [List.length_singleton]; omega),
        List.getElem?_eq_none (Nat.le_of_not_lt hp)]

theorem lt_next_of_read {h : Heap κ} {p : Nat} {content : κ}
    (hp : h.read p = some content) : p < h.next := by
  by_contra hlt
  rw [read_of_next_le (Nat.le_of_not_lt hlt)] at hp
  exact absurd hp (by simp)

theorem read_set {h : Heap κ} {p : Nat} (hp : p < h.next) (block : Option κ)
    (q : Nat) : (Heap.mk (h.blocks.set p block)).read q =
      if q = p then block else h.read q := by
  unfold read
  rw [List.getElem?_set]
  by_cases heq : q = p
  · subst heq
    rw [next] at hp
    simp [hp]
  · rw [if_neg (Ne.symm heq), if_neg heq]

/-- Writing a block that is there. -/
theorem exists_write {h : Heap κ} {p : Nat} {content : κ}
    (hp : h.read p = some content) (content' : κ) :
    ∃ h', h.write p content' = some h' ∧ h'.next = h.next ∧
      ∀ q, h'.read q = if q = p then some content' else h.read q := by
  refine ⟨⟨h.blocks.set p (some content')⟩, by simp [write, hp], ?_,
    read_set (lt_next_of_read hp) _⟩
  rw [next, next, List.length_set]

/-- Releasing a block that is there. -/
theorem exists_free {h : Heap κ} {p : Nat} {content : κ}
    (hp : h.read p = some content) :
    ∃ h', h.free p = some h' ∧ h'.next = h.next ∧
      ∀ q, h'.read q = if q = p then none else h.read q := by
  refine ⟨⟨h.blocks.set p none⟩, by simp [free, hp], ?_,
    read_set (lt_next_of_read hp) _⟩
  rw [next, next, List.length_set]

end Heap

end BlockHeap

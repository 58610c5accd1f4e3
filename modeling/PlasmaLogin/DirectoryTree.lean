/-
Finite directory trees.  A directory is the list of its entries, itself and its
parent among them; an entry is found by the names on the way to it.
-/
import Mathlib.Data.List.Basic

namespace DirectoryTree

universe u

inductive FileKind where
  | file
  | link
  | dir
deriving DecidableEq

/-- What reading a directory yields, in any order; `self` and `parent` are the
entries that lead back. -/
inductive Listing (N : Type u) where
  | nil
  | self (rest : Listing N)
  | parent (rest : Listing N)
  | file (name : N) (rest : Listing N)
  | link (name : N) (rest : Listing N)
  | dir (name : N) (entries rest : Listing N)

namespace Listing

variable {N : Type u}

/-- The names in the directory itself. -/
def names : Listing N → List N
  | .nil => []
  | .self rest | .parent rest => rest.names
  | .file name rest | .link name rest | .dir name _ rest =>
      name :: rest.names

/-- There is an entry of that kind at that path. -/
def Has : Listing N → List N → FileKind → Prop
  | .nil, _, _ => False
  | .self rest, p, k | .parent rest, p, k => rest.Has p k
  | .file name rest, p, k => (p = [name] ∧ k = .file) ∨ rest.Has p k
  | .link name rest, p, k => (p = [name] ∧ k = .link) ∨ rest.Has p k
  | .dir name entries rest, p, k =>
      (p = [name] ∧ k = .dir) ∨ (∃ q, p = name :: q ∧ entries.Has q k) ∨
        rest.Has p k

/-- No directory has two entries of one name. -/
def Distinct : Listing N → Prop
  | .nil => True
  | .self rest | .parent rest => rest.Distinct
  | .file name rest | .link name rest => name ∉ rest.names ∧ rest.Distinct
  | .dir name entries rest =>
      name ∉ rest.names ∧ entries.Distinct ∧ rest.Distinct

theorem Has.head_mem {l : Listing N} {p : List N} {k : FileKind}
    (h : l.Has p k) : ∃ name q, p = name :: q ∧ name ∈ l.names := by
  induction l with
  | nil => exact h.elim
  | self rest ih => exact ih h
  | parent rest ih => exact ih h
  | file name rest ih =>
      rcases h with ⟨rfl, _⟩ | h
      · exact ⟨name, [], rfl, List.mem_cons_self⟩
      · obtain ⟨first, q, hp, hmem⟩ := ih h
        exact ⟨first, q, hp, List.mem_cons_of_mem _ hmem⟩
  | link name rest ih =>
      rcases h with ⟨rfl, _⟩ | h
      · exact ⟨name, [], rfl, List.mem_cons_self⟩
      · obtain ⟨first, q, hp, hmem⟩ := ih h
        exact ⟨first, q, hp, List.mem_cons_of_mem _ hmem⟩
  | dir name entries rest _ ih =>
      rcases h with ⟨rfl, _⟩ | ⟨q, rfl, _⟩ | h
      · exact ⟨name, [], rfl, List.mem_cons_self⟩
      · exact ⟨name, q, rfl, List.mem_cons_self⟩
      · obtain ⟨first, q, hp, hmem⟩ := ih h
        exact ⟨first, q, hp, List.mem_cons_of_mem _ hmem⟩

theorem Has.ne_nil {l : Listing N} {p : List N} {k : FileKind}
    (h : l.Has p k) : p ≠ [] := by
  obtain ⟨name, q, rfl, _⟩ := h.head_mem
  exact List.cons_ne_nil name q

/-- An entry behind another one has another name. -/
theorem Has.not_head {l : Listing N} {name : N} {q : List N} {k : FileKind}
    (hname : name ∉ l.names) : ¬ l.Has (name :: q) k := by
  intro h
  obtain ⟨first, q', heq, hmem⟩ := h.head_mem
  rw [List.cons.injEq] at heq
  exact hname (heq.1 ▸ hmem)

/-- At a path there is one entry. -/
theorem Has.unique {l : Listing N} (hl : l.Distinct) {p : List N}
    {k k' : FileKind} (h : l.Has p k) (h' : l.Has p k') : k = k' := by
  induction l generalizing p with
  | nil => exact h.elim
  | self rest ih => exact ih hl h h'
  | parent rest ih => exact ih hl h h'
  | file name rest ih =>
      rcases h with ⟨rfl, rfl⟩ | h <;> rcases h' with ⟨hp, rfl⟩ | h'
      · rfl
      · exact absurd h' (Has.not_head hl.1)
      · exact absurd (hp ▸ h) (Has.not_head hl.1)
      · exact ih hl.2 h h'
  | link name rest ih =>
      rcases h with ⟨rfl, rfl⟩ | h <;> rcases h' with ⟨hp, rfl⟩ | h'
      · rfl
      · exact absurd h' (Has.not_head hl.1)
      · exact absurd (hp ▸ h) (Has.not_head hl.1)
      · exact ih hl.2 h h'
  | dir name entries rest ihe ih =>
      rcases h with ⟨rfl, rfl⟩ | ⟨q, rfl, h⟩ | h
      · rcases h' with ⟨_, rfl⟩ | ⟨q, hq, h'⟩ | h'
        · rfl
        · exact absurd (List.cons.inj hq).2.symm h'.ne_nil
        · exact absurd h' (Has.not_head hl.1)
      · rcases h' with ⟨hq, _⟩ | ⟨q', hq, h'⟩ | h'
        · exact absurd (List.cons.inj hq).2 h.ne_nil
        · rw [(List.cons.inj hq).2] at h
          exact ihe hl.2.1 h h'
        · exact absurd h' (Has.not_head hl.1)
      · rcases h' with ⟨rfl, _⟩ | ⟨q, rfl, _⟩ | h'
        · exact absurd h (Has.not_head hl.1)
        · exact absurd h (Has.not_head hl.1)
        · exact ih hl.2.2 h h'

end Listing

/-- A directory tree: in every directory each name is there once. -/
structure DirTree (N : Type u) where
  entries : Listing N
  distinct : entries.Distinct

end DirectoryTree

/-
The rank of an element in a list by a key: how many elements have a smaller
key.  Where no key occurs twice, the ranks number the elements.
-/
import Mathlib.Data.List.Count
import Mathlib.Data.List.Nodup
import Mathlib.Data.List.Perm.Subperm
import Mathlib.Data.List.Range

namespace Rank

universe u v

variable {A : Type u} {K : Type v} [LE K] [LT K] [DecidableLT K]

def rank (key : A → K) (l : List A) (a : A) : Nat :=
  l.countP fun b => key b < key a

variable [Std.IsLinearOrder K] [Std.LawfulOrderLT K] {key : A → K} {l : List A}

omit [Std.IsLinearOrder K] in
theorem rank_lt_length {a : A} (ha : a ∈ l) : rank key l a < l.length := by
  apply List.countP_lt_length_iff.2
  exact ⟨a, ha, by simp [Std.lt_irrefl]⟩

/-- A smaller key has a smaller rank. -/
theorem rank_lt_rank {a b : A} (ha : a ∈ l) (hless : key a < key b) :
    rank key l a < rank key l b := by
  obtain ⟨before, after, rfl⟩ := List.append_of_mem ha
  have hpart : ∀ part : List A, (part.countP fun c => key c < key a) ≤
      part.countP fun c => key c < key b := by
    intro part
    apply List.countP_mono_left
    intro c _ hc
    simp only [decide_eq_true_eq] at hc ⊢
    exact Std.lt_trans hc hless
  have hbefore := hpart before
  have hafter := hpart after
  simp only [rank, List.countP_append, List.countP_cons, Std.lt_irrefl, hless,
    decide_true, decide_false, Bool.false_eq_true, ↓reduceIte]
  omega

theorem key_eq_of_rank_eq {a b : A} (ha : a ∈ l) (hb : b ∈ l)
    (hrank : rank key l a = rank key l b) : key a = key b := by
  apply Std.le_antisymm
  · apply Std.not_lt.1
    intro hless
    exact absurd (rank_lt_rank hb hless) (by omega)
  · apply Std.not_lt.1
    intro hless
    exact absurd (rank_lt_rank ha hless) (by omega)

/-- The elements are numbered from one on by their keys. -/
theorem map_rank_perm (hkeys : (l.map key).Nodup) :
    (l.map fun a => 1 + rank key l a).Perm (List.range' 1 l.length) := by
  have hnodup : (l.map fun a => 1 + rank key l a).Nodup := by
    apply List.Nodup.map_on
    · intro a ha b hb heq
      have hkey : key a = key b := key_eq_of_rank_eq ha hb (by omega)
      exact List.inj_on_of_nodup_map hkeys ha hb hkey
    · exact hkeys.of_map
  apply List.Subperm.perm_of_length_le
  · apply List.subperm_of_subset hnodup
    intro n hn
    obtain ⟨a, ha, rfl⟩ := List.mem_map.1 hn
    have hless : rank key l a < l.length := rank_lt_length ha
    rw [List.mem_range'_1]
    omega
  · simp

end Rank

/-
Loops that go on as long as a condition holds.  A loop that comes nearer to an
end with every turn ends; one with an invariant that implies its condition goes
on for ever.
-/
import Mathlib.Order.Basic

namespace WhileLoop

universe u

variable {S : Type u}

/-- The state behind the loop, if that many turns are enough. -/
def run (guard : S → Bool) (body : S → S) : Nat → S → Option S
  | 0, s => if guard s then none else some s
  | turns + 1, s => if guard s then run guard body turns (body s) else some s

def Ends (guard : S → Bool) (body : S → S) (s : S) : Prop :=
  ∃ turns, (run guard body turns s).isSome = true

variable {guard : S → Bool} {body : S → S} {s t : S}

theorem run_of_not (h : guard s = false) (turns : Nat) :
    run guard body turns s = some s := by
  cases turns <;> simp [run, h]

theorem run_succ_of_guard (h : guard s = true) (turns : Nat) :
    run guard body (turns + 1) s = run guard body turns (body s) := by
  simp [run, h]

/-- More turns than are needed make no difference. -/
theorem run_mono {turns turns' : Nat} (hle : turns ≤ turns')
    (h : run guard body turns s = some t) :
    run guard body turns' s = some t := by
  induction turns generalizing s turns' with
  | zero =>
      rw [run, Option.ite_none_left_eq_some, Bool.not_eq_true] at h
      rw [run_of_not h.1, h.2]
  | succ turns ih =>
      obtain ⟨more, rfl⟩ := Nat.exists_eq_add_of_le hle
      cases hguard : guard s with
      | false =>
          rw [run_of_not hguard] at h
          rw [run_of_not hguard, h]
      | true =>
          rw [run_succ_of_guard hguard] at h
          rw [Nat.succ_add, run_succ_of_guard hguard]
          exact ih (Nat.le_add_right turns more) h

/-- The loop ends in that state. -/
def EndsIn (guard : S → Bool) (body : S → S) (s t : S) : Prop :=
  ∃ turns, run guard body turns s = some t

theorem EndsIn.of_not (h : guard s = false) : EndsIn guard body s s :=
  ⟨0, run_of_not h 0⟩

theorem EndsIn.turn (hguard : guard s = true)
    (h : EndsIn guard body (body s) t) : EndsIn guard body s t := by
  obtain ⟨turns, hrun⟩ := h
  exact ⟨turns + 1, by rwa [run_succ_of_guard hguard]⟩

theorem EndsIn.unique {t' : S} (h : EndsIn guard body s t)
    (h' : EndsIn guard body s t') : t = t' := by
  obtain ⟨turns, hrun⟩ := h
  obtain ⟨turns', hrun'⟩ := h'
  have hall := run_mono (Nat.le_max_left turns turns') hrun
  rw [run_mono (Nat.le_max_right turns turns') hrun'] at hall
  exact (Option.some.inj hall).symm

/-- The variant rule. -/
theorem ends_of_variant {I : S → Prop} (variant : S → Nat)
    (hturn : ∀ s, I s → guard s = true →
      I (body s) ∧ variant (body s) < variant s) (hs : I s) :
    Ends guard body s := by
  induction hmeasure : variant s using Nat.strongRecOn generalizing s with
  | ind n ih =>
      cases hguard : guard s with
      | false => exact ⟨0, by rw [run_of_not hguard]; rfl⟩
      | true =>
          obtain ⟨hbody, hless⟩ := hturn s hs hguard
          obtain ⟨turns, hends⟩ := ih _ (hmeasure ▸ hless) hbody rfl
          exact ⟨turns + 1, by rwa [run_succ_of_guard hguard]⟩

/-- The rule of endless loops. -/
theorem not_ends_of_invariant {I : S → Prop}
    (hguard : ∀ s, I s → guard s = true) (hbody : ∀ s, I s → I (body s))
    (hs : I s) : ¬ Ends guard body s := by
  rintro ⟨turns, hends⟩
  induction turns generalizing s with
  | zero => simp [run, hguard s hs] at hends
  | succ turns ih =>
      rw [run_succ_of_guard (hguard s hs)] at hends
      exact ih (hbody s hs) hends

end WhileLoop

/-
Replicas that are kept up to date by messages.  What the messages on their way
will make of a replica is as good as its state: sending a message changes
what it will be, and a delivery in order does not.
-/
import Mathlib.Data.List.Basic

namespace Inflight

universe u v w

variable {M : Type u} {V : Type v} {W : Type w}

/-- What a replica will be once the messages have arrived in order. -/
def future (act : M → V → V) (v : V) (l : List M) : V :=
  l.foldl (fun v m => act m v) v

/-- The message means nothing to the replica. -/
def Silent (act : M → V → V) (m : M) : Prop := ∀ v, act m v = v

@[simp] theorem future_nil (act : M → V → V) (v : V) :
    future act v [] = v := rfl

@[simp] theorem future_cons (act : M → V → V) (v : V) (m : M) (l : List M) :
    future act v (m :: l) = future act (act m v) l := rfl

theorem future_append (act : M → V → V) (v : V) (l l' : List M) :
    future act v (l ++ l') = future act (future act v l) l' :=
  List.foldl_append

/-- The rule for sending. -/
theorem future_concat (act : M → V → V) (v : V) (l : List M) (m : M) :
    future act v (l ++ [m]) = act m (future act v l) :=
  future_append act v l [m]

theorem future_of_silent {act : M → V → V} {l : List M}
    (h : ∀ m ∈ l, Silent act m) (v : V) : future act v l = v := by
  induction l with
  | nil => rfl
  | cons m l ih =>
      rw [List.forall_mem_cons] at h
      rw [future_cons, h.1]
      exact ih h.2

/-- The rule for delivery: a message may overtake those that mean nothing to
the replica. -/
theorem future_deliver {act : M → V → V} {l : List M}
    (h : ∀ m ∈ l, Silent act m) (v : V) (m : M) (l' : List M) :
    future act v (l ++ m :: l') = future act (act m v) (l ++ l') := by
  rw [future_append, future_append, future_of_silent h, future_of_silent h,
    future_cons]

/-- A message that means nothing to the replica may be delivered any time. -/
theorem future_skip {act : M → V → V} {m : M} (h : Silent act m) (v : V)
    (l l' : List M) :
    future act v (l ++ m :: l') = future act v (l ++ l') := by
  rw [future_append, future_append, future_cons, h]

/-- What every message keeps between two replicas is kept. -/
theorem future_related {act : M → V → V} {act' : M → W → W} {R : V → W → Prop}
    {l : List M} (hact : ∀ m ∈ l, ∀ v w, R v w → R (act m v) (act' m w))
    {v : V} {w : W} (h : R v w) : R (future act v l) (future act' w l) := by
  induction l generalizing v w with
  | nil => exact h
  | cons m l ih =>
      rw [List.forall_mem_cons] at hact
      exact ih hact.2 (hact.1 v w h)

/-- A replica for which only the last message counts: that one is still on its
way, or the replica shows it. -/
def Latest (P : W → Option M → Prop) (w : W) (l : List M) (sent : Option M) :
    Prop :=
  match l.getLast? with
  | some m => sent = some m
  | none => P w sent

section latest

variable {P : W → Option M → Prop} {w w' : W} {l : List M} {m : M}
  {sent : Option M}

theorem latest_nil : Latest P w [] sent ↔ P w sent := Iff.rfl

/-- What is sent overrides all that was sent before. -/
theorem latest_concat : Latest P w (l ++ [m]) (some m) := by
  rw [Latest, List.getLast?_concat]

theorem Latest.deliver (h : Latest P w (m :: l) sent) (hm : P w' (some m)) :
    Latest P w' l sent := by
  cases l with
  | nil =>
      have hsent : sent = some m := h
      rw [latest_nil, hsent]
      exact hm
  | cons m' l =>
      rw [Latest, List.getLast?_cons_cons] at h
      exact h

theorem Latest.imp (h : Latest P w l sent) (hP : P w sent → P w' sent) :
    Latest P w' l sent := by
  cases l with
  | nil => exact hP h
  | cons m l => exact h

end latest

/-- A message that is delivered, with those before and after it. -/
theorem eq_take_append_drop {l : List M} {k : Nat} {m : M}
    (h : l[k]? = some m) :
    l = l.take k ++ m :: l.drop (k + 1) := by
  obtain ⟨hk, rfl⟩ := List.getElem?_eq_some_iff.1 h
  rw [← List.drop_eq_getElem_cons hk, List.take_append_drop]

end Inflight

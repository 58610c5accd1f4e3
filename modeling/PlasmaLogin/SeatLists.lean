/-
The lists of `SeatManager` and `DisplayManager` as long as no seat is in them
twice.
-/
import PlasmaLogin.SeatManager

namespace PlasmaLogin

namespace DisplayManager

/-- No entry of that name among `turns` elements from `i` on. -/
def NoneNamed (name : QString) (turns i : Nat)
    (array : List DisplayManagerSeat) : Prop :=
  ∀ j < turns, ∀ seat, array[i + j]? = some seat → seat.name ≠ name

/-- The loop passes by the entries of other names. -/
theorem removeLoop_of_noneNamed {name : QString} {first : Nat}
    (turns : Nat) {i : Nat} {array : List DisplayManagerSeat} (size : Nat)
    (hlength : i + first ≤ array.length)
    (h : NoneNamed name first i array) :
    removeLoop name (first + turns) i (array, size) =
      removeLoop name turns (i + first) (array, size) := by
  induction first generalizing i with
  | zero => simp
  | succ n ih =>
      have hi : i < array.length := by omega
      have hseat := h 0 (by omega) array[i] (by simp [hi])
      have hrest : NoneNamed name n (i + 1) array := by
        intro j hj seat hget
        exact h (j + 1) (by omega) seat (by rwa [Nat.add_comm j 1,
          ← Nat.add_assoc])
      rw [Nat.add_right_comm n 1 turns, removeLoop]
      simp only [List.getElem?_eq_getElem hi, if_neg hseat]
      rw [ih (by omega) hrest, Nat.add_assoc, Nat.add_comm 1 n]

/-- A loop that finds nothing leaves the list as it is. -/
theorem removeLoop_eq_self {name : QString} {turns i : Nat}
    {array : List DisplayManagerSeat} (size : Nat)
    (hlength : i + turns ≤ array.length) (h : NoneNamed name turns i array) :
    removeLoop name turns i (array, size) = (array, size) :=
  removeLoop_of_noneNamed 0 size hlength h

theorem filter_name_ne {name : QString} {l : List DisplayManagerSeat}
    (h : ∀ s ∈ l, s.name ≠ name) : l.filter (fun s => s.name ≠ name) = l :=
  List.filter_eq_self.2 fun s hs => decide_eq_true (h s hs)

/-- The loop finds one entry.  The element it skips by moving the list and
the old one behind its end have other names. -/
theorem removeLoop_of_found {name : QString} {l₁ l₂ : List DisplayManagerSeat}
    {seat : DisplayManagerSeat} (hname : seat.name = name)
    (h₁ : ∀ s ∈ l₁, s.name ≠ name) (h₂ : ∀ s ∈ l₂, s.name ≠ name) :
    ∃ rest, removeLoop name (l₁ ++ seat :: l₂).length 0
        (l₁ ++ seat :: l₂, (l₁ ++ seat :: l₂).length) =
      (l₁ ++ l₂ ++ rest, (l₁ ++ l₂).length) := by
  have hturns : (l₁ ++ seat :: l₂).length = l₁.length + (l₂.length + 1) := by
    simp
  have hpast : NoneNamed name l₁.length 0 (l₁ ++ seat :: l₂) := by
    intro j hj s hget
    rw [Nat.zero_add, List.getElem?_append_left hj] at hget
    exact h₁ s (List.mem_of_getElem? hget)
  have hother : ∀ {l : List DisplayManagerSeat}, (∀ s ∈ l, s.name ≠ name) →
      l.filter (fun s => s ≠ seat) = l := by
    intro l h
    refine List.filter_eq_self.2 fun s hs => decide_eq_true ?_
    rintro rfl
    exact h s hs hname
  have hkept : ((l₁ ++ seat :: l₂).take (l₁ ++ seat :: l₂).length).filter
      (fun s => s ≠ seat) = l₁ ++ l₂ := by
    rw [List.take_length, List.filter_append, List.filter_cons, hother h₁,
      hother h₂, if_neg (by simp)]
  have hdrop : (l₁ ++ seat :: l₂).drop (l₁ ++ l₂).length =
      (seat :: l₂).drop l₂.length := by
    rw [List.length_append, ← List.drop_drop, List.drop_left]
  refine ⟨(seat :: l₂).drop l₂.length, ?_⟩
  conv_lhs => rw [hturns]
  rw [removeLoop_of_noneNamed _ _ (by simp) hpast, Nat.zero_add, removeLoop]
  simp only [List.getElem?_append_right (Nat.le_refl _), Nat.sub_self,
    List.getElem?_cons_zero, if_pos hname, ← hturns, hkept, hdrop]
  apply removeLoop_eq_self
  · simp
    omega
  · intro j hj s hget
    rw [List.append_assoc, List.getElem?_append_right (by omega)] at hget
    have hmem := List.mem_of_getElem? hget
    cases l₂ with
    | nil => simp at hj
    | cons s₂ l₂ =>
        rw [List.length_cons, List.drop_succ_cons, List.mem_append] at hmem
        exact h₂ s (hmem.elim id List.mem_of_mem_drop)

/-- Where no name is in the list twice, the loop leaves out the one entry it
looks for and no other. -/
theorem removeSeat_seats {m : DisplayManager} (name : QString)
    (h : (m.seats.map DisplayManagerSeat.name).Nodup) :
    (m.removeSeat name).seats = m.seats.filter fun s => s.name ≠ name := by
  by_cases hfound : ∃ seat ∈ m.seats, seat.name = name
  · obtain ⟨seat, hseat, hname⟩ := hfound
    obtain ⟨l₁, l₂, hl⟩ := List.append_of_mem hseat
    rw [hl, List.map_append, List.map_cons, List.nodup_append,
      List.nodup_cons] at h
    obtain ⟨_, ⟨hnot₂, _⟩, hdisjoint⟩ := h
    have h₁ : ∀ s ∈ l₁, s.name ≠ name := by
      rintro s hs rfl
      exact hdisjoint s.name (List.mem_map_of_mem hs) seat.name
        List.mem_cons_self hname.symm
    have h₂ : ∀ s ∈ l₂, s.name ≠ name := by
      rintro s hs rfl
      exact hnot₂ (hname ▸ List.mem_map_of_mem hs)
    obtain ⟨rest, hloop⟩ := removeLoop_of_found hname h₁ h₂
    have hremoved : (m.removeSeat name).seats = l₁ ++ l₂ := by
      simp only [removeSeat, hl, hloop, List.take_left']
    rw [hremoved, hl, List.filter_append, List.filter_cons, filter_name_ne h₁,
      filter_name_ne h₂, if_neg (by simp [hname])]
  · simp only [not_exists, not_and] at hfound
    have hnone : NoneNamed name m.seats.length 0 m.seats :=
      fun j _ s hget => hfound s (List.mem_of_getElem? hget)
    rw [filter_name_ne hfound]
    simp only [removeSeat, removeLoop_eq_self _ (Nat.zero_add _).le hnone,
      List.take_length]

theorem map_name_filter (name : QString) (l : List DisplayManagerSeat) :
    (l.filter fun s => s.name ≠ name).map DisplayManagerSeat.name =
      (l.map DisplayManagerSeat.name).filter fun n => n ≠ name := by
  rw [List.filter_map]
  rfl

end DisplayManager

namespace SeatManager

/-- One `Seat` is alive and one entry is listed for each seat that is held,
and there are no others. -/
def Once (m : SeatManager) : Prop :=
  ∀ name,
    m.alive.count name = (if name ∈ m.seats then 1 else 0) ∧
    (m.manager.seats.map DisplayManagerSeat.name).count name =
      if name ∈ m.seats then 1 else 0

theorem Once.nodup {m : SeatManager} (h : m.Once) :
    (m.manager.seats.map DisplayManagerSeat.name).Nodup := by
  apply List.nodup_iff_count_le_one.2
  intro name
  rw [(h name).2]
  split <;> omega

theorem Once.createSeat {m : SeatManager} (h : m.Once) {name : QString}
    (hnew : name ∉ m.seats) : (m.createSeat name).Once := by
  intro n
  have hn := h n
  by_cases heq : n = name
  · subst heq
    rw [if_neg hnew] at hn
    simp [SeatManager.createSeat, DisplayManager.addSeat, hn.1, hn.2]
  · have hne : name ≠ n := Ne.symm heq
    simpa [SeatManager.createSeat, DisplayManager.addSeat, heq, hne] using hn

theorem Once.removeSeat {m : SeatManager} (h : m.Once) (name : QString) :
    (m.removeSeat name).Once := by
  unfold SeatManager.removeSeat
  split
  next hheld =>
    intro n
    have hn := h n
    simp only [DisplayManager.removeSeat_seats name h.nodup,
      DisplayManager.map_name_filter]
    by_cases heq : n = name
    · subst heq
      rw [if_pos hheld] at hn
      rw [List.count_erase_self, hn.1, List.count_eq_zero.2 (by simp)]
      simp
    · rw [List.count_erase_of_ne heq,
        List.count_filter (by simpa using heq), hn.1, hn.2]
      simp [heq]
  next => exact h

end SeatManager

end PlasmaLogin

/-
`DisplayManager::RemoveSeat` and `DisplayManager::RemoveSession`.  Both shorten
the list they loop over, and the loop keeps the end the list had before.
-/
import PlasmaLogin.Greeter
import PlasmaLogin.SeatManager
import PlasmaLogin.Sweep

namespace PlasmaLogin

open Sweep

/-- `DisplayManagerSeat::Path`. -/
def DisplayManagerSeat.path (s : DisplayManagerSeat) : QString :=
  DisplayManager.seatPath s.name

/-- `DisplayManagerSession`, an object with its name, seat and user. -/
structure DisplayManagerSession where
  object : Nat
  name : QString
  seat : QString
  user : QString
deriving DecidableEq

/-- `DisplayManagerSession::Path`. -/
def DisplayManagerSession.path (s : DisplayManagerSession) : QString :=
  DisplayManager.sessionPath s.name

/-- What a removal does besides shortening the list. -/
inductive Removal where
  | deleteLater (object : Nat)
  | seatRemoved (seat : QString)
  | sessionRemoved (session : QString)
deriving DecidableEq

namespace Removal

def isSignal : Removal → Bool
  | deleteLater _ => false
  | seatRemoved _ | sessionRemoved _ => true

end Removal

section Loop

variable {A : Type} [DecidableEq A]

/-- One turn of the loop: `removeAll` of an object with that name, and what
its removal emits. -/
def removeTurn (nameOf : A → QString) (removal : A → List Removal)
    (name : QString) (a : A) (xs : List A) : List A × List Removal :=
  if nameOf a = name then (xs.filter fun x => x ≠ a, removal a) else (xs, [])

/-- The loop of both removals; `none` when it reads outside the list. -/
def removeNamed (nameOf : A → QString) (removal : A → List Removal)
    (name : QString) (xs : List A) : Option (List A × List Removal) :=
  sweep (removeTurn nameOf removal name) xs.length 0 xs

/-- The removal stayed inside the list, took every entry of the name and no
other, kept the order of the rest and signalled each removed entry once. -/
def RemovesNamed (nameOf : A → QString) (signal : A → Removal)
    (name : QString) (xs : List A) (r : Option (List A × List Removal)) :
    Prop :=
  ∃ effects, r = some (xs.filter fun x => nameOf x ≠ name, effects) ∧
    effects.filter Removal.isSignal =
      (xs.filter fun x => nameOf x = name).map signal

variable {nameOf : A → QString} {removal : A → List Removal} {name : QString}

theorem removeTurn_length_le (a : A) (xs : List A) :
    (removeTurn nameOf removal name a xs).1.length ≤ xs.length := by
  by_cases hname : nameOf a = name
  · rw [removeTurn, if_pos hname]
    exact List.length_filter_le _ _
  · rw [removeTurn, if_neg hname]

/-- An object that is in the list leaves it shorter. -/
theorem removeTurn_length_lt {a : A} {xs : List A} (hname : nameOf a = name)
    (hmem : a ∈ xs) :
    (removeTurn nameOf removal name a xs).1.length < xs.length := by
  rw [removeTurn, if_pos hname]
  apply List.length_filter_lt_length_iff_exists.2
  exact ⟨a, hmem, by simp⟩

/-- The loop from behind `before` on, where nothing has been removed yet: a
match anywhere but in the last place leads it out of the list. -/
theorem sweep_removeTurn (before after : List A) :
    sweep (removeTurn nameOf removal name) after.length before.length
        (before ++ after) =
      if ∃ a ∈ after.dropLast, nameOf a = name then none
      else match after.getLast? with
        | none => some (before ++ after, [])
        | some a => some (removeTurn nameOf removal name a
            (before ++ after)) := by
  induction after generalizing before with
  | nil => simp [sweep]
  | cons a after ih =>
      by_cases hname : nameOf a = name
      · have hless : (removeTurn nameOf removal name a
            (before ++ a :: after)).1.length < (before ++ a :: after).length :=
          removeTurn_length_lt hname (by simp)
        rw [sweep_of_shortens removeTurn_length_le hless]
        cases after with
        | nil => simp
        | cons next after => simp [hname]
      · have hstill : removeTurn nameOf removal name a (before ++ a :: after) =
            (before ++ a :: after, []) := if_neg hname
        rw [sweep_of_still hstill, ih (before ++ [a])]
        cases after with
        | nil => simp [hstill]
        | cons next after => simp [hname]

theorem removeNamed_eq (xs : List A) :
    removeNamed nameOf removal name xs =
      if ∃ a ∈ xs.dropLast, nameOf a = name then none
      else match xs.getLast? with
        | none => some (xs, [])
        | some a => some (removeTurn nameOf removal name a xs) :=
  sweep_removeTurn [] xs

/-- A turn on the last element, where no other one has the name. -/
theorem removesNamed_removeTurn {signal : A → Removal}
    (hsignal : ∀ a, (removal a).filter Removal.isSignal = [signal a])
    {before : List A} (hothers : ∀ a ∈ before, nameOf a ≠ name) (last : A) :
    RemovesNamed nameOf signal name (before ++ [last])
      (some (removeTurn nameOf removal name last (before ++ [last]))) := by
  have hkept : (before.filter fun x => nameOf x ≠ name) = before :=
    List.filter_eq_self.2 fun x hx => decide_eq_true (hothers x hx)
  have hnone : (before.filter fun x => nameOf x = name) = [] :=
    List.filter_eq_nil_iff.2 fun x hx => by simpa using hothers x hx
  by_cases hlast : nameOf last = name
  · have hother : (before.filter fun x => x ≠ last) = before := by
      apply List.filter_eq_self.2
      intro x hx
      exact decide_eq_true fun heq => hothers x hx (heq ▸ hlast)
    refine ⟨removal last, ?_, ?_⟩
    · simp only [removeTurn, if_pos hlast, List.filter_append, hother, hkept]
      simp [hlast]
    · rw [hsignal, List.filter_append, hnone]
      simp [hlast]
  · refine ⟨[], ?_, ?_⟩
    · simp only [removeTurn, if_neg hlast, List.filter_append, hkept]
      simp [hlast]
    · rw [List.filter_append, hnone]
      simp [hlast]

/-- The loop is right exactly where no match has an element behind it. -/
theorem removesNamed_iff {signal : A → Removal}
    (hsignal : ∀ a, (removal a).filter Removal.isSignal = [signal a])
    (xs : List A) :
    RemovesNamed nameOf signal name xs (removeNamed nameOf removal name xs) ↔
      ∀ a ∈ xs.dropLast, nameOf a ≠ name := by
  rw [removeNamed_eq]
  by_cases hinner : ∃ a ∈ xs.dropLast, nameOf a = name
  · rw [if_pos hinner]
    obtain ⟨a, hmem, hname⟩ := hinner
    constructor
    · rintro ⟨effects, hnone, _⟩
      cases hnone
    · intro h
      exact absurd hname (h a hmem)
  · rw [if_neg hinner]
    have hothers : ∀ a ∈ xs.dropLast, nameOf a ≠ name := by
      intro a hmem hname
      exact hinner ⟨a, hmem, hname⟩
    refine iff_of_true ?_ hothers
    rcases List.eq_nil_or_concat xs with rfl | ⟨before, last, rfl⟩
    · exact ⟨[], rfl, rfl⟩
    · rw [List.concat_eq_append] at hothers ⊢
      rw [List.dropLast_concat] at hothers
      simp only [List.getLast?_append, List.getLast?_singleton, Option.some_or]
      exact removesNamed_removeTurn hsignal hothers last

end Loop

namespace DisplayManager

/-- `DisplayManager::RemoveSeat`, with its reads checked. -/
def removeSeatChecked (name : QString) (m_seats : List DisplayManagerSeat) :
    Option (List DisplayManagerSeat × List Removal) :=
  removeNamed DisplayManagerSeat.name
    (fun seat => [.deleteLater seat.object, .seatRemoved seat.path])
    name m_seats

/-- `DisplayManager::RemoveSession`, with its reads checked. -/
def removeSessionChecked (name : QString)
    (m_sessions : List DisplayManagerSession) :
    Option (List DisplayManagerSession × List Removal) :=
  removeNamed DisplayManagerSession.name
    (fun session => [.deleteLater session.object, .sessionRemoved session.path])
    name m_sessions

/-- As long as it reads inside the list, the loop over the array behind the
list leaves the same list. -/
theorem removeLoop_of_sweep {name : QString}
    {removal : DisplayManagerSeat → List Removal} {turns i size : Nat}
    {array : List DisplayManagerSeat}
    {r : List DisplayManagerSeat × List Removal} (hsize : size ≤ array.length)
    (h : sweep (removeTurn DisplayManagerSeat.name removal name) turns i
      (array.take size) = some r) :
    (removeLoop name turns i (array, size)).1.take
      (removeLoop name turns i (array, size)).2 = r.1 := by
  induction turns generalizing i array size r with
  | zero =>
      rw [sweep, Option.some.injEq] at h
      rw [← h, removeLoop]
  | succ turns ih =>
      rw [sweep] at h
      cases hread : (array.take size)[i]? with
      | none => simp [hread] at h
      | some seat =>
          simp only [hread, Option.map_eq_some_iff] at h
          obtain ⟨rest, hrest, rfl⟩ := h
          have harray : array[i]? = some seat := by
            rw [List.getElem?_take] at hread
            exact (Option.ite_none_right_eq_some.1 hread).2
          rw [removeLoop, harray]
          by_cases hname : seat.name = name
          · simp only [hname, ↓reduceIte]
            apply ih
            · simp
            · rw [removeTurn, if_pos hname] at hrest
              simpa using hrest
          · simp only [hname, ↓reduceIte]
            rw [removeTurn, if_neg hname] at hrest
            exact ih hsize hrest

theorem removeSeat_of_checked {name : QString} {m : DisplayManager}
    {left : List DisplayManagerSeat} {effects : List Removal}
    (h : removeSeatChecked name m.seats = some (left, effects)) :
    (m.removeSeat name).seats = left := by
  have hsweep : sweep (removeTurn DisplayManagerSeat.name
      (fun s => [.deleteLater s.object, .seatRemoved s.path]) name)
      m.seats.length 0 (m.seats.take m.seats.length) =
        some (left, effects) := by
    rw [List.take_length]
    exact h
  exact removeLoop_of_sweep (Nat.le_refl _) hsweep

/-- A seat is removed safely and completely exactly when no seat of its name
has another one behind it, and so is a session. -/
theorem removes_iff_last (name : QString) (seats : List DisplayManagerSeat)
    (sessions : List DisplayManagerSession) :
    (RemovesNamed DisplayManagerSeat.name (fun s => .seatRemoved s.path) name
        seats (removeSeatChecked name seats) ↔
      ∀ s ∈ seats.dropLast, s.name ≠ name) ∧
    (RemovesNamed DisplayManagerSession.name (fun s => .sessionRemoved s.path)
        name sessions (removeSessionChecked name sessions) ↔
      ∀ s ∈ sessions.dropLast, s.name ≠ name) :=
  ⟨removesNamed_iff (fun _ => rfl) seats,
    removesNamed_iff (fun _ => rfl) sessions⟩

/-- Of two seats the first is removed, and the loop reads a second position
the list does not have any more. -/
theorem removeSeat_reads_behind :
    ¬ RemovesNamed DisplayManagerSeat.name (fun s => .seatRemoved s.path)
      "seat0" [⟨0, "seat0"⟩, ⟨1, "seat1"⟩]
      (removeSeatChecked "seat0" [⟨0, "seat0"⟩, ⟨1, "seat1"⟩]) := by
  rintro ⟨effects, hsome, _⟩
  have hnone : removeSeatChecked "seat0"
      [⟨0, "seat0"⟩, ⟨1, "seat1"⟩] = none := by decide
  rw [hnone] at hsome
  cases hsome

end DisplayManager

end PlasmaLogin

/-
What `SeatManager` knows of a seat, and what the messages on their way will
make of it.
-/
import PlasmaLogin.Inflight
import PlasmaLogin.SeatLists

namespace PlasmaLogin

open Mealy Inflight

/-- What is known of a seat of logind: whether it is graphical, and the
`LogindSeat` that says so, unless a message on its way will make a new one. -/
structure KnownSeat where
  id : Option Nat
  canGraphical : Bool

/-- What a message makes of what is known of a seat. -/
def SeatMessage.actOn (name : QString) :
    SeatMessage → Option KnownSeat → Option KnownSeat
  | .listSeats names, known =>
      if name ∈ names then some ⟨none, false⟩ else known
  | .seatNew n, known => if n = name then some ⟨none, false⟩ else known
  | .seatRemoved n, known => if n = name then none else known
  | .canGraphical query reply, known =>
      if query.name = name then
        known.map fun s =>
          if s.id = some query.id then
            { s with canGraphical := reply.getD s.canGraphical }
          else s
      else known
  | .propertiesChanged n interface changed, known =>
      if n = name ∧ interface = Logind.seatIfaceName then
        known.map fun s =>
          { s with canGraphical := changed.getD s.canGraphical }
      else known

theorem SeatMessage.silent_of_not_about {message : SeatMessage}
    {name : QString} (h : name ∉ message.about) :
    Silent (SeatMessage.actOn name) message := by
  intro known
  cases message with
  | listSeats names => exact if_neg h
  | canGraphical query reply =>
      exact if_neg fun heq => h (List.mem_singleton.2 heq.symm)
  | propertiesChanged n interface changed =>
      exact if_neg fun heq => h (List.mem_singleton.2 heq.1.symm)
  | _ => exact if_neg fun heq => h (List.mem_singleton.2 heq.symm)

namespace SeatManager

def known (name : QString) (m : SeatManager) : Option KnownSeat :=
  (m.systemSeats name).bind fun id =>
    (m.logindSeats[id]?).map fun seat => ⟨some id, seat.canGraphical⟩

/-- `m_systemSeats` has the `LogindSeat` objects alive, and a `Seat` is held
for those that are graphical. -/
structure Registered (m : SeatManager) : Prop where
  listening : ∀ name id, m.systemSeats name = some id →
    ∃ seat, m.logindSeats[id]? = some seat ∧ seat.alive = true ∧
      seat.name = name
  unique : ∀ id seat, m.logindSeats[id]? = some seat → seat.alive = true →
    m.systemSeats seat.name = some id
  held : ∀ name, name ∈ m.seats ↔ ∃ id, m.known name = some ⟨id, true⟩
  once : m.Once

@[simp] theorem removeSeat_logindSeats (name : QString) (m : SeatManager) :
    (m.removeSeat name).logindSeats = m.logindSeats := by
  unfold removeSeat
  split <;> rfl

@[simp] theorem removeSeat_systemSeats (name : QString) (m : SeatManager) :
    (m.removeSeat name).systemSeats = m.systemSeats := by
  unfold removeSeat
  split <;> rfl

@[simp] theorem removeSeat_seats (name : QString) (m : SeatManager) :
    (m.removeSeat name).seats = m.seats.erase name := by
  unfold removeSeat
  split
  next => rfl
  next hnot => exact (Finset.erase_eq_of_notMem hnot).symm

theorem known_of_systemSeats {m : SeatManager} {name : QString} {id : Nat}
    {seat : LogindSeat} (hid : m.systemSeats name = some id)
    (hseat : m.logindSeats[id]? = some seat) :
    m.known name = some ⟨some id, seat.canGraphical⟩ := by
  simp [known, hid, hseat]

theorem known_of_none {m : SeatManager} {name : QString}
    (h : m.systemSeats name = none) : m.known name = none := by
  simp [known, h]

theorem Registered.systemSeats_of_known {m : SeatManager} {name : QString}
    {s : KnownSeat} (h : m.known name = some s) :
    ∃ id seat, m.systemSeats name = some id ∧
      m.logindSeats[id]? = some seat ∧ s = ⟨some id, seat.canGraphical⟩ := by
  obtain ⟨id, hid, hmap⟩ := Option.bind_eq_some_iff.1 h
  obtain ⟨seat, hseat, rfl⟩ := Option.map_eq_some_iff.1 hmap
  exact ⟨id, seat, hid, hseat, rfl⟩

/-- A seat that is not known is not held. -/
theorem Registered.not_held {m : SeatManager} (h : m.Registered)
    {name : QString} (hnone : m.systemSeats name = none) :
    name ∉ m.seats := by
  rw [h.held, known_of_none hnone]
  rintro ⟨id, hid⟩
  cases hid

section Added

variable {m : SeatManager} {name : QString}

theorem logindSeatAdded_known (n : QString) (h : m.Registered) :
    (m.logindSeatAdded name).1.known n =
      if n = name then some ⟨some m.logindSeats.length, false⟩
      else m.known n := by
  by_cases heq : n = name
  · subst heq
    simp [logindSeatAdded, known]
  · rw [if_neg heq]
    cases hid : m.systemSeats n with
    | none => simp [logindSeatAdded, known, heq, hid]
    | some id =>
        obtain ⟨seat, hseat, _⟩ := h.listening n id hid
        have hlt : id < m.logindSeats.length :=
          (List.getElem?_eq_some_iff.1 hseat).1
        simp [logindSeatAdded, known, heq, hid, List.getElem?_append_left hlt]

theorem Registered.logindSeatAdded (h : m.Registered)
    (hnew : m.systemSeats name = none) :
    (m.logindSeatAdded name).1.Registered := by
  have hknown : ∀ n, (m.logindSeatAdded name).1.known n =
      if n = name then some ⟨some m.logindSeats.length, false⟩
      else m.known n := fun n => logindSeatAdded_known n h
  have hsystem : ∀ n, (m.logindSeatAdded name).1.systemSeats n =
      if n = name then some m.logindSeats.length else m.systemSeats n :=
    fun n => Function.update_apply ..
  have hseats : ∀ id : Nat, (m.logindSeatAdded name).1.logindSeats[id]? =
      (m.logindSeats ++ [⟨name, false, true⟩])[id]? := fun _ => rfl
  refine ⟨?_, ?_, ?_, h.once⟩
  · intro n id hid
    rw [hsystem] at hid
    rw [hseats]
    split at hid
    next heq =>
      cases hid
      exact ⟨_, List.getElem?_concat_length, rfl, heq.symm⟩
    next =>
      obtain ⟨seat, hseat, hrest⟩ := h.listening n id hid
      have hlt := (List.getElem?_eq_some_iff.1 hseat).1
      exact ⟨seat, by rwa [List.getElem?_append_left hlt], hrest⟩
  · intro id seat hseat halive
    rw [hseats] at hseat
    rw [hsystem]
    by_cases hlt : id < m.logindSeats.length
    · rw [List.getElem?_append_left hlt] at hseat
      have hid := h.unique id seat hseat halive
      rw [if_neg, hid]
      rintro rfl
      rw [hnew] at hid
      cases hid
    · rw [List.getElem?_append_right (by omega),
        List.getElem?_singleton] at hseat
      split at hseat
      next hlast =>
        cases hseat
        rw [if_pos rfl, show id = m.logindSeats.length by omega]
      next => cases hseat
  · intro n
    rw [hknown]
    have hheld := h.held n
    split
    next heq =>
      subst heq
      exact iff_of_false (h.not_held hnew) (by simp)
    next => exact hheld

end Added

section Removed

variable {m : SeatManager} {name : QString} {id : Nat}

theorem deleteLogindSeat_systemSeats (n : QString) :
    (m.deleteLogindSeat name).systemSeats n =
      if n = name then none else m.systemSeats n := by
  unfold deleteLogindSeat
  split
  next hnone =>
    split
    next heq => rw [heq, hnone]
    next => rfl
  next => exact Function.update_apply ..

/-- The other objects stay as they are. -/
theorem deleteLogindSeat_logindSeats (h : m.Registered) {j : Nat}
    {seat : LogindSeat} (hseat : m.logindSeats[j]? = some seat)
    (hname : seat.name ≠ name) :
    (m.deleteLogindSeat name).logindSeats[j]? = some seat := by
  unfold deleteLogindSeat
  split
  next => exact hseat
  next id hid =>
    obtain ⟨seat', hseat', _, hname'⟩ := h.listening name id hid
    have hne : id ≠ j := by
      rintro rfl
      rw [hseat] at hseat'
      cases hseat'
      exact hname hname'
    simp [hne, hseat]

theorem logindSeatRemoved_known (h : m.Registered) (n : QString) :
    (m.logindSeatRemoved name).known n =
      if n = name then none else m.known n := by
  simp only [logindSeatRemoved, known, removeSeat_systemSeats,
    removeSeat_logindSeats, deleteLogindSeat_systemSeats]
  split
  next => rfl
  next hne =>
    cases hid : m.systemSeats n with
    | none => rfl
    | some id =>
        obtain ⟨seat, hseat, _, rfl⟩ := h.listening n id hid
        simp [hseat, deleteLogindSeat_logindSeats h hseat hne]

/-- An object that is alive afterwards was so before, and is another
seat's. -/
theorem alive_of_deleteLogindSeat (h : m.Registered) {j : Nat}
    {seat : LogindSeat}
    (hseat : (m.deleteLogindSeat name).logindSeats[j]? = some seat)
    (halive : seat.alive = true) :
    m.logindSeats[j]? = some seat ∧ seat.name ≠ name := by
  unfold deleteLogindSeat at hseat
  split at hseat
  next hnone =>
    refine ⟨hseat, ?_⟩
    rintro rfl
    have hid := h.unique j seat hseat halive
    rw [hnone] at hid
    cases hid
  next id hid =>
    rw [List.getElem?_modify] at hseat
    obtain ⟨seat', hseat', heq⟩ := Option.map_eq_some_iff.1 hseat
    split at heq
    next =>
      subst heq
      cases halive
    next hne =>
      cases heq
      refine ⟨hseat', ?_⟩
      rintro rfl
      have hj := h.unique j seat hseat' halive
      rw [hid] at hj
      cases hj
      exact hne rfl

theorem Registered.logindSeatRemoved (h : m.Registered) (name : QString) :
    (m.logindSeatRemoved name).Registered := by
  have hknown : ∀ n, (m.logindSeatRemoved name).known n =
      if n = name then none else m.known n :=
    fun n => logindSeatRemoved_known h n
  have honce : (m.deleteLogindSeat name).Once := by
    unfold deleteLogindSeat
    split <;> exact h.once
  have hseats : (m.deleteLogindSeat name).seats = m.seats := by
    unfold deleteLogindSeat
    split <;> rfl
  refine ⟨?_, ?_, ?_, honce.removeSeat name⟩
  · intro n id hid
    rw [SeatManager.logindSeatRemoved, removeSeat_systemSeats,
      deleteLogindSeat_systemSeats] at hid
    split at hid
    next => cases hid
    next hne =>
      obtain ⟨seat, hseat, halive, rfl⟩ := h.listening n id hid
      rw [SeatManager.logindSeatRemoved, removeSeat_logindSeats]
      exact ⟨seat, deleteLogindSeat_logindSeats h hseat hne, halive, rfl⟩
  · intro id seat hseat halive
    rw [SeatManager.logindSeatRemoved, removeSeat_logindSeats] at hseat
    obtain ⟨hbefore, hne⟩ := alive_of_deleteLogindSeat h hseat halive
    rw [SeatManager.logindSeatRemoved, removeSeat_systemSeats,
      deleteLogindSeat_systemSeats, if_neg hne]
    exact h.unique id seat hbefore halive
  · intro n
    rw [hknown, SeatManager.logindSeatRemoved, removeSeat_seats, hseats,
      Finset.mem_erase]
    by_cases heq : n = name
    · simp [heq]
    · simpa [heq] using h.held n

end Removed

section Changed

variable {m : SeatManager} {id : Nat} {seat : LogindSeat} {value : Bool}

theorem setCanGraphical_logindSeats :
    (m.setCanGraphical id seat value).logindSeats =
      m.logindSeats.set id { seat with canGraphical := value } := by
  cases value with
  | true => rfl
  | false => exact removeSeat_logindSeats _ _

theorem setCanGraphical_systemSeats :
    (m.setCanGraphical id seat value).systemSeats = m.systemSeats := by
  cases value with
  | true => rfl
  | false => exact removeSeat_systemSeats _ _

/-- One object takes a value over; names and lives stay. -/
theorem setCanGraphical_getElem? (hseat : m.logindSeats[id]? = some seat)
    (j : Nat) :
    (m.setCanGraphical id seat value).logindSeats[j]? =
      if j = id then some { seat with canGraphical := value }
      else m.logindSeats[j]? := by
  have hlt := (List.getElem?_eq_some_iff.1 hseat).1
  rw [setCanGraphical_logindSeats]
  split
  next heq => rw [heq, List.getElem?_set_self hlt]
  next hne => rw [List.getElem?_set_ne (Ne.symm hne)]

theorem setCanGraphical_mem_seats (n : QString) :
    n ∈ (m.setCanGraphical id seat value).seats ↔
      if n = seat.name then value = true else n ∈ m.seats := by
  cases value with
  | true =>
      have hseats : (m.setCanGraphical id seat true).seats =
          insert seat.name m.seats := rfl
      rw [hseats, Finset.mem_insert]
      by_cases heq : n = seat.name <;> simp [heq]
  | false =>
      have hseats : (m.setCanGraphical id seat false).seats =
          m.seats.erase seat.name := removeSeat_seats _ _
      rw [hseats, Finset.mem_erase]
      by_cases heq : n = seat.name <;> simp [heq]

/-- A `Seat` is only made where there is none. -/
theorem Once.setCanGraphical (h : Once m)
    (hnew : value = true → seat.name ∉ m.seats) :
    Once (m.setCanGraphical id seat value) := by
  have honce : ∀ l, Once { m with logindSeats := l } := fun _ => h
  cases value with
  | true =>
      apply (honce _).createSeat
      exact hnew rfl
  | false => exact (honce _).removeSeat seat.name

theorem setCanGraphical_known (h : m.Registered)
    (hseat : m.logindSeats[id]? = some seat) (halive : seat.alive = true)
    (n : QString) :
    (m.setCanGraphical id seat value).known n =
      if n = seat.name then some ⟨some id, value⟩ else m.known n := by
  have hid := h.unique id seat hseat halive
  unfold known
  rw [setCanGraphical_systemSeats]
  split
  next heq =>
    subst heq
    simp [hid, setCanGraphical_getElem? hseat]
  next hne =>
    cases hn : m.systemSeats n with
    | none => rfl
    | some j =>
        have hother : j ≠ id := by
          rintro rfl
          obtain ⟨seat', hseat', _, rfl⟩ := h.listening n j hn
          rw [hseat] at hseat'
          cases hseat'
          exact hne rfl
        simp [setCanGraphical_getElem? hseat, hother]

/-- A seat that becomes graphical gets its `Seat`, and one that is graphical
no more loses it. -/
theorem Registered.setCanGraphical (h : m.Registered)
    (hseat : m.logindSeats[id]? = some seat) (halive : seat.alive = true)
    (hnews : value = true → seat.canGraphical = false) :
    (m.setCanGraphical id seat value).Registered := by
  have hid := h.unique id seat hseat halive
  have hbefore := known_of_systemSeats hid hseat
  refine ⟨?_, ?_, ?_, ?_⟩
  · intro n j hj
    rw [setCanGraphical_systemSeats] at hj
    obtain ⟨seat', hseat', halive', hname⟩ := h.listening n j hj
    rw [setCanGraphical_getElem? hseat]
    split
    next heq =>
      subst heq
      rw [hseat] at hseat'
      cases hseat'
      exact ⟨_, rfl, halive', hname⟩
    next => exact ⟨seat', hseat', halive', hname⟩
  · intro j seat' hseat' halive'
    rw [setCanGraphical_systemSeats]
    rw [setCanGraphical_getElem? hseat] at hseat'
    split at hseat'
    next heq =>
      subst heq
      cases hseat'
      exact hid
    next => exact h.unique j seat' hseat' halive'
  · intro n
    rw [setCanGraphical_known h hseat halive, setCanGraphical_mem_seats]
    by_cases heq : n = seat.name
    · simp [heq]
    · simpa [heq] using h.held n
  · apply h.once.setCanGraphical
    intro hvalue
    rw [h.held, hbefore, hnews hvalue]
    simp

end Changed

end SeatManager

end PlasmaLogin

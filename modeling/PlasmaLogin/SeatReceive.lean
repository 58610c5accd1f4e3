/-
What one message does to a `SeatManager` whose registries agree: the slots
keep them, and make of what is known what the message foretells.
-/
import PlasmaLogin.SeatMirror

namespace PlasmaLogin

open Mealy Inflight

namespace SeatManager

/-- Nothing is reported that there is a `LogindSeat` for already. -/
def Unreported (m : SeatManager) (message : SeatMessage) : Prop :=
  ∀ name ∈ message.reports, m.systemSeats name = none

/-- No `LogindSeat` is notified again that its seat is graphical. -/
def News (m : SeatManager) : SeatMessage → Prop
  | .propertiesChanged name interface (some true) =>
      interface = Logind.seatIfaceName → ∀ seat ∈ m.logindSeats,
        seat.alive = true → seat.name = name → seat.canGraphical = false
  | _ => True

/-- A query comes from one of the objects there have been. -/
def Asks (m : SeatManager) (query : SeatQuery) : Prop :=
  ∃ seat : LogindSeat,
    m.logindSeats[query.id]? = some seat ∧ seat.name = query.name

/-- What is known is what was foretold, except that a new object has got its
place, and has asked. -/
def Labels (name : QString) (least : Nat) (asked : List SeatQuery)
    (known foretold : Option KnownSeat) : Prop :=
  known = foretold ∨
    ∃ id value, least ≤ id ∧ ⟨id, name⟩ ∈ asked ∧
      known = some ⟨some id, value⟩ ∧ foretold = some ⟨none, value⟩

/-- Objects keep their places and names. -/
def Keeps (m m' : SeatManager) : Prop :=
  ∀ (id : Nat) (seat : LogindSeat), m.logindSeats[id]? = some seat →
    ∃ seat' : LogindSeat, m'.logindSeats[id]? = some seat' ∧ seat'.name = seat.name

theorem Keeps.refl (m : SeatManager) : m.Keeps m :=
  fun _ seat hseat => ⟨seat, hseat, rfl⟩

theorem Keeps.trans {m₁ m₂ m₃ : SeatManager} (h : m₁.Keeps m₂)
    (h' : m₂.Keeps m₃) : m₁.Keeps m₃ := by
  intro id seat hseat
  obtain ⟨seat', hseat', hname⟩ := h id seat hseat
  obtain ⟨seat'', hseat'', hname'⟩ := h' id seat' hseat'
  exact ⟨seat'', hseat'', hname'.trans hname⟩

theorem Keeps.asks {m m' : SeatManager} (h : m.Keeps m') {query : SeatQuery}
    (hasks : m.Asks query) : m'.Asks query := by
  obtain ⟨seat, hseat, hname⟩ := hasks
  obtain ⟨seat', hseat', hname'⟩ := h _ seat hseat
  exact ⟨seat', hseat', hname'.trans hname⟩

/-- What a message does to a registered manager. -/
structure Received (m : SeatManager) (message : SeatMessage)
    (r : SeatManager × List SeatQuery) : Prop where
  registered : r.1.Registered
  keeps : m.Keeps r.1
  asks : ∀ query ∈ r.2, r.1.Asks query
  labels : ∀ name, Labels name m.logindSeats.length r.2 (r.1.known name)
    (message.actOn name (m.known name))

section Reports

variable {m : SeatManager}

theorem keeps_logindSeatAdded (name : QString) :
    m.Keeps (m.logindSeatAdded name).1 := by
  intro id seat hseat
  have hlt := (List.getElem?_eq_some_iff.1 hseat).1
  exact ⟨seat, (List.getElem?_append_left hlt).trans hseat, rfl⟩

theorem asks_logindSeatAdded (name : QString) :
    (m.logindSeatAdded name).1.Asks ⟨m.logindSeats.length, name⟩ :=
  ⟨⟨name, false, true⟩, List.getElem?_concat_length, rfl⟩

theorem received_seatNew {name : QString} (h : m.Registered)
    (hnew : m.systemSeats name = none) :
    m.Received (.seatNew name) (m.logindSeatAdded name) := by
  refine ⟨h.logindSeatAdded hnew, keeps_logindSeatAdded name, ?_, ?_⟩
  · intro query hquery
    rw [List.mem_singleton.1 hquery]
    exact asks_logindSeatAdded name
  · intro n
    rw [logindSeatAdded_known n h]
    by_cases heq : n = name
    · subst heq
      exact Or.inr ⟨_, false, Nat.le_refl _, List.mem_singleton_self _,
        if_pos rfl, if_pos rfl⟩
    · rw [if_neg heq]
      exact Or.inl (if_neg (Ne.symm heq)).symm

/-- Every seat of the reply gets its object, one after the other. -/
theorem received_seatsListed {names : List QString} (h : m.Registered)
    (hnodup : names.Nodup) (hnew : ∀ name ∈ names, m.systemSeats name = none) :
    m.Received (.listSeats names) (seatsListed names m) := by
  induction names generalizing m with
  | nil =>
      refine ⟨h, Keeps.refl m, ?_, ?_⟩
      · exact fun _ hquery => nomatch hquery
      · exact fun name => Or.inl
          (SeatMessage.silent_of_not_about List.not_mem_nil _).symm
  | cons name names ih =>
      rw [List.nodup_cons] at hnodup
      rw [List.forall_mem_cons] at hnew
      have hfirst := h.logindSeatAdded hnew.1
      have hlater : ∀ n ∈ names,
          (m.logindSeatAdded name).1.systemSeats n = none := by
        intro n hn
        have hne : n ≠ name := fun heq => hnodup.1 (heq ▸ hn)
        exact (Function.update_of_ne hne ..).trans (hnew.2 n hn)
      obtain ⟨hregistered, hkeeps, hasks, hlabels⟩ :=
        ih hfirst hnodup.2 hlater
      have hlength : (m.logindSeatAdded name).1.logindSeats.length =
          m.logindSeats.length + 1 := List.length_append
      refine ⟨hregistered, (keeps_logindSeatAdded name).trans hkeeps, ?_, ?_⟩
      · intro query hquery
        rcases List.mem_cons.1 hquery with rfl | hquery
        · exact hkeeps.asks (asks_logindSeatAdded name)
        · exact hasks query hquery
      · intro n
        have hrest := hlabels n
        rw [logindSeatAdded_known n h, hlength] at hrest
        by_cases heq : n = name
        · subst heq
          have hforetold : (SeatMessage.listSeats names).actOn n
              (some ⟨some m.logindSeats.length, false⟩) =
              some ⟨some m.logindSeats.length, false⟩ := if_neg hnodup.1
          rw [if_pos rfl, hforetold] at hrest
          rcases hrest with hknown | ⟨id, value, _, _, _, hforetold⟩
          · exact Or.inr ⟨_, false, Nat.le_refl _, List.mem_cons_self, hknown,
              if_pos List.mem_cons_self⟩
          · cases hforetold
        · rw [if_neg heq] at hrest
          have hforetold : (SeatMessage.listSeats (name :: names)).actOn n
              (m.known n) =
              (SeatMessage.listSeats names).actOn n (m.known n) := by
            simp [SeatMessage.actOn, heq]
          rw [hforetold]
          rcases hrest with hknown | ⟨id, value, hle, hmem, hknown⟩
          · exact Or.inl hknown
          · exact Or.inr ⟨id, value, by omega, List.mem_cons_of_mem _ hmem,
              hknown⟩

end Reports

section Values

variable {m : SeatManager}

theorem received_self {message : SeatMessage} (h : m.Registered)
    (hsame : ∀ name, message.actOn name (m.known name) = m.known name) :
    m.Received message (m, []) :=
  ⟨h, Keeps.refl m, fun _ hquery => (nomatch hquery),
    fun name => Or.inl (hsame name).symm⟩

/-- A `LogindSeat` takes over what the message says. -/
theorem received_setCanGraphical {message : SeatMessage} {id : Nat}
    {seat : LogindSeat} {value : Bool} (h : m.Registered)
    (hseat : m.logindSeats[id]? = some seat) (halive : seat.alive = true)
    (hnews : value = true → seat.canGraphical = false)
    (habout : message.about = [seat.name])
    (hact : message.actOn seat.name (some ⟨some id, seat.canGraphical⟩) =
      some ⟨some id, value⟩) :
    m.Received message (m.setCanGraphical id seat value, []) := by
  refine ⟨h.setCanGraphical hseat halive hnews, ?_, ?_, ?_⟩
  · intro j seat' hseat'
    rw [setCanGraphical_getElem? hseat]
    split
    next heq =>
      subst heq
      rw [hseat] at hseat'
      cases hseat'
      exact ⟨_, rfl, rfl⟩
    next => exact ⟨seat', hseat', rfl⟩
  · exact fun _ hquery => nomatch hquery
  · intro name
    rw [setCanGraphical_known h hseat halive]
    by_cases heq : name = seat.name
    · subst heq
      rw [if_pos rfl,
        known_of_systemSeats (h.unique id seat hseat halive) hseat, hact]
      exact Or.inl rfl
    · have hother : name ∉ message.about := by
        rw [habout]
        exact fun hmem => heq (List.mem_singleton.1 hmem)
      rw [if_neg heq, SeatMessage.silent_of_not_about hother]
      exact Or.inl rfl

theorem received_seatRemoved {name : QString} (h : m.Registered) :
    m.Received (.seatRemoved name) (m.logindSeatRemoved name, []) := by
  refine ⟨h.logindSeatRemoved name, ?_, ?_, ?_⟩
  · intro id seat hseat
    rw [logindSeatRemoved, removeSeat_logindSeats]
    unfold deleteLogindSeat
    split
    next => exact ⟨seat, hseat, rfl⟩
    next j hj =>
      simp only [List.getElem?_modify, hseat]
      split <;> exact ⟨_, rfl, rfl⟩
  · exact fun _ hquery => absurd hquery List.not_mem_nil
  · intro n
    rw [logindSeatRemoved_known h n]
    by_cases heq : n = name
    · exact Or.inl (by simp [SeatMessage.actOn, heq])
    · exact Or.inl (by simp [SeatMessage.actOn, heq, Ne.symm heq])

/-- An answer that is known, or that comes for a deleted object, changes
nothing. -/
theorem received_canGraphical_known {query : SeatQuery} {value : Bool}
    {seat : LogindSeat} (h : m.Registered)
    (hseat : m.logindSeats[query.id]? = some seat)
    (hknown : ¬ (seat.alive = true ∧ value ≠ seat.canGraphical)) :
    m.Received (.canGraphical query (some value))
      (m.queryAnswered query.id (some value), []) := by
  have hsame : m.queryAnswered query.id (some value) = m := by
    simp only [queryAnswered, hseat, if_neg hknown]
  rw [hsame]
  apply received_self h
  intro n
  by_cases heq : query.name = n
  · cases hlabel : m.known n with
    | none => simp [SeatMessage.actOn]
    | some s =>
        obtain ⟨id, seat', hid, hseat', rfl⟩ :=
          Registered.systemSeats_of_known hlabel
        by_cases hsame : id = query.id
        · subst hsame
          rw [hseat] at hseat'
          cases hseat'
          obtain ⟨seat'', hseat'', halive, _⟩ := h.listening n _ hid
          rw [hseat] at hseat''
          cases hseat''
          have hvalue : value = seat.canGraphical := by
            by_contra hne
            exact hknown ⟨halive, hne⟩
          simp [SeatMessage.actOn, hvalue]
        · simp [SeatMessage.actOn, hsame]
  · exact if_neg heq

theorem received_canGraphical {query : SeatQuery} {reply : Option Bool}
    (h : m.Registered) (hasks : m.Asks query) :
    m.Received (.canGraphical query reply)
      (m.queryAnswered query.id reply, []) := by
  obtain ⟨seat, hseat, hname⟩ := hasks
  cases reply with
  | none =>
      have hsame : m.queryAnswered query.id none = m := by
        simp [queryAnswered, hseat]
      rw [hsame]
      apply received_self h
      intro n
      have hid : ∀ s : KnownSeat, (if s.id = some query.id then
          { s with canGraphical := (none : Option Bool).getD s.canGraphical }
          else s) = s := fun s => ite_self s
      simp only [SeatMessage.actOn, hid, Option.map_id', ite_self]
  | some value =>
      by_cases hchange : seat.alive = true ∧ value ≠ seat.canGraphical
      · have hset : m.queryAnswered query.id (some value) =
            m.setCanGraphical query.id seat value := by
          simp only [queryAnswered, hseat, if_pos hchange]
        rw [hset]
        apply received_setCanGraphical h hseat hchange.1
        · rintro rfl
          simpa using hchange.2
        · simp [SeatMessage.about, hname]
        · simp [SeatMessage.actOn, hname]
      · exact received_canGraphical_known h hseat hchange

/-- An object of another seat, or a deleted one, is not notified. -/
theorem seatPropertiesChanged_eq_self {name interface : QString}
    {changed : Option Bool} {id : Nat}
    (h : ∀ seat : LogindSeat, m.logindSeats[id]? = some seat →
      seat.alive = true → seat.name ≠ name) :
    m.seatPropertiesChanged name interface changed id = m := by
  cases hseat : m.logindSeats[id]? with
  | none => simp only [seatPropertiesChanged, hseat]
  | some seat =>
      cases changed with
      | none => simp only [seatPropertiesChanged, hseat]
      | some value =>
          simp only [seatPropertiesChanged, hseat]
          exact if_neg fun hall => h seat hseat hall.1.1 hall.1.2

/-- Nothing that matters has changed. -/
theorem propertiesChanged_eq_self {name interface : QString}
    {changed : Option Bool}
    (h : ∀ id, m.seatPropertiesChanged name interface changed id = m) :
    m.propertiesChanged name interface changed = m :=
  List.foldl_fixed' h _

theorem foldl_seatPropertiesChanged_eq_self {name interface : QString}
    {changed : Option Bool} {ids : List Nat}
    (h : ∀ id ∈ ids, ∀ seat : LogindSeat, m.logindSeats[id]? = some seat →
      seat.alive = true → seat.name ≠ name) :
    ids.foldl (seatPropertiesChanged name interface changed) m = m := by
  induction ids with
  | nil => rfl
  | cons id ids ih =>
      rw [List.forall_mem_cons] at h
      rw [List.foldl_cons, seatPropertiesChanged_eq_self h.1]
      exact ih h.2

/-- Nobody is notified of a seat that has no object. -/
theorem propertiesChanged_of_unknown {name interface : QString}
    {changed : Option Bool} (h : m.Registered)
    (hnone : m.systemSeats name = none) :
    m.propertiesChanged name interface changed = m := by
  refine foldl_seatPropertiesChanged_eq_self fun id _ seat hseat halive => ?_
  rintro rfl
  rw [h.unique id seat hseat halive] at hnone
  cases hnone

/-- The one object of a seat is the one that is notified. -/
theorem propertiesChanged_eq {name : QString} {id : Nat} {seat : LogindSeat}
    {value : Bool} (h : m.Registered) (hid : m.systemSeats name = some id)
    (hseat : m.logindSeats[id]? = some seat) (hname : seat.name = name)
    (halive : seat.alive = true) :
    m.propertiesChanged name Logind.seatIfaceName (some value) =
      m.setCanGraphical id seat value := by
  have hlt := (List.getElem?_eq_some_iff.1 hseat).1
  have hothers : ∀ j, j ≠ id → ∀ seat' : LogindSeat,
      m.logindSeats[j]? = some seat' → seat'.alive = true →
        seat'.name ≠ name := by
    rintro j hne seat' hseat' halive' rfl
    have hj := h.unique j seat' hseat' halive'
    rw [hid] at hj
    cases hj
    exact hne rfl
  have hothers' : ∀ j, j ≠ id → ∀ seat' : LogindSeat,
      (m.setCanGraphical id seat value).logindSeats[j]? = some seat' →
        seat'.alive = true → seat'.name ≠ name := by
    intro j hne seat' hseat'
    rw [setCanGraphical_getElem? hseat, if_neg hne] at hseat'
    exact hothers j hne seat' hseat'
  have hone : m.seatPropertiesChanged name Logind.seatIfaceName (some value)
      id = m.setCanGraphical id seat value := by
    simp only [seatPropertiesChanged, hseat, halive, hname, and_self,
      if_true]
  obtain ⟨l₁, l₂, hrange⟩ := List.append_of_mem (List.mem_range.2 hlt)
  have hnodup := List.nodup_range (n := m.logindSeats.length)
  rw [hrange, List.nodup_middle, List.nodup_cons, List.mem_append,
    not_or] at hnodup
  have hbefore : l₁.foldl (seatPropertiesChanged name Logind.seatIfaceName
      (some value)) m = m :=
    foldl_seatPropertiesChanged_eq_self fun j hj =>
      hothers j (ne_of_mem_of_not_mem hj hnodup.1.1)
  have hafter : l₂.foldl (seatPropertiesChanged name Logind.seatIfaceName
      (some value)) (m.setCanGraphical id seat value) =
        m.setCanGraphical id seat value :=
    foldl_seatPropertiesChanged_eq_self fun j hj =>
      hothers' j (ne_of_mem_of_not_mem hj hnodup.1.2)
  rw [propertiesChanged, hrange, List.foldl_append, hbefore, List.foldl_cons,
    hone, hafter]

theorem received_propertiesChanged {name interface : QString}
    {changed : Option Bool} (h : m.Registered)
    (hnews : m.News (.propertiesChanged name interface changed)) :
    m.Received (.propertiesChanged name interface changed)
      (m.propertiesChanged name interface changed, []) := by
  by_cases hiface : interface = Logind.seatIfaceName
  · subst hiface
    cases changed with
    | none =>
        rw [propertiesChanged_eq_self fun id => by
          unfold seatPropertiesChanged
          split <;> simp_all]
        apply received_self h
        intro n
        cases m.known n <;> simp [SeatMessage.actOn]
    | some value =>
        cases hid : m.systemSeats name with
        | none =>
            rw [propertiesChanged_of_unknown h hid]
            apply received_self h
            intro n
            by_cases heq : name = n
            · subst heq
              simp [SeatMessage.actOn, known_of_none hid]
            · simp [SeatMessage.actOn, heq]
        | some id =>
            obtain ⟨seat, hseat, halive, hname⟩ := h.listening name id hid
            rw [propertiesChanged_eq h hid hseat hname halive]
            apply received_setCanGraphical h hseat halive
            · rintro rfl
              exact hnews rfl seat (List.mem_of_getElem? hseat) halive hname
            · rw [hname]
              rfl
            · simp [SeatMessage.actOn, hname]
  · have hnone : ∀ id,
        m.seatPropertiesChanged name interface changed id = m := by
      intro id
      unfold seatPropertiesChanged
      split
      next => exact if_neg fun hall => hiface hall.2
      next => rfl
    rw [propertiesChanged_eq_self hnone]
    apply received_self h
    exact fun n => if_neg fun hall => hiface hall.2

end Values

/-- What every message does to a registered manager. -/
theorem received_receive {m : SeatManager} {message : SeatMessage}
    (h : m.Registered) (hnodup : message.reports.Nodup)
    (hnew : m.Unreported message) (hnews : m.News message)
    (hasks : ∀ query reply, message = .canGraphical query reply →
      m.Asks query) : m.Received message (m.receive message) := by
  cases message with
  | listSeats names => exact received_seatsListed h hnodup hnew
  | seatNew name => exact received_seatNew h (hnew name List.mem_cons_self)
  | seatRemoved name => exact received_seatRemoved h
  | canGraphical query reply =>
      exact received_canGraphical h (hasks query reply rfl)
  | propertiesChanged name interface changed =>
      exact received_propertiesChanged h hnews

end SeatManager

end PlasmaLogin

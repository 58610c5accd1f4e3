/-
The registries of seats agree with logind once nothing is on its way, in every
run in which no seat is reported twice, no notification repeats that a seat is
graphical, and the messages about one seat stay in order.
-/
import PlasmaLogin.SeatReceive

namespace PlasmaLogin

open Mealy Inflight

/-- Messages to come do not tell a new object from one foretold. -/
theorem SeatManager.Labels.actOn {name : QString} {least : Nat}
    {asked : List SeatQuery} {message : SeatMessage}
    {known foretold : Option KnownSeat}
    (hold : ∀ query reply, message = .canGraphical query reply →
      query.id < least) (h : Labels name least asked known foretold) :
    Labels name least asked (message.actOn name known)
      (message.actOn name foretold) := by
  obtain rfl | ⟨id, value, hle, hasked, rfl, rfl⟩ := h
  · exact Or.inl rfl
  cases message with
  | listSeats names =>
      by_cases hmem : name ∈ names
      · exact Or.inl (by simp [SeatMessage.actOn, hmem])
      · refine Or.inr ⟨id, value, hle, hasked, ?_, ?_⟩
        · exact if_neg hmem
        · exact if_neg hmem
  | seatNew n =>
      by_cases heq : n = name
      · exact Or.inl (by simp [SeatMessage.actOn, heq])
      · exact Or.inr ⟨id, value, hle, hasked, if_neg heq, if_neg heq⟩
  | seatRemoved n =>
      by_cases heq : n = name
      · exact Or.inl (by simp [SeatMessage.actOn, heq])
      · exact Or.inr ⟨id, value, hle, hasked, if_neg heq, if_neg heq⟩
  | canGraphical query reply =>
      have hne : id ≠ query.id := by
        have hlt := hold query reply rfl
        omega
      refine Or.inr ⟨id, value, hle, hasked, ?_, ?_⟩
      · simp [SeatMessage.actOn, hne]
      · simp [SeatMessage.actOn]
  | propertiesChanged n interface changed =>
      by_cases heq : n = name ∧ interface = Logind.seatIfaceName
      · refine Or.inr ⟨id, changed.getD value, hle, hasked, ?_, ?_⟩
        · exact if_pos heq
        · exact if_pos heq
      · exact Or.inr ⟨id, value, hle, hasked, if_neg heq, if_neg heq⟩

namespace SeatWorld

/-- No message about one of its seats is overtaken. -/
def InOrder (w : SeatWorld) (k : Nat) (message : SeatMessage) : Prop :=
  ∀ earlier ∈ w.inflight.take k, ∀ name ∈ message.about,
    name ∉ earlier.about

/-- What is delivered is in order, reports no seat there is a `LogindSeat` for
already, and does not repeat that a seat is graphical. -/
def Orderly (w : SeatWorld) : SeatWorldEvent → Prop
  | .deliver k => ∀ message, w.inflight[k]? = some message →
      w.InOrder k message ∧ w.daemon.Unreported message ∧
        w.daemon.News message
  | _ => True

/-- The object has yet to hear from logind. -/
def Asking (queries : List SeatQuery) (name : QString) : Option Nat → Prop
  | none => True
  | some id => ⟨id, name⟩ ∈ queries

/-- What will be known of a seat is true, or is still asked for. -/
def SettlesAs (w : SeatWorld) (name : QString) : Option KnownSeat → Prop
  | none => w.logind.lookup name = none ∨ w.listing = true
  | some s => ∃ value, w.logind.lookup name = some value ∧
      (Asking w.queries name s.id ∨ s.canGraphical = value)

/-- What will be known of a seat once the messages have arrived in order. -/
def foretold (w : SeatWorld) (name : QString) : Option KnownSeat :=
  future (SeatMessage.actOn name) (w.daemon.known name) w.inflight

structure Synced (w : SeatWorld) : Prop where
  registered : w.daemon.Registered
  nodup : ∀ message ∈ w.inflight, message.reports.Nodup
  asks : ∀ query ∈ w.queries, w.daemon.Asks query
  replies : ∀ query reply, .canGraphical query reply ∈ w.inflight →
    w.daemon.Asks query
  settles : ∀ name, w.SettlesAs name (w.foretold name)

/-- The rule for a message of logind: what it foretells has to be true. -/
theorem Synced.send {w w' : SeatWorld} {message : SeatMessage}
    (h : w.Synced) (hdaemon : w'.daemon = w.daemon)
    (hinflight : w'.inflight = w.inflight)
    (hqueries : ∀ query ∈ w'.queries, query ∈ w.queries)
    (hnodup : message.reports.Nodup)
    (hreply : ∀ query reply, message = .canGraphical query reply →
      w.daemon.Asks query)
    (hsettles : ∀ name, w.SettlesAs name (w.foretold name) →
      w'.SettlesAs name (message.actOn name (w.foretold name))) :
    (w'.send message).Synced := by
  refine ⟨?_, ?_, ?_, ?_, ?_⟩
  · exact hdaemon ▸ h.registered
  · intro m hm
    rw [SeatWorld.send, List.mem_append, List.mem_singleton, hinflight] at hm
    rcases hm with hm | rfl
    · exact h.nodup m hm
    · exact hnodup
  · intro query hquery
    exact hdaemon ▸ h.asks query (hqueries query hquery)
  · intro query reply hm
    rw [SeatWorld.send, List.mem_append, List.mem_singleton, hinflight] at hm
    rw [SeatWorld.send, hdaemon]
    rcases hm with hm | rfl
    · exact h.replies query reply hm
    · exact hreply query reply rfl
  · intro name
    have hforetold : (w'.send message).foretold name =
        message.actOn name (w.foretold name) := by
      simp only [foretold, SeatWorld.send, hdaemon, hinflight, future_concat]
    rw [hforetold]
    exact hsettles name (h.settles name)

/-- A message delivered in order does to what is known of a name what was
foretold of it. -/
theorem foretold_of_inOrder {w : SeatWorld} {k : Nat} {message : SeatMessage}
    (hget : w.inflight[k]? = some message) (horder : w.InOrder k message)
    (name : QString) :
    w.foretold name = future (SeatMessage.actOn name)
      (message.actOn name (w.daemon.known name)) (w.inflight.eraseIdx k) := by
  have hsplit := eq_take_append_drop hget
  rw [foretold, List.eraseIdx_eq_take_drop_succ]
  conv_lhs => rw [hsplit]
  by_cases habout : name ∈ message.about
  · apply future_deliver
    exact fun m hm =>
      SeatMessage.silent_of_not_about (horder m hm name habout)
  · have hsilent := SeatMessage.silent_of_not_about habout
    rw [hsilent, future_skip hsilent]

theorem SettlesAs.congr {w w' : SeatWorld} {name : QString}
    {known : Option KnownSeat} (h : w.SettlesAs name known)
    (hlookup : w'.logind.lookup name = w.logind.lookup name)
    (hlisting : w'.listing = w.listing)
    (hqueries : ∀ id, ⟨id, name⟩ ∈ w.queries → known.map KnownSeat.id =
      some (some id) → ⟨id, name⟩ ∈ w'.queries) :
    w'.SettlesAs name known := by
  cases known with
  | none => exact h.imp hlookup.trans hlisting.trans
  | some s =>
      obtain ⟨value, hvalue, hcase⟩ := h
      refine ⟨value, hlookup.trans hvalue, hcase.imp_left fun hasking => ?_⟩
      cases hid : s.id with
      | none => trivial
      | some id =>
          rw [hid] at hasking
          exact hqueries id hasking (congrArg some hid)

/-- Delivering a message in order changes nothing that is foretold, but that
new objects have asked. -/
theorem Synced.deliverAt {w : SeatWorld} {k : Nat} {message : SeatMessage}
    (h : w.Synced) (hget : w.inflight[k]? = some message)
    (horder : w.InOrder k message) (hnew : w.daemon.Unreported message)
    (hnews : w.daemon.News message) : (w.deliverAt k message).Synced := by
  have hmessage := List.mem_of_getElem? hget
  have hrest : ∀ m, m ∈ w.inflight.eraseIdx k → m ∈ w.inflight :=
    fun m hm => List.mem_of_mem_eraseIdx hm
  obtain ⟨hregistered, hkeeps, hasks, hlabels⟩ :=
    SeatManager.received_receive h.registered (h.nodup message hmessage) hnew
      hnews fun query reply heq => h.replies query reply (heq ▸ hmessage)
  refine ⟨hregistered, fun m hm => h.nodup m (hrest m hm), ?_, ?_, ?_⟩
  · intro query hquery
    rcases List.mem_append.1 hquery with hquery | hquery
    · exact hkeeps.asks (h.asks query hquery)
    · exact hasks query hquery
  · exact fun query reply hm =>
      hkeeps.asks (h.replies query reply (hrest _ hm))
  · intro name
    have hlabel : SeatManager.Labels name w.daemon.logindSeats.length
        (w.daemon.receive message).2 ((w.deliverAt k message).foretold name)
        (w.foretold name) := by
      rw [foretold_of_inOrder hget horder name]
      refine future_related (fun m hm v u => ?_) (hlabels name)
      apply SeatManager.Labels.actOn
      rintro query reply rfl
      obtain ⟨seat, hseat, _⟩ := h.replies query reply (hrest _ hm)
      exact (List.getElem?_eq_some_iff.1 hseat).1
    have hsettled := h.settles name
    rcases hlabel with heq | ⟨id, value, _, hasked, heq, hfuture⟩
    · rw [heq]
      exact hsettled.congr rfl rfl fun id hasked _ =>
        List.mem_append_left _ hasked
    · rw [hfuture] at hsettled
      rw [heq]
      obtain ⟨value, hvalue, _⟩ := hsettled
      exact ⟨value, hvalue, Or.inl (List.mem_append_right _ hasked)⟩

theorem Synced.seatNew {w : SeatWorld} (h : w.Synced) (name : QString)
    (graphical : Bool) : (w.step (.seatNew name graphical)).Synced := by
  refine h.send rfl rfl (fun _ => id) (List.nodup_singleton name) ?_ ?_
  · rintro _ _ ⟨⟩
  · intro n hn
    by_cases heq : name = n
    · subst heq
      simp only [SeatMessage.actOn, if_true]
      exact ⟨graphical, AList.lookup_insert .., Or.inl trivial⟩
    · simp only [SeatMessage.actOn, if_neg heq]
      exact hn.congr (AList.lookup_insert_ne (Ne.symm heq)) rfl
        fun _ hid _ => hid

theorem Synced.seatRemoved {w : SeatWorld} (h : w.Synced) (name : QString) :
    (w.step (.seatRemoved name)).Synced := by
  refine h.send rfl rfl (fun _ => id) List.nodup_nil ?_ ?_
  · rintro _ _ ⟨⟩
  · intro n hn
    by_cases heq : name = n
    · subst heq
      simp only [SeatMessage.actOn, if_true]
      exact Or.inl (AList.lookup_erase ..)
    · simp only [SeatMessage.actOn, if_neg heq]
      exact hn.congr (AList.lookup_erase_ne (Ne.symm heq)) rfl
        fun _ hid _ => hid

/-- Logind notifies of the value it has. -/
theorem Synced.notify {w : SeatWorld} (h : w.Synced)
    {name interface : QString} {changed : Option Bool}
    (hname : name ∈ w.logind) :
    (w.step (.notify name interface changed)).Synced := by
  refine h.send rfl rfl (fun _ => id) List.nodup_nil ?_ ?_
  · rintro _ _ ⟨⟩
  · intro n hn
    by_cases hmatters : name = n ∧ interface = Logind.seatIfaceName
    · obtain ⟨rfl, rfl⟩ := hmatters
      simp only [SeatMessage.actOn, and_self, if_true]
      cases changed with
      | none =>
          have hsame : (w.foretold name).map (fun s => { s with
              canGraphical := (none : Option Bool).getD s.canGraphical }) =
              w.foretold name := Option.map_id'
          rw [hsame]
          exact hn.congr rfl rfl fun _ hid _ => hid
      | some value =>
          cases hknown : w.foretold name with
          | none =>
              rw [hknown] at hn
              have hlisted : w.logind.lookup name ≠ none := fun hnone =>
                AList.lookup_eq_none.1 hnone hname
              exact Or.inr (hn.resolve_left hlisted)
          | some s =>
              refine ⟨value, ?_, Or.inr rfl⟩
              simp only [notified, if_true]
              exact AList.lookup_insert ..
    · simp only [SeatMessage.actOn, if_neg hmatters]
      refine hn.congr ?_ rfl fun _ hid _ => hid
      cases changed with
      | none => rfl
      | some value =>
          simp only [notified]
          split
          next hiface =>
            exact AList.lookup_insert_ne fun heq =>
              hmatters ⟨heq.symm, hiface⟩
          next => rfl

theorem Synced.answerList {w : SeatWorld} (h : w.Synced) :
    (w.step .answerList).Synced := by
  refine h.send rfl rfl (fun _ => id) w.logind.keys_nodup ?_ ?_
  · rintro _ _ ⟨⟩
  · intro n hn
    by_cases hmem : n ∈ w.logind.keys
    · simp only [SeatMessage.actOn, if_pos hmem]
      obtain ⟨value, hvalue⟩ :=
        Option.isSome_iff_exists.1 (AList.lookup_isSome.2 hmem)
      exact ⟨value, hvalue, Or.inl trivial⟩
    · simp only [SeatMessage.actOn, if_neg hmem]
      cases hknown : w.foretold n with
      | none => exact Or.inl (AList.lookup_eq_none.2 hmem)
      | some s =>
          rw [hknown] at hn
          exact hn

/-- The answer to a query is the value logind has. -/
theorem Synced.answerQuery {w : SeatWorld} (h : w.Synced) (k : Nat) :
    (w.step (.answerQuery k)).Synced := by
  unfold step
  cases hget : w.queries[k]? with
  | none =>
      simp only [hget]
      exact h
  | some query =>
      simp only [hget]
      have hquery := List.mem_of_getElem? hget
      refine h.send rfl rfl (fun _ => List.mem_of_mem_eraseIdx) List.nodup_nil ?_ ?_
      · rintro _ _ ⟨⟩
        exact h.asks query hquery
      · intro n hn
        have hkept : ∀ id, id ≠ query.id ∨ n ≠ query.name →
            ⟨id, n⟩ ∈ w.queries → ⟨id, n⟩ ∈ w.queries.eraseIdx k := by
          intro id hne hmem
          obtain ⟨j, hj, heq⟩ := List.mem_iff_getElem.1 hmem
          refine List.mem_eraseIdx_iff_getElem.2 ⟨j, hj, ?_, heq⟩
          rintro rfl
          rw [List.getElem?_eq_getElem hj, heq] at hget
          cases hget
          exact hne.elim (absurd rfl) (absurd rfl)
        by_cases heq : query.name = n
        · subst heq
          cases hknown : w.foretold query.name with
          | none =>
              rw [hknown] at hn
              simp only [SeatMessage.actOn, if_true]
              exact hn
          | some s =>
              rw [hknown] at hn
              simp only [SeatMessage.actOn, if_true, Option.map_some]
              by_cases hid : s.id = some query.id
              · obtain ⟨value, hvalue, _⟩ := hn
                simp only [if_pos hid, hvalue]
                exact ⟨value, hvalue, Or.inr rfl⟩
              · simp only [if_neg hid]
                refine hn.congr rfl rfl fun id hmem hsome => ?_
                refine hkept id (Or.inl ?_) hmem
                rintro rfl
                exact hid (Option.some.inj hsome)
        · simp only [SeatMessage.actOn, if_neg heq]
          exact hn.congr rfl rfl fun id hmem _ =>
            hkept id (Or.inr (Ne.symm heq)) hmem

theorem Synced.step {w : SeatWorld} {e : SeatWorldEvent} (h : w.Synced)
    (he : w.Enabled e) (ho : w.Orderly e) : (w.step e).Synced := by
  cases e with
  | seatNew name graphical => exact h.seatNew name graphical
  | seatRemoved name => exact h.seatRemoved name
  | notify name interface changed => exact h.notify he
  | answerList => exact h.answerList
  | answerQuery k => exact h.answerQuery k
  | deliver k =>
      unfold SeatWorld.step
      cases hget : w.inflight[k]? with
      | none =>
          simp only [hget]
          exact h
      | some message =>
          obtain ⟨horder, hnew, hnews⟩ := ho message hget
          simp only [hget]
          exact h.deliverAt hget horder hnew hnews

theorem synced_start (logind : AList fun _ : QString => Bool) :
    (start logind).Synced := by
  refine ⟨⟨?_, ?_, ?_, ?_⟩, ?_, ?_, ?_, ?_⟩
  · rintro name id ⟨⟩
  · rintro id seat ⟨⟩
  · intro name
    exact iff_of_false (Finset.notMem_empty name) (by rintro ⟨id, ⟨⟩⟩)
  · exact fun name => ⟨rfl, rfl⟩
  · rintro message ⟨⟩
  · rintro query ⟨⟩
  · rintro query reply ⟨⟩
  · exact fun name => Or.inr rfl

/-- Once nothing is on its way, what is known is true. -/
theorem Synced.agrees {w : SeatWorld} (h : w.Synced) (hquiet : w.Quiet) :
    w.Agrees := by
  obtain ⟨hlisting, hqueries, hinflight⟩ := hquiet
  intro name
  have hsettled := h.settles name
  rw [foretold, hinflight, future_nil] at hsettled
  have hheld : name ∈ w.daemon.seats ↔ w.logind.lookup name = some true := by
    rw [h.registered.held]
    cases hknown : w.daemon.known name with
    | none =>
        rw [hknown] at hsettled
        have hnone : w.logind.lookup name = none := by
          simpa [SettlesAs, hlisting] using hsettled
        simp [hnone]
    | some s =>
        obtain ⟨id, seat, _, _, rfl⟩ :=
          SeatManager.Registered.systemSeats_of_known hknown
        rw [hknown] at hsettled
        obtain ⟨value, hvalue, hcase⟩ := hsettled
        have hsame : seat.canGraphical = value := by
          simpa [Asking, hqueries] using hcase
        simp [hvalue, hsame]
  have honce := h.registered.once name
  simp only [hheld] at honce
  exact ⟨hheld, honce⟩

end SeatWorld

/-- In every run whose deliveries are orderly the registries agree with logind
whenever nothing is on its way. -/
theorem runs_agrees (logind : AList fun _ : QString => Bool)
    {es : List SeatWorldEvent} (hes : seatWorld.Runs (.start logind) es)
    (horderly : seatWorld.Guarded SeatWorld.Orderly (.start logind) es)
    (hquiet : (seatWorld.exec (.start logind) es).Quiet) :
    (seatWorld.exec (.start logind) es).Agrees := by
  have hboth : seatWorld.Guarded (fun w e => w.Enabled e ∧ w.Orderly e)
      (.start logind) es := fun st hst => ⟨hes st hst, horderly st hst⟩
  exact (seatWorld.exec_invariant (fun w e hw he => hw.step he.1 he.2)
    (SeatWorld.synced_start logind) hboth).agrees hquiet

namespace SeatWorld

instance (w : SeatWorld) (e : SeatWorldEvent) : Decidable (w.Enabled e) :=
  match e with
  | .seatNew name _ => inferInstanceAs (Decidable (name ∉ w.logind))
  | .seatRemoved name => inferInstanceAs (Decidable (name ∈ w.logind))
  | .notify name _ _ => inferInstanceAs (Decidable (name ∈ w.logind))
  | .answerList => inferInstanceAs (Decidable (w.listing = true))
  | .answerQuery k => inferInstanceAs (Decidable (k < w.queries.length))
  | .deliver k => inferInstanceAs (Decidable (k < w.inflight.length))

instance (w : SeatWorld) (es : List SeatWorldEvent) :
    Decidable (seatWorld.Runs w es) :=
  inferInstanceAs (Decidable (seatWorld.Guarded SeatWorld.Enabled w es))

instance (m : SeatManager) (message : SeatMessage) :
    Decidable (m.News message) :=
  match message with
  | .propertiesChanged name interface (some true) =>
      inferInstanceAs (Decidable (interface = Logind.seatIfaceName →
        ∀ seat ∈ m.logindSeats, seat.alive = true → seat.name = name →
          seat.canGraphical = false))
  | .propertiesChanged _ _ (some false) | .propertiesChanged _ _ none
  | .listSeats _ | .seatNew _ | .seatRemoved _ | .canGraphical _ _ =>
      inferInstanceAs (Decidable True)

theorem orderly_deliver_iff {w : SeatWorld} {k : Nat} {message : SeatMessage}
    (h : w.inflight[k]? = some message) :
    w.Orderly (.deliver k) ↔
      (∀ earlier ∈ w.inflight.take k, ∀ name ∈ message.about,
          ∀ other ∈ earlier.about, name ≠ other) ∧
        (∀ name ∈ message.reports, w.daemon.systemSeats name = none) ∧
        w.daemon.News message := by
  simp only [ne_eq, List.forall_mem_ne]
  constructor
  · exact fun horder => horder message h
  · intro horder message' heq
    rw [h, Option.some.injEq] at heq
    exact heq ▸ horder

instance (w : SeatWorld) (e : SeatWorldEvent) : Decidable (w.Orderly e) :=
  match e with
  | .deliver k =>
      match h : w.inflight[k]? with
      | none =>
          .isTrue fun message heq =>
            absurd (heq.symm.trans h) (Option.some_ne_none message)
      | some message =>
          decidable_of_iff
            ((∀ earlier ∈ w.inflight.take k, ∀ name ∈ message.about,
                ∀ other ∈ earlier.about, name ≠ other) ∧
              (∀ name ∈ message.reports, w.daemon.systemSeats name = none) ∧
              w.daemon.News message)
            (orderly_deliver_iff h).symm
  | .seatNew _ _ | .seatRemoved _ | .notify _ _ _ | .answerList
  | .answerQuery _ => inferInstanceAs (Decidable True)

end SeatWorld

/-- A seat that is there already and one that becomes graphical later. -/
def hotplug : List SeatWorldEvent :=
  [.answerList, .deliver 0, .seatNew "seat1" false, .deliver 0,
    .answerQuery 1, .notify "seat1" Logind.seatIfaceName (some true),
    .answerQuery 0, .deliver 2, .deliver 0, .deliver 0]

theorem runs_agrees_hotplug :
    (seatWorld.exec (.start (AList.singleton "seat0" true))
      hotplug).Agrees := by
  apply runs_agrees
  · decide
  · decide
  · exact ⟨rfl, rfl, rfl⟩

/-- A seat is plugged in before logind answers, which then reports it once
more. -/
def reportedTwice : List SeatWorldEvent :=
  [.seatNew "seat1" true, .answerList, .deliver 0, .deliver 0,
    .answerQuery 0, .answerQuery 0, .deliver 0, .deliver 0]

/-- The seat gets two `Seat` objects, though every message is delivered in
order. -/
theorem runs_not_agrees :
    seatWorld.Runs (.start ∅) reportedTwice ∧
      (seatWorld.exec (.start ∅) reportedTwice).Quiet ∧
      ¬ (seatWorld.exec (.start ∅) reportedTwice).Agrees := by
  refine ⟨by decide, ⟨rfl, rfl, rfl⟩, fun hagrees => ?_⟩
  exact absurd (hagrees "seat1").2.1 (by decide)

end PlasmaLogin

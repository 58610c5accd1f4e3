/-
The terminals a seat switches to when one of its displays has stopped: that of
the session the display has returned to, or that of the last display left.
-/
import PlasmaLogin.StoppedOnce
import PlasmaLogin.Attempts
import PlasmaLogin.VirtualTerminals

namespace PlasmaLogin

open Mealy

/-- The event with the terminal `setUpNewVt` finds while it is answered. -/
def DisplayEvent.withNewVt (vt : Int32) : DisplayEvent → DisplayEvent
  | .start ctx => .start { ctx with newVt := vt }
  | .displayServerStarted ctx => .displayServerStarted { ctx with newVt := vt }
  | .login ctx s user password session =>
      .login { ctx with newVt := vt } s user password session
  | e => e

/-- What `Seat::createDisplay` reads, with what the terminals of the seat
answer: `lookup` is `none` on a seat without any. -/
structure NewTerminalDisplay where
  new : NewDisplay
  lookup : Option VtLookup
  start : Option VtMaster

def NewTerminalDisplay.newDisplay (r : NewTerminalDisplay) : NewDisplay where
  construction := { r.new.construction with
    availableVt := r.lookup.map fetchAvailableVt }
  ctx := { r.new.ctx with newVt := VirtualTerminal.setUpNewVt r.start }

/-- What `Seat::displayStopped` reads; there is no TTY without logind. -/
structure TerminalRestart where
  tTY : Option QString
  new : NewTerminalDisplay

def TerminalRestart.restart (r : TerminalRestart) : Restart where
  reusedVt := r.tTY.map sessionVt
  new := r.new.newDisplay

/-- What can happen to a seat, with the answers of its terminals. -/
inductive TerminalEvent where
  | firstLoginElsewhere
  | switchToGreeter (sessions : Option (List SeatSession))
      (new : NewTerminalDisplay)
  | display (index : Nat) (event : DisplayEvent) (fd : Option VtMaster)
      (restart : TerminalRestart)

/-- The event of a display with the terminal it finds. -/
def DisplayEvent.answered (e : DisplayEvent) (fd : Option VtMaster) :
    DisplayEvent :=
  e.withNewVt (VirtualTerminal.setUpNewVt fd)

def TerminalEvent.seatEvent : TerminalEvent → SeatEvent
  | .firstLoginElsewhere => .firstLoginElsewhere
  | .switchToGreeter sessions new => .switchToGreeter sessions new.newDisplay
  | .display i e fd restart => .display i (e.answered fd) restart.restart

/-- A seat with its terminals. -/
def terminalMachine : Machine Seat TerminalEvent SeatEffect where
  enabled m e := m.Enabled e.seatEvent
  step m e := m.answer e.seatEvent

instance (m : Seat) (es : List TerminalEvent) :
    Decidable (terminalMachine.Runs m es) :=
  inferInstanceAs (Decidable
    (∀ st ∈ terminalMachine.steps m es, st.before.Enabled st.event.seatEvent))

/-- The seats a daemon creates. -/
def Seat.createOn (name : QString) (firstloginLock : Bool)
    (new : NewTerminalDisplay) : Seat :=
  create name firstloginLock new.newDisplay

namespace NewTerminalDisplay

/-- The terminals that a new display may fall back to are numbered. -/
structure Numbered (r : NewTerminalDisplay) : Prop where
  lookup : ∀ l ∈ r.lookup, ∀ fd ∈ l.new, fd.Numbered
  start : ∀ fd ∈ r.start, fd.Numbered

end NewTerminalDisplay

/-- No terminal the event may fall back to has the number zero. -/
def TerminalEvent.Numbered : TerminalEvent → Prop
  | .firstLoginElsewhere => True
  | .switchToGreeter _ new => new.Numbered
  | .display _ _ fd restart => (∀ m ∈ fd, m.Numbered) ∧ restart.new.Numbered

/-- The display has returned to a session. -/
def Display.HasReturned (d : Display) : Prop :=
  ∃ c id, d.reuseSessionId = some (c :: id)

instance (d : Display) : Decidable d.HasReturned :=
  match h : d.reuseSessionId with
  | some (c :: id) => isTrue ⟨c, id, h⟩
  | none | some [] => isFalse fun ⟨_, _, hid⟩ => by simp [h] at hid

namespace Seat

/-- The TTY that is read when a display stops is a virtual terminal. -/
def ReadsVt (m : Seat) : TerminalEvent → Prop
  | .display i e fd restart => ∀ d ∈ m.displays[i]?,
      stops (d.answer (e.answered fd)).2 ≠ 0 → d.HasReturned →
        ∀ tTY ∈ restart.tTY, IsVt tTY
  | _ => True

instance (m : Seat) (e : TerminalEvent) : Decidable (m.ReadsVt e) :=
  match e with
  | .display i e fd restart => inferInstanceAs (Decidable
      (∀ d ∈ m.displays[i]?, stops (d.answer (e.answered fd)).2 ≠ 0 →
        d.HasReturned → ∀ tTY ∈ restart.tTY, IsVt tTY))
  | .firstLoginElsewhere | .switchToGreeter _ _ => isTrue trivial

end Seat

/-- Only terminals are switched to, and from a display that has returned to a
session, that of the session. -/
structure SwitchesToTerminals (st : Step Seat TerminalEvent SeatEffect) :
    Prop where
  real : ∀ vt, SeatEffect.jumpToVt vt ∈ st.outputs → 1 ≤ vt
  own : ∀ i e fd restart, st.event = .display i e fd restart →
    ∀ d ∈ st.before.displays[i]?, d.HasReturned → ∀ tTY ∈ restart.tTY,
      ∀ vt, SeatEffect.jumpToVt vt ∈ st.outputs →
        ∃ n ∈ ttyNumber tTY, vt.toInt = n

namespace Display

/-- The terminal numbers a display has are those of terminals. -/
structure OnTerminals (d : Display) : Prop where
  terminal : IsTerminalId d.terminalId
  session : d.auth.isActive = true → IsTerminalId d.sessionTerminalId

/-- What keeps a display on its terminals. -/
structure SameTerminals (d d' : Display) : Prop where
  terminal : d'.terminalId = d.terminalId
  session : d'.sessionTerminalId = d.sessionTerminalId
  active : d'.auth.isActive = true → d.auth.isActive = true

theorem OnTerminals.currentTerminalId {d : Display} (h : d.OnTerminals) :
    IsTerminalId d.currentTerminalId := by
  rw [Display.currentTerminalId]
  split
  next hactive => exact h.session hactive
  · exact h.terminal

theorem OnTerminals.same {d d' : Display} (h : d.OnTerminals)
    (hsame : SameTerminals d d') : d'.OnTerminals where
  terminal := by
    rw [hsame.terminal]
    exact h.terminal
  session hactive := by
    rw [hsame.session]
    exact h.session (hsame.active hactive)

theorem SameTerminals.of_frame {d d' : Display} (h : d' = { d' with
    terminalId := d.terminalId, sessionTerminalId := d.sessionTerminalId,
    auth := { d'.auth with child := d.auth.child } }) :
    SameTerminals d d' where
  terminal := (congrArg Display.terminalId h :)
  session := (congrArg Display.sessionTerminalId h :)
  active hactive := by
    have hchild : d'.auth.child = d.auth.child :=
      (congrArg (fun d : Display => d.auth.child) h :)
    rwa [Auth.isActive, hchild] at hactive

theorem SameTerminals.trans {d d' d'' : Display} (h : SameTerminals d d')
    (h' : SameTerminals d' d'') : SameTerminals d d'' where
  terminal := h'.terminal.trans h.terminal
  session := h'.session.trans h.session
  active := h.active ∘ h'.active

theorem ClosesTo.sameTerminals {d d' : Display} (h : ClosesTo d d') :
    SameTerminals d d' where
  terminal := (congrArg Display.terminalId h.frame :)
  session := (congrArg Display.sessionTerminalId h.frame :)
  active hactive := by
    rcases h.child with hchild | hchild
    · rwa [Auth.isActive, hchild] at hactive
    · simp [Auth.isActive, hchild] at hactive

theorem sameTerminals_dataPending (frame : HelperFrame) (d : Display) :
    SameTerminals d (d.dataPending frame).1 := by
  have hverdict : ∀ (success : Bool) (d : Display),
      SameTerminals d (d.slotAuthenticationFinished success).1 := by
    intro success d
    unfold slotAuthenticationFinished
    split <;> exact SameTerminals.of_frame rfl
  cases frame with
  | request r =>
      rw [dataPending_request]
      unfold slotRequestChanged
      split <;> exact SameTerminals.of_frame rfl
  | authenticated user =>
      rw [dataPending_authenticated]
      cases user with
      | nil => exact hverdict false d
      | cons c user =>
          exact (SameTerminals.of_frame rfl).trans
            (hverdict true { d with auth := d.auth.setUser (c :: user) })
  | sessionStatus status =>
      cases status <;> exact SameTerminals.of_frame rfl
  | _ => exact SameTerminals.of_frame rfl

theorem sameTerminals_start {ctx : Context} {d : Display}
    (h : d.acceptedAttempt (.start ctx) = none) :
    SameTerminals d (d.answer (.start ctx)).1 := by
  unfold answer start
  simp only
  split
  · exact SameTerminals.of_frame rfl
  next hstopped =>
    split
    next hvalid =>
      have hrefused : (!d.auth.isActive && d.autologinSession.startable) =
          false := by
        simpa [acceptedAttempt, attemptOf, hstopped, hvalid] using h
      obtain ⟨phrase, hrefuse⟩ := startAuth_refused ctx ctx.autologinUser []
        (d := { d with startOwed := false, started := true,
                       auth := d.auth.setAutologin true }) hrefused
      rw [hrefuse]
      exact SameTerminals.of_frame rfl
    · exact SameTerminals.of_frame rfl

/-- Without an accepted attempt a display stays on its terminals. -/
theorem sameTerminals_answer {d : Display} {e : DisplayEvent}
    (h : d.acceptedAttempt e = none) : SameTerminals d (d.answer e).1 := by
  cases e with
  | start ctx => exact sameTerminals_start h
  | displayServerStarted ctx =>
      obtain ⟨greeter, hframe⟩ := d.answer_displayServerStarted_frame ctx
      rw [hframe]
      exact SameTerminals.of_frame rfl
  | login ctx s user password session =>
      obtain ⟨phrase, effects, hframe, _⟩ := answer_login_of_refused h
      rw [hframe]
      exact SameTerminals.of_frame rfl
  | helperFrame frame => exact sameTerminals_dataPending frame d
  | helperError failed text =>
      refine ⟨rfl, rfl, fun hactive => ?_⟩
      cases failed with
      | false => exact hactive
      | true => simp [answer, dropFailed, Auth.isActive] at hactive
  | greeterFrame frame => cases frame <;> exact SameTerminals.of_frame rfl
  | newConnection s => exact SameTerminals.of_frame rfl
  | connectionClosed s => exact SameTerminals.of_frame rfl
  | greeterError failed => exact SameTerminals.of_frame rfl
  | _ =>
      refine SameTerminals.trans ?_ (d.closes_answer rfl).state.sameTerminals
      exact SameTerminals.of_frame rfl

theorem attemptOf_withNewVt {d : Display} {e : DisplayEvent} {vt : Int32}
    {t : Attempt} (h : d.attemptOf (e.withNewVt vt) = some t) :
    t.ctx.newVt = vt := by
  cases e with
  | start ctx =>
      simp only [DisplayEvent.withNewVt, attemptOf,
        Option.ite_none_left_eq_some] at h
      obtain ⟨_, heq⟩ := h
      cases heq
      rfl
  | login ctx s user password session =>
      simp only [DisplayEvent.withNewVt, attemptOf,
        Option.ite_none_left_eq_some] at h
      obtain ⟨_, heq⟩ := h
      cases heq
      rfl
  | _ => simp [DisplayEvent.withNewVt, attemptOf] at h

/-- A display that finds numbered terminals stays on terminals. -/
theorem OnTerminals.answer {d : Display} (h : d.OnTerminals) {vt : Int32}
    (hvt : IsTerminalId vt) (e : DisplayEvent) :
    (d.answer (e.withNewVt vt)).1.OnTerminals := by
  cases haccepted : d.acceptedAttempt (e.withNewVt vt) with
  | none => exact h.same (sameTerminals_answer haccepted)
  | some t =>
      rw [answer_of_accepted haccepted]
      have hnew := attemptOf_withNewVt
        (acceptedAttempt_eq_some_iff.1 haccepted).1
      have hterminal : (d.attemptBase (e.withNewVt vt)).terminalId =
          d.terminalId := by
        cases e <;> rfl
      refine ⟨?_, fun _ => ?_⟩
      · change IsTerminalId (d.attemptBase (e.withNewVt vt)).terminalId
        rw [hterminal]
        exact h.terminal
      · change IsTerminalId
          ((d.attemptBase (e.withNewVt vt)).newSessionTerminal t.ctx)
        rw [newSessionTerminal]
        split
        · rwa [hnew]
        · rw [hterminal]
          exact h.terminal

/-- An event that makes a display stop leaves it the session it has returned
to. -/
theorem reuseSessionId_of_stops {d : Display} {e : DisplayEvent}
    (h : stops (d.answer e).2 ≠ 0) :
    (d.answer e).1.reuseSessionId = d.reuseSessionId := by
  cases haccepted : d.acceptedAttempt e with
  | some t =>
      rw [answer_of_accepted haccepted] at h
      exact absurd rfl h
  | none =>
      rw [(answer_quiet haccepted).kept.reuseSessionId,
        reported_reuseSessionId]

/-- A display is constructed on terminals. -/
theorem onTerminals_construct {r : NewTerminalDisplay} (h : r.Numbered)
    (lock : Bool) :
    (construct r.newDisplay.construction lock).1.OnTerminals where
  terminal := by
    change IsTerminalId ((r.lookup.map fetchAvailableVt).getD (-1))
    cases hlookup : r.lookup with
    | none => exact Or.inl rfl
    | some l => exact isTerminalId_fetchAvailableVt (h.lookup l hlookup)
  session hactive := by
    change Auth.isActive { id := r.newDisplay.construction.authId } = true
      at hactive
    simp [Auth.isActive] at hactive

end Display

namespace Seat

/-- Every display of the seat is on terminals. -/
def OnTerminals (m : Seat) : Prop := ∀ d ∈ m.displays, d.OnTerminals

theorem OnTerminals.createDisplay {m : Seat} (h : m.OnTerminals)
    {r : NewTerminalDisplay} (hr : r.Numbered) :
    (m.createDisplay r.newDisplay).1.OnTerminals := by
  intro d hd
  rcases List.mem_append.1 hd with hd | hd
  · exact h d hd
  · rw [List.mem_singleton.1 hd]
    exact (Display.onTerminals_construct hr m.firstloginLock).answer
      (VirtualTerminal.isTerminalId_setUpNewVt hr.start) (.start r.new.ctx)

theorem OnTerminals.displayStopped {m : Seat} (h : m.OnTerminals) (i : Nat)
    {r : TerminalRestart} (hr : r.new.Numbered) :
    (m.displayStopped i r.restart).1.OnTerminals := by
  unfold Seat.displayStopped
  simp only
  split
  · exact OnTerminals.createDisplay (m := m.removeDisplay i) h hr
  · exact h

theorem OnTerminals.react {m : Seat} (h : m.OnTerminals) (i : Nat)
    {r : TerminalRestart} (hr : r.new.Numbered) (x : DisplayEffect) :
    (m.react i r.restart x).1.OnTerminals := by
  cases x with
  | stopped => exact h.displayStopped i hr
  | _ => exact h

theorem OnTerminals.deliver {m : Seat} (h : m.OnTerminals) (i : Nat)
    {r : TerminalRestart} (hr : r.new.Numbered) (xs : List DisplayEffect) :
    (deliver i r.restart xs m).1.OnTerminals := by
  induction xs generalizing m with
  | nil => exact h
  | cons x xs ih => exact ih (h.react i hr x)

theorem OnTerminals.setDisplay {m : Seat} (h : m.OnTerminals) {i : Nat}
    {d : Display} (hd : d.OnTerminals) : (m.setDisplay i d).OnTerminals := by
  intro d' hd'
  rcases List.mem_or_eq_of_mem_set hd' with hd' | rfl
  · exact h d' hd'
  · exact hd

theorem OnTerminals.answered {m : Seat} (h : m.OnTerminals) {i : Nat}
    {d : Display} (hd : m.displays[i]? = some d) (e : DisplayEvent)
    {fd : Option VtMaster} (hfd : ∀ m ∈ fd, m.Numbered) :
    (m.setDisplay i (d.answer (e.answered fd)).1).OnTerminals :=
  h.setDisplay ((h d (List.mem_of_getElem? hd)).answer
    (VirtualTerminal.isTerminalId_setUpNewVt hfd) e)

/-- Whatever happens, the displays stay on terminals. -/
theorem OnTerminals.answer {m : Seat} (h : m.OnTerminals) {e : TerminalEvent}
    (he : e.Numbered) : (m.answer e.seatEvent).1.OnTerminals := by
  cases e with
  | firstLoginElsewhere => exact h
  | switchToGreeter sessions new =>
      simp only [TerminalEvent.seatEvent, Seat.answer, switchToGreeter]
      split
      · exact h
      · exact h.createDisplay he
  | display i e fd restart =>
      simp only [TerminalEvent.seatEvent, Seat.answer]
      split
      · exact h
      next d hd => exact (h.answered hd e he.1).deliver i he.2 _

/-- The last display left is on a terminal, if on any. -/
theorem OnTerminals.lastTerminal {m : Seat} (h : m.OnTerminals) {vt : Int32}
    (hvt : m.lastTerminal = some vt) : 1 ≤ vt := by
  rw [Seat.lastTerminal, Option.filter_eq_some_iff, decide_eq_true_eq] at hvt
  obtain ⟨hlast, hne⟩ := hvt
  obtain ⟨j, _, hj⟩ := Option.bind_eq_some_iff.1 hlast
  obtain ⟨d, hd, rfl⟩ := Option.map_eq_some_iff.1 hj
  exact (h d (List.mem_of_getElem? hd)).currentTerminalId.resolve_left hne

theorem createDisplay_no_jump (new : NewDisplay) (m : Seat) (vt : Int32) :
    SeatEffect.jumpToVt vt ∉ (m.createDisplay new).2 := by
  intro hmem
  obtain ⟨x, hx, _⟩ := createDisplay_effects new m _ hmem
  cases hx

/-- Where `displayStopped` switches to. -/
theorem jump_mem_displayStopped (i : Nat) (restart : Restart) (m : Seat)
    (vt : Int32) :
    SeatEffect.jumpToVt vt ∈ (m.displayStopped i restart).2 ↔
      m.reusedTerminal i restart = some vt ∨
        m.reusedTerminal i restart = none ∧
          (m.removeDisplay i).listed.isEmpty = false ∧
            (m.removeDisplay i).lastTerminal = some vt := by
  have hnew := createDisplay_no_jump restart.new (m.removeDisplay i) vt
  simp only [displayStopped, List.mem_append, List.mem_singleton,
    Option.mem_toList, Option.map_eq_some_iff, SeatEffect.jumpToVt.injEq,
    reduceCtorEq, or_false, exists_eq_right]
  cases hempty : (m.removeDisplay i).listed.isEmpty with
  | true => simp [hnew]
  | false => simp [Option.or_eq_some_iff]

theorem jump_mem_react (i : Nat) (restart : Restart) (m : Seat)
    (x : DisplayEffect) (vt : Int32) :
    SeatEffect.jumpToVt vt ∈ (m.react i restart x).2 ↔
      x = .stopped ∧
        SeatEffect.jumpToVt vt ∈ (m.displayStopped i restart).2 := by
  cases x <;> simp [react, displayServerFailed]

theorem reusedTerminal_of_grown {m m' : Seat}
    (h : m.displays <+: m'.displays) {i : Nat} (hi : i < m.displays.length)
    (restart : Restart) :
    m'.reusedTerminal i restart = m.reusedTerminal i restart := by
  have hsame := getElem?_of_grown h (List.getElem?_eq_getElem hi)
  rw [reusedTerminal, reusedTerminal, hsame, List.getElem?_eq_getElem hi]

/-- The session's terminal is found if and only if there is a session. -/
theorem reusedTerminal_eq {m : Seat} {i : Nat} {d : Display}
    (hd : m.displays[i]? = some d) (restart : Restart) (vt : Int32) :
    m.reusedTerminal i restart = some vt ↔
      d.HasReturned ∧ restart.reusedVt = some vt := by
  rw [reusedTerminal, hd, Option.bind_some, Display.HasReturned]
  cases hreuse : d.reuseSessionId with
  | none => simp
  | some id => cases id <;> simp

/-- A terminal that is switched to is that of the session, or one of the
displays is on it. -/
theorem OnTerminals.jump_of_deliver {m : Seat} (h : m.OnTerminals) {i : Nat}
    (hi : i < m.displays.length) {r : TerminalRestart} (hr : r.new.Numbered)
    {xs : List DisplayEffect} {vt : Int32}
    (hjump : SeatEffect.jumpToVt vt ∈ (Seat.deliver i r.restart xs m).2) :
    stops xs ≠ 0 ∧ (m.reusedTerminal i r.restart = some vt ∨
      m.reusedTerminal i r.restart = none ∧ 1 ≤ vt) := by
  induction xs generalizing m with
  | nil => exact absurd hjump List.not_mem_nil
  | cons x xs ih =>
      rcases List.mem_append.1 hjump with hjump | hjump
      · obtain ⟨rfl, hstopped⟩ := (jump_mem_react i r.restart m x vt).1
          (List.mem_of_ne_of_mem (by simp) hjump)
        refine ⟨?_, ?_⟩
        · rw [stops, List.countP_cons_of_pos rfl]
          exact Nat.succ_ne_zero _
        · rcases (jump_mem_displayStopped i r.restart m vt).1 hstopped with
            hreused | ⟨hnone, _, hlast⟩
          · exact Or.inl hreused
          · exact Or.inr ⟨hnone,
              OnTerminals.lastTerminal (m := m.removeDisplay i) h hlast⟩
      · have hgrown := react_displays i r.restart m x
        have hrest := ih (h.react i hr x)
          (Nat.lt_of_lt_of_le hi hgrown.length_le) hjump
        rw [reusedTerminal_of_grown hgrown hi] at hrest
        refine ⟨?_, hrest.2⟩
        rw [stops, List.countP_cons]
        exact Nat.ne_of_gt (Nat.lt_add_right _ (Nat.pos_of_ne_zero hrest.1))

/-- When a display that has returned to a session stops, the terminal of the
session is switched to. -/
theorem jump_mem_deliver {m : Seat} {i : Nat} (hi : i < m.displays.length)
    {restart : Restart} {vt : Int32}
    (hreused : m.reusedTerminal i restart = some vt)
    {xs : List DisplayEffect} (hstops : stops xs ≠ 0) :
    SeatEffect.jumpToVt vt ∈ (deliver i restart xs m).2 := by
  induction xs generalizing m with
  | nil => exact absurd rfl hstops
  | cons x xs ih =>
      cases hx : x.isStopped with
      | true =>
          obtain rfl : x = .stopped := by
            cases x <;> simp_all [DisplayEffect.isStopped]
          refine List.mem_append_left _ (List.mem_cons_of_mem _ ?_)
          rw [jump_mem_react]
          exact ⟨rfl, (jump_mem_displayStopped i restart m vt).2
            (Or.inl hreused)⟩
      | false =>
          rw [stops, List.countP_cons_of_neg (by simp [hx])] at hstops
          have hgrown := react_displays i restart m x
          refine List.mem_append_right _
            (ih (Nat.lt_of_lt_of_le hi hgrown.length_le) ?_ hstops)
          rwa [reusedTerminal_of_grown hgrown hi]

/-- What is read when a display stops, with the display before it. -/
theorem reusedTerminal_answered {m : Seat} {i : Nat} {d : Display}
    (hd : m.displays[i]? = some d) {e : DisplayEvent}
    (hstops : stops (d.answer e).2 ≠ 0) (r : TerminalRestart) (vt : Int32) :
    (m.setDisplay i (d.answer e).1).reusedTerminal i r.restart = some vt ↔
      d.HasReturned ∧ ∃ tTY ∈ r.tTY, sessionVt tTY = vt := by
  obtain ⟨hi, _⟩ := List.getElem?_eq_some_iff.1 hd
  rw [reusedTerminal_eq (List.getElem?_set_self hi), Display.HasReturned,
    Display.reuseSessionId_of_stops hstops]
  exact and_congr_right fun _ => Option.map_eq_some_iff

theorem fire_display_outputs {m : Seat} {i : Nat} {d : Display}
    (hd : m.displays[i]? = some d) (e : DisplayEvent)
    (fd : Option VtMaster) (r : TerminalRestart) :
    (terminalMachine.fire m (.display i e fd r)).outputs =
      (Seat.deliver i r.restart (d.answer (e.answered fd)).2
        (m.setDisplay i (d.answer (e.answered fd)).1)).2 := by
  change (m.answer (.display i (e.answered fd) r.restart)).2 = _
  rw [Seat.answer, hd]

/-- A jump belongs to a display that stops, and goes to the terminal of its
reused session or to one that is stored. -/
theorem OnTerminals.jump_of_display {m : Seat} (h : m.OnTerminals)
    {i : Nat} {d : Display} (hd : m.displays[i]? = some d) {e : DisplayEvent}
    {fd : Option VtMaster} {r : TerminalRestart}
    (he : (TerminalEvent.display i e fd r).Numbered) {vt : Int32}
    (hmem : SeatEffect.jumpToVt vt ∈
      (terminalMachine.fire m (.display i e fd r)).outputs) :
    stops (d.answer (e.answered fd)).2 ≠ 0 ∧
      ((m.setDisplay i (d.answer (e.answered fd)).1).reusedTerminal i
          r.restart = some vt ∨
        (m.setDisplay i (d.answer (e.answered fd)).1).reusedTerminal i
          r.restart = none ∧ 1 ≤ vt) := by
  obtain ⟨hlength, _⟩ := List.getElem?_eq_some_iff.1 hd
  have hi : i < (m.setDisplay i
      (d.answer (e.answered fd)).1).displays.length :=
    Nat.lt_of_lt_of_eq hlength List.length_set.symm
  rw [fire_display_outputs hd] at hmem
  exact (h.answered hd e he.1).jump_of_deliver hi he.2 hmem

theorem OnTerminals.display_switches_iff {m : Seat} (h : m.OnTerminals)
    {i : Nat} {d : Display} (hd : m.displays[i]? = some d) (e : DisplayEvent)
    {fd : Option VtMaster} {r : TerminalRestart}
    (he : (TerminalEvent.display i e fd r).Numbered) :
    SwitchesToTerminals (terminalMachine.fire m (.display i e fd r)) ↔
      (stops (d.answer (e.answered fd)).2 ≠ 0 → d.HasReturned →
        ∀ tTY ∈ r.tTY, IsVt tTY) := by
  obtain ⟨hlength, _⟩ := List.getElem?_eq_some_iff.1 hd
  have hi : i < (m.setDisplay i
      (d.answer (e.answered fd)).1).displays.length :=
    Nat.lt_of_lt_of_eq hlength List.length_set.symm
  constructor
  · intro hswitches hstops hreturned tTY htTY
    have hreused := (reusedTerminal_answered hd hstops r (sessionVt tTY)).2
      ⟨hreturned, tTY, htTY, rfl⟩
    have hmem := jump_mem_deliver hi hreused hstops
    rw [← fire_display_outputs hd] at hmem
    exact (sessionVt_iff tTY).1 ⟨hswitches.real _ hmem,
      hswitches.own i e fd r rfl d hd hreturned tTY htTY _ hmem⟩
  · intro hreads
    refine ⟨fun vt hmem => ?_, ?_⟩
    · obtain ⟨hstops, hreused | ⟨_, hpos⟩⟩ := h.jump_of_display hd he hmem
      · obtain ⟨hreturned, tTY, htTY, rfl⟩ :=
          (reusedTerminal_answered hd hstops r vt).1 hreused
        exact ((sessionVt_iff tTY).2
          (hreads hstops hreturned tTY htTY)).1
      · exact hpos
    · intro i' e' fd' r' heq d' hd' hreturned tTY htTY vt hmem
      cases heq
      obtain rfl : d = d' := Option.some.inj (hd.symm.trans hd')
      obtain ⟨hstops, hreused⟩ := h.jump_of_display hd he hmem
      have hown := (reusedTerminal_answered hd hstops r (sessionVt tTY)).2
        ⟨hreturned, tTY, htTY, rfl⟩
      obtain rfl : sessionVt tTY = vt := by
        rw [hown] at hreused
        simpa using hreused
      exact ((sessionVt_iff tTY).2 (hreads hstops hreturned tTY htTY)).2

theorem switchToGreeter_no_jump (sessions : Option (List SeatSession))
    (new : NewDisplay) (m : Seat) (vt : Int32) :
    SeatEffect.jumpToVt vt ∉ (m.switchToGreeter sessions new).2 := by
  rw [switchToGreeter]
  split
  · simp
  · exact createDisplay_no_jump new m vt

/-- One step: only terminals are switched to if and only if a TTY that is read
is one. -/
theorem OnTerminals.switches_iff {m : Seat} (h : m.OnTerminals)
    {e : TerminalEvent} (he : e.Numbered) :
    SwitchesToTerminals (terminalMachine.fire m e) ↔ m.ReadsVt e := by
  cases e with
  | firstLoginElsewhere =>
      refine iff_of_true ⟨fun vt hvt => absurd hvt List.not_mem_nil, ?_⟩ trivial
      intro i e fd restart heq
      cases heq
  | switchToGreeter sessions new =>
      refine iff_of_true ⟨fun vt hvt => absurd hvt ?_, ?_⟩ trivial
      · exact switchToGreeter_no_jump sessions new.newDisplay m vt
      · intro i e fd restart heq
        cases heq
  | display i e fd restart =>
      cases hd : m.displays[i]? with
      | none =>
          have hsilent : (terminalMachine.fire m
              (.display i e fd restart)).outputs = [] := by
            change (m.answer (.display i (e.answered fd) restart.restart)).2 = _
            rw [Seat.answer, hd]
          refine iff_of_true ⟨fun vt hvt => ?_, ?_⟩ ?_
          · simp [hsilent] at hvt
          · intro i e fd restart heq d' hd' hreturned tTY htTY vt hvt
            simp [hsilent] at hvt
          · intro d hd'
            simp [hd] at hd'
      | some d =>
          rw [h.display_switches_iff hd e he]
          simp [ReadsVt, hd]

theorem onTerminals_createOn {name : QString} {lock : Bool}
    {new : NewTerminalDisplay} (hnew : new.Numbered) :
    (createOn name lock new).OnTerminals :=
  OnTerminals.createDisplay (m := { name := name, firstloginLock := lock })
    (fun _ hd => absurd hd List.not_mem_nil) hnew

end Seat

open Seat in
/-- Where the console never reports the terminal zero, a seat switches to
terminals only, and to its sessions' own, if and only if every TTY it reads is
a virtual terminal. -/
theorem steps_switchToTerminals_iff (name : QString) (lock : Bool)
    (new : NewTerminalDisplay) (es : List TerminalEvent)
    (hnew : new.Numbered) (hnumbered : ∀ e ∈ es, e.Numbered) :
    (∀ st ∈ terminalMachine.steps (createOn name lock new) es,
        SwitchesToTerminals st) ↔
      terminalMachine.Guarded ReadsVt (createOn name lock new) es := by
  have hfine : terminalMachine.Guarded (fun _ e => e.Numbered)
      (createOn name lock new) es := by
    intro st hst
    obtain ⟨pre, e, post, rfl, rfl⟩ := (terminalMachine.mem_steps_iff _ _ _).1 hst
    exact hnumbered e (by simp)
  have hon := terminalMachine.steps_invariant (I := OnTerminals)
    (fun m e h he => h.answer he) (onTerminals_createOn hnew) hfine
  have hstep : ∀ st ∈ terminalMachine.steps (createOn name lock new) es,
      SwitchesToTerminals st ↔ st.before.ReadsVt st.event := by
    intro st hst
    have hbefore := hon st hst
    have hevent := hfine st hst
    obtain ⟨pre, e, post, hes, rfl⟩ :=
      (terminalMachine.mem_steps_iff _ _ _).1 hst
    exact hbefore.switches_iff hevent
  exact forall₂_congr hstep

/-- A display on the first terminal. -/
def firstTerminal : NewTerminalDisplay where
  new := Seat.plainDisplay
  lookup := some ⟨some [], some ⟨some 2, some 1⟩, some [], none⟩
  start := none

/-- bob returns to his session and leaves it, and logind answers with the
given TTY. -/
def bobReturns (tTY : QString) : List TerminalEvent :=
  let restart : TerminalRestart := ⟨some tTY, firstTerminal⟩
  [.display 0 (.displayServerStarted {}) none restart,
    .display 0 (.newConnection 7) none restart,
    .display 0 (.login { logind := some [⟨"c2", "bob", "plasmalogin",
      "online"⟩] } 7 "bob" "hunter2" .plasma) none
      restart,
    .display 0 (.helperFinished ⟨0, .normalExit, []⟩ []) none restart]

/-- The terminal number of a switch. -/
def SeatEffect.switchedTo : SeatEffect → Option Int32
  | .jumpToVt vt => some vt
  | _ => none

/-- A switch is one to a terminal. -/
def SeatEffect.isReal : SeatEffect → Bool
  | .jumpToVt vt => 1 ≤ vt
  | _ => true

theorem numbered_firstTerminal : firstTerminal.Numbered where
  lookup l hl fd hfd := by
    cases hl
    cases hfd
  start fd hfd := by cases hfd

theorem numbered_bobReturns (tTY : QString) :
    ∀ e ∈ bobReturns tTY, e.Numbered := by
  intro e he
  simp only [bobReturns, List.mem_cons, List.not_mem_nil, or_false] at he
  rcases he with rfl | rfl | rfl | rfl <;>
    exact ⟨by simp, numbered_firstTerminal⟩

open Seat in
/-- The seat switches to the terminal of bob's session. -/
theorem steps_switchToTerminals_iff_tty3 :
    (terminalMachine.outputs (createOn "seat0" false firstTerminal)
        (bobReturns "tty3")).filterMap SeatEffect.switchedTo = [3] ∧
      ∀ st ∈ terminalMachine.steps (createOn "seat0" false firstTerminal)
        (bobReturns "tty3"), SwitchesToTerminals st :=
  ⟨by decide, (steps_switchToTerminals_iff "seat0" false firstTerminal _
    numbered_firstTerminal (numbered_bobReturns _)).2 (by decide)⟩

open Seat in
/-- logind no longer knows the session, and the seat switches to terminal
zero. -/
theorem steps_not_switchToTerminals :
    ¬ ∀ (name : QString) (lock : Bool) (new : NewTerminalDisplay)
      (es : List TerminalEvent),
        terminalMachine.Runs (createOn name lock new) es →
          ∀ st ∈ terminalMachine.steps (createOn name lock new) es,
            SwitchesToTerminals st := by
  intro hall
  have hswitches := hall "seat0" false firstTerminal (bobReturns "")
    (by decide) _ ((terminalMachine.mem_steps_iff _ _ _).2
      ⟨(bobReturns "").dropLast, _, [], rfl, rfl⟩)
  have hjump : ¬ ((terminalMachine.fire
      (terminalMachine.exec (createOn "seat0" false firstTerminal)
        (bobReturns "").dropLast) (.display 0
          (.helperFinished ⟨0, .normalExit, []⟩ []) none
            ⟨some "", firstTerminal⟩)).outputs.all SeatEffect.isReal) := by
    decide
  refine hjump (List.all_eq_true.2 fun x hx => ?_)
  cases x with
  | jumpToVt vt => exact decide_eq_true (hswitches.real vt hx)
  | _ => rfl

end PlasmaLogin

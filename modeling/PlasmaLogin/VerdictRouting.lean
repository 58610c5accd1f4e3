/-
Where the display sends what a helper's frames say.  It goes to the connection
of the last Login, accepted or not, until a verdict or the end of the
connection makes the display forget it.
-/
import PlasmaLogin.HelperChannel

namespace PlasmaLogin

open Mealy

namespace Display

/-- Whether a frame makes the display tell the connection it remembers. -/
def tells (d : Display) : HelperFrame → Bool
  | .error _ _ | .info _ _ | .unexpected _ => true
  | .authenticated user => !(d.auth.autologin && user.isEmpty)
  | _ => false

/-- Everybody a slot tells something. -/
def recipients (effects : List DisplayEffect) : List SocketId :=
  effects.filterMap DisplayEffect.recipient

@[simp] theorem recipients_append (xs ys : List DisplayEffect) :
    recipients (xs ++ ys) = recipients xs ++ recipients ys :=
  List.filterMap_append

theorem mem_recipients {s : SocketId} {effects : List DisplayEffect} :
    s ∈ recipients effects ↔ ∃ x ∈ effects, x.recipient = some s :=
  List.mem_filterMap

theorem recipients_slotAuthError (message : QString) (error : AuthError)
    (d : Display) (s : SocketId) :
    s ∈ recipients (d.slotAuthError message error) ↔ d.socket = some s := by
  rw [slotAuthError]
  cases d.socket with
  | none => simp [recipients]
  | some s' =>
      by_cases h : error = .authentication <;>
        simp [recipients, h, DisplayEffect.recipient, eq_comm]

theorem recipients_slotAuthInfo (message : QString) (d : Display)
    (s : SocketId) :
    s ∈ recipients (d.slotAuthInfo message) ↔ d.socket = some s := by
  rw [slotAuthInfo]
  cases d.socket with
  | none => simp [recipients]
  | some s' => simp [recipients, DisplayEffect.recipient, eq_comm]

theorem recipients_slotAuthenticationFinished (success : Bool) (d : Display)
    (s : SocketId) :
    s ∈ recipients (d.slotAuthenticationFinished success).2 ↔
      (d.auth.autologin && !success) = false ∧ d.socket = some s := by
  cases hfallback : d.auth.autologin && !success with
  | true => simp [slotAuthenticationFinished, hfallback, recipients]
  | false =>
      simp only [slotAuthenticationFinished, hfallback]
      cases success <;> cases d.reuseSessionId <;> cases d.socket <;>
        simp [recipients, DisplayEffect.recipient, eq_comm]

/-- A frame is told to the connection that is remembered, if it is told. -/
theorem recipients_dataPending (d : Display) (frame : HelperFrame)
    (s : SocketId) :
    s ∈ recipients (d.dataPending frame).2 ↔
      d.tells frame = true ∧ d.socket = some s := by
  cases frame with
  | error message type =>
      rw [dataPending, recipients_slotAuthError]
      simp [tells]
  | info message type =>
      rw [dataPending, recipients_slotAuthInfo]
      simp [tells]
  | request r =>
      rw [dataPending_request, slotRequestChanged]
      split
      · simp [recipients, tells]
      · simp [recipients, tells, DisplayEffect.recipient]
  | authenticated user =>
      rw [dataPending_authenticated]
      cases user with
      | nil =>
          simp only [List.isEmpty_nil, ↓reduceIte]
          rw [recipients_slotAuthenticationFinished]
          simp [tells]
      | cons c user =>
          simp only [List.isEmpty_cons, Bool.false_eq_true, ↓reduceIte,
            andThen_snd, recipients_append, List.mem_append]
          rw [recipients_slotAuthenticationFinished]
          simp [tells, recipients, DisplayEffect.recipient]
  | sessionStatus status =>
      simp [dataPending, recipients, tells, DisplayEffect.recipient]
  | displayServerStarted name =>
      simp [dataPending, recipients, tells, DisplayEffect.recipient]
  | unexpected msg =>
      rw [dataPending, recipients_slotAuthError]
      simp [tells]

/-- Reading a frame keeps the connection or forgets it. -/
theorem dataPending_socket (frame : HelperFrame) (d : Display) :
    (d.dataPending frame).1.socket = d.socket ∨
      (d.dataPending frame).1.socket = none := by
  have hslot : ∀ (success : Bool) (d : Display),
      (d.slotAuthenticationFinished success).1.socket = d.socket ∨
        (d.slotAuthenticationFinished success).1.socket = none := by
    intro success d
    unfold slotAuthenticationFinished
    split
    · exact Or.inl rfl
    · exact Or.inr rfl
  cases frame with
  | authenticated user =>
      rw [dataPending_authenticated]
      split
      · exact hslot false d
      · exact hslot true { d with auth := d.auth.setUser user }
  | _ => exact Or.inl (answer_socket (e := .helperFrame _) rfl d)

end Display

/-- What the frames of a helper say is told to the connection whose Login
started that helper, or to nobody. -/
def TellsAsker (st : RosterStep) : Prop :=
  ∀ frame, st.event = .reads frame → ∀ x ∈ st.outputs, ∀ s,
    x.recipient = some s → ∃ h ∈ st.before.sender, h.asker = some s

namespace Roster

/-- A frame that is told is read when nobody is remembered or when the last
Login came from the connection that asked for its helper. -/
def Addressed (c : Roster) : RosterEvent → Prop
  | .reads frame => c.display.tells frame = true →
      c.display.socket = none ∨ ∀ h ∈ c.sender, h.asker = c.asked
  | _ => True

instance (c : Roster) : (e : RosterEvent) → Decidable (c.Addressed e)
  | .announces _ => .isTrue trivial
  | .reads frame => inferInstanceAs (Decidable
      (c.display.tells frame = true →
        c.display.socket = none ∨ ∀ h ∈ c.sender, h.asker = c.asked))
  | .occurs _ => .isTrue trivial

/-- The display remembers the connection of the last Login or none. -/
def RemembersAsked (c : Roster) : Prop :=
  c.display.socket = c.asked ∨ c.display.socket = none

theorem RemembersAsked.step {c : Roster} {e : RosterEvent}
    (h : RemembersAsked c) (henabled : c.Enabled e) :
    RemembersAsked (c.answer e).1 := by
  cases e with
  | announces i => exact h
  | reads frame =>
      rcases Display.dataPending_socket frame c.display with hkept | hgone
      · exact h.imp hkept.trans hkept.trans
      · exact Or.inr hgone
  | occurs e =>
      cases hlogin : e.isLogin with
      | true =>
          cases e with
          | login ctx s user password session =>
              exact Or.inl
                (c.display.answer_login ctx s user password session).2.1
          | _ => simp [DisplayEvent.isLogin] at hlogin
      | false =>
          have hasks : e.asks = none := by
            cases e <;> first | rfl | simp [DisplayEvent.isLogin] at hlogin
          have hasked : (c.answer (.occurs e)).1.asked = c.asked := by
            change e.asks.or c.asked = c.asked
            rw [hasks, Option.none_or]
          rw [RemembersAsked, hasked]
          rcases Display.answer_socket_or henabled.2.1 hlogin c.display with
            hkept | hgone
          · exact h.imp hkept.trans hkept.trans
          · exact Or.inr hgone

/-- The step of a read frame does what it should just when it is addressed. -/
theorem RemembersAsked.tellsAsker_iff {c : Roster} {e : RosterEvent}
    (h : RemembersAsked c) (henabled : c.Enabled e) :
    TellsAsker (rosterMachine.fire c e) ↔ c.Addressed e := by
  cases e with
  | announces i => exact ⟨fun _ => trivial, fun _ frame hframe => by cases hframe⟩
  | occurs e => exact ⟨fun _ => trivial, fun _ frame hframe => by cases hframe⟩
  | reads frame =>
      have htold := c.display.recipients_dataPending frame
      constructor
      · intro hasker htells
        rcases h with hasked | hnone
        · cases hsocket : c.display.socket with
          | none => exact Or.inl rfl
          | some s =>
              obtain ⟨x, hx, hs⟩ := Display.mem_recipients.1
                ((htold s).2 ⟨htells, hsocket⟩)
              obtain ⟨helper, hsender, hlogin⟩ := hasker frame rfl x hx s hs
              refine Or.inr fun helper' hsender' => ?_
              obtain rfl : helper = helper' :=
                Option.some.inj (hsender.symm.trans hsender')
              rw [hlogin, ← hasked, hsocket]
        · exact Or.inl hnone
      · intro haddressed frame' hframe x hx s hs
        obtain rfl : frame = frame' := RosterEvent.reads.inj hframe
        obtain ⟨htells, hsocket⟩ :=
          (htold s).1 (Display.mem_recipients.2 ⟨x, hx, hs⟩)
        obtain ⟨helper, hsender⟩ := Option.isSome_iff_exists.1 henabled
        refine ⟨helper, hsender, ?_⟩
        rcases haddressed htells with hnone | hlogin
        · rw [hnone] at hsocket
          cases hsocket
        · rcases h with hasked | hnone
          · rw [hlogin helper hsender, ← hasked, hsocket]
          · rw [hnone] at hsocket
            cases hsocket

end Roster

open Roster in
/-- The frames of helpers are told to those who asked for the helpers if and
only if each of them is addressed when it is read. -/
theorem steps_tellsAsker_iff (seatName : QString) (terminalId : Int32)
    (authId : Int64) (autologinSession : Session) (es : List RosterEvent)
    (hrun : rosterMachine.Runs
      (create seatName terminalId authId autologinSession) es) :
    (∀ st ∈ rosterMachine.steps
      (create seatName terminalId authId autologinSession) es,
        TellsAsker st) ↔
      rosterMachine.Guarded Addressed
        (create seatName terminalId authId autologinSession) es := by
  apply forall₂_congr
  intro st hst
  have hremembers : st.before.RemembersAsked :=
    rosterMachine.steps_invariant (G := Roster.Enabled)
      (fun _ _ h he => h.step he) (Or.inr rfl) hrun st hst
  have henabled : st.before.Enabled st.event := hrun st hst
  obtain ⟨pre, e, post, -, rfl⟩ := (rosterMachine.mem_steps_iff _ es st).1 hst
  exact hremembers.tellsAsker_iff henabled

namespace RosterEvent

/-- bob's Login comes while alice's helper runs. -/
def bobJoins : RosterEvent :=
  .occurs (.login {} 8 "bob" "hunter2" .plasma)

/-- The helper reports its user. -/
def reportsAlice : RosterEvent := .reads (.authenticated "alice")

end RosterEvent

open Roster RosterEvent in
/-- alice's greeter hears of alice's login. -/
theorem steps_tellsAsker_alice :
    TellsAsker (rosterMachine.fire
      (rosterMachine.exec (create "seat0" 1 1 {}) aliceHelper)
      reportsAlice) :=
  (steps_tellsAsker_iff "seat0" 1 1 {} (aliceHelper ++ [reportsAlice])
    (by decide)).2 (by decide) _
    ((rosterMachine.mem_steps_iff _ _ _).2
      ⟨aliceHelper, reportsAlice, [], rfl, rfl⟩)

open Roster RosterEvent in
/-- bob's greeter hears of alice's login. -/
theorem steps_not_tellsAsker :
    ¬ ∀ (seatName : QString) (terminalId : Int32) (authId : Int64)
      (autologinSession : Session) (es : List RosterEvent),
        rosterMachine.Runs
            (create seatName terminalId authId autologinSession) es →
          ∀ st ∈ rosterMachine.steps
            (create seatName terminalId authId autologinSession) es,
              TellsAsker st := by
  intro hall
  have hasker := hall "seat0" 1 1 {} (aliceHelper ++ [bobJoins, reportsAlice])
    (by decide)
    _ ((rosterMachine.mem_steps_iff _ _ _).2
      ⟨aliceHelper ++ [bobJoins], reportsAlice, [], rfl, rfl⟩)
  obtain ⟨h, hsender, hlogin⟩ := hasker _ rfl (.loginSucceeded 8)
    (List.mem_cons_self ..) 8 rfl
  obtain rfl : StartedHelper.mk _ _ = h := Option.some.inj hsender
  exact absurd hlogin (by decide)

end PlasmaLogin

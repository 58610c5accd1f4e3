/-
Whose secrets answer whose requests, and who hears of it.  A display is run
with the helpers it has started and with the one its channel belongs to;
frames stay readable in a channel when the helper that sent them is gone, and
until the next helper has announced itself.  What the helpers send is left
open here.
-/
import PlasmaLogin.LoginAnswers
import PlasmaLogin.RequestReplies

namespace PlasmaLogin

open Mealy

namespace Display

/-- The attempt an event makes, when it gets past the guard of `startAuth`;
its pass phrase is noted whether or not the helper starts. -/
def notedAttempt (d : Display) (e : DisplayEvent) : Option Attempt :=
  (d.attemptOf e).filter fun _ => !d.auth.isActive

theorem notedAttempt_of_attemptOf {d : Display} {e : DisplayEvent}
    {t : Attempt} (h : d.attemptOf e = some t) :
    d.notedAttempt e = if d.auth.isActive then none else some t := by
  rw [notedAttempt, h, Option.filter_some]
  cases d.auth.isActive <;> rfl

theorem notedAttempt_of_accepted {d : Display} {e : DisplayEvent}
    {t : Attempt} (h : d.acceptedAttempt e = some t) :
    d.notedAttempt e = some t := by
  obtain ⟨hattempt, hready⟩ := acceptedAttempt_eq_some_iff.1 h
  rw [Bool.and_eq_true, Bool.not_eq_true'] at hready
  rw [notedAttempt_of_attemptOf hattempt, hready.1, if_neg Bool.false_ne_true]

theorem startAuth_passPhrase (ctx : Context) (user password : QString)
    (session : Session) (d : Display) :
    (d.startAuth ctx user password session).1.passPhrase =
      if d.auth.isActive then d.passPhrase else password := by
  rw [startAuth]
  split
  · rfl
  · simp only
    split <;> rfl

theorem slotAuthenticationFinished_passPhrase (success : Bool) (d : Display) :
    (d.slotAuthenticationFinished success).1.passPhrase = d.passPhrase := by
  unfold slotAuthenticationFinished
  split <;> rfl

theorem dataPending_passPhrase (frame : HelperFrame) (d : Display) :
    (d.dataPending frame).1.passPhrase = d.passPhrase := by
  cases frame with
  | request r =>
      rw [dataPending_request, slotRequestChanged]
      split <;> rfl
  | authenticated user =>
      rw [dataPending_authenticated]
      split
      · exact slotAuthenticationFinished_passPhrase false d
      · exact slotAuthenticationFinished_passPhrase true
          { d with auth := d.auth.setUser user }
  | sessionStatus status => cases status <;> rfl
  | _ => rfl

/-- Whichever display server is used, the start of an autologin is a call of
`startAuth`. -/
theorem start_passPhrase (ctx : Context) (d : Display) :
    (d.answer (.start ctx)).1.passPhrase =
      (d.notedAttempt (.start ctx)).elim d.passPhrase Attempt.password := by
  have hphrase := startAuth_passPhrase ctx ctx.autologinUser []
    d.autologinSession { d with
      startOwed := false, started := true,
      auth := d.auth.setAutologin true }
  have hactive : (d.auth.setAutologin true).isActive =
      d.auth.isActive := rfl
  rw [hactive] at hphrase
  rw [answer, Display.start]
  by_cases hstarted : d.started = true
  · simp [notedAttempt, attemptOf, hstarted]
  · by_cases hvalid : d.autologinSession.isValid = true
    · have hattempt : d.attemptOf (.start ctx) =
          some ⟨ctx, ctx.autologinUser, [], d.autologinSession⟩ := by
        simp [attemptOf, hstarted, hvalid]
      rw [notedAttempt_of_attemptOf hattempt]
      simp only [hstarted, hvalid, Bool.false_eq_true, ↓reduceIte]
      split
      · rw [hphrase]
        split <;> rfl
      · change (Display.startAuth ..).1.passPhrase = _
        rw [hphrase]
        split <;> rfl
    · simp [notedAttempt, attemptOf, hstarted, hvalid]

/-- The pass phrase is the one of the last call of `startAuth` that got past
the guard. -/
theorem answer_passPhrase (d : Display) (e : DisplayEvent) :
    (d.answer e).1.passPhrase =
      (d.notedAttempt e).elim d.passPhrase Attempt.password := by
  cases e with
  | start ctx => exact start_passPhrase ctx d
  | login ctx s user password session =>
      rw [answer, login]
      by_cases huser : user = ("plasmalogin" : QString)
      · simp [notedAttempt, attemptOf, huser]
      · have hattempt : d.attemptOf (.login ctx s user password session) =
            some ⟨ctx, user, password, session⟩ := by
          simp [attemptOf, huser]
        rw [notedAttempt_of_attemptOf hattempt]
        simp only [huser, ↓reduceIte, startAuth_passPhrase]
        split <;> rfl
  | displayServerStarted ctx =>
      obtain ⟨_, hframe⟩ := d.answer_displayServerStarted_frame ctx
      rw [hframe]
      rfl
  | helperFrame frame => exact dataPending_passPhrase frame d
  | newConnection s => rfl
  | connectionClosed s => rfl
  | helperError failed text => rfl
  | greeterFrame frame => cases frame <;> rfl
  | greeterError failed => rfl
  | _ => exact (d.closes_answer rfl).state.passPhrase

/-- The user name on the handle changes with an accepted attempt and with the
report of a user. -/
theorem answer_user {d : Display} {e : DisplayEvent}
    (h : d.acceptedAttempt e = none) (hframe : e.frame? = none) :
    (d.answer e).1.auth.user = d.auth.user := by
  have hreported : d.reported e = d := by
    cases e with
    | helperFrame frame => simp [DisplayEvent.frame?] at hframe
    | _ => rfl
  exact (answer_quiet h).kept.user.trans (congrArg (·.auth.user) hreported)

theorem dataPending_user (frame : HelperFrame) (d : Display) :
    (d.dataPending frame).1.auth.user =
      (d.reported (.helperFrame frame)).auth.user :=
  (quiet_dataPending frame d).kept.user

end Display

/-- The connection an event opens. -/
def DisplayEvent.connects : DisplayEvent → Option SocketId
  | .newConnection s => some s
  | _ => none

/-- The connection an effect tells something. -/
def DisplayEffect.recipient : DisplayEffect → Option SocketId
  | .loginFailed s | .loginSucceeded s | .informationMessage s _ => some s
  | _ => none

/-- A helper a display has started, with the attempt it was started for and
the connection whose Login that was; an autologin has none. -/
structure StartedHelper where
  attempt : Attempt
  asker : Option SocketId

/-- A display with its helpers, oldest first.  `bound` is the helper the
channel belongs to, `noted` the one started by the last call of `startAuth`
that got past its guard, when that call started one, and `asked` the
connection of the last Login. -/
structure Roster where
  display : Display
  helpers : List StartedHelper := []
  bound : Option Nat := none
  noted : Option Nat := none
  asked : Option SocketId := none
  opened : List SocketId := []

/-- A helper announces itself, a frame is read from the channel, or something
else reaches the display. -/
inductive RosterEvent where
  | announces (helper : Nat)
  | reads (frame : HelperFrame)
  | occurs (event : DisplayEvent)

namespace Roster

/-- The helper a frame comes from. -/
def sender (c : Roster) : Option StartedHelper :=
  c.bound.bind (c.helpers[·]?)

/-- What can come next; no connection is opened twice. -/
def Enabled (c : Roster) : RosterEvent → Prop
  | .announces i => i < c.helpers.length
  | .reads _ => c.sender.isSome = true
  | .occurs e => c.display.Enabled e ∧ e.frame? = none ∧
      ∀ s ∈ e.connects, s ∉ c.opened

instance (c : Roster) (e : RosterEvent) : Decidable (c.Enabled e) := by
  cases e <;> unfold Enabled <;> infer_instance

/-- The helper an event starts. -/
def starts (c : Roster) (e : DisplayEvent) : Option StartedHelper :=
  (c.display.acceptedAttempt e).map fun t => ⟨t, e.asks⟩

def answer (c : Roster) : RosterEvent → Roster × List DisplayEffect
  | .announces i => ({ c with bound := some i }, [])
  | .reads frame =>
      let r := c.display.dataPending frame
      ({ c with display := r.1 }, r.2)
  | .occurs e =>
      let r := c.display.answer e
      ({ c with
        display := r.1,
        helpers := c.helpers ++ (c.starts e).toList,
        noted := if (c.display.notedAttempt e).isSome then
          (c.starts e).map fun _ => c.helpers.length else c.noted,
        asked := e.asks.or c.asked,
        opened := e.connects.toList ++ c.opened }, r.2)

/-- A display fresh from its constructor. -/
def create (seatName : QString) (terminalId : Int32) (authId : Int64)
    (autologinSession : Session) : Roster :=
  { display := .create seatName terminalId authId autologinSession }

end Roster

/-- A display with its helpers and its greeters. -/
def rosterMachine : Machine Roster RosterEvent DisplayEffect where
  enabled := Roster.Enabled
  step := Roster.answer

instance (c : Roster) (es : List RosterEvent) :
    Decidable (rosterMachine.Runs c es) :=
  inferInstanceAs (Decidable (rosterMachine.Guarded Roster.Enabled c es))

/-- What an event is to the display alone. -/
def RosterEvent.display : RosterEvent → Option DisplayEvent
  | .announces _ => none
  | .reads frame => some (.helperFrame frame)
  | .occurs e => some e

/-- The helpers are bookkeeping: the display runs as it does without. -/
theorem rosterMachine_display (c : Roster) (es : List RosterEvent) :
    (rosterMachine.exec c es).display =
      displayMachine.exec c.display (es.filterMap RosterEvent.display) := by
  induction es generalizing c with
  | nil => rfl
  | cons e es ih =>
      rw [Machine.exec_cons, ih]
      cases e <;> rfl

namespace Roster

/-- A helper joins with each start of one, for the user of its attempt. -/
theorem helperStart_mem_iff (c : Roster) (e : DisplayEvent) (auth : Auth) :
    .helperStart auth ∈ (c.answer (.occurs e)).2 ↔
      ∃ h ∈ c.starts e,
        auth = (c.display.attemptBase e).attemptAuth h.attempt := by
  change .helperStart auth ∈ (c.display.answer e).2 ↔ _
  rw [starts]
  cases haccepted : c.display.acceptedAttempt e with
  | none =>
      constructor
      · intro hstart
        exact absurd hstart
          ((Display.answer_quiet haccepted).no_start auth)
      · rintro ⟨h, hmem, _⟩
        exact absurd hmem (by simp)
  | some t =>
      rw [Display.answer_of_accepted haccepted]
      simp

/-- A helper reports no user but the one it was started for. -/
def Honest (c : Roster) : RosterEvent → Prop
  | .reads (.authenticated user) =>
      user = [] ∨ ∀ h ∈ c.sender, user = h.attempt.user
  | _ => True

/-- A request that gets a reply comes from the helper started by the last call
of `startAuth` past its guard, and so does a user that is reported, if that
call started one. -/
def Current (c : Roster) : RosterEvent → Prop
  | .reads (.request r) =>
      r.prompts.length = 1 ∨ r.prompts.length = 2 → c.bound = c.noted
  | .reads (.authenticated user) => user = [] ∨ ∀ i ∈ c.noted, c.bound = some i
  | _ => True

instance (c : Roster) (e : RosterEvent) : Decidable (c.Honest e) := by
  unfold Honest
  split <;> infer_instance

/-- The pass phrase and the user name at hand are those of the helper that was
noted last. -/
def NotesCredentials (c : Roster) : Prop :=
  ∀ i ∈ c.noted, ∃ h, c.helpers[i]? = some h ∧
    c.display.passPhrase = h.attempt.password ∧
      c.display.auth.user = h.attempt.user

theorem NotesCredentials.reads {c : Roster} (h : NotesCredentials c)
    {frame : HelperFrame} (hhonest : c.Honest (.reads frame))
    (hcurrent : c.Current (.reads frame)) :
    NotesCredentials (c.answer (.reads frame)).1 := by
  intro i hi
  obtain ⟨helper, hhelper, hphrase, huser⟩ := h i hi
  refine ⟨helper, hhelper,
    (Display.dataPending_passPhrase frame c.display).trans hphrase, ?_⟩
  refine (Display.dataPending_user frame c.display).trans ?_
  cases frame with
  | authenticated user =>
      cases user with
      | nil => exact huser
      | cons ch user =>
          have hbound : c.bound = some i :=
            hcurrent.resolve_left (List.cons_ne_nil _ _) i hi
          have hsender : c.sender = some helper := by
            rw [sender, hbound]
            exact hhelper
          exact hhonest.resolve_left (List.cons_ne_nil _ _) helper hsender
  | _ => exact huser

theorem NotesCredentials.occurs {c : Roster} (h : NotesCredentials c)
    {e : DisplayEvent} (hframe : e.frame? = none) :
    NotesCredentials (c.answer (.occurs e)).1 := by
  have hphrase := c.display.answer_passPhrase e
  cases haccepted : c.display.acceptedAttempt e with
  | some t =>
      have hnoted := Display.notedAttempt_of_accepted haccepted
      have hstarts : c.starts e = some ⟨t, e.asks⟩ := by
        rw [starts, haccepted]
        rfl
      intro i hi
      obtain rfl : c.helpers.length = i := by
        simpa [answer, hnoted, hstarts] using hi
      refine ⟨⟨t, e.asks⟩, ?_, ?_, ?_⟩
      · simp [answer, hstarts]
      · rw [hnoted] at hphrase
        exact hphrase
      · change (c.display.answer e).1.auth.user = t.user
        rw [Display.answer_of_accepted haccepted]
        exact (Auth.start_user _).trans (Display.attemptAuth_user _ t)
  | none =>
      have hstarts : c.starts e = none := by
        rw [starts, haccepted]
        rfl
      intro i hi
      cases hnoted : c.display.notedAttempt e with
      | some t => simp [answer, hnoted, hstarts] at hi
      | none =>
          obtain ⟨helper, hhelper, hkept, huser⟩ := h i (by
            simpa [answer, hnoted] using hi)
          refine ⟨helper, ?_, ?_, ?_⟩
          · simpa [answer, hstarts] using hhelper
          · rw [hnoted] at hphrase
            exact hphrase.trans hkept
          · exact (Display.answer_user haccepted hframe).trans huser

theorem NotesCredentials.step {c : Roster} {e : RosterEvent}
    (h : NotesCredentials c) (henabled : c.Enabled e) (hhonest : c.Honest e)
    (hcurrent : c.Current e) : NotesCredentials (c.answer e).1 := by
  cases e with
  | announces i => exact h
  | reads frame => exact h.reads hhonest hcurrent
  | occurs e => exact h.occurs henabled.2.1

end Roster

/-- A step of a display with its helpers. -/
abbrev RosterStep := Step Roster RosterEvent DisplayEffect

namespace Roster

/-- A reply to a request is given when a request of one or two prompts is
read. -/
theorem exists_of_reply {c : Roster} {e : RosterEvent} {reply : Request}
    (henabled : c.Enabled e)
    (h : .helperReply (.request reply) ∈ (c.answer e).2) :
    ∃ r, e = .reads (.request r) ∧
      Display.fillPrompts c.display.auth.user c.display.passPhrase
        r.prompts = some reply.prompts := by
  rw [← Display.mem_helperReplies] at h
  cases e with
  | announces i => exact absurd h List.not_mem_nil
  | occurs e =>
      have hnone := c.display.helperReplies_answer (e := e) (by
        rintro frame rfl
        simp [Enabled, DisplayEvent.frame?] at henabled)
      exact absurd (hnone ▸ h) List.not_mem_nil
  | reads frame =>
      change _ ∈ Display.helperReplies (c.display.dataPending frame).2 at h
      rw [Display.helperReplies_dataPending] at h
      cases frame with
      | request r =>
          obtain ⟨ps, hfill, rfl⟩ : ∃ ps, Display.fillPrompts
              c.display.auth.user c.display.passPhrase r.prompts = some ps ∧
                ⟨ps⟩ = reply := by
            simpa using h
          exact ⟨r, rfl, hfill⟩
      | authenticated user => cases user <;> simp at h
      | _ => simp at h

/-- A reply goes to a helper whose credentials are at hand. -/
theorem NotesCredentials.reply {c : Roster} {e : RosterEvent}
    {reply : Request} (h : NotesCredentials c) (henabled : c.Enabled e)
    (hcurrent : c.Current e)
    (hreply : .helperReply (.request reply) ∈ (c.answer e).2) :
    ∃ r helper, e = .reads (.request r) ∧ c.sender = some helper ∧
      Display.fillPrompts helper.attempt.user helper.attempt.password
        r.prompts = some reply.prompts := by
  obtain ⟨r, rfl, hfill⟩ := exists_of_reply henabled hreply
  have hlength := (Display.fillPrompts_isSome _ _ r.prompts).1
    (Option.isSome_of_eq_some hfill)
  have hbound : c.bound = c.noted := hcurrent hlength
  obtain ⟨helper, hsender⟩ := Option.isSome_iff_exists.1 henabled
  obtain ⟨i, hi, hlookup⟩ := Option.bind_eq_some_iff.1 hsender
  obtain ⟨noted, hnoted, hphrase, huser⟩ := h i (hbound ▸ hi)
  obtain rfl : helper = noted :=
    Option.some.inj (hlookup.symm.trans hnoted)
  rw [hphrase, huser] at hfill
  exact ⟨r, helper, rfl, hsender, hfill⟩

end Roster

namespace RosterEvent

/-- A greeter of alice and one of bob connect, and alice's helper announces
itself. -/
def aliceHelper : List RosterEvent :=
  [.occurs (.start {}), .occurs (.displayServerStarted {}),
    .occurs (.newConnection 7), .occurs (.newConnection 8),
    .occurs (.login {} 7 "alice" "secret" .plasma),
    .announces 0]

end RosterEvent

end PlasmaLogin

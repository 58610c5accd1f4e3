/-
The autologin flag of a display's handle on its helper.  It is set once,
before any greeter can exist, and it is off again before the greeter is asked
for; so no login of a greeter ever meets it.
-/
import PlasmaLogin.Attempts

namespace PlasmaLogin

open Mealy

namespace Display

/-- No greeter is there or on its way. -/
structure NoGreeterYet (d : Display) : Prop where
  owed : d.displayServerStartedOwed = 0
  listening : d.socketServer.listening = false
  connections : d.connections = []

/-- Where the flags of the handle can be on. -/
structure FlagsConfined (d : Display) : Prop where
  greeter : d.auth.greeter = false
  unstarted : d.startOwed = true → d.auth.autologin = false
  alone : d.startOwed = true ∨ d.auth.autologin = true → NoGreeterYet d
  armed : d.auth.autologin = true → d.autologinSession.isValid = true

theorem flagsConfined_create (seatName : QString) (terminalId : Int32)
    (authId : Int64) (autologinSession : Session) :
    FlagsConfined (create seatName terminalId authId autologinSession) where
  greeter := rfl
  unstarted _ := rfl
  alone _ := ⟨rfl, rfl, rfl⟩
  armed h := absurd h (by simp [create])

/-- A slot that leaves the flag alone, or drops it and asks for a greeter. -/
structure Settles (d d' : Display) : Prop where
  startOwed : d'.startOwed = d.startOwed
  autologinSession : d'.autologinSession = d.autologinSession
  listening : d'.socketServer.listening = true →
    d.socketServer.listening = true
  connections : d'.connections ⊆ d.connections
  greeter : d'.auth.greeter = d.auth.greeter
  autologin : d'.auth.autologin = d.auth.autologin ∧
      d'.displayServerStartedOwed = d.displayServerStartedOwed ∨
    d.auth.autologin = true ∧ d'.auth.autologin = false

theorem Settles.of_frame {d d' : Display} (h : d' = { d' with
    startOwed := d.startOwed, autologinSession := d.autologinSession,
    socketServer := d.socketServer, connections := d.connections,
    displayServerStartedOwed := d.displayServerStartedOwed,
    auth := { d'.auth with
      greeter := d.auth.greeter, autologin := d.auth.autologin } }) :
    Settles d d' where
  startOwed := (congrArg Display.startOwed h :)
  autologinSession := (congrArg Display.autologinSession h :)
  listening hl := by
    have hserver : d'.socketServer = d.socketServer :=
      (congrArg Display.socketServer h :)
    exact hserver ▸ hl
  connections := by
    have hsame : d'.connections = d.connections :=
      (congrArg Display.connections h :)
    exact hsame ▸ List.Subset.refl _
  greeter := (congrArg (fun d : Display => d.auth.greeter) h :)
  autologin := Or.inl
    ⟨(congrArg (fun d : Display => d.auth.autologin) h :),
      (congrArg Display.displayServerStartedOwed h :)⟩

theorem Settles.refl (d : Display) : Settles d d :=
  Settles.of_frame rfl

theorem Settles.of_counted {d d' : Display} {e : DisplayEvent}
    (h : Settles (d.counted e) d') : Settles d d' := by
  cases e with
  | greeterStop report waits =>
      exact ⟨h.startOwed, h.autologinSession, h.listening, h.connections,
        h.greeter, h.autologin⟩
  | _ => exact h

theorem ClosesTo.settles {d d' : Display} (h : ClosesTo d d') :
    Settles d d' where
  startOwed := (congrArg Display.startOwed h.frame :)
  autologinSession := (congrArg Display.autologinSession h.frame :)
  listening hl := by
    rcases h.server with heq | heq
    · rwa [heq] at hl
    · rw [heq] at hl
      exact absurd hl (by decide)
  connections := by
    have hsame : d'.connections = d.connections :=
      (congrArg Display.connections h.frame :)
    exact hsame ▸ List.Subset.refl _
  greeter := (congrArg Auth.greeter h.auth_eq :)
  autologin := Or.inl ⟨(congrArg Auth.autologin h.auth_eq :),
    (congrArg Display.displayServerStartedOwed h.frame :)⟩

theorem settles_slotAuthenticationFinished (success : Bool) (d : Display) :
    Settles d (d.slotAuthenticationFinished success).1 := by
  unfold slotAuthenticationFinished
  split
  next h =>
    rw [Bool.and_eq_true] at h
    exact ⟨rfl, rfl, id, List.Subset.refl _, rfl, Or.inr ⟨h.1, rfl⟩⟩
  · exact .of_frame rfl

theorem settles_dataPending (frame : HelperFrame) (d : Display) :
    Settles d (d.dataPending frame).1 := by
  cases frame with
  | request r =>
      rw [dataPending_request]
      unfold slotRequestChanged
      split <;>
        exact .of_frame rfl
  | authenticated user =>
      rw [dataPending_authenticated]
      split
      · exact settles_slotAuthenticationFinished false d
      · have hslot := settles_slotAuthenticationFinished true
          { d with auth := d.auth.setUser user }
        exact ⟨hslot.startOwed, hslot.autologinSession, hslot.listening,
          hslot.connections, hslot.greeter, hslot.autologin⟩
  | sessionStatus status =>
      cases status <;>
        exact .of_frame rfl
  | _ => exact Settles.refl d

theorem settles_login (ctx : Context) (s : SocketId)
    (user password : QString) (session : Session) (d : Display) :
    Settles d (d.answer (.login ctx s user password session)).1 := by
  cases haccepted :
      d.acceptedAttempt (.login ctx s user password session) with
  | some t =>
      rw [answer_of_accepted haccepted]
      obtain ⟨hautologin, hgreeter⟩ := attemptAuth_flags
        (d.attemptBase (.login ctx s user password session)) t
      refine ⟨rfl, rfl, id, List.Subset.refl _, ?_, Or.inl ⟨?_, rfl⟩⟩
      · exact (Auth.start_greeter _).trans hgreeter
      · exact (Auth.start_autologin _).trans hautologin
  | none =>
      obtain ⟨_, _, hframe, _⟩ := answer_login_of_refused haccepted
      rw [hframe]
      exact .of_frame rfl

/-- Whether an event can bring up a display or its greeter. -/
def bringsUp : DisplayEvent → Bool
  | .start _ | .displayServerStarted _ | .newConnection _ => true
  | _ => false

theorem answer_settles (d : Display) {e : DisplayEvent}
    (he : bringsUp e = false) : Settles d (d.answer e).1 := by
  cases e with
  | start ctx => simp [bringsUp] at he
  | displayServerStarted ctx => simp [bringsUp] at he
  | newConnection s => simp [bringsUp] at he
  | connectionClosed s =>
      exact ⟨rfl, rfl, id, List.erase_subset, rfl, Or.inl ⟨rfl, rfl⟩⟩
  | login ctx s user password session => exact settles_login ..
  | helperFrame frame => exact settles_dataPending frame d
  | helperError failed text =>
      cases failed <;>
        exact .of_frame rfl
  | greeterFrame frame =>
      cases frame <;>
        exact .of_frame rfl
  | greeterError failed =>
      exact .of_frame rfl
  | _ => exact Settles.of_counted (d.closes_answer rfl).state.settles

theorem FlagsConfined.of_settles {d d' : Display} (h : FlagsConfined d)
    (hs : Settles d d') : FlagsConfined d' where
  greeter := hs.greeter.trans h.greeter
  unstarted hd := by
    rw [hs.startOwed] at hd
    rcases hs.autologin with ⟨heq, _⟩ | ⟨_, heq⟩
    · rw [heq, h.unstarted hd]
    · exact heq
  alone hd := by
    have hkept : d'.auth.autologin = d.auth.autologin ∧
        d'.displayServerStartedOwed = d.displayServerStartedOwed := by
      rcases hs.autologin with hkept | ⟨hon, hoff⟩
      · exact hkept
      · rcases hd with hd | hd
        · rw [hs.startOwed] at hd
          rw [h.unstarted hd] at hon
          exact absurd hon (by decide)
        · rw [hoff] at hd
          exact absurd hd (by decide)
    rw [hs.startOwed, hkept.1] at hd
    have halone := h.alone hd
    constructor
    · rw [hkept.2, halone.owed]
    · by_contra hl
      rw [Bool.not_eq_false] at hl
      have hlistening := hs.listening hl
      rw [halone.listening] at hlistening
      exact absurd hlistening (by decide)
    · exact List.subset_nil.1 (halone.connections ▸ hs.connections)
  armed hd := by
    rw [hs.autologinSession]
    rcases hs.autologin with ⟨heq, _⟩ | ⟨_, heq⟩
    · exact h.armed (heq ▸ hd)
    · rw [heq] at hd
      exact absurd hd (by decide)

theorem FlagsConfined.start {d : Display} (h : FlagsConfined d)
    (hd : d.startOwed = true) (ctx : Context) :
    FlagsConfined (d.answer (.start ctx)).1 := by
  have halone := h.alone (Or.inl hd)
  have hoff := h.unstarted hd
  cases haccepted : d.acceptedAttempt (.start ctx) with
  | some t =>
      have hattempt := (acceptedAttempt_eq_some_iff.1 haccepted).1
      simp only [attemptOf, Option.ite_none_left_eq_some, Bool.or_eq_true,
        not_or, Bool.not_eq_true, Bool.not_eq_false'] at hattempt
      have hgreeter := (attemptAuth_flags (d.attemptBase (.start ctx)) t).2
      rw [answer_of_accepted haccepted]
      refine ⟨?_, fun hs => absurd hs (by simp [prepared, attemptBase]),
        fun _ => ⟨halone.owed, halone.listening, halone.connections⟩,
        fun _ => hattempt.1.2⟩
      exact (Auth.start_greeter _).trans (hgreeter.trans h.greeter)
  | none =>
      unfold answer Display.start
      simp only
      split
      · exact ⟨h.greeter, fun hs => absurd hs (by simp),
          fun hs => absurd hs (by simp [hoff]),
          fun hs => absurd hs (by simp [hoff])⟩
      next hstopped =>
        split
        next hvalid =>
          have hrefused :
              (!d.auth.isActive && d.autologinSession.startable) = false := by
            simpa [acceptedAttempt, attemptOf, hstopped, hvalid]
              using haccepted
          obtain ⟨phrase, hrefuse⟩ := startAuth_refused ctx
            ctx.autologinUser [] (d := { d with
              startOwed := false, started := true,
              auth := d.auth.setAutologin true }) hrefused
          rw [hrefuse]
          exact ⟨h.greeter, fun _ => rfl,
            fun hs => absurd hs (by simp [handleAutologinFailure,
              Auth.setAutologin]),
            fun hs => absurd hs (by simp [handleAutologinFailure,
              Auth.setAutologin])⟩
        · exact ⟨h.greeter, fun hs => absurd hs (by simp),
            fun hs => absurd hs (by simp [hoff]),
            fun hs => absurd hs (by simp [hoff])⟩

/-- Everything that can happen to a display keeps its flags confined. -/
theorem FlagsConfined.answer {d : Display} (h : FlagsConfined d)
    {e : DisplayEvent} (he : d.Enabled e) :
    FlagsConfined (d.answer e).1 := by
  cases hbrings : bringsUp e with
  | false => exact h.of_settles (d.answer_settles hbrings)
  | true =>
      cases e with
      | start ctx => exact h.start he ctx
      | displayServerStarted ctx =>
          have hnot : ¬ (d.startOwed = true ∨ d.auth.autologin = true) :=
            fun hd => absurd (h.alone hd).owed (Nat.pos_iff_ne_zero.1 he)
          obtain ⟨_, hframe⟩ := d.answer_displayServerStarted_frame ctx
          rw [hframe]
          exact ⟨h.greeter, h.unstarted, fun hd => absurd hd hnot, h.armed⟩
      | newConnection s =>
          have hnot : ¬ (d.startOwed = true ∨ d.auth.autologin = true) :=
            fun hd => absurd (h.alone hd).listening (by simp [he.1])
          exact ⟨h.greeter, h.unstarted, fun hd => absurd hd hnot, h.armed⟩
      | _ => simp [bringsUp] at hbrings

/-- A login that can arrive finds both flags off. -/
theorem FlagsConfined.login_off {d : Display} (h : FlagsConfined d)
    {s : SocketId} (hs : s ∈ d.connections) :
    d.auth.autologin = false ∧ d.auth.greeter = false := by
  refine ⟨?_, h.greeter⟩
  by_contra hon
  rw [Bool.not_eq_false] at hon
  rw [(h.alone (Or.inr hon)).connections] at hs
  exact absurd hs List.not_mem_nil

/-- The autologin flag and the call to `start` are both behind the display. -/
structure Settled (d : Display) : Prop where
  startOwed : d.startOwed = false
  autologin : d.auth.autologin = false

theorem Settled.answer {d : Display} (h : Settled d) {e : DisplayEvent}
    (he : d.Enabled e) : Settled (d.answer e).1 := by
  cases hbrings : bringsUp e with
  | false =>
      have hsettles := d.answer_settles hbrings
      refine ⟨hsettles.startOwed.trans h.startOwed, ?_⟩
      rcases hsettles.autologin with ⟨heq, _⟩ | ⟨_, heq⟩
      · exact heq.trans h.autologin
      · exact heq
  | true =>
      cases e with
      | start ctx => exact absurd (h.startOwed ▸ he) Bool.false_ne_true
      | displayServerStarted ctx =>
          obtain ⟨_, hframe⟩ := d.answer_displayServerStarted_frame ctx
          rw [hframe]
          exact ⟨h.startOwed, h.autologin⟩
      | newConnection s => exact ⟨h.startOwed, h.autologin⟩
      | _ => simp [bringsUp] at hbrings

/-- A login that can arrive finds the display settled. -/
theorem FlagsConfined.settled {d : Display} (h : FlagsConfined d)
    {s : SocketId} (hs : s ∈ d.connections) : Settled d := by
  refine ⟨?_, (h.login_off hs).1⟩
  by_contra howed
  rw [Bool.not_eq_false] at howed
  rw [(h.alone (Or.inl howed)).connections] at hs
  exact absurd hs List.not_mem_nil

/-- The autologin session is settled at construction. -/
theorem answer_autologinSession (d : Display) (e : DisplayEvent) :
    (d.answer e).1.autologinSession = d.autologinSession := by
  cases hbrings : bringsUp e with
  | false => exact (d.answer_settles hbrings).autologinSession
  | true =>
      cases e with
      | start ctx =>
          obtain ⟨_, _, _, _, _, _, _, hframe⟩ := d.answer_start_frame ctx
          rw [hframe]
      | displayServerStarted ctx =>
          obtain ⟨_, hframe⟩ := d.answer_displayServerStarted_frame ctx
          rw [hframe]
      | newConnection s => rfl
      | _ => simp [bringsUp] at hbrings

/-- Greeters are started without the autologin flag. -/
theorem greeterStart_autologin {d : Display} {e : DisplayEvent} {auth : Auth}
    (h : DisplayEffect.greeterStart auth ∈ (d.answer e).2) :
    auth.autologin = false := by
  have hkinds := d.answer_kinds e _ h
  simp only [DisplayEffect.kind] at hkinds
  unfold DisplayEvent.kinds at hkinds
  split at hkinds <;> simp at hkinds
  next ctx =>
    unfold answer startSocketServerAndGreeter Greeter.start at h
    simp only at h
    split at h
    · simp at h
    · split at h
      · simp at h
      · simp only [Option.map_some, Option.toList_some, List.mem_singleton,
          DisplayEffect.greeterStart.injEq] at h
        rw [h]
        rfl

/-- A helper is started by an accepted attempt, with its handle. -/
theorem exists_of_helperStart {d : Display} {e : DisplayEvent} {auth : Auth}
    (h : DisplayEffect.helperStart auth ∈ (d.answer e).2) :
    ∃ t, d.acceptedAttempt e = some t ∧
      auth = (d.attemptBase e).attemptAuth t := by
  cases haccepted : d.acceptedAttempt e with
  | none => exact absurd h ((answer_quiet haccepted).no_start auth)
  | some t =>
      rw [answer_of_accepted haccepted, List.mem_singleton,
        DisplayEffect.helperStart.injEq] at h
      exact ⟨t, rfl, h⟩

/-- A helper with the autologin flag runs on a display with an autologin
session. -/
theorem FlagsConfined.helperStart_armed {d : Display} (h : FlagsConfined d)
    {e : DisplayEvent} {auth : Auth}
    (hstart : DisplayEffect.helperStart auth ∈ (d.answer e).2)
    (hon : auth.autologin = true) : d.autologinSession.isValid = true := by
  obtain ⟨t, haccepted, rfl⟩ := exists_of_helperStart hstart
  rw [(attemptAuth_flags _ t).1] at hon
  have hattempt := (acceptedAttempt_eq_some_iff.1 haccepted).1
  cases e with
  | start ctx =>
      simp only [attemptOf, Option.ite_none_left_eq_some, Bool.or_eq_true,
        not_or, Bool.not_eq_true, Bool.not_eq_false'] at hattempt
      exact hattempt.1.2
  | login ctx s user password session => exact h.armed hon
  | _ => simp [attemptOf] at hattempt

/-- The helper of a login that can arrive has both flags off. -/
theorem FlagsConfined.helperStart_login {d : Display} (h : FlagsConfined d)
    {ctx : Context} {s : SocketId} {user password : QString}
    {session : Session} (hs : s ∈ d.connections) {auth : Auth}
    (hstart : DisplayEffect.helperStart auth ∈
      (d.answer (.login ctx s user password session)).2) :
    auth.autologin = false ∧ auth.greeter = false := by
  obtain ⟨t, _, rfl⟩ := exists_of_helperStart hstart
  obtain ⟨hautologin, hgreeter⟩ := attemptAuth_flags
    (d.attemptBase (.login ctx s user password session)) t
  obtain ⟨hoff, hoff'⟩ := h.login_off hs
  exact ⟨hautologin.trans hoff, hgreeter.trans hoff'⟩

end Display

end PlasmaLogin

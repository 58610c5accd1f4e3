/-
The attempts to start a session on a display.  Only `start` and `login` make
one; an attempt that is accepted starts the helper, and nothing else starts
the helper or touches what an attempt leaves behind.
-/
import PlasmaLogin.DisplayRuns

namespace PlasmaLogin

open Mealy

/-- What one call of `startAuth` is asked for and reads. -/
structure Attempt where
  ctx : Context
  user : QString
  password : QString
  session : Session

namespace Attempt

/-- The session an attempt can return to. -/
def reused (t : Attempt) : Option QString :=
  Display.reusableSession t.ctx t.user

/-- The sessions logind lists at the time of the attempt. -/
def logindSessions (t : Attempt) : List LogindSession :=
  t.ctx.logind.getD []

/-- A reused session is one of the user's. -/
theorem exists_of_reused {t : Attempt} {id : QString}
    (h : t.reused = some id) :
    ∃ s ∈ t.logindSessions, s.sessionId = id ∧ s.userName = t.user := by
  simp only [reused, Display.reusableSession, Option.map_eq_some_iff] at h
  obtain ⟨s, hs, rfl⟩ := h
  refine ⟨s, List.mem_of_find?_eq_some hs, rfl, ?_⟩
  have hmatch := List.find?_some hs
  simp only [Bool.and_eq_true, decide_eq_true_eq] at hmatch
  exact hmatch.1.1

end Attempt

namespace Display

/-- The attempt an event makes. -/
def attemptOf (d : Display) : DisplayEvent → Option Attempt
  | .start ctx =>
      if d.started || !d.autologinSession.isValid then none
      else some ⟨ctx, ctx.autologinUser, [], d.autologinSession⟩
  | .login ctx _ user password session =>
      if user = ("plasmalogin" : QString) then none
      else some ⟨ctx, user, password, session⟩
  | _ => none

/-- The attempt an event makes, when it gets as far as the helper. -/
def acceptedAttempt (d : Display) (e : DisplayEvent) : Option Attempt :=
  (d.attemptOf e).filter fun t => !d.auth.isActive && t.session.startable

/-- What `startAuth` leaves alone unless it starts the helper. -/
structure Kept (d d' : Display) : Prop where
  reuseSessionId : d'.reuseSessionId = d.reuseSessionId
  sessionPath : d'.auth.sessionPath = d.auth.sessionPath
  environment : d'.auth.environment = d.auth.environment
  greeter : d'.auth.greeter = d.auth.greeter
  user : d'.auth.user = d.auth.user

/-- The display with the user name a frame reports. -/
def reported (d : Display) : DisplayEvent → Display
  | .helperFrame (.authenticated (c :: user)) =>
      { d with auth := d.auth.setUser (c :: user) }
  | _ => d

/-- A slot that starts no helper and keeps what attempts leave behind. -/
structure Quiet (d : Display) (r : Display × List DisplayEffect) : Prop where
  kept : Kept d r.1
  no_start : ∀ auth, DisplayEffect.helperStart auth ∉ r.2

theorem Kept.of_frame {d d' : Display} (h : d' = { d' with
    reuseSessionId := d.reuseSessionId,
    auth := { d'.auth with
      sessionPath := d.auth.sessionPath, environment := d.auth.environment,
      greeter := d.auth.greeter, user := d.auth.user } }) : Kept d d' where
  reuseSessionId := (congrArg Display.reuseSessionId h :)
  sessionPath := (congrArg (fun d : Display => d.auth.sessionPath) h :)
  environment := (congrArg (fun d : Display => d.auth.environment) h :)
  greeter := (congrArg (fun d : Display => d.auth.greeter) h :)
  user := (congrArg (fun d : Display => d.auth.user) h :)

theorem ClosesTo.kept {d d' : Display} (h : ClosesTo d d') : Kept d d' where
  reuseSessionId := (congrArg Display.reuseSessionId h.frame :)
  sessionPath := (congrArg Auth.sessionPath h.auth_eq :)
  environment := (congrArg Auth.environment h.auth_eq :)
  greeter := (congrArg Auth.greeter h.auth_eq :)
  user := (congrArg Auth.user h.auth_eq :)

theorem Closes.quiet {d : Display} {r : Display × List DisplayEffect}
    (h : Closes d r) : Quiet d r where
  kept := h.state.kept
  no_start auth hmem := absurd (h.effects _ hmem)
    (by simp [DisplayEffect.isClosing])

theorem Kept.rfl' {d : Display} : Kept d d := Kept.of_frame rfl

theorem Kept.trans {d d' d'' : Display} (h : Kept d d') (h' : Kept d' d'') :
    Kept d d'' where
  reuseSessionId := h'.reuseSessionId.trans h.reuseSessionId
  sessionPath := h'.sessionPath.trans h.sessionPath
  environment := h'.environment.trans h.environment
  greeter := h'.greeter.trans h.greeter
  user := h'.user.trans h.user

theorem Quiet.of_kept {d d' : Display} {r : Display × List DisplayEffect}
    (h : Kept d d') (hr : Quiet d' r) : Quiet d r :=
  ⟨h.trans hr.kept, hr.no_start⟩

theorem slotAuthError_no_start (message : QString) (error : AuthError)
    (d : Display) (auth : Auth) :
    DisplayEffect.helperStart auth ∉ d.slotAuthError message error := by
  unfold slotAuthError
  cases d.socket with
  | none => simp
  | some s => by_cases h : error = .authentication <;> simp [h]

theorem slotAuthInfo_no_start (message : QString) (d : Display)
    (auth : Auth) : DisplayEffect.helperStart auth ∉ d.slotAuthInfo message := by
  unfold slotAuthInfo
  cases d.socket <;> simp

theorem quiet_slotAuthenticationFinished (success : Bool) (d : Display) :
    Quiet d (d.slotAuthenticationFinished success) := by
  unfold slotAuthenticationFinished
  split
  · exact ⟨Kept.of_frame rfl, by simp⟩
  · refine ⟨Kept.of_frame rfl, fun auth => ?_⟩
    cases success <;> cases d.reuseSessionId <;> cases d.socket <;> simp

theorem quiet_slotRequestChanged (d : Display) :
    Quiet d d.slotRequestChanged := by
  unfold slotRequestChanged
  split
  · exact ⟨Kept.rfl', by simp⟩
  · exact ⟨Kept.of_frame rfl, fun auth => by simp [AuthRequest.done]⟩

theorem quiet_dataPending (frame : HelperFrame) (d : Display) :
    Quiet (d.reported (.helperFrame frame)) (d.dataPending frame) := by
  cases frame with
  | error message type =>
      exact ⟨Kept.rfl', slotAuthError_no_start message type d⟩
  | info message type => exact ⟨Kept.rfl', slotAuthInfo_no_start message d⟩
  | request r =>
      rw [dataPending_request]
      refine Quiet.of_kept ?_ (quiet_slotRequestChanged _)
      exact Kept.of_frame rfl
  | authenticated user =>
      rw [dataPending_authenticated]
      cases user with
      | nil => exact quiet_slotAuthenticationFinished false d
      | cons c user =>
          have hslot := quiet_slotAuthenticationFinished true
            { d with auth := d.auth.setUser (c :: user) }
          refine ⟨hslot.kept, fun auth => ?_⟩
          simp only [List.isEmpty_cons, Bool.false_eq_true, ↓reduceIte,
            andThen_snd, List.mem_append, List.mem_singleton, reduceCtorEq,
            or_false]
          exact hslot.no_start auth
  | sessionStatus status => cases status <;>
      exact ⟨Kept.of_frame rfl, by simp [dataPending]⟩
  | displayServerStarted name => exact ⟨Kept.rfl', by simp [dataPending]⟩
  | unexpected msg => exact ⟨Kept.rfl', slotAuthError_no_start _ _ d⟩

/-- A refused `startAuth` notes the pass phrase at most. -/
theorem startAuth_refused (ctx : Context) (user password : QString)
    {session : Session} {d : Display}
    (h : (!d.auth.isActive && session.startable) = false) :
    ∃ phrase, d.startAuth ctx user password session =
      ({ d with passPhrase := phrase }, [], false) := by
  unfold startAuth
  split
  · exact ⟨d.passPhrase, rfl⟩
  next hidle =>
    rw [Bool.not_eq_true] at hidle
    have hsession : session.startable = false := by simpa [hidle] using h
    exact ⟨password, by simp [hsession]⟩

/-- The display when `startAuth` hands over to the helper. -/
def prepared (d : Display) (t : Attempt) : Display :=
  { d with
    passPhrase := t.password,
    reuseSessionId := t.reused,
    sessionName := t.session.fileName,
    sessionTerminalId := d.newSessionTerminal t.ctx }

/-- The handle an accepted attempt starts its helper with. -/
def attemptAuth (d : Display) (t : Attempt) : Auth :=
  (d.prepared t).preparedAuth t.user t.session
    ((d.prepared t).sessionEnvironment t.ctx t.session)

theorem startAuth_accepted {d : Display} {t : Attempt}
    (h : (!d.auth.isActive && t.session.startable) = true) :
    d.startAuth t.ctx t.user t.password t.session =
      ({ d.prepared t with auth := (d.attemptAuth t).start },
        [.helperStart (d.attemptAuth t)], true) := by
  simp only [Bool.and_eq_true, Bool.not_eq_true'] at h
  simp [startAuth, h.1, h.2, attemptAuth, prepared, Attempt.reused,
    newSessionTerminal]

/-- The `--start` option of the helper an attempt starts. -/
theorem attemptAuth_sessionPath (d : Display) (t : Attempt) :
    (d.attemptAuth t).sessionPath =
      if t.reused.isNone then t.session.exec else d.auth.sessionPath := by
  have hreuse : (d.prepared t).reuseSessionId = t.reused := rfl
  unfold attemptAuth preparedAuth
  rw [hreuse]
  cases t.reused <;> rfl

theorem attemptAuth_user (d : Display) (t : Attempt) :
    (d.attemptAuth t).user = t.user := by
  unfold attemptAuth preparedAuth
  cases (d.prepared t).reuseSessionId <;> rfl

theorem attemptAuth_flags (d : Display) (t : Attempt) :
    (d.attemptAuth t).autologin = d.auth.autologin ∧
      (d.attemptAuth t).greeter = d.auth.greeter := by
  unfold attemptAuth preparedAuth
  cases (d.prepared t).reuseSessionId <;> exact ⟨rfl, rfl⟩

theorem acceptedAttempt_eq_some_iff {d : Display} {e : DisplayEvent}
    {t : Attempt} : d.acceptedAttempt e = some t ↔
      d.attemptOf e = some t ∧
        (!d.auth.isActive && t.session.startable) = true := by
  simp [acceptedAttempt, Option.filter_eq_some_iff]

/-- The display as it is when an event calls `startAuth`. -/
def attemptBase (d : Display) : DisplayEvent → Display
  | .start _ => { d with
      startOwed := false, started := true, auth := d.auth.setAutologin true }
  | .login _ s _ _ _ => { d with socket := some s }
  | _ => d

theorem attemptBase_auth (d : Display) (e : DisplayEvent) :
    (d.attemptBase e).auth =
      { d.auth with autologin := (d.attemptBase e).auth.autologin } := by
  cases e <;> rfl

theorem attemptBase_sessionPath (d : Display) (e : DisplayEvent) :
    (d.attemptBase e).auth.sessionPath = d.auth.sessionPath :=
  (congrArg Auth.sessionPath (d.attemptBase_auth e) :)

/-- An accepted attempt starts the helper and does nothing else. -/
theorem answer_of_accepted {d : Display} {e : DisplayEvent} {t : Attempt}
    (h : d.acceptedAttempt e = some t) :
    d.answer e =
      ({ (d.attemptBase e).prepared t with
          auth := ((d.attemptBase e).attemptAuth t).start },
        [.helperStart ((d.attemptBase e).attemptAuth t)]) := by
  obtain ⟨hattempt, hready⟩ := acceptedAttempt_eq_some_iff.1 h
  have hactive : (d.attemptBase e).auth.isActive = d.auth.isActive := by
    rw [attemptBase_auth]
    rfl
  rw [← hactive] at hready
  have hstart := startAuth_accepted hready
  cases e with
  | start ctx =>
      simp only [attemptOf, Option.ite_none_left_eq_some, Bool.or_eq_true,
        not_or, Bool.not_eq_true, Bool.not_eq_false'] at hattempt
      obtain ⟨⟨hstopped, hvalid⟩, heq⟩ := hattempt
      cases heq
      simp only [attemptBase] at hstart
      simp only [answer, start, hstopped, hvalid, hstart, attemptBase,
        Bool.false_eq_true, ↓reduceIte]
  | login ctx s user password session =>
      simp only [attemptOf, Option.ite_none_left_eq_some] at hattempt
      obtain ⟨huser, heq⟩ := hattempt
      cases heq
      simp only [attemptBase] at hstart
      simp only [answer, login, huser, hstart, attemptBase, ↓reduceIte]
  | _ => simp [attemptOf] at hattempt

theorem quiet_start {ctx : Context} {d : Display}
    (h : d.acceptedAttempt (.start ctx) = none) :
    Quiet d (d.answer (.start ctx)) := by
  unfold answer start
  simp only
  split
  · exact ⟨Kept.of_frame rfl, by simp⟩
  next hstopped =>
    split
    next hvalid =>
      have hrefused : (!d.auth.isActive && d.autologinSession.startable) =
          false := by
        simpa [acceptedAttempt, attemptOf, hstopped, hvalid] using h
      obtain ⟨phrase, hrefuse⟩ := startAuth_refused ctx ctx.autologinUser []
        (d := { d with startOwed := false, started := true,
                       auth := d.auth.setAutologin true }) hrefused
      rw [hrefuse]
      exact ⟨Kept.of_frame rfl, by simp⟩
    · exact ⟨Kept.of_frame rfl, by simp⟩

/-- A login that is not accepted leaves its socket and, at most, its
password. -/
theorem answer_login_of_refused {ctx : Context} {s : SocketId}
    {user password : QString} {session : Session} {d : Display}
    (h : d.acceptedAttempt (.login ctx s user password session) = none) :
    ∃ phrase effects, d.answer (.login ctx s user password session) =
        ({ d with socket := some s, passPhrase := phrase }, effects) ∧
      ∀ auth, DisplayEffect.helperStart auth ∉ effects := by
  rw [answer, login]
  simp only
  split
  · exact ⟨_, _, rfl, by simp⟩
  next huser =>
    have hrefused : (!d.auth.isActive && session.startable) = false := by
      simpa [acceptedAttempt, attemptOf, huser] using h
    obtain ⟨phrase, hrefuse⟩ := startAuth_refused ctx user password
      (d := { d with socket := some s }) hrefused
    rw [hrefuse]
    exact ⟨phrase, _, rfl, by simp⟩

theorem quiet_login {ctx : Context} {s : SocketId} {user password : QString}
    {session : Session} {d : Display}
    (h : d.acceptedAttempt (.login ctx s user password session) = none) :
    Quiet d (d.answer (.login ctx s user password session)) := by
  obtain ⟨_, _, hframe, hstart⟩ := answer_login_of_refused h
  rw [hframe]
  exact ⟨Kept.of_frame rfl, hstart⟩

@[simp] theorem reported_sessionPath (d : Display) (e : DisplayEvent) :
    (d.reported e).auth.sessionPath = d.auth.sessionPath := by
  unfold reported
  split <;> rfl

@[simp] theorem reported_reuseSessionId (d : Display) (e : DisplayEvent) :
    (d.reported e).reuseSessionId = d.reuseSessionId := by
  unfold reported
  split <;> rfl

/-- Without an accepted attempt no helper starts, and what the last attempt
left behind stays. -/
theorem answer_quiet {d : Display} {e : DisplayEvent}
    (h : d.acceptedAttempt e = none) :
    Quiet (d.reported e) (d.answer e) := by
  cases e with
  | start ctx => exact quiet_start h
  | displayServerStarted ctx =>
      unfold answer startSocketServerAndGreeter
      simp only
      split
      · exact ⟨Kept.of_frame rfl, by simp⟩
      · exact ⟨Kept.of_frame rfl, by simp⟩
  | newConnection s => exact ⟨Kept.of_frame rfl, by simp [answer]⟩
  | connectionClosed s => exact ⟨Kept.of_frame rfl, by simp [answer]⟩
  | login ctx s user password session => exact quiet_login h
  | helperFrame frame => exact quiet_dataPending frame d
  | helperError failed text =>
      refine ⟨?_, slotAuthError_no_start text .internal _⟩
      cases failed <;> exact Kept.of_frame rfl
  | greeterFrame frame =>
      cases frame <;> exact ⟨Kept.of_frame rfl, by simp [answer]⟩
  | greeterError failed => exact ⟨Kept.of_frame rfl, by simp [answer]⟩
  | _ =>
      refine Quiet.of_kept ?_ (d.closes_answer rfl).quiet
      exact Kept.of_frame rfl

end Display

end PlasmaLogin

/-
The accessors of `Session` a login calls.  They assert that the session is
valid, and they are called from the log lines too, before and after the test
of the session.
-/
import PlasmaLogin.Attempts
import PlasmaLogin.Calls
import PlasmaLogin.SessionContainment

namespace PlasmaLogin

open Calls

/-- The accessors of `Session` that begin with `Q_ASSERT(isValid())`. -/
inductive SessionAccessor where
  | name
  | fileName
  | desktopSession
  | exec
  | desktopNames
deriving DecidableEq

/-- A call of an accessor. -/
structure SessionCall where
  session : Session
  accessor : SessionAccessor
deriving DecidableEq

namespace SessionCall

/-- What the accessor returns when the assertion is not compiled in; the
daemon has no use for `Session::name`. -/
def answer : SessionCall → QString
  | ⟨_, .name⟩ => []
  | ⟨s, .fileName⟩ => s.fileName
  | ⟨s, .desktopSession⟩ => s.desktopSession
  | ⟨s, .exec⟩ => s.exec
  | ⟨s, .desktopNames⟩ => s.desktopNames

/-- The assertion at the beginning of the accessor. -/
def Asserts (call : SessionCall) : Prop := call.session.isValid = true

end SessionCall

/-- A function of the daemon with its calls of accessors. -/
abbrev SessionProgram (A : Type) :=
  Program (fun _ : SessionCall => QString) Empty A

namespace Session

def access (accessor : SessionAccessor) (s : Session) :
    SessionProgram QString :=
  .perform ⟨s, accessor⟩

end Session

namespace Display

/-- `XDG_CURRENT_DESKTOP`, unless the session names no desktops. -/
def currentDesktopCalls (session : Session) (env : QProcessEnvironment) :
    SessionProgram QProcessEnvironment := do
  let names ← session.access .desktopNames
  if names.isEmpty then pure env
  else do
    let names ← session.access .desktopNames
    pure (env.insert "XDG_CURRENT_DESKTOP" names)

/-- The environment of a session, with the calls made for it. -/
def environmentCalls (ctx : Context) (session : Session) (d : Display) :
    SessionProgram QProcessEnvironment := do
  let env : QProcessEnvironment := ∅
  let env := env.insert "PATH" ctx.defaultPath
  let env := env.insert "XDG_SEAT_PATH" (DisplayManager.seatPath d.seatName)
  let env := env.insert "XDG_SESSION_PATH"
    (DisplayManager.newSessionPath ctx.newSessionId)
  let desktopSession ← session.access .desktopSession
  let env := env.insert "DESKTOP_SESSION" desktopSession
  let env ← currentDesktopCalls session env
  let env := env.insert "XDG_SESSION_CLASS" "user"
  let env := env.insert "XDG_SESSION_TYPE" session.xdgSessionType
  let env := env.insert "XDG_SEAT" d.seatName
  let env := if d.sessionTerminalId > 0 then
    env.insert "XDG_VTNR" (QString.number d.sessionTerminalId.toInt64)
    else env
  let names ← session.access .desktopNames
  pure (env.insert "XDG_SESSION_DESKTOP" names)

/-- The handle `startAuth` starts the helper with, and the calls before. -/
def authCalls (user : QString) (session : Session) (env : QProcessEnvironment)
    (d : Display) : SessionProgram Auth := do
  let auth := d.auth.setUser user
  if d.reuseSessionId.isNone then do
    let exec ← session.access .exec
    pure ((auth.setSession exec).insertEnvironment env)
  else pure (auth.insertEnvironment env)

/-- The rest of `Display::startAuth` for a session that passed its checks. -/
def openSessionCalls (ctx : Context) (user : QString) (session : Session)
    (d : Display) :
    SessionProgram (Display × List DisplayEffect × Bool) := do
  let fileName ← session.access .fileName
  let d := { d with
    reuseSessionId := reusableSession ctx user,
    sessionName := fileName,
    sessionTerminalId := d.newSessionTerminal ctx }
  -- the log line with the command
  let _ ← session.access .exec
  let env ← d.environmentCalls ctx session
  let auth ← d.authCalls user session env
  pure ({ d with auth := auth.start }, [.helperStart auth], true)

/-- `Display::startAuth` with its calls of accessors. -/
def startAuthCalls (ctx : Context) (user password : QString)
    (session : Session) (d : Display) :
    SessionProgram (Display × List DisplayEffect × Bool) := do
  -- the first log line, before any test
  let _ ← session.access .exec
  if d.auth.isActive then pure (d, [], false)
  else
    let d := { d with passPhrase := password }
    if !session.isValid then do
      let _ ← session.access .fileName
      pure (d, [], false)
    else if session.xdgSessionType.isEmpty then do
      let _ ← session.access .fileName
      pure (d, [], false)
    else do
      let exec ← session.access .exec
      if exec.isEmpty then do
        let _ ← session.access .fileName
        pure (d, [], false)
      else d.openSessionCalls ctx user session

/-- `Display::login` with its calls of accessors. -/
def loginCalls (ctx : Context) (socket : SocketId) (user password : QString)
    (session : Session) (d : Display) :
    SessionProgram (Display × List DisplayEffect) := do
  let d := { d with socket := some socket }
  if user = ("plasmalogin" : QString) then pure (d, [.loginFailed socket])
  else do
    let r ← d.startAuthCalls ctx user password session
    pure (r.1, r.2.1)

variable {ctx : Context} {user password : QString} {session : Session}
  {d : Display}

theorem desktopNames_bind {A : Type} (f : QString → SessionProgram A) :
    (((session.access .desktopNames).bind f).exec SessionCall.answer).1 =
      ((f session.desktopNames).exec SessionCall.answer).1 := rfl

theorem exec_bind {A : Type} (f : QString → SessionProgram A) :
    (((session.access .exec).bind f).exec SessionCall.answer).1 =
      ((f session.exec).exec SessionCall.answer).1 := rfl

theorem currentDesktopCalls_returns (env : QProcessEnvironment) :
    ((currentDesktopCalls session env).exec SessionCall.answer).1 =
      .ok (if session.desktopNames.isEmpty then env
        else env.insert "XDG_CURRENT_DESKTOP" session.desktopNames) := by
  rw [currentDesktopCalls, Program.bind_def, desktopNames_bind]
  by_cases hnames : session.desktopNames.isEmpty = true
  · rw [if_pos hnames, if_pos hnames]
    rfl
  · rw [if_neg hnames, if_neg hnames]
    rfl

theorem environmentCalls_returns :
    ((d.environmentCalls ctx session).exec SessionCall.answer).1 =
      .ok (d.sessionEnvironment ctx session) := by
  rw [environmentCalls, Program.bind_def, Session.access, exec_perform_bind,
    Program.bind_def, exec_bind_of_ok (currentDesktopCalls_returns _)]
  rfl

theorem authCalls_returns (env : QProcessEnvironment) :
    ((d.authCalls user session env).exec SessionCall.answer).1 =
      .ok (d.preparedAuth user session env) := by
  unfold authCalls preparedAuth
  cases d.reuseSessionId <;> rfl

theorem openSessionCalls_returns :
    ((d.openSessionCalls ctx user session).exec SessionCall.answer).1 =
      .ok ({ d.prepared ⟨ctx, user, d.passPhrase, session⟩ with
          auth := (d.attemptAuth ⟨ctx, user, d.passPhrase, session⟩).start },
        [.helperStart (d.attemptAuth ⟨ctx, user, d.passPhrase, session⟩)],
        true) := by
  rw [openSessionCalls, Program.bind_def, Session.access, exec_perform_bind,
    Program.bind_def, exec_bind, Program.bind_def,
    exec_bind_of_ok environmentCalls_returns, Program.bind_def,
    exec_bind_of_ok (authCalls_returns _)]
  rfl

/-- Apart from the calls it is the function it is said to be. -/
theorem startAuthCalls_returns :
    ((d.startAuthCalls ctx user password session).exec
      SessionCall.answer).1 = .ok (d.startAuth ctx user password session) := by
  rw [startAuthCalls, Program.bind_def, exec_bind, startAuth,
    Session.startable]
  split
  · rfl
  · cases session.isValid with
    | false => rfl
    | true =>
        cases htype : session.xdgSessionType.isEmpty with
        | true => rfl
        | false =>
            simp only [Bool.not_true, Bool.false_eq_true, ↓reduceIte,
              Program.bind_def, exec_bind]
            by_cases hexec : session.exec.isEmpty = true
            · rw [if_pos hexec, hexec]
              rfl
            · rw [if_neg hexec, openSessionCalls_returns]
              rw [Bool.not_eq_true] at hexec
              rw [hexec]
              rfl

theorem loginCalls_returns (socket : SocketId) :
    ((d.loginCalls ctx socket user password session).exec
      SessionCall.answer).1 =
        .ok (d.login ctx socket user password session) := by
  rw [loginCalls, login]
  split
  · rfl
  · rw [Program.bind_def, exec_bind_of_ok startAuthCalls_returns]
    rfl

/-- All calls are made on the session of the login. -/
theorem currentDesktopCalls_only (env : QProcessEnvironment) :
    (currentDesktopCalls session env).Only fun call =>
      call.session = session := by
  refine Program.only_bind (Program.only_perform rfl) fun names => ?_
  split
  · trivial
  · exact Program.only_bind (Program.only_perform rfl) fun _ => trivial

theorem environmentCalls_only :
    (d.environmentCalls ctx session).Only fun call =>
      call.session = session := by
  refine Program.only_bind (Program.only_perform rfl) fun _ => ?_
  refine Program.only_bind (currentDesktopCalls_only _) fun _ => ?_
  exact Program.only_bind (Program.only_perform rfl) fun _ => trivial

theorem authCalls_only (env : QProcessEnvironment) :
    (d.authCalls user session env).Only fun call =>
      call.session = session := by
  unfold authCalls
  cases d.reuseSessionId with
  | none => exact Program.only_bind (Program.only_perform rfl) fun _ => trivial
  | some id => trivial

theorem openSessionCalls_only :
    (d.openSessionCalls ctx user session).Only fun call =>
      call.session = session := by
  refine Program.only_bind (Program.only_perform rfl) fun _ => ?_
  refine Program.only_bind (Program.only_perform rfl) fun _ => ?_
  refine Program.only_bind environmentCalls_only fun _ => ?_
  exact Program.only_bind (authCalls_only _) fun _ => trivial

theorem startAuthCalls_only :
    (d.startAuthCalls ctx user password session).Only fun call =>
      call.session = session := by
  have hlog : ∀ r : Display × List DisplayEffect × Bool,
      ((session.access .fileName).bind fun _ =>
        (pure r : SessionProgram _)).Only fun call =>
          call.session = session :=
    fun _ => Program.only_bind (Program.only_perform rfl) fun _ => trivial
  refine Program.only_bind (Program.only_perform rfl) fun _ => ?_
  split
  · trivial
  · split
    · exact hlog _
    · split
      · exact hlog _
      · refine Program.only_bind (Program.only_perform rfl) fun _ => ?_
        split
        · exact hlog _
        · exact openSessionCalls_only

theorem loginCalls_only (socket : SocketId) :
    (d.loginCalls ctx socket user password session).Only fun call =>
      call.session = session := by
  unfold loginCalls
  split
  · trivial
  · exact Program.only_bind startAuthCalls_only fun _ => trivial

/-- Every call a login makes asserts that its session is valid. -/
def LoginAsserts (ctx : Context) (socket : SocketId) (user password : QString)
    (session : Session) (d : Display) : Prop :=
  ∀ call ∈ ((d.loginCalls ctx socket user password session).exec
    SessionCall.answer).2, call.op.Asserts

/-- The first log line already asks an invalid session for its command. -/
theorem loginAsserts_iff (socket : SocketId) :
    d.LoginAsserts ctx socket user password session ↔
      user = ("plasmalogin" : QString) ∨ session.isValid = true := by
  by_cases huser : user = ("plasmalogin" : QString)
  · refine iff_of_true ?_ (Or.inl huser)
    intro call hcall
    rw [loginCalls, if_pos huser] at hcall
    cases hcall
  · rw [or_iff_right huser]
    constructor
    · intro h
      rw [LoginAsserts, loginCalls, if_neg huser] at h
      exact h _ List.mem_cons_self
    · intro hvalid call hcall
      have hsession := (loginCalls_only socket).run (run_exec _ _) call hcall
      rw [SessionCall.Asserts, hsession]
      exact hvalid

end Display

theorem Session.isValid_create {ν : Type} (inst : Installation ν)
    (type : SessionType) (name : QString) :
    (create inst type name).isValid = (opened inst type name).isSome := by
  rw [create, opened]
  cases filePath inst type name with
  | none => rfl
  | some path =>
      simp only [Option.bind_some]
      cases inst.file path <;> rfl

/-- Whatever a login asks for and whatever state the display is in, no
assertion fails exactly when the user is the greeter's own or the desktop file
is there. -/
theorem login_asserts_iff {ν : Type} (inst : Installation ν) (ctx : Context)
    (socket : SocketId) (user password : QString) (sessionType : UInt32)
    (fileName : QString) (d : Display) :
    d.LoginAsserts ctx socket user password
        (Session.create inst (.ofNumber sessionType) fileName) ↔
      user = ("plasmalogin" : QString) ∨
        (Session.opened inst (.ofNumber sessionType) fileName).isSome =
          true := by
  rw [Display.loginAsserts_iff, Session.isValid_create]

/-- A session that is not installed any more. -/
theorem login_not_asserts :
    ¬ (Display.create "seat0" 1 1 {}).LoginAsserts {} 5 "alice" "secret"
      (Session.create .usrShare (.ofNumber 1) "plasma.desktop") := by
  rw [Display.loginAsserts_iff, Session.isValid_create]
  decide

end PlasmaLogin

/-
The helper from its start to the destruction of `HelperApp`, as a program that
calls PAM, the daemon and the system: the transaction of `PamHandle`, the
steps `PamBackend` makes of it and the order `HelperApp` takes them in.
-/
import PlasmaLogin.AuthWire
import PlasmaLogin.Calls
import PlasmaLogin.HelperArguments

namespace PlasmaLogin

open Calls

/-- The parts of a `passwd` entry that the helper uses. -/
structure Passwd where
  name : QString
  uid : UInt32
  gid : UInt32
  dir : QString
  shell : QString
deriving DecidableEq

/-- The programs a session is started with, as the build sets them. -/
structure SessionPrograms where
  libexecDir : QString
  sessionCommand : QString
  waylandSessionCommand : QString

/-- `QProcessEnvironment::value`. -/
def QProcessEnvironment.value (env : QProcessEnvironment) (name : QString) :
    QString := (env.lookup name).getD []

/-- `QString::toInt`. -/
def QString.toInt (s : QString) : Int32 :=
  let n := (QString.toLongLong s).toInt
  if -2 ^ 31 ≤ n ∧ n < 2 ^ 31 then Int32.ofInt n else 0

/-- `VirtualTerminal::path`. -/
def VirtualTerminal.path (vt : Int32) : QString :=
  ("/dev/tty" : QString) ++ QString.number vt.toInt64

/-- The flags of `pam_setcred`. -/
inductive CredFlag where
  | establish
  | delete
deriving DecidableEq

/-- The PAM items the helper sets. -/
inductive PamItem where
  | tty
  | xdisplay
deriving DecidableEq

def PAM_SUCCESS : Int := 0

def PAM_NEW_AUTHTOK_REQD : Int := 12

/-- `PAM_CHANGE_EXPIRED_AUTHTOK`. -/
def PAM_CHANGE_EXPIRED_AUTHTOK : Nat := 0x20

/-- What the helper calls: the daemon, PAM and the system. -/
inductive HelperCall where
  | connected
  | hello (id : Int64)
  | error (result : Int) (type : AuthError)
  | authenticated (user : QString)
  | sessionOpened (success : Bool)
  | pamStart (service : QString) (user : Option QString)
  | pamAuthenticate
  | pamAcctMgmt
  | pamChauthtok (flags : Nat)
  | pamSetcred (flag : CredFlag)
  | pamSetItem (item : PamItem) (value : QString)
  | pamPutenv (text : QString)
  | pamGetenvlist
  | pamGetUser
  | pamOpenSession
  | pamCloseSession
  | pamEnd
  | getpwnam (user : QString)
  | startProcess (program : QString) (arguments : List QString)
  | stopProcess
  | exec

/-- The answers to the calls.  PAM answers with its result codes, `exec` with
the status the event loop is left with. -/
@[reducible] def HelperCall.Answer : HelperCall → Type
  | .connected | .startProcess _ _ => Bool
  | .authenticated _ => QProcessEnvironment
  | .pamStart _ _ | .pamAuthenticate | .pamAcctMgmt | .pamChauthtok _
  | .pamSetcred _ | .pamSetItem _ _ | .pamPutenv _ | .pamOpenSession
  | .pamCloseSession | .pamEnd | .exec => Int
  | .pamGetenvlist => List QString
  | .pamGetUser => QString
  | .getpwnam _ => Option Passwd
  | .hello _ | .error _ _ | .sessionOpened _ | .stopProcess => Unit

/-- A part of the helper; no call ends the process. -/
abbrev HelperProgram (A : Type) := Program HelperCall.Answer Empty A

/-- One call of the helper. -/
def ask (op : HelperCall) : HelperProgram op.Answer := .perform op

/-- The calls of a part of the helper with their answers. -/
abbrev HelperTrace := List (Event HelperCall.Answer)

/-- `PamHandle`; `started` says whether `m_handle` is set. -/
structure PamHandle where
  started : Bool := false
  result : Int := PAM_SUCCESS
  isOpen : Bool := false
deriving DecidableEq

namespace PamHandle

/-- What the methods of `PamHandle` return. -/
def succeeded (pam : PamHandle) : Bool := pam.result = PAM_SUCCESS

def start (service user : QString) (pam : PamHandle) :
    HelperProgram PamHandle := do
  let result : Int ← ask (.pamStart service
    (if user.isEmpty then none else some user))
  return { pam with result, started := result = PAM_SUCCESS }

def authenticate (pam : PamHandle) : HelperProgram PamHandle := do
  let result : Int ← ask .pamAuthenticate
  return { pam with result }

def chAuthTok (flags : Nat) (pam : PamHandle) : HelperProgram PamHandle := do
  let result : Int ← ask (.pamChauthtok flags)
  return { pam with result }

/-- An expired password is changed at once. -/
def acctMgmt (pam : PamHandle) : HelperProgram PamHandle := do
  let result : Int ← ask .pamAcctMgmt
  if result = PAM_NEW_AUTHTOK_REQD then
    chAuthTok PAM_CHANGE_EXPIRED_AUTHTOK { pam with result }
  else return { pam with result }

def setCred (flag : CredFlag) (pam : PamHandle) :
    HelperProgram PamHandle := do
  let result : Int ← ask (.pamSetcred flag)
  return { pam with result }

def setItem (item : PamItem) (value : QString) (pam : PamHandle) :
    HelperProgram PamHandle := do
  let result : Int ← ask (.pamSetItem item value)
  return { pam with result }

/-- `PamHandle::putEnv` over the string list of the environment; the first
variable that is refused ends it. -/
def putEnv : List QString → PamHandle → HelperProgram (PamHandle × Bool)
  | [], pam => return (pam, true)
  | text :: rest, pam => do
      let result : Int ← ask (.pamPutenv text)
      if result = PAM_SUCCESS then putEnv rest { pam with result }
      else return ({ pam with result }, false)

def openSession (pam : PamHandle) : HelperProgram PamHandle := do
  let result : Int ← ask .pamOpenSession
  return { pam with result, isOpen := result = PAM_SUCCESS }

def closeSession (pam : PamHandle) : HelperProgram PamHandle := do
  let result : Int ← ask .pamCloseSession
  return { pam with result }

/-- One string of PAM's environment list. -/
def insertEnvText (env : QProcessEnvironment) (text : QString) :
    QProcessEnvironment :=
  match text.span (fun c => c ≠ 61) with
  | (name, _ :: value) => env.insert name value
  | (_, []) => env

def getEnv : HelperProgram QProcessEnvironment := do
  let envlist : List QString ← ask .pamGetenvlist
  return envlist.foldl insertEnvText ∅

/-- `PamHandle::end`, with which the handle is destroyed. -/
def finish (pam : PamHandle) : HelperProgram PUnit :=
  if pam.started then do
    let _ ← ask .pamEnd
    return ⟨⟩
  else return ⟨⟩

end PamHandle

/-- The program and the arguments of `UserSession::start`. -/
def UserSession.command (programs : SessionPrograms)
    (env : QProcessEnvironment) (path : QString) :
    Option (QString × List QString) :=
  let type := env.value "XDG_SESSION_TYPE"
  if type = ("x11" : QString) then
    some (programs.libexecDir ++ ("/plasmalogin-helper-start-x11user" : QString),
      [programs.sessionCommand ++ (" \"" : QString) ++ path ++
        ("\"" : QString)])
  else if type = ("wayland" : QString) then
    some (programs.waylandSessionCommand, [path])
  else none

/-- `UserSession::start`. -/
def UserSession.start (programs : SessionPrograms) (env : QProcessEnvironment)
    (path : QString) : HelperProgram Bool :=
  match UserSession.command programs env path with
  | none => return false
  | some (program, arguments) => do
      let started : Bool ← ask (.startProcess program arguments)
      -- a greeter may have to wait for its compositor
      let isWaylandGreeter :=
        env.value "XDG_SESSION_TYPE" = ("wayland" : QString) &&
          env.value "XDG_SESSION_CLASS" = ("greeter" : QString)
      return started || isWaylandGreeter

namespace PamBackend

/-- `PamBackend::start`, with whether it succeeded. -/
def start (app : HelperApp) : HelperProgram (PamHandle × Bool) := do
  let pam ← PamHandle.start (service app.user app.greeter app.autologin)
    app.user {}
  if pam.succeeded then return (pam, true)
  else do
    ask (.error pam.result .internal)
    return (pam, false)

/-- `PamBackend::authenticate`, with the account management. -/
def authenticateUser (pam : PamHandle) : HelperProgram (PamHandle × Bool) := do
  let pam ← pam.authenticate
  if pam.succeeded then
    let pam ← pam.acctMgmt
    if pam.succeeded then return (pam, true)
    else do
      ask (.error pam.result .authentication)
      return (pam, false)
  else do
    ask (.error pam.result .authentication)
    return (pam, false)

/-- The terminal of a session that has one. -/
def setTty (vtnr : Option QString) (pam : PamHandle) :
    HelperProgram PamHandle :=
  match vtnr with
  | some vt => pam.setItem .tty (VirtualTerminal.path (QString.toInt vt))
  | none => return pam

/-- The items `PamBackend::openSession` sets from the session's
environment. -/
def setItems (env : QProcessEnvironment) (pam : PamHandle) :
    HelperProgram PamHandle := do
  let pam ← setTty (env.lookup ("XDG_VTNR" : QString)) pam
  let display := env.value "DISPLAY"
  if env.value "XDG_SESSION_TYPE" = ("x11" : QString) ∧
      env.value "XDG_SESSION_CLASS" = ("user" : QString) ∧ display ≠ [] then
    pam.setItem .xdisplay display
  else return pam

/-- What `PamBackend::openSession` adds to the environment of an open
session. -/
def sessionVariables (pw : Option Passwd) (env : QProcessEnvironment) :
    QProcessEnvironment :=
  let env := match pw with
    | none => env
    | some pw =>
        ((((env.insert "HOME" pw.dir).insert "PWD" pw.dir).insert "SHELL"
          pw.shell).insert "USER" pw.name).insert "LOGNAME" pw.name
  if env.value "XDG_SESSION_CLASS" = ("greeter" : QString) then
    env.insert "QT_NO_XDG_DESKTOP_PORTAL" "1"
  else env

/-- The session process of an open session. -/
def startSession (programs : SessionPrograms) (user path : QString)
    (sessionEnv : QProcessEnvironment) : HelperProgram Bool := do
  let pamEnv ← PamHandle.getEnv
  let pw : Option Passwd ← ask (.getpwnam user)
  UserSession.start programs
    (sessionVariables pw (sessionEnv.insertAll pamEnv)) path

/-- `PamBackend::openSession`, with whether the session is running. -/
def openUserSession (programs : SessionPrograms) (user path : QString)
    (sessionEnv : QProcessEnvironment) (pam : PamHandle) :
    HelperProgram (PamHandle × Bool) := do
  let pam ← pam.setCred .establish
  if pam.succeeded then
    let pam ← setItems sessionEnv pam
    let r ← PamHandle.putEnv sessionEnv.toStringList pam
    if r.2 then
      let pam ← r.1.openSession
      if pam.succeeded then
        let running ← startSession programs user path sessionEnv
        return (pam, running)
      else do
        ask (.error pam.result .internal)
        return (pam, false)
    else do
      ask (.error r.1.result .internal)
      return (r.1, false)
  else do
    ask (.error pam.result .authentication)
    return (pam, false)

/-- `PamBackend::closeSession`. -/
def closeUserSession (pam : PamHandle) : HelperProgram PamHandle :=
  if pam.isOpen then do
    let pam ← pam.closeSession
    pam.setCred .delete
  else return pam

end PamBackend

namespace HelperApp

/-- `HelperApp::authenticated`; only the report of a user is answered. -/
def authenticated (user : QString) : HelperProgram QProcessEnvironment := do
  let env : QProcessEnvironment ← ask (.authenticated user)
  return if user.isEmpty then ∅ else env

/-- The rest of `HelperApp::doAuth` for a helper that is to start a session. -/
def openSession (programs : SessionPrograms) (user path : QString)
    (env : QProcessEnvironment) (pam : PamHandle) :
    HelperProgram (PamHandle × Option HelperExitStatus) := do
  let r ← PamBackend.openUserSession programs user path env pam
  ask (.sessionOpened r.2)
  return (r.1, if r.2 then none else some .sessionError)

/-- `HelperApp::doAuth`, with the status it tells the event loop to exit
with. -/
def transaction (programs : SessionPrograms) (app : HelperApp) :
    HelperProgram (PamHandle × Option HelperExitStatus) := do
  ask (.hello app.id)
  let r ← PamBackend.start app
  if r.2 then
    let r ← PamBackend.authenticateUser r.1
    if r.2 then
      let user : QString ← ask .pamGetUser
      let env ← authenticated user
      if app.sessionPath.isEmpty then return (r.1, some .success)
      else openSession programs user app.sessionPath env r.1
    else do
      let _ ← authenticated []
      return (r.1, some .authError)
  else do
    let _ ← authenticated []
    return (r.1, some .authError)

/-- `HelperApp::~HelperApp` and the destruction of its parts. -/
def destroy (pam : PamHandle) : HelperProgram PUnit := do
  ask .stopProcess
  let pam ← PamBackend.closeUserSession pam
  pam.finish

/-- The event loop, unless it has been told to exit already. -/
def waitForExit : Option HelperExitStatus → HelperProgram HelperExitStatus
  | some status => return status
  | none => ask .exec

/-- A helper that is not connected, because of its arguments or its daemon,
only waits for its end. -/
def whenConnected (programs : SessionPrograms) (app : HelperApp)
    (connected : Bool) :
    HelperProgram (PamHandle × Option HelperExitStatus) :=
  if connected then transaction programs app else return ({}, none)

/-- The whole helper, with the status it exits with. -/
def main (programs : SessionPrograms) (app : HelperApp) :
    HelperProgram HelperExitStatus := do
  let connected : Bool ← ask .connected
  let r ← whenConnected programs app connected
  let status ← waitForExit r.2
  destroy r.1
  return status

end HelperApp

end PlasmaLogin

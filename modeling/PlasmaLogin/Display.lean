/-
`Display`, the login screen and session of one seat.  A slot maps the display
to the display afterwards and the calls and signals it made, in order.  The
calls the event loop still owes the display and the open connections to its
socket server are kept with it.
-/
import PlasmaLogin.Greeter
import PlasmaLogin.Mealy
import PlasmaLogin.Session

namespace PlasmaLogin

open Mealy

/-- A connection to a display's socket server. -/
abbrev SocketId := Nat

/-- What a display does to its surroundings. -/
inductive DisplayEffect where
  | helperStart (auth : Auth)
  | greeterStart (auth : Auth)
  | helperReply (frame : DaemonFrame)
  | loginFailed (socket : SocketId)
  | loginSucceeded (socket : SocketId)
  | informationMessage (socket : SocketId) (message : QString)
  | unlockSession (sessionId : QString)
  | activateSession (sessionId : QString)
  | ttyFailure
  | jumpToVt (vt : Int32)
  | displayServerFailed
  | stopped

/-- Whether `QObject::blockSignals` on the display holds the effect back. -/
def DisplayEffect.isSignal : DisplayEffect → Bool
  | .loginFailed _ | .loginSucceeded _ | .displayServerFailed | .stopped =>
      true
  | _ => false

/-- The listening side of `SocketServer`. -/
structure SocketServer where
  created : Bool := false
  listening : Bool := false
  address : QString := []
deriving DecidableEq

/-- `SocketServer::start`. -/
def SocketServer.start (ctx : Context) (server : SocketServer) :
    SocketServer :=
  if server.created then server
  else
    match ctx.listening with
    | some address => ⟨true, true, address⟩
    | none => ⟨true, false, []⟩

structure Display where
  started : Bool := false
  terminalId : Int32 := -1
  sessionTerminalId : Int32 := 0
  passPhrase : QString := []
  sessionName : QString := []
  reuseSessionId : Option QString := none
  autologinSession : Session := {}
  auth : Auth
  seatName : QString
  socketServer : SocketServer := {}
  socket : Option SocketId := none
  greeter : Greeter := {}
  connections : List SocketId := []
  startOwed : Bool := true
  displayServerStartedOwed : Nat := 0
  greeterStopsOwed : Nat := 0
deriving DecidableEq

/-- What `Auth::stop` sees of the two helpers while one call of
`Display::stop` waits for them; `none` when the wait times out. -/
structure StopWaits where
  greeter : Option ExitReport := none
  helper : Option ExitReport := none

/-- `PLASMALOGIN_INITIAL_VT`. -/
def initialVt : Int32 := 1

namespace Display

def sessionType (_ : Display) : QString := "wayland"

/-- `Display::terminalId`. -/
def currentTerminalId (d : Display) : Int32 :=
  if d.auth.isActive then d.sessionTerminalId else d.terminalId

/-- `logind` lists a session of this login manager that the user can return
to. -/
def reusableSession (ctx : Context) (user : QString) : Option QString :=
  ((ctx.logind.getD []).find? fun s =>
    s.userName = user && s.service = ("plasmalogin" : QString) &&
      s.state = ("online" : QString)).map LogindSession.sessionId

/-- The terminal a new session gets. -/
def newSessionTerminal (ctx : Context) (d : Display) : Int32 :=
  if d.greeter.isRunning && ctx.canTTY then ctx.newVt else d.terminalId

/-- The environment `startAuth` prepares for a session. -/
def sessionEnvironment (ctx : Context) (session : Session) (d : Display) :
    QProcessEnvironment :=
  let env : QProcessEnvironment := ∅
  let env := env.insert "PATH" ctx.defaultPath
  let env := env.insert "XDG_SEAT_PATH" (DisplayManager.seatPath d.seatName)
  let env := env.insert "XDG_SESSION_PATH"
    (DisplayManager.newSessionPath ctx.newSessionId)
  let env := env.insert "DESKTOP_SESSION" session.desktopSession
  let env := if session.desktopNames.isEmpty then env
    else env.insert "XDG_CURRENT_DESKTOP" session.desktopNames
  let env := env.insert "XDG_SESSION_CLASS" "user"
  let env := env.insert "XDG_SESSION_TYPE" session.xdgSessionType
  let env := env.insert "XDG_SEAT" d.seatName
  let env := if d.sessionTerminalId > 0 then
    env.insert "XDG_VTNR" (QString.number d.sessionTerminalId.toInt64)
    else env
  env.insert "XDG_SESSION_DESKTOP" session.desktopNames

/-- The handle on the helper as `startAuth` leaves it before the start. -/
def preparedAuth (user : QString) (session : Session)
    (env : QProcessEnvironment) (d : Display) : Auth :=
  let auth := d.auth.setUser user
  let auth := if d.reuseSessionId.isNone then auth.setSession session.exec
    else auth
  auth.insertEnvironment env

/-- `Display::startAuth`, with whether it started the helper. -/
def startAuth (ctx : Context) (user password : QString) (session : Session)
    (d : Display) : Display × List DisplayEffect × Bool :=
  if d.auth.isActive then (d, [], false)
  else
    let d := { d with passPhrase := password }
    if !session.startable then (d, [], false)
    else
      let d := { d with
        reuseSessionId := reusableSession ctx user,
        sessionName := session.fileName,
        sessionTerminalId := d.newSessionTerminal ctx }
      let auth := d.preparedAuth user session
        (d.sessionEnvironment ctx session)
      ({ d with auth := auth.start }, [.helperStart auth], true)

/-- `Display::handleAutologinFailure`. -/
def handleAutologinFailure (d : Display) : Display :=
  { d with
    auth := d.auth.setAutologin false,
    displayServerStartedOwed := d.displayServerStartedOwed + 1 }

/-- `Display::start`, which always reports success. -/
def start (ctx : Context) (d : Display) : Display × List DisplayEffect :=
  if d.started then (d, [])
  else
    let d := { d with started := true }
    if d.autologinSession.isValid then
      let d := { d with auth := d.auth.setAutologin true }
      let r := d.startAuth ctx ctx.autologinUser [] d.autologinSession
      if r.2.2 then (r.1, r.2.1) else (r.1.handleAutologinFailure, r.2.1)
    else
      ({ d with displayServerStartedOwed := d.displayServerStartedOwed + 1 },
        [])

/-- `Display::startSocketServerAndGreeter`. -/
def startSocketServerAndGreeter (ctx : Context) (d : Display) :
    Display × List DisplayEffect :=
  let d := { d with socketServer := d.socketServer.start ctx }
  if ctx.chownFails then (d, [])
  else
    let greeter := { d.greeter with socket := d.socketServer.address }
    let r := greeter.start ctx d.seatName d.currentTerminalId d.sessionType
    ({ d with greeter := r.1 },
      (r.2.map DisplayEffect.greeterStart).toList)

/-- `Display::login`. -/
def login (ctx : Context) (socket : SocketId) (user password : QString)
    (session : Session) (d : Display) : Display × List DisplayEffect :=
  let d := { d with socket := some socket }
  -- the greeter's own user needs no password
  if user = ("plasmalogin" : QString) then (d, [.loginFailed socket])
  else
    let r := d.startAuth ctx user password session
    (r.1, r.2.1)

/-- `Display::slotAuthInfo`. -/
def slotAuthInfo (message : QString) (d : Display) : List DisplayEffect :=
  match d.socket with
  | none => []
  | some s => [.informationMessage s message]

/-- `Display::slotAuthError`. -/
def slotAuthError (message : QString) (error : AuthError) (d : Display) :
    List DisplayEffect :=
  match d.socket with
  | none => []
  | some s => .informationMessage s message ::
      if error = .authentication then [.loginFailed s] else []

/-- `Display::slotAuthenticationFinished`. -/
def slotAuthenticationFinished (success : Bool) (d : Display) :
    Display × List DisplayEffect :=
  if d.auth.autologin && !success then (d.handleAutologinFailure, [])
  else
    let unlocks := match success, d.reuseSessionId with
      | true, some id => [.unlockSession id, .activateSession id]
      | _, _ => []
    let verdict := match d.socket with
      | none => []
      | some s => [if success then .loginSucceeded s else .loginFailed s]
    ({ d with socket := none }, unlocks ++ verdict)

/-- The answers `slotRequestChanged` gives; requests of another length are
left open. -/
def fillPrompts (user passPhrase : QString) :
    List Prompt → Option (List Prompt)
  | [p] => some [{ p with response := passPhrase.qPrintable }]
  | [p, q] => some [{ p with response := user.qPrintable },
      { q with response := passPhrase.qPrintable }]
  | _ => none

/-- `Display::slotRequestChanged`. -/
def slotRequestChanged (d : Display) : Display × List DisplayEffect :=
  match fillPrompts d.auth.user d.passPhrase d.auth.request.prompts with
  | none => (d, [])
  | some ps =>
      let r := AuthRequest.done { d.auth.request with prompts := ps }
      ({ d with auth := { d.auth with request := r.1 } },
        (r.2.map fun reply => .helperReply (.request reply)).toList)

/-- `Display::slotSessionStarted`. -/
def slotSessionStarted (success : Bool) (d : Display) : Display :=
  if success then { d with greeterStopsOwed := d.greeterStopsOwed + 1 } else d

/-- `Auth::Private::dataPending` on one frame, with the slots it reaches. -/
def dataPending (d : Display) : HelperFrame → Display × List DisplayEffect
  | .error message type => (d, d.slotAuthError message type)
  | .info message _ => (d, d.slotAuthInfo message)
  | .request r =>
      slotRequestChanged { d with
        auth := { d.auth with request := d.auth.request.setRequest r } }
  | .authenticated user =>
      if user.isEmpty then d.slotAuthenticationFinished false
      else
        andThen (slotAuthenticationFinished true
            { d with auth := d.auth.setUser user })
          fun d => (d, [.helperReply (.authenticated d.auth.environment)])
  | .sessionStatus status =>
      (d.slotSessionStarted status, [.helperReply .sessionStatus])
  | .displayServerStarted _ => (d, [.helperReply .displayServerStarted])
  | .unexpected msg =>
      (d, d.slotAuthError
        (("Auth: Unexpected value received: " : QString) ++
          QString.number (Int64.ofInt msg.code)) .internal)

theorem dataPending_request (d : Display) (r : Request) :
    d.dataPending (.request r) = slotRequestChanged { d with
      auth := { d.auth with request := d.auth.request.setRequest r } } := rfl

theorem dataPending_authenticated (d : Display) (user : QString) :
    d.dataPending (.authenticated user) =
      if user.isEmpty then d.slotAuthenticationFinished false
      else
        andThen (slotAuthenticationFinished true
            { d with auth := d.auth.setUser user })
          fun d => (d, [.helperReply (.authenticated d.auth.environment)]) :=
  rfl

/-- `Auth::Private::childError`. -/
def childError (errorString : QString) (d : Display) : List DisplayEffect :=
  d.slotAuthError errorString .internal

/-- `Display::slotHelperFinished`. -/
def slotHelperFinished (stop : Display → Display × List DisplayEffect)
    (status : HelperExitStatus) (d : Display) :
    Display × List DisplayEffect :=
  if status ≠ .authError then stop d else (d, [])

/-- The end of the helper: `Auth::Private::childExited` and, after a crash,
`childError` before it. -/
def childExited (stop : Display → Display × List DisplayEffect)
    (report : ExitReport) (d : Display) : Display × List DisplayEffect :=
  let d := { d with auth := { d.auth with child := .notRunning } }
  let errors := if report.exitStatus = .normalExit then []
    else d.childError report.errorString ++
      d.slotAuthError report.errorString .internal
  andThen (d, errors) (slotHelperFinished stop (Auth.exitStatusOf report))

/-- `Seat::removeDisplay`: the display is stopped with its signals blocked. -/
def removeDisplay (stop : Display → Display × List DisplayEffect)
    (d : Display) : Display × List DisplayEffect :=
  let r := stop d
  (r.1, r.2.filter fun e => !e.isSignal)

/-- The end of the greeter's helper, with what the display and its seat do
about it. -/
def greeterExited (stop : Display → Display × List DisplayEffect)
    (report : ExitReport) (d : Display) : Display × List DisplayEffect :=
  let r := d.greeter.onHelperFinished (Auth.exitStatusOf report)
  let d := { d with greeter := r.1 }
  match r.2 with
  | none => (d, [])
  | some .failed => stop d
  | some .ttyFailed => andThen (d, [.ttyFailure, .jumpToVt initialVt]) stop
  | some .displayServerFailed =>
      andThen (d, [.displayServerFailed]) (removeDisplay stop)

/-- `Greeter::stop`. -/
def stopGreeter (stop : Display → Display × List DisplayEffect)
    (report : Option ExitReport) (d : Display) :
    Display × List DisplayEffect :=
  match d.greeter.waits, report with
  | true, some report => greeterExited stop report d
  | _, _ => (d, [])

/-- `m_auth->stop()`. -/
def stopHelper (stop : Display → Display × List DisplayEffect)
    (report : Option ExitReport) (d : Display) :
    Display × List DisplayEffect :=
  match d.auth.isActive, report with
  | true, some report => childExited stop report d
  | _, _ => (d, [])

/-- The last part of `Display::stop`. -/
def closeDown (d : Display) : Display × List DisplayEffect :=
  ({ d with socketServer := {}, started := false }, [.stopped])

/-- `Display::stop`.  The end of a helper that is being waited for can stop
the display again from inside; the next element of the list says what that
call sees. -/
def stop : List StopWaits → Display → Display × List DisplayEffect
  | [], d => if d.started then d.closeDown else (d, [])
  | w :: rest, d =>
      if d.started then
        andThen (andThen (stopGreeter (stop rest) w.greeter d)
          (stopHelper (stop rest) w.helper)) closeDown
      else (d, [])

end Display

end PlasmaLogin

/-
What the daemon's slots read from their surroundings, and `Greeter`, the
handle on the process that shows the login screen.
-/
import PlasmaLogin.Auth

namespace PlasmaLogin

/-- One entry of logind's session list with the properties read from it. -/
structure LogindSession where
  sessionId : QString
  userName : QString
  service : QString
  state : QString
deriving DecidableEq, Repr

/-- Everything a slot reads from outside the display it runs on; `logind` is
`none` when logind is not available, `listening` when the socket server
cannot listen. -/
structure Context where
  logind : Option (List LogindSession) := some []
  canTTY : Bool := false
  newVt : Int32 := 0
  newSessionId : Int32 := 0
  newAuthId : Int64 := 1
  defaultPath : QString := []
  autologinUser : QString := []
  listening : Option QString := some "plasmalogin"
  chownFails : Bool := false
  greeterCommand : QString := []
  systemEnvironment : QProcessEnvironment := ∅

namespace DisplayManager

def seatPath (seatName : QString) : QString :=
  ("/org/freedesktop/DisplayManager/Seat" : QString) ++ seatName.drop 4

def sessionPath (sessionName : QString) : QString :=
  ("/org/freedesktop/DisplayManager/Session" : QString) ++ sessionName.drop 7

/-- The path announced for a session counter. -/
def newSessionPath (id : Int32) : QString :=
  sessionPath (("Session" : QString) ++ QString.number id.toInt64)

end DisplayManager

/-- `Greeter`; `auth` is `none` while it has no helper. -/
structure Greeter where
  started : Bool := false
  socket : QString := []
  auth : Option Auth := none
deriving DecidableEq

namespace Greeter

def isRunning (g : Greeter) : Bool := g.auth.any Auth.isActive

/-- The variables a greeter inherits from the daemon. -/
def inheritedVariables : List QString :=
  ["LANG", "LANGUAGE", "LC_CTYPE", "LC_NUMERIC", "LC_TIME", "LC_COLLATE",
    "LC_MONETARY", "LC_MESSAGES", "LC_PAPER", "LC_NAME", "LC_ADDRESS",
    "LC_TELEPHONE", "LC_MEASUREMENT", "LC_IDENTIFICATION", "LD_LIBRARY_PATH",
    "QML2_IMPORT_PATH", "QT_PLUGIN_PATH", "XDG_DATA_DIRS"]

def insertEnvironmentList (names : List QString)
    (source target : QProcessEnvironment) : QProcessEnvironment :=
  names.foldl (fun (env : QProcessEnvironment) name =>
    match source.lookup name with
    | some value => env.insert name value
    | none => env) target

/-- The environment of a greeter on a seat and terminal. -/
def environment (ctx : Context) (seatName : QString) (terminalId : Int32)
    (sessionType socket : QString) : QProcessEnvironment :=
  let env : QProcessEnvironment :=
    insertEnvironmentList inheritedVariables ctx.systemEnvironment ∅
  let env := env.insert "PATH" ctx.defaultPath
  let env := env.insert "XDG_SEAT" seatName
  let env := env.insert "XDG_SEAT_PATH" (DisplayManager.seatPath seatName)
  let env := env.insert "XDG_SESSION_PATH"
    (DisplayManager.newSessionPath ctx.newSessionId)
  let env := if seatName = ("seat0" : QString) ∧ terminalId > 0 then
    env.insert "XDG_VTNR" (QString.number terminalId.toInt64) else env
  let env := env.insert "XDG_SESSION_CLASS" "greeter"
  let env := env.insert "XDG_SESSION_TYPE" sessionType
  env.insert "SDDM_SOCKET" socket

/-- The handle `Greeter::start` creates, as it is when its helper starts. -/
def newAuth (ctx : Context) (env : QProcessEnvironment) : Auth :=
  (((Auth.insertEnvironment env { id := ctx.newAuthId }).setUser
    "plasmalogin").setGreeter true).setSession ctx.greeterCommand

/-- `Greeter::start`, with the handle on the helper it starts. -/
def start (ctx : Context) (seatName : QString) (terminalId : Int32)
    (sessionType : QString) (g : Greeter) : Greeter × Option Auth :=
  if g.started then (g, none)
  else
    let auth := newAuth ctx
      (environment ctx seatName terminalId sessionType g.socket)
    ({ g with auth := some auth.start }, some auth)

/-- `Greeter::onSessionStarted`. -/
def onSessionStarted (success : Bool) (g : Greeter) : Greeter :=
  { g with started := success }

/-- The signal `Greeter::onHelperFinished` ends with, if any. -/
inductive EndSignal where
  | displayServerFailed
  | ttyFailed
  | failed
deriving DecidableEq, Repr

/-- `Greeter::onHelperFinished`. -/
def onHelperFinished (status : HelperExitStatus) (g : Greeter) :
    Greeter × Option EndSignal :=
  ({ g with started := false, auth := none },
    if status = .displayServerError then some .displayServerFailed
    else if status = .ttyError then some .ttyFailed
    else if status = .sessionError then some .failed
    else none)

/-- The helper is still there after `Greeter::stop` asked it to end. -/
def waits (g : Greeter) : Bool := g.started && g.isRunning

end Greeter

end PlasmaLogin

/-
`Auth`, the daemon's handle on one helper process: the values it carries from
attempt to attempt and the command line it starts the helper with.
-/
import PlasmaLogin.AuthMessages

namespace PlasmaLogin

/-- The option words of the helper's command line. -/
inductive HelperOption where
  | socket
  | id
  | start
  | user
  | displayServer
  | autologin
  | greeter
deriving DecidableEq, Repr

def HelperOption.word : HelperOption → QString
  | .socket => "--socket"
  | .id => "--id"
  | .start => "--start"
  | .user => "--user"
  | .displayServer => "--display-server"
  | .autologin => "--autologin"
  | .greeter => "--greeter"

theorem HelperOption.word_injective {o p : HelperOption}
    (h : o.word = p.word) : o = p := by
  have hlength : o.word.length = p.word.length := congrArg List.length h
  cases o <;> cases p <;> first | rfl | exact absurd hlength (by decide)

@[simp] theorem HelperOption.word_inj {o p : HelperOption} :
    o.word = p.word ↔ o = p :=
  ⟨word_injective, congrArg word⟩

/-- `QProcess::ProcessState`. -/
inductive ProcessState where
  | notRunning
  | starting
  | running
deriving DecidableEq, Repr

/-- `AuthRequest::Private`: the prompts the daemon is being asked. -/
structure AuthRequest where
  prompts : List Prompt := []
  finishAutomatically : Bool := false
  finished : Bool := true
deriving DecidableEq

namespace AuthRequest

/-- `AuthRequest::setRequest` with a request from the helper. -/
def setRequest (r : Request) (a : AuthRequest) : AuthRequest :=
  { a with prompts := r.prompts, finished := false }

/-- `AuthRequest::done` with the slot it triggers, `requestFinished`: the
prompts go back to the helper and are forgotten. -/
def done (a : AuthRequest) : AuthRequest × Option Request :=
  if a.finished then (a, none)
  else ({ a with prompts := [], finished := true }, some ⟨a.prompts⟩)

end AuthRequest

/-- `Auth::Private`. -/
structure Auth where
  id : Int64
  request : AuthRequest := {}
  child : ProcessState := .notRunning
  sessionPath : QString := []
  user : QString := []
  autologin : Bool := false
  greeter : Bool := false
  environment : QProcessEnvironment := ∅
deriving DecidableEq

namespace Auth

def isActive (a : Auth) : Bool := a.child ≠ .notRunning

def setUser (user : QString) (a : Auth) : Auth := { a with user := user }

def setAutologin (on : Bool) (a : Auth) : Auth := { a with autologin := on }

def setGreeter (on : Bool) (a : Auth) : Auth := { a with greeter := on }

def setSession (path : QString) (a : Auth) : Auth :=
  { a with sessionPath := path }

def insertEnvironment (env : QProcessEnvironment) (a : Auth) : Auth :=
  { a with environment := a.environment.insertAll env }

/-- `Auth::Private::childExited`: the status the daemon is told. -/
def exitStatusOf (report : ExitReport) : HelperExitStatus :=
  if report.exitStatus ≠ .normalExit then .otherError else report.exitCode

/-- The value of the `--start` option, when there is one. -/
def startOption (a : Auth) : Option QString :=
  if a.sessionPath.isEmpty then none else some a.sessionPath

/-- The value of the `--user` option, when there is one. -/
def userOption (a : Auth) : Option QString :=
  if a.user.isEmpty then none else some a.user

/-- An option word with its value, or nothing. -/
def optionWords (option : HelperOption) : Option QString → List QString
  | none => []
  | some value => [option.word, value]

/-- A bare option word, or nothing. -/
def flagWords (option : HelperOption) (on : Bool) : List QString :=
  if on then [option.word] else []

/-- The argument list `Auth::start` hands to the helper. -/
def startArgs (serverName : QString) (a : Auth) : List QString :=
  [HelperOption.socket.word, serverName] ++
    [HelperOption.id.word, QString.number a.id] ++
    optionWords .start a.startOption ++ optionWords .user a.userOption ++
    flagWords .autologin a.autologin ++ flagWords .greeter a.greeter

/-- The helper binary below the installation's libexec directory. -/
def helperProgram (libexecDir : QString) : QString :=
  libexecDir ++ ("/plasmalogin-helper" : QString)

/-- `QCoreApplication::arguments()` as the started helper sees it. -/
def helperArguments (libexecDir serverName : QString) (a : Auth) :
    List QString :=
  helperProgram libexecDir :: a.startArgs serverName

/-- `Auth::start`; a process that is already running is left alone. -/
def start (a : Auth) : Auth :=
  if a.isActive then a else { a with child := .starting }

/-- Starting the process leaves the values alone. -/
theorem start_eq (a : Auth) : a.start = { a with child := a.start.child } := by
  unfold start
  split <;> rfl

@[simp] theorem start_sessionPath (a : Auth) :
    a.start.sessionPath = a.sessionPath :=
  (congrArg sessionPath a.start_eq :)

@[simp] theorem start_user (a : Auth) : a.start.user = a.user :=
  (congrArg user a.start_eq :)

@[simp] theorem start_autologin (a : Auth) :
    a.start.autologin = a.autologin :=
  (congrArg autologin a.start_eq :)

@[simp] theorem start_greeter (a : Auth) : a.start.greeter = a.greeter :=
  (congrArg greeter a.start_eq :)

@[simp] theorem start_isActive (a : Auth) : a.start.isActive = true := by
  unfold start
  split
  · assumption
  · rfl

end Auth

end PlasmaLogin

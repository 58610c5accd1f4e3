/-
The vocabulary of the daemon/helper protocol: prompts and requests, error and
information kinds, exit statuses and the frames either side can send.
-/
import PlasmaLogin.QString
import Mathlib.Data.List.AList

namespace PlasmaLogin

/-- `AuthPrompt::Type`. -/
inductive PromptType where
  | none
  | unknown
  | changeCurrent
  | changeNew
  | changeRepeat
  | loginUser
  | loginPassword
deriving DecidableEq, Repr

/-- One prompt with the answer given to it so far. -/
structure Prompt where
  type : PromptType := .none
  response : QByteArray := []
  message : QString := []
  hidden : Bool := false
deriving DecidableEq, Repr

namespace Prompt

/-- `Prompt(type, message, hidden)`: a prompt nobody has answered yet. -/
def ask (type : PromptType) (message : QString) (hidden : Bool) : Prompt :=
  { type := type, message := message, hidden := hidden }

def valid (p : Prompt) : Bool :=
  !(p.type = .none && p.response.isEmpty && p.message.isEmpty)

/-- The parts of a prompt that a reply must repeat. -/
def sameQuestion (p q : Prompt) : Bool :=
  p.type = q.type && p.message = q.message && p.hidden = q.hidden

theorem valid_of_type_ne_none {p : Prompt} (hp : p.type ≠ .none) :
    p.valid = true := by
  simp [valid, hp]

end Prompt

/-- The list of prompts sent to, and answered by, the daemon. -/
structure Request where
  prompts : List Prompt := []
deriving DecidableEq, Repr

namespace Request

def valid (r : Request) : Bool := !r.prompts.isEmpty

def clear (_ : Request) : Request := {}

/-- The same prompts with the given answers. -/
def answered (r : Request) (answers : List QByteArray) : Request :=
  ⟨r.prompts.zipWith (fun p a => { p with response := a }) answers⟩

end Request

/-- `Auth::Error`. -/
inductive AuthError where
  | none
  | unknown
  | authentication
  | internal
deriving DecidableEq, Repr

/-- `Auth::Info`. -/
inductive AuthInfo where
  | none
  | unknown
  | passChangeRequired
deriving DecidableEq, Repr

/-- `Auth::HelperExitStatus`.  The daemon casts the exit code of the helper to
this enumeration unchecked, so every number can occur. -/
abbrev HelperExitStatus := Int

namespace HelperExitStatus

def success : HelperExitStatus := 0
def authError : HelperExitStatus := 1
def sessionError : HelperExitStatus := 2
def otherError : HelperExitStatus := 3
def displayServerError : HelperExitStatus := 4
def ttyError : HelperExitStatus := 5

end HelperExitStatus

/-- `QProcess::ExitStatus`. -/
inductive ExitStatus where
  | normalExit
  | crashExit
deriving DecidableEq, Repr

/-- What `QProcess::finished` reports: the exit code of a process that ended
normally, the signal number of one that crashed; with `errorString()` at that
moment. -/
structure ExitReport where
  exitCode : Int
  exitStatus : ExitStatus
  errorString : QString := []
deriving DecidableEq, Repr

/-- `Msg`, the operation codes of the protocol. -/
inductive Msg where
  | unknown
  | hello
  | error
  | info
  | request
  | authenticated
  | sessionStatus
  | displayServerStarted
deriving DecidableEq, Repr

def Msg.code : Msg → Int
  | .unknown => 0
  | .hello => 1
  | .error => 2
  | .info => 3
  | .request => 4
  | .authenticated => 5
  | .sessionStatus => 6
  | .displayServerStarted => 7

/-- `QProcessEnvironment`: a map from variable names to values. -/
abbrev QProcessEnvironment := AList (fun _ : QString => QString)

/-- `QProcessEnvironment::insert(name, value)`. -/
def QProcessEnvironment.insert (env : QProcessEnvironment)
    (name value : QString) : QProcessEnvironment :=
  AList.insert name value env

/-- `QProcessEnvironment::insert(const QProcessEnvironment &)`: variables of
the inserted environment win. -/
def QProcessEnvironment.insertAll (env other : QProcessEnvironment) :
    QProcessEnvironment :=
  other ∪ env

/-- A frame the helper has sent, as `Auth::Private::dataPending` decodes it. -/
inductive HelperFrame where
  | error (message : QString) (type : AuthError)
  | info (message : QString) (type : AuthInfo)
  | request (request : Request)
  | authenticated (user : QString)
  | sessionStatus (status : Bool)
  | displayServerStarted (displayName : QString)
  | unexpected (msg : Msg)
deriving DecidableEq

/-- A frame the daemon sends back to the helper. -/
inductive DaemonFrame where
  | request (request : Request)
  | authenticated (environment : QProcessEnvironment)
  | sessionStatus
  | displayServerStarted

end PlasmaLogin

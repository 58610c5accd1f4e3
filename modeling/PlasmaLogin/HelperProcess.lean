/-
`HelperApp` as a process that talks to the daemon: where the source waits for
a frame, the process goes on from the frame that comes back, and every PAM
call goes on from the answers its conversations get.
-/
import PlasmaLogin.CallChannel
import PlasmaLogin.HelperRun

namespace PlasmaLogin

open CallChannel

/-- A helper that has said hello, to the status it exits with. -/
abbrev HelperProcess := Caller HelperFrame DaemonFrame HelperExitStatus

/-- A PAM call that can hold conversations before it returns. -/
inductive PamProcess (A : Type) where
  | returns (value : A)
  | converses (msgs : List PamMessage) (next : ConvResult → PamProcess A)

/-- A PAM call that goes on with a second one. -/
def PamProcess.andThen {A B : Type} (next : A → PamProcess B) :
    PamProcess A → PamProcess B
  | .returns value => next value
  | .converses msgs rest => .converses msgs fun result =>
      (rest result).andThen next

/-- The module stack, with the state it keeps between the calls, and what the
system makes of the session. -/
structure PamModules (M : Type) where
  start : PamOutcome
  initial : M
  authenticate : M → PamProcess (PamOutcome × M)
  acctMgmt : M → PamProcess (AcctResult × M)
  chAuthTok : M → PamProcess (PamOutcome × M)
  userName : M → QString
  setCred : M → PamProcess (PamOutcome × M)
  putEnv : M → QProcessEnvironment → PamOutcome
  openSession : M → PamProcess (PamOutcome × M)
  sessionStarts : M → Bool
  sessionStatus : M → HelperExitStatus
  closeSession : M → PamProcess (PamOutcome × M)
  deleteCred : M → PamProcess (PamOutcome × M)

namespace HelperProcess

/-- Frames nobody waits on, one after the other. -/
def sendsAll (frames : List HelperFrame) (next : HelperProcess) :
    HelperProcess :=
  frames.foldr Caller.sends next

/-- `HelperApp::request`; any other frame counts as an empty reply. -/
def request (r : Request) (next : Request → HelperProcess) : HelperProcess :=
  .calls (.request r) fun
    | .request response => next response
    | _ => next {}

/-- `HelperApp::authenticated`, which only waits when there is a user. -/
def authenticated (user : QString)
    (next : QProcessEnvironment → HelperProcess) : HelperProcess :=
  if user.isEmpty then .sends (.authenticated user) (next ∅)
  else
    .calls (.authenticated user) fun
      | .authenticated env => next env
      | _ => next ∅

/-- `HelperApp::sessionOpened`. -/
def sessionOpened (success : Bool) (next : HelperProcess) : HelperProcess :=
  .calls (.sessionStatus success) fun _ => next

/-- `PamBackend::converse` with the daemon at the other end. -/
def converse (msgs : List PamMessage)
    (next : ConvResult → PamData → HelperProcess) (d : PamData) :
    HelperProcess :=
  match PamBackend.sentRequest d msgs with
  | none =>
      let r := PamBackend.converse d ⟨msgs, fun _ => none⟩
      sendsAll r.2.1 (next r.2.2 r.1)
  | some sent =>
      sendsAll (PamBackend.collect d msgs).frames
        (request sent fun received =>
          let r := PamBackend.converse d ⟨msgs, fun _ => some received⟩
          next r.2.2 r.1)

end HelperProcess

/-- A PAM call on a prompt store, and what the helper does with its value. -/
def PamProcess.run {A : Type} (next : A → PamData → HelperProcess) :
    PamProcess A → PamData → HelperProcess
  | .returns value, d => next value d
  | .converses msgs rest, d =>
      HelperProcess.converse msgs (fun result d => (rest result).run next d) d

namespace HelperProcess

variable {M : Type}

/-- A PAM call whose failure is reported to the daemon. -/
def perform (call : PamProcess (PamOutcome × M)) (error : AuthError)
    (next : M → PamData → HelperProcess) (failed : M → PamData → HelperProcess)
    (d : PamData) : HelperProcess :=
  call.run (fun r d =>
    if r.1.success then next r.2 d
    else .sends (.error r.1.errorString error) (failed r.2 d)) d

/-- `PamHandle::acctMgmt`, which changes an expired password. -/
def acctMgmt (pam : PamModules M) (m : M) : PamProcess (PamOutcome × M) :=
  (pam.acctMgmt m).andThen fun r =>
    match r.1 with
    | .success => .returns (⟨true, []⟩, r.2)
    | .newAuthtokReqd => pam.chAuthTok r.2
    | .failed errorString => .returns (⟨false, errorString⟩, r.2)

/-- `PamBackend::authenticate`. -/
def authenticate (pam : PamModules M) (next : M → PamData → HelperProcess)
    (failed : HelperProcess) (d : PamData) : HelperProcess :=
  perform (pam.authenticate pam.initial) .authentication
    (fun m => perform (acctMgmt pam m) .authentication next
      fun _ _ => failed)
    (fun _ _ => failed) d

/-- `PamBackend::closeSession` of a session PAM has opened, and the exit. -/
def closeSession (pam : PamModules M) (status : HelperExitStatus) (m : M)
    (d : PamData) : HelperProcess :=
  (pam.closeSession m).run (fun r d =>
    (pam.deleteCred r.2).run (fun _ _ => .ends status) d) d

/-- `PamBackend::openSession`, the report of its outcome, the session itself
and the exit of the helper. -/
def openSession (pam : PamModules M) (env : QProcessEnvironment) (m : M)
    (d : PamData) : HelperProcess :=
  let failed : HelperProcess := sessionOpened false (.ends .sessionError)
  perform (pam.setCred m) .authentication
    (fun m d =>
      if (pam.putEnv m env).success then
        perform (pam.openSession m) .internal
          (fun m d =>
            if pam.sessionStarts m then
              sessionOpened true
                (.pauses (closeSession pam (pam.sessionStatus m) m d))
            else
              sessionOpened false (closeSession pam .sessionError m d))
          (fun _ _ => failed) d
      else
        .sends (.error (pam.putEnv m env).errorString .internal)
          failed)
    (fun _ _ => failed) d

/-- `HelperApp::doAuth` after the greeting. -/
def doAuth (pam : PamModules M) (app : HelperApp) : HelperProcess :=
  let refused : HelperProcess := authenticated [] fun _ => .ends .authError
  if !pam.start.success then
    .sends (.error pam.start.errorString .internal) refused
  else
    authenticate pam
      (fun m d => authenticated (pam.userName m) fun env =>
        if app.sessionPath.isEmpty then .ends .success
        else openSession pam env m d)
      refused {}

end HelperProcess

end PlasmaLogin

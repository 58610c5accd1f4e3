/-
`HelperApp::doAuth`, the helper's side of one attempt: the PAM transaction it
drives and the frames it sends to the daemon on the way.  A helper that waits
forever for a reply has sent a first part of what it sends when it gets one.
-/
import PlasmaLogin.Converse
import PlasmaLogin.HelperArguments

namespace PlasmaLogin

open Mealy

/-- One conversation PAM holds, with the reply to a request of it. -/
structure Exchange where
  msgs : List PamMessage
  reply : Request → Request

def Exchange.conversation (x : Exchange) : Conversation :=
  ⟨x.msgs, fun request => some (x.reply request)⟩

/-- Whether a PAM call returned `PAM_SUCCESS`, and what `pam_strerror` says
about it. -/
structure PamOutcome where
  success : Bool
  errorString : QString := []

/-- A PAM call with the conversations it holds. -/
structure PamCall where
  exchanges : List Exchange := []
  outcome : PamOutcome

/-- The results of `pam_acct_mgmt` the helper tells apart. -/
inductive AcctResult where
  | success
  | newAuthtokReqd
  | failed (errorString : QString)

/-- Everything PAM, the module stack and the system do in one transaction. -/
structure PamBehaviour where
  start : PamOutcome := ⟨true, []⟩
  authenticate : PamCall
  acctExchanges : List Exchange := []
  acctResult : AcctResult := .success
  chAuthTok : PamCall := ⟨[], ⟨true, []⟩⟩
  userName : QString
  setCred : PamCall := ⟨[], ⟨true, []⟩⟩
  putEnv : PamOutcome := ⟨true, []⟩
  openSession : PamCall := ⟨[], ⟨true, []⟩⟩
  sessionStarts : Bool := true

/-- `PamHandle::acctMgmt`, which changes an expired password. -/
def PamBehaviour.acctMgmt (pam : PamBehaviour) : PamCall :=
  match pam.acctResult with
  | .success => ⟨pam.acctExchanges, ⟨true, []⟩⟩
  | .newAuthtokReqd =>
      ⟨pam.acctExchanges ++ pam.chAuthTok.exchanges, pam.chAuthTok.outcome⟩
  | .failed errorString => ⟨pam.acctExchanges, ⟨false, errorString⟩⟩

/-- What `PamBackend::authenticate` returns. -/
def PamBehaviour.authenticates (pam : PamBehaviour) : Bool :=
  pam.authenticate.outcome.success && pam.acctMgmt.outcome.success

/-- What `PamBackend::openSession` returns. -/
def PamBehaviour.opensSession (pam : PamBehaviour) : Bool :=
  pam.setCred.outcome.success && pam.putEnv.success &&
    pam.openSession.outcome.success && pam.sessionStarts

namespace PamBackend

/-- The conversations of one PAM call. -/
def talk (xs : List Exchange) (d : PamData) : PamData × List HelperFrame :=
  (pamMachine.exec d (xs.map Exchange.conversation),
    pamMachine.outputs d (xs.map Exchange.conversation))

/-- A PAM call that reports its failure to the daemon and goes on otherwise. -/
def perform (call : PamCall) (error : AuthError)
    (next : PamData → PamData × List HelperFrame) (d : PamData) :
    PamData × List HelperFrame :=
  andThen (talk call.exchanges d) fun d =>
    if call.outcome.success then next d
    else (d, [.error call.outcome.errorString error])

/-- `PamBackend::authenticate`. -/
def authenticate (pam : PamBehaviour) : PamData → PamData × List HelperFrame :=
  perform pam.authenticate .authentication
    (perform pam.acctMgmt .authentication fun d => (d, []))

/-- `PamBackend::openSession`. -/
def openSession (pam : PamBehaviour) : PamData → PamData × List HelperFrame :=
  perform pam.setCred .authentication
    (perform ⟨[], pam.putEnv⟩ .internal
      (perform pam.openSession .internal fun d => (d, [])))

end PamBackend

/-- `HelperApp::doAuth` after the greeting: the frames sent, and the status of
the exit when no session is left running. -/
def HelperApp.doAuth (pam : PamBehaviour) (app : HelperApp) :
    List HelperFrame × Option HelperExitStatus :=
  if !pam.start.success then
    ([.error pam.start.errorString .internal, .authenticated []],
      some .authError)
  else
    let r := PamBackend.authenticate pam {}
    if !pam.authenticates then
      (r.2 ++ [.authenticated []], some .authError)
    else if app.sessionPath.isEmpty then
      (r.2 ++ [.authenticated pam.userName], some .success)
    else
      (r.2 ++ .authenticated pam.userName ::
          ((PamBackend.openSession pam r.1).2 ++
            [.sessionStatus pam.opensSession]),
        if pam.opensSession then none else some .sessionError)

/-- The frames that can make the daemon announce the end of an attempt. -/
def HelperFrame.isVerdict : HelperFrame → Bool
  | .error _ .authentication | .authenticated _ => true
  | _ => false

@[simp] theorem HelperFrame.isVerdict_error (message : QString) :
    (HelperFrame.error message .authentication).isVerdict = true := rfl

@[simp] theorem HelperFrame.isVerdict_authenticated (user : QString) :
    (HelperFrame.authenticated user).isVerdict = true := rfl

/-- The error frame a message is passed on with. -/
def PamMessage.errorFrame (msg : PamMessage) : Option HelperFrame :=
  if msg.style = .errorMsg then some (.error msg.text .authentication)
  else none

/-- The error frames a conversation is passed on with. -/
def Exchange.errorFrames (x : Exchange) : List HelperFrame :=
  if PamBackend.acceptsCount x.msgs then x.msgs.filterMap PamMessage.errorFrame
  else []

namespace PamBackend

theorem verdicts_foldl_collectMessage (predict : Bool)
    (msgs : List PamMessage) (c : Collected) :
    (msgs.foldl (collectMessage predict) c).frames.filter
        HelperFrame.isVerdict =
      c.frames.filter HelperFrame.isVerdict ++
        msgs.filterMap PamMessage.errorFrame := by
  induction msgs generalizing c with
  | nil => simp
  | cons msg rest ih =>
      rw [List.foldl_cons, ih, List.filterMap_cons]
      cases hstyle : msg.style <;>
        simp [collectMessage, PamMessage.errorFrame, hstyle, List.filter_cons,
          HelperFrame.isVerdict]

/-- Of the frames of a conversation, just the error messages are verdicts. -/
theorem verdicts_converse (d : PamData) (x : Exchange) :
    (converse d x.conversation).2.1.filter HelperFrame.isVerdict =
      x.errorFrames := by
  have hcollect : (collect d x.msgs).frames.filter HelperFrame.isVerdict =
      x.msgs.filterMap PamMessage.errorFrame :=
    verdicts_foldl_collectMessage _ _ _
  have hmsgs : x.conversation.msgs = x.msgs := rfl
  rw [converse_frames, hmsgs, Exchange.errorFrames]
  split
  · rw [List.filter_append, hcollect]
    cases sentRequest d x.msgs <;> simp [HelperFrame.isVerdict]
  · rfl

theorem verdicts_talk (xs : List Exchange) (d : PamData) :
    (talk xs d).2.filter HelperFrame.isVerdict =
      xs.flatMap Exchange.errorFrames := by
  induction xs generalizing d with
  | nil => rfl
  | cons x xs ih =>
      have hstep : (talk (x :: xs) d).2 =
          (converse d x.conversation).2.1 ++
            (talk xs (converse d x.conversation).1).2 :=
        pamMachine.outputs_cons d x.conversation _
      rw [hstep, List.filter_append, verdicts_converse, ih,
        List.flatMap_cons]

theorem verdicts_perform_authentication (call : PamCall)
    (next : PamData → PamData × List HelperFrame) (d : PamData) :
    (perform call .authentication next d).2.filter HelperFrame.isVerdict =
      call.exchanges.flatMap Exchange.errorFrames ++
        if call.outcome.success then
          (next (talk call.exchanges d).1).2.filter HelperFrame.isVerdict
        else [.error call.outcome.errorString .authentication] := by
  unfold perform
  rw [andThen_snd, List.filter_append, verdicts_talk]
  split <;> rfl

end PamBackend

namespace PamBehaviour

/-- The error messages PAM shows while it authenticates. -/
def errorFrames (pam : PamBehaviour) : List HelperFrame :=
  pam.authenticate.exchanges.flatMap Exchange.errorFrames ++
    if pam.authenticate.outcome.success then
      pam.acctMgmt.exchanges.flatMap Exchange.errorFrames
    else []

/-- The verdict frames of a failed authentication. -/
theorem verdicts_authenticate_of_failed {pam : PamBehaviour}
    (h : pam.authenticates = false) (d : PamData) :
    ∃ text, (PamBackend.authenticate pam d).2.filter HelperFrame.isVerdict =
      pam.errorFrames ++ [.error text .authentication] := by
  unfold PamBackend.authenticate
  rw [PamBackend.verdicts_perform_authentication]
  unfold errorFrames
  split
  next hsuccess =>
    have hacct : pam.acctMgmt.outcome.success = false := by
      simpa [authenticates, hsuccess] using h
    rw [PamBackend.verdicts_perform_authentication, hacct]
    exact ⟨_, (List.append_assoc ..).symm⟩
  · exact ⟨_, by rw [List.append_nil]⟩

theorem verdicts_authenticate_of_authenticates {pam : PamBehaviour}
    (h : pam.authenticates = true) (d : PamData) :
    (PamBackend.authenticate pam d).2.filter HelperFrame.isVerdict =
      pam.errorFrames := by
  rw [authenticates, Bool.and_eq_true] at h
  unfold PamBackend.authenticate errorFrames
  rw [PamBackend.verdicts_perform_authentication, h.1, if_pos rfl, if_pos rfl,
    PamBackend.verdicts_perform_authentication, h.2, if_pos rfl]
  simp

end PamBehaviour

end PlasmaLogin

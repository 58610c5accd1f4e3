/-
The `Auth` objects of a greeter.  `Greeter` points to one of them at most, but
every object that is not deleted yet goes on calling the slots it was connected
to: the end of a helper clears the pointer, while the frames the helper left
in its socket are still to come.
-/
import PlasmaLogin.DisplayRuns

namespace PlasmaLogin

open Mealy

/-- Where `Greeter` uses `m_auth` without looking. -/
inductive AuthUse where
  | stop
  | onRequestChanged
  | onHelperFinished
deriving DecidableEq, Repr

/-- An `Auth` object `m_auth` has left, with whether `deleteLater` was called
on it. -/
structure FormerAuth where
  auth : Auth
  deleteOwed : Bool := false

/-- One of the objects: the one `m_auth` points to, or a former one. -/
inductive AuthRef where
  | current
  | former (n : Nat)
deriving DecidableEq, Repr

/-- A greeter with all of its `Auth` objects; `nullUse` is where it used a null
`m_auth`, which is the end of the daemon. -/
structure GreeterAuths where
  greeter : Greeter := {}
  former : List FormerAuth := []
  nullUse : Option AuthUse := none
  destroyed : Bool := false

/-- What a greeter does to its surroundings. -/
inductive GreeterEffect where
  | helperStart (auth : Auth)
  | helperReply (frame : DaemonFrame)
  | signal (signal : Greeter.EndSignal)

/-- What is delivered to a greeter; the reports are what `Auth::stop` sees
while it waits. -/
inductive GreeterEvent where
  | setSocket (socket : QString)
  | start (ctx : Context) (seatName : QString) (terminalId : Int32)
      (sessionType : QString)
  | frame (sender : AuthRef) (frame : HelperFrame)
  | helperError (sender : AuthRef) (failedToStart : Bool)
  | helperExited (sender : AuthRef) (report : ExitReport)
  | deleted (n : Nat) (report : Option ExitReport)
  | stop (report : Option ExitReport)
  | destructor (report : Option ExitReport)

namespace GreeterAuths

def object (s : GreeterAuths) : AuthRef → Option Auth
  | .current => s.greeter.auth
  | .former n => (s.former[n]?).map FormerAuth.auth

def modifyObject (f : Auth → Auth) (s : GreeterAuths) : AuthRef → GreeterAuths
  | .current =>
      { s with greeter := { s.greeter with auth := s.greeter.auth.map f } }
  | .former n =>
      { s with former := s.former.modify n fun o => { o with auth := f o.auth } }

/-- `Greeter::start`; an object `m_auth` still points to is left behind. -/
def start (ctx : Context) (seatName : QString) (terminalId : Int32)
    (sessionType : QString) (s : GreeterAuths) :
    GreeterAuths × List GreeterEffect :=
  let r := s.greeter.start ctx seatName terminalId sessionType
  let left := if r.2.isSome then s.greeter.auth.toList else []
  ({ s with greeter := r.1, former := s.former ++ left.map fun a => ⟨a, false⟩ },
    (r.2.map GreeterEffect.helperStart).toList)

/-- `Greeter::onRequestChanged`. -/
def onRequestChanged (s : GreeterAuths) : GreeterAuths :=
  match s.greeter.auth with
  | none => { s with nullUse := some .onRequestChanged }
  | some a =>
      let a := { a with request :=
        { a.request with finishAutomatically := true } }
      { s with greeter := { s.greeter with auth := some a } }

/-- `Greeter::onHelperFinished`, whichever object it is called from. -/
def onHelperFinished (status : HelperExitStatus) (s : GreeterAuths) :
    GreeterAuths × List GreeterEffect :=
  match s.greeter.auth with
  | none =>
      ({ s with
        greeter := { s.greeter with started := false },
        nullUse := some .onHelperFinished }, [])
  | some a =>
      let r := s.greeter.onHelperFinished status
      ({ s with greeter := r.1, former := s.former ++ [⟨a, true⟩] },
        (r.2.map GreeterEffect.signal).toList)

/-- `Auth::Private::childExited`. -/
def childExited (sender : AuthRef) (report : ExitReport) (s : GreeterAuths) :
    GreeterAuths × List GreeterEffect :=
  (s.modifyObject (fun a => { a with child := .notRunning })
    sender).onHelperFinished (Auth.exitStatusOf report)

/-- `Auth::stop`; a helper that ends within the wait is reported from
inside. -/
def stopAuth (sender : AuthRef) (report : Option ExitReport)
    (s : GreeterAuths) : GreeterAuths × List GreeterEffect :=
  match (s.object sender).any Auth.isActive, report with
  | true, some report => s.childExited sender report
  | _, _ => (s, [])

/-- `Greeter::stop`. -/
def stop (report : Option ExitReport) (s : GreeterAuths) :
    GreeterAuths × List GreeterEffect :=
  if !s.greeter.started then (s, [])
  else
    match s.greeter.auth with
    | none => ({ s with nullUse := some .stop }, [])
    | some _ => s.stopAuth .current report

/-- `Auth::Private::dataPending` on one frame, with the slots it reaches. -/
def dataPending (sender : AuthRef) (s : GreeterAuths) :
    HelperFrame → GreeterAuths × List GreeterEffect
  | .error _ _ | .info _ _ | .unexpected _ => (s, [])
  | .request r =>
      ((s.modifyObject (fun a => { a with request := a.request.setRequest r })
        sender).onRequestChanged, [])
  | .authenticated user =>
      if user.isEmpty then (s, [])
      else
        (s.modifyObject (Auth.setUser user) sender,
          ((s.object sender).map fun a =>
            .helperReply (.authenticated a.environment)).toList)
  | .sessionStatus status =>
      ({ s with greeter := s.greeter.onSessionStarted status },
        [.helperReply .sessionStatus])
  | .displayServerStarted _ => (s, [.helperReply .displayServerStarted])

/-- `Auth::~Auth` from the event loop. -/
def deleteFormer (n : Nat) (report : Option ExitReport) (s : GreeterAuths) :
    GreeterAuths × List GreeterEffect :=
  let r := s.stopAuth (.former n) report
  ({ r.1 with former := r.1.former.eraseIdx n }, r.2)

def answer (s : GreeterAuths) :
    GreeterEvent → GreeterAuths × List GreeterEffect
  | .setSocket socket =>
      ({ s with greeter := { s.greeter with socket := socket } }, [])
  | .start ctx seatName terminalId sessionType =>
      s.start ctx seatName terminalId sessionType
  | .frame sender frame => s.dataPending sender frame
  | .helperError sender failed =>
      (s.modifyObject (Display.dropFailed failed) sender, [])
  | .helperExited sender report => s.childExited sender report
  | .deleted n report => s.deleteFormer n report
  | .stop report => s.stop report
  | .destructor report =>
      let r := s.stop report
      ({ r.1 with destroyed := true }, r.2)

/-- The events that can reach a greeter in a state.  A frame can come from
every object that is there, whether its helper is or not. -/
def Enabled (s : GreeterAuths) (e : GreeterEvent) : Prop :=
  s.nullUse = none ∧ s.destroyed = false ∧
    match e with
    | .frame sender _ => (s.object sender).isSome = true
    | .helperError sender _ | .helperExited sender _ =>
        (s.object sender).any Auth.isActive = true
    | .deleted n _ => (s.former[n]?).any FormerAuth.deleteOwed = true
    | _ => True

instance (s : GreeterAuths) (e : GreeterEvent) : Decidable (s.Enabled e) := by
  cases e <;> unfold Enabled <;> infer_instance

end GreeterAuths

/-- A greeter with everything that can happen to it. -/
def greeterMachine : Machine GreeterAuths GreeterEvent GreeterEffect where
  enabled := GreeterAuths.Enabled
  step := GreeterAuths.answer

instance (s : GreeterAuths) (es : List GreeterEvent) :
    Decidable (greeterMachine.Runs s es) :=
  inferInstanceAs (Decidable
    (∀ st ∈ greeterMachine.steps s es, st.before.Enabled st.event))

namespace GreeterAuths

/-- `m_started` implies `m_auth`, and `Greeter::stop` has not used a null
one. -/
structure StartedHasAuth (s : GreeterAuths) : Prop where
  auth : s.greeter.started = true → s.greeter.auth.isSome = true
  stop : s.nullUse ≠ some .stop

/-- A report of a started session is handled while `m_auth` is set. -/
def ReportedInTime (s : GreeterAuths) : GreeterEvent → Prop
  | .frame _ (.sessionStatus true) => s.greeter.auth.isSome = true
  | _ => True

theorem modifyObject_started (f : Auth → Auth) (s : GreeterAuths)
    (sender : AuthRef) :
    (s.modifyObject f sender).greeter.started = s.greeter.started := by
  cases sender <;> rfl

theorem modifyObject_auth (f : Auth → Auth) (s : GreeterAuths)
    (sender : AuthRef) :
    (s.modifyObject f sender).greeter.auth.isSome = s.greeter.auth.isSome := by
  cases sender with
  | current => exact Option.isSome_map
  | former n => rfl

theorem modifyObject_nullUse (f : Auth → Auth) (s : GreeterAuths)
    (sender : AuthRef) : (s.modifyObject f sender).nullUse = s.nullUse := by
  cases sender <;> rfl

section kept

variable {s : GreeterAuths}

theorem StartedHasAuth.modifyObject (h : s.StartedHasAuth) (f : Auth → Auth)
    (sender : AuthRef) : (s.modifyObject f sender).StartedHasAuth where
  auth hstarted := by
    rw [modifyObject_started] at hstarted
    rw [modifyObject_auth]
    exact h.auth hstarted
  stop := by
    rw [modifyObject_nullUse]
    exact h.stop

/-- A greeter that is not started stays clear of null pointers. -/
theorem startedHasAuth_of_not_started (hstarted : s.greeter.started = false)
    (hstop : s.nullUse ≠ some .stop) : s.StartedHasAuth where
  auth h := absurd (hstarted.symm.trans h) Bool.false_ne_true
  stop := hstop

theorem StartedHasAuth.start (h : s.StartedHasAuth) (ctx : Context)
    (seatName : QString) (terminalId : Int32) (sessionType : QString) :
    (s.start ctx seatName terminalId sessionType).1.StartedHasAuth where
  auth hstarted := by
    simp only [GreeterAuths.start, Greeter.start] at hstarted ⊢
    split at hstarted
    next hs =>
      rw [if_pos hs]
      exact h.auth hs
    next hs =>
      rw [if_neg hs]
      rfl
  stop := h.stop

theorem StartedHasAuth.onRequestChanged (h : s.StartedHasAuth) :
    s.onRequestChanged.StartedHasAuth := by
  unfold GreeterAuths.onRequestChanged
  split
  · exact ⟨h.auth, by simp⟩
  · exact ⟨fun _ => rfl, h.stop⟩

/-- The end of a helper leaves the greeter not started. -/
theorem StartedHasAuth.onHelperFinished (h : s.StartedHasAuth)
    (status : HelperExitStatus) :
    (s.onHelperFinished status).1.StartedHasAuth := by
  unfold GreeterAuths.onHelperFinished
  split
  · exact startedHasAuth_of_not_started rfl (by simp)
  · exact startedHasAuth_of_not_started rfl h.stop

theorem StartedHasAuth.childExited (h : s.StartedHasAuth) (sender : AuthRef)
    (report : ExitReport) :
    (s.childExited sender report).1.StartedHasAuth :=
  (h.modifyObject _ sender).onHelperFinished _

theorem StartedHasAuth.stopAuth (h : s.StartedHasAuth) (sender : AuthRef)
    (report : Option ExitReport) :
    (s.stopAuth sender report).1.StartedHasAuth := by
  unfold GreeterAuths.stopAuth
  split
  · exact h.childExited sender _
  · exact h

theorem StartedHasAuth.stopGreeter (h : s.StartedHasAuth)
    (report : Option ExitReport) : (s.stop report).1.StartedHasAuth := by
  unfold GreeterAuths.stop
  split
  · exact h
  next hstarted =>
    have hauth := h.auth (by simpa using hstarted)
    split
    next hnull =>
      rw [hnull] at hauth
      exact absurd hauth (by simp)
    · exact h.stopAuth .current report

/-- A frame keeps it unless it reports a session without an `Auth`. -/
theorem StartedHasAuth.dataPending (h : s.StartedHasAuth) {sender : AuthRef}
    {frame : HelperFrame} (hframe : s.ReportedInTime (.frame sender frame)) :
    (s.dataPending sender frame).1.StartedHasAuth := by
  cases frame with
  | error message type => exact h
  | info message type => exact h
  | unexpected msg => exact h
  | displayServerStarted name => exact h
  | request r => exact (h.modifyObject _ sender).onRequestChanged
  | authenticated user =>
      rw [GreeterAuths.dataPending]
      split
      · exact h
      · exact h.modifyObject _ sender
  | sessionStatus status =>
      cases status with
      | false => exact startedHasAuth_of_not_started rfl h.stop
      | true => exact ⟨fun _ => hframe, h.stop⟩

/-- One event keeps it. -/
theorem StartedHasAuth.answer (h : s.StartedHasAuth) {e : GreeterEvent}
    (he : s.ReportedInTime e) : (s.answer e).1.StartedHasAuth := by
  cases e with
  | setSocket socket => exact ⟨h.auth, h.stop⟩
  | start ctx seatName terminalId sessionType =>
      exact h.start ctx seatName terminalId sessionType
  | frame sender frame => exact h.dataPending he
  | helperError sender failed => exact h.modifyObject _ sender
  | helperExited sender report => exact h.childExited sender report
  | deleted n report =>
      have hstop := h.stopAuth (.former n) report
      exact ⟨hstop.auth, hstop.stop⟩
  | stop report => exact h.stopGreeter report
  | destructor report =>
      have hstop := h.stopGreeter report
      exact ⟨hstop.auth, hstop.stop⟩

/-- A state with an `Auth` behind every started session was led to by a report
in time. -/
theorem reportedInTime_of_answer {e : GreeterEvent}
    (h : (s.answer e).1.StartedHasAuth) : s.ReportedInTime e := by
  unfold ReportedInTime
  split
  · exact h.auth rfl
  · exact trivial

end kept

end GreeterAuths

open GreeterAuths in
/-- In every state of a run a started greeter has an `Auth`, if and only if
every report of a started session is handled while `m_auth` is set. -/
theorem startedHasAuth_iff (es : List GreeterEvent) :
    (∀ pre, pre <+: es → (greeterMachine.exec {} pre).StartedHasAuth) ↔
      greeterMachine.Guarded ReportedInTime {} es := by
  constructor
  · intro h st hst
    obtain ⟨pre, e, post, rfl, rfl⟩ := (greeterMachine.mem_steps_iff _ _ _).1 hst
    have hafter := h (pre ++ [e]) ⟨post, by simp⟩
    rw [Machine.exec_concat] at hafter
    exact reportedInTime_of_answer hafter
  · rintro h pre ⟨post, rfl⟩
    rw [Machine.guarded_append] at h
    exact greeterMachine.exec_invariant (fun _ _ hs he => hs.answer he)
      ⟨fun hstarted => absurd hstarted (by simp), by simp⟩ h.1

/-- The helper is killed after it has reported its session; the daemon handles
its end first. -/
def GreeterAuths.killedAfterReport : List GreeterEvent :=
  [.start {} "seat0" 1 "wayland", .helperExited .current ⟨9, .crashExit, []⟩,
    .frame (.former 0) (.sessionStatus true), .stop none]

open GreeterAuths in
/-- The frame that was left in the socket starts a greeter without an `Auth`,
and stopping it uses the null pointer. -/
theorem greeter_not_startedHasAuth :
    (¬ ∀ es, greeterMachine.Runs {} es →
      (greeterMachine.exec {} es).StartedHasAuth) ∧
        (greeterMachine.exec {} killedAfterReport).nullUse = some .stop := by
  refine ⟨fun h => ?_, rfl⟩
  exact (h killedAfterReport (by decide)).stop rfl

end PlasmaLogin

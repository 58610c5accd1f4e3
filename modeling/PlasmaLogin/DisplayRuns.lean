/-
The events a display answers, its runs, and what the end of a process can do
to it: whoever calls `stop` from wherever, only the running processes, the
socket server and the started flag change.
-/
import PlasmaLogin.Display

namespace PlasmaLogin

open Mealy

/-- What the surroundings deliver to a display. -/
inductive DisplayEvent where
  | start (ctx : Context)
  | displayServerStarted (ctx : Context)
  | newConnection (socket : SocketId)
  | connectionClosed (socket : SocketId)
  | login (ctx : Context) (socket : SocketId) (user password : QString)
      (session : Session)
  | helperFrame (frame : HelperFrame)
  | helperError (failedToStart : Bool) (errorString : QString)
  | helperFinished (report : ExitReport) (waits : List StopWaits)
  | greeterFrame (frame : HelperFrame)
  | greeterError (failedToStart : Bool)
  | greeterFinished (report : ExitReport) (waits : List StopWaits)
  | greeterStop (report : Option ExitReport) (waits : List StopWaits)
  | stop (waits : List StopWaits)

namespace Display

/-- The process of a handle that failed to start is gone. -/
def dropFailed (failedToStart : Bool) (a : Auth) : Auth :=
  if failedToStart then { a with child := .notRunning } else a

/-- The slot an event runs. -/
def answer (d : Display) : DisplayEvent → Display × List DisplayEffect
  | .start ctx => start ctx { d with startOwed := false }
  | .displayServerStarted ctx => startSocketServerAndGreeter ctx
      { d with displayServerStartedOwed := d.displayServerStartedOwed - 1 }
  | .newConnection s => ({ d with connections := s :: d.connections }, [])
  | .connectionClosed s =>
      ({ d with
        connections := d.connections.erase s,
        socket := if d.socket = some s then none else d.socket }, [])
  | .login ctx s user password session => d.login ctx s user password session
  | .helperFrame frame => d.dataPending frame
  | .helperError failed text =>
      let d := { d with auth := dropFailed failed d.auth }
      (d, d.childError text)
  | .helperFinished report waits => childExited (stop waits) report d
  | .greeterFrame (.sessionStatus status) =>
      ({ d with greeter := d.greeter.onSessionStarted status }, [])
  | .greeterFrame _ => (d, [])
  | .greeterError failed =>
      ({ d with greeter :=
        { d.greeter with auth := d.greeter.auth.map (dropFailed failed) } },
        [])
  | .greeterFinished report waits => greeterExited (stop waits) report d
  | .greeterStop report waits => stopGreeter (stop waits) report
      { d with greeterStopsOwed := d.greeterStopsOwed - 1 }
  | .stop waits => stop waits d

/-- The events that can reach a display in a state.  Frames may still be
buffered when their sender is gone. -/
def Enabled (d : Display) : DisplayEvent → Prop
  | .start _ => d.startOwed = true
  | .displayServerStarted _ => 0 < d.displayServerStartedOwed
  | .newConnection s => d.socketServer.listening = true ∧ s ∉ d.connections
  | .connectionClosed s => s ∈ d.connections
  | .login _ s _ _ _ => s ∈ d.connections
  | .helperFrame _ => True
  | .helperError _ _ => d.auth.isActive = true
  | .helperFinished _ _ => d.auth.isActive = true
  | .greeterFrame _ => True
  | .greeterError _ => d.greeter.isRunning = true
  | .greeterFinished _ _ => d.greeter.isRunning = true
  | .greeterStop _ _ => 0 < d.greeterStopsOwed
  | .stop _ => True

instance (d : Display) (e : DisplayEvent) : Decidable (d.Enabled e) := by
  cases e <;> unfold Enabled <;> infer_instance

/-- A display as its constructor leaves it. -/
def create (seatName : QString) (terminalId : Int32) (authId : Int64)
    (autologinSession : Session) : Display :=
  { terminalId := terminalId, autologinSession := autologinSession,
    auth := { id := authId }, seatName := seatName }

end Display

/-- A display with everything that can happen to it. -/
def displayMachine : Machine Display DisplayEvent DisplayEffect where
  enabled := Display.Enabled
  step := Display.answer

instance (d : Display) (es : List DisplayEvent) :
    Decidable (displayMachine.Runs d es) :=
  inferInstanceAs (Decidable
    (∀ st ∈ displayMachine.steps d es, st.before.Enabled st.event))

/-- The effects of processes that end and of stopping. -/
def DisplayEffect.isClosing : DisplayEffect → Bool
  | .informationMessage _ _ | .ttyFailure | .jumpToVt _
  | .displayServerFailed | .stopped => true
  | _ => false

namespace Display

/-- `d'` is `d` with, at most, processes ended and the display closed down. -/
structure ClosesTo (d d' : Display) : Prop where
  frame : d' = { d with
    started := d'.started, socketServer := d'.socketServer,
    greeter := d'.greeter, auth := { d.auth with child := d'.auth.child } }
  started : d'.started = true → d.started = true
  child : d'.auth.child = d.auth.child ∨ d'.auth.child = .notRunning
  server : d'.socketServer = d.socketServer ∨ d'.socketServer = {}

/-- A slot that closes the display, at most. -/
structure Closes (d : Display) (r : Display × List DisplayEffect) : Prop where
  state : ClosesTo d r.1
  effects : ∀ e ∈ r.2, e.isClosing = true

theorem ClosesTo.refl (d : Display) : ClosesTo d d :=
  ⟨rfl, id, Or.inl rfl, Or.inl rfl⟩

theorem ClosesTo.trans {d d' d'' : Display} (h : ClosesTo d d')
    (h' : ClosesTo d' d'') : ClosesTo d d'' where
  frame := by
    have hframe := h'.frame
    rw [h.frame] at hframe
    exact hframe
  started hd := h.started (h'.started hd)
  child := by
    rcases h'.child with heq | heq
    · rw [heq]
      exact h.child
    · exact Or.inr heq
  server := by
    rcases h'.server with heq | heq
    · rw [heq]
      exact h.server
    · exact Or.inr heq

theorem ClosesTo.auth_eq {d d' : Display} (h : ClosesTo d d') :
    d'.auth = { d.auth with child := d'.auth.child } :=
  congrArg Display.auth h.frame

theorem Closes.refl (d : Display) : Closes d (d, []) :=
  ⟨ClosesTo.refl d, fun _ he => absurd he List.not_mem_nil⟩

theorem Closes.andThen {d : Display} {r : Display × List DisplayEffect}
    {next : Display → Display × List DisplayEffect} (h : Closes d r)
    (hnext : ∀ d, Closes d (next d)) : Closes d (andThen r next) where
  state := h.state.trans (hnext r.1).state
  effects := by
    intro e he
    rcases List.mem_append.1 he with he | he
    · exact h.effects e he
    · exact (hnext r.1).effects e he

theorem Closes.of_state {d d' : Display} {r : Display × List DisplayEffect}
    (h : ClosesTo d d') (hr : Closes d' r) : Closes d r :=
  ⟨h.trans hr.state, hr.effects⟩

theorem closesTo_endHelper (d : Display) :
    ClosesTo d { d with auth := { d.auth with child := .notRunning } } :=
  ⟨rfl, id, Or.inr rfl, Or.inl rfl⟩

theorem closesTo_greeter (d : Display) (g : Greeter) :
    ClosesTo d { d with greeter := g } :=
  ⟨rfl, id, Or.inl rfl, Or.inl rfl⟩

theorem closes_closeDown (d : Display) : Closes d d.closeDown where
  state := ⟨rfl, fun h => absurd h (by simp [closeDown]), Or.inl rfl,
    Or.inr rfl⟩
  effects := by simp [closeDown, DisplayEffect.isClosing]

theorem slotAuthError_internal_closing (message : QString) (d : Display) :
    ∀ e ∈ d.slotAuthError message .internal, e.isClosing = true := by
  unfold slotAuthError
  cases d.socket <;> simp [DisplayEffect.isClosing]

section Stopping

variable {stop : Display → Display × List DisplayEffect}
  (hstop : ∀ d, Closes d (stop d))

include hstop

theorem closes_slotHelperFinished (status : HelperExitStatus) (d : Display) :
    Closes d (slotHelperFinished stop status d) := by
  unfold slotHelperFinished
  split
  · exact hstop d
  · exact Closes.refl d

theorem closes_childExited (report : ExitReport) (d : Display) :
    Closes d (childExited stop report d) := by
  unfold childExited
  refine Closes.andThen ⟨closesTo_endHelper d, ?_⟩
    (closes_slotHelperFinished hstop _)
  intro e he
  simp only at he
  split at he
  · exact absurd he List.not_mem_nil
  · rcases List.mem_append.1 he with he | he <;>
      exact slotAuthError_internal_closing _ _ e he

theorem closes_removeDisplay (d : Display) :
    Closes d (removeDisplay stop d) :=
  ⟨(hstop d).state,
    fun _ he => (hstop d).effects _ (List.mem_filter.1 he).1⟩

theorem closes_greeterExited (report : ExitReport) (d : Display) :
    Closes d (greeterExited stop report d) := by
  unfold greeterExited
  simp only
  refine Closes.of_state (closesTo_greeter d
    (d.greeter.onHelperFinished (Auth.exitStatusOf report)).1) ?_
  split
  · exact Closes.refl _
  · exact hstop _
  · exact Closes.andThen
      ⟨ClosesTo.refl _, by simp [DisplayEffect.isClosing]⟩ hstop
  · exact Closes.andThen
      ⟨ClosesTo.refl _, by simp [DisplayEffect.isClosing]⟩
      (closes_removeDisplay hstop)

theorem closes_stopGreeter (report : Option ExitReport) (d : Display) :
    Closes d (stopGreeter stop report d) := by
  unfold stopGreeter
  split
  · exact closes_greeterExited hstop _ d
  · exact Closes.refl d

theorem closes_stopHelper (report : Option ExitReport) (d : Display) :
    Closes d (stopHelper stop report d) := by
  unfold stopHelper
  split
  · exact closes_childExited hstop _ d
  · exact Closes.refl d

end Stopping

/-- Stopping only closes, however deep it calls itself. -/
theorem closes_stop (waits : List StopWaits) (d : Display) :
    Closes d (stop waits d) := by
  induction waits generalizing d with
  | nil =>
      unfold stop
      split
      · exact closes_closeDown d
      · exact Closes.refl d
  | cons w rest ih =>
      unfold stop
      split
      · exact ((closes_stopGreeter ih w.greeter d).andThen
          (closes_stopHelper ih w.helper)).andThen closes_closeDown
      · exact Closes.refl d

/-- The events with which a process ends or the display is stopped. -/
def endsProcess : DisplayEvent → Bool
  | .helperFinished _ _ | .greeterFinished _ _ | .greeterStop _ _
  | .stop _ => true
  | _ => false

/-- The display in which an event is answered; a stop of the greeter is no
longer owed. -/
def counted (d : Display) : DisplayEvent → Display
  | .greeterStop _ _ =>
      { d with greeterStopsOwed := d.greeterStopsOwed - 1 }
  | _ => d

/-- What ends a process only closes. -/
theorem closes_answer (d : Display) {e : DisplayEvent}
    (he : endsProcess e = true) : Closes (d.counted e) (d.answer e) := by
  cases e with
  | helperFinished report waits =>
      exact closes_childExited (closes_stop waits) report d
  | greeterFinished report waits =>
      exact closes_greeterExited (closes_stop waits) report d
  | greeterStop report waits =>
      exact closes_stopGreeter (closes_stop waits) report _
  | stop waits => exact closes_stop waits d
  | _ => simp [endsProcess] at he

theorem ClosesTo.socket {d d' : Display} (h : ClosesTo d d') :
    d'.socket = d.socket :=
  (congrArg Display.socket h.frame :)

theorem ClosesTo.passPhrase {d d' : Display} (h : ClosesTo d d') :
    d'.passPhrase = d.passPhrase :=
  (congrArg Display.passPhrase h.frame :)

/-- A stopped display is not started. -/
theorem stop_started (waits : List StopWaits) (d : Display) :
    (stop waits d).1.started = false := by
  cases waits with
  | nil =>
      unfold stop
      split
      · rfl
      next h => simpa using h
  | cons w rest =>
      unfold stop
      split
      · rfl
      next h => simpa using h

/-- Only the status of a failed authentication leaves the display up. -/
theorem childExited_started (waits : List StopWaits) (report : ExitReport)
    (d : Display) :
    (childExited (stop waits) report d).1.started =
      (d.started && decide (Auth.exitStatusOf report = .authError)) := by
  simp only [childExited, slotHelperFinished, andThen_fst]
  split
  next h => rw [stop_started, decide_eq_false h, Bool.and_false]
  next h =>
    rw [not_not] at h
    rw [decide_eq_true h, Bool.and_true]

/-- `startAuth` touches the attempt's own fields and the handle, at most. -/
theorem startAuth_frame (ctx : Context) (user password : QString)
    (session : Session) (d : Display) :
    ∃ phrase reuse name terminal auth,
      (d.startAuth ctx user password session).1 = { d with
        passPhrase := phrase, reuseSessionId := reuse, sessionName := name,
        sessionTerminalId := terminal, auth := auth } := by
  unfold startAuth
  split
  · exact ⟨_, _, _, _, _, rfl⟩
  · simp only
    split
    · exact ⟨_, _, _, _, _, rfl⟩
    · exact ⟨_, _, _, _, _, rfl⟩

/-- `start` touches that and what it starts. -/
theorem answer_start_frame (ctx : Context) (d : Display) :
    ∃ up phrase reuse name terminal auth owed,
      (d.answer (.start ctx)).1 = { d with
        startOwed := false, started := up, passPhrase := phrase,
        reuseSessionId := reuse, sessionName := name,
        sessionTerminalId := terminal, auth := auth,
        displayServerStartedOwed := owed } := by
  rw [answer, start]
  split
  · exact ⟨_, _, _, _, _, _, _, rfl⟩
  · simp only
    split
    · obtain ⟨_, _, _, _, _, heq⟩ := startAuth_frame ctx ctx.autologinUser []
        d.autologinSession { d with
          startOwed := false, started := true,
          auth := d.auth.setAutologin true }
      rw [heq]
      split <;> exact ⟨_, _, _, _, _, _, _, rfl⟩
    · exact ⟨_, _, _, _, _, _, _, rfl⟩

/-- `startSocketServerAndGreeter` touches the socket server and the
greeter. -/
theorem answer_displayServerStarted_frame (ctx : Context) (d : Display) :
    ∃ greeter, (d.answer (.displayServerStarted ctx)).1 = { d with
      displayServerStartedOwed := d.displayServerStartedOwed - 1,
      socketServer := d.socketServer.start ctx, greeter := greeter } := by
  rw [answer, startSocketServerAndGreeter]
  simp only
  split <;> exact ⟨_, rfl⟩

end Display

/-- What an effect is about. -/
inductive EffectKind where
  | helperStart
  | greeterStart
  | reply
  | verdict
  | information
  | unlock
  | closing
deriving DecidableEq

def DisplayEffect.kind : DisplayEffect → EffectKind
  | .helperStart _ => .helperStart
  | .greeterStart _ => .greeterStart
  | .helperReply _ => .reply
  | .loginFailed _ | .loginSucceeded _ => .verdict
  | .informationMessage _ _ => .information
  | .unlockSession _ | .activateSession _ => .unlock
  | .ttyFailure | .jumpToVt _ | .displayServerFailed | .stopped => .closing

/-- The kinds of effects an event can have. -/
def DisplayEvent.kinds : DisplayEvent → List EffectKind
  | .start _ => [.helperStart]
  | .displayServerStarted _ => [.greeterStart]
  | .login _ _ _ _ _ => [.helperStart, .verdict]
  | .helperFrame (.error _ .authentication) => [.information, .verdict]
  | .helperFrame (.authenticated []) => [.verdict]
  | .helperFrame (.authenticated (_ :: _)) => [.unlock, .verdict, .reply]
  | .helperFrame _ => [.information, .reply]
  | .helperError _ _ => [.information]
  | .helperFinished _ _ | .greeterFinished _ _ | .greeterStop _ _ | .stop _ =>
      [.information, .closing]
  | .newConnection _ | .connectionClosed _ | .greeterFrame _
  | .greeterError _ => []

namespace Display

theorem Closes.kinds {d : Display} {r : Display × List DisplayEffect}
    (h : Closes d r) :
    ∀ x ∈ r.2, x.kind ∈ [EffectKind.information, EffectKind.closing] := by
  intro x hx
  have hclosing := h.effects x hx
  cases x <;> simp_all [DisplayEffect.isClosing, DisplayEffect.kind]

theorem startAuth_kinds (ctx : Context) (user password : QString)
    (session : Session) (d : Display) :
    ∀ x ∈ (d.startAuth ctx user password session).2.1,
      x.kind = .helperStart := by
  unfold startAuth
  split
  · simp
  · simp only
    split
    · simp
    · simp [DisplayEffect.kind]

theorem slotAuthError_kinds (message : QString) (error : AuthError)
    (d : Display) : ∀ x ∈ d.slotAuthError message error,
      x.kind = .information ∨ error = .authentication ∧ x.kind = .verdict := by
  unfold slotAuthError
  cases d.socket with
  | none => simp
  | some s =>
      by_cases h : error = .authentication <;> simp [h, DisplayEffect.kind]

theorem slotAuthenticationFinished_kinds (success : Bool) (d : Display) :
    ∀ x ∈ (d.slotAuthenticationFinished success).2,
      x.kind = .verdict ∨ success = true ∧ x.kind = .unlock := by
  unfold slotAuthenticationFinished
  split
  · simp
  · cases success <;> cases d.reuseSessionId <;> cases d.socket <;>
      simp [DisplayEffect.kind]

theorem dataPending_kinds (d : Display) (frame : HelperFrame) :
    ∀ x ∈ (d.dataPending frame).2,
      x.kind ∈ (DisplayEvent.helperFrame frame).kinds := by
  intro x hx
  cases frame with
  | error message type =>
      have hkind := slotAuthError_kinds message type d x hx
      cases type <;> simp_all [DisplayEvent.kinds]
  | info message type =>
      simp only [dataPending, slotAuthInfo] at hx
      cases hs : d.socket <;> simp_all [DisplayEffect.kind, DisplayEvent.kinds]
  | request r =>
      rw [dataPending_request] at hx
      unfold slotRequestChanged at hx
      split at hx
      · simp at hx
      · simp only [Option.mem_toList, Option.map_eq_some_iff] at hx
        obtain ⟨reply, _, rfl⟩ := hx
        simp [DisplayEffect.kind, DisplayEvent.kinds]
  | authenticated user =>
      rw [dataPending_authenticated] at hx
      cases user with
      | nil =>
          have hkind := slotAuthenticationFinished_kinds false d x hx
          simpa [DisplayEvent.kinds] using hkind
      | cons c user =>
          simp only [List.isEmpty_cons, Bool.false_eq_true, ↓reduceIte,
            andThen_snd, List.mem_append, List.mem_singleton] at hx
          rcases hx with hx | rfl
          · have hkind := slotAuthenticationFinished_kinds true _ x hx
            rcases hkind with hkind | ⟨_, hkind⟩ <;>
              simp [hkind, DisplayEvent.kinds]
          · simp [DisplayEffect.kind, DisplayEvent.kinds]
  | sessionStatus status =>
      simp_all [dataPending, DisplayEffect.kind, DisplayEvent.kinds]
  | displayServerStarted name =>
      simp_all [dataPending, DisplayEffect.kind, DisplayEvent.kinds]
  | unexpected msg =>
      have hkind := slotAuthError_kinds _ .internal d x hx
      simp_all [DisplayEvent.kinds]

/-- Which effects which event can have. -/
theorem answer_kinds (d : Display) (e : DisplayEvent) :
    ∀ x ∈ (d.answer e).2, x.kind ∈ e.kinds := by
  intro x hx
  cases e with
  | start ctx =>
      unfold answer start at hx
      simp only at hx
      split at hx
      · simp at hx
      · split at hx
        · split at hx <;>
            simp [startAuth_kinds _ _ _ _ _ x hx, DisplayEvent.kinds]
        · simp at hx
  | displayServerStarted ctx =>
      unfold answer startSocketServerAndGreeter at hx
      simp only at hx
      split at hx
      · simp at hx
      · simp only [Option.mem_toList, Option.map_eq_some_iff] at hx
        obtain ⟨auth, _, rfl⟩ := hx
        simp [DisplayEffect.kind, DisplayEvent.kinds]
  | newConnection s => simp [answer] at hx
  | connectionClosed s => simp [answer] at hx
  | login ctx s user password session =>
      unfold answer login at hx
      simp only at hx
      split at hx
      · simp_all [DisplayEffect.kind, DisplayEvent.kinds]
      · simp [startAuth_kinds _ _ _ _ _ x hx, DisplayEvent.kinds]
  | helperFrame frame => exact dataPending_kinds d frame x hx
  | helperError failed text =>
      have hkind := slotAuthError_kinds text .internal _ x hx
      simp_all [DisplayEvent.kinds]
  | greeterFrame frame => cases frame <;> simp [answer] at hx
  | greeterError failed => simp [answer] at hx
  | _ => exact (d.closes_answer rfl).kinds x hx

end Display

end PlasmaLogin

/-
`GreeterState` with its timeout timer.  The handler of `inhibitGreeterTimeout`
runs only when the flag changes.
-/
import PlasmaLogin.ClearedPasswords
import PlasmaLogin.SharedScreens

namespace PlasmaLogin

open Mealy TwoWay

/-- `inhibited` is what `inhibitGreeterTimeout` was when it was evaluated
last. -/
structure GreeterTimer where
  ui : GreeterUi
  inhibited : Bool := false
  running : Bool := false

/-- What concerns the timer. -/
inductive TimeoutEvent where
  | activated (screen : Nat)
  | escapeKeyPressed (screen : Nat)
  | passwordEdited (screen : Nat) (text : QString)
  | loginStateClicked (screen : Nat)
  | triggered
deriving DecidableEq

/-- The event of the greeter. -/
def TimeoutEvent.toUi : TimeoutEvent → GreeterUiEvent
  | .activated screen => .activated screen
  | .escapeKeyPressed screen => .escapeKeyPressed screen
  | .passwordEdited screen text => .passwordEdited screen text
  | .loginStateClicked screen => .loginStateClicked screen
  | .triggered => .timeout

namespace GreeterTimer

/-- The binding of `inhibitGreeterTimeout`, and
`onInhibitGreeterTimeoutChanged` when its value is another. -/
def evaluate (t : GreeterTimer) : GreeterTimer :=
  if t.ui.inhibitGreeterTimeout = t.inhibited then t
  else { t with
    inhibited := t.ui.inhibitGreeterTimeout,
    running := t.ui.activeWindow.isSome && !t.ui.inhibitGreeterTimeout }

/-- A change of the state, with the binding behind it. -/
def update (change : GreeterUi → GreeterUi) (t : GreeterTimer) :
    GreeterTimer :=
  evaluate { t with ui := change t.ui }

def setPassword (f : FormId) (v : QString) (t : GreeterTimer) :
    GreeterTimer :=
  t.update (GreeterUi.setPassword f v)

def clearPasswords (t : GreeterTimer) : GreeterTimer :=
  (t.update ((sync .userListPassword).assignShared [])).update
    ((sync .userPromptPassword).assignShared [])

/-- An assignment to `loginState`; its handler was connected before the
binding. -/
def setLoginState (mode : LoginState) (t : GreeterTimer) : GreeterTimer :=
  if t.ui.loginState = mode then t
  else
    (clearPasswords { t with ui := t.ui.withMode mode }).update fun s =>
      (List.range s.screens.length).foldl GreeterUi.onLoginStateChanged s

def activateWindow (window : Nat) (t : GreeterTimer) : GreeterTimer :=
  { t with
    ui := t.ui.activateWindow window,
    running := if !t.inhibited then true else t.running }

def timeoutWindow (window : Nat) (t : GreeterTimer) : GreeterTimer :=
  { t with ui := t.ui.timeoutWindow window, running := false }

/-- `onTriggered` of the timer, which has stopped when it runs. -/
def onTriggered (t : GreeterTimer) : GreeterTimer :=
  let t := { t with running := false }
  match t.ui.activeWindow with
  | none => t
  | some window => timeoutWindow window
      { t with ui := (sync .showPassword).assignShared false t.ui }

/-- What the handlers make of an event. -/
def step (t : GreeterTimer) : TimeoutEvent → GreeterTimer
  | .activated screen =>
      match t.ui.screens[screen]? with
      | none => t
      | some sc => t.activateWindow sc.window
  | .escapeKeyPressed screen =>
      match t.ui.screens[screen]? with
      | none => t
      | some sc => (t.timeoutWindow sc.window).clearPasswords
  | .passwordEdited screen text =>
      t.setPassword (t.ui.currentForm screen) text
  | .loginStateClicked screen => t.setLoginState (t.ui.clicked screen)
  | .triggered => t.onTriggered

/-- The timer fires while it runs. -/
def Enabled (t : GreeterTimer) : TimeoutEvent → Prop
  | .triggered => t.running = true
  | e => t.ui.Enabled e.toUi

instance (t : GreeterTimer) (e : TimeoutEvent) : Decidable (t.Enabled e) :=
  match e with
  | .triggered => inferInstanceAs (Decidable (t.running = true))
  | .activated screen =>
      inferInstanceAs (Decidable (t.ui.Enabled (.activated screen)))
  | .escapeKeyPressed screen =>
      inferInstanceAs (Decidable (t.ui.Enabled (.escapeKeyPressed screen)))
  | .passwordEdited screen text =>
      inferInstanceAs (Decidable (t.ui.Enabled (.passwordEdited screen text)))
  | .loginStateClicked screen =>
      inferInstanceAs (Decidable (t.ui.Enabled (.loginStateClicked screen)))

/-- The greeter as it starts, with a window for each screen. -/
def start (config : GreeterConfig) (n : Nat) : GreeterTimer where
  ui := GreeterUi.start config n

end GreeterTimer

/-- The greeter with its timer as a machine. -/
def greeterTimer : Machine GreeterTimer TimeoutEvent Empty where
  enabled := GreeterTimer.Enabled
  step t e := (t.step e, [])

namespace GreeterTimer

instance (t : GreeterTimer) (es : List TimeoutEvent) :
    Decidable (greeterTimer.Runs t es) :=
  inferInstanceAs (Decidable (greeterTimer.Guarded Enabled t es))

@[simp] theorem evaluate_ui (t : GreeterTimer) : t.evaluate.ui = t.ui := by
  unfold evaluate
  split
  · rfl
  · rfl

@[simp] theorem update_ui (change : GreeterUi → GreeterUi)
    (t : GreeterTimer) : (t.update change).ui = change t.ui :=
  evaluate_ui _

@[simp] theorem clearPasswords_ui (t : GreeterTimer) :
    t.clearPasswords.ui = t.ui.clearPasswords := by
  rw [clearPasswords, update_ui, update_ui]
  rfl

/-- The state goes on as it does without a timer. -/
theorem step_ui (t : GreeterTimer) (e : TimeoutEvent) :
    (t.step e).ui = t.ui.step e.toUi := by
  cases e with
  | activated screen =>
      simp only [step, TimeoutEvent.toUi, GreeterUi.step]
      cases t.ui.screens[screen]? with
      | none => rfl
      | some sc => rfl
  | escapeKeyPressed screen =>
      simp only [step, TimeoutEvent.toUi, GreeterUi.step]
      cases t.ui.screens[screen]? with
      | none => rfl
      | some sc => exact clearPasswords_ui _
  | passwordEdited screen text => exact update_ui _ t
  | loginStateClicked screen =>
      simp only [step, TimeoutEvent.toUi, GreeterUi.step, setLoginState]
      by_cases hmode : t.ui.loginState = t.ui.clicked screen
      · rw [if_pos hmode, GreeterUi.setLoginState, if_pos hmode]
      · rw [if_neg hmode, update_ui, clearPasswords_ui,
          GreeterUi.setLoginState_eq hmode,
          (GreeterUi.clearPasswords_sameScreens _).length]
        rfl
  | triggered =>
      simp only [step, onTriggered, TimeoutEvent.toUi, GreeterUi.step,
        GreeterUi.onTriggered]
      cases t.ui.activeWindow with
      | none => rfl
      | some window => rfl

end GreeterTimer

end PlasmaLogin

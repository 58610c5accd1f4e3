/-
The login forms of the greeter's screens and the state that they share.  Each
screen has a form at the bottom of its stack and may show a second one.
-/
import PlasmaLogin.Mealy
import PlasmaLogin.QString
import PlasmaLogin.TwoWay

namespace PlasmaLogin

open Mealy TwoWay

/-- `GreeterState.LoginState`. -/
inductive LoginState where
  | userList
  | userPrompt
deriving DecidableEq

/-- A `Login` item: what it shows and what its controls hold. -/
structure Login where
  showUserList : Bool := true
  showUsernamePrompt : Bool
  currentIndex : Int := 0
  userName : QString := []
  password : QString := []
  showPassword : Bool := false
deriving DecidableEq

/-- `sync.isUserList`. -/
def Login.isUserList (login : Login) : Bool :=
  login.showUserList && !login.showUsernamePrompt

/-- What the form shows, whatever is typed. -/
def Login.shows (login : Login) : Bool × Bool :=
  (login.showUserList, login.showUsernamePrompt)

/-- `userPromptComponent`. -/
def Login.userPrompt : Login where
  showUsernamePrompt := true

instance : Inhabited Login := ⟨Login.userPrompt⟩

/-- A screen's `mainStack`: `userListComponent`, and the prompt that may have
been pushed on it. -/
structure Screen where
  window : Nat
  list : Login
  prompt : Option Login := none
deriving DecidableEq

namespace Screen

/-- What its forms show. -/
def shows (sc : Screen) : (Bool × Bool) × Option (Bool × Bool) :=
  (sc.list.shows, sc.prompt.map Login.shows)

/-- `mainStack.depth`. -/
def depth (sc : Screen) : Nat := if sc.prompt.isSome then 2 else 1

/-- `mainStack.currentItem`. -/
def currentItem (sc : Screen) : Login := sc.prompt.getD sc.list

/-- The form of the list or the prompt. -/
def form (prompt : Bool) (sc : Screen) : Option Login :=
  if prompt then sc.prompt else some sc.list

def modifyForm (prompt : Bool) (change : Login → Login) (sc : Screen) :
    Screen :=
  if prompt then { sc with prompt := sc.prompt.map change }
  else { sc with list := change sc.list }

end Screen

/-- What the models and the settings say when the greeter starts; an index is
-1 where there is none. -/
structure GreeterConfig where
  rowCount : Nat
  preselectedUserIndex : Int := -1
  lastLoggedInUserIndex : Int := -1
  preselectedSessionIndex : Int := -1
  lastLoggedInSessionIndex : Int := -1
  lastLoggedInUser : QString := []
deriving DecidableEq

namespace GreeterConfig

def beyondUserLimit (config : GreeterConfig) : Bool :=
  config.rowCount == 0 || decide (config.rowCount > 7)

def userListIndex (config : GreeterConfig) : Int :=
  if config.preselectedUserIndex ≠ -1 then config.preselectedUserIndex
  else if config.lastLoggedInUserIndex ≠ -1 then config.lastLoggedInUserIndex
  else 0

def sessionIndex (config : GreeterConfig) : Int :=
  if config.preselectedSessionIndex ≠ -1 then config.preselectedSessionIndex
  else if config.lastLoggedInSessionIndex ≠ -1 then
    config.lastLoggedInSessionIndex
  else 0

/-- `userListComponent`. -/
def userList (config : GreeterConfig) : Login where
  showUserList := !config.beyondUserLimit
  showUsernamePrompt := config.beyondUserLimit
  currentIndex := config.userListIndex

end GreeterConfig

/-- `GreeterState` and the screens, in the order in which they were added. -/
structure GreeterUi where
  config : GreeterConfig
  loginState : LoginState := .userList
  sessionIndex : Int
  userListIndex : Int
  userListPassword : QString := []
  userPromptUsername : QString := []
  userPromptPassword : QString := []
  showPassword : Bool := false
  activeWindow : Option Nat := none
  created : Nat := 0
  screens : List Screen := []
deriving DecidableEq

/-- The list or the prompt of the screen in a position. -/
structure FormId where
  screen : Nat
  prompt : Bool
deriving DecidableEq

namespace GreeterUi

def form (f : FormId) (s : GreeterUi) : Option Login :=
  s.screens[f.screen]?.bind (Screen.form f.prompt)

def modifyForm (f : FormId) (change : Login → Login) (s : GreeterUi) :
    GreeterUi :=
  { s with
      screens := s.screens.modify f.screen (Screen.modifyForm f.prompt change) }

/-- The forms of every screen that are of some kind. -/
def forms (kind : Login → Bool) (s : GreeterUi) : List FormId :=
  (List.range s.screens.length).flatMap fun i =>
    [⟨i, false⟩, ⟨i, true⟩].filter fun f => (s.form f).any kind

end GreeterUi

/-- A property of `GreeterState`, apart from what decides which forms there
are. -/
structure SharedProperty (V : Type) where
  get : GreeterUi → V
  set : V → GreeterUi → GreeterUi
  get_set : ∀ v s, get (set v s) = v
  get_screens : ∀ l s, get { s with screens := l } = get s
  config_set : ∀ v s, (set v s).config = s.config
  loginState_set : ∀ v s, (set v s).loginState = s.loginState
  screens_set : ∀ v s, (set v s).screens = s.screens

/-- A property of a form's controls, apart from what the form shows. -/
structure LoginProperty (V : Type) where
  get : Login → V
  set : V → Login → Login
  get_set : ∀ v l, get (set v l) = v
  shows_set : ∀ v l, (set v l).shows = l.shows

/-- The properties of `GreeterState` that the forms mirror. -/
inductive SyncedProperty where
  | userListIndex
  | userListPassword
  | userPromptUsername
  | userPromptPassword
  | showPassword
deriving DecidableEq

namespace SyncedProperty

abbrev Value : SyncedProperty → Type
  | .userListIndex => Int
  | .userListPassword => QString
  | .userPromptUsername => QString
  | .userPromptPassword => QString
  | .showPassword => Bool

instance (p : SyncedProperty) : DecidableEq p.Value :=
  match p with
  | .userListIndex => inferInstanceAs (DecidableEq Int)
  | .userListPassword => inferInstanceAs (DecidableEq QString)
  | .userPromptUsername => inferInstanceAs (DecidableEq QString)
  | .userPromptPassword => inferInstanceAs (DecidableEq QString)
  | .showPassword => inferInstanceAs (DecidableEq Bool)

/-- The property of `GreeterState`. -/
def shared : (p : SyncedProperty) → SharedProperty p.Value
  | .userListIndex =>
      ⟨GreeterUi.userListIndex, fun v s => { s with userListIndex := v },
        fun _ _ => rfl, fun _ _ => rfl, fun _ _ => rfl, fun _ _ => rfl,
        fun _ _ => rfl⟩
  | .userListPassword =>
      ⟨GreeterUi.userListPassword, fun v s => { s with userListPassword := v },
        fun _ _ => rfl, fun _ _ => rfl, fun _ _ => rfl, fun _ _ => rfl,
        fun _ _ => rfl⟩
  | .userPromptUsername =>
      ⟨GreeterUi.userPromptUsername,
        fun v s => { s with userPromptUsername := v },
        fun _ _ => rfl, fun _ _ => rfl, fun _ _ => rfl, fun _ _ => rfl,
        fun _ _ => rfl⟩
  | .userPromptPassword =>
      ⟨GreeterUi.userPromptPassword,
        fun v s => { s with userPromptPassword := v },
        fun _ _ => rfl, fun _ _ => rfl, fun _ _ => rfl, fun _ _ => rfl,
        fun _ _ => rfl⟩
  | .showPassword =>
      ⟨GreeterUi.showPassword, fun v s => { s with showPassword := v },
        fun _ _ => rfl, fun _ _ => rfl, fun _ _ => rfl, fun _ _ => rfl,
        fun _ _ => rfl⟩

/-- The property of the control that mirrors it. -/
def control : (p : SyncedProperty) → LoginProperty p.Value
  | .userListIndex =>
      ⟨Login.currentIndex, fun v l => { l with currentIndex := v },
        fun _ _ => rfl, fun _ _ => rfl⟩
  | .userListPassword =>
      ⟨Login.password, fun v l => { l with password := v },
        fun _ _ => rfl, fun _ _ => rfl⟩
  | .userPromptUsername =>
      ⟨Login.userName, fun v l => { l with userName := v },
        fun _ _ => rfl, fun _ _ => rfl⟩
  | .userPromptPassword =>
      ⟨Login.password, fun v l => { l with password := v },
        fun _ _ => rfl, fun _ _ => rfl⟩
  | .showPassword =>
      ⟨Login.showPassword, fun v l => { l with showPassword := v },
        fun _ _ => rfl, fun _ _ => rfl⟩

/-- The forms whose handlers do not return at once, by `sync.isUserList`. -/
def guard : SyncedProperty → Bool → Bool
  | .userListIndex, isUserList => isUserList
  | .userListPassword, isUserList => isUserList
  | .userPromptUsername, isUserList => !isUserList
  | .userPromptPassword, isUserList => !isUserList
  | .showPassword, _ => true

end SyncedProperty

/-- The handlers of `sync` for one property, in both directions. -/
def sync (p : SyncedProperty) : Mirror GreeterUi p.Value FormId where
  shared := p.shared.get
  setShared := p.shared.set
  fields := GreeterUi.forms fun l => p.guard l.isUserList
  field f s := p.control.get ((s.form f).getD default)
  setField f v := GreeterUi.modifyForm f (p.control.set v)

namespace GreeterUi

/-- The form is a list, and not a prompt in place of one. -/
def isUserList (f : FormId) (s : GreeterUi) : Bool :=
  (s.form f).any Login.isUserList

/-- An assignment to `userList.currentIndex` of a form, which a prompt does
not mirror. -/
def setCurrentIndex (f : FormId) (v : Int) (s : GreeterUi) : GreeterUi :=
  if s.isUserList f then (sync .userListIndex).assignField f v s
  else s.modifyForm f fun l => { l with currentIndex := v }

/-- An assignment to `userNameInput.text`, which a list does not mirror. -/
def setUserName (f : FormId) (v : QString) (s : GreeterUi) : GreeterUi :=
  if s.isUserList f then s.modifyForm f fun l => { l with userName := v }
  else (sync .userPromptUsername).assignField f v s

/-- An assignment to `passwordBox.text`. -/
def setPassword (f : FormId) (v : QString) (s : GreeterUi) : GreeterUi :=
  if s.isUserList f then (sync .userListPassword).assignField f v s
  else (sync .userPromptPassword).assignField f v s

/-- An assignment to `passwordBox.showPassword`. -/
def setShowPassword (f : FormId) (v : Bool) (s : GreeterUi) : GreeterUi :=
  (sync .showPassword).assignField f v s

/-- `Component.onCompleted` of `sync`, in a new form. -/
def onCompleted (f : FormId) (s : GreeterUi) : GreeterUi :=
  let s :=
    if s.isUserList f then
      let s := s.setCurrentIndex f s.userListIndex
      s.setPassword f s.userListPassword
    else
      let s := s.setUserName f s.config.lastLoggedInUser
      s.setPassword f s.userPromptPassword
  s.setShowPassword f s.showPassword

/-- `createWindowForScreen`. -/
def createWindowForScreen (s : GreeterUi) : GreeterUi :=
  let screen := { window := s.created, list := s.config.userList }
  onCompleted ⟨s.screens.length, false⟩
    { s with created := s.created + 1, screens := s.screens ++ [screen] }

def clearPasswords (s : GreeterUi) : GreeterUi :=
  (sync .userPromptPassword).assignShared []
    ((sync .userListPassword).assignShared [] s)

/-- `mainStack.pop` of a screen. -/
def pop (screen : Nat) (s : GreeterUi) : GreeterUi :=
  { s with
      screens := s.screens.modify screen fun sc => { sc with prompt := none } }

/-- `mainStack.push` of a screen. -/
def push (screen : Nat) (s : GreeterUi) : GreeterUi :=
  onCompleted ⟨screen, true⟩
    { s with
        screens := s.screens.modify screen fun sc =>
          { sc with prompt := some .userPrompt } }

/-- `onLoginStateChanged` of a screen. -/
def onLoginStateChanged (s : GreeterUi) (screen : Nat) : GreeterUi :=
  match s.loginState, s.screens[screen]? with
  | .userList, some sc => if sc.depth ≠ 2 then s else s.pop screen
  | .userPrompt, some sc => if sc.depth ≠ 1 then s else s.push screen
  | _, none => s

/-- An assignment to `loginState`. -/
def setLoginState (loginState : LoginState) (s : GreeterUi) : GreeterUi :=
  if s.loginState = loginState then s
  else
    (List.range s.screens.length).foldl onLoginStateChanged
      (clearPasswords { s with loginState })

def inhibitGreeterTimeout (s : GreeterUi) : Bool :=
  match s.loginState with
  | .userList => s.userListPassword.length > 0
  | .userPrompt => s.userPromptPassword.length > 0

def activateWindow (window : Nat) (s : GreeterUi) : GreeterUi :=
  { s with activeWindow := some window }

def timeoutWindow (window : Nat) (s : GreeterUi) : GreeterUi :=
  if s.activeWindow = some window then { s with activeWindow := none } else s

/-- `greeterTimeoutTimer.onTriggered`. -/
def onTriggered (s : GreeterUi) : GreeterUi :=
  match s.activeWindow with
  | none => s
  | some window =>
      timeoutWindow window ((sync .showPassword).assignShared false s)

/-- A screen goes, and what was active on it is no more. -/
def removeScreen (screen : Nat) (s : GreeterUi) : GreeterUi :=
  let window := s.screens[screen]?.map Screen.window
  { s with
      screens := s.screens.eraseIdx screen,
      activeWindow := if s.activeWindow = window then none else s.activeWindow }

end GreeterUi

/-- What can happen.  `userSelected` says whether the list emits the signal:
it does for a click, not for the arrow keys. -/
inductive GreeterUiEvent where
  | userNameEdited (screen : Nat) (text : QString)
  | passwordEdited (screen : Nat) (text : QString)
  | showPasswordToggled (screen : Nat) (shown : Bool)
  | indexChanged (screen : Nat) (index : Int) (userSelected : Bool)
  | sessionChanged (screen : Nat) (index : Int)
  | loginStateClicked (screen : Nat)
  | activated (screen : Nat)
  | escapeKeyPressed (screen : Nat)
  | timeout
  | socketDisconnected
  | screenAdded
  | screenRemoved (screen : Nat)
deriving DecidableEq

namespace GreeterUi

/-- The form that a screen shows. -/
def currentForm (screen : Nat) (s : GreeterUi) : FormId :=
  ⟨screen, s.screens[screen]?.any fun sc => sc.prompt.isSome⟩

/-- The mode that the button on the form of a screen asks for. -/
def clicked (screen : Nat) (s : GreeterUi) : LoginState :=
  if (s.currentForm screen).prompt then .userList else .userPrompt

/-- The user name is there to edit in a prompt, the button that asks for a
prompt in a list.  The timer runs only while a window is active and nothing
inhibits it. -/
def Enabled (s : GreeterUi) : GreeterUiEvent → Prop
  | .userNameEdited screen _ =>
      (s.form (s.currentForm screen)).any Login.showUsernamePrompt = true
  | .passwordEdited screen _ => screen < s.screens.length
  | .showPasswordToggled screen _ => screen < s.screens.length
  | .indexChanged screen _ _ => screen < s.screens.length
  | .sessionChanged screen _ => screen < s.screens.length
  | .loginStateClicked screen =>
      s.screens[screen]?.any (fun sc =>
        sc.prompt.isSome || !sc.list.showUsernamePrompt) = true
  | .activated screen => screen < s.screens.length
  | .escapeKeyPressed screen => screen < s.screens.length
  | .timeout => s.activeWindow.isSome = true ∧ s.inhibitGreeterTimeout = false
  | .socketDisconnected => True
  | .screenAdded => True
  | .screenRemoved screen => screen < s.screens.length

/-- What the handlers make of an event.  None listens to
`socketDisconnected`. -/
def step (s : GreeterUi) : GreeterUiEvent → GreeterUi
  | .userNameEdited screen text => s.setUserName (s.currentForm screen) text
  | .passwordEdited screen text => s.setPassword (s.currentForm screen) text
  | .showPasswordToggled screen shown =>
      s.setShowPassword (s.currentForm screen) shown
  | .indexChanged screen index userSelected =>
      let f := s.currentForm screen
      let s := s.setCurrentIndex f index
      if userSelected then s.setPassword f [] else s
  | .sessionChanged _ index => { s with sessionIndex := index }
  | .loginStateClicked screen => s.setLoginState (s.clicked screen)
  | .activated screen =>
      match s.screens[screen]? with
      | none => s
      | some sc => s.activateWindow sc.window
  | .escapeKeyPressed screen =>
      match s.screens[screen]? with
      | none => s
      | some sc => (s.timeoutWindow sc.window).clearPasswords
  | .timeout => s.onTriggered
  | .socketDisconnected => s
  | .screenAdded => s.createWindowForScreen
  | .screenRemoved screen => s.removeScreen screen

/-- A greeter with a list of two users. -/
def fewUsers : GreeterConfig where
  rowCount := 2
  lastLoggedInUserIndex := 1
  lastLoggedInUser := "bob"

/-- A greeter without a list. -/
def manyUsers : GreeterConfig where
  rowCount := 9
  lastLoggedInUser := "bob"

/-- The greeter before it has a window. -/
def initial (config : GreeterConfig) : GreeterUi where
  config := config
  sessionIndex := config.sessionIndex
  userListIndex := config.userListIndex

/-- The greeter as it starts, with a window for each screen. -/
def start (config : GreeterConfig) : Nat → GreeterUi
  | 0 => initial config
  | n + 1 => (start config n).createWindowForScreen

instance (s : GreeterUi) (e : GreeterUiEvent) : Decidable (s.Enabled e) :=
  match e with
  | .userNameEdited screen _ =>
      inferInstanceAs (Decidable
        ((s.form (s.currentForm screen)).any Login.showUsernamePrompt = true))
  | .passwordEdited screen _ =>
      inferInstanceAs (Decidable (screen < s.screens.length))
  | .showPasswordToggled screen _ =>
      inferInstanceAs (Decidable (screen < s.screens.length))
  | .indexChanged screen _ _ =>
      inferInstanceAs (Decidable (screen < s.screens.length))
  | .sessionChanged screen _ =>
      inferInstanceAs (Decidable (screen < s.screens.length))
  | .loginStateClicked screen =>
      inferInstanceAs (Decidable (s.screens[screen]?.any (fun sc =>
        sc.prompt.isSome || !sc.list.showUsernamePrompt) = true))
  | .activated screen =>
      inferInstanceAs (Decidable (screen < s.screens.length))
  | .escapeKeyPressed screen =>
      inferInstanceAs (Decidable (screen < s.screens.length))
  | .timeout =>
      inferInstanceAs (Decidable
        (s.activeWindow.isSome = true ∧ s.inhibitGreeterTimeout = false))
  | .socketDisconnected => inferInstanceAs (Decidable True)
  | .screenAdded => inferInstanceAs (Decidable True)
  | .screenRemoved screen =>
      inferInstanceAs (Decidable (screen < s.screens.length))

end GreeterUi

/-- The screens of the greeter as a machine. -/
def greeterUi : Machine GreeterUi GreeterUiEvent Empty where
  enabled := GreeterUi.Enabled
  step s e := (s.step e, [])

namespace GreeterUi

instance (s : GreeterUi) (es : List GreeterUiEvent) :
    Decidable (greeterUi.Runs s es) :=
  inferInstanceAs (Decidable (greeterUi.Guarded Enabled s es))

end GreeterUi

end PlasmaLogin

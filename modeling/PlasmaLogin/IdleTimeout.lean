/-
When the greeter's timer runs.  The flag that inhibits it is about one
password, that of the mode, whatever form the mode has; and `timeoutWindow`
stops the timer of whichever window is active.
-/
import PlasmaLogin.GreeterTimer

namespace PlasmaLogin

open Mealy TwoWay

namespace GreeterUi

theorem sync_ignores_activeWindow (p : SyncedProperty) :
    (sync p).Ignores activeWindow where
  setShared v s := by cases p <;> rfl
  setField f v s := rfl

theorem setPassword_activeWindow (f : FormId) (v : QString) (s : GreeterUi) :
    (s.setPassword f v).activeWindow = s.activeWindow := by
  rw [setPassword]
  split
  · exact (sync_ignores_activeWindow .userListPassword).assignField f v s
  · exact (sync_ignores_activeWindow .userPromptPassword).assignField f v s

theorem onCompleted_activeWindow (f : FormId) (s : GreeterUi) :
    (s.onCompleted f).activeWindow = s.activeWindow := by
  rw [onCompleted]
  refine ((sync_ignores_activeWindow .showPassword).assignField f _ _).trans ?_
  split
  next hlist =>
    rw [setPassword_activeWindow, setCurrentIndex, if_pos hlist]
    exact (sync_ignores_activeWindow .userListIndex).assignField f _ s
  next hlist =>
    rw [setPassword_activeWindow, setUserName, if_neg hlist]
    exact (sync_ignores_activeWindow .userPromptUsername).assignField f _ s

theorem onLoginStateChanged_activeWindow (s : GreeterUi) (screen : Nat) :
    (s.onLoginStateChanged screen).activeWindow = s.activeWindow := by
  rcases onLoginStateChanged_cases s screen with h | h | ⟨_, _, _, h⟩
  · rw [h]
  · rw [h]
    rfl
  · rw [h, push_eq]
    exact onCompleted_activeWindow _ _

theorem foldl_activeWindow (screens : List Nat) (s : GreeterUi) :
    (screens.foldl onLoginStateChanged s).activeWindow = s.activeWindow := by
  induction screens generalizing s with
  | nil => rfl
  | cons screen screens ih =>
      exact (ih _).trans (onLoginStateChanged_activeWindow s screen)

/-- The forms that are shown are lists of users. -/
def listShown (s : GreeterUi) : Bool :=
  s.loginState = .userList && !s.config.beyondUserLimit

/-- The password no form on a screen is about. -/
def hiddenPassword (s : GreeterUi) : QString :=
  if s.listShown then s.userPromptPassword else s.userListPassword

theorem FormsFollow.isUserList {s : GreeterUi} (h : s.FormsFollow)
    {screen : Nat} (hscreen : screen < s.screens.length) :
    s.isUserList (s.currentForm screen) = s.listShown := by
  have hsc := List.getElem?_eq_getElem hscreen
  have hshows := h.shows _
    (List.mem_map_of_mem (List.mem_of_getElem? hsc))
  rw [isUserList_of_form (form_currentForm hsc), listShown]
  cases hmode : s.loginState with
  | userPrompt =>
      rw [hmode] at hshows
      rw [isUserList_of_shows hshows]
      rfl
  | userList =>
      rw [hmode] at hshows
      have hnone : (s.screens[screen]).prompt = none :=
        Option.map_eq_none_iff.1 (congrArg Prod.snd hshows)
      have hlist : (s.screens[screen]).list.shows = s.config.userList.shows :=
        congrArg Prod.fst hshows
      rw [Screen.currentItem, hnone, Option.getD_none,
        Login.isUserList_congr hlist]
      simp [Login.isUserList, GreeterConfig.userList]

theorem SameScreens.listShown {s t : GreeterUi} (h : SameScreens s t) :
    t.listShown = s.listShown := by
  rw [GreeterUi.listShown, GreeterUi.listShown, h.loginState, h.config]

theorem Cleared.hiddenPassword {s : GreeterUi} (h : s.Cleared) :
    s.hiddenPassword = [] := by
  rw [GreeterUi.hiddenPassword]
  split
  · exact h.2
  · exact h.1

/-- No window is active when the greeter starts, and no password is there. -/
theorem start_idle (config : GreeterConfig) (n : Nat) :
    (start config n).activeWindow = none ∧ (start config n).Cleared := by
  induction n with
  | zero => exact ⟨rfl, rfl, rfl⟩
  | succ n ih =>
      obtain ⟨hwindow, hcleared⟩ := ih
      refine ⟨?_, hcleared.congr fun p hp => ?_⟩
      · exact (onCompleted_activeWindow _ _).trans hwindow
      · exact createWindowForScreen_shared fun heq => absurd heq hp

/-- What is typed is the password of the forms that are shown. -/
theorem setPassword_passwords {s : GreeterUi} (h : s.FormsFollow)
    (hlist : (sync .userListPassword).Agrees s)
    (hprompt : (sync .userPromptPassword).Agrees s) {screen : Nat}
    (hscreen : screen < s.screens.length) (text : QString) :
    let t := s.setPassword (s.currentForm screen) text
    t.userListPassword = (if s.listShown then text else s.userListPassword) ∧
      t.userPromptPassword =
        (if s.listShown then s.userPromptPassword else text) := by
  have hf := currentForm_isSome hscreen
  have hshown := h.isUserList hscreen
  cases hcase : s.listShown with
  | true =>
      rw [hcase] at hshown
      have hmem := (mem_fields_of_list hf hshown).2
      rw [setPassword_of_list hshown]
      exact ⟨hlist.shared_assignField (sync_lawful _) hmem text,
        ((touches_assignField hmem text).others .userPromptPassword
          (by decide)).shared⟩
  | false =>
      rw [hcase] at hshown
      have hmem := (mem_fields_of_prompt hf hshown).2
      rw [setPassword_of_prompt hshown]
      exact ⟨((touches_assignField hmem text).others .userListPassword
          (by decide)).shared,
        hprompt.shared_assignField (sync_lawful _) hmem text⟩

/-- Nothing inhibits the timeout exactly when the password of the mode is
empty. -/
theorem inhibitGreeterTimeout_eq_false_iff (s : GreeterUi) :
    s.inhibitGreeterTimeout = false ↔
      match s.loginState with
      | .userList => s.userListPassword = []
      | .userPrompt => s.userPromptPassword = [] := by
  rw [inhibitGreeterTimeout]
  cases s.loginState with
  | userList => simp
  | userPrompt => simp

theorem Cleared.inhibitGreeterTimeout {s : GreeterUi} (h : s.Cleared) :
    s.inhibitGreeterTimeout = false := by
  rw [inhibitGreeterTimeout_eq_false_iff]
  split
  · exact h.1
  · exact h.2

/-- Clearing one password inhibits nothing. -/
theorem clearList_inhibitGreeterTimeout {s : GreeterUi}
    (h : s.inhibitGreeterTimeout = false) :
    ((sync .userListPassword).assignShared [] s).inhibitGreeterTimeout =
      false := by
  have htouches := touches_assignShared .userListPassword [] s
  rw [inhibitGreeterTimeout_eq_false_iff] at h ⊢
  rw [htouches.screens.loginState]
  cases hmode : s.loginState with
  | userList =>
      exact Mirror.shared_assignShared (sync_lawful .userListPassword) [] s
  | userPrompt =>
      rw [hmode] at h
      exact (htouches.others .userPromptPassword (by decide)).shared.trans h

end GreeterUi

namespace GreeterTimer

/-- The timer runs if and only if a window is active and both passwords are
empty. -/
def RunsWhenIdle (t : GreeterTimer) : Prop :=
  t.running = true ↔ t.ui.activeWindow.isSome = true ∧ t.ui.Cleared

instance (t : GreeterTimer) : Decidable t.RunsWhenIdle :=
  inferInstanceAs (Decidable (_ ↔ _ ∧ _))

/-- Escape comes from the active window, while there is none, or while a
password inhibits the timeout; and without a user list no window is activated
while there is a password, and none is typed or deleted in an active window. -/
def KeepsTimer (t : GreeterTimer) : TimeoutEvent → Prop
  | .activated _ => t.ui.config.beyondUserLimit = true →
      t.ui.userPromptPassword = []
  | .escapeKeyPressed screen => t.ui.inhibitGreeterTimeout = true ∨
      t.ui.activeWindow = none ∨
        t.ui.activeWindow = t.ui.screens[screen]?.map Screen.window
  | .passwordEdited _ text => t.ui.config.beyondUserLimit = true →
      t.ui.activeWindow = none ∨ (t.ui.userPromptPassword = [] ↔ text = [])
  | .loginStateClicked _ => True
  | .triggered => True

instance (t : GreeterTimer) (e : TimeoutEvent) : Decidable (t.KeepsTimer e) :=
  match e with
  | .activated _ => inferInstanceAs (Decidable (_ = true → _ = []))
  | .escapeKeyPressed _ => inferInstanceAs (Decidable (_ ∨ _ ∨ _))
  | .passwordEdited _ _ =>
      inferInstanceAs (Decidable (_ = true → _ ∨ (_ ↔ _)))
  | .loginStateClicked _ | .triggered => isTrue trivial

/-- The flag is what its binding says. -/
def Evaluated (t : GreeterTimer) : Prop :=
  t.inhibited = t.ui.inhibitGreeterTimeout

/-- The timer runs while a window is active and the flag is not set. -/
def Tracks (t : GreeterTimer) : Prop :=
  t.running = (t.ui.activeWindow.isSome && !t.inhibited)

section updates

variable {t : GreeterTimer} {change : GreeterUi → GreeterUi}

theorem update_evaluated (change : GreeterUi → GreeterUi) (t : GreeterTimer) :
    (t.update change).Evaluated := by
  unfold Evaluated update evaluate
  split
  next heq => exact heq.symm
  · rfl

/-- A change that is nothing to the flag is nothing to the timer. -/
theorem update_of_eq (h : (change t.ui).inhibitGreeterTimeout = t.inhibited) :
    t.update change = { t with ui := change t.ui } := by
  rw [update, evaluate, if_pos h]

/-- A change of the flag sets the timer. -/
theorem update_of_ne (h : (change t.ui).inhibitGreeterTimeout ≠ t.inhibited) :
    (t.update change).Tracks := by
  rw [update, evaluate, if_neg h]
  rfl

theorem Tracks.update (h : t.Tracks)
    (hwindow : (change t.ui).activeWindow = t.ui.activeWindow) :
    (t.update change).Tracks := by
  by_cases heq : (change t.ui).inhibitGreeterTimeout = t.inhibited
  · rw [update_of_eq heq, Tracks]
    simp only
    rw [hwindow]
    exact h
  · exact update_of_ne heq

theorem Tracks.clearPasswords (h : t.Tracks) : t.clearPasswords.Tracks := by
  have hlist := h.update
    ((GreeterUi.sync_ignores_activeWindow .userListPassword).assignShared []
      t.ui)
  exact hlist.update
    ((GreeterUi.sync_ignores_activeWindow .userPromptPassword).assignShared []
      _)

theorem clearPasswords_evaluated (t : GreeterTimer) :
    t.clearPasswords.Evaluated := update_evaluated _ _

/-- Once the passwords are cleared nothing is inhibited. -/
theorem clearPasswords_inhibited (t : GreeterTimer) :
    t.clearPasswords.inhibited = false := by
  rw [t.clearPasswords_evaluated, clearPasswords_ui]
  exact (GreeterUi.clearPasswords_cleared t.ui).inhibitGreeterTimeout

theorem clearPasswords_activeWindow (t : GreeterTimer) :
    t.clearPasswords.ui.activeWindow = t.ui.activeWindow := by
  rw [clearPasswords_ui, GreeterUi.clearPasswords,
    (GreeterUi.sync_ignores_activeWindow .userPromptPassword).assignShared,
    (GreeterUi.sync_ignores_activeWindow .userListPassword).assignShared]

/-- Clearing a password that is there starts the timer of an active window. -/
theorem clearPasswords_of_inhibited (h : t.inhibited = true) :
    t.clearPasswords.running = t.ui.activeWindow.isSome := by
  have hlast := t.clearPasswords_inhibited
  have htracks : t.clearPasswords.Tracks := by
    let u := t.update ((sync .userListPassword).assignShared [])
    change (u.update _).Tracks
    by_cases hlist : ((sync .userListPassword).assignShared []
        t.ui).inhibitGreeterTimeout = t.inhibited
    · apply update_of_ne
      have hinhibited : u.inhibited = true := by
        simp only [u, update_of_eq hlist, h]
      have hcleared := (GreeterUi.clearPasswords_cleared t.ui)
      rw [hinhibited, update_ui]
      have hnot := hcleared.inhibitGreeterTimeout
      rw [GreeterUi.clearPasswords] at hnot
      rw [hnot]
      exact Bool.false_ne_true
    · exact (update_of_ne hlist).update
        ((GreeterUi.sync_ignores_activeWindow .userPromptPassword).assignShared
          [] _)
  rw [htracks, hlast, clearPasswords_activeWindow, Bool.not_false,
    Bool.and_true]

/-- Clearing no password leaves the timer alone. -/
theorem clearPasswords_of_not_inhibited (h : t.inhibited = false)
    (ht : t.Evaluated) : t.clearPasswords.running = t.running := by
  have hlist := GreeterUi.clearList_inhibitGreeterTimeout (ht.symm.trans h)
  have hboth := (GreeterUi.clearPasswords_cleared t.ui).inhibitGreeterTimeout
  rw [clearPasswords, update_of_eq (hlist.trans h.symm), update_of_eq]
  exact hboth.trans h.symm

end updates

/-- What every event keeps. -/
structure Sound (t : GreeterTimer) : Prop where
  forms : t.ui.FormsFollow
  list : (sync .userListPassword).Agrees t.ui
  prompt : (sync .userPromptPassword).Agrees t.ui
  evaluated : t.Evaluated
  hidden : t.ui.hiddenPassword = []

section runs

variable {t : GreeterTimer} {e : TimeoutEvent}

theorem start_sound (config : GreeterConfig) (n : Nat) :
    (start config n).Sound := by
  obtain ⟨hforms, hmode⟩ := GreeterUi.start_formsFollow config n
  have hcleared := (GreeterUi.start_idle config n).2
  refine ⟨hforms, GreeterUi.start_agrees _ config n,
    GreeterUi.start_agrees _ config n, ?_, hcleared.hiddenPassword⟩
  exact hcleared.inhibitGreeterTimeout.symm

theorem start_runsWhenIdle (config : GreeterConfig) (n : Nat) :
    (start config n).RunsWhenIdle := by
  have hwindow := (GreeterUi.start_idle config n).1
  simp [RunsWhenIdle, start, hwindow]

/-- An event the timer permits is one the greeter permits. -/
theorem RunsWhenIdle.enabled (hidle : t.RunsWhenIdle) (he : t.Enabled e) :
    t.ui.Enabled e.toUi := by
  cases e with
  | triggered =>
      obtain ⟨hwindow, hcleared⟩ := hidle.1 he
      exact ⟨hwindow, hcleared.inhibitGreeterTimeout⟩
  | activated screen => exact he
  | escapeKeyPressed screen => exact he
  | passwordEdited screen text => exact he
  | loginStateClicked screen => exact he

theorem setLoginState_of_ne {mode : LoginState} (h : t.ui.loginState ≠ mode) :
    t.setLoginState mode =
      (clearPasswords { t with ui := t.ui.withMode mode }).update fun s =>
        (List.range s.screens.length).foldl GreeterUi.onLoginStateChanged s :=
  if_neg h

theorem onTriggered_of_window {window : Nat}
    (h : t.ui.activeWindow = some window) :
    t.onTriggered = timeoutWindow window
      { t with
        ui := (sync .showPassword).assignShared false t.ui,
        running := false } := by
  simp only [onTriggered, h]

/-- The timer closes the active window and stops. -/
theorem onTriggered_idle (hwindow : t.ui.activeWindow.isSome = true) :
    t.onTriggered.running = false ∧ t.onTriggered.inhibited = t.inhibited ∧
      t.onTriggered.ui.activeWindow = none := by
  obtain ⟨window, hactive⟩ := Option.isSome_iff_exists.1 hwindow
  have hkept := (GreeterUi.sync_ignores_activeWindow
    .showPassword).assignShared false t.ui
  rw [onTriggered_of_window hactive]
  refine ⟨rfl, rfl, ?_⟩
  simp only [timeoutWindow]
  rw [GreeterUi.timeoutWindow, hkept, if_pos hactive]

/-- Both passwords are empty behind Escape, a change of the mode and the end
of the timer. -/
theorem step_cleared (hforms : t.ui.FormsFollow) (hidle : t.RunsWhenIdle)
    (he : t.Enabled e)
    (hclears : (∀ screen, e ≠ .activated screen) ∧
      ∀ screen text, e ≠ .passwordEdited screen text) :
    (t.step e).ui.Cleared := by
  rw [step_ui]
  cases e with
  | activated screen => exact absurd rfl (hclears.1 screen)
  | passwordEdited screen text => exact absurd rfl (hclears.2 screen text)
  | escapeKeyPressed screen =>
      have hscreen := List.getElem?_eq_getElem he
      rw [TimeoutEvent.toUi, GreeterUi.step, hscreen]
      exact GreeterUi.clearPasswords_cleared _
  | loginStateClicked screen =>
      exact GreeterUi.setLoginState_cleared (hforms.clicked_ne he)
  | triggered => exact t.ui.onTriggered_cleared.2 (hidle.1 he).2

theorem Sound.step_evaluated (h : t.Sound) (hidle : t.RunsWhenIdle)
    (he : t.Enabled e) : (t.step e).Evaluated := by
  cases e with
  | activated screen =>
      rw [step]
      split
      · exact h.evaluated
      · exact h.evaluated
  | escapeKeyPressed screen =>
      rw [step]
      split
      · exact h.evaluated
      · exact clearPasswords_evaluated _
  | passwordEdited screen text => exact update_evaluated _ t
  | loginStateClicked screen =>
      rw [step, setLoginState_of_ne (h.forms.clicked_ne he)]
      exact update_evaluated _ _
  | triggered =>
      obtain ⟨hwindow, hcleared⟩ := hidle.1 he
      have hafter : t.onTriggered.ui.Cleared :=
        step_cleared h.forms hidle he
          ⟨fun _ => TimeoutEvent.noConfusion, fun _ _ =>
            TimeoutEvent.noConfusion⟩
      rw [Evaluated, step, (onTriggered_idle hwindow).2.1, h.evaluated,
        hcleared.inhibitGreeterTimeout, hafter.inhibitGreeterTimeout]

theorem Sound.step_hidden (h : t.Sound) (hidle : t.RunsWhenIdle)
    (he : t.Enabled e) : (t.step e).ui.hiddenPassword = [] := by
  cases e with
  | activated screen =>
      rw [step]
      split
      · exact h.hidden
      · exact h.hidden
  | passwordEdited screen text =>
      have hpasswords := GreeterUi.setPassword_passwords h.forms h.list
        h.prompt he text
      have htouches := GreeterUi.setPassword_touches
        (GreeterUi.currentForm_isSome he) text
      have hhidden := h.hidden
      rw [step_ui, TimeoutEvent.toUi, GreeterUi.step, GreeterUi.hiddenPassword,
        htouches.screens.listShown, hpasswords.1, hpasswords.2]
      rw [GreeterUi.hiddenPassword] at hhidden
      cases hshown : t.ui.listShown with
      | true => rwa [hshown] at hhidden
      | false => rwa [hshown] at hhidden
  | _ =>
      apply GreeterUi.Cleared.hiddenPassword
      apply step_cleared h.forms hidle he
      constructor
      · exact fun _ => TimeoutEvent.noConfusion
      · exact fun _ _ => TimeoutEvent.noConfusion

theorem Sound.step (h : t.Sound) (hidle : t.RunsWhenIdle)
    (he : t.Enabled e) : (t.step e).Sound := by
  have hui := hidle.enabled he
  refine ⟨?_, ?_, ?_, h.step_evaluated hidle he, h.step_hidden hidle he⟩
  · rw [step_ui]
    apply h.forms.step hui
    cases e <;> exact GreeterUiEvent.noConfusion
  · rw [step_ui]
    exact GreeterUi.step_agrees hui h.list SyncedProperty.noConfusion
  · rw [step_ui]
    exact GreeterUi.step_agrees hui h.prompt SyncedProperty.noConfusion

/-- With a user list the flag sees every password. -/
theorem Sound.inhibited_eq_false_iff (h : t.Sound)
    (hbeyond : t.ui.config.beyondUserLimit = false) :
    t.inhibited = false ↔ t.ui.Cleared := by
  have hhidden := h.hidden
  rw [GreeterUi.hiddenPassword, GreeterUi.listShown, hbeyond] at hhidden
  rw [h.evaluated, GreeterUi.inhibitGreeterTimeout_eq_false_iff,
    GreeterUi.Cleared]
  cases hmode : t.ui.loginState with
  | userList =>
      rw [hmode] at hhidden
      exact (and_iff_left hhidden).symm
  | userPrompt =>
      rw [hmode] at hhidden
      exact (and_iff_right hhidden).symm

/-- Without one it sees none, and there is only the prompt's. -/
theorem Sound.beyondUserLimit (h : t.Sound)
    (hbeyond : t.ui.config.beyondUserLimit = true) :
    t.ui.listShown = false ∧ t.inhibited = false ∧
      (t.ui.Cleared ↔ t.ui.userPromptPassword = []) := by
  have hmode := h.forms.beyond hbeyond
  have hshown : t.ui.listShown = false := by
    rw [GreeterUi.listShown, hbeyond, Bool.not_true, Bool.and_false]
  have hlist : t.ui.userListPassword = [] := by
    have hhidden := h.hidden
    rwa [GreeterUi.hiddenPassword, hshown] at hhidden
  refine ⟨hshown, ?_, and_iff_right hlist⟩
  rw [h.evaluated, GreeterUi.inhibitGreeterTimeout_eq_false_iff, hmode]
  exact hlist

theorem Sound.tracks_iff (h : t.Sound)
    (hbeyond : t.ui.config.beyondUserLimit = false) :
    t.Tracks ↔ t.RunsWhenIdle := by
  rw [Tracks, Bool.eq_iff_iff, Bool.and_eq_true, Bool.not_eq_true',
    h.inhibited_eq_false_iff hbeyond]
  exact Iff.rfl

/-- Any step of a greeter with a user list but Escape keeps the timer. -/
theorem step_tracks (hforms : t.ui.FormsFollow) (h : t.Tracks)
    (he : t.Enabled e) (hescape : ∀ screen, e ≠ .escapeKeyPressed screen) :
    (t.step e).Tracks := by
  cases e with
  | escapeKeyPressed screen => exact absurd rfl (hescape screen)
  | activated screen =>
      rw [step]
      split
      · exact h
      · rw [Tracks] at h ⊢
        simp only [activateWindow, GreeterUi.activateWindow,
          Option.isSome_some, Bool.true_and]
        cases hinhibited : t.inhibited with
        | false => rfl
        | true =>
            rw [hinhibited, Bool.not_true, Bool.and_false] at h
            exact h
  | passwordEdited screen text =>
      exact h.update (GreeterUi.setPassword_activeWindow _ text t.ui)
  | loginStateClicked screen =>
      rw [step, setLoginState_of_ne (hforms.clicked_ne he)]
      apply Tracks.update
      · exact Tracks.clearPasswords h
      · exact GreeterUi.foldl_activeWindow _ _
  | triggered =>
      rw [Tracks, Enabled] at *
      rw [h, Bool.and_eq_true] at he
      obtain ⟨hrunning, _, hwindow⟩ := onTriggered_idle he.1
      rw [step, hrunning, hwindow]
      rfl

/-- Escape leaves the timer right where it comes from the active window or
clears a password that inhibits. -/
theorem escape_iff (h : t.Evaluated) (window : Nat) :
    (t.timeoutWindow window).clearPasswords.RunsWhenIdle ↔
      t.ui.inhibitGreeterTimeout = true ∨ t.ui.activeWindow = none ∨
        t.ui.activeWindow = some window := by
  have hcleared : (t.timeoutWindow window).clearPasswords.ui.Cleared := by
    rw [clearPasswords_ui]
    exact GreeterUi.clearPasswords_cleared _
  have hsame : (t.ui.timeoutWindow window).inhibitGreeterTimeout =
      t.ui.inhibitGreeterTimeout := by
    rw [GreeterUi.timeoutWindow]
    split
    · rfl
    · rfl
  have hevaluated : (t.timeoutWindow window).Evaluated := h.trans hsame.symm
  have hwindow : (t.ui.timeoutWindow window).activeWindow.isSome = false ↔
      t.ui.activeWindow = none ∨ t.ui.activeWindow = some window := by
    rw [GreeterUi.timeoutWindow]
    split
    next heq => simp [heq]
    next hne => simp [hne]
  rw [RunsWhenIdle, and_iff_left hcleared, clearPasswords_activeWindow,
    ← h, ← hwindow]
  cases hinhibited : t.inhibited with
  | true =>
      rw [clearPasswords_of_inhibited (t := t.timeoutWindow window) hinhibited]
      exact iff_of_true Iff.rfl (Or.inl rfl)
  | false =>
      rw [clearPasswords_of_not_inhibited (t := t.timeoutWindow window)
        hinhibited hevaluated]
      simp [timeoutWindow]

theorem step_config (hforms : t.ui.FormsFollow) (hidle : t.RunsWhenIdle)
    (he : t.Enabled e) : (t.step e).ui.config = t.ui.config := by
  have hui := hidle.enabled he
  rw [step_ui]
  cases e with
  | loginStateClicked screen =>
      exact (GreeterUi.setLoginState_shows (hforms.clicked_ne he)).1
  | activated screen => exact (GreeterUi.step_sameScreens hui rfl).config
  | escapeKeyPressed screen =>
      exact (GreeterUi.step_sameScreens hui rfl).config
  | passwordEdited screen text =>
      exact (GreeterUi.step_sameScreens hui rfl).config
  | triggered => exact (GreeterUi.step_sameScreens hui rfl).config

/-- With a user list every step but Escape leaves the timer right. -/
theorem Sound.step_runsWhenIdle (h : t.Sound) (hidle : t.RunsWhenIdle)
    (he : t.Enabled e) (hbeyond : t.ui.config.beyondUserLimit = false)
    (hescape : ∀ screen, e ≠ .escapeKeyPressed screen) :
    (t.step e).RunsWhenIdle := by
  have hconfig := step_config h.forms hidle he
  rw [← (h.step hidle he).tracks_iff (by rw [hconfig, hbeyond])]
  exact step_tracks h.forms ((h.tracks_iff hbeyond).2 hidle) he hescape

/-- Without a user list an activated window starts the timer whatever is
typed. -/
theorem Sound.activated_iff (h : t.Sound) {screen : Nat}
    (he : t.Enabled (.activated screen))
    (hbeyond : t.ui.config.beyondUserLimit = true) :
    (t.step (.activated screen)).RunsWhenIdle ↔
      t.ui.userPromptPassword = [] := by
  obtain ⟨_, hinhibited, hcleared⟩ := h.beyondUserLimit hbeyond
  have hscreen := List.getElem?_eq_getElem he
  rw [GreeterTimer.step, hscreen, ← hcleared]
  simp [RunsWhenIdle, activateWindow, hinhibited, GreeterUi.activateWindow,
    GreeterUi.Cleared]

/-- Without a user list what is typed does nothing to the timer. -/
theorem Sound.passwordEdited_iff (h : t.Sound) (hidle : t.RunsWhenIdle)
    {screen : Nat} {text : QString}
    (he : t.Enabled (.passwordEdited screen text))
    (hbeyond : t.ui.config.beyondUserLimit = true) :
    (t.step (.passwordEdited screen text)).RunsWhenIdle ↔
      (t.ui.activeWindow = none ∨ (t.ui.userPromptPassword = [] ↔ text = [])) := by
  obtain ⟨hshown, hinhibited, hcleared⟩ := h.beyondUserLimit hbeyond
  have hafter := h.step hidle he
  have hconfig := step_config h.forms hidle he
  obtain ⟨_, hinhibited', hcleared'⟩ :=
    hafter.beyondUserLimit (by rw [hconfig, hbeyond])
  have htext : (t.step (.passwordEdited screen text)).ui.userPromptPassword =
      text := by
    rw [step_ui]
    refine (GreeterUi.setPassword_passwords h.forms h.list h.prompt he
      text).2.trans ?_
    rw [hshown]
    rfl
  have hrunning : (t.step (.passwordEdited screen text)).running =
      t.running := by
    have hflag := hafter.evaluated.symm.trans hinhibited'
    rw [GreeterTimer.step, setPassword, update_of_eq]
    rw [step_ui] at hflag
    exact hflag.trans hinhibited.symm
  have hwindow :
      (t.step (.passwordEdited screen text)).ui.activeWindow =
        t.ui.activeWindow := by
    rw [step_ui]
    exact GreeterUi.setPassword_activeWindow _ text t.ui
  rw [RunsWhenIdle, hcleared', htext, hrunning, hwindow]
  rw [RunsWhenIdle, hcleared] at hidle
  rw [hidle]
  cases t.ui.activeWindow with
  | none => simp
  | some window => simp

/-- With a user list the condition is about Escape only. -/
theorem keepsTimer_of_userList (hbeyond : t.ui.config.beyondUserLimit = false)
    (hescape : ∀ screen, e ≠ .escapeKeyPressed screen) : t.KeepsTimer e := by
  cases e with
  | escapeKeyPressed screen => exact absurd rfl (hescape screen)
  | activated screen =>
      rw [KeepsTimer, hbeyond]
      exact Bool.noConfusion
  | passwordEdited screen text =>
      rw [KeepsTimer, hbeyond]
      exact Bool.noConfusion
  | loginStateClicked screen => trivial
  | triggered => trivial

/-- A greeter without a user list has no button to change the mode. -/
theorem beyondUserLimit_of_loginStateClicked (hforms : t.ui.FormsFollow)
    {screen : Nat} (he : t.Enabled (.loginStateClicked screen)) :
    t.ui.config.beyondUserLimit = false := by
  rcases hforms.clicked he with ⟨_, _, hbeyond⟩ | ⟨hprompt, _⟩
  · exact hbeyond
  · rw [Bool.eq_false_iff]
    intro hbeyond
    rw [hforms.beyond hbeyond] at hprompt
    exact LoginState.noConfusion hprompt

/-- One event leaves the timer right exactly where its condition holds. -/
theorem Sound.step_iff (h : t.Sound) (hidle : t.RunsWhenIdle)
    (he : t.Enabled e) : (t.step e).RunsWhenIdle ↔ t.KeepsTimer e := by
  have hlist : t.ui.config.beyondUserLimit = false →
      (∀ screen, e ≠ .escapeKeyPressed screen) →
        ((t.step e).RunsWhenIdle ↔ t.KeepsTimer e) :=
    fun hbeyond hescape => iff_of_true
      (h.step_runsWhenIdle hidle he hbeyond hescape)
      (keepsTimer_of_userList hbeyond hescape)
  cases e with
  | escapeKeyPressed screen =>
      have hscreen := List.getElem?_eq_getElem he
      rw [GreeterTimer.step, KeepsTimer, hscreen]
      exact escape_iff h.evaluated _
  | activated screen =>
      cases hbeyond : t.ui.config.beyondUserLimit with
      | true =>
          rw [h.activated_iff he hbeyond, KeepsTimer, hbeyond]
          exact (imp_iff_right rfl).symm
      | false => exact hlist hbeyond fun _ => TimeoutEvent.noConfusion
  | passwordEdited screen text =>
      cases hbeyond : t.ui.config.beyondUserLimit with
      | true =>
          rw [h.passwordEdited_iff hidle he hbeyond, KeepsTimer, hbeyond]
          exact (imp_iff_right rfl).symm
      | false => exact hlist hbeyond fun _ => TimeoutEvent.noConfusion
  | loginStateClicked screen =>
      exact hlist (beyondUserLimit_of_loginStateClicked h.forms he)
        fun _ => TimeoutEvent.noConfusion
  | triggered =>
      obtain ⟨hrunning, _, hwindow⟩ := onTriggered_idle (hidle.1 he).1
      refine iff_of_true ?_ trivial
      rw [RunsWhenIdle, GreeterTimer.step, hrunning, hwindow]
      simp

/-- As long as the timer is right the state stays sound. -/
theorem Sound.run_iff (h : t.Sound) (hidle : t.RunsWhenIdle)
    {es : List TimeoutEvent} (hes : greeterTimer.Runs t es) :
    (∀ pre, pre <+: es → (greeterTimer.exec t pre).RunsWhenIdle) ↔
      greeterTimer.Guarded KeepsTimer t es := by
  induction es generalizing t with
  | nil =>
      refine iff_of_true (fun pre hpre => ?_) (greeterTimer.guarded_nil _ t)
      rw [List.prefix_nil.1 hpre]
      exact hidle
  | cons e es ih =>
      obtain ⟨he, hrest⟩ := (greeterTimer.guarded_cons _ t e es).1 hes
      rw [Machine.guarded_cons, ← h.step_iff hidle he]
      constructor
      · intro hall
        have hafter := hall [e] ⟨es, rfl⟩
        refine ⟨hafter, (ih (h.step hidle he) hafter hrest).1 ?_⟩
        rintro pre ⟨post, rfl⟩
        exact hall (e :: pre) ⟨post, rfl⟩
      · rintro ⟨hafter, hguarded⟩ pre hpre
        cases pre with
        | nil => exact hidle
        | cons e' pre =>
            obtain ⟨rfl, hprefix⟩ := List.cons_prefix_cons.1 hpre
            exact (ih (h.step hidle he) hafter hrest).2 hguarded pre hprefix

end runs

/-- In every state of a run, with any number of windows and users, the timer
runs exactly while it should, if and only if every event keeps it so. -/
theorem runsWhenIdle_iff (config : GreeterConfig) (n : Nat)
    {es : List TimeoutEvent} (hes : greeterTimer.Runs (start config n) es) :
    (∀ pre, pre <+: es →
        (greeterTimer.exec (start config n) pre).RunsWhenIdle) ↔
      greeterTimer.Guarded KeepsTimer (start config n) es :=
  (start_sound config n).run_iff (start_runsWhenIdle config n) hes

/-- A password is typed on one screen, and Escape pressed on the other. -/
def bobCancels : List TimeoutEvent :=
  [.activated 0, .passwordEdited 0 "secret", .escapeKeyPressed 1, .triggered]

theorem runsWhenIdle_bob :
    greeterTimer.Runs (start GreeterUi.fewUsers 2) bobCancels ∧
      ∀ pre, pre <+: bobCancels →
        (greeterTimer.exec (start GreeterUi.fewUsers 2) pre).RunsWhenIdle :=
  ⟨by decide, (runsWhenIdle_iff GreeterUi.fewUsers 2 (by decide)).2
    (by decide)⟩

/-- Escape on another screen stops the timer of the active one; and without a
user list the timer runs while a password is there. -/
theorem not_runsWhenIdle :
    (∃ es, greeterTimer.Runs (start GreeterUi.fewUsers 2) es ∧
      ¬ (greeterTimer.exec (start GreeterUi.fewUsers 2) es).RunsWhenIdle) ∧
      ∃ es, greeterTimer.Runs (start GreeterUi.manyUsers 1) es ∧
        ¬ (greeterTimer.exec (start GreeterUi.manyUsers 1)
          es).RunsWhenIdle := by
  constructor
  · exact ⟨[.activated 0, .escapeKeyPressed 1], by decide, by decide⟩
  · exact ⟨[.activated 0, .passwordEdited 0 "secret"], by decide, by decide⟩

end GreeterTimer

end PlasmaLogin

/-
What the screens show of the state that they share, after every event.
-/
import PlasmaLogin.GreeterEvents

namespace PlasmaLogin

open Mealy TwoWay

/-- The values that every screen is to show. -/
structure SharedState where
  loginState : LoginState
  userListIndex : Int
  userListPassword : QString
  userPromptUsername : QString
  userPromptPassword : QString
  showPassword : Bool
deriving DecidableEq

/-- The visible fields of a form have the values of its kind. -/
def Login.ShowsShared (login : Login) (v : SharedState) : Prop :=
  (if login.isUserList then
      login.currentIndex = v.userListIndex ∧
        login.password = v.userListPassword
    else
      login.userName = v.userPromptUsername ∧
        login.password = v.userPromptPassword) ∧
    login.showPassword = v.showPassword

/-- The depth of `mainStack` in a mode. -/
def LoginState.depth : LoginState → Nat
  | .userList => 1
  | .userPrompt => 2

instance (login : Login) (v : SharedState) :
    Decidable (login.ShowsShared v) :=
  inferInstanceAs (Decidable ((if login.isUserList then
      login.currentIndex = v.userListIndex ∧
        login.password = v.userListPassword
    else
      login.userName = v.userPromptUsername ∧
        login.password = v.userPromptPassword) ∧
    login.showPassword = v.showPassword))

namespace GreeterUi

def sharedState (s : GreeterUi) : SharedState :=
  ⟨s.loginState, s.userListIndex, s.userListPassword, s.userPromptUsername,
    s.userPromptPassword, s.showPassword⟩

/-- Every screen shows the mode and the values that are shared. -/
def ShowsState (s : GreeterUi) : Prop :=
  ∀ sc ∈ s.screens, sc.depth = s.loginState.depth ∧
    sc.currentItem.ShowsShared s.sharedState

/-- The screens show one state, and a new one changes nothing of it. -/
def OneState (st : Step GreeterUi GreeterUiEvent Empty) : Prop :=
  st.after.ShowsState ∧
    (st.event = .screenAdded → st.after.sharedState = st.before.sharedState)

/-- A screen comes while the list is shown or, without a list, the saved user
name; the prompts come while there is a saved user name or none typed. -/
def KeepsState (s : GreeterUi) : GreeterUiEvent → Prop
  | .screenAdded =>
      if s.config.beyondUserLimit then
        s.userPromptUsername = s.config.lastLoggedInUser
      else s.loginState = .userList
  | .loginStateClicked _ => s.loginState = .userList →
      s.config.lastLoggedInUser = [] → s.userPromptUsername = []
  | _ => True

theorem KeepsState.nameKept {s : GreeterUi} {e : GreeterUiEvent}
    (h : s.KeepsState e) : s.NameKept e := by
  cases e with
  | screenAdded =>
      intro hbeyond hlast
      rw [KeepsState, if_pos hbeyond] at h
      exact h.trans hlast
  | loginStateClicked screen => exact h
  | _ => trivial

/-- Every screen has the forms of the mode. -/
structure FormsFollow (s : GreeterUi) : Prop where
  shows : ∀ x ∈ s.screens.map Screen.shows,
    x = shownIn s.loginState (s.config.userList.shows, none)
  beyond : s.config.beyondUserLimit = true → s.loginState = .userList

/-- Every form agrees with what is shared, and every screen has the forms of
the mode. -/
structure Consistent (s : GreeterUi) : Prop where
  agrees : ∀ p, (sync p).Agrees s
  shows : ∀ x ∈ s.screens.map Screen.shows,
    x = shownIn s.loginState (s.config.userList.shows, none)
  beyond : s.config.beyondUserLimit = true → s.loginState = .userList

theorem Consistent.forms {s : GreeterUi} (h : s.Consistent) :
    s.FormsFollow := ⟨h.shows, h.beyond⟩

theorem FormsFollow.consistent {s : GreeterUi} (h : s.FormsFollow)
    (hagrees : ∀ p, (sync p).Agrees s) : s.Consistent :=
  ⟨hagrees, h.shows, h.beyond⟩

theorem showsShared_of_agrees {s : GreeterUi} (h : ∀ p, (sync p).Agrees s)
    {f : FormId} {l : Login} (hl : s.form f = some l) :
    l.ShowsShared s.sharedState := by
  have hp : ∀ p : SyncedProperty, p.guard l.isUserList = true →
      p.control.get l = p.shared.get s := fun p =>
    agrees_iff.1 (h p) f l hl
  refine ⟨?_, hp .showPassword rfl⟩
  split
  next hlist => exact ⟨hp .userListIndex hlist, hp .userListPassword hlist⟩
  next hlist =>
    rw [Bool.not_eq_true] at hlist
    have hguard : (!l.isUserList) = true := by rw [hlist, Bool.not_false]
    exact ⟨hp .userPromptUsername hguard, hp .userPromptPassword hguard⟩

theorem depth_of_shows {sc : Screen} {mode : LoginState} {b : Bool × Bool}
    (h : sc.shows = shownIn mode (b, none)) : sc.depth = mode.depth := by
  have hprompt := congrArg Prod.snd h
  cases mode with
  | userList =>
      have hnone : sc.prompt = none := Option.map_eq_none_iff.1 hprompt
      rw [Screen.depth, hnone]
      rfl
  | userPrompt =>
      obtain ⟨l, hl, _⟩ := Option.map_eq_some_iff.1 hprompt
      rw [Screen.depth, hl]
      rfl

/-- A screen in the mode of prompts shows one. -/
theorem isUserList_of_shows {sc : Screen} {b : Bool × Bool}
    (h : sc.shows = shownIn .userPrompt (b, none)) :
    sc.currentItem.isUserList = false := by
  obtain ⟨l, hl, hshows⟩ :=
    Option.map_eq_some_iff.1 (congrArg Prod.snd h)
  rw [Screen.currentItem, hl, Option.getD_some, Login.isUserList_congr hshows]
  rfl

theorem Consistent.showsState {s : GreeterUi} (h : s.Consistent) :
    s.ShowsState := by
  intro sc hsc
  refine ⟨depth_of_shows (h.shows _ (List.mem_map_of_mem hsc)), ?_⟩
  obtain ⟨i, hi⟩ := List.mem_iff_getElem?.1 hsc
  exact showsShared_of_agrees h.agrees (form_currentForm hi)

/-- An event that leaves the forms and the mode as they are. -/
theorem FormsFollow.congr {s t : GreeterUi} (h : s.FormsFollow)
    (hsame : SameScreens s t) : t.FormsFollow := by
  constructor
  · rw [hsame.shows, hsame.loginState, hsame.config]
    exact h.shows
  · rw [hsame.loginState, hsame.config]
    exact h.beyond

theorem timeoutWindow_sameScreens (window : Nat) (s : GreeterUi) :
    SameScreens s (s.timeoutWindow window) := by
  rw [timeoutWindow]
  split
  · exact ⟨rfl, rfl, rfl⟩
  · exact .refl s

theorem onTriggered_sameScreens (s : GreeterUi) :
    SameScreens s s.onTriggered := by
  rw [onTriggered]
  split
  · exact .refl s
  · exact (touches_assignShared .showPassword false s).screens.trans
      (timeoutWindow_sameScreens _ _)

/-- The button on a list asks for a prompt, where there is a list, and the
button on a prompt for the list. -/
theorem FormsFollow.clicked {s : GreeterUi} (h : s.FormsFollow) {screen : Nat}
    (he : s.Enabled (.loginStateClicked screen)) :
    (s.loginState = .userList ∧ s.clicked screen = .userPrompt ∧
        s.config.beyondUserLimit = false) ∨
      (s.loginState = .userPrompt ∧ s.clicked screen = .userList) := by
  obtain ⟨sc, hsc, hbutton⟩ := (Option.any_eq_true ..).1 he
  have hshows := h.shows _ (List.mem_map_of_mem (List.mem_of_getElem? hsc))
  have hcurrent : (s.currentForm screen).prompt = sc.prompt.isSome := by
    rw [currentForm, hsc, Option.any_some]
  cases hmode : s.loginState with
  | userList =>
      rw [hmode] at hshows
      have hnone : sc.prompt = none :=
        Option.map_eq_none_iff.1 (congrArg Prod.snd hshows)
      have hlist : sc.list.showUsernamePrompt = s.config.beyondUserLimit :=
        congrArg (fun x => x.1.2) hshows
      refine Or.inl ⟨rfl, ?_, ?_⟩
      · rw [GreeterUi.clicked, hcurrent, hnone]
        rfl
      · rw [hnone, Option.isSome_none, Bool.false_or, hlist] at hbutton
        rwa [Bool.not_eq_true'] at hbutton
  | userPrompt =>
      rw [hmode] at hshows
      obtain ⟨l, hl, _⟩ := Option.map_eq_some_iff.1 (congrArg Prod.snd hshows)
      refine Or.inr ⟨rfl, ?_⟩
      rw [GreeterUi.clicked, hcurrent, hl]
      rfl

theorem createWindowForScreen_shows (s : GreeterUi) :
    s.createWindowForScreen.screens.map Screen.shows =
      s.screens.map Screen.shows ++ [(s.config.userList.shows, none)] := by
  rw [s.createWindowForScreen_sameScreens.shows]
  exact List.map_append

theorem FormsFollow.screenAdded {s : GreeterUi} (h : s.FormsFollow)
    (hmode : s.loginState = .userList) :
    s.createWindowForScreen.FormsFollow := by
  have hsame := s.createWindowForScreen_sameScreens
  have hconfig : s.createWindowForScreen.config = s.config := hsame.config
  have hmode' : s.createWindowForScreen.loginState = s.loginState :=
    hsame.loginState
  refine ⟨?_, fun _ => hmode'.trans hmode⟩
  intro x hx
  rw [createWindowForScreen_shows, List.mem_append, List.mem_singleton] at hx
  rw [hconfig, hmode']
  rcases hx with hold | rfl
  · exact h.shows x hold
  · rw [hmode]
    rfl

theorem FormsFollow.switched_shows {s : GreeterUi} (h : s.FormsFollow)
    {mode : LoginState} (hne : s.loginState ≠ mode) :
    ∀ x ∈ (s.setLoginState mode).screens.map Screen.shows,
      x = shownIn mode (s.config.userList.shows, none) := by
  intro x hx
  rw [(setLoginState_shows hne).2.2, List.mem_map] at hx
  obtain ⟨y, hy, rfl⟩ := hx
  rw [h.shows y hy]
  cases mode <;> cases s.loginState <;> rfl

theorem FormsFollow.switched {s : GreeterUi} (h : s.FormsFollow)
    {mode : LoginState} (hne : s.loginState ≠ mode)
    (hbeyond : s.config.beyondUserLimit = true → mode = .userList) :
    (s.setLoginState mode).FormsFollow := by
  obtain ⟨hconfig, hmode, _⟩ := setLoginState_shows hne
  constructor
  · rw [hconfig, hmode]
    exact h.switched_shows hne
  · rw [hconfig, hmode]
    exact hbeyond

/-- Forms come or go, or others are shown. -/
def changesScreens : GreeterUiEvent → Bool
  | .loginStateClicked _ => true
  | .screenAdded => true
  | .screenRemoved _ => true
  | _ => false

theorem step_sameScreens {s : GreeterUi} {e : GreeterUiEvent}
    (he : s.Enabled e) (h : changesScreens e = false) :
    SameScreens s (s.step e) := by
  cases e with
  | userNameEdited screen text =>
      obtain ⟨l, hl, _⟩ := (Option.any_eq_true ..).1 he
      exact (setUserName_touches (Option.isSome_of_mem hl) text).screens
  | passwordEdited screen text =>
      exact (setPassword_touches (currentForm_isSome he) text).screens
  | showPasswordToggled screen shown =>
      exact (setShowPassword_touches (currentForm_isSome he) shown).screens
  | indexChanged screen index userSelected =>
      have hf := currentForm_isSome he
      have hindex := (setCurrentIndex_touches hf index).screens
      cases userSelected with
      | false => exact hindex
      | true =>
          have hf' := (hindex.isSome _).trans hf
          exact hindex.trans (setPassword_touches hf' []).screens
  | sessionChanged screen index => exact ⟨rfl, rfl, rfl⟩
  | activated screen =>
      rw [GreeterUi.step]
      split
      · exact .refl s
      · exact ⟨rfl, rfl, rfl⟩
  | escapeKeyPressed screen =>
      rw [GreeterUi.step]
      split
      · exact .refl s
      · exact (timeoutWindow_sameScreens _ s).trans
          (clearPasswords_sameScreens _)
  | timeout => exact s.onTriggered_sameScreens
  | socketDisconnected => exact .refl s
  | loginStateClicked screen => exact Bool.noConfusion h
  | screenAdded => exact Bool.noConfusion h
  | screenRemoved screen => exact Bool.noConfusion h

/-- The button always asks for the other mode. -/
theorem FormsFollow.clicked_ne {s : GreeterUi} (h : s.FormsFollow)
    {screen : Nat} (he : s.Enabled (.loginStateClicked screen)) :
    s.loginState ≠ s.clicked screen := by
  rcases h.clicked he with ⟨hmode, hclicked, _⟩ | ⟨hmode, hclicked⟩
  · rw [hmode, hclicked]
    decide
  · rw [hmode, hclicked]
    decide

/-- The forms follow the mode as long as no screen comes while the prompts are
shown. -/
theorem FormsFollow.step {s : GreeterUi} {e : GreeterUiEvent}
    (h : s.FormsFollow) (he : s.Enabled e)
    (hadded : e = .screenAdded → s.loginState = .userList) :
    (s.step e).FormsFollow := by
  cases hchanges : changesScreens e with
  | false => exact h.congr (step_sameScreens he hchanges)
  | true =>
      cases e with
      | loginStateClicked screen =>
          apply h.switched (h.clicked_ne he)
          rcases h.clicked he with ⟨_, _, hbeyond⟩ | ⟨_, hclicked⟩
          · rw [hbeyond]
            exact fun heq => Bool.noConfusion heq
          · exact fun _ => hclicked
      | screenAdded => exact h.screenAdded (hadded rfl)
      | screenRemoved screen =>
          refine ⟨fun x hx => h.shows x ?_, h.beyond⟩
          rw [List.mem_map] at hx ⊢
          obtain ⟨sc, hsc, rfl⟩ := hx
          exact ⟨sc, List.mem_of_mem_eraseIdx hsc, rfl⟩
      | _ => exact Bool.noConfusion hchanges

/-- A step that keeps the state keeps the screens consistent. -/
theorem Consistent.step {s : GreeterUi} {e : GreeterUiEvent}
    (h : s.Consistent) (he : s.Enabled e) (hkeeps : s.KeepsState e) :
    (s.step e).Consistent := by
  refine (h.forms.step he ?_).consistent fun p =>
    step_agrees he (h.agrees p) fun _ => hkeeps.nameKept
  rintro rfl
  rw [KeepsState] at hkeeps
  split at hkeeps
  next hbeyond => exact h.beyond hbeyond
  next => exact hkeeps

/-- The new prompt writes the saved user name, unless it is empty. -/
theorem createWindowForScreen_username {s : GreeterUi}
    (hbeyond : s.config.beyondUserLimit = true)
    (hlast : s.config.lastLoggedInUser = [] → s.userPromptUsername = []) :
    s.createWindowForScreen.userPromptUsername =
      s.config.lastLoggedInUser := by
  have hf := Option.isSome_of_mem s.form_newForm
  have hprompt : s.withScreen.isUserList s.newForm = false := by
    rw [isUserList_newForm, hbeyond, Bool.not_true]
  rw [createWindowForScreen_eq, onCompleted_username hf hprompt]
  apply Mirror.shared_assignField (sync_lawful .userPromptUsername)
    (mem_fields_of_prompt hf hprompt).1
  intro hfield
  rw [field_of_form .userPromptUsername s.form_newForm] at hfield
  exact (hlast hfield.symm).trans hfield

theorem createWindowForScreen_sharedState {s : GreeterUi}
    (hkeeps : s.KeepsState .screenAdded) :
    s.createWindowForScreen.sharedState = s.sharedState := by
  have hshared : ∀ p, p ≠ .userPromptUsername →
      (sync p).shared s.createWindowForScreen = (sync p).shared s :=
    fun p hp => createWindowForScreen_shared fun heq => absurd heq hp
  have hname : s.createWindowForScreen.userPromptUsername =
      s.userPromptUsername := by
    cases hbeyond : s.config.beyondUserLimit with
    | true =>
        rw [KeepsState, if_pos hbeyond] at hkeeps
        rw [createWindowForScreen_username hbeyond hkeeps.trans, hkeeps]
    | false =>
        exact createWindowForScreen_shared (p := .userPromptUsername)
          fun _ => hbeyond
  simp only [sharedState, SharedState.mk.injEq]
  exact ⟨s.createWindowForScreen_sameScreens.loginState,
    hshared .userListIndex (by decide), hshared .userListPassword (by decide),
    hname, hshared .userPromptPassword (by decide),
    hshared .showPassword (by decide)⟩

/-- A prompt that is shown shows the user name. -/
theorem ShowsState.username {s : GreeterUi} (h : s.ShowsState) {screen : Nat}
    {sc : Screen} (hsc : s.screens[screen]? = some sc)
    (hprompt : sc.currentItem.isUserList = false) :
    (sync .userPromptUsername).field (s.currentForm screen) s =
      s.userPromptUsername := by
  have hshows := (h sc (List.mem_of_getElem? hsc)).2.1
  rw [hprompt] at hshows
  rw [field_of_form .userPromptUsername (form_currentForm hsc)]
  exact hshows.1

/-- The new screen is the last one, and shows the list or what stands for
it. -/
theorem createWindowForScreen_last (s : GreeterUi) :
    ∃ sc, s.createWindowForScreen.screens[s.screens.length]? = some sc ∧
      sc.prompt = none ∧ sc.list.shows = s.config.userList.shows := by
  have hshows := congrArg (·[s.screens.length]?) s.createWindowForScreen_shows
  have hlast : (s.screens.map Screen.shows ++
      [(s.config.userList.shows, none)])[s.screens.length]? =
        some (s.config.userList.shows, none) := by
    simp
  rw [hlast, List.getElem?_map] at hshows
  obtain ⟨sc, hsc, hboth⟩ := Option.map_eq_some_iff.1 hshows
  exact ⟨sc, hsc, Option.map_eq_none_iff.1 (congrArg Prod.snd hboth),
    congrArg Prod.fst hboth⟩

/-- Without a saved name the name in the new prompt is empty. -/
theorem createWindowForScreen_unnamed {s : GreeterUi}
    (hbeyond : s.config.beyondUserLimit = true)
    (hlast : s.config.lastLoggedInUser = [])
    (hshows : s.createWindowForScreen.ShowsState) :
    s.userPromptUsername = [] := by
  obtain ⟨sc, hsc, hnone, hlist⟩ := s.createWindowForScreen_last
  have hprompt : sc.currentItem.isUserList = false := by
    rw [Screen.currentItem, hnone, Option.getD_none,
      Login.isUserList_congr hlist, Login.isUserList]
    simp [GreeterConfig.userList, hbeyond]
  have hform : s.createWindowForScreen.currentForm s.screens.length =
      s.newForm := by
    rw [currentForm, hsc, Option.any_some, hnone, newForm]
    rfl
  have hmem := (mem_fields_of_prompt (Option.isSome_of_mem s.form_newForm)
    (by rw [isUserList_newForm, hbeyond, Bool.not_true])).1
  have hkept := createWindowForScreen_same hbeyond hlast
  have hname := hshows.username hsc hprompt
  rw [hform, hkept.field _ hmem,
    field_of_form .userPromptUsername s.form_newForm] at hname
  exact hkept.shared.symm.trans hname.symm

/-- A new screen has no prompt. -/
theorem createWindowForScreen_mode {s : GreeterUi}
    (hshows : s.createWindowForScreen.ShowsState) :
    s.loginState = .userList := by
  obtain ⟨sc, hsc, hnone, _⟩ := s.createWindowForScreen_last
  have hdepth := (hshows sc (List.mem_of_getElem? hsc)).1
  rw [s.createWindowForScreen_sameScreens.loginState, Screen.depth, hnone]
    at hdepth
  change 1 = s.loginState.depth at hdepth
  cases hmode : s.loginState with
  | userList => rfl
  | userPrompt =>
      rw [hmode] at hdepth
      cases hdepth

theorem not_oneState_screenAdded {s : GreeterUi}
    (hkeeps : ¬ s.KeepsState .screenAdded) :
    ¬ OneState (greeterUi.fire s .screenAdded) := by
  rintro ⟨hshows, hshared⟩
  have hstate : s.createWindowForScreen.ShowsState := hshows
  have hsame : s.createWindowForScreen.sharedState = s.sharedState :=
    hshared rfl
  rw [KeepsState] at hkeeps
  split at hkeeps
  next hbeyond =>
    by_cases hlast : s.config.lastLoggedInUser = []
    · have hempty := createWindowForScreen_unnamed hbeyond hlast hstate
      exact hkeeps (hempty.trans hlast.symm)
    · -- the saved name is written over the shared one
      have hname := congrArg SharedState.userPromptUsername hsame
      have hwritten := createWindowForScreen_username hbeyond
        fun hempty => absurd hempty hlast
      exact hkeeps (hname.symm.trans hwritten)
  next => exact hkeeps (createWindowForScreen_mode hstate)

/-- No prompt has a user name. -/
def Nameless (s : GreeterUi) : Prop :=
  ∀ f ∈ (sync .userPromptUsername).fields s,
    (sync .userPromptUsername).field f s = []

theorem Nameless.same {s t : GreeterUi} (h : s.Nameless)
    (hsame : (sync .userPromptUsername).Same s t) : t.Nameless := by
  intro f hf
  rw [hsame.fields] at hf
  rw [hsame.field f hf, h f hf]

theorem Nameless.forms {s t : GreeterUi} (h : s.Nameless)
    (hforms : ∀ f l, t.form f = some l → l.userName = [] ∨
      ∃ g, s.form g = some l) : t.Nameless := by
  intro f hf
  obtain ⟨l, hl, hguard⟩ := mem_fields.1 hf
  rw [field_of_form .userPromptUsername hl]
  rcases hforms f l hl with hempty | ⟨g, hg⟩
  · exact hempty
  · rw [← h g (mem_fields.2 ⟨l, hg, hguard⟩), field_of_form _ hg]

theorem Nameless.onLoginStateChanged {s : GreeterUi} (h : s.Nameless)
    (hlast : s.config.lastLoggedInUser = []) (screen : Nat) :
    (s.onLoginStateChanged screen).Nameless := by
  rcases onLoginStateChanged_cases s screen with
    heq | heq | ⟨sc, hsc, _, heq⟩
  · rw [heq]
    exact h
  · rw [heq]
    exact h.forms fun f l hl => Or.inr (form_of_pop hl)
  · rw [heq]
    have hprompt : (s.withPrompt screen).Nameless := by
      apply h.forms
      intro f l hl
      by_cases hf : f = ⟨screen, true⟩
      · rw [hf, form_prompt hsc] at hl
        cases hl
        exact Or.inl rfl
      · rw [form_withPrompt hf] at hl
        exact Or.inr ⟨f, hl⟩
    exact hprompt.same (push_same hsc hlast)

/-- Lists have no user name to show. -/
theorem Consistent.nameless {s : GreeterUi} (h : s.Consistent)
    (hmode : s.loginState = .userList)
    (hbeyond : s.config.beyondUserLimit = false) : s.Nameless := by
  intro f hf
  obtain ⟨l, hl, hguard⟩ := mem_fields.1 hf
  obtain ⟨sc, hsc, hform⟩ := Option.bind_eq_some_iff.1 hl
  have hshows := h.shows _ (List.mem_map_of_mem (List.mem_of_getElem? hsc))
  rw [hmode] at hshows
  have hnone : sc.prompt = none :=
    Option.map_eq_none_iff.1 (congrArg Prod.snd hshows)
  have hlist : sc.list.isUserList = true := by
    rw [Login.isUserList_congr (congrArg Prod.fst hshows), Login.isUserList]
    simp [GreeterConfig.userList, hbeyond]
  rw [Screen.form, hnone] at hform
  split at hform
  · cases hform
  · cases hform
    rw [SyncedProperty.guard, hlist] at hguard
    cases hguard

/-- Without a saved name the new prompts have no name, whatever is shared. -/
theorem setLoginState_nameless {s : GreeterUi} {mode : LoginState}
    (h : s.Nameless) (hne : s.loginState ≠ mode)
    (hlast : s.config.lastLoggedInUser = []) :
    (s.setLoginState mode).Nameless ∧
      (s.setLoginState mode).userPromptUsername = s.userPromptUsername := by
  have hmode : (s.withMode mode).Nameless :=
    h.forms fun f l hl => Or.inr ⟨f, hl⟩
  have hsame : (sync .userPromptUsername).Same (s.withMode mode)
      (s.withMode mode).clearPasswords :=
    clearPasswords_same (by decide) (by decide) _
  have hconfig := (s.withMode mode).clearPasswords_sameScreens.config
  refine (setLoginState_induct (I := fun t =>
    t.config.lastLoggedInUser = [] ∧ t.Nameless ∧
      t.userPromptUsername = s.userPromptUsername) hne ?_ ?_).2
  · refine ⟨?_, hmode.same hsame, hsame.shared⟩
    rw [hconfig]
    exact hlast
  · rintro t i ⟨hempty, hnameless, hname⟩
    refine ⟨?_, hnameless.onLoginStateChanged hempty i, ?_⟩
    · rw [(onLoginStateChanged_mode t i).1, hempty]
    · rw [onLoginStateChanged_username hempty, hname]

theorem not_oneState_clicked {s : GreeterUi} (h : s.Consistent) {screen : Nat}
    (he : s.Enabled (.loginStateClicked screen))
    (hkeeps : ¬ s.KeepsState (.loginStateClicked screen)) :
    ¬ OneState (greeterUi.fire s (.loginStateClicked screen)) := by
  rintro ⟨hstate, _⟩
  simp only [KeepsState, Classical.not_imp] at hkeeps
  obtain ⟨hmode, hlast, hname⟩ := hkeeps
  rcases h.forms.clicked he with ⟨_, hclicked, hbeyond⟩ | ⟨hprompt, _⟩
  · have hne : s.loginState ≠ .userPrompt := by
      rw [hmode]
      decide
    have hstate' : (s.setLoginState .userPrompt).ShowsState := by
      rw [← hclicked]
      exact hstate
    obtain ⟨hnameless, hkept⟩ :=
      setLoginState_nameless (h.nameless hmode hbeyond) hne hlast
    obtain ⟨sc, hsc, _⟩ := (Option.any_eq_true ..).1 he
    have hlength : screen < (s.setLoginState .userPrompt).screens.length := by
      have hsame := congrArg List.length (setLoginState_shows hne).2.2
      rw [List.length_map, List.length_map, List.length_map] at hsame
      rw [hsame]
      exact (List.getElem?_eq_some_iff.1 hsc).1
    have hsc' := List.getElem?_eq_getElem hlength
    have hlist := isUserList_of_shows (h.forms.switched_shows hne _
      (List.mem_map_of_mem (List.mem_of_getElem? hsc')))
    have hfield := hstate'.username hsc' hlist
    have hform := form_currentForm hsc'
    have hempty := hnameless _ (mem_fields.2 ⟨_, hform, by
      rw [SyncedProperty.guard, hlist, Bool.not_false]⟩)
    exact hname (hkept.symm.trans (hfield.symm.trans hempty))
  · rw [hmode] at hprompt
    cases hprompt

/-- One step shows one state exactly where its condition holds. -/
theorem Consistent.oneState_iff {s : GreeterUi} {e : GreeterUiEvent}
    (h : s.Consistent) (he : s.Enabled e) :
    OneState (greeterUi.fire s e) ↔ s.KeepsState e := by
  constructor
  · intro hone
    by_contra hkeeps
    cases e with
    | screenAdded => exact not_oneState_screenAdded hkeeps hone
    | loginStateClicked screen => exact not_oneState_clicked h he hkeeps hone
    | _ => exact hkeeps trivial
  · intro hkeeps
    refine ⟨(h.step he hkeeps).showsState, ?_⟩
    intro heq
    cases heq
    exact createWindowForScreen_sharedState hkeeps

theorem start_formsFollow (config : GreeterConfig) (n : Nat) :
    (start config n).FormsFollow ∧ (start config n).loginState = .userList := by
  induction n with
  | zero =>
      refine ⟨⟨fun x hx => ?_, fun _ => rfl⟩, rfl⟩
      exact nomatch hx
  | succ n ih =>
      have hsame := (start config n).createWindowForScreen_sameScreens
      exact ⟨ih.1.screenAdded ih.2, hsame.loginState.trans ih.2⟩

theorem start_consistent (config : GreeterConfig) (n : Nat) :
    (start config n).Consistent :=
  (start_formsFollow config n).1.consistent fun p => start_agrees p config n

theorem steps_oneState_of_consistent {s : GreeterUi}
    {es : List GreeterUiEvent} (h : s.Consistent)
    (hes : greeterUi.Runs s es) :
    (∀ st ∈ greeterUi.steps s es, OneState st) ↔
      greeterUi.Guarded KeepsState s es := by
  induction es generalizing s with
  | nil =>
      refine iff_of_true ?_ (greeterUi.guarded_nil _ s)
      exact fun st hst => absurd hst List.not_mem_nil
  | cons e es ih =>
      obtain ⟨he, hrest⟩ := (greeterUi.guarded_cons _ s e es).1 hes
      rw [Machine.steps_cons, List.forall_mem_cons, Machine.guarded_cons,
        h.oneState_iff he]
      exact and_congr_right fun hkeeps => ih (h.step he hkeeps) hrest

/-- In a run of any number of screens every screen shows the one state after
every event, and a new screen changes nothing of it, exactly when screens and
prompts come only while they keep it. -/
theorem steps_oneState_iff (config : GreeterConfig) (n : Nat)
    {es : List GreeterUiEvent} (hes : greeterUi.Runs (start config n) es) :
    (∀ st ∈ greeterUi.steps (start config n) es, OneState st) ↔
      greeterUi.Guarded KeepsState (start config n) es :=
  steps_oneState_of_consistent (start_consistent config n) hes

instance (s : GreeterUi) (e : GreeterUiEvent) : Decidable (s.KeepsState e) :=
  match e with
  | .screenAdded =>
      inferInstanceAs (Decidable (if s.config.beyondUserLimit then
        s.userPromptUsername = s.config.lastLoggedInUser
      else s.loginState = .userList))
  | .loginStateClicked _ =>
      inferInstanceAs (Decidable (s.loginState = .userList →
        s.config.lastLoggedInUser = [] → s.userPromptUsername = []))
  | .userNameEdited _ _ | .passwordEdited _ _ | .showPasswordToggled _ _
  | .indexChanged _ _ _ | .sessionChanged _ _ | .activated _
  | .escapeKeyPressed _ | .timeout | .socketDisconnected
  | .screenRemoved _ => inferInstanceAs (Decidable True)

instance (s : GreeterUi) : Decidable s.ShowsState :=
  inferInstanceAs (Decidable (∀ sc ∈ s.screens,
    sc.depth = s.loginState.depth ∧ sc.currentItem.ShowsShared s.sharedState))

def bobTurnsToPrompt : List GreeterUiEvent :=
  [.passwordEdited 0 "secret", .indexChanged 1 0 false, .screenAdded,
    .loginStateClicked 2, .userNameEdited 0 "alice"]

/-- Both screens follow what is typed on either, and a third one that comes
over the list. -/
theorem steps_oneState_bob :
    greeterUi.Runs (start fewUsers 2) bobTurnsToPrompt ∧
      ∀ st ∈ greeterUi.steps (start fewUsers 2) bobTurnsToPrompt, OneState st :=
  ⟨by decide, (steps_oneState_iff fewUsers 2 (by decide)).2 (by decide)⟩

/-- A screen that comes over a prompt shows the list; without a list it writes
the saved user name over the one that is typed. -/
theorem steps_not_oneState :
    (∃ es, greeterUi.Runs (start fewUsers 1) es ∧
      ∃ st ∈ greeterUi.steps (start fewUsers 1) es,
        st.event = .screenAdded ∧ ¬ st.after.ShowsState) ∧
    ∃ es, greeterUi.Runs (start manyUsers 1) es ∧
      ∃ st ∈ greeterUi.steps (start manyUsers 1) es,
        st.event = .screenAdded ∧
          st.after.userPromptUsername ≠ st.before.userPromptUsername := by
  refine ⟨⟨[.loginStateClicked 0, .screenAdded], ?_, ?_⟩,
    ⟨[.userNameEdited 0 "alice", .screenAdded], ?_, ?_⟩⟩
  · decide
  · decide
  · decide
  · decide

end GreeterUi

end PlasmaLogin

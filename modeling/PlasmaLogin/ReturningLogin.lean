/-
The login of somebody who comes back: what a greeter remembers of the last
login that succeeded, and what the forms of a later greeter submit when only
the password is typed.
-/
import PlasmaLogin.LoginSubmissions
import PlasmaLogin.SavedSessions
import PlasmaLogin.SessionChoice
import PlasmaLogin.SharedScreens
import PlasmaLogin.UserModel

namespace PlasmaLogin

open Mealy TwoWay SessionModel PlasmaLoginSettings

/-- `PreselectedUser` and `PreselectedSession`. -/
structure Preselected where
  user : QString := []
  session : QString := []

/-- What a starting greeter finds in the models, the settings and
`StateConfig`. -/
def GreeterConfig.found (texts : LabelTexts) (users : List User)
    (sessions : List ModelSession) (preselected : Preselected)
    (saved : LastLogin) : GreeterConfig where
  rowCount := users.length
  preselectedUserIndex :=
    UserModel.indexOfData users (.text preselected.user) .name
  lastLoggedInUserIndex := UserModel.indexOfData users (.text saved.user) .name
  preselectedSessionIndex :=
    indexOfData texts sessions (.text preselected.session) .fileName
  lastLoggedInSessionIndex :=
    indexOfData texts sessions (.text saved.session) .fileName
  lastLoggedInUser := saved.user

/-- The user, the session and the mode stay as they are. -/
def GreeterUiEvent.keepsLogin : GreeterUiEvent → Bool
  | .userNameEdited _ _ => false
  | .indexChanged _ _ _ => false
  | .sessionChanged _ _ => false
  | .loginStateClicked _ => false
  | _ => true

/-- What such an event does to the session buttons. -/
def GreeterUiEvent.choiceEvent : GreeterUiEvent → Option ChoiceEvent
  | .screenAdded => some .screenAdded
  | .screenRemoved screen => some (.screenRemoved screen)
  | _ => none

/-- `startLogin` of the form that a screen shows. -/
def startLogin (users : List User) (ui : GreeterUi)
    (buttons : List SessionButton) (screen : Nat) : Option LoginRequest :=
  match ui.screens[screen]?, buttons[screen]? with
  | some sc, some button =>
      let form := sc.currentItem
      some {
        username :=
          if form.showUsernamePrompt then form.userName
          else UserModel.selectedUser users form.currentIndex
        password := form.password
        sessionType := button.current.type.toNat
        sessionFileName := button.current.fileName }
  | _, _ => none

/-- A greeter some screens of which come and go, and the session buttons of
its screens. -/
def returningUi (config : GreeterConfig) (screens : Nat)
    (es : List GreeterUiEvent) : GreeterUi :=
  greeterUi.exec (.start config screens) es

def returningButtons (texts : LabelTexts) (sessions : List ModelSession)
    (preselected : Preselected) (saved : LastLogin) (screens : Nat)
    (es : List GreeterUiEvent) : List SessionButton :=
  ((choiceMachine texts).exec
    (.start texts sessions preselected.session saved.session)
    (List.replicate screens .screenAdded ++
      es.filterMap GreeterUiEvent.choiceEvent)).buttons

namespace LoginFront

/-- The login whose success a step announces. -/
def granted (st : Step LoginFront LoginFrontEvent Empty) :
    Option LoginRequest :=
  match st.event, st.before.replies with
  | .replied, ⟨login, true⟩ :: _ => st.before.logins[login]?
  | _, _ => none

/-- The last login of a run that has succeeded. -/
def lastGranted (c : LoginFront) (es : List LoginFrontEvent) :
    Option LoginRequest :=
  ((loginFront.steps c es).filterMap granted).getLast?

theorem lastGranted_cons (c : LoginFront) (e : LoginFrontEvent)
    (es : List LoginFrontEvent) : lastGranted c (e :: es) =
      (lastGranted (c.step e) es).or (granted (loginFront.fire c e)) := by
  have hsteps : loginFront.steps c (e :: es) =
      [loginFront.fire c e] ++ loginFront.steps (c.step e) es :=
    loginFront.steps_cons c e es
  rw [lastGranted, hsteps, List.filterMap_append, List.getLast?_append]
  cases hgranted : granted (loginFront.fire c e) <;>
    simp [hgranted, lastGranted]

theorem saved_tell (reply : LoginReply) (c : LoginFront) :
    (c.tell reply).saved = c.saved := by
  rw [tell]
  split <;> rfl

theorem saved_received (starts : Bool) (c : LoginFront) :
    (c.step (.received starts)).saved = c.saved := by
  rw [step]
  split
  · rfl
  · unfold loginReceived
    dsimp only
    split
    · exact saved_tell _ _
    · split <;> rfl

/-- A step saves the login whose success it announces, and nothing else. -/
theorem OneLogin.saved {c : LoginFront} {e : LoginFrontEvent}
    (h : OneLogin (loginFront.fire c e)) : (c.step e).saved =
      ((granted (loginFront.fire c e)).map LoginRequest.lastLogin).getD
        c.saved := by
  cases e with
  | screenAdded => rfl
  | screenRemoved screen => rfl
  | submit screen request => rfl
  | received starts => exact saved_received starts c
  | authError login => exact saved_tell _ c
  | authenticated login success => exact saved_tell ⟨login, success⟩ _
  | helperFinished => rfl
  | replied =>
      cases hreplies : c.replies with
      | nil => simp [granted, Machine.fire, step, hreplies]
      | cons reply rest =>
          obtain ⟨login, succeeded⟩ := reply
          cases succeeded with
          | true =>
              have hsucceeding : c.Succeeding .replied login :=
                ⟨rfl, rest, hreplies⟩
              have hlast : (c.step .replied).lastLogin login =
                  some (c.step .replied).saved := h.2 login hsucceeding
              rw [lastLogin, (saved_of_succeeding hsucceeding).2] at hlast
              have hgranted : granted (loginFront.fire c .replied) =
                  c.logins[login]? := by
                simp only [granted, Machine.fire, hreplies]
              rw [hgranted, hlast, Option.getD_some]
          | false =>
              simp [granted, Machine.fire, step, hreplies, replyArrived,
                onLoginFailed]

/-- If every success saves the login that has succeeded, the saved one is the
last of them. -/
theorem saved_exec {c : LoginFront} {es : List LoginFrontEvent}
    (h : ∀ st ∈ loginFront.steps c es, OneLogin st) :
    (loginFront.exec c es).saved =
      ((lastGranted c es).map LoginRequest.lastLogin).getD c.saved := by
  induction es generalizing c with
  | nil => rfl
  | cons e es ih =>
      rw [Machine.steps_cons, List.forall_mem_cons] at h
      have hrest : (loginFront.exec (c.step e) es).saved =
          ((lastGranted (c.step e) es).map LoginRequest.lastLogin).getD
            (c.step e).saved := ih h.2
      change (loginFront.exec (c.step e) es).saved = _
      rw [hrest, lastGranted_cons]
      cases hlater : lastGranted (c.step e) es with
      | some login => rfl
      | none => exact h.1.saved

end LoginFront

namespace GreeterUi

/-- Nobody has chosen another user: the list has the row it began with, and
the prompts have the saved name, once there is one. -/
structure KeptLogin (config : GreeterConfig) (s : GreeterUi) : Prop where
  consistent : s.Consistent
  mode : s.loginState = .userList
  config_eq : s.config = config
  index : s.userListIndex = config.userListIndex
  name : config.beyondUserLimit = true →
    s.userPromptUsername = config.lastLoggedInUser ∨
      s.screens = [] ∧ s.userPromptUsername = []

variable {config : GreeterConfig} {s : GreeterUi} {e : GreeterUiEvent}

theorem timeoutWindow_shared (window : Nat) (s : GreeterUi)
    (p : SyncedProperty) :
    (sync p).shared (s.timeoutWindow window) = (sync p).shared s := by
  rw [timeoutWindow]
  split
  · cases p <;> rfl
  · rfl

/-- The row and the name stay what they are, unless a screen comes. -/
theorem step_shared_login {p : SyncedProperty} (he : s.Enabled e)
    (hkeeps : e.keepsLogin = true) (hadded : e ≠ .screenAdded)
    (hp : p = .userListIndex ∨ p = .userPromptUsername) :
    (sync p).shared (s.step e) = (sync p).shared s := by
  have hlist : p ≠ .userListPassword := by
    rcases hp with rfl | rfl <;> decide
  have hprompt : p ≠ .userPromptPassword := by
    rcases hp with rfl | rfl <;> decide
  have hshow : .showPassword ≠ p := by
    rcases hp with rfl | rfl <;> decide
  cases e with
  | userNameEdited screen text => exact Bool.noConfusion hkeeps
  | indexChanged screen index userSelected => exact Bool.noConfusion hkeeps
  | sessionChanged screen index => exact Bool.noConfusion hkeeps
  | loginStateClicked screen => exact Bool.noConfusion hkeeps
  | screenAdded => exact absurd rfl hadded
  | passwordEdited screen text =>
      refine ((setPassword_touches (currentForm_isSome he) text).others p
        ?_).shared
      rw [passwordProperty]
      split
      · exact hlist.symm
      · exact hprompt.symm
  | showPasswordToggled screen shown =>
      exact ((setShowPassword_touches (currentForm_isSome he) shown).others p
        hshow).shared
  | activated screen =>
      rw [step]
      split
      · rfl
      · cases p <;> rfl
  | escapeKeyPressed screen =>
      rw [step]
      split
      · rfl
      · rw [(clearPasswords_same hlist hprompt _).shared,
          timeoutWindow_shared]
  | timeout =>
      rw [step, onTriggered]
      split
      · rfl
      · rw [timeoutWindow_shared]
        exact ((touches_assignShared .showPassword false s).others p
          hshow).shared
  | socketDisconnected => rfl
  | screenRemoved screen => cases p <;> rfl

theorem step_screens_eq_nil (he : s.Enabled e) (hadded : e ≠ .screenAdded)
    (hkeeps : e.keepsLogin = true) (h : s.screens = []) :
    (s.step e).screens = [] := by
  cases hchanges : changesScreens e with
  | false =>
      have hlength := (step_sameScreens he hchanges).length
      rw [h] at hlength
      exact List.length_eq_zero_iff.1 hlength
  | true =>
      cases e with
      | screenAdded => exact absurd rfl hadded
      | loginStateClicked screen => exact Bool.noConfusion hkeeps
      | screenRemoved screen =>
          rw [Enabled, h] at he
          exact absurd he (Nat.not_lt_zero _)
      | _ => exact Bool.noConfusion hchanges

theorem step_config (he : s.Enabled e) (hkeeps : e.keepsLogin = true) :
    (s.step e).config = s.config ∧ (s.step e).loginState = s.loginState := by
  cases hchanges : changesScreens e with
  | false =>
      have hsame := step_sameScreens he hchanges
      exact ⟨hsame.config, hsame.loginState⟩
  | true =>
      cases e with
      | screenAdded =>
          have hsame := s.createWindowForScreen_sameScreens
          exact ⟨hsame.config, hsame.loginState⟩
      | loginStateClicked screen => exact Bool.noConfusion hkeeps
      | screenRemoved screen => exact ⟨rfl, rfl⟩
      | _ => exact Bool.noConfusion hchanges

/-- A new prompt has the saved name, and every other one with it. -/
theorem KeptLogin.name_screenAdded (h : s.KeptLogin config)
    (hbeyond : config.beyondUserLimit = true) :
    s.createWindowForScreen.userPromptUsername = config.lastLoggedInUser := by
  rw [← h.config_eq] at hbeyond ⊢
  refine createWindowForScreen_username hbeyond fun hlast => ?_
  rw [h.config_eq] at hbeyond hlast
  rcases h.name hbeyond with hname | ⟨_, hname⟩
  · exact hname.trans hlast
  · exact hname

theorem KeptLogin.step (h : s.KeptLogin config) (he : s.Enabled e)
    (hkeeps : e.keepsLogin = true) : (s.step e).KeptLogin config := by
  obtain ⟨hconfig, hmode⟩ := step_config he hkeeps
  have hnamekept : s.NameKept e := by
    cases e with
    | screenAdded =>
        intro hbeyond hlast
        rw [h.config_eq] at hbeyond hlast
        rcases h.name hbeyond with hname | ⟨_, hname⟩
        · exact hname.trans hlast
        · exact hname
    | loginStateClicked screen => exact Bool.noConfusion hkeeps
    | _ => trivial
  have hconsistent : (s.step e).Consistent :=
    (h.consistent.forms.step he fun _ => h.mode).consistent fun p =>
      step_agrees he (h.consistent.agrees p) fun _ => hnamekept
  refine ⟨hconsistent, hmode.trans h.mode, hconfig.trans h.config_eq, ?_, ?_⟩
  · by_cases hadded : e = .screenAdded
    · subst hadded
      exact (createWindowForScreen_shared (p := .userListIndex)
        fun heq => nomatch heq).trans h.index
    · exact (step_shared_login he hkeeps hadded (Or.inl rfl)).trans h.index
  · intro hbeyond
    by_cases hadded : e = .screenAdded
    · subst hadded
      exact Or.inl (h.name_screenAdded hbeyond)
    · have hsame : (s.step e).userPromptUsername = s.userPromptUsername :=
        step_shared_login (p := .userPromptUsername) he hkeeps hadded
          (Or.inr rfl)
      rw [hsame]
      exact (h.name hbeyond).imp_right fun hnone =>
        ⟨step_screens_eq_nil he hadded hkeeps hnone.1, hnone.2⟩

theorem keptLogin_start (config : GreeterConfig) (n : Nat) :
    (start config n).KeptLogin config := by
  induction n with
  | zero =>
      exact ⟨start_consistent config 0, rfl, rfl, rfl,
        fun _ => Or.inr ⟨rfl, rfl⟩⟩
  | succ n ih =>
      exact ih.step (e := .screenAdded) trivial rfl

theorem KeptLogin.exec {es : List GreeterUiEvent} (h : s.KeptLogin config)
    (hes : greeterUi.Runs s es) (hkeeps : ∀ e ∈ es, e.keepsLogin = true) :
    (greeterUi.exec s es).KeptLogin config := by
  induction es generalizing s with
  | nil => exact h
  | cons e es ih =>
      obtain ⟨he, hrest⟩ := (greeterUi.guarded_cons _ s e es).1 hes
      rw [List.forall_mem_cons] at hkeeps
      exact ih (h.step he hkeeps.1) hrest hkeeps.2

/-- The user that an untouched form submits. -/
theorem KeptLogin.username (h : s.KeptLogin config) (users : List User)
    {screen : Nat} {sc : Screen} (hsc : s.screens[screen]? = some sc) :
    (if sc.currentItem.showUsernamePrompt then sc.currentItem.userName
      else UserModel.selectedUser users sc.currentItem.currentIndex) =
      if config.beyondUserLimit then config.lastLoggedInUser
      else UserModel.selectedUser users config.userListIndex := by
  have hmem := List.mem_of_getElem? hsc
  have hshows := h.consistent.shows _ (List.mem_map_of_mem hmem)
  rw [h.mode, h.config_eq] at hshows
  have hnone : sc.prompt = none :=
    Option.map_eq_none_iff.1 (congrArg Prod.snd hshows)
  have hlist : sc.list.shows = config.userList.shows :=
    congrArg Prod.fst hshows
  have hcurrent : sc.currentItem = sc.list := by
    rw [Screen.currentItem, hnone, Option.getD_none]
  have hprompt : sc.list.showUsernamePrompt = config.beyondUserLimit :=
    congrArg Prod.snd hlist
  have hisList : sc.list.isUserList = !config.beyondUserLimit := by
    rw [Login.isUserList_congr hlist, Login.isUserList]
    simp [GreeterConfig.userList]
  have hshared := (h.consistent.showsState sc hmem).2.1
  rw [hcurrent, hisList] at hshared
  rw [hcurrent, hprompt]
  cases hbeyond : config.beyondUserLimit with
  | true =>
      rw [hbeyond] at hshared
      have hname : s.userPromptUsername = config.lastLoggedInUser :=
        (h.name hbeyond).resolve_right fun hnil => by
          rw [hnil.1] at hmem
          exact absurd hmem List.not_mem_nil
      exact hshared.1.trans hname
  | false =>
      rw [hbeyond] at hshared
      have hindex : sc.list.currentIndex = config.userListIndex :=
        hshared.1.trans h.index
      rw [hindex]
      rfl

end GreeterUi

open FirstMatch

theorem UserModel.indexOfData_name (users : List User) (name : QString) :
    UserModel.indexOfData users (.text name) .name =
      if name = [] then -1 else firstRow (fun u => u.name = name) users := by
  have hdata : ∀ i : Nat, decide (UserModel.data users i .name = .text name) =
      (users[i]?).any fun u => u.name = name := by
    intro i
    have hrow : ¬ (i : Int) < 0 := by omega
    cases hget : users[i]? with
    | none => simp [UserModel.data, hrow, hget]
    | some u => simp [UserModel.data, hrow, hget]
  have hnull : (UserModel.Value.text name).isNull = false := rfl
  rw [UserModel.indexOfData, hnull, Bool.false_or]
  simp only [hdata, find?_range_eq, UserModel.Value.toString,
    List.isEmpty_iff]
  split
  · rfl
  · rfl

theorem indexOfData_fileName (texts : LabelTexts)
    (sessions : List ModelSession) (name : QString) :
    indexOfData texts sessions (.text name) .fileName =
      if name = [] then -1
      else firstRow (fun s => s.fileName = name) sessions := by
  have hdata : ∀ i : Nat,
      decide (data texts sessions i .fileName = .text name) =
        (sessions[i]?).any fun s => s.fileName = name := by
    intro i
    have hrow : ¬ (i : Int) < 0 := by omega
    cases hget : sessions[i]? with
    | none => simp [data, hrow, hget]
    | some s => simp [data, hrow, hget]
  have hnull : (Value.text name).isNull = false := rfl
  rw [indexOfData, hnull, Bool.false_or]
  simp only [hdata, find?_range_eq, Value.toString, List.isEmpty_iff]
  split
  · rfl
  · rfl

/-- The row that the greeter starts with: that of the preselected key, that of
the saved one or the first one. -/
def startRow {A : Type} (key : A → QString) (rows : List A)
    (preselected saved : QString) : Int :=
  let rowOf (name : QString) : Int :=
    if name = [] then -1 else firstRow (fun a => key a = name) rows
  if rowOf preselected ≠ -1 then rowOf preselected
  else if rowOf saved ≠ -1 then rowOf saved
  else 0

theorem userListIndex_found (texts : LabelTexts) (users : List User)
    (sessions : List ModelSession) (preselected : Preselected)
    (saved : LastLogin) :
    (GreeterConfig.found texts users sessions preselected
      saved).userListIndex =
      startRow User.name users preselected.user saved.user := by
  simp only [GreeterConfig.userListIndex, GreeterConfig.found,
    UserModel.indexOfData_name]
  rfl

theorem start_sessionIndex (texts : LabelTexts) (sessions : List ModelSession)
    (preselected saved : QString) :
    (GreeterSessions.start texts sessions preselected saved).sessionIndex =
      startRow ModelSession.fileName sessions preselected saved := by
  simp only [GreeterSessions.start, indexOfData_fileName]
  rfl

section rows

variable {A : Type} {key : A → QString} {rows : List A}
  {preselected saved : QString}

theorem startRow_eq (hpre : ∀ a ∈ rows, key a ≠ preselected) :
    startRow key rows preselected saved =
      if saved ≠ [] ∧ ∃ a ∈ rows, key a = saved then
        firstRow (fun a => key a = saved) rows
      else 0 := by
  have hnone : firstRow (fun a => key a = preselected) rows = -1 :=
    firstRow_of_none fun a ha => decide_eq_false (hpre a ha)
  by_cases hsaved : saved = []
  · simp [startRow, hnone, hsaved]
  · by_cases hmem : ∃ a ∈ rows, key a = saved
    · obtain ⟨a, ha, hkey⟩ := hmem
      have hrow := firstRow_of_mem (p := fun a => key a = saved) ha
        (decide_eq_true hkey)
      have hne : firstRow (fun a => key a = saved) rows ≠ -1 := by
        rw [hrow]
        omega
      have hexists : ∃ a ∈ rows, key a = saved := ⟨a, ha, hkey⟩
      rw [if_pos ⟨hsaved, hexists⟩]
      simp [startRow, hnone, hsaved, hne]
    · have hnot : firstRow (fun a => key a = saved) rows = -1 :=
        firstRow_of_none fun a ha => decide_eq_false fun hkey =>
          hmem ⟨a, ha, hkey⟩
      rw [if_neg fun h => hmem h.2]
      simp [startRow, hnone, hsaved, hnot]

/-- What stands in the row that the greeter starts with. -/
theorem getElem?_startRow (saved : QString)
    (hpre : ∀ a ∈ rows, key a ≠ preselected) :
    0 ≤ startRow key rows preselected saved ∧
      rows[(startRow key rows preselected saved).toNat]? =
        if saved ≠ [] ∧ ∃ a ∈ rows, key a = saved then
          rows.find? fun a => key a = saved
        else rows.head? := by
  rw [startRow_eq hpre]
  split
  next h =>
    obtain ⟨_, a, ha, hkey⟩ := h
    have hrow := firstRow_of_mem (p := fun a => key a = saved) ha
      (decide_eq_true hkey)
    refine ⟨hrow ▸ Int.natCast_nonneg _, ?_⟩
    exact getElem?_firstRow ha (decide_eq_true hkey)
  · refine ⟨le_rfl, ?_⟩
    rw [Int.toNat_zero, List.head?_eq_getElem?]

end rows

/-- The user that is selected at first is the saved one if and only if he is
still listed. -/
theorem selectedUser_startRow_iff {users : List User}
    {preselected saved : QString} (hnames : ∀ u ∈ users, u.name ≠ [])
    (hpre : ∀ u ∈ users, u.name ≠ preselected) (husers : users ≠ []) :
    UserModel.selectedUser users
        (startRow User.name users preselected saved) = saved ↔
      ∃ u ∈ users, u.name = saved := by
  obtain ⟨hnonneg, hrow⟩ :=
    getElem?_startRow saved hpre
  have hselected : UserModel.selectedUser users
      (startRow User.name users preselected saved) =
        ((users[(startRow User.name users preselected saved).toNat]?).map
          User.name).getD [] := by
    rw [UserModel.selectedUser, UserModel.data, if_neg (by omega)]
    cases users[(startRow User.name users preselected saved).toNat]? <;> rfl
  rw [hselected, hrow]
  split
  next h =>
    obtain ⟨_, u, hu, hname⟩ := h
    refine iff_of_true ?_ ⟨u, hu, hname⟩
    cases hfind : users.find? fun u => u.name = saved with
    | none =>
        rw [List.find?_eq_none] at hfind
        exact absurd (decide_eq_true hname) (hfind u hu)
    | some found =>
        have hfound : found.name = saved := key_of_find? hfind
        exact hfound
  next h =>
    obtain ⟨first, rest, rfl⟩ := List.exists_cons_of_ne_nil husers
    have hnot : ¬ ∃ u ∈ first :: rest, u.name = saved := by
      rintro ⟨u, hu, hname⟩
      exact h ⟨hname ▸ hnames u hu, u, hu, hname⟩
    refine iff_of_false (fun heq => ?_) hnot
    exact hnot ⟨first, List.mem_cons_self, heq⟩

namespace SessionModel

variable {ν : Type} {inst : ListedInstallation ν}
  {localeAwareCompare : QString → QString → Ordering}
  {sessions : List ModelSession}

/-- No session of the other type with the same file name is in front. -/
def SortsFirst (localeAwareCompare : QString → QString → Ordering)
    (sessions : List ModelSession) (s : ModelSession) : Prop :=
  ∀ t ∈ sessions, t.fileName = s.fileName → t.type ≠ s.type →
    localeAwareCompare s.displayName t.displayName = .lt ∨
      localeAwareCompare s.displayName t.displayName = .eq ∧
        s.type = .wayland

theorem Populates.fileName_ne_nil
    (h : Populates localeAwareCompare inst sessions) :
    ∀ s ∈ sessions, s.fileName ≠ [] := fun _ hs =>
  (listable_of_mem (h.mem_iff.1 hs)).isFileName.1

/-- The first session with a file name is not sorted behind another one. -/
theorem Populates.not_sortsBefore_find?
    (h : Populates localeAwareCompare inst sessions) {name : QString}
    {first t : ModelSession}
    (hfirst : sessions.find? (fun s => s.fileName = name) = some first)
    (ht : t ∈ sessions) (hname : t.fileName = name) (hne : t ≠ first) :
    ModelSession.sortsBefore localeAwareCompare t first = false := by
  obtain ⟨_, before, after, heq, hbefore⟩ :=
    List.find?_eq_some_iff_append.1 hfirst
  have hsorted := h.2
  rw [heq, List.pairwise_append] at hsorted
  rw [heq, List.mem_append, List.mem_cons] at ht
  rcases ht with ht | rfl | ht
  · exact absurd hname (by simpa using hbefore t ht)
  · exact absurd rfl hne
  · exact (List.pairwise_cons.1 hsorted.2.1).1 t ht

theorem Populates.sortsFirst_find? [Std.OrientedCmp localeAwareCompare]
    (h : Populates localeAwareCompare inst sessions) {name : QString}
    {first : ModelSession}
    (hfirst : sessions.find? (fun s => s.fileName = name) = some first) :
    SortsFirst localeAwareCompare sessions first := by
  intro t ht hname hkind
  have hfirstName : first.fileName = name := key_of_find? hfirst
  have hsorted := h.not_sortsBefore_find? hfirst ht (hname.trans hfirstName)
    fun heq => hkind (heq ▸ rfl)
  rw [← Bool.not_eq_true, sortsBefore_iff_of_fileName_eq hname] at hsorted
  cases horder : localeAwareCompare t.displayName first.displayName with
  | lt => exact absurd (Or.inl horder) hsorted
  | gt => exact Or.inl (Std.OrientedCmp.lt_of_gt horder)
  | eq =>
      refine Or.inr ⟨Std.OrientedCmp.eq_symm horder, ?_⟩
      by_contra hwayland
      refine hsorted (Or.inr ⟨horder, ?_, hwayland⟩)
      cases htype : t.type with
      | wayland => rfl
      | x11 =>
          cases hother : first.type with
          | wayland => exact absurd hother hwayland
          | x11 => exact absurd (htype.trans hother.symm) hkind

/-- Of two sessions with one file name at most one sorts first. -/
theorem Populates.type_eq_of_sortsFirst
    (h : Populates localeAwareCompare inst sessions) {first s : ModelSession}
    (hfirst : sessions.find? (fun t => t.fileName = s.fileName) = some first)
    (hs : s ∈ sessions)
    (hsorts : SortsFirst localeAwareCompare sessions s) :
    first.type = s.type := by
  by_contra hkind
  have hname : first.fileName = s.fileName := key_of_find? hfirst
  have hbehind := h.not_sortsBefore_find? hfirst hs rfl
    fun heq => hkind (heq ▸ rfl)
  rw [← Bool.not_eq_true, sortsBefore_iff_of_fileName_eq hname.symm]
    at hbehind
  refine hbehind ((hsorts first (List.mem_of_find?_eq_some hfirst) hname
    hkind).imp_right fun horder => ⟨horder.1, horder.2, ?_⟩)
  exact fun hwayland => hkind (hwayland.trans horder.2.symm)

end SessionModel

/-- The session of a login is listed, and its file name leads to it; or there
was none to choose and there is none now. -/
def SessionRemembered (localeAwareCompare : QString → QString → Ordering)
    (sessions : List ModelSession) (login : LoginRequest) : Prop :=
  (sessions = [] ∧ login.sessionType = 0 ∧ login.sessionFileName = []) ∨
    ∃ s ∈ sessions, (s.type.number.toNat : Int) = login.sessionType ∧
      s.fileName = login.sessionFileName ∧
        SortsFirst localeAwareCompare sessions s

/-- The greeter asks for the name of the user, or lists the one who has logged
in. -/
def UserRemembered (loginDefs : Option QString) (db : AccountDatabase)
    (login : LoginRequest) : Prop :=
  ((UserModel.populate (getUids loginDefs) db).length = 0 ∨
      7 < (UserModel.populate (getUids loginDefs) db).length) ∨
    ∃ a ∈ db.accounts, a.Offered loginDefs db ∧ a.loginName = login.username

section sessions

variable {ν : Type} {inst : ListedInstallation ν}
  {localeAwareCompare : QString → QString → Ordering}
  {sessions : List ModelSession} {texts : LabelTexts}
  {preselected saved : QString}

/-- What a button of the starting greeter submits. -/
theorem newButton_start :
    ((GreeterSessions.start texts sessions preselected saved).newButton
      texts).current =
      ((GreeterSessions.start texts sessions preselected
        saved).selected.map ModelSession.submitted).getD {} := by
  cases hselected : (GreeterSessions.start texts sessions preselected
      saved).selected with
  | some s => exact SessionButton.evaluate_of_sessionAt hselected
  | none => exact SessionButton.evaluate_of_none hselected

theorem selected_start (hpre : ∀ s ∈ sessions, s.fileName ≠ preselected) :
    (GreeterSessions.start texts sessions preselected saved).selected =
      if saved ≠ [] ∧ ∃ s ∈ sessions, s.fileName = saved then
        sessions.find? fun s => s.fileName = saved
      else sessions.head? := by
  obtain ⟨hnonneg, hrow⟩ :=
    getElem?_startRow saved hpre
  rw [GreeterSessions.selected, start_sessionIndex, sessionAt,
    if_neg (by omega)]
  exact hrow

/-- The session of a login is submitted again if and only if it is
remembered. -/
theorem newButton_start_iff [Std.OrientedCmp localeAwareCompare]
    (h : Populates localeAwareCompare inst sessions)
    (hpre : ∀ s ∈ sessions, s.fileName ≠ preselected) {login : LoginRequest}
    {c : SubmittedSession} (hc : c = ((GreeterSessions.start texts sessions
      preselected login.sessionFileName).newButton texts).current) :
    ((c.type.toNat : Int) = login.sessionType ∧
        c.fileName = login.sessionFileName) ↔
      SessionRemembered localeAwareCompare sessions login := by
  have hnames := h.fileName_ne_nil
  rw [newButton_start, selected_start hpre] at hc
  rw [hc]
  split
  next hmem =>
    obtain ⟨hsaved, s, hs, hname⟩ := hmem
    cases hfirst :
        sessions.find? (fun s => s.fileName = login.sessionFileName) with
    | none =>
        rw [List.find?_eq_none] at hfirst
        exact absurd (decide_eq_true hname) (hfirst s hs)
    | some first =>
        have hfirstMem := List.mem_of_find?_eq_some hfirst
        have hfirstName : first.fileName = login.sessionFileName :=
          key_of_find? hfirst
        constructor
        · rintro ⟨htype, _⟩
          exact Or.inr ⟨first, hfirstMem, htype, hfirstName,
            h.sortsFirst_find? hfirst⟩
        · rintro (⟨hnil, _⟩ | ⟨s', hs', htype, hname', hsorts⟩)
          · rw [hnil] at hfirstMem
            exact absurd hfirstMem List.not_mem_nil
          · rw [← hname'] at hfirst
            have hkind := h.type_eq_of_sortsFirst hfirst hs' hsorts
            refine ⟨?_, hfirstName⟩
            rw [Option.map_some, Option.getD_some, ModelSession.submitted,
              hkind]
            exact htype
  next hmem =>
    have hnot : ∀ s ∈ sessions, s.fileName ≠ login.sessionFileName :=
      fun s hs hname => hmem ⟨hname ▸ hnames s hs, s, hs, hname⟩
    have hright : SessionRemembered localeAwareCompare sessions login ↔
        sessions = [] ∧ login.sessionType = 0 ∧
          login.sessionFileName = [] := by
      refine or_iff_left ?_
      rintro ⟨s, hs, _, hname, _⟩
      exact hnot s hs hname
    rw [hright]
    cases hsessions : sessions with
    | nil =>
        simp only [List.head?_nil, Option.map_none, Option.getD_none,
          true_and]
        exact and_congr eq_comm eq_comm
    | cons first rest =>
        have hfirst := hnot first (hsessions ▸ List.mem_cons_self)
        exact iff_of_false (fun heq => hfirst heq.2) (by simp)

/-- The buttons of screens that come and go are all alike. -/
theorem buttons_of_screens {g : GreeterSessions} {b : SessionButton}
    (h : ∀ b ∈ g.buttons, b = g.newButton texts) {es : List ChoiceEvent}
    (hes : ∀ e ∈ es, e = .screenAdded ∨ ∃ screen, e = .screenRemoved screen)
    (hb : b ∈ ((choiceMachine texts).exec g es).buttons) :
    b = g.newButton texts := by
  induction es generalizing g with
  | nil => exact h b hb
  | cons e es ih =>
      rw [List.forall_mem_cons] at hes
      rcases hes.1 with rfl | ⟨screen, rfl⟩
      · refine ih (g := { g with buttons := g.buttons ++ [g.newButton texts] })
          (fun b hb => ?_) hes.2 hb
        rcases List.mem_append.1 hb with hb | hb
        · exact h b hb
        · exact List.mem_singleton.1 hb
      · exact ih (g := { g with buttons := g.buttons.eraseIdx screen })
          (fun b hb => h b (List.mem_of_mem_eraseIdx hb)) hes.2 hb

/-- Every button of a greeter whose sessions are left alone submits the
session that was selected first. -/
theorem eq_newButton_of_mem_returningButtons {preselected : Preselected}
    {saved : LastLogin} {screens : Nat} {es : List GreeterUiEvent}
    {b : SessionButton}
    (hb : b ∈ returningButtons texts sessions preselected saved screens es) :
    b = (GreeterSessions.start texts sessions preselected.session
      saved.session).newButton texts := by
  refine buttons_of_screens (fun b hb => absurd hb List.not_mem_nil) ?_ hb
  intro e he
  rcases List.mem_append.1 he with he | he
  · exact Or.inl (List.eq_of_mem_replicate he)
  · obtain ⟨event, _, hevent⟩ := List.mem_filterMap.1 he
    cases event with
    | screenAdded => exact Or.inl (Option.some.inj hevent).symm
    | screenRemoved screen =>
        exact Or.inr ⟨screen, (Option.some.inj hevent).symm⟩
    | _ => exact absurd hevent (by simp [GreeterUiEvent.choiceEvent])

end sessions

theorem beyondUserLimit_iff {config : GreeterConfig} :
    config.beyondUserLimit = true ↔
      config.rowCount = 0 ∨ 7 < config.rowCount := by
  rw [GreeterConfig.beyondUserLimit, Bool.or_eq_true, beq_iff_eq,
    decide_eq_true_eq]

/-- The user that a form submits at first. -/
def GreeterConfig.firstUser (config : GreeterConfig) (users : List User) :
    QString :=
  if config.beyondUserLimit then config.lastLoggedInUser
  else UserModel.selectedUser users config.userListIndex

/-- The user of a login is submitted again if and only if he is
remembered. -/
theorem firstUser_found_iff (texts : LabelTexts)
    (sessions : List ModelSession) {loginDefs : Option QString}
    {db : AccountDatabase} {preselected : Preselected} {saved : LastLogin}
    {login : LoginRequest} (hnames : ∀ a ∈ db.accounts, a.loginName ≠ [])
    (hpre : ∀ a ∈ db.accounts, a.loginName ≠ preselected.user)
    (hsaved : saved.user = login.username) :
    (GreeterConfig.found texts (UserModel.populate (getUids loginDefs) db)
        sessions preselected saved).firstUser
          (UserModel.populate (getUids loginDefs) db) = login.username ↔
      UserRemembered loginDefs db login := by
  have hlisted : ∀ u ∈ UserModel.populate (getUids loginDefs) db,
      ∃ a ∈ db.accounts, a.loginName = u.name := by
    intro u hu
    obtain ⟨a, ha, _, hname⟩ :=
      UserModel.mem_names_populate_iff.1 (List.mem_map_of_mem hu)
    exact ⟨a, ha, hname⟩
  have hmem : (∃ u ∈ UserModel.populate (getUids loginDefs) db,
      u.name = login.username) ↔ ∃ a ∈ db.accounts, a.Offered loginDefs db ∧
        a.loginName = login.username := by
    rw [← UserModel.mem_names_populate_iff, List.mem_map]
  rw [GreeterConfig.firstUser, userListIndex_found, UserRemembered, ← hmem,
    ← hsaved]
  split
  next hbeyond => exact iff_of_true rfl (Or.inl (beyondUserLimit_iff.1 hbeyond))
  next hbeyond =>
    have hfew : ¬ ((UserModel.populate (getUids loginDefs) db).length = 0 ∨
        7 < (UserModel.populate (getUids loginDefs) db).length) :=
      fun h => hbeyond (beyondUserLimit_iff.2 h)
    rw [or_iff_right hfew]
    refine selectedUser_startRow_iff (fun u hu => ?_) (fun u hu => ?_) ?_
    · obtain ⟨a, ha, hname⟩ := hlisted u hu
      exact hname ▸ hnames a ha
    · obtain ⟨a, ha, hname⟩ := hlisted u hu
      exact hname ▸ hpre a ha
    · exact fun hnil => hfew (Or.inl (List.length_eq_zero_iff.2 hnil))

open GreeterUi LoginFront in
/-- Somebody who comes back and types only the password submits the login that
has succeeded last, of a greeter whose screens take turns, if and only if the
user and the session are remembered. -/
theorem returning_login_iff {ν : Type} {inst : ListedInstallation ν}
    {localeAwareCompare : QString → QString → Ordering}
    [Std.OrientedCmp localeAwareCompare] {sessions : List ModelSession}
    (hsessions : Populates localeAwareCompare inst sessions)
    (texts : LabelTexts) (loginDefs : Option QString) {db : AccountDatabase}
    (hnames : ∀ a ∈ db.accounts, a.loginName ≠ []) {preselected : Preselected}
    (huser : ∀ a ∈ db.accounts, a.loginName ≠ preselected.user)
    (hsession : ∀ s ∈ sessions, s.fileName ≠ preselected.session)
    {n : Nat} {saved : LastLogin} {es : List LoginFrontEvent}
    (hes : loginFront.Runs (.start n saved) es)
    (hturns : loginFront.Guarded TakesTurns (.start n saved) es)
    {login : LoginRequest}
    (hlogin : lastGranted (.start n saved) es = some login)
    {users : List User}
    (husers : users = UserModel.populate (getUids loginDefs) db)
    {config : GreeterConfig} (hconfig : config = .found texts users sessions
      preselected (loginFront.exec (.start n saved) es).saved)
    {screens : Nat} {fs : List GreeterUiEvent}
    (hfs : greeterUi.Runs (.start config screens) fs)
    (hkeeps : ∀ e ∈ fs, e.keepsLogin = true) {screen : Nat}
    {request : LoginRequest}
    (hrequest : startLogin users (returningUi config screens fs)
      (returningButtons texts sessions preselected
        (loginFront.exec (.start n saved) es).saved screens fs) screen =
          some request) :
    (request.username = login.username ∧
        request.sessionType = login.sessionType ∧
          request.sessionFileName = login.sessionFileName) ↔
      UserRemembered loginDefs db login ∧
        SessionRemembered localeAwareCompare sessions login := by
  have hone := (turns_start n saved).steps hes hturns
  have hsaved : (loginFront.exec (.start n saved) es).saved =
      login.lastLogin := by
    rw [saved_exec fun st hst => (hone st hst).1, hlogin]
    rfl
  have hkept := (keptLogin_start config screens).exec hfs hkeeps
  unfold startLogin at hrequest
  split at hrequest
  next sc button hsc hbutton =>
    have hcurrent := congrArg SessionButton.current
      (eq_newButton_of_mem_returningButtons (List.mem_of_getElem? hbutton))
    rw [hsaved] at hcurrent
    rw [← newButton_start_iff hsessions hsession hcurrent,
      ← firstUser_found_iff texts sessions hnames huser
        (congrArg LastLogin.user hsaved), ← husers, ← hconfig,
      ← Option.some.inj hrequest]
    have hname := hkept.username users hsc
    exact and_congr_left fun _ => by rw [hname]; rfl
  · exact absurd hrequest (by simp)

def aliceAccount : Account where
  loginName := "alice"
  shell := "/bin/bash"
  userId := 1000
  groupId := 1000
  password := [120]

def aliceUsers : List User := [aliceAccount.toUser [120]]

/-- The greeter that comes up after Alice. -/
def afterAlice : GreeterConfig :=
  .found .plain aliceUsers (populate compare .plasma) {}
    (loginFront.exec (.start 2 {}) LoginFront.bobThenAlice).saved

open LoginFront in
/-- The later greeter submits what she submitted, so she is remembered. -/
theorem returning_login_iff_alice :
    UserRemembered none ⟨[aliceAccount], fun _ => false⟩ aliceRequest ∧
      SessionRemembered compare (populate compare .plasma) aliceRequest :=
  (@returning_login_iff _ .plasma compare inferInstance _ populates_populate
    .plain none ⟨[aliceAccount], fun _ => false⟩ (by decide) {} (by decide)
    (by decide) 2 {} bobThenAlice (by decide) (by decide) _ (by decide)
    aliceUsers (by decide) afterAlice rfl 1 [.passwordEdited 0 "secret"]
    (by decide) (by decide) 0 ⟨"alice", "secret", 1, "plasma.desktop"⟩
    (by decide)).1 ⟨rfl, rfl, rfl⟩

end PlasmaLogin

/-
Windows that are created and forms that are pushed and popped.
-/
import PlasmaLogin.FormSync

namespace PlasmaLogin

open TwoWay

namespace GreeterUi

/-- The next screen, before its form is complete. -/
def newScreen (s : GreeterUi) : Screen where
  window := s.created
  list := s.config.userList

def withScreen (s : GreeterUi) : GreeterUi :=
  { s with created := s.created + 1, screens := s.screens ++ [s.newScreen] }

/-- The form of the next screen. -/
def newForm (s : GreeterUi) : FormId := ⟨s.screens.length, false⟩

theorem createWindowForScreen_eq (s : GreeterUi) :
    s.createWindowForScreen = s.withScreen.onCompleted s.newForm := rfl

theorem shared_withScreen (p : SyncedProperty) (s : GreeterUi) :
    (sync p).shared s.withScreen = (sync p).shared s := by
  cases p <;> rfl

theorem form_newForm (s : GreeterUi) :
    s.withScreen.form s.newForm = some s.config.userList := by
  simp [form, withScreen, newForm, newScreen, Screen.form]

theorem isUserList_newForm (s : GreeterUi) :
    s.withScreen.isUserList s.newForm = !s.config.beyondUserLimit := by
  rw [isUserList_of_form s.form_newForm]
  exact Bool.and_self _

theorem form_withScreen {s : GreeterUi} {f : FormId} {l : Login}
    (hne : f ≠ s.newForm) (h : s.withScreen.form f = some l) :
    s.form f = some l := by
  obtain ⟨i, b⟩ := f
  simp only [form, withScreen] at h ⊢
  rcases Nat.lt_trichotomy i s.screens.length with hlt | rfl | hgt
  · rwa [List.getElem?_append_left hlt] at h
  · cases b with
    | false => exact absurd rfl hne
    | true => simp [Screen.form, newScreen] at h
  · have hlength : (s.screens ++ [s.newScreen]).length ≤ i := by
      rw [List.length_append]
      exact hgt
    rw [List.getElem?_eq_none hlength] at h
    cases h

theorem createWindowForScreen_sameScreens (s : GreeterUi) :
    SameScreens s.withScreen s.createWindowForScreen :=
  onCompleted_sameScreens (Option.isSome_of_mem s.form_newForm)

theorem createWindowForScreen_shared {p : SyncedProperty} {s : GreeterUi}
    (hp : p = .userPromptUsername → s.config.beyondUserLimit = false) :
    (sync p).shared s.createWindowForScreen = (sync p).shared s := by
  rw [createWindowForScreen_eq,
    onCompleted_shared (Option.isSome_of_mem s.form_newForm),
    shared_withScreen]
  intro h
  rw [isUserList_newForm, hp h, Bool.not_false]

/-- The name in the new form is empty: a saved one makes a difference to
it. -/
theorem createWindowForScreen_agrees {p : SyncedProperty} {s : GreeterUi}
    (h : (sync p).Agrees s)
    (hp : p = .userPromptUsername → s.config.beyondUserLimit = true →
      s.config.lastLoggedInUser = [] → s.userPromptUsername = []) :
    (sync p).Agrees s.createWindowForScreen := by
  rw [createWindowForScreen_eq]
  apply onCompleted_agrees
  · exact Option.isSome_of_mem s.form_newForm
  · exact agreesBut_of_forms h (shared_withScreen p s)
      fun g l => form_withScreen
  · intro heq hlist hfield
    have hbeyond : s.config.beyondUserLimit = true := by
      rw [← Bool.not_eq_false', ← isUserList_newForm]
      exact hlist
    have hlast : s.config.lastLoggedInUser = [] :=
      hfield.symm.trans (field_of_form .userPromptUsername s.form_newForm)
    exact (hp heq hbeyond hlast).trans hlast.symm

/-- Without a saved user name the name stays what it is. -/
theorem createWindowForScreen_same {s : GreeterUi}
    (hbeyond : s.config.beyondUserLimit = true)
    (hlast : s.config.lastLoggedInUser = []) :
    (sync .userPromptUsername).Same s.withScreen s.createWindowForScreen := by
  rw [createWindowForScreen_eq]
  apply onCompleted_same (Option.isSome_of_mem s.form_newForm)
  · rw [isUserList_newForm, hbeyond, Bool.not_true]
  · rw [field_of_form .userPromptUsername s.form_newForm]
    exact hlast.symm

/-- The state with a prompt on a screen, before it is complete. -/
def withPrompt (screen : Nat) (s : GreeterUi) : GreeterUi :=
  { s with
      screens := s.screens.modify screen fun sc =>
        { sc with prompt := some .userPrompt } }

theorem push_eq (screen : Nat) (s : GreeterUi) :
    s.push screen = (s.withPrompt screen).onCompleted ⟨screen, true⟩ := rfl

theorem form_prompt {s : GreeterUi} {screen : Nat} {sc : Screen}
    (h : s.screens[screen]? = some sc) :
    (s.withPrompt screen).form ⟨screen, true⟩ = some .userPrompt := by
  simp [form, withPrompt, h, Screen.form]

theorem isUserList_prompt {s : GreeterUi} {screen : Nat} {sc : Screen}
    (h : s.screens[screen]? = some sc) :
    (s.withPrompt screen).isUserList ⟨screen, true⟩ = false := by
  rw [isUserList_of_form (form_prompt h)]
  rfl

theorem form_withPrompt {s : GreeterUi} {screen : Nat} {f : FormId}
    (hne : f ≠ ⟨screen, true⟩) : (s.withPrompt screen).form f = s.form f := by
  obtain ⟨i, b⟩ := f
  simp only [form, withPrompt, List.getElem?_modify]
  by_cases hi : screen = i
  · subst hi
    cases b with
    | true => exact absurd rfl hne
    | false => cases s.screens[screen]? <;> simp [Screen.form]
  · simp [hi]

theorem shared_withPrompt (p : SyncedProperty) (screen : Nat)
    (s : GreeterUi) :
    (sync p).shared (s.withPrompt screen) = (sync p).shared s := by
  cases p <;> rfl

theorem push_sameScreens {s : GreeterUi} {screen : Nat} {sc : Screen}
    (h : s.screens[screen]? = some sc) :
    SameScreens (s.withPrompt screen) (s.push screen) :=
  onCompleted_sameScreens (Option.isSome_of_mem (form_prompt h))

theorem push_shared {p : SyncedProperty} {s : GreeterUi} {screen : Nat}
    {sc : Screen} (h : s.screens[screen]? = some sc)
    (hp : p ≠ .userPromptUsername) :
    (sync p).shared (s.push screen) = (sync p).shared s := by
  rw [push_eq, onCompleted_shared (Option.isSome_of_mem (form_prompt h)),
    shared_withPrompt]
  exact fun heq => absurd heq hp

theorem push_agrees {p : SyncedProperty} {s : GreeterUi} {screen : Nat}
    {sc : Screen} (h : s.screens[screen]? = some sc)
    (hagrees : (sync p).Agrees s)
    (hp : p = .userPromptUsername →
      s.config.lastLoggedInUser = [] → s.userPromptUsername = []) :
    (sync p).Agrees (s.push screen) := by
  rw [push_eq]
  apply onCompleted_agrees
  · exact Option.isSome_of_mem (form_prompt h)
  · apply agreesBut_of_forms hagrees (shared_withPrompt p screen s)
    intro g l hne hl
    rwa [form_withPrompt hne] at hl
  · intro heq _ hfield
    have hlast : s.config.lastLoggedInUser = [] :=
      hfield.symm.trans (field_of_form .userPromptUsername (form_prompt h))
    exact (hp heq hlast).trans hlast.symm

theorem push_same {s : GreeterUi} {screen : Nat} {sc : Screen}
    (h : s.screens[screen]? = some sc)
    (hlast : s.config.lastLoggedInUser = []) :
    (sync .userPromptUsername).Same (s.withPrompt screen) (s.push screen) := by
  apply onCompleted_same (Option.isSome_of_mem (form_prompt h))
    (isUserList_prompt h)
  rw [field_of_form .userPromptUsername (form_prompt h)]
  exact hlast.symm

theorem form_of_pop {s : GreeterUi} {screen : Nat} {f : FormId} {l : Login}
    (h : (s.pop screen).form f = some l) : ∃ g, s.form g = some l := by
  obtain ⟨i, b⟩ := f
  refine ⟨⟨i, b⟩, ?_⟩
  simp only [form, pop, List.getElem?_modify] at h ⊢
  by_cases hi : screen = i
  · subst hi
    cases hsc : s.screens[screen]? with
    | none => simp [hsc] at h
    | some sc =>
        cases b with
        | false => simpa [hsc, Screen.form] using h
        | true => simp [hsc, Screen.form] at h
  · simpa [hi] using h

theorem pop_agrees {p : SyncedProperty} {s : GreeterUi}
    (h : (sync p).Agrees s) (screen : Nat) :
    (sync p).Agrees (s.pop screen) :=
  agrees_of_forms h (by cases p <;> rfl) fun _ _ => form_of_pop

/-- What a screen shows in a mode. -/
def shownIn (mode : LoginState) (x : (Bool × Bool) × Option (Bool × Bool)) :
    (Bool × Bool) × Option (Bool × Bool) :=
  match mode with
  | .userList => (x.1, none)
  | .userPrompt => (x.1, some (x.2.getD Login.userPrompt.shows))

theorem onLoginStateChanged_eq_pop {s : GreeterUi} {screen : Nat}
    {sc : Screen} (hmode : s.loginState = .userList)
    (h : s.screens[screen]? = some sc) :
    s.onLoginStateChanged screen =
      if sc.prompt.isSome then s.pop screen else s := by
  simp only [onLoginStateChanged, hmode, h, Screen.depth]
  by_cases hsome : sc.prompt.isSome = true <;> simp [hsome]

theorem onLoginStateChanged_eq_push {s : GreeterUi} {screen : Nat}
    {sc : Screen} (hmode : s.loginState = .userPrompt)
    (h : s.screens[screen]? = some sc) :
    s.onLoginStateChanged screen =
      if sc.prompt.isSome then s else s.push screen := by
  simp only [onLoginStateChanged, hmode, h, Screen.depth]
  by_cases hsome : sc.prompt.isSome = true <;> simp [hsome]

theorem onLoginStateChanged_eq_self {s : GreeterUi} {screen : Nat}
    (h : s.screens[screen]? = none) : s.onLoginStateChanged screen = s := by
  simp only [onLoginStateChanged, h]

/-- A handler pops, pushes or does nothing. -/
theorem onLoginStateChanged_cases (s : GreeterUi) (screen : Nat) :
    s.onLoginStateChanged screen = s ∨
      s.onLoginStateChanged screen = s.pop screen ∨
      ∃ sc, s.screens[screen]? = some sc ∧ s.loginState = .userPrompt ∧
        s.onLoginStateChanged screen = s.push screen := by
  cases h : s.screens[screen]? with
  | none => exact Or.inl (onLoginStateChanged_eq_self h)
  | some sc =>
      cases hmode : s.loginState with
      | userList =>
          rw [onLoginStateChanged_eq_pop hmode h]
          split
          · exact Or.inr (Or.inl rfl)
          · exact Or.inl rfl
      | userPrompt =>
          rw [onLoginStateChanged_eq_push hmode h]
          split
          · exact Or.inl rfl
          · exact Or.inr (Or.inr ⟨sc, rfl, rfl, rfl⟩)

theorem onLoginStateChanged_mode (s : GreeterUi) (screen : Nat) :
    (s.onLoginStateChanged screen).config = s.config ∧
      (s.onLoginStateChanged screen).loginState = s.loginState := by
  rcases onLoginStateChanged_cases s screen with h | h | ⟨sc, hsc, _, h⟩
  · rw [h]
    exact ⟨rfl, rfl⟩
  · rw [h]
    exact ⟨rfl, rfl⟩
  · rw [h]
    exact ⟨(push_sameScreens hsc).config, (push_sameScreens hsc).loginState⟩

theorem onLoginStateChanged_shared {p : SyncedProperty}
    (hp : p ≠ .userPromptUsername) (s : GreeterUi) (screen : Nat) :
    (sync p).shared (s.onLoginStateChanged screen) = (sync p).shared s := by
  rcases onLoginStateChanged_cases s screen with h | h | ⟨sc, hsc, _, h⟩
  · rw [h]
  · rw [h]
    cases p <;> rfl
  · rw [h, push_shared hsc hp]

theorem onLoginStateChanged_agrees {p : SyncedProperty} {s : GreeterUi}
    (hagrees : (sync p).Agrees s)
    (hp : p = .userPromptUsername → s.loginState = .userPrompt →
      s.config.lastLoggedInUser = [] → s.userPromptUsername = [])
    (screen : Nat) : (sync p).Agrees (s.onLoginStateChanged screen) := by
  rcases onLoginStateChanged_cases s screen with h | h | ⟨sc, hsc, hmode, h⟩
  · rw [h]
    exact hagrees
  · rw [h]
    exact pop_agrees hagrees screen
  · rw [h]
    exact push_agrees hsc hagrees fun heq => hp heq hmode

theorem onLoginStateChanged_username {s : GreeterUi}
    (hlast : s.config.lastLoggedInUser = []) (screen : Nat) :
    (s.onLoginStateChanged screen).userPromptUsername =
      s.userPromptUsername := by
  rcases onLoginStateChanged_cases s screen with h | h | ⟨sc, hsc, _, h⟩
  · rw [h]
  · rw [h]
    rfl
  · rw [h]
    exact (push_same hsc hlast).shared

theorem pop_shows (screen : Nat) (s : GreeterUi) :
    (s.pop screen).screens.map Screen.shows =
      (s.screens.map Screen.shows).modify screen (shownIn .userList) :=
  map_modify_eq fun _ _ => rfl

theorem push_shows {s : GreeterUi} {screen : Nat} {sc : Screen}
    (h : s.screens[screen]? = some sc) (hnone : sc.prompt = none) :
    (s.push screen).screens.map Screen.shows =
      (s.screens.map Screen.shows).modify screen (shownIn .userPrompt) := by
  rw [(push_sameScreens h).shows]
  apply map_modify_eq
  intro sc' hsc'
  rw [h, Option.some.injEq] at hsc'
  subst hsc'
  simp only [Screen.shows, shownIn, hnone, Option.map_none, Option.map_some,
    Option.getD_none]

/-- A screen that is in the mode already shows the same. -/
theorem shownIn_shows {sc : Screen} {mode : LoginState}
    (h : sc.prompt.isSome = true ↔ mode = .userPrompt) :
    sc.shows = shownIn mode sc.shows := by
  cases mode with
  | userList =>
      have hnone : sc.prompt = none :=
        Option.not_isSome_iff_eq_none.1 fun hsome => nomatch h.1 hsome
      simp only [Screen.shows, shownIn, hnone, Option.map_none]
  | userPrompt =>
      obtain ⟨l, hl⟩ := Option.isSome_iff_exists.1 (h.2 rfl)
      simp only [Screen.shows, shownIn, hl, Option.map_some, Option.getD_some]

theorem onLoginStateChanged_shows (s : GreeterUi) (screen : Nat) :
    (s.onLoginStateChanged screen).screens.map Screen.shows =
      (s.screens.map Screen.shows).modify screen (shownIn s.loginState) := by
  cases h : s.screens[screen]? with
  | none =>
      rw [onLoginStateChanged_eq_self h]
      exact map_modify_of_fixed fun sc hsc => nomatch h.symm.trans hsc
  | some sc =>
      have hfixed : (sc.prompt.isSome = true ↔ s.loginState = .userPrompt) →
          s.screens.map Screen.shows =
            (s.screens.map Screen.shows).modify screen
              (shownIn s.loginState) := by
        intro hmode
        apply map_modify_of_fixed
        intro sc' hsc'
        rw [h, Option.some.injEq] at hsc'
        subst hsc'
        exact shownIn_shows hmode
      cases hmode : s.loginState with
      | userList =>
          rw [hmode] at hfixed
          rw [onLoginStateChanged_eq_pop hmode h]
          split
          next => exact s.pop_shows screen
          next hnone => exact hfixed (iff_of_false hnone (by decide))
      | userPrompt =>
          rw [hmode] at hfixed
          rw [onLoginStateChanged_eq_push hmode h]
          split
          next hsome => exact hfixed (iff_of_true hsome rfl)
          next hnone =>
            exact push_shows h (Option.not_isSome_iff_eq_none.1 hnone)

theorem getElem?_foldl_modify {α : Type} (change : α → α) (l : List α)
    (n j : Nat) :
    ((List.range n).foldl (fun l i => l.modify i change) l)[j]? =
      if j < n then l[j]?.map change else l[j]? := by
  induction n with
  | zero => rfl
  | succ n ih =>
      rw [List.range_succ, List.foldl_append, List.foldl_cons, List.foldl_nil,
        List.getElem?_modify, ih]
      rcases Nat.lt_trichotomy j n with hlt | rfl | hgt
      · have hne : n ≠ j := Nat.ne_of_gt hlt
        simp [hlt, hne, Nat.lt_succ_of_lt hlt]
      · simp
      · have hne : n ≠ j := Nat.ne_of_lt hgt
        have hnot : ¬ j < n + 1 := Nat.not_lt.2 hgt
        simp [Nat.not_lt.2 hgt.le, hne, hnot]

/-- A change made in every place, one after the other. -/
theorem foldl_modify_eq_map {α : Type} (change : α → α) (l : List α) :
    (List.range l.length).foldl (fun l i => l.modify i change) l =
      l.map change := by
  apply List.ext_getElem?
  intro j
  rw [getElem?_foldl_modify, List.getElem?_map]
  split
  · rfl
  next hlt =>
    rw [List.getElem?_eq_none (Nat.le_of_not_lt hlt), Option.map_none]

theorem foldl_onLoginStateChanged (l : List Nat) (s : GreeterUi) :
    let t := l.foldl onLoginStateChanged s
    t.config = s.config ∧ t.loginState = s.loginState ∧
      t.screens.map Screen.shows =
        l.foldl (fun x i => x.modify i (shownIn s.loginState))
          (s.screens.map Screen.shows) := by
  induction l generalizing s with
  | nil => exact ⟨rfl, rfl, rfl⟩
  | cons i l ih =>
      obtain ⟨hconfig, hmode⟩ := onLoginStateChanged_mode s i
      obtain ⟨hconfig', hmode', hshows⟩ := ih (s.onLoginStateChanged i)
      refine ⟨hconfig'.trans hconfig, hmode'.trans hmode, ?_⟩
      rw [List.foldl_cons, hshows, hmode, onLoginStateChanged_shows]
      rfl

theorem clearPasswords_touches (s : GreeterUi) :
    ∃ t, Touches .userListPassword s t ∧
      Touches .userPromptPassword t s.clearPasswords :=
  ⟨_, touches_assignShared _ _ s, touches_assignShared _ _ _⟩

theorem clearPasswords_sameScreens (s : GreeterUi) :
    SameScreens s s.clearPasswords := by
  obtain ⟨t, hlist, hprompt⟩ := s.clearPasswords_touches
  exact hlist.screens.trans hprompt.screens

theorem clearPasswords_same {p : SyncedProperty}
    (hlist : p ≠ .userListPassword) (hprompt : p ≠ .userPromptPassword)
    (s : GreeterUi) : (sync p).Same s s.clearPasswords := by
  obtain ⟨t, ht, hu⟩ := s.clearPasswords_touches
  exact (ht.others p hlist.symm).trans (hu.others p hprompt.symm)

theorem clearPasswords_agrees {p : SyncedProperty} {s : GreeterUi}
    (h : (sync p).Agrees s) : (sync p).Agrees s.clearPasswords := by
  have hlist := assignShared_agrees h .userListPassword []
  exact assignShared_agrees hlist .userPromptPassword []

/-- Both passwords are empty. -/
def Cleared (s : GreeterUi) : Prop :=
  s.userListPassword = [] ∧ s.userPromptPassword = []

theorem clearPasswords_cleared (s : GreeterUi) : s.clearPasswords.Cleared := by
  refine ⟨?_,
    Mirror.shared_assignShared (sync_lawful .userPromptPassword) [] _⟩
  have hprompt := (touches_assignShared .userPromptPassword []
    ((sync .userListPassword).assignShared [] s)).others .userListPassword
      (fun h => nomatch h)
  exact hprompt.shared.trans
    (Mirror.shared_assignShared (sync_lawful .userListPassword) [] s)

theorem Cleared.congr {s t : GreeterUi} (h : s.Cleared)
    (hshared : ∀ p, p ≠ .userPromptUsername →
      (sync p).shared t = (sync p).shared s) : t.Cleared :=
  ⟨(hshared .userListPassword fun h => nomatch h).trans h.1,
    (hshared .userPromptPassword fun h => nomatch h).trans h.2⟩

/-- The state in another mode, before any handler runs. -/
def withMode (mode : LoginState) (s : GreeterUi) : GreeterUi :=
  { s with loginState := mode }

theorem withMode_agrees {p : SyncedProperty} {s : GreeterUi}
    (h : (sync p).Agrees s) (mode : LoginState) :
    (sync p).Agrees (s.withMode mode) :=
  agrees_of_forms h (by cases p <;> rfl) fun f l hl => ⟨f, hl⟩

section setLoginState

variable {mode : LoginState} {s : GreeterUi}

theorem setLoginState_eq (h : s.loginState ≠ mode) :
    s.setLoginState mode =
      (List.range s.screens.length).foldl onLoginStateChanged
        (s.withMode mode).clearPasswords := if_neg h

/-- The rule for a change of mode: the passwords are cleared first, then every
screen follows. -/
theorem setLoginState_induct {I : GreeterUi → Prop} (h : s.loginState ≠ mode)
    (hclear : I (s.withMode mode).clearPasswords)
    (hstep : ∀ t i, I t → I (t.onLoginStateChanged i)) :
    I (s.setLoginState mode) := by
  rw [setLoginState_eq h]
  exact List.foldlRecOn _ _ hclear fun t ht i _ => hstep t i ht

theorem setLoginState_cleared (h : s.loginState ≠ mode) :
    (s.setLoginState mode).Cleared := by
  apply setLoginState_induct h
  · exact clearPasswords_cleared _
  · intro t i ht
    exact ht.congr fun p hp => onLoginStateChanged_shared hp t i

theorem setLoginState_agrees {p : SyncedProperty} (hagrees : (sync p).Agrees s)
    (hp : p = .userPromptUsername → mode = .userPrompt →
      s.config.lastLoggedInUser = [] → s.userPromptUsername = []) :
    (sync p).Agrees (s.setLoginState mode) := by
  by_cases h : s.loginState = mode
  · rw [setLoginState, if_pos h]
    exact hagrees
  · refine (setLoginState_induct (I := fun t => (sync p).Agrees t ∧
      (p = .userPromptUsername → t.loginState = .userPrompt →
        t.config.lastLoggedInUser = [] → t.userPromptUsername = []))
      h ?_ ?_).1
    · refine ⟨clearPasswords_agrees (withMode_agrees hagrees mode), ?_⟩
      intro heq hmode hlast
      have hclear := (s.withMode mode).clearPasswords_sameScreens
      rw [hclear.loginState] at hmode
      rw [hclear.config] at hlast
      have hsame : (sync .userPromptUsername).Same (s.withMode mode)
          (s.withMode mode).clearPasswords :=
        clearPasswords_same (by decide) (by decide) _
      exact hsame.shared.trans (hp heq hmode hlast)
    · rintro t i ⟨ht, hname⟩
      refine ⟨onLoginStateChanged_agrees ht hname i, fun heq hmode hlast => ?_⟩
      rw [(onLoginStateChanged_mode t i).2] at hmode
      rw [(onLoginStateChanged_mode t i).1] at hlast
      rw [onLoginStateChanged_username hlast, hname heq hmode hlast]

theorem setLoginState_shows (h : s.loginState ≠ mode) :
    (s.setLoginState mode).config = s.config ∧
      (s.setLoginState mode).loginState = mode ∧
      (s.setLoginState mode).screens.map Screen.shows =
        (s.screens.map Screen.shows).map (shownIn mode) := by
  have hclear := (s.withMode mode).clearPasswords_sameScreens
  have hfold := foldl_onLoginStateChanged (List.range s.screens.length)
    (s.withMode mode).clearPasswords
  rw [setLoginState_eq h]
  refine ⟨hfold.1.trans hclear.config, hfold.2.1.trans hclear.loginState, ?_⟩
  rw [hfold.2.2, hclear.shows, hclear.loginState]
  have hlength : s.screens.length = (s.screens.map Screen.shows).length :=
    (List.length_map _).symm
  rw [hlength]
  exact foldl_modify_eq_map _ _

end setLoginState

end GreeterUi

end PlasmaLogin

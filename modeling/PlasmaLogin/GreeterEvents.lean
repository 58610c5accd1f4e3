/-
What each event keeps of the agreement between the forms and the shared
state, in any mode and with any number of screens.
-/
import PlasmaLogin.LoginModes

namespace PlasmaLogin

open Mealy TwoWay

namespace GreeterUi

theorem form_currentForm {s : GreeterUi} {screen : Nat} {sc : Screen}
    (h : s.screens[screen]? = some sc) :
    s.form (s.currentForm screen) = some sc.currentItem := by
  rw [form, currentForm, h, Option.bind_some, Option.any_some]
  cases hprompt : sc.prompt with
  | none => rw [Screen.form, Screen.currentItem, hprompt]; rfl
  | some l => rw [Screen.form, Screen.currentItem, hprompt]; rfl

theorem currentForm_isSome {s : GreeterUi} {screen : Nat}
    (h : screen < s.screens.length) :
    (s.form (s.currentForm screen)).isSome := by
  rw [form_currentForm (List.getElem?_eq_getElem h)]
  rfl

section edits

variable {p : SyncedProperty} {f : FormId} {s : GreeterUi}

theorem setCurrentIndex_agrees (hf : (s.form f).isSome)
    (h : (sync p).Agrees s) (v : Int) :
    (sync p).Agrees (s.setCurrentIndex f v) := by
  apply (setCurrentIndex_touches hf v).agrees _ h
  rintro rfl hindex
  rw [setCurrentIndex]
  split
  next hlist =>
    exact hindex.assignField (sync_lawful _) (mem_fields_of_list hf hlist).1 v
  next hlist =>
    refine hindex.same (same_modifyForm ?_ fun l hl hguard => ?_)
    · exact fun _ => rfl
    · exact absurd hguard (isUserList_of_form hl ▸ hlist)

theorem setUserName_agrees (hf : (s.form f).isSome)
    (h : (sync p).Agrees s) (v : QString) :
    (sync p).Agrees (s.setUserName f v) := by
  apply (setUserName_touches hf v).agrees _ h
  rintro rfl hname
  rw [setUserName]
  split
  next hlist =>
    refine hname.same (same_modifyForm ?_ fun l hl hguard => ?_)
    · exact fun _ => rfl
    · rw [isUserList_of_form hl] at hlist
      simp [SyncedProperty.guard, hlist] at hguard
  next hlist =>
    rw [Bool.not_eq_true] at hlist
    have hmem := (mem_fields_of_prompt hf hlist).1
    exact hname.assignField (sync_lawful _) hmem v

theorem setPassword_agrees (hf : (s.form f).isSome)
    (h : (sync p).Agrees s) (v : QString) :
    (sync p).Agrees (s.setPassword f v) := by
  cases hlist : s.isUserList f with
  | true =>
      rw [setPassword_of_list hlist]
      exact assignField_agrees (mem_fields_of_list hf hlist).2 h v
  | false =>
      rw [setPassword_of_prompt hlist]
      exact assignField_agrees (mem_fields_of_prompt hf hlist).2 h v

theorem setShowPassword_agrees (hf : (s.form f).isSome)
    (h : (sync p).Agrees s) (v : Bool) :
    (sync p).Agrees (s.setShowPassword f v) :=
  assignField_agrees (mem_fields_showPassword hf) h v

theorem timeoutWindow_agrees (h : (sync p).Agrees s) (window : Nat) :
    (sync p).Agrees (s.timeoutWindow window) := by
  rw [timeoutWindow]
  split
  · exact agrees_of_forms h (by cases p <;> rfl) fun f l hl => ⟨f, hl⟩
  · exact h

theorem onTriggered_agrees (h : (sync p).Agrees s) :
    (sync p).Agrees s.onTriggered := by
  rw [onTriggered]
  split
  · exact h
  · exact timeoutWindow_agrees (assignShared_agrees h .showPassword false) _

theorem removeScreen_agrees (h : (sync p).Agrees s) (screen : Nat) :
    (sync p).Agrees (s.removeScreen screen) := by
  apply agrees_of_forms h
  · cases p <;> rfl
  · rintro ⟨i, b⟩ l hl
    simp only [form, removeScreen, List.getElem?_eraseIdx] at hl
    split at hl
    · exact ⟨⟨i, b⟩, hl⟩
    · exact ⟨⟨i + 1, b⟩, hl⟩

end edits

/-- A new prompt does not come up with another name than the shared one: there
is a saved name, or none is typed. -/
def NameKept (s : GreeterUi) : GreeterUiEvent → Prop
  | .screenAdded => s.config.beyondUserLimit = true →
      s.config.lastLoggedInUser = [] → s.userPromptUsername = []
  | .loginStateClicked _ => s.loginState = .userList →
      s.config.lastLoggedInUser = [] → s.userPromptUsername = []
  | _ => True

/-- The forms agree with the user name as long as it is kept, and with
everything else in any case. -/
theorem step_agrees {p : SyncedProperty} {s : GreeterUi} {e : GreeterUiEvent}
    (he : s.Enabled e) (h : (sync p).Agrees s)
    (hp : p = .userPromptUsername → s.NameKept e) :
    (sync p).Agrees (s.step e) := by
  cases e with
  | userNameEdited screen text =>
      obtain ⟨l, hl, _⟩ := (Option.any_eq_true ..).1 he
      exact setUserName_agrees (Option.isSome_of_mem hl) h text
  | passwordEdited screen text =>
      exact setPassword_agrees (currentForm_isSome he) h text
  | showPasswordToggled screen shown =>
      exact setShowPassword_agrees (currentForm_isSome he) h shown
  | indexChanged screen index userSelected =>
      have hf := currentForm_isSome he
      have hindex := setCurrentIndex_agrees hf h index
      have htouches := (setCurrentIndex_touches hf index).screens
      cases userSelected with
      | false => exact hindex
      | true =>
          exact setPassword_agrees ((htouches.isSome _).trans hf) hindex []
  | sessionChanged screen index =>
      exact agrees_of_forms h (by cases p <;> rfl) fun f l hl => ⟨f, hl⟩
  | loginStateClicked screen =>
      by_cases hmode : s.loginState = s.clicked screen
      · rw [step, setLoginState, if_pos hmode]
        exact h
      · apply setLoginState_agrees h
        intro heq hprompt
        apply hp heq
        cases hstate : s.loginState with
        | userList => rfl
        | userPrompt => exact absurd (hstate.trans hprompt.symm) hmode
  | activated screen =>
      rw [step]
      split
      · exact h
      · exact agrees_of_forms h (by cases p <;> rfl) fun f l hl => ⟨f, hl⟩
  | escapeKeyPressed screen =>
      rw [step]
      split
      · exact h
      · exact clearPasswords_agrees (timeoutWindow_agrees h _)
  | timeout => exact onTriggered_agrees h
  | socketDisconnected => exact h
  | screenAdded => exact createWindowForScreen_agrees h hp
  | screenRemoved screen => exact removeScreen_agrees h screen

theorem start_config (config : GreeterConfig) (n : Nat) :
    (start config n).config = config := by
  induction n with
  | zero => rfl
  | succ n ih =>
      exact (start config n).createWindowForScreen_sameScreens.config.trans ih

theorem start_username {config : GreeterConfig}
    (hlast : config.lastLoggedInUser = []) (n : Nat) :
    (start config n).userPromptUsername = [] := by
  induction n with
  | zero => rfl
  | succ n ih =>
      have hconfig := start_config config n
      cases hbeyond : config.beyondUserLimit with
      | false =>
          refine (createWindowForScreen_shared (p := .userPromptUsername)
            fun _ => ?_).trans ih
          rw [hconfig, hbeyond]
      | true =>
          refine (createWindowForScreen_same ?_ ?_).shared.trans ih
          · rw [hconfig, hbeyond]
          · rw [hconfig, hlast]

theorem start_agrees (p : SyncedProperty) (config : GreeterConfig) (n : Nat) :
    (sync p).Agrees (start config n) := by
  induction n with
  | zero => exact fun f hf => nomatch hf
  | succ n ih =>
      apply createWindowForScreen_agrees ih
      intro _ _ hlast
      rw [start_config] at hlast
      exact start_username hlast n

/-- Everything but the user name agrees in every state of every run. -/
theorem run_agrees {p : SyncedProperty} (hp : p ≠ .userPromptUsername)
    {config : GreeterConfig} {n : Nat} {es : List GreeterUiEvent}
    (hes : greeterUi.Runs (start config n) es) :
    ∀ st ∈ greeterUi.steps (start config n) es, (sync p).Agrees st.before :=
  greeterUi.steps_invariant
    (fun _ _ h he => step_agrees he h fun heq => absurd heq hp)
    (start_agrees p config n) hes

end GreeterUi

end PlasmaLogin

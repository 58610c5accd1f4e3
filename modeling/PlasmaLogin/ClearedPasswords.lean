/-
The passwords after the transitions that are to clear them.
-/
import PlasmaLogin.GreeterEvents

namespace PlasmaLogin

open Mealy TwoWay

namespace GreeterUi

/-- The user cancels or turns to another user, another session or the other
mode, a screen goes, the greeter times out or loses its daemon. -/
def Transition (s : GreeterUi) : GreeterUiEvent → Prop
  | .userNameEdited _ _ => False
  | .passwordEdited _ _ => False
  | .showPasswordToggled _ _ => False
  | .indexChanged screen index _ =>
      (s.form (s.currentForm screen)).any
        (fun login => login.currentIndex != index) = true
  | .sessionChanged _ index => s.sessionIndex ≠ index
  | .loginStateClicked screen => s.loginState ≠ s.clicked screen
  | .activated _ => False
  | .escapeKeyPressed _ => True
  | .timeout => True
  | .socketDisconnected => True
  | .screenAdded => False
  | .screenRemoved _ => True

/-- The password of the other kind of form. -/
def otherPassword (f : FormId) (s : GreeterUi) : QString :=
  if s.isUserList f then s.userPromptPassword else s.userListPassword

/-- Escape and the change of mode clear both passwords, the choice of a user
clears that of its form, and nothing else clears any. -/
def Clears (s : GreeterUi) : GreeterUiEvent → Prop
  | .escapeKeyPressed _ => True
  | .loginStateClicked _ => True
  | .indexChanged screen _ true => s.otherPassword (s.currentForm screen) = []
  | _ => s.Cleared

theorem cleared_congr {s t : GreeterUi}
    (hlist : (sync .userListPassword).shared t =
      (sync .userListPassword).shared s)
    (hprompt : (sync .userPromptPassword).shared t =
      (sync .userPromptPassword).shared s) : t.Cleared ↔ s.Cleared :=
  and_congr (iff_of_eq (congrArg (· = []) hlist))
    (iff_of_eq (congrArg (· = []) hprompt))

/-- What touches no password clears none. -/
theorem Touches.cleared_iff {p : SyncedProperty} {s t : GreeterUi}
    (h : Touches p s t) (hlist : p ≠ .userListPassword)
    (hprompt : p ≠ .userPromptPassword) : t.Cleared ↔ s.Cleared :=
  cleared_congr (h.others _ hlist).shared (h.others _ hprompt).shared

theorem timeoutWindow_cleared (window : Nat) (s : GreeterUi) :
    (s.timeoutWindow window).Cleared ↔ s.Cleared := by
  rw [timeoutWindow]
  split
  · exact Iff.rfl
  · exact Iff.rfl

theorem onTriggered_cleared (s : GreeterUi) :
    s.onTriggered.Cleared ↔ s.Cleared := by
  rw [onTriggered]
  split
  · exact Iff.rfl
  · rw [timeoutWindow_cleared]
    exact (touches_assignShared .showPassword false s).cleared_iff
      (by decide) (by decide)

/-- `passwordBox.clear` leaves the password of the other kind. -/
theorem clear_cleared {f : FormId} {s : GreeterUi} (hf : (s.form f).isSome)
    (hlist : (sync .userListPassword).Agrees s)
    (hprompt : (sync .userPromptPassword).Agrees s) :
    (s.setPassword f []).Cleared ↔ s.otherPassword f = [] := by
  cases h : s.isUserList f with
  | true =>
      have hmem := (mem_fields_of_list hf h).2
      have hclear := hlist.shared_assignField (sync_lawful _) hmem []
      have hother := (touches_assignField hmem []).others .userPromptPassword
        (by decide)
      rw [setPassword_of_list h, otherPassword, if_pos h]
      exact (and_iff_right hclear).trans
        (iff_of_eq (congrArg (· = []) hother.shared))
  | false =>
      have hmem := (mem_fields_of_prompt hf h).2
      have hclear := hprompt.shared_assignField (sync_lawful _) hmem []
      have hother := (touches_assignField hmem []).others .userListPassword
        (by decide)
      rw [setPassword_of_prompt h, otherPassword, h]
      exact (and_iff_left hclear).trans
        (iff_of_eq (congrArg (· = []) hother.shared))

theorem otherPassword_setCurrentIndex {f : FormId} {s : GreeterUi}
    (hf : (s.form f).isSome) (v : Int) :
    (s.setCurrentIndex f v).otherPassword f = s.otherPassword f := by
  have h := setCurrentIndex_touches hf v
  have hlist := (h.others .userListPassword (by decide)).shared
  have hprompt := (h.others .userPromptPassword (by decide)).shared
  rw [otherPassword, otherPassword, h.screens.isUserList]
  split
  · exact hprompt
  · exact hlist

/-- What one transition leaves of the passwords. -/
theorem step_cleared_iff {s : GreeterUi} {e : GreeterUiEvent}
    (hlist : (sync .userListPassword).Agrees s)
    (hprompt : (sync .userPromptPassword).Agrees s) (he : s.Enabled e)
    (htransition : s.Transition e) : (s.step e).Cleared ↔ s.Clears e := by
  cases e with
  | userNameEdited screen text => exact htransition.elim
  | passwordEdited screen text => exact htransition.elim
  | showPasswordToggled screen shown => exact htransition.elim
  | indexChanged screen index userSelected =>
      have hf := currentForm_isSome he
      have htouches := setCurrentIndex_touches hf index
      cases userSelected with
      | false => exact htouches.cleared_iff (by decide) (by decide)
      | true =>
          have hclear := clear_cleared ((htouches.screens.isSome _).trans hf)
            (setCurrentIndex_agrees hf hlist index)
            (setCurrentIndex_agrees hf hprompt index)
          rw [otherPassword_setCurrentIndex hf] at hclear
          exact hclear
  | sessionChanged screen index => exact Iff.rfl
  | loginStateClicked screen =>
      exact iff_of_true (setLoginState_cleared htransition) trivial
  | activated screen => exact htransition.elim
  | escapeKeyPressed screen =>
      have hscreen := List.getElem?_eq_getElem he
      refine iff_of_true ?_ trivial
      rw [step, hscreen]
      exact clearPasswords_cleared _
  | timeout => exact s.onTriggered_cleared
  | socketDisconnected => exact Iff.rfl
  | screenAdded => exact htransition.elim
  | screenRemoved screen => exact Iff.rfl

/-- In every state of every run, with any number of screens and users, a
transition leaves no password exactly where it clears those that there are. -/
theorem steps_cleared_iff (config : GreeterConfig) (n : Nat)
    {es : List GreeterUiEvent} (hes : greeterUi.Runs (start config n) es) :
    ∀ st ∈ greeterUi.steps (start config n) es,
      st.before.Transition st.event →
        (st.after.Cleared ↔ st.before.Clears st.event) := by
  intro st hst htransition
  have hlist := run_agrees (p := .userListPassword) (by decide) hes st hst
  have hprompt := run_agrees (p := .userPromptPassword) (by decide) hes st hst
  have he := hes st hst
  obtain ⟨pre, e, post, _, rfl⟩ := (greeterUi.mem_steps_iff _ _ _).1 hst
  exact step_cleared_iff hlist hprompt he htransition

def bobTypesTwice : List GreeterUiEvent :=
  [.passwordEdited 0 "secret", .indexChanged 1 0 true,
    .passwordEdited 1 "hidden", .loginStateClicked 0]

/-- Clicking another user clears the password that was typed for the first,
and so does `Other…`. -/
theorem steps_cleared_bob :
    greeterUi.Runs (start fewUsers 2) bobTypesTwice ∧
      ∀ st ∈ greeterUi.steps (start fewUsers 2) bobTypesTwice,
        st.before.Transition st.event →
          (st.after.Cleared ↔ st.before.Clears st.event) :=
  ⟨by decide, steps_cleared_iff fewUsers 2 (by decide)⟩

instance (s : GreeterUi) : Decidable s.Cleared :=
  inferInstanceAs (Decidable
    (s.userListPassword = [] ∧ s.userPromptPassword = []))

instance (s : GreeterUi) (e : GreeterUiEvent) : Decidable (s.Transition e) :=
  match e with
  | .indexChanged screen index _ =>
      inferInstanceAs (Decidable ((s.form (s.currentForm screen)).any
        (fun login => login.currentIndex != index) = true))
  | .sessionChanged _ index =>
      inferInstanceAs (Decidable (s.sessionIndex ≠ index))
  | .loginStateClicked screen =>
      inferInstanceAs (Decidable (s.loginState ≠ s.clicked screen))
  | .userNameEdited _ _ | .passwordEdited _ _ | .showPasswordToggled _ _
  | .activated _ | .screenAdded => inferInstanceAs (Decidable False)
  | .escapeKeyPressed _ | .timeout | .socketDisconnected
  | .screenRemoved _ => inferInstanceAs (Decidable True)

/-- The password stays in the prompt when another session is chosen, and when
the greeter times out, which nothing inhibits. -/
theorem steps_not_cleared :
    ∃ es, greeterUi.Runs (start manyUsers 1) es ∧
      (∃ st ∈ greeterUi.steps (start manyUsers 1) es,
        st.event = .sessionChanged 0 1 ∧ st.before.Transition st.event ∧
          ¬ st.after.Cleared) ∧
      ∃ st ∈ greeterUi.steps (start manyUsers 1) es,
        st.event = .timeout ∧ st.before.Transition st.event ∧
          ¬ st.after.Cleared := by
  refine ⟨[.activated 0, .passwordEdited 0 "secret", .sessionChanged 0 1,
    .timeout], ?_, ?_⟩
  · decide
  · decide

end GreeterUi

end PlasmaLogin

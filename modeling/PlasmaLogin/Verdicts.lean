/-
The verdicts a display sends: which frames of the helper make it send one,
to which connection, and what becomes of the connection it remembers.
-/
import PlasmaLogin.AutologinFlag
import PlasmaLogin.HelperRun

namespace PlasmaLogin

open Mealy

/-- The frame an event delivers from the helper. -/
def DisplayEvent.frame? : DisplayEvent → Option HelperFrame
  | .helperFrame frame => some frame
  | _ => none

def DisplayEvent.isLogin : DisplayEvent → Bool
  | .login _ _ _ _ _ => true
  | _ => false

namespace DisplayEvent

theorem eq_of_frame? {e : DisplayEvent} {frame : HelperFrame}
    (h : e.frame? = some frame) : e = .helperFrame frame := by
  cases e with
  | helperFrame frame' => exact congrArg helperFrame (Option.some.inj h)
  | _ => simp [frame?] at h

/-- Only frames of the helper and logins have verdicts. -/
theorem verdict_not_mem_kinds {e : DisplayEvent} (hframe : e.frame? = none)
    (hlogin : e.isLogin = false) : .verdict ∉ e.kinds := by
  cases e with
  | helperFrame frame => simp [frame?] at hframe
  | login ctx s user password session => simp [isLogin] at hlogin
  | _ => simp [kinds]

end DisplayEvent

namespace Display

/-- The verdicts among the effects of a slot or a run. -/
def verdicts (xs : List DisplayEffect) : List DisplayEffect :=
  xs.filter fun x => x.kind = .verdict

@[simp] theorem verdicts_append (xs ys : List DisplayEffect) :
    verdicts (xs ++ ys) = verdicts xs ++ verdicts ys :=
  List.filter_append ..

theorem verdicts_eq_nil {xs : List DisplayEffect}
    (h : ∀ x ∈ xs, x.kind ≠ .verdict) : verdicts xs = [] := by
  simpa [verdicts, List.filter_eq_nil_iff] using h

/-- The verdict on a report of the authenticated user. -/
def verdictOn (user : QString) (s : SocketId) : DisplayEffect :=
  if user.isEmpty then .loginFailed s else .loginSucceeded s

theorem verdicts_error (d : Display) (message : QString) :
    verdicts (d.dataPending (.error message .authentication)).2 =
      (d.socket.map DisplayEffect.loginFailed).toList := by
  unfold dataPending slotAuthError
  cases d.socket <;> rfl

theorem slotAuthenticationFinished_of_off {d : Display}
    (hoff : d.auth.autologin = false) (success : Bool) :
    verdicts (d.slotAuthenticationFinished success).2 =
        (d.socket.map fun s =>
          if success then .loginSucceeded s else .loginFailed s).toList ∧
      (d.slotAuthenticationFinished success).1 =
        { d with socket := none } := by
  unfold slotAuthenticationFinished
  rw [hoff, Bool.false_and, if_neg Bool.false_ne_true]
  refine ⟨?_, rfl⟩
  cases success <;> cases d.reuseSessionId <;> cases d.socket <;> rfl

theorem verdicts_authenticated {d : Display}
    (hoff : d.auth.autologin = false) (user : QString) :
    verdicts (d.dataPending (.authenticated user)).2 =
      (d.socket.map (verdictOn user)).toList := by
  rw [dataPending_authenticated]
  cases user with
  | nil => exact (slotAuthenticationFinished_of_off hoff false).1
  | cons c user =>
      have hslot := (slotAuthenticationFinished_of_off
        (d := { d with auth := d.auth.setUser (c :: user) }) hoff true).1
      simp only [List.isEmpty_cons, Bool.false_eq_true, ↓reduceIte,
        andThen_snd, verdicts_append, hslot]
      cases d.socket <;> rfl

/-- A report of the user makes the display forget the connection. -/
theorem socket_authenticated {d : Display} (hoff : d.auth.autologin = false)
    (user : QString) :
    (d.dataPending (.authenticated user)).1.socket = none := by
  rw [dataPending_authenticated]
  cases user with
  | nil => rw [List.isEmpty_nil, if_pos rfl,
      (slotAuthenticationFinished_of_off hoff false).2]
  | cons c user =>
      have hslot := (slotAuthenticationFinished_of_off
        (d := { d with auth := d.auth.setUser (c :: user) }) hoff true).2
      simp [hslot]

/-- Whether an event can change the connection that is remembered. -/
def movesSocket : DisplayEvent → Bool
  | .login _ _ _ _ _ | .connectionClosed _
  | .helperFrame (.authenticated _) => true
  | _ => false

theorem answer_socket {e : DisplayEvent} (he : movesSocket e = false)
    (d : Display) : (d.answer e).1.socket = d.socket := by
  cases e with
  | start ctx =>
      obtain ⟨_, _, _, _, _, _, _, hframe⟩ := d.answer_start_frame ctx
      rw [hframe]
  | displayServerStarted ctx =>
      obtain ⟨_, hframe⟩ := d.answer_displayServerStarted_frame ctx
      rw [hframe]
  | newConnection s => rfl
  | connectionClosed s => simp [movesSocket] at he
  | login ctx s user password session => simp [movesSocket] at he
  | helperFrame frame =>
      cases frame with
      | authenticated user => simp [movesSocket] at he
      | request r =>
          change (d.dataPending (.request r)).1.socket = d.socket
          rw [dataPending_request]
          unfold slotRequestChanged
          split <;> rfl
      | sessionStatus status => cases status <;> rfl
      | _ => rfl
  | helperError failed text => rfl
  | greeterFrame frame => cases frame <;> rfl
  | greeterError failed => rfl
  | _ => exact (d.closes_answer rfl).state.socket

/-- Other events leave the connection, or it is gone. -/
theorem answer_socket_or {e : DisplayEvent} (hframe : e.frame? = none)
    (hlogin : e.isLogin = false) (d : Display) :
    (d.answer e).1.socket = d.socket ∨ (d.answer e).1.socket = none := by
  cases hmoves : movesSocket e with
  | false => exact Or.inl (answer_socket hmoves d)
  | true =>
      cases e with
      | connectionClosed s =>
          simp only [answer]
          split
          · exact Or.inr rfl
          · exact Or.inl rfl
      | helperFrame frame => simp [DisplayEvent.frame?] at hframe
      | login ctx s user password session =>
          simp [DisplayEvent.isLogin] at hlogin
      | _ => simp [movesSocket] at hmoves

end Display

end PlasmaLogin

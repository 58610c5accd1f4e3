/-
The end of the greeter's helper.  `Greeter::onHelperFinished` looks at the
status alone; whether anything is going on behind the greeter decides nothing.
-/
import PlasmaLogin.SessionEnd

namespace PlasmaLogin

open Mealy

namespace Greeter

/-- The statuses the greeter passes on as a failure. -/
def failures : List HelperExitStatus :=
  [.displayServerError, .ttyError, .sessionError]

theorem onHelperFinished_isSome_iff (status : HelperExitStatus) (g : Greeter) :
    (g.onHelperFinished status).2.isSome = true ↔ status ∈ failures := by
  unfold onHelperFinished failures
  simp only [List.mem_cons, List.not_mem_nil, or_false]
  split
  next hserver => simp [hserver]
  next hserver =>
    split
    next htty => simp [htty]
    next htty =>
      split
      next hsession => simp [hsession]
      next hsession => simp [hserver, htty, hsession]

end Greeter

namespace Display

/-- Every signal the greeter can end with stops the display. -/
theorem greeterExited_started (waits : List StopWaits) (report : ExitReport)
    (d : Display) :
    (greeterExited (stop waits) report d).1.started =
      (d.started && decide (Auth.exitStatusOf report ∉ Greeter.failures)) := by
  have hsome :=
    Greeter.onHelperFinished_isSome_iff (Auth.exitStatusOf report) d.greeter
  cases hsignal : (d.greeter.onHelperFinished (Auth.exitStatusOf report)).2 with
  | none =>
      rw [hsignal] at hsome
      have hother : Auth.exitStatusOf report ∉ Greeter.failures :=
        fun h => absurd (hsome.2 h) (by simp)
      rw [decide_eq_true hother, Bool.and_true]
      simp only [greeterExited, hsignal]
  | some signal =>
      rw [hsignal] at hsome
      have hfailure : Auth.exitStatusOf report ∈ Greeter.failures :=
        hsome.1 rfl
      rw [decide_eq_false (not_not_intro hfailure), Bool.and_false]
      simp only [greeterExited, hsignal]
      cases signal with
      | failed => exact stop_started waits _
      | ttyFailed => exact stop_started waits _
      | displayServerFailed => exact stop_started waits _

/-- A step after which the display is stopped exactly when nobody was logging
in or logged in before it. -/
def EndHandled (st : Step Display DisplayEvent DisplayEffect) : Prop :=
  st.after.started = false ↔ st.before.auth.isActive = false

instance (st : Step Display DisplayEvent DisplayEffect) :
    Decidable (EndHandled st) :=
  inferInstanceAs (Decidable (_ ↔ _))

/-- The status of a greeter that ends on its own is the number it ended
with. -/
theorem greeterProcess_failure_iff (greeter : ProcessEnd) :
    Auth.exitStatusOf (helperReport greeter) ∈ Greeter.failures ↔
      greeter.report.exitCode = 2 ∨ greeter.report.exitCode = 4 ∨
        greeter.report.exitCode = 5 := by
  simp only [exitStatusOf_helperReport, Greeter.failures, List.mem_cons,
    List.not_mem_nil, or_false, HelperExitStatus.displayServerError,
    HelperExitStatus.ttyError, HelperExitStatus.sessionError]
  constructor
  · rintro (h | h | h)
    · exact Or.inr (Or.inl h)
    · exact Or.inr (Or.inr h)
    · exact Or.inl h
  · rintro (h | h | h)
    · exact Or.inr (Or.inr h)
    · exact Or.inl h
    · exact Or.inr (Or.inl h)

/-- A greeter killed by any signal but three leaves the display up. -/
theorem greeterKilled_started {d : Display} (hd : d.started = true)
    (waits : List StopWaits) (signal : Signal)
    (hsignal : signal.val ∉ [2, 4, 5]) :
    (d.answer (.greeterFinished (helperReport (.killed signal)) waits)).1.started
      = true := by
  have hother : Auth.exitStatusOf (helperReport (.killed signal)) ∉
      Greeter.failures := by
    rw [greeterProcess_failure_iff]
    simp only [ProcessEnd.report]
    simp only [List.mem_cons, List.not_mem_nil, or_false] at hsignal
    omega
  rw [answer, greeterExited_started, hd, decide_eq_true hother, Bool.and_true]

end Display

open Display in
/-- The end of a started display's greeter is handled if and only if its
status is a failure exactly when nobody is logging in or logged in. -/
theorem greeterFinished_endHandled_iff {d : Display} (hd : d.started = true)
    (report : ExitReport) (waits : List StopWaits) :
    EndHandled (displayMachine.fire d (.greeterFinished report waits)) ↔
      (Auth.exitStatusOf report ∈ Greeter.failures ↔
        d.auth.isActive = false) := by
  have hstarted :
      (d.answer (.greeterFinished report waits)).1.started =
        decide (Auth.exitStatusOf report ∉ Greeter.failures) := by
    rw [answer, greeterExited_started, hd, Bool.true_and]
  change ((d.answer (.greeterFinished report waits)).1.started = false ↔
    d.auth.isActive = false) ↔ _
  rw [hstarted, decide_eq_false_iff_not, not_not]

/-- A display that shows its greeter. -/
def Display.greeterShown : List DisplayEvent :=
  [.start {}, .displayServerStarted {}, .greeterFrame (.sessionStatus true)]

open Display in
/-- A greeter that cannot be started on a display without a session. -/
theorem greeterFinished_endHandled_sessionError :
    EndHandled (displayMachine.fire
        (displayMachine.exec (create "seat0" 1 1 {}) greeterShown)
        (.greeterFinished ⟨2, .normalExit, []⟩ [])) :=
  (greeterFinished_endHandled_iff (by decide) _ _).2 (by decide)

open Display in
/-- A greeter that dies of a segmentation fault leaves a started display
without a greeter, and a failing greeter takes a session with it. -/
theorem greeterFinished_not_endHandled :
    (¬ ∀ (seatName : QString) (terminalId : Int32) (authId : Int64)
      (autologinSession : Session) (es : List DisplayEvent)
      (report : ExitReport) (waits : List StopWaits),
        displayMachine.Runs
            (create seatName terminalId authId autologinSession)
            (es ++ [.greeterFinished report waits]) →
          (displayMachine.exec
            (create seatName terminalId authId autologinSession)
              es).started = true →
            EndHandled (displayMachine.fire (displayMachine.exec
              (create seatName terminalId authId autologinSession) es)
              (.greeterFinished report waits))) ∧
      displayMachine.Runs (create "seat0" 1 1 {})
        (withSession ++ [.greeterFinished ⟨2, .normalExit, []⟩ []]) ∧
      ¬ EndHandled (displayMachine.fire
        (displayMachine.exec (create "seat0" 1 1 {}) withSession)
        (.greeterFinished ⟨2, .normalExit, []⟩ [])) := by
  refine ⟨?_, by decide, by decide⟩
  · intro hall
    have hhandled := hall "seat0" 1 1 {} greeterShown
      (helperReport (.killed ⟨11, by decide⟩)) [] (by decide) (by decide)
    exact absurd hhandled (by decide)

end PlasmaLogin

/-
The way of a session's end to the display: the session process, the helper
that exits with its code, and the daemon that reads the helper's exit code as
a verdict of its own.
-/
import PlasmaLogin.DisplayRuns

namespace PlasmaLogin

/-- A signal number. -/
abbrev Signal := { n : Nat // 1 ≤ n ∧ n ≤ 64 }

def sighup : Signal := ⟨1, by decide⟩

/-- How a process ends. -/
inductive ProcessEnd where
  | exited (code : UInt8)
  | killed (signal : Signal)
deriving DecidableEq

/-- What `QProcess` reports about a process that has ended. -/
def ProcessEnd.report : ProcessEnd → ExitReport
  | .exited code => ⟨code.toNat, .normalExit, []⟩
  | .killed signal => ⟨signal.val, .crashExit, "Process crashed"⟩

/-- `QCoreApplication::exit` and the return from `main`: a process exits with
the low eight bits of its status. -/
def exitProcess (status : Int) : ProcessEnd :=
  .exited (UInt8.ofNat (status % 256).toNat)

/-- `UserSession::finished`, which passes the code on without the way the
process ended. -/
def UserSession.finished (report : ExitReport) : Int := report.exitCode

/-- `HelperApp::sessionFinished`. -/
def HelperApp.sessionFinished (status : Int) : ProcessEnd :=
  exitProcess status

/-- What the daemon is told when a session ends and the helper with it. -/
def helperReport (session : ProcessEnd) : ExitReport :=
  (HelperApp.sessionFinished (UserSession.finished session.report)).report

/-- The end of the session stops the display and is not taken for a failed
authentication. -/
def Display.FreedBy (session : ProcessEnd) (waits : List StopWaits)
    (d : Display) : Prop :=
  Auth.exitStatusOf (helperReport session) ≠ .authError ∧
    (d.answer (.helperFinished (helperReport session) waits)).1.started =
      false

instance (session : ProcessEnd) (waits : List StopWaits) (d : Display) :
    Decidable (d.FreedBy session waits) :=
  inferInstanceAs (Decidable (_ ∧ _))

theorem exitProcess_of_byte (n : Nat) (hn : n < 256) :
    (exitProcess n).report.exitCode = n := by
  have hmod : ((n : Int) % 256).toNat = n := by omega
  simp only [exitProcess, ProcessEnd.report, hmod, UInt8.toNat_ofNat']
  omega

/-- The number a session ends with reaches the daemon as it is. -/
theorem exitStatusOf_helperReport (session : ProcessEnd) :
    Auth.exitStatusOf (helperReport session) = session.report.exitCode := by
  have hnormal : (helperReport session).exitStatus = .normalExit := rfl
  rw [Auth.exitStatusOf, if_neg (not_not_intro hnormal)]
  cases session with
  | exited code => exact exitProcess_of_byte code.toNat code.toNat_lt
  | killed signal =>
      exact exitProcess_of_byte signal.val (by have := signal.2.2; omega)

theorem report_exitCode_eq_authError_iff (session : ProcessEnd) :
    session.report.exitCode = HelperExitStatus.authError ↔
      session = .exited 1 ∨ session = .killed sighup := by
  cases session with
  | exited code =>
      simp only [ProcessEnd.report, HelperExitStatus.authError,
        ProcessEnd.exited.injEq, reduceCtorEq, or_false, ← UInt8.toNat_inj]
      exact Nat.cast_inj (R := Int) (n := 1)
  | killed signal =>
      simp only [ProcessEnd.report, HelperExitStatus.authError, reduceCtorEq,
        ProcessEnd.killed.injEq, false_or, Subtype.ext_iff, sighup]
      exact Nat.cast_inj (R := Int) (n := 1)

/-- The end of a session frees a started display if and only if the session
neither exits with code one nor dies of a hangup. -/
theorem helperFinished_frees_iff {d : Display} (hd : d.started = true)
    (session : ProcessEnd) (waits : List StopWaits) :
    d.FreedBy session waits ↔
      session ≠ .exited 1 ∧ session ≠ .killed sighup := by
  have hstarted :
      (d.answer (.helperFinished (helperReport session) waits)).1.started =
        decide (Auth.exitStatusOf (helperReport session) = .authError) := by
    rw [Display.answer, Display.childExited_started, hd, Bool.true_and]
  rw [Display.FreedBy, hstarted, decide_eq_false_iff_not, and_self,
    exitStatusOf_helperReport, ne_eq, report_exitCode_eq_authError_iff,
    not_or]

/-- A display on which alice has logged in and her session has started. -/
def Display.withSession : List DisplayEvent :=
  [.start {}, .displayServerStarted {}, .newConnection 7,
    .login {} 7 "alice" "secret" .plasma,
    .helperFrame (.authenticated "alice"), .helperFrame (.sessionStatus true)]

/-- A session that exits cleanly. -/
theorem helperFinished_frees_clean_exit :
    (displayMachine.exec (.create "seat0" 1 1 {})
      Display.withSession).FreedBy (.exited 0) [] :=
  (helperFinished_frees_iff (by decide) _ _).2 (by decide)

/-- A session that exits with code one leaves the display as it is. -/
theorem helperFinished_not_freed :
    ¬ ∀ (d : Display) (es : List DisplayEvent) (session : ProcessEnd)
      (waits : List StopWaits), displayMachine.Runs d es →
        (displayMachine.exec d es).started = true →
          (displayMachine.exec d es).auth.isActive = true →
            DisplayEvent.helperFrame (.sessionStatus true) ∈ es →
              (displayMachine.exec d es).FreedBy session waits := by
  intro hall
  have hfreed := hall (.create "seat0" 1 1 {}) Display.withSession (.exited 1)
    [] (by decide) (by decide) (by decide)
    (by simp [Display.withSession])
  exact absurd hfreed (by decide)

end PlasmaLogin

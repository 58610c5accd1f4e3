/-
The session script of an X11 session.  `UserSession::start` writes its path and
its argument into one string, which `plasmalogin-helper-start-x11user` splits
again; a Wayland session gets the argument as it is.
-/
import PlasmaLogin.PamTransaction
import PlasmaLogin.QuoteSplit

namespace PlasmaLogin

/-- The character `"`. -/
def quotationMark : UInt16 := 34

/-- `QProcess::splitCommand`. -/
def QProcess.splitCommand (command : QString) : List QString :=
  QuoteSplit.split quotationMark QString.isSpace command

/-- The process `plasmalogin-helper-start-x11user` starts, with its arguments,
when the X server has its display.  With any other number of arguments the
helper ends before that, and an empty list has no first element to take. -/
def X11UserHelper.displayChanged : List QString → Option (QString × List QString)
  | [command] =>
      match QProcess.splitCommand command with
      | [] => none
      | program :: args => some (program, args)
  | _ => none

namespace UserSession

/-- The script an X11 session runs in the end, with its arguments. -/
def x11Script (programs : SessionPrograms) (env : QProcessEnvironment)
    (path : QString) : Option (QString × List QString) :=
  (command programs env path).bind fun r => X11UserHelper.displayChanged r.2

/-- Both kinds of session run their script with the path as its only
argument. -/
def RunsPath (programs : SessionPrograms) (x11 wayland : QProcessEnvironment)
    (path : QString) : Prop :=
  x11Script programs x11 path = some (programs.sessionCommand, [path]) ∧
    command programs wayland path =
      some (programs.waylandSessionCommand, [path])

/-- The path of the script is a single word. -/
def IsWord (script : QString) : Prop :=
  script ≠ [] ∧
    script.all (fun c => c != quotationMark && !QString.isSpace c) = true

instance (script : QString) : Decidable (IsWord script) :=
  inferInstanceAs (Decidable (script ≠ [] ∧ _ = true))

theorem IsWord.chars {script : QString} (h : IsWord script) :
    ∀ c ∈ script, c ≠ quotationMark ∧ QString.isSpace c = false := by
  intro c hc
  have hall := List.all_eq_true.1 h.2 c hc
  simpa using hall

theorem x11Script_eq (programs : SessionPrograms) {env : QProcessEnvironment}
    (hx11 : env.value "XDG_SESSION_TYPE" = ("x11" : QString)) (path : QString) :
    x11Script programs env path =
      X11UserHelper.displayChanged [(programs.sessionCommand ++ [32]) ++
        quotationMark :: (path ++ [quotationMark])] := by
  have hcommand : programs.sessionCommand ++ (" \"" : QString) ++ path ++
      ("\"" : QString) = (programs.sessionCommand ++ [32]) ++
        quotationMark :: (path ++ [quotationMark]) := by
    have hopen : (" \"" : QString) = [32, quotationMark] := by decide
    have hclose : ("\"" : QString) = [quotationMark] := by decide
    rw [hopen, hclose]
    simp
  rw [x11Script, command, if_pos hx11, hcommand]
  rfl

theorem displayChanged_iff (command script path : QString) :
    X11UserHelper.displayChanged [command] = some (script, [path]) ↔
      QProcess.splitCommand command = [script, path] := by
  rw [X11UserHelper.displayChanged]
  cases QProcess.splitCommand command with
  | nil => simp
  | cons program args => simp

/-- The X11 session runs the script as the Wayland session does exactly when
there is a path without quotes, or it is a single quote. -/
theorem runsPath_iff {programs : SessionPrograms}
    {x11 wayland : QProcessEnvironment}
    (hscript : IsWord programs.sessionCommand)
    (hx11 : x11.value "XDG_SESSION_TYPE" = ("x11" : QString))
    (hwayland : wayland.value "XDG_SESSION_TYPE" = ("wayland" : QString))
    (path : QString) :
    RunsPath programs x11 wayland path ↔
      (path ≠ [] ∧ quotationMark ∉ path) ∨ path = [quotationMark] := by
  have hother : command programs wayland path =
      some (programs.waylandSessionCommand, [path]) := by
    have hne : ("wayland" : QString) ≠ ("x11" : QString) := by decide
    rw [command, hwayland, if_neg hne, if_pos rfl]
  rw [RunsPath, x11Script_eq programs hx11, displayChanged_iff,
    QProcess.splitCommand,
    QuoteSplit.split_quoted_iff hscript.1 hscript.chars (by decide) (by decide)]
  exact and_iff_left hother

def scripts : SessionPrograms where
  libexecDir := "/usr/libexec"
  sessionCommand := "/usr/share/plasmalogin/scripts/Xsession"
  waylandSessionCommand := "/usr/share/plasmalogin/scripts/wayland-session"

/-- The environment of a session as far as its type goes. -/
def sessionOfType (type : QString) : QProcessEnvironment :=
  QProcessEnvironment.insert ∅ "XDG_SESSION_TYPE" type

theorem runsPath_plain :
    RunsPath scripts (sessionOfType "x11") (sessionOfType "wayland")
      "startx  --now" :=
  (runsPath_iff (by decide) (by decide) (by decide) _).2 (by decide)

set_option maxRecDepth 4000 in
/-- The quotes of an `Exec` line do not come through. -/
theorem not_runsPath_quoted :
    ¬ RunsPath scripts (sessionOfType "x11") (sessionOfType "wayland")
      "sh -c \"startx\"" := by
  rintro ⟨hx11, _⟩
  have hstarted : x11Script scripts (sessionOfType "x11")
      "sh -c \"startx\"" =
        some (scripts.sessionCommand, [("sh -c startx" : QString)]) := by
    decide
  rw [hstarted] at hx11
  exact absurd hx11 (by decide)

end UserSession

end PlasmaLogin

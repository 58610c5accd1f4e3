/-
A desktop session entry as the daemon holds it, and the strings it reads from
the entry's desktop file.
-/
import PlasmaLogin.QString

namespace PlasmaLogin

/-- `Session::Type`; a number from a login message is cast to it unchecked. -/
inductive SessionType where
  | x11Session
  | waylandSession
  | other (value : UInt32)
deriving DecidableEq, Repr

/-- The parts of an opened desktop file that the daemon reads, and the path
it was opened with; `name` is that path with all links followed. -/
structure DesktopFile where
  name : QString
  exec : QString
  desktopNames : QString := []
  openedPath : QString := []
deriving DecidableEq, Repr

/-- `Session`; the default value is the invalid session. -/
structure Session where
  type : SessionType := .waylandSession
  desktopFile : Option DesktopFile := none
deriving DecidableEq, Repr

namespace Session

def isValid (s : Session) : Bool := s.desktopFile.isSome

/-- An entry of the desktop file; the empty string without one. -/
def read (entry : DesktopFile → QString) (s : Session) : QString :=
  (s.desktopFile.map entry).getD []

def fileName (s : Session) : QString := s.read DesktopFile.name

def desktopSession (s : Session) : QString := s.read DesktopFile.name

def exec (s : Session) : QString := s.read DesktopFile.exec

def desktopNames (s : Session) : QString := s.read DesktopFile.desktopNames

def xdgSessionType (s : Session) : QString :=
  match s.type with
  | .waylandSession => "wayland"
  | .x11Session => "x11"
  | .other _ => []

/-- The checks `Display::startAuth` makes before it uses a session. -/
def startable (s : Session) : Bool :=
  s.isValid && !s.xdgSessionType.isEmpty && !s.exec.isEmpty

theorem exec_ne_nil_of_startable {s : Session} (hs : s.startable = true) :
    s.exec ≠ [] := by
  simp only [startable, Bool.and_eq_true, Bool.not_eq_true',
    List.isEmpty_eq_false_iff] at hs
  exact hs.2

/-- A session of Plasma. -/
def plasma : Session where
  desktopFile := some
    { name := "plasma.desktop", exec := "startplasma-wayland" }

end Session

end PlasmaLogin

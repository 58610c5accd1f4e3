/-
The child process of a session between `fork` and `exec`:
`UserSession::childModifier` as a program that calls the system, with every
exit it has.
-/
import PlasmaLogin.PamTransaction

namespace PlasmaLogin

open Calls

/-- The parts of the daemon's configuration that the child reads. -/
structure SessionConfig where
  namespaces : List QString := []
  x11SessionLogFile : QString := ".local/share/plasmalogin/xorg-session.log"
  waylandSessionLogFile : QString :=
    ".local/share/plasmalogin/wayland-session.log"

/-- What the child is given: the environment of the session, the user of
`HelperApp` and the configuration. -/
structure ChildSetup where
  env : QProcessEnvironment
  user : QString
  config : SessionConfig

/-- The log file of a session, by the home directory and the name in it. -/
structure SessionLog where
  home : QString
  file : QString
deriving DecidableEq

/-- What getgrouplist(3) says: the groups, or how many there are. -/
inductive GroupList where
  | groups (l : List UInt32)
  | tooSmall (n : Int)
deriving DecidableEq

/-- What the child calls.  An `openNull` is of `/dev/null`, `countGroups` is
getgroups(2) without an array. -/
inductive ChildCall where
  | openTty (path : QString)
  | openNull
  | openNamespace (path : QString)
  | openLog (log : SessionLog)
  | dup2 (fd target : Int)
  | close (fd : Int)
  | setsid
  | takeControl
  | jumpToVt (vt : Int32) (vtAuto : Bool)
  | setns (fd : Int)
  | getpwSize
  | malloc (size : Int)
  | getpwnam (user : QString)
  | setgid (gid : UInt32)
  | countGroups
  | getgroups (n : Int)
  | getgrouplist (name : QString) (gid : UInt32) (capacity : Int)
  | setgroups (groups : List UInt32)
  | setuid (uid : UInt32)
  | chdir (dir : QString)
  | mkpath (log : SessionLog)

/-- The answers to the calls; those of `dup2`, `close`, `mkpath` and
`jumpToVt` are not looked at. -/
@[reducible] def ChildCall.Answer : ChildCall → Type
  | .openTty _ | .openNull | .openNamespace _ | .openLog _ | .setsid
  | .takeControl | .setns _ | .getpwSize | .setgid _ | .countGroups
  | .setgroups _ | .setuid _ | .chdir _ => Int
  | .malloc _ => Bool
  | .getpwnam _ => Option Passwd
  | .getgroups _ => Option (List UInt32)
  | .getgrouplist _ _ _ => GroupList
  | .dup2 _ _ | .close _ | .jumpToVt _ _ | .mkpath _ => PUnit

/-- A part of the child, which may end the process. -/
abbrev ChildProgram (A : Type) :=
  Program ChildCall.Answer HelperExitStatus A

/-- The calls of a part of the child with their answers. -/
abbrev ChildTrace := List (Event ChildCall.Answer)

/-- One call of the child. -/
def syscall (op : ChildCall) : ChildProgram op.Answer := .perform op

namespace UserSession

/-- A descriptor takes the place of a standard stream. -/
def replaceStream (fd target : Int) : ChildProgram PUnit := do
  syscall (.dup2 fd target)
  syscall (.close fd)

/-- The standard input is the terminal of the session, which the child then
takes control of, or nothing. -/
def openInput (vtNumber : Int32) : ChildProgram Bool := do
  let vtFd : Int ← syscall (.openTty (VirtualTerminal.path vtNumber))
  if 0 < vtNumber ∧ 0 < vtFd then do
    replaceStream vtFd 0
    return true
  else do
    let stdinFd : Int ← syscall .openNull
    replaceStream stdinFd 0
    return false

/-- The child leads a session of its own, with its terminal. -/
def leadSession (takeControl : Bool) : ChildProgram PUnit := do
  let pid : Int ← syscall .setsid
  Program.require .otherError (0 ≤ pid)
  if takeControl then do
    let result : Int ← syscall .takeControl
    Program.require .ttyError (0 ≤ result)
  else return ⟨⟩

def jumpToVt (vtNumber : Int32) (x11Session : Bool) : ChildProgram PUnit :=
  if 0 < vtNumber then syscall (.jumpToVt vtNumber x11Session) else return ⟨⟩

/-- One turn of the loop over the configured namespaces. -/
def enterNamespace (ns : QString) : ChildProgram PUnit := do
  let fd : Int ← syscall (.openNamespace ns)
  Program.require .otherError (0 ≤ fd)
  let result : Int ← syscall (.setns fd)
  Program.require .otherError (result = 0)
  syscall (.close fd)

def lookUpUser (user : QString) : ChildProgram Passwd := do
  let bufsize : Int ← syscall .getpwSize
  let allocated : Bool ←
    syscall (.malloc (if bufsize = -1 then 16384 else bufsize))
  Program.require .otherError allocated
  let rpw : Option Passwd ← syscall (.getpwnam user)
  match rpw with
  | none => .exits .otherError
  | some pw => return pw

def setGid (pw : Passwd) : ChildProgram PUnit := do
  let result : Int ← syscall (.setgid pw.gid)
  Program.require .otherError (result = 0)

/-- The ambient groups, which PAM modules may have set.  A count that fails
counts as no groups. -/
def ambientGroups : ChildProgram (List UInt32) := do
  let count : Int ← syscall .countGroups
  if 0 < count then do
    let pamGroups : Option (List UInt32) ← syscall (.getgroups count)
    match pamGroups with
    | none => .exits .otherError
    | some groups => return groups
  else return []

/-- The groups of the user, asked for twice: for their number and then for
themselves. -/
def userGroups (pw : Passwd) : ChildProgram (List UInt32) := do
  let count : GroupList ← syscall (.getgrouplist pw.name pw.gid 0)
  match count with
  | .groups groups => return groups
  | .tooSmall n => do
      let list : GroupList ← syscall (.getgrouplist pw.name pw.gid n)
      match list with
      | .groups groups => return groups
      | .tooSmall _ => .exits .otherError

/-- The groups of the child, unless their number is not positive. -/
def setGroups (pamGroups groups : List UInt32) : ChildProgram PUnit :=
  let count := Int32.ofNat pamGroups.length + Int32.ofNat groups.length
  if 0 < count then do
    let result : Int ← syscall (.setgroups (pamGroups ++ groups))
    Program.require .otherError (result = 0)
  else return ⟨⟩

def setUid (pw : Passwd) : ChildProgram PUnit := do
  let result : Int ← syscall (.setuid pw.uid)
  Program.require .otherError (result = 0)

def enterHome (pw : Passwd) : ChildProgram PUnit := do
  let result : Int ← syscall (.chdir pw.dir)
  Program.require .otherError (result = 0)

/-- The switch to the user, with the exits it has. -/
def switchUser (user : QString) : ChildProgram Passwd := do
  let pw ← lookUpUser user
  setGid pw
  let pamGroups ← ambientGroups
  let groups ← userGroups pw
  setGroups pamGroups groups
  setUid pw
  return pw

/-- A stream goes to a file, if that could be opened. -/
def redirect (fd target : Int) : ChildProgram PUnit :=
  if 0 ≤ fd then replaceStream fd target else return ⟨⟩

/-- The streams of a session other than the greeter's. -/
def redirectOutput (log : SessionLog) : ChildProgram PUnit := do
  syscall (.mkpath log)
  let logFd : Int ← syscall (.openLog log)
  redirect logFd 2
  let nullFd : Int ← syscall .openNull
  redirect nullFd 1

/-- The log file of a session. -/
def sessionLog (s : ChildSetup) (pw : Passwd) : SessionLog where
  home := pw.dir
  file :=
    if s.env.value "XDG_SESSION_TYPE" = ("x11" : QString) then
      s.config.x11SessionLogFile
    else s.config.waylandSessionLogFile

/-- What is done while the child still has its privileges. -/
def prepare (s : ChildSetup) : ChildProgram PUnit := do
  let vtNumber := QString.toInt (s.env.value "XDG_VTNR")
  let takeControl ← openInput vtNumber
  leadSession takeControl
  jumpToVt vtNumber (s.env.value "XDG_SESSION_TYPE" = ("x11" : QString))
  Program.each enterNamespace s.config.namespaces

/-- What is done as the user. -/
def enterSession (s : ChildSetup) (pw : Passwd) : ChildProgram PUnit := do
  enterHome pw
  if s.env.value "XDG_SESSION_CLASS" ≠ ("greeter" : QString) then
    redirectOutput (sessionLog s pw)
  else return ⟨⟩

def childModifier (s : ChildSetup) : ChildProgram PUnit := do
  prepare s
  let pw ← switchUser s.user
  enterSession s pw

end UserSession

end PlasmaLogin

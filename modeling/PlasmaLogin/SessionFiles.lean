/-
Which desktop file a login makes the daemon read.  The file name of the login
is appended to the sessions directory of each data directory as it is, so the
kernel walks whatever path it spells.
-/
import PlasmaLogin.GreeterMessages
import PlasmaLogin.PathWalk
import PlasmaLogin.Session

namespace PlasmaLogin

open PathWalk

/-- The separator of a path's components. -/
def slash : UInt16 := 47

/-- A name a directory can have an entry for. -/
def IsFileName (c : QString) : Prop :=
  c ≠ [] ∧ c ≠ QString.ofString "." ∧ c ≠ QString.ofString ".." ∧ slash ∉ c

instance (c : QString) : Decidable (IsFileName c) := by
  unfold IsFileName
  infer_instance

/-- The names of directory entries. -/
abbrev FileName := { c : QString // IsFileName c }

namespace QString

/-- The components of a path. -/
def components (path : QString) : List QString := path.splitOn slash

/-- What the kernel does about a component. -/
def move (c : QString) : Move FileName :=
  if h : IsFileName c then .down ⟨c, h⟩
  else if c = QString.ofString ".." then .up
  else .stay

def moves (path : QString) : List (Move FileName) := path.components.map move

end QString

/-- The file system and the data directories the daemon finds, with what the
desktop files say, each under its canonical path. -/
structure Installation (ν : Type) where
  fs : FileSystem ν FileName
  dataDirs : List QString
  config : ν → DesktopFile

namespace Installation

variable {ν : Type}

/-- The node at a path; Qt passes no path with a NUL on to the kernel. -/
def lookup (inst : Installation ν) (path : QString) : Option ν :=
  if 0 ∈ path then none else inst.fs.walk inst.fs.root path.moves

/-- `QFileInfo::isFile`, as a lookup of the file. -/
def file (inst : Installation ν) (path : QString) : Option ν :=
  (inst.lookup path).filter fun n => inst.fs.isFile n

/-- `QStandardPaths::locate` in the generic data directories. -/
def locate (inst : Installation ν) (relative : QString) : Option QString :=
  (inst.dataDirs.map fun dir =>
    dir ++ QString.ofString "/" ++ relative).find? fun path =>
      (inst.file path).isSome

end Installation

/-- `static_cast<Session::Type>` of the number in a message. -/
def SessionType.ofNumber (value : UInt32) : SessionType :=
  if value = 0 then .x11Session
  else if value = 1 then .waylandSession
  else .other value

namespace Session

/-- The name with its suffix. -/
def desktopName (name : QString) : QString :=
  if (QString.ofString ".desktop").isSuffixOf name then name
  else name ++ QString.ofString ".desktop"

/-- The directory for the sessions of a type, below a data directory. -/
def directory : SessionType → Option QString
  | .x11Session => some "xsessions"
  | .waylandSession => some "wayland-sessions"
  | .other _ => none

/-- The path `Session::create` asks `QStandardPaths` for. -/
def relativePath (type : SessionType) (name : QString) : Option QString :=
  (directory type).map fun directory =>
    QString.ofString "/" ++ directory ++ QString.ofString "/" ++
      desktopName name

variable {ν : Type}

/-- The path of the desktop file `Session::create` opens. -/
def filePath (inst : Installation ν) (type : SessionType) (name : QString) :
    Option QString :=
  (relativePath type name).bind inst.locate

/-- The file `Session::create` opens. -/
def opened (inst : Installation ν) (type : SessionType) (name : QString) :
    Option ν :=
  (filePath inst type name).bind inst.file

/-- `Session::create`. -/
def create (inst : Installation ν) (type : SessionType) (name : QString) :
    Session :=
  match filePath inst type name, opened inst type name with
  | some path, some node =>
      { type := type,
        desktopFile := some { inst.config node with openedPath := path } }
  | _, _ => {}

end Session

namespace Installation

variable {ν : Type}

/-- A node is an entry of a sessions directory of one of the data
directories. -/
def InSessionsDirectory (inst : Installation ν) (type : SessionType)
    (node : ν) : Prop :=
  ∃ dir ∈ inst.dataDirs, ∃ directory, Session.directory type = some directory ∧
    ∃ n, inst.lookup (dir ++ QString.ofString "/" ++ directory) = some n ∧
      ∃ name, inst.fs.entry n name = some node

end Installation

/-- A signal of the socket server. -/
inductive GreeterSignal where
  | connected
  | login (user password : QString) (session : Session)

/-- `SocketServer::readyRead`, which looks the session up while it reads. -/
def SocketServer.readyRead {ν : Type} (inst : Installation ν)
    (bytes : QByteArray) : List GreeterSignal :=
  (readMessages ⟨bytes, .ok⟩).filterMap fun
    | .connect => some .connected
    | .login user password sessionType fileName => some (.login user password
        (Session.create inst (.ofNumber sessionType) fileName))
    | .unknown _ => none

namespace QString

theorem components_append_slash (first rest : QString) :
    components (first ++ QString.ofString "/" ++ rest) =
      components first ++ components rest := by
  rw [List.append_assoc]
  exact List.splitOn_append_cons_self first rest

theorem moves_append_slash (first rest : QString) :
    moves (first ++ QString.ofString "/" ++ rest) =
      moves first ++ moves rest := by
  rw [moves, components_append_slash, List.map_append]
  rfl

/-- A component has no separator and is no longer than the path. -/
theorem of_mem_components (path : QString) {c : QString}
    (hc : c ∈ path.components) :
    slash ∉ c ∧ c.length ≤ path.length := by
  induction path generalizing c with
  | nil =>
      rw [List.mem_singleton.1 hc]
      exact ⟨List.not_mem_nil, le_rfl⟩
  | cons x path ih =>
      rw [components, List.splitOn_cons_eq_if_modifyHead] at hc
      split at hc
      · rcases List.mem_cons.1 hc with rfl | hc
        · exact ⟨List.not_mem_nil, Nat.zero_le _⟩
        · exact ⟨(ih hc).1, (ih hc).2.trans (Nat.le_succ _)⟩
      next hx =>
        rw [beq_iff_eq] at hx
        cases hrest : path.splitOn slash with
        | nil => simp [hrest] at hc
        | cons first rest =>
            rw [hrest, List.modifyHead_cons, List.mem_cons] at hc
            rcases hc with rfl | hc
            · have hfirst := ih (c := first) (by simp [components, hrest])
              refine ⟨?_, Nat.succ_le_succ hfirst.2⟩
              rw [List.mem_cons, not_or]
              exact ⟨Ne.symm hx, hfirst.1⟩
            · have hmem := ih (c := c) (by simp [components, hrest, hc])
              exact ⟨hmem.1, hmem.2.trans (Nat.le_succ _)⟩

/-- Text without a separator joins the last component. -/
theorem components_append (path : QString) {text : QString}
    (htext : slash ∉ text) :
    ∃ first last, components (path ++ text) = first ++ [last ++ text] := by
  induction path with
  | nil => exact ⟨[], [], List.splitOn_eq_singleton htext⟩
  | cons x path ih =>
      obtain ⟨first, last, heq⟩ := ih
      rw [components] at heq ⊢
      rw [List.cons_append, List.splitOn_cons_eq_if_modifyHead, heq]
      split
      · exact ⟨[] :: first, last, rfl⟩
      · cases first with
        | nil => exact ⟨[], x :: last, rfl⟩
        | cons c first => exact ⟨(x :: c) :: first, last, rfl⟩

theorem move_of_isFileName {c : QString} (h : IsFileName c) :
    move c = .down ⟨c, h⟩ := by
  rw [move, dif_pos h]

theorem eq_of_move_eq_down {c : QString} {name : FileName}
    (h : move c = .down name) : c = name.val := by
  unfold move at h
  split at h
  · exact congrArg Subtype.val (Move.down.inj h)
  · split at h <;> exact absurd h (by simp)

theorem moves_of_isFileName {c : QString} (h : IsFileName c) :
    moves c = [.down ⟨c, h⟩] := by
  rw [moves, components, List.splitOn_eq_singleton h.2.2.2,
    List.map_singleton, move_of_isFileName h]

theorem move_eq_stay_iff {c : QString} (hc : slash ∉ c) :
    move c = .stay ↔ c = [] ∨ c = QString.ofString "." := by
  unfold move
  split
  next h =>
    simp only [reduceCtorEq, false_iff, not_or]
    exact ⟨h.1, h.2.1⟩
  next h =>
    split
    next hup =>
      subst hup
      simp only [reduceCtorEq, false_iff]
      decide
    next hup =>
      simp only [true_iff]
      by_contra hname
      rw [not_or] at hname
      exact h ⟨hname.1, hname.2, hup, hc⟩

end QString

namespace Session

theorem directory_isFileName {type : SessionType} {name : QString}
    (h : directory type = some name) : IsFileName name := by
  cases type with
  | x11Session => exact Option.some.inj h ▸ by decide
  | waylandSession => exact Option.some.inj h ▸ by decide
  | other value => simp [directory] at h

theorem length_directory_le {type : SessionType} {name : QString}
    (h : directory type = some name) : name.length ≤ 16 := by
  cases type with
  | x11Session => exact Option.some.inj h ▸ by decide
  | waylandSession => exact Option.some.inj h ▸ by decide
  | other value => simp [directory] at h

theorem nul_not_mem_relativePath {type : SessionType}
    {name relative : QString} (h : relativePath type name = some relative)
    (hname : 0 ∉ name) : 0 ∉ relative := by
  obtain ⟨directory, hdirectory, rfl⟩ := Option.map_eq_some_iff.1 h
  have hnul : 0 ∉ directory := by
    cases type with
    | x11Session => exact Option.some.inj hdirectory ▸ by decide
    | waylandSession => exact Option.some.inj hdirectory ▸ by decide
    | other value => simp [Session.directory] at hdirectory
  have hcompleted : 0 ∉ desktopName name := by
    unfold desktopName
    split
    · exact hname
    · rw [List.mem_append, not_or]
      exact ⟨hname, by decide⟩
  simp only [List.mem_append, not_or]
  exact ⟨⟨⟨by decide, hnul⟩, by decide⟩, hcompleted⟩

/-- The last component of a completed name can name a file. -/
theorem desktopName_components (name : QString) :
    ∃ first last, (desktopName name).components = first ++ [last] ∧
      IsFileName last := by
  obtain ⟨base, hbase⟩ : ∃ base, desktopName name =
      base ++ QString.ofString ".desktop" := by
    unfold desktopName
    split
    next h =>
      obtain ⟨base, hbase⟩ := List.isSuffixOf_iff_suffix.1 h
      exact ⟨base, hbase.symm⟩
    · exact ⟨name, rfl⟩
  obtain ⟨first, last, heq⟩ := QString.components_append base
    (show slash ∉ QString.ofString ".desktop" by decide)
  refine ⟨first, _, hbase ▸ heq, ?_⟩
  have hlength : 8 ≤ (last ++ QString.ofString ".desktop").length := by
    rw [List.length_append]
    exact Nat.le_add_left 8 _
  have hslash := (QString.of_mem_components (base ++ _)
    (heq ▸ List.mem_append_right first (List.mem_singleton_self _))).1
  refine ⟨?_, ?_, ?_, hslash⟩ <;> intro hc <;> rw [hc] at hlength <;>
    exact absurd hlength (by decide)

section walks

variable {ν : Type}

theorem lookup_of_file {inst : Installation ν} {path : QString} {node : ν}
    (h : inst.file path = some node) :
    0 ∉ path ∧ inst.fs.walk inst.fs.root path.moves = some node := by
  have hlookup := (Option.filter_eq_some_iff.1 h).1
  unfold Installation.lookup at hlookup
  split at hlookup
  · simp at hlookup
  · exact ⟨by assumption, hlookup⟩

/-- The walk to a session file: the data directory, the sessions directory,
then the completed name. -/
theorem moves_relative {directory : QString} (hdirectory : IsFileName directory)
    (dir name : QString) :
    QString.moves (dir ++ QString.ofString "/" ++ (QString.ofString "/" ++
        directory ++ QString.ofString "/" ++ name)) =
      dir.moves ++ [.stay, .down ⟨directory, hdirectory⟩] ++ name.moves := by
  have hsame : QString.ofString "/" ++ directory =
      [] ++ QString.ofString "/" ++ directory := rfl
  have hnil : QString.moves [] = [.stay] := rfl
  rw [QString.moves_append_slash, QString.moves_append_slash, hsame,
    QString.moves_append_slash, QString.moves_of_isFileName hdirectory, hnil]
  simp only [List.append_assoc, List.cons_append, List.nil_append]

end walks

end Session

end PlasmaLogin

/-
Whether a login can make the daemon read a desktop file from outside the
sessions directories: it can whenever its file name has a component before the
last that moves.
-/
import PlasmaLogin.SessionFiles

namespace PlasmaLogin

open PathWalk

namespace Session

variable {ν : Type}

/-- An opened file lies at the requested path below a data directory. -/
theorem exists_dir_of_opened {inst : Installation ν} {type : SessionType}
    {name : QString} {node : ν} (h : opened inst type name = some node) :
    ∃ dir ∈ inst.dataDirs, ∃ relative, relativePath type name = some relative ∧
      inst.file (dir ++ QString.ofString "/" ++ relative) = some node := by
  obtain ⟨path, hpath, hfile⟩ := Option.bind_eq_some_iff.1 h
  obtain ⟨relative, hrelative, hlocate⟩ := Option.bind_eq_some_iff.1 hpath
  obtain ⟨dir, hdir, rfl⟩ := List.mem_map.1 (List.mem_of_find?_eq_some hlocate)
  exact ⟨dir, hdir, relative, hrelative, hfile⟩

/-- A file name that stays in its directory. -/
def StaysInDirectory (name : QString) : Prop :=
  ∀ c ∈ (desktopName name).components.dropLast,
    c = [] ∨ c = QString.ofString "."

theorem moves_of_staysInDirectory {name : QString}
    (h : StaysInDirectory name) :
    ∃ stays last, (desktopName name).moves = stays ++ [.down last] ∧
      ∀ m ∈ stays, m = .stay := by
  obtain ⟨first, last, hcomponents, hlast⟩ := desktopName_components name
  refine ⟨first.map QString.move, ⟨last, hlast⟩, ?_, ?_⟩
  · rw [QString.moves, hcomponents, List.map_append, List.map_singleton,
      QString.move_of_isFileName hlast]
  · intro m hm
    obtain ⟨c, hc, rfl⟩ := List.mem_map.1 hm
    have hslash := (QString.of_mem_components (desktopName name)
      (hcomponents ▸ List.mem_append_left _ hc)).1
    rw [StaysInDirectory, hcomponents, List.dropLast_concat] at h
    exact (QString.move_eq_stay_iff hslash).2 (h c hc)

/-- A file name that stays in its directory opens an entry of it. -/
theorem inSessionsDirectory_of_stays {inst : Installation ν}
    {type : SessionType} {name : QString} (hname : StaysInDirectory name)
    {node : ν} (h : opened inst type name = some node) :
    inst.InSessionsDirectory type node := by
  obtain ⟨dir, hdir, relative, hrelative, hfile⟩ := exists_dir_of_opened h
  obtain ⟨directory, hdirectory, rfl⟩ := Option.map_eq_some_iff.1 hrelative
  have hfileName := directory_isFileName hdirectory
  obtain ⟨hnul, hwalk⟩ := lookup_of_file hfile
  obtain ⟨stays, last, hmoves, hstays⟩ := moves_of_staysInDirectory hname
  rw [moves_relative hfileName, hmoves, FileSystem.walk_append] at hwalk
  obtain ⟨n, hn, hrest⟩ := Option.bind_eq_some_iff.1 hwalk
  refine ⟨dir, hdir, directory, hdirectory, n, ?_, last,
    FileSystem.entry_of_walk_stays hstays hrest⟩
  have hnul' : 0 ∉ dir ++ QString.ofString "/" ++ directory := by
    intro hmem
    apply hnul
    simp only [List.mem_append] at hmem ⊢
    tauto
  rw [Installation.lookup, if_neg hnul', QString.moves_append_slash,
    QString.moves_of_isFileName hfileName, FileSystem.walk_append]
  rw [FileSystem.walk_append] at hn
  obtain ⟨n', hn', hlink⟩ := Option.bind_eq_some_iff.1 hn
  rw [FileSystem.walk_stay_down] at hlink
  rw [hn', Option.bind_some, hlink]

/-- A name no component of a path is. -/
def freshName (path : QString) : QString :=
  List.replicate (path.length + 17) 97

theorem freshName_isFileName (path : QString) :
    IsFileName (freshName path) := by
  have hlength : 17 ≤ (freshName path).length := by
    rw [freshName, List.length_replicate]
    exact Nat.le_add_left 17 _
  refine ⟨?_, ?_, ?_, ?_⟩
  · intro hc
    rw [hc] at hlength
    exact absurd hlength (by decide)
  · intro hc
    rw [hc] at hlength
    exact absurd hlength (by decide)
  · intro hc
    rw [hc] at hlength
    exact absurd hlength (by decide)
  · intro hc
    exact absurd (List.eq_of_mem_replicate hc) (by decide)

theorem freshName_ne {path c : QString} (hc : c.length ≤ path.length + 16) :
    freshName path ≠ c := by
  rintro rfl
  rw [freshName, List.length_replicate] at hc
  omega

/-- The moves of a name that does not stay: one of them leaves, and a fresh
name is none of them. -/
theorem moves_of_not_staysInDirectory {name : QString}
    (h : ¬ StaysInDirectory name) :
    ∃ (moves : List (Move FileName)) (last : FileName),
      (desktopName name).moves = moves ++ [.down last] ∧
        (∃ m ∈ moves, m ≠ .stay) ∧
          ∀ fresh : FileName, fresh.val = freshName (desktopName name) →
            fresh ≠ last ∧ .down fresh ∉ moves := by
  obtain ⟨first, last, hcomponents, hlast⟩ := desktopName_components name
  have hmem : ∀ c ∈ first ++ [last],
      slash ∉ c ∧ c.length ≤ (desktopName name).length := fun c hc =>
    QString.of_mem_components _ (hcomponents ▸ hc)
  have hother : ∀ c ∈ first ++ [last], freshName (desktopName name) ≠ c :=
    fun c hc => freshName_ne ((hmem c hc).2.trans (Nat.le_add_right _ 16))
  refine ⟨first.map QString.move, ⟨last, hlast⟩, ?_, ?_, ?_⟩
  · rw [QString.moves, hcomponents, List.map_append, List.map_singleton,
      QString.move_of_isFileName hlast]
  · rw [StaysInDirectory, hcomponents, List.dropLast_concat] at h
    push Not at h
    obtain ⟨c, hc, hnil, hdot⟩ := h
    refine ⟨_, List.mem_map.2 ⟨c, hc, rfl⟩, fun hstay => ?_⟩
    rcases (QString.move_eq_stay_iff
      (hmem c (List.mem_append_left _ hc)).1).1 hstay with heq | heq
    · exact hnil heq
    · exact hdot heq
  · intro fresh hfresh
    constructor
    · rintro rfl
      exact hother last (List.mem_append_right _ (List.mem_singleton_self _))
        hfresh.symm
    · intro hc
      obtain ⟨c, hc, hmove⟩ := List.mem_map.1 hc
      exact hother c (List.mem_append_left _ hc)
        (hfresh.symm.trans (QString.eq_of_move_eq_down hmove).symm)

/-- An installation whose only data directory is the root. -/
def atRoot {ν : Type} (fs : FileSystem ν FileName) : Installation ν :=
  ⟨fs, [QString.ofString "/"], fun _ => { name := [], exec := [] }⟩

section root

variable {ν : Type} {fs : FileSystem ν FileName} {type : SessionType}
  {directory name : QString} {start node : ν}
  (hdirectory : Session.directory type = some directory)
  (hstart : fs.move fs.root
    (.down ⟨directory, directory_isFileName hdirectory⟩) = some start)

include hstart

/-- A walk from the root to the sessions directory. -/
theorem walk_atRoot (moves : List (Move FileName)) :
    fs.walk fs.root (QString.moves (QString.ofString "/") ++
        [.stay, .down ⟨directory, directory_isFileName hdirectory⟩] ++ moves) =
      fs.walk start moves := by
  change fs.walk fs.root (.stay :: .stay :: .stay ::
    .down ⟨directory, directory_isFileName hdirectory⟩ :: moves) = _
  simp only [FileSystem.walk_cons, FileSystem.move_stay fs.root_isDir, hstart,
    Option.bind_some]

/-- What a walk from the sessions directory gets to is opened. -/
theorem opened_atRoot (hnul : 0 ∉ name)
    (hwalk : fs.walk start (desktopName name).moves = some node)
    (hnode : fs.isFile node = true) :
    opened (atRoot fs) type name = some node := by
  have hrelative : relativePath type name = some (QString.ofString "/" ++
      directory ++ QString.ofString "/" ++ desktopName name) := by
    rw [relativePath, hdirectory, Option.map_some]
  have hclean := nul_not_mem_relativePath hrelative hnul
  have hpath : (atRoot fs).file (QString.ofString "/" ++
      QString.ofString "/" ++ (QString.ofString "/" ++ directory ++
        QString.ofString "/" ++ desktopName name)) = some node := by
    rw [Installation.file, Installation.lookup, if_neg,
      moves_relative (directory_isFileName hdirectory)]
    · refine Option.filter_eq_some_iff.2 ⟨?_, hnode⟩
      exact (walk_atRoot hdirectory hstart _).trans hwalk
    · rw [List.mem_append, not_or]
      exact ⟨by decide, hclean⟩
  have hlocate : filePath (atRoot fs) type name =
      some (QString.ofString "/" ++ QString.ofString "/" ++
        (QString.ofString "/" ++ directory ++ QString.ofString "/" ++
          desktopName name)) := by
    rw [filePath, hrelative, Option.bind_some, Installation.locate]
    change [_].find? _ = _
    rw [List.find?_cons, hpath]
    rfl
  rw [opened, hlocate, Option.bind_some, hpath]

/-- What is in the sessions directory is an entry of it. -/
theorem entry_of_inSessionsDirectory
    (h : (atRoot fs).InSessionsDirectory type node) :
    ∃ entry, fs.entry start entry = some node := by
  obtain ⟨dir, hdir, directory', hdirectory', n, hn, entry, hentry⟩ := h
  obtain rfl := List.mem_singleton.1 hdir
  rw [hdirectory, Option.some.injEq] at hdirectory'
  subst hdirectory'
  unfold Installation.lookup at hn
  split at hn
  · exact absurd hn.symm (Option.some_ne_none n)
  · rw [QString.moves_append_slash,
      QString.moves_of_isFileName (directory_isFileName hdirectory)] at hn
    change fs.walk fs.root (.stay :: .stay ::
      .down ⟨directory, directory_isFileName hdirectory⟩ :: _) = _ at hn
    simp only [FileSystem.walk_cons, FileSystem.move_stay fs.root_isDir,
      hstart, Option.bind_some, FileSystem.walk_nil, Option.some.injEq] at hn
    subst hn
    exact ⟨entry, hentry⟩

end root

/-- Any other file name opens a file from outside in some installation. -/
theorem exists_opened_outside {type : SessionType} {directory name : QString}
    (hdirectory : Session.directory type = some directory) (hnul : 0 ∉ name)
    (hname : ¬ StaysInDirectory name) :
    ∃ (ν : Type) (inst : Installation ν) (node : ν),
      opened inst type name = some node ∧
        ¬ inst.InSessionsDirectory type node := by
  obtain ⟨moves, last, hmoves, hmoving, hfresh⟩ :=
    moves_of_not_staysInDirectory hname
  let fresh : FileName := ⟨freshName (desktopName name),
    freshName_isFileName _⟩
  have hlink : fresh ≠ ⟨directory, directory_isFileName hdirectory⟩ := by
    rw [ne_eq, Subtype.mk.injEq]
    exact freshName_ne ((length_directory_le hdirectory).trans
      (Nat.le_add_left 16 _))
  obtain ⟨hend, hmiss⟩ := hfresh fresh rfl
  obtain ⟨ν, fs, start, node, hstart, hwalk, hnode, hout⟩ :=
    exists_walk_out hmoving hlink hend hmiss
  refine ⟨ν, atRoot fs, node, ?_, fun hin => ?_⟩
  · exact opened_atRoot hdirectory hstart hnul (hmoves ▸ hwalk) hnode
  · obtain ⟨entry, hentry⟩ :=
      entry_of_inSessionsDirectory hdirectory hstart hin
    exact hout entry hentry

/-- Wherever a login is read, the file it opens is a session file of its
type. -/
def OpensContained (sessionType : UInt32) (name : QString) : Prop :=
  ∀ (ν : Type) (inst : Installation ν) (node : ν),
    opened inst (.ofNumber sessionType) name = some node →
      inst.InSessionsDirectory (.ofNumber sessionType) node

/-- A session comes from the file that is opened for it. -/
theorem exec_create {inst : Installation ν} {type : SessionType}
    {name : QString} (h : (create inst type name).isValid = true) :
    ∃ node, opened inst type name = some node ∧
      (create inst type name).exec = (inst.config node).exec := by
  unfold create at h ⊢
  split
  next path node hpath hnode => exact ⟨node, hnode, rfl⟩
  next hnone =>
    split at h
    next path node hpath hnode => exact absurd hnode (hnone path node hpath)
    · exact absurd h (by decide)

/-- The command of a login that is passed on comes from the file its message
opens. -/
theorem exec_of_readyRead {inst : Installation ν} {bytes : QByteArray}
    {user password : QString} {session : Session}
    (h : .login user password session ∈ SocketServer.readyRead inst bytes)
    (hvalid : session.isValid = true) :
    ∃ sessionType fileName node,
      .login user password sessionType fileName ∈
          SocketServer.readMessages ⟨bytes, .ok⟩ ∧
        opened inst (.ofNumber sessionType) fileName = some node ∧
          session.exec = (inst.config node).exec := by
  obtain ⟨message, hmessage, hsignal⟩ := List.mem_filterMap.1 h
  cases message with
  | connect => simp at hsignal
  | unknown number => simp at hsignal
  | login user' password' sessionType fileName =>
      simp only [Option.some.injEq, GreeterSignal.login.injEq] at hsignal
      obtain ⟨rfl, rfl, rfl⟩ := hsignal
      obtain ⟨node, hnode, hexec⟩ := exec_create hvalid
      exact ⟨sessionType, fileName, node, hmessage, hnode, hexec⟩

theorem directory_ofNumber_eq_none {sessionType : UInt32}
    (h : 2 ≤ sessionType) :
    directory (.ofNumber sessionType) = none := by
  have hnot : sessionType ≠ 0 ∧ sessionType ≠ 1 := by
    constructor <;> rintro rfl <;> exact absurd h (by decide)
  rw [SessionType.ofNumber, if_neg hnot.1, if_neg hnot.2, directory]

theorem directory_ofNumber_isSome {sessionType : UInt32}
    (h : ¬ 2 ≤ sessionType) :
    ∃ name, directory (.ofNumber sessionType) = some name := by
  have hcases : sessionType = 0 ∨ sessionType = 1 := by
    rw [UInt32.le_iff_toNat_le] at h
    simp only [← UInt32.toNat_inj, UInt32.reduceToNat] at h ⊢
    omega
  rcases hcases with rfl | rfl
  · exact ⟨_, rfl⟩
  · exact ⟨_, rfl⟩

/-- A name with a NUL opens nothing. -/
theorem opened_of_nul {inst : Installation ν} {type : SessionType}
    {name : QString} (hnul : 0 ∈ name) : opened inst type name = none := by
  by_contra hopened
  obtain ⟨node, hnode⟩ := Option.ne_none_iff_exists'.1 hopened
  obtain ⟨dir, _, relative, hrelative, hfile⟩ := exists_dir_of_opened hnode
  obtain ⟨directory, _, rfl⟩ := Option.map_eq_some_iff.1 hrelative
  apply (lookup_of_file hfile).1
  have hcompleted : 0 ∈ desktopName name := by
    unfold desktopName
    split
    · exact hnul
    · exact List.mem_append_left _ hnul
  exact List.mem_append_right _ (List.mem_append_right _ hcompleted)

end Session

open Session in
/-- Whatever bytes a login is read from, it opens only session files exactly
when its type is unknown, or its file name holds a NUL or stays in its
directory. -/
theorem login_opensContained_iff (sessionType : UInt32) (fileName : QString) :
    OpensContained sessionType fileName ↔
      2 ≤ sessionType ∨ 0 ∈ fileName ∨ StaysInDirectory fileName := by
  constructor
  · intro hcontained
    by_contra hnot
    simp only [not_or] at hnot
    obtain ⟨htype, hnul, hname⟩ := hnot
    obtain ⟨directory, hdirectory⟩ := directory_ofNumber_isSome htype
    obtain ⟨ν, inst, node, hopened, houtside⟩ :=
      exists_opened_outside hdirectory hnul hname
    exact houtside (hcontained ν inst node hopened)
  · rintro (htype | hnul | hname) ν inst node hopened
    · rw [opened, filePath, relativePath, directory_ofNumber_eq_none htype]
        at hopened
      simp at hopened
    · rw [opened_of_nul hnul] at hopened
      simp at hopened
    · exact inSessionsDirectory_of_stays hname hopened

open Session in
/-- The greeter's own session files stay where they are. -/
theorem login_opensContained_plasma : OpensContained 1 "plasma.desktop" :=
  (login_opensContained_iff 1 "plasma.desktop").2 (Or.inr (Or.inr (by
    unfold StaysInDirectory
    decide)))

/-- The directories `/usr/share`, an empty one for sessions and one for
applications below it, and a file anybody may have put there. -/
inductive UsrNode where
  | root
  | usr
  | share
  | sessions
  | applications
  | evil
deriving DecidableEq

/-- The entries of the directories, from the outermost one on. -/
def UsrNode.entry : UsrNode → QString → Option UsrNode
  | .root, name => if name = QString.ofString "usr" then some .usr else none
  | .usr, name => if name = QString.ofString "share" then some .share else none
  | .share, name =>
      if name = QString.ofString "wayland-sessions" then some .sessions
      else if name = QString.ofString "applications" then some .applications
      else none
  | .applications, name =>
      if name = QString.ofString "evil.desktop" then some .evil else none
  | _, _ => none

/-- A machine with no sessions and one application. -/
def Installation.usrShare : Installation UsrNode where
  fs := {
    root := .root
    isDir := fun n => n ≠ .evil
    isFile := fun n => n = .evil
    parent := fun
      | .sessions | .applications => .share
      | .evil => .applications
      | .share => .usr
      | _ => .root
    entry := fun n name => n.entry name.val
    root_isDir := rfl
    parent_root := rfl
    isDir_of_isFile := fun n => by cases n <;> decide
    entry_parent := fun n => by
      cases n with
      | root => exact fun h => absurd rfl h
      | usr => exact fun _ => ⟨⟨"usr", by decide⟩, rfl⟩
      | share => exact fun _ => ⟨⟨"share", by decide⟩, rfl⟩
      | sessions => exact fun _ => ⟨⟨"wayland-sessions", by decide⟩, rfl⟩
      | applications => exact fun _ => ⟨⟨"applications", by decide⟩, rfl⟩
      | evil => exact fun _ => ⟨⟨"evil.desktop", by decide⟩, rfl⟩ }
  dataDirs := ["/usr/local/share", "/usr/share"]
  config _ := { name := [], exec := "/tmp/evil" }

open Session in
/-- A login for a file of the applications directory opens it. -/
theorem login_not_opensContained :
    ¬ ∀ (bytes : QByteArray) (user password : QString) (sessionType : UInt32)
      (fileName : QString),
        .login user password sessionType fileName ∈
            SocketServer.readMessages ⟨bytes, .ok⟩ →
          OpensContained sessionType fileName := by
  intro hall
  have hread := SocketServer.readMessages_login "bob" "hunter2"
    "../applications/evil" (by decide) (by decide) (by decide) 1 [] .ok
  rw [List.append_nil] at hread
  have hcontained := hall _ _ _ 1 "../applications/evil"
    (hread ▸ List.mem_cons_self)
  obtain ⟨dir, hdir, directory, hdirectory, n, hn, name, hname⟩ :=
    hcontained UsrNode .usrShare .evil (by decide)
  obtain rfl := Option.some.inj hdirectory
  have hlocal : Installation.usrShare.lookup
      (QString.ofString "/usr/local/share" ++ QString.ofString "/" ++
        QString.ofString "wayland-sessions") = none := by decide
  have hshare : Installation.usrShare.lookup
      (QString.ofString "/usr/share" ++ QString.ofString "/" ++
        QString.ofString "wayland-sessions") = some .sessions := by decide
  have hsessions : n = .sessions := by
    rcases List.mem_cons.1 hdir with rfl | hdir
    · rw [hlocal] at hn
      simp at hn
    · obtain rfl := List.mem_singleton.1 hdir
      rw [hshare, Option.some.injEq] at hn
      exact hn.symm
  subst hsessions
  exact absurd hname (by simp [Installation.usrShare, UsrNode.entry])

end PlasmaLogin

/-
The two ways to a session's file: the greeter lists the sessions directories
and keeps the first file of a name, the daemon asks for one name in one data
directory after the other.
-/
import PlasmaLogin.FirstMatch
import PlasmaLogin.SessionModel

namespace PlasmaLogin

open FirstMatch PathWalk

namespace QString

/-- Two spellings of one path: they walk alike, but for doubled separators. -/
def SamePath (p q : QString) : Prop :=
  p.moves.filter (· ≠ .stay) = q.moves.filter (· ≠ .stay)

instance (p q : QString) : Decidable (SamePath p q) :=
  inferInstanceAs (Decidable (_ = _))

theorem fileName_append_slash (dir : QString) {name : QString}
    (hname : slash ∉ name) :
    (dir ++ QString.ofString "/" ++ name).fileName = name := by
  have hsingle : components name = [name] := List.splitOn_eq_singleton hname
  rw [fileName, components_append_slash, hsingle, List.getLast?_concat]
  rfl

/-- The last steps of two spellings of one path are the same. -/
theorem SamePath.last {dir dir' name name' : QString} (hname : IsFileName name)
    (hname' : IsFileName name')
    (h : SamePath (dir ++ QString.ofString "/" ++ name)
      (dir' ++ QString.ofString "/" ++ name')) : name = name' := by
  unfold SamePath at h
  rw [moves_append_slash, moves_append_slash, moves_of_isFileName hname,
    moves_of_isFileName hname', List.filter_append, List.filter_append] at h
  have hlast := congrArg List.getLast? h
  simp only [ne_eq, reduceCtorEq, not_false_eq_true, decide_true,
    List.filter_cons_of_pos, List.filter_nil, List.getLast?_concat,
    Option.some.injEq, Move.down.injEq] at hlast
  exact congrArg Subtype.val hlast

end QString

namespace SessionKind

theorem directory_isFileName (type : SessionKind) :
    IsFileName type.directory := by
  cases type <;> decide

theorem directory_daemonType (type : SessionKind) :
    Session.directory type.daemonType = some type.directory := by
  cases type <;> rfl

end SessionKind

namespace SessionModel

variable {ν : Type} {inst : ListedInstallation ν}

/-- The sessions directory of a type in a data directory. -/
def sessionsDir (type : SessionKind) (dataDir : QString) : QString :=
  dataDir ++ QString.ofString "/" ++ type.directory

/-- The path the greeter reads a session from. -/
def listedPath (type : SessionKind) (name dataDir : QString) : QString :=
  absoluteFilePath (sessionsDir type dataDir) name

/-- The path the daemon looks a session up at. -/
def locatedPath (type : SessionKind) (name dataDir : QString) : QString :=
  dataDir ++ QString.ofString "/" ++ (QString.ofString "/" ++ type.directory ++
    QString.ofString "/" ++ name)

theorem fileName_listedPath (type : SessionKind) {name : QString}
    (hname : slash ∉ name) (dataDir : QString) :
    (listedPath type name dataDir).fileName = name :=
  QString.fileName_append_slash _ hname

theorem moves_listedPath (type : SessionKind) (name dataDir : QString) :
    (listedPath type name dataDir).moves = dataDir.moves ++
      [.down ⟨type.directory, type.directory_isFileName⟩] ++ name.moves := by
  rw [listedPath, absoluteFilePath, sessionsDir, QString.moves_append_slash,
    QString.moves_append_slash,
    QString.moves_of_isFileName type.directory_isFileName]

theorem moves_locatedPath (type : SessionKind) (name dataDir : QString) :
    (locatedPath type name dataDir).moves = dataDir.moves ++
      [.stay, .down ⟨type.directory, type.directory_isFileName⟩] ++
        name.moves :=
  Session.moves_relative type.directory_isFileName dataDir name

theorem samePath_locatedPath (type : SessionKind) (name dataDir : QString) :
    QString.SamePath (locatedPath type name dataDir)
      (listedPath type name dataDir) := by
  simp [QString.SamePath, moves_locatedPath, moves_listedPath,
    List.filter_append]

/-- Both spellings lead to the same file. -/
theorem file_locatedPath (type : SessionKind) (name dataDir : QString) :
    inst.file (locatedPath type name dataDir) =
      inst.file (listedPath type name dataDir) := by
  have hnul : (0 ∈ locatedPath type name dataDir) =
      (0 ∈ listedPath type name dataDir) := by
    simp only [locatedPath, listedPath, absoluteFilePath, sessionsDir,
      List.mem_append, eq_iff_iff]
    have hslash : ¬ (0 : UInt16) ∈ QString.ofString "/" := by decide
    tauto
  have hwalk : inst.fs.walk inst.fs.root (locatedPath type name dataDir).moves =
      inst.fs.walk inst.fs.root (listedPath type name dataDir).moves := by
    rw [moves_locatedPath, moves_listedPath, List.append_assoc,
      List.append_assoc, FileSystem.walk_append, FileSystem.walk_append]
    congr 1
    funext n
    exact inst.fs.walk_stay_down n _ _
  rw [Installation.file, Installation.file, Installation.lookup,
    Installation.lookup, hwalk]
  simp only [hnul]

/-- The file at an entry of a directory. -/
theorem file_absoluteFilePath (path : QString) {name : QString}
    (hname : IsFileName name) (hnul : 0 ∉ name) :
    inst.file (absoluteFilePath path name) = (dir inst path).bind fun n =>
      (inst.fs.entry n ⟨name, hname⟩).filter fun n => inst.fs.isFile n := by
  have hmem : 0 ∈ absoluteFilePath path name ↔ 0 ∈ path := by
    have hslash : ¬ (0 : UInt16) ∈ QString.ofString "/" := by decide
    simp only [absoluteFilePath, List.mem_append]
    tauto
  have hmoves : (absoluteFilePath path name).moves =
      path.moves ++ [.down ⟨name, hname⟩] := by
    rw [absoluteFilePath, QString.moves_append_slash,
      QString.moves_of_isFileName hname]
  rw [Installation.file, dir, Installation.lookup, Installation.lookup, hmoves,
    FileSystem.walk_append]
  simp only [hmem]
  split
  · rfl
  · cases inst.fs.walk inst.fs.root path.moves with
    | none => rfl
    | some n =>
        cases hdir : inst.fs.isDir n <;>
          simp [FileSystem.move, hdir, Option.filter_some]

/-- What a directory lists: its files with a matching name. -/
theorem mem_entryList_iff {path name : QString} :
    name ∈ entryList inst path ↔ IsFileName name ∧ nameFilter name = true ∧
      isHidden name = false ∧
        (inst.file (absoluteFilePath path name)).isSome = true := by
  constructor
  · intro h
    unfold entryList at h
    cases hdir : dir inst path with
    | none => simp [hdir] at h
    | some n =>
        simp only [hdir, List.mem_map, List.mem_filter, Bool.and_eq_true,
          Bool.not_eq_true'] at h
        obtain ⟨entry, ⟨hentry, ⟨hfilter, hhidden⟩, hfile⟩, rfl⟩ := h
        refine ⟨entry.property, hfilter, hhidden, ?_⟩
        rw [file_absoluteFilePath path entry.property
          (inst.nul_not_mem n entry hentry), hdir, Option.bind_some]
        obtain ⟨node, hnode, hisFile⟩ := (Option.any_eq_true ..).1 hfile
        simp [hnode, hisFile]
  · rintro ⟨hname, hfilter, hhidden, hfile⟩
    have hnul : 0 ∉ name := by
      obtain ⟨node, hnode⟩ := Option.isSome_iff_exists.1 hfile
      have hpath := (Session.lookup_of_file hnode).1
      simp only [absoluteFilePath, List.mem_append, not_or] at hpath
      exact hpath.2
    rw [file_absoluteFilePath path hname hnul] at hfile
    unfold entryList
    cases hdir : dir inst path with
    | none => simp [hdir] at hfile
    | some n =>
        rw [hdir, Option.bind_some] at hfile
        obtain ⟨node, hnode⟩ := Option.isSome_iff_exists.1 hfile
        obtain ⟨hentry, hisFile⟩ := Option.filter_eq_some_iff.1 hnode
        simp only [List.mem_map, List.mem_filter, Bool.and_eq_true,
          Bool.not_eq_true']
        refine ⟨⟨name, hname⟩, ⟨?_, ⟨hfilter, hhidden⟩, ?_⟩, rfl⟩
        · rw [inst.mem_names_iff, hentry]
          rfl
        · rw [hentry]
          exact hisFile

/-- The paths the sessions directories of a type hold, in the order of the
data directories, without regard to their names. -/
def candidates (inst : ListedInstallation ν) (type : SessionKind) :
    List QString :=
  inst.dataDirs.flatMap fun dataDir =>
    (entryList inst (sessionsDir type dataDir)).map
      (absoluteFilePath (sessionsDir type dataDir))

theorem entryList_eq_nil {path : QString} (h : dir inst path = none) :
    entryList inst path = [] := by
  rw [entryList, h]

theorem addSessionPath_eq {path name : QString} (hname : slash ∉ name)
    (paths : List QString) : addSessionPath path paths name =
      addNew QString.fileName paths (absoluteFilePath path name) := by
  have hbare : name.fileName = name := by
    rw [QString.fileName, QString.components,
      List.splitOn_eq_singleton hname]
    rfl
  have hfull : (absoluteFilePath path name).fileName = name :=
    QString.fileName_append_slash path hname
  rw [addSessionPath, addNew, hbare, hfull]

theorem foldl_addSessionPath {path : QString} {entries : List QString}
    (hentries : ∀ name ∈ entries, slash ∉ name) (paths : List QString) :
    entries.foldl (addSessionPath path) paths =
      (entries.map (absoluteFilePath path)).foldl (addNew QString.fileName)
        paths := by
  induction entries generalizing paths with
  | nil => rfl
  | cons name rest ih =>
      rw [List.foldl_cons, List.map_cons, List.foldl_cons,
        addSessionPath_eq (hentries name List.mem_cons_self),
        ih fun other h => hentries other (List.mem_cons_of_mem name h)]

/-- The greeter keeps the first path of each file name. -/
theorem getSessionsPaths_eq (type : SessionKind) :
    getSessionsPaths inst (locateAll inst type.directory) =
      (candidates inst type).foldl (addNew QString.fileName) [] := by
  have hsteps : ∀ (dirs : List QString) (paths : List QString),
      (((dirs.map fun dataDir => sessionsDir type dataDir).filter fun path =>
          (dir inst path).isSome).foldl (fun paths path =>
            (entryList inst path).foldl (addSessionPath path) paths) paths) =
        (dirs.flatMap fun dataDir =>
          (entryList inst (sessionsDir type dataDir)).map
            (absoluteFilePath (sessionsDir type dataDir))).foldl
              (addNew QString.fileName) paths := by
    intro dirs
    induction dirs with
    | nil => exact fun paths => rfl
    | cons dataDir rest ih =>
        intro paths
        rw [List.map_cons, List.flatMap_cons, List.foldl_append,
          ← foldl_addSessionPath
            (fun name hmem => (mem_entryList_iff.1 hmem).1.2.2.2), ← ih]
        cases hdir : dir inst (sessionsDir type dataDir) with
        | none =>
            rw [List.filter_cons_of_neg (by simp [hdir]),
              entryList_eq_nil hdir, List.foldl_nil]
        | some n =>
            rw [List.filter_cons_of_pos (by simp [hdir]), List.foldl_cons]
  exact hsteps inst.dataDirs []

theorem find?_map_absoluteFilePath (path name : QString)
    {entries : List QString} (hentries : ∀ entry ∈ entries, slash ∉ entry) :
    (entries.map (absoluteFilePath path)).find? (fun p => p.fileName = name) =
      if name ∈ entries then some (absoluteFilePath path name) else none := by
  induction entries with
  | nil => rfl
  | cons entry rest ih =>
      have hbare : (absoluteFilePath path entry).fileName = entry :=
        QString.fileName_append_slash path
          (hentries entry List.mem_cons_self)
      rw [List.map_cons]
      by_cases heq : entry = name
      · subst heq
        rw [List.find?_cons_of_pos (by simpa using hbare),
          if_pos List.mem_cons_self]
      · rw [List.find?_cons_of_neg (by simpa [hbare] using heq),
          ih fun other h => hentries other (List.mem_cons_of_mem entry h)]
        simp only [List.mem_cons, Ne.symm heq, false_or]

/-- A file name that the greeter lists when it finds a file of that name. -/
structure Listable (name : QString) : Prop where
  isFileName : IsFileName name
  nameFilter : nameFilter name = true
  isHidden : isHidden name = false

/-- There is a session file of that name in a data directory. -/
def provides (inst : ListedInstallation ν) (type : SessionKind)
    (name dataDir : QString) : Bool :=
  (inst.file (listedPath type name dataDir)).isSome

theorem mem_entryList_sessionsDir {type : SessionKind} {name : QString}
    (hname : Listable name) (dataDir : QString) :
    name ∈ entryList inst (sessionsDir type dataDir) ↔
      provides inst type name dataDir = true := by
  rw [mem_entryList_iff]
  constructor
  · exact fun h => h.2.2.2
  · exact fun h => ⟨hname.isFileName, hname.nameFilter, hname.isHidden, h⟩

/-- What the greeter keeps for a name is the file of the first data directory
that provides it. -/
theorem find?_getSessionsPaths (type : SessionKind) {name : QString}
    (hname : Listable name) :
    (getSessionsPaths inst (locateAll inst type.directory)).find?
        (fun path => path.fileName = name) =
      (inst.dataDirs.find? (provides inst type name)).map
        (listedPath type name) := by
  rw [getSessionsPaths_eq, find?_foldl_addNew, List.nil_append, candidates]
  generalize inst.dataDirs = dataDirs
  induction dataDirs with
  | nil => rfl
  | cons dataDir rest ih =>
      rw [List.flatMap_cons, List.find?_append, ih,
        find?_map_absoluteFilePath _ _
          fun entry h => (mem_entryList_iff.1 h).1.2.2.2]
      by_cases hprovides : provides inst type name dataDir = true
      · rw [if_pos ((mem_entryList_sessionsDir hname dataDir).2 hprovides),
          List.find?_cons_of_pos hprovides, Option.some_or]
        rfl
      · rw [if_neg fun h =>
            hprovides ((mem_entryList_sessionsDir hname dataDir).1 h),
          List.find?_cons_of_neg hprovides, Option.none_or]

/-- What the daemon opens for a completed name is the file of the first data
directory that provides it. -/
theorem filePath_eq (type : SessionKind) {name : QString}
    (hname : (QString.ofString ".desktop").isSuffixOf name = true) :
    Session.filePath inst.toInstallation type.daemonType name =
      (inst.dataDirs.find? (provides inst type name)).map
        (locatedPath type name) := by
  have hcomplete : Session.desktopName name = name := if_pos hname
  rw [Session.filePath, Session.relativePath, type.directory_daemonType,
    Option.map_some, Option.bind_some, hcomplete, Installation.locate,
    List.find?_map]
  congr 1
  apply congrArg (List.find? · inst.dataDirs)
  funext dataDir
  exact congrArg Option.isSome (file_locatedPath type name dataDir)

end SessionModel

end PlasmaLogin

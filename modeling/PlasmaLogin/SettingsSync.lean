/-
Copying the user's settings to the greeter.  The function runs as the
greeter's user, on whatever is in the home directory, and every step can be
refused by the system; none of them is looked at.
-/
import PlasmaLogin.HelperActions
import PlasmaLogin.LinkedFiles
import PlasmaLogin.SessionFiles

namespace PlasmaLogin

open LinkedFiles PathWalk

/-- The files below the greeter's root, with every link in them. -/
abbrev FileTree := Tree FileName QByteArray

/-- What the system refuses: directory entries that cannot be removed,
directories that cannot be made, files that cannot be opened, and how many
bytes of a file it stores if not all. -/
structure SyncRefusals where
  entries : List (List FileName) := []
  mkdirConfig : Bool := false
  mkdirFontconfig : Bool := false
  opens : QString → Bool := fun _ => false
  stored : QString → Option Nat := fun _ => none

/-- The state of the child, with the names of the given files it could not
write. -/
structure SyncState where
  tree : FileTree
  unwritten : List QString := []

/-- What `PlasmaLoginAuthHelper::sync` meets. -/
structure SyncSurroundings where
  user : GreeterUser
  repaired : Bool := true
  run : ChildRun := {}
  refusals : SyncRefusals := {}

/-- Nothing keeps `sync` from the end of its function. -/
def SyncSurroundings.Completes (env : SyncSurroundings) : Prop :=
  env.user.homeDir ≠ [] ∧ env.user.valid = true ∧ env.repaired = true ∧
    env.run.Completes

namespace PlasmaLoginAuthHelper

/-- The names `sync` manages, in its order. -/
def managed : List QString :=
  ["kxkbrc", "kdeglobals", "plasmarc", "plasma-localerc", "kcminputrc",
    "kwinoutputconfig.json", "fontconfig/fonts.conf"]

def cacheName : FileName := ⟨".cache", by decide⟩

def configName : FileName := ⟨".config", by decide⟩

def fontconfigName : FileName := ⟨"fontconfig", by decide⟩

/-- `homeDir + "/.config/" + name`. -/
def configPath (homeDir name : QString) : QString :=
  homeDir ++ ("/.config/" : QString) ++ name

/-- `QFile::remove`; a path that ends with a separator names no entry that
`unlink` removes. -/
def removeFile (path : QString) (t : FileTree) : FileTree :=
  match path.moves.getLast? with
  | some (.down name) => t.unlink path.moves.dropLast name
  | _ => t

/-- The part of the function that clears the cache. -/
def clearCache (homeDir : QString) (refusals : SyncRefusals) (t : FileTree) :
    FileTree :=
  let path := QString.moves (homeDir ++ ("/.cache" : QString))
  match t.location path, t.location homeDir.moves with
  | some l, some home =>
      -- a link to a directory is emptied, but it is no directory to remove
      let resisting := if (t.links (home ++ [cacheName])).isSome
        then l :: refusals.entries else refusals.entries
      if t.isDirAt l then t.removeRecursively l resisting else t
  | _, _ => t

/-- The part of the function that makes the configuration directory. -/
def makeConfigDir (homeDir : QString) (refusals : SyncRefusals)
    (t : FileTree) : FileTree :=
  if t.isDir (QString.moves (homeDir ++ ("/.config" : QString))) ||
    refusals.mkdirConfig then t
  else t.mkdir homeDir.moves configName

def makeFontconfigDir (homeDir : QString) (refusals : SyncRefusals)
    (t : FileTree) : FileTree :=
  if t.isDir (QString.moves (homeDir ++ ("/.config/fontconfig" : QString))) ||
    refusals.mkdirFontconfig then t
  else
    t.mkdir (QString.moves (homeDir ++ ("/.config" : QString))) fontconfigName

/-- What the system stores of a file's content. -/
def storedBytes (refusals : SyncRefusals) (name content : QString) :
    QByteArray :=
  match refusals.stored name with
  | none => content.streamed
  | some n => content.streamed.take n

/-- The file can be opened and takes all of its content. -/
def writesFully (homeDir : QString) (refusals : SyncRefusals)
    (name content : QString) (t : FileTree) : Bool :=
  !refusals.opens name &&
    (t.openForWriting (configPath homeDir name).moves).isSome &&
      storedBytes refusals name content = content.streamed

/-- `createConfigFile`. -/
def createConfigFile (args : QString → Option Variant) (homeDir : QString)
    (refusals : SyncRefusals) (name : QString) (s : SyncState) : SyncState :=
  match args name with
  | none => { s with tree := removeFile (configPath homeDir []) s.tree }
  | some value =>
      let content := value.toString
      { tree :=
          if refusals.opens name then s.tree
          else s.tree.write (configPath homeDir name).moves
            (storedBytes refusals name content),
        unwritten :=
          if writesFully homeDir refusals name content s.tree then s.unwritten
          else s.unwritten ++ [name] }

/-- The steps before the first file. -/
def prepare (homeDir : QString) (refusals : SyncRefusals) (t : FileTree) :
    FileTree :=
  makeFontconfigDir homeDir refusals
    (makeConfigDir homeDir refusals (clearCache homeDir refusals t))

/-- The function `sync` runs as the greeter's user. -/
def syncFunction (args : QString → Option Variant) (homeDir : QString)
    (refusals : SyncRefusals) : List (SyncState → SyncState) :=
  [fun s => { s with tree := clearCache homeDir refusals s.tree },
    fun s => { s with tree := makeConfigDir homeDir refusals s.tree },
    fun s => { s with tree := makeFontconfigDir homeDir refusals s.tree }] ++
    managed.map (createConfigFile args homeDir refusals)

/-- `PlasmaLoginAuthHelper::sync`. -/
def sync (args : QString → Option Variant) (env : SyncSurroundings)
    (t : FileTree) : ActionReply × SyncState :=
  match plasmaloginUserHomeDir env.user with
  | none => (.helperError, { tree := t })
  | some homeDir =>
      if !adjustPermissionsFromPlasma6_6 env.user env.repaired then
        (.helperError, { tree := t })
      else
        let r := runAsPlasmaLoginUser env.user env.run
          ((syncFunction args homeDir env.refusals).map
            fun step s => (step s, true)) { tree := t }
        (if r.2 then .success else .helperError, r.1)

/-- The path without a name is that of the directory, which stays. -/
theorem removeFile_configPath (homeDir : QString) (t : FileTree) :
    removeFile (configPath homeDir []) t = t := by
  have hpath : configPath homeDir [] =
      homeDir ++ ("/.config" : QString) ++ QString.ofString "/" ++ [] := by
    simp only [configPath, List.append_assoc]
    rfl
  have hmoves : (configPath homeDir []).moves =
      QString.moves (homeDir ++ ("/.config" : QString)) ++ [.stay] := by
    rw [hpath, QString.moves_append_slash]
    rfl
  rw [removeFile, hmoves, List.getLast?_concat]

/-- The writes of the function, for the names that were given. -/
def writes (args : QString → Option Variant) (homeDir : QString)
    (refusals : SyncRefusals) (names : List QString) :
    List (List (Move FileName) × QByteArray) :=
  names.filterMap fun name => (args name).bind fun value =>
    if refusals.opens name then none
    else some ((configPath homeDir name).moves,
      storedBytes refusals name value.toString)

/-- The names that are given and not written in full. -/
def failures (args : QString → Option Variant) (homeDir : QString)
    (refusals : SyncRefusals) (t : FileTree) (names : List QString) :
    List QString :=
  names.filter fun name => (args name).any fun value =>
    !writesFully homeDir refusals name value.toString t

section runs

variable {args : QString → Option Variant} {homeDir : QString}
  {refusals : SyncRefusals}

theorem writesFully_write (name content : QString) (path : List (Move FileName))
    (bytes : QByteArray) (t : FileTree) :
    writesFully homeDir refusals name content (t.write path bytes) =
      writesFully homeDir refusals name content t := by
  rw [writesFully, writesFully, Tree.openForWriting_write]

theorem failures_write (path : List (Move FileName)) (bytes : QByteArray)
    (t : FileTree) (names : List QString) :
    failures args homeDir refusals (t.write path bytes) names =
      failures args homeDir refusals t names := by
  simp only [failures, writesFully_write]

/-- The files, one after the other. -/
theorem foldl_createConfigFile (names : List QString) (s : SyncState) :
    names.foldl (fun s name => createConfigFile args homeDir refusals name s)
        s =
      { tree := s.tree.writeAll (writes args homeDir refusals names),
        unwritten :=
          s.unwritten ++ failures args homeDir refusals s.tree names } := by
  induction names generalizing s with
  | nil => simp [writes, failures, Tree.writeAll]
  | cons name names ih =>
      rw [List.foldl_cons, ih, createConfigFile]
      cases hvalue : args name with
      | none =>
          simp only [removeFile_configPath]
          simp [writes, failures, hvalue]
      | some value =>
          by_cases hopens : refusals.opens name = true
          · simp [writes, failures, hvalue, hopens, writesFully]
          · rw [Bool.not_eq_true] at hopens
            simp only [hopens, Bool.false_eq_true, ↓reduceIte,
              failures_write]
            have hwrites : writes args homeDir refusals (name :: names) =
                ((configPath homeDir name).moves,
                  storedBytes refusals name value.toString) ::
                    writes args homeDir refusals names := by
              simp [writes, hvalue, hopens]
            rw [hwrites, Tree.writeAll]
            cases hfully : writesFully homeDir refusals name value.toString
                s.tree with
            | true => simp [failures, hvalue, hfully]
            | false => simp [failures, hvalue, hfully]

end runs

/-- The state at the end of the function. -/
theorem foldl_syncFunction (args : QString → Option Variant)
    (homeDir : QString) (refusals : SyncRefusals) (t : FileTree) :
    (syncFunction args homeDir refusals).foldl (fun s step => step s)
        { tree := t } =
      { tree := (prepare homeDir refusals t).writeAll
          (writes args homeDir refusals managed),
        unwritten := failures args homeDir refusals
          (prepare homeDir refusals t) managed } := by
  rw [syncFunction, List.foldl_append, List.foldl_map,
    foldl_createConfigFile]
  rfl

theorem sync_of_completes (args : QString → Option Variant)
    {env : SyncSurroundings} (h : env.Completes) (t : FileTree) :
    sync args env t = (.success,
      { tree := (prepare env.user.homeDir env.refusals t).writeAll
          (writes args env.user.homeDir env.refusals managed),
        unwritten := failures args env.user.homeDir env.refusals
          (prepare env.user.homeDir env.refusals t) managed }) := by
  obtain ⟨hhome, hvalid, hrepaired, hrun⟩ := h
  have hdir : plasmaloginUserHomeDir env.user = some env.user.homeDir := by
    rw [plasmaloginUserHomeDir, if_neg (by simpa using hhome)]
  have hadjust : adjustPermissionsFromPlasma6_6 env.user env.repaired = true := by
    simp [adjustPermissionsFromPlasma6_6, hvalid, hrepaired, hhome]
  simp only [sync, hdir, hadjust, Bool.not_true, Bool.false_eq_true,
    ↓reduceIte, runAsPlasmaLoginUser_of_completes hvalid hrun,
    runSteps_of_forall, foldl_syncFunction]

theorem completes_of_sync {args : QString → Option Variant}
    {env : SyncSurroundings} {t : FileTree}
    (h : (sync args env t).1 = .success) : env.Completes := by
  rw [sync] at h
  split at h
  · exact absurd h (by simp)
  next homeDir hhome =>
    split at h
    · exact absurd h (by simp)
    next hadjust =>
      simp only at h
      split at h
      next hrun =>
        obtain ⟨hvalid, hcompletes⟩ := completes_of_runAsPlasmaLoginUser hrun
        rw [Bool.not_eq_true, Bool.not_eq_false',
          adjustPermissionsFromPlasma6_6, Bool.and_eq_true,
          Bool.and_eq_true] at hadjust
        exact ⟨by simpa using hadjust.1.2, hvalid, hadjust.2, hcompletes⟩
      · exact absurd h (by simp)

end PlasmaLoginAuthHelper

end PlasmaLogin

/-
`SessionModel`, the sessions the greeter offers: the desktop files in the
sessions directories of all data directories, one for each file name of a
type, in the order they are shown.
-/
import PlasmaLogin.SessionFiles
import Mathlib.Data.List.Sort

namespace PlasmaLogin

open PathWalk

namespace QString

/-- `QFileInfo::fileName`: what follows the last separator. -/
def fileName (path : QString) : QString := path.components.getLast?.getD []

/-- A code unit without its case; only what folds to an ASCII letter
matters here. -/
def foldCase (c : UInt16) : UInt16 :=
  if 65 ≤ c ∧ c ≤ 90 then c + 32
  else if c = 0x17F then 115
  else if c = 0x212A then 107
  else c

end QString

/-- What `KDesktopFile` reads of a session: `readName` and `readComment`. -/
structure DesktopTexts where
  name : QString := []
  comment : QString := []
deriving DecidableEq, Repr

/-- An installation whose directories can be listed. -/
structure ListedInstallation (ν : Type) extends Installation ν where
  names : ν → List FileName
  texts : ν → DesktopTexts
  mem_names_iff : ∀ n name, name ∈ names n ↔ (fs.entry n name).isSome = true
  nul_not_mem : ∀ n, ∀ name ∈ names n, 0 ∉ name.val

/-- `Session::Type` of the model. -/
inductive SessionKind where
  | x11
  | wayland
deriving DecidableEq, Repr

namespace SessionKind

/-- The value of the enumerator, which a login sends. -/
def number : SessionKind → UInt32
  | .x11 => 0
  | .wayland => 1

/-- The type the daemon takes the number for. -/
def daemonType (kind : SessionKind) : SessionType := .ofNumber kind.number

/-- The directory for the sessions of the type, below a data directory. -/
def directory : SessionKind → QString
  | .x11 => "xsessions"
  | .wayland => "wayland-sessions"

end SessionKind

/-- `Session` of the model. -/
structure ModelSession where
  type : SessionKind
  path : QString
  displayName : QString
  comment : QString
deriving DecidableEq, Repr

namespace ModelSession

/-- The value of a session's `FileNameRole`. -/
def fileName (s : ModelSession) : QString := s.path.fileName

def isPlasma (s : ModelSession) : Bool :=
  (QString.ofString "plasma").isPrefixOf s.fileName

/-- The comparison `populate` sorts with, over `localeAwareCompare`. -/
def sortsBefore (localeAwareCompare : QString → QString → Ordering)
    (a b : ModelSession) : Bool :=
  if a.isPlasma && !b.isPlasma then true
  else if !a.isPlasma && b.isPlasma then false
  else
    match localeAwareCompare a.displayName b.displayName with
    | .lt => true
    | .gt => false
    | .eq => a.type = .wayland && b.type ≠ .wayland

end ModelSession

namespace SessionModel

variable {ν : Type}

/-- `QDir::exists` with the directory itself. -/
def dir (inst : ListedInstallation ν) (path : QString) : Option ν :=
  (inst.lookup path).filter fun n => inst.fs.isDir n

/-- `QStandardPaths::locateAll` for directories in the generic data
directories. -/
def locateAll (inst : ListedInstallation ν) (relative : QString) :
    List QString :=
  (inst.dataDirs.map fun dir =>
    dir ++ QString.ofString "/" ++ relative).filter fun path =>
      (dir inst path).isSome

/-- The name filter `*.desktop`, which ignores case. -/
def nameFilter (name : QString) : Bool :=
  (QString.ofString ".desktop").isSuffixOf (name.map QString.foldCase)

/-- A name `QDir` leaves out unless it is asked for hidden files. -/
def isHidden (name : QString) : Bool :=
  (QString.ofString ".").isPrefixOf name

/-- `QDir::entryList` with the filters of `getSessionsPaths`. -/
def entryList (inst : ListedInstallation ν) (path : QString) : List QString :=
  match dir inst path with
  | none => []
  | some n =>
      ((inst.names n).filter fun name =>
        nameFilter name.val && !isHidden name.val &&
          (inst.fs.entry n name).any inst.fs.isFile).map Subtype.val

/-- `QDir::absoluteFilePath`. -/
def absoluteFilePath (dir fileName : QString) : QString :=
  dir ++ QString.ofString "/" ++ fileName

/-- The inner loop of `getSessionsPaths`. -/
def addSessionPath (dir : QString) (paths : List QString)
    (sessionPath : QString) : List QString :=
  let sessionFileName := sessionPath.fileName
  if paths.any fun existing => existing.fileName = sessionFileName then paths
  else paths ++ [absoluteFilePath dir sessionFileName]

/-- `SessionModel::getSessionsPaths`. -/
def getSessionsPaths (inst : ListedInstallation ν) (dirs : List QString) :
    List QString :=
  dirs.foldl (fun paths dir =>
    (entryList inst dir).foldl (addSessionPath dir) paths) []

/-- `SessionModel::getSession`. -/
def getSession (inst : ListedInstallation ν) (path : QString)
    (type : SessionKind) : ModelSession :=
  let texts := ((inst.file path).map inst.texts).getD {}
  ⟨type, path, texts.name, texts.comment⟩

/-- The sessions of one type, as `populate` appends them. -/
def sessionsOf (inst : ListedInstallation ν) (type : SessionKind) :
    List ModelSession :=
  (getSessionsPaths inst (locateAll inst type.directory)).map fun path =>
    getSession inst path type

/-- What `SessionModel::populate` has collected when it starts sorting. -/
def collected (inst : ListedInstallation ν) : List ModelSession :=
  sessionsOf inst .x11 ++ sessionsOf inst .wayland

/-- The lists `SessionModel::populate` can leave behind: `std::sort` keeps no
order among sessions the comparison does not tell apart. -/
def Populates (localeAwareCompare : QString → QString → Ordering)
    (inst : ListedInstallation ν) (sessions : List ModelSession) : Prop :=
  sessions.Perm (collected inst) ∧ sessions.Pairwise fun a b =>
    ModelSession.sortsBefore localeAwareCompare b a = false

/-- One such list. -/
def populate (localeAwareCompare : QString → QString → Ordering)
    (inst : ListedInstallation ν) : List ModelSession :=
  (collected inst).insertionSort fun a b =>
    ModelSession.sortsBefore localeAwareCompare b a = false

/-- `Qt::DisplayRole` and `SessionModel::SessionRoles`. -/
inductive Role where
  | display
  | type
  | fileName
  | displayName
  | comment
  | other
deriving DecidableEq, Repr

/-- The values `SessionModel::data` returns, as `QVariant` holds them. -/
inductive Value where
  | invalid
  | text (s : QString)
  | number (n : UInt32)
deriving DecidableEq, Repr

namespace Value

/-- `QVariant::toString`. -/
def toString : Value → QString
  | .invalid => []
  | .text s => s
  | .number n => QString.decimal n.toNat

def isNull (v : Value) : Bool := v = .invalid

end Value

/-- The translated patterns for a session's label. -/
structure LabelTexts where
  typed : SessionKind → QString → QString
  indexed : QString → Nat → QString
  typedAndIndexed : SessionKind → QString → Nat → QString

/-- The label of a session: its display name, told apart from the same name
of other sessions.  The search for a session of the same name and type ends at
the first one, so only that one counts for the index. -/
def getDisplay (texts : LabelTexts) (sessions : List ModelSession)
    (s : ModelSession) : QString :=
  let shouldAppendType := sessions.any fun other =>
    s.path ≠ other.path && s.displayName = other.displayName &&
      s.type ≠ other.type
  let sameName := sessions.find? fun other =>
    s.path ≠ other.path && s.displayName = other.displayName &&
      s.type = other.type
  match shouldAppendType, sameName with
  | false, none => s.displayName
  | true, none => texts.typed s.type s.displayName
  | false, some other =>
      texts.indexed s.displayName (if other.path < s.path then 2 else 1)
  | true, some other =>
      texts.typedAndIndexed s.type s.displayName
        (if other.path < s.path then 2 else 1)

/-- `SessionModel::data`. -/
def data (texts : LabelTexts) (sessions : List ModelSession) (row : Int)
    (role : Role) : Value :=
  if row < 0 then .invalid
  else
    match sessions[row.toNat]? with
    | none => .invalid
    | some s =>
        match role with
        | .display => .text (getDisplay texts sessions s)
        | .displayName => .text s.displayName
        | .type => .number s.type.number
        | .fileName => .text s.fileName
        | .comment => .text s.comment
        | .other => .invalid

/-- `SessionModel::indexOfData`. -/
def indexOfData (texts : LabelTexts) (sessions : List ModelSession)
    (value : Value) (role : Role) : Int :=
  if value.isNull || value.toString.isEmpty then -1
  else
    match (List.range sessions.length).find? fun i : Nat =>
      data texts sessions i role = value with
    | some i => i
    | none => -1

end SessionModel

end PlasmaLogin

/-
The settings a user passes to the greeter: of every configuration file the one
in the first of the configuration directories, read and sent to the helper,
which writes it below the greeter's home.
-/
import PlasmaLogin.Assignments
import PlasmaLogin.SettingsReset
import Mathlib.Data.List.Nodup

namespace PlasmaLogin

open Assignments LinkedFiles PathWalk PlasmaLoginAuthHelper

/-- The generic configuration directories of a user, the first one his own. -/
structure ConfigHome (ν : Type) where
  fs : FileSystem ν FileName
  dirs : List QString
  bytes : ν → QByteArray
  unreadable : ν → Bool := fun _ => false

namespace ConfigHome

variable {ν : Type}

def node (c : ConfigHome ν) (path : QString) : Option ν :=
  if 0 ∈ path then none else c.fs.walk c.fs.root path.moves

/-- `QFileInfo::isFile`, as a lookup of the file. -/
def file (c : ConfigHome ν) (path : QString) : Option ν :=
  (c.node path).filter fun n => c.fs.isFile n

/-- `QFileInfo::isDir`. -/
def isDir (c : ConfigHome ν) (path : QString) : Bool :=
  (c.node path).any fun n => c.fs.isDir n

/-- The path of a name in a directory. -/
def pathIn (dir relative : QString) : QString :=
  dir ++ QString.ofString "/" ++ relative

/-- `QStandardPaths::locate`, for files. -/
def locate (c : ConfigHome ν) (relative : QString) : QString :=
  ((c.dirs.map (pathIn · relative)).find? fun path =>
    (c.file path).isSome).getD []

/-- `QStandardPaths::locate` with `LocateDirectory`. -/
def locateDirectory (c : ConfigHome ν) (relative : QString) : QString :=
  ((c.dirs.map (pathIn · relative)).find? c.isDir).getD []

/-- What can be read of the file at a path. -/
def read (c : ConfigHome ν) (path : QString) : Option QByteArray :=
  ((c.file path).filter fun n => !c.unreadable n).map c.bytes

/-- `addConfigFile`, over `QTextStream::readAll`. -/
def addConfigFile (readAll : QByteArray → QString) (c : ConfigHome ν)
    (path key : QString) (args : QString → Option Variant) :
    QString → Option Variant :=
  if path.isEmpty then args
  else match c.read path with
    | none => args
    | some bytes =>
        Function.update args key (some { toString := readAll bytes })

end ConfigHome

namespace PlasmaLoginKcm

variable {ν : Type}

/-- The map that `PlasmaLoginKcm::synchronizeSettings` sends, unless there is
no greeter's user. -/
def synchronizeSettings (readAll : QByteArray → QString) (c : ConfigHome ν)
    (user : GreeterUser) : Option (QString → Option Variant) :=
  if user.homeDir.isEmpty then none
  else
    let args : QString → Option Variant := fun _ => none
    let args := c.addConfigFile readAll (c.locate "kdeglobals") "kdeglobals"
      args
    let args := c.addConfigFile readAll (c.locate "plasmarc") "plasmarc" args
    let args := c.addConfigFile readAll (c.locate "plasma-localerc")
      "plasma-localerc" args
    let args := c.addConfigFile readAll (c.locate "kcminputrc") "kcminputrc"
      args
    let args := c.addConfigFile readAll (c.locate "kwinoutputconfig.json")
      "kwinoutputconfig.json" args
    let fontconfigPath := c.locateDirectory "fontconfig"
    let args :=
      if fontconfigPath.isEmpty then args
      else c.addConfigFile readAll
        (fontconfigPath ++ ("/fonts.conf" : QString)) "fontconfig/fonts.conf"
        args
    some (c.addConfigFile readAll (c.locate "kxkbrc") "kxkbrc" args)

end PlasmaLoginKcm

namespace ConfigHome

variable {ν : Type} {c : ConfigHome ν}

def fontsName : QString := "fontconfig/fonts.conf"

/-- The user's setting file of a name: the first in his directories. -/
def setting (c : ConfigHome ν) (name : QString) : Option QByteArray :=
  ((c.dirs.map (pathIn · name)).find? fun path =>
    (c.file path).isSome).bind c.read

/-- The first directory with a font configuration has the file for it, or
there is no such file that can be read. -/
def FontsFirst (c : ConfigHome ν) : Prop :=
  ∀ dir ∈ c.dirs.find? fun dir => c.isDir (pathIn dir "fontconfig"),
    (c.file (pathIn dir fontsName)).isSome = true ∨ c.setting fontsName = none

/-- The path of the font configuration. -/
def fontsPath (c : ConfigHome ν) : QString :=
  if (c.locateDirectory "fontconfig").isEmpty then []
  else c.locateDirectory "fontconfig" ++ ("/fonts.conf" : QString)

/-- The paths that are read and their keys. -/
def sources (c : ConfigHome ν) : List (QString × QString) :=
  [(c.locate "kdeglobals", "kdeglobals"), (c.locate "plasmarc", "plasmarc"),
    (c.locate "plasma-localerc", "plasma-localerc"),
    (c.locate "kcminputrc", "kcminputrc"),
    (c.locate "kwinoutputconfig.json", "kwinoutputconfig.json"),
    (c.fontsPath, fontsName), (c.locate "kxkbrc", "kxkbrc")]

/-- What is sent for a path. -/
def sent (readAll : QByteArray → QString) (c : ConfigHome ν)
    (source : QString × QString) : Option (QString × Variant) :=
  if source.1.isEmpty then none
  else (c.read source.1).map fun bytes =>
    (source.2, { toString := readAll bytes })

/-- `args[key] = value`. -/
def withEntry (args : QString → Option Variant) (entry : QString × Variant) :
    QString → Option Variant :=
  Function.update args entry.1 (some entry.2)

theorem withEntry_apply (args : QString → Option Variant)
    (entry : QString × Variant) (key : QString) :
    withEntry args entry key =
      if entry.1 = key then some entry.2 else args key := by
  rw [withEntry, Function.update_apply]
  simp only [eq_comm]

theorem synchronizeSettings_eq (readAll : QByteArray → QString)
    {user : GreeterUser} {args : QString → Option Variant}
    (h : PlasmaLoginKcm.synchronizeSettings readAll c user = some args) :
    args = (c.sources.filterMap (c.sent readAll)).foldl withEntry
      fun _ => none := by
  have hstep : ∀ (args : QString → Option Variant) (source : QString × QString),
      c.addConfigFile readAll source.1 source.2 args =
        match c.sent readAll source with
        | some entry => withEntry args entry
        | none => args := by
    intro args source
    rw [addConfigFile, sent]
    split
    · rfl
    · cases c.read source.1 <;> rfl
  have hfold : (c.sources.filterMap (c.sent readAll)).foldl withEntry
      (fun _ => none) = c.sources.foldl (fun args source =>
        c.addConfigFile readAll source.1 source.2 args) fun _ => none := by
    rw [List.foldl_filterMap]
    congr 1
    funext args source
    rw [hstep]
    cases c.sent readAll source <;> rfl
  rw [hfold]
  unfold PlasmaLoginKcm.synchronizeSettings at h
  split at h
  · exact absurd h (by simp)
  · rw [← Option.some.inj h]
    simp only [sources, fontsPath, List.foldl_cons, List.foldl_nil]
    split
    · rfl
    · rfl

theorem keys_nodup (c : ConfigHome ν) :
    (c.sources.map Prod.snd).Nodup := by
  have hkeys : c.sources.map Prod.snd =
      [("kdeglobals" : QString), "plasmarc", "plasma-localerc", "kcminputrc",
        "kwinoutputconfig.json", fontsName, "kxkbrc"] := rfl
  rw [hkeys]
  decide +kernel

/-- Every key has what can be read of its own path. -/
theorem synchronizeSettings_apply {readAll : QByteArray → QString}
    {user : GreeterUser} {args : QString → Option Variant}
    (h : PlasmaLoginKcm.synchronizeSettings readAll c user = some args)
    {source : QString × QString} (hsource : source ∈ c.sources) :
    args source.2 = (c.sent readAll source).map Prod.snd := by
  have hkey : ∀ s entry, c.sent readAll s = some entry → entry.1 = s.2 := by
    intro s entry hentry
    rw [sent] at hentry
    split at hentry
    · exact absurd hentry (by simp)
    · obtain ⟨bytes, _, rfl⟩ := Option.map_eq_some_iff.1 hentry
      rfl
  have hkeys : ((c.sources.filterMap (c.sent readAll)).map Prod.fst).Nodup := by
    rw [List.Nodup, List.pairwise_map, List.pairwise_filterMap]
    refine (List.pairwise_map.1 c.keys_nodup).imp ?_
    intro s s' hne entry hentry entry' hentry' heq
    rw [hkey s entry hentry, hkey s' entry' hentry'] at heq
    exact hne heq
  rw [synchronizeSettings_eq readAll h,
    lookup_foldl (fun (args : QString → Option Variant) key => args key)
      withEntry_apply, Option.or_none]
  cases hsent : c.sent readAll source with
  | some entry =>
      rw [← hkey source entry hsent]
      exact lastValue_of_nodup Prod.snd hkeys
        (List.mem_filterMap.2 ⟨source, hsource, hsent⟩)
  | none =>
      rw [Option.map_none, ← Option.not_isSome_iff_eq_none,
        lastValue_isSome_iff]
      rintro ⟨entry, hentry, heq⟩
      obtain ⟨s, hs, hsome⟩ := List.mem_filterMap.1 hentry
      rw [hkey s entry hsome] at heq
      rw [List.inj_on_of_nodup_map c.keys_nodup hs hsource heq, hsent] at hsome
      exact absurd hsome (by simp)

theorem isEmpty_pathIn (dir relative : QString) :
    (pathIn dir relative).isEmpty = false := by
  rw [List.isEmpty_eq_false_iff, pathIn]
  intro h
  have hslash := (List.append_eq_nil_iff.1 (List.append_eq_nil_iff.1 h).1).2
  exact absurd hslash (by decide)

/-- A setting is sent under its name. -/
theorem sent_locate (readAll : QByteArray → QString) (c : ConfigHome ν)
    (name : QString) :
    (c.sent readAll (c.locate name, name)).map Prod.snd =
      (c.setting name).map fun bytes => { toString := readAll bytes } := by
  rw [sent, locate, setting]
  cases hfind : (c.dirs.map (pathIn · name)).find? fun path =>
      (c.file path).isSome with
  | none => rfl
  | some path =>
      obtain ⟨dir, _, rfl⟩ :=
        List.mem_map.1 (List.mem_of_find?_eq_some hfind)
      rw [Option.getD_some, isEmpty_pathIn, if_neg Bool.false_ne_true,
        Option.map_map, Option.bind_some]
      rfl

/-- The font configuration that is sent. -/
def fonts (c : ConfigHome ν) : Option QByteArray :=
  (c.dirs.find? fun dir => c.isDir (pathIn dir "fontconfig")).bind fun dir =>
    c.read (pathIn dir fontsName)

theorem pathIn_fontsName (dir : QString) :
    pathIn dir fontsName =
      pathIn dir "fontconfig" ++ QString.ofString "/" ++
        QString.ofString "fonts.conf" := by
  simp only [pathIn, List.append_assoc]
  rfl

theorem fontsPath_eq (c : ConfigHome ν) : c.fontsPath =
    ((c.dirs.find? fun dir => c.isDir (pathIn dir "fontconfig")).map
      (pathIn · fontsName)).getD [] := by
  have hlocated : c.locateDirectory "fontconfig" =
      ((c.dirs.find? fun dir => c.isDir (pathIn dir "fontconfig")).map
        (pathIn · "fontconfig")).getD [] := by
    rw [locateDirectory, List.find?_map]
    rfl
  rw [fontsPath, hlocated]
  cases c.dirs.find? fun dir => c.isDir (pathIn dir "fontconfig") with
  | none => rfl
  | some dir =>
      rw [Option.map_some, Option.getD_some, isEmpty_pathIn,
        if_neg Bool.false_ne_true, Option.map_some, Option.getD_some,
        pathIn_fontsName, List.append_assoc]
      rfl

theorem sent_fonts (readAll : QByteArray → QString) (c : ConfigHome ν) :
    (c.sent readAll (c.fontsPath, fontsName)).map Prod.snd =
      c.fonts.map fun bytes => { toString := readAll bytes } := by
  rw [sent, fontsPath_eq, fonts]
  cases c.dirs.find? fun dir => c.isDir (pathIn dir "fontconfig") with
  | none => rfl
  | some dir =>
      rw [Option.map_some, Option.getD_some, isEmpty_pathIn,
        if_neg Bool.false_ne_true, Option.bind_some, Option.map_map]
      rfl

/-- A file is in a directory. -/
theorem isDir_of_file {dir : QString}
    (h : (c.file (pathIn dir fontsName)).isSome = true) :
    c.isDir (pathIn dir "fontconfig") = true := by
  obtain ⟨n, hn⟩ := Option.isSome_iff_exists.1 h
  have hnode := (Option.filter_eq_some_iff.1 hn).1
  rw [node] at hnode
  split at hnode
  · exact absurd hnode (by simp)
  next hnul =>
    rw [pathIn_fontsName, List.mem_append, List.mem_append, not_or, not_or]
      at hnul
    rw [pathIn_fontsName, QString.moves_append_slash,
      FileSystem.walk_append] at hnode
    obtain ⟨d, hd, hlast⟩ := Option.bind_eq_some_iff.1 hnode
    have hname : IsFileName (QString.ofString "fonts.conf") := by decide
    rw [QString.moves_of_isFileName hname, FileSystem.walk_cons] at hlast
    obtain ⟨n', hmove, _⟩ := Option.bind_eq_some_iff.1 hlast
    rw [isDir, node, if_neg hnul.1.1, hd, Option.any_some]
    rw [FileSystem.move] at hmove
    split at hmove
    next hdir => exact hdir
    · exact absurd hmove (by simp)

/-- The font configuration is the user's setting if and only if the first
directory with one has its file, or there is none. -/
theorem map_fonts_eq_iff {B : Type} (f : QByteArray → B) :
    c.fonts.map f = (c.setting fontsName).map f ↔ c.FontsFirst := by
  rw [fonts, FontsFirst]
  cases hdir : c.dirs.find? fun dir => c.isDir (pathIn dir "fontconfig") with
  | none =>
      have hsetting : c.setting fontsName = none := by
        rw [setting, List.find?_map, Option.bind_eq_none_iff]
        intro path hpath
        obtain ⟨dir, hfind, _⟩ := Option.map_eq_some_iff.1 hpath
        have hsome : (c.file (pathIn dir fontsName)).isSome = true := by
          simpa using List.find?_some hfind
        rw [List.find?_eq_none] at hdir
        exact absurd (isDir_of_file hsome)
          (hdir dir (List.mem_of_find?_eq_some hfind))
      rw [hsetting]
      exact iff_of_true rfl fun dir hmem => absurd hmem (by simp)
  | some dir =>
      rw [Option.bind_some]
      by_cases hfile : (c.file (pathIn dir fontsName)).isSome = true
      · have hfirst : c.dirs.find? (fun dir =>
            (c.file (pathIn dir fontsName)).isSome) = some dir := by
          obtain ⟨_, before, after, heq, hbefore⟩ :=
            List.find?_eq_some_iff_append.1 hdir
          refine List.find?_eq_some_iff_append.2
            ⟨hfile, before, after, heq, fun d hd => ?_⟩
          rw [Bool.not_eq_true', ← Bool.not_eq_true]
          intro hsome
          have hno := hbefore d hd
          rw [isDir_of_file hsome] at hno
          exact absurd hno (by decide)
        have hsetting : c.setting fontsName =
            c.read (pathIn dir fontsName) := by
          rw [setting, List.find?_map]
          change ((c.dirs.find? fun dir =>
            (c.file (pathIn dir fontsName)).isSome).map _).bind _ = _
          rw [hfirst]
          rfl
        rw [hsetting]
        refine iff_of_true rfl fun dir' hmem => Or.inl ?_
        rw [← Option.some.inj hmem]
        exact hfile
      · have hread : c.read (pathIn dir fontsName) = none := by
          rw [Option.not_isSome_iff_eq_none] at hfile
          rw [read, hfile]
          rfl
        rw [hread, Option.map_none, eq_comm, Option.map_eq_none_iff]
        simp [hfile]

/-- The settings of a user by their paths below the configuration. -/
def settings (c : ConfigHome ν) (path : List FileName) : Option QByteArray :=
  (managed.find? fun name => name.moves = path.map Move.down).bind c.setting

section sending

variable {readAll : QByteArray → QString} {user : GreeterUser}
  {args : QString → Option Variant}

/-- A setting with a plain name is sent. -/
theorem args_setting
    (h : PlasmaLoginKcm.synchronizeSettings readAll c user = some args)
    {name : QString} (hname : name ∈ managed) (hne : name ≠ fontsName) :
    args name =
      (c.setting name).map fun bytes => { toString := readAll bytes } := by
  have hsource : (c.locate name, name) ∈ c.sources := by
    simp only [managed, List.mem_cons, List.not_mem_nil, or_false] at hname
    rcases hname with rfl | rfl | rfl | rfl | rfl | rfl | hfonts
    case inr.inr.inr.inr.inr.inr => exact absurd hfonts hne
    all_goals simp only [sources, List.mem_cons, true_or, or_true]
  rw [synchronizeSettings_apply h hsource, sent_locate]

theorem args_fonts
    (h : PlasmaLoginKcm.synchronizeSettings readAll c user = some args) :
    args fontsName =
      c.fonts.map fun bytes => { toString := readAll bytes } := by
  have hsource : (c.fontsPath, fontsName) ∈ c.sources := by
    simp only [sources, List.mem_cons, true_or, or_true]
  rw [synchronizeSettings_apply h hsource, sent_fonts]

/-- The path of the font configuration below the configuration. -/
theorem find?_managed_fonts :
    (managed.find? fun name => name.moves =
      (names fontsName.moves).map Move.down) = some fontsName := by
  decide +kernel

/-- What `sync` is given are the user's settings. -/
theorem given_eq_settings_iff
    (h : PlasmaLoginKcm.synchronizeSettings readAll c user = some args) :
    (∀ path : List FileName,
      ((managed.find? fun name => name.moves = path.map Move.down).bind
        args).map (fun value => value.toString.streamed) =
      (c.settings path).map fun bytes => (readAll bytes).streamed) ↔
    c.FontsFirst := by
  rw [← map_fonts_eq_iff fun bytes => (readAll bytes).streamed]
  constructor
  · intro hall
    have hfonts := hall (names fontsName.moves)
    rw [settings, find?_managed_fonts, Option.bind_some, Option.bind_some,
      args_fonts h, Option.map_map] at hfonts
    exact hfonts
  · intro hfonts path
    rw [settings]
    cases hfind : managed.find? fun name => name.moves = path.map Move.down with
    | none => rfl
    | some name =>
        rw [Option.bind_some, Option.bind_some]
        by_cases hname : name = fontsName
        · rw [hname, args_fonts h, Option.map_map]
          exact hfonts
        · rw [args_setting h (List.mem_of_find?_eq_some hfind) hname,
            Option.map_map]
          rfl

end sending

end ConfigHome

namespace ConfigHome

/-- A directory with a file for the colours. -/
def colourFiles : FileSystem (Fin 3) FileName where
  root := 0
  isDir n := n ≠ 2
  isFile n := n = 2
  parent n := if n = 2 then 1 else 0
  entry n name :=
    if n = 0 ∧ name.val = ("c" : QString) then some 1
    else if n = 1 ∧ name.val = ("kdeglobals" : QString) then some 2
    else none
  root_isDir := rfl
  parent_root := rfl
  isDir_of_isFile := by decide
  entry_parent n hn := by
    by_cases hfile : n = 2
    · exact ⟨⟨"kdeglobals", by decide +kernel⟩, by subst hfile; simp⟩
    · refine ⟨⟨"c", by decide +kernel⟩, ?_⟩
      have hdir : n = 1 := by omega
      subst hdir
      simp

def colours : ConfigHome (Fin 3) where
  fs := colourFiles
  dirs := ["/home", "/c"]
  bytes _ := [91, 93]

/-- `QTextStream::readAll` of ASCII text. -/
def readAscii (bytes : QByteArray) : QString :=
  bytes.map UInt8.toUInt16

/-- The map that is sent for the colours. -/
def sentColours : QString → Option Variant :=
  (PlasmaLoginKcm.synchronizeSettings readAscii colours
    unhindered.user).getD fun _ => none

theorem synchronizeSettings_colours :
    PlasmaLoginKcm.synchronizeSettings readAscii colours unhindered.user =
      some sentColours := by
  have hhome : ¬ unhindered.user.homeDir.isEmpty = true := by decide +kernel
  rw [sentColours, PlasmaLoginKcm.synchronizeSettings, if_neg hhome,
    Option.getD_some]

end ConfigHome

end PlasmaLogin

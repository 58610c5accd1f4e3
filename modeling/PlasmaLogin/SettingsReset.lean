/-
Resetting the greeter's settings.  `sync` leaves files it was not given where
they are; behind a `reset` there are none, and the greeter's configuration is
what `sync` was given and nothing else.
-/
import PlasmaLogin.ClearedDirectory
import PlasmaLogin.SettingsMirror

namespace PlasmaLogin

open LinkedFiles PathWalk

namespace PlasmaLoginAuthHelper

/-- The function `reset` runs as the greeter's user. -/
def resetFunction (homeDir : QString) (entries : List (List FileName)) :
    List (FileTree → FileTree) :=
  [clearDirectory homeDir cacheName entries,
    clearDirectory homeDir configName entries]

/-- `PlasmaLoginAuthHelper::reset`. -/
def reset (env : SyncSurroundings) (t : FileTree) : ActionReply × FileTree :=
  match plasmaloginUserHomeDir env.user with
  | none => (.helperError, t)
  | some homeDir =>
      if !adjustPermissionsFromPlasma6_6 env.user env.repaired then
        (.helperError, t)
      else
        let r := runAsPlasmaLoginUser env.user env.run
          ((resetFunction homeDir env.refusals.entries).map
            fun step t => (step t, true)) t
        (if r.2 then .success else .helperError, r.1)

/-- The tree behind `reset`. -/
def resetTree (homeDir : QString) (entries : List (List FileName))
    (t : FileTree) : FileTree :=
  clearDirectory homeDir configName entries
    (clearDirectory homeDir cacheName entries t)

theorem of_reset {env : SyncSurroundings} {t : FileTree}
    (h : (reset env t).1 = .success) :
    (reset env t).2 = resetTree env.user.homeDir env.refusals.entries t := by
  rw [reset] at h ⊢
  unfold plasmaloginUserHomeDir at h ⊢
  split at h
  · exact absurd h (by simp)
  next homeDir hhome =>
    have hdir : env.user.homeDir = homeDir := by
      split at hhome
      · exact absurd hhome (by simp)
      · exact Option.some.inj hhome
    subst hdir
    split at h
    · exact absurd h (by simp)
    next hadjust =>
      simp only at h
      split at h
      next hrun =>
        obtain ⟨hvalid, hcompletes⟩ := completes_of_runAsPlasmaLoginUser hrun
        simp only [hadjust, ↓reduceIte,
          runAsPlasmaLoginUser_of_completes hvalid hcompletes,
          runSteps_of_forall]
        rfl
      next => exact absurd h (by simp)

/-- The home directory is a directory and stays where it is, and its entries
for the cache and the configuration are neither links nor files. -/
structure Resettable (homeDir : QString) (t : FileTree)
    (home : List FileName) : Prop where
  grounded : t.Grounded
  isDir : t.isDirAt home = true
  before : t.location homeDir.moves = some home
  between : (clearDirectory homeDir cacheName [] t).location homeDir.moves =
    some home
  after : (resetTree homeDir [] t).location homeDir.moves = some home
  links : ∀ name ∈ [cacheName, configName], t.links (home ++ [name]) = none
  files : ∀ name ∈ [cacheName, configName], t.contentAt (home ++ [name]) = none

/-- There is nothing in the home directory for the cache and the
configuration. -/
structure Bare (homeDir : QString) (t : FileTree) (home : List FileName) :
    Prop where
  location : t.location homeDir.moves = some home
  isDir : t.isDirAt home = true
  free : ∀ name ∈ [cacheName, configName], ∀ r,
    t.isFreeAt (home ++ [name] ++ r) = true

section bare

variable {homeDir : QString} {t : FileTree} {home : List FileName}

/-- Nothing is left at an entry that is no file. -/
theorem isFreeAt_entry {name : FileName} (hground : t.Grounded)
    (hhome : t.location homeDir.moves = some home)
    (hlink : t.links (home ++ [name]) = none)
    (hfile : t.contentAt (home ++ [name]) = none) (r : List FileName) :
    (clearDirectory homeDir name [] t).isFreeAt (home ++ [name] ++ r) =
      true := by
  by_cases hr : r = []
  · have hbase : t.location (entryPath homeDir name) = some (home ++ [name]) :=
      Tree.location_concat hhome hlink
    rw [hr, List.append_nil, isFreeAt_clearDirectory, Bool.or_eq_true]
    by_cases hdir : t.isDirAt (home ++ [name]) = true
    · exact Or.inr ((goes_iff hbase hhome hlink hdir).2 List.prefix_rfl)
    · refine Or.inl (Tree.isFreeAt_iff.2 ⟨hlink, ?_⟩)
      rw [Tree.contentAt] at hfile
      rw [Tree.isDirAt_iff] at hdir
      cases hnode : t.nodes (home ++ [name]) with
      | none => rfl
      | some node =>
          cases node with
          | directory => exact absurd hnode hdir
          | file content => simp [hnode] at hfile
  · exact isFreeAt_cleared hground hhome hlink hr

theorem bare_resetTree (h : Resettable homeDir t home) :
    Bare homeDir (resetTree homeDir [] t) home where
  location := h.after
  isDir := by
    have hcache := goes_home [] h.before (h.links cacheName (by simp))
    have hlink : (clearDirectory homeDir cacheName [] t).links
        (home ++ [configName]) = none := by
      rw [clearDirectory_eq, Tree.links_clearAt, h.links configName (by simp),
        ite_self]
    have hconfig := goes_home [] h.between hlink
    rw [resetTree, clearDirectory_eq, Tree.isDirAt_clearAt, hconfig,
      clearDirectory_eq, Tree.isDirAt_clearAt, hcache, h.isDir]
    rfl
  free name hname r := by
    rw [resetTree]
    rw [List.mem_cons, List.mem_singleton] at hname
    rcases hname with rfl | rfl
    · rw [isFreeAt_clearDirectory, isFreeAt_entry h.grounded h.before
        (h.links _ (by simp)) (h.files _ (by simp)) r]
      rfl
    · apply isFreeAt_entry (grounded_clearDirectory h.grounded) h.between
      · rw [clearDirectory_eq, Tree.links_clearAt, h.links _ (by simp),
          ite_self]
      · rw [clearDirectory_eq, Tree.contentAt_clearAt, h.files _ (by simp),
          ite_self]

/-- The names `sync` manages, as paths below the configuration. -/
theorem managed_paths : ∀ name ∈ managed,
    Move.up ∉ name.moves ∧ name.moves = (names name.moves).map Move.down ∧
      names name.moves ≠ [] ∧ names name.moves ≠ [fontconfigName] ∧
        ((names name.moves).dropLast = [] ∨
          (names name.moves).dropLast = [fontconfigName]) := by
  decide +kernel

theorem managed_places : ∀ name ∈ managed, ∀ name' ∈ managed,
    names name.moves = names name'.moves → name = name' := by
  decide +kernel

theorem Bare.isFreeAt (h : Bare homeDir t home) (name : FileName)
    (hname : name ∈ [cacheName, configName]) :
    t.links (home ++ [name]) = none ∧ t.isDirAt (home ++ [name]) = false := by
  have hfree := h.free name hname []
  rw [List.append_nil, Tree.isFreeAt_iff] at hfree
  refine ⟨hfree.1, ?_⟩
  rw [Tree.isDirAt, hfree.2]

/-- There is no cache to clear. -/
theorem Bare.cleared_eq (h : Bare homeDir t home) (refusals : SyncRefusals)
    (l : List FileName) : cleared homeDir refusals t l = false := by
  obtain ⟨hlink, hdir⟩ := h.isFreeAt cacheName (by simp)
  have hcache : t.location (cachePath homeDir) =
      some (home ++ [cacheName]) := by
    have hpath : cachePath homeDir = entryPath homeDir cacheName := by
      rw [← moves_entry, List.append_assoc]
      rfl
    rw [hpath]
    exact Tree.location_concat h.location hlink
  rw [cleared, hcache, h.location]
  simp only [hdir, Bool.false_and]

theorem Bare.leads_eq (h : Bare homeDir t home) (refusals : SyncRefusals)
    (path : List (Move FileName)) :
    leads homeDir refusals t path = t.location path := by
  rw [leads, Tree.location]
  congr 1
  funext l
  rw [h.cleared_eq]
  rfl

theorem Bare.keepsDir_eq (h : Bare homeDir t home) (refusals : SyncRefusals) :
    keepsDir homeDir refusals t = t.isDirAt := by
  funext l
  rw [keepsDir, h.cleared_eq, Bool.not_false, Bool.and_true]

theorem Bare.freed_eq (h : Bare homeDir t home) (refusals : SyncRefusals) :
    freed homeDir refusals t = t.isFreeAt := by
  funext l
  rw [freed, h.cleared_eq, Bool.or_false]

/-- Where a path below the configuration leads. -/
theorem Bare.location_config (h : Bare homeDir t home)
    (path : List (Move FileName)) (hpath : Descends path) :
    t.location (entryPath homeDir configName ++ path) =
      some (home ++ [configName] ++ names path) := by
  apply locate_append
  · exact Tree.location_concat h.location (h.isFreeAt configName (by simp)).1
  · exact fun r => (Tree.isFreeAt_iff.1 (h.free configName (by simp) r)).1
  · exact hpath

theorem moves_configPath (homeDir name : QString) :
    (configPath homeDir name).moves =
      entryPath homeDir configName ++ name.moves := by
  have hpath : configPath homeDir name = homeDir ++ QString.ofString "/" ++
      configName.val ++ QString.ofString "/" ++ name := by
    rw [configPath]
    simp only [List.append_assoc]
    rfl
  rw [hpath, QString.moves_append_slash, moves_entry]

theorem configDirPath_eq (homeDir : QString) :
    configDirPath homeDir = entryPath homeDir configName := by
  rw [← moves_entry, List.append_assoc]
  rfl

theorem fontconfigDirPath_eq (homeDir : QString) :
    fontconfigDirPath homeDir =
      entryPath homeDir configName ++ [.down fontconfigName] := by
  have hpath : homeDir ++ ("/.config/fontconfig" : QString) =
      homeDir ++ QString.ofString "/" ++ configName.val ++
        QString.ofString "/" ++ fontconfigName.val := by
    simp only [List.append_assoc]
    rfl
  rw [fontconfigDirPath, hpath, QString.moves_append_slash, moves_entry,
    QString.moves_of_isFileName fontconfigName.property]

/-- Nothing is refused to `sync` once the cache is clear. -/
structure Unrefused (refusals : SyncRefusals) : Prop where
  mkdirConfig : refusals.mkdirConfig = false
  mkdirFontconfig : refusals.mkdirFontconfig = false
  opens : ∀ name, refusals.opens name = false
  stored : ∀ name, refusals.stored name = none

section mirrorable

variable {args : QString → Option Variant} {refusals : SyncRefusals}

theorem Bare.madeConfig_eq (h : Bare homeDir t home)
    (hrefusals : Unrefused refusals) :
    madeConfig homeDir refusals t = some (home ++ [configName]) := by
  obtain ⟨hlink, hdir⟩ := h.isFreeAt configName (by simp)
  have hfree := h.free configName (by simp) []
  rw [List.append_nil] at hfree
  have hlocation : t.location (entryPath homeDir configName) =
      some (home ++ [configName]) := Tree.location_concat h.location hlink
  rw [madeConfig, configDirPath_eq, h.leads_eq, h.leads_eq, hlocation,
    h.location, h.keepsDir_eq, h.freed_eq, Option.any_some, hdir,
    hrefusals.mkdirConfig]
  simp [Tree.newIn, h.isDir, hfree]

theorem Bare.hasConfig_iff (h : Bare homeDir t home)
    (hrefusals : Unrefused refusals) (l : List FileName) :
    hasConfig homeDir refusals t l = true ↔
      t.isDirAt l = true ∨ l = home ++ [configName] := by
  rw [hasConfig, h.keepsDir_eq, h.madeConfig_eq hrefusals, Bool.or_eq_true,
    decide_eq_true_eq, Option.some.injEq, eq_comm (a := l)]

theorem Bare.madeFontconfig_eq (h : Bare homeDir t home)
    (hrefusals : Unrefused refusals) :
    madeFontconfig homeDir refusals t =
      some (home ++ [configName] ++ [fontconfigName]) := by
  have hfree := h.free configName (by simp) [fontconfigName]
  have hconfig : t.location (entryPath homeDir configName) =
      some (home ++ [configName]) :=
    Tree.location_concat h.location (h.isFreeAt configName (by simp)).1
  have hlocation := h.location_config [.down fontconfigName]
    (by simp [Descends])
  have hnodir : hasConfig homeDir refusals t
      (home ++ [configName] ++ [fontconfigName]) = false := by
    rw [← Bool.not_eq_true, h.hasConfig_iff hrefusals]
    rintro (hdir | heq)
    · rw [Tree.isDirAt, (Tree.isFreeAt_iff.1 hfree).2] at hdir
      exact absurd hdir (by simp)
    · simp at heq
  have hdir := (h.hasConfig_iff hrefusals (home ++ [configName])).2
    (Or.inr rfl)
  rw [madeFontconfig, fontconfigDirPath_eq, configDirPath_eq, h.leads_eq,
    h.leads_eq, hlocation, hconfig, h.freed_eq]
  simp only [names, Option.any_some, hnodir, hrefusals.mkdirFontconfig,
    Tree.newIn, Option.bind_some, hdir, hfree]
  rfl

theorem Bare.hasDir_iff (h : Bare homeDir t home)
    (hrefusals : Unrefused refusals) (r : List FileName) :
    hasDir homeDir refusals t (home ++ [configName] ++ r) = true ↔
      r = [] ∨ r = [fontconfigName] := by
  have hfree := h.free configName (by simp) r
  have hnodir : t.isDirAt (home ++ [configName] ++ r) = false := by
    rw [Tree.isDirAt, (Tree.isFreeAt_iff.1 hfree).2]
  rw [hasDir, Bool.or_eq_true, h.hasConfig_iff hrefusals,
    h.madeFontconfig_eq hrefusals, decide_eq_true_eq, Option.some.injEq,
    hnodir]
  simp [eq_comm]

theorem Bare.writable (h : Bare homeDir t home)
    (hrefusals : Unrefused refusals) {name : QString} (hname : name ∈ managed)
    (content : QString) : Writable homeDir refusals t name content := by
  obtain ⟨hup, -, hne, hnefont, hdir⟩ := managed_paths name hname
  refine ⟨hrefusals.opens name, ?_,
    home ++ [configName] ++ names name.moves, ?_, ?_, ?_⟩
  · rw [storedBytes, hrefusals.stored]
  · rw [moves_configPath, h.leads_eq]
    exact h.location_config _ hup
  · rw [List.dropLast_append_of_ne_nil hne, h.hasDir_iff hrefusals]
    exact hdir
  · rw [← Bool.not_eq_true, h.hasDir_iff hrefusals]
    rintro (heq | heq)
    · exact hne heq
    · exact hnefont heq

theorem Bare.leads_configPath (h : Bare homeDir t home) {name : QString}
    (hname : name ∈ managed) :
    leads homeDir refusals t (configPath homeDir name).moves =
      some (home ++ [configName] ++ names name.moves) := by
  rw [moves_configPath, h.leads_eq]
  exact h.location_config _ (managed_paths name hname).1

theorem Bare.kept_eq (h : Bare homeDir t home) (r : List FileName) :
    kept homeDir refusals t (home ++ [configName] ++ r) = none := by
  rw [kept, h.cleared_eq, Tree.contentAt,
    (Tree.isFreeAt_iff.1 (h.free configName (by simp) r)).2]
  rfl

theorem belowConfig_eq (homeDir : QString) (path : List FileName) :
    belowConfig homeDir path =
      entryPath homeDir configName ++ path.map Move.down := by
  rw [belowConfig, ← configDirPath_eq]
  rfl

theorem Bare.location_belowConfig (h : Bare homeDir t home)
    (path : List FileName) :
    t.location (belowConfig homeDir path) =
      some (home ++ [configName] ++ path) := by
  have hnames : ∀ path : List FileName, names (path.map Move.down) = path := by
    intro path
    induction path with
    | nil => rfl
    | cons name path ih => rw [List.map_cons, names, ih]
  rw [belowConfig_eq, h.location_config _ (by simp [Descends]), hnames]

/-- There are no settings yet. -/
theorem Bare.content_belowConfig (h : Bare homeDir t home)
    (path : List FileName) : t.content (belowConfig homeDir path) = none := by
  rw [Tree.content, h.location_belowConfig, Option.bind_some, Tree.contentAt,
    (Tree.isFreeAt_iff.1 (h.free configName (by simp) path)).2]

theorem Bare.mirrorable (h : Bare homeDir t home)
    (hrefusals : Unrefused refusals) :
    Mirrorable args homeDir refusals t where
  given name content hgiven := h.writable hrefusals hgiven.1 content
  absent name hname hvalue := by
    rw [h.leads_configPath hname]
    refine ⟨h.kept_eq _, fun name' content hgiven => ?_⟩
    rw [h.leads_configPath hgiven.1, Ne, Option.some.injEq,
      List.append_cancel_left_eq]
    intro heq
    obtain ⟨hname', value, hvalue', _⟩ := hgiven
    rw [managed_places name' hname' name hname heq, hvalue] at hvalue'
    exact absurd hvalue' (by simp)
  shared name content name' content' hgiven hgiven' heq := by
    rw [h.leads_configPath hgiven.1, h.leads_configPath hgiven'.1,
      Option.some.injEq, List.append_cancel_left_eq] at heq
    obtain ⟨hname, value, hvalue, rfl⟩ := hgiven
    obtain ⟨hname', value', hvalue', rfl⟩ := hgiven'
    obtain rfl := managed_places name hname name' hname' heq
    rw [Option.some.inj (hvalue.symm.trans hvalue')]
  others path hpath := by
    have hlocation : leads homeDir refusals t (belowConfig homeDir path) =
        some (home ++ [configName] ++ path) := by
      rw [h.leads_eq, h.location_belowConfig]
    rw [hlocation]
    refine ⟨fun name content hgiven heq => ?_, fun _ => ?_⟩
    · rw [h.leads_configPath hgiven.1, Option.some.injEq,
        List.append_cancel_left_eq] at heq
      have hmoves := (managed_paths name hgiven.1).2.1
      rw [heq] at hmoves
      exact absurd hmoves.symm (hpath name hgiven.1)
    · rw [h.content_belowConfig, Option.bind_some, h.kept_eq]
  cache home' hhome := by
    rw [h.leads_eq, h.location, Option.some.injEq] at hhome
    subst hhome
    rw [h.freed_eq]
    have hfree := h.free cacheName (by simp) []
    rw [List.append_nil] at hfree
    refine ⟨hfree, fun name content hgiven => ?_⟩
    rw [h.leads_configPath hgiven.1, Ne, Option.some.injEq, List.append_assoc,
      List.append_cancel_left_eq]
    intro heq
    have hname := (List.cons_eq_cons.1 heq).1
    exact absurd hname (by decide)

end mirrorable

end bare

/-- The configuration has the settings that were given and nothing else, and
all of them are written. -/
structure ExactSettings (args : QString → Option Variant) (homeDir : QString)
    (after : SyncState) : Prop where
  content : ∀ path : List FileName,
    after.tree.content (belowConfig homeDir path) =
      ((managed.find? fun name => name.moves = path.map Move.down).bind
        args).map fun value => value.toString.streamed
  written : after.unwritten = []

theorem exactSettings_of_mirrored {args : QString → Option Variant}
    {homeDir : QString} {t : FileTree} {home : List FileName}
    {after : SyncState} (hbare : Bare homeDir t home)
    (h : Mirrored args homeDir t after) : ExactSettings args homeDir after where
  content path := by
    cases hfind : managed.find? fun name => name.moves = path.map Move.down with
    | some name =>
        have hname := List.mem_of_find?_eq_some hfind
        have hmoves := List.find?_some hfind
        rw [decide_eq_true_eq] at hmoves
        rw [belowConfig_eq, ← hmoves, ← moves_configPath, Option.bind_some]
        cases hvalue : args name with
        | some value => exact h.given name hname value hvalue
        | none => exact h.absent name hname hvalue
    | none =>
        rw [List.find?_eq_none] at hfind
        rw [h.others path, hbare.content_belowConfig]
        · rfl
        · intro name hname heq
          exact hfind name hname (decide_eq_true heq.symm)
  written := h.written

end PlasmaLoginAuthHelper

open PlasmaLoginAuthHelper in
/-- `sync` behind `reset` leaves exactly the settings it was given, of the
managed names. -/
theorem reset_sync_exact {args : QString → Option Variant}
    {env env' : SyncSurroundings} {t : FileTree} {home : List FileName}
    (hhome : Resettable env.user.homeDir t home)
    (hentries : env.refusals.entries = []) (huser : env'.user = env.user)
    (hrefusals : Unrefused env'.refusals) (hreset : (reset env t).1 = .success)
    (hsync : (sync args env' (reset env t).2).1 = .success) :
    ExactSettings args env.user.homeDir (sync args env' (reset env t).2).2 := by
  have hbare := bare_resetTree hhome
  have hcompletes := completes_of_sync hsync
  rw [of_reset hreset, hentries, sync_of_completes args hcompletes, huser]
  exact exactSettings_of_mirrored hbare
    (mirrored_of_mirrorable (hbare.mirrorable hrefusals))

namespace PlasmaLoginAuthHelper

/-- Keyboard settings of an earlier `sync`. -/
def oldLayout : FileTree :=
  .single (names (QString.moves "/p/.config/kxkbrc")) [9]

def newColours (name : QString) : Option Variant :=
  if name = ("kdeglobals" : QString) then some { toString := "[Colors]" }
  else none

def unhindered : SyncSurroundings where
  user := ⟨true, "/p"⟩

theorem oldLayout_resettable :
    Resettable unhindered.user.homeDir oldLayout (names (QString.moves "/p"))
    where
  grounded := Tree.grounded_single _ _
  isDir := by decide +kernel
  before := by decide +kernel
  between := by decide +kernel
  after := by decide +kernel
  links _ _ := rfl
  files := by decide +kernel

end PlasmaLoginAuthHelper

open PlasmaLoginAuthHelper in
theorem reset_sync_exact_colours :
    ExactSettings newColours unhindered.user.homeDir
      (sync newColours unhindered (reset unhindered oldLayout).2).2 :=
  reset_sync_exact oldLayout_resettable rfl rfl
    ⟨rfl, rfl, fun _ => rfl, fun _ => rfl⟩ (by decide +kernel)
    (by decide +kernel)

end PlasmaLogin

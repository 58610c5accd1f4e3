/-
The home directory as `sync` finds it when it gets to the files, told from
what was there before: what clearing the cache takes away, where the paths
lead without it, and the directories that are made.
-/
import PlasmaLogin.SettingsSync

namespace PlasmaLogin

open LinkedFiles PathWalk

namespace PlasmaLoginAuthHelper

/-- The path of `.cache`. -/
def cachePath (homeDir : QString) : List (Move FileName) :=
  QString.moves (homeDir ++ ("/.cache" : QString))

/-- The path of `.config`. -/
def configDirPath (homeDir : QString) : List (Move FileName) :=
  QString.moves (homeDir ++ ("/.config" : QString))

/-- The path of `.config/fontconfig`. -/
def fontconfigDirPath (homeDir : QString) : List (Move FileName) :=
  QString.moves (homeDir ++ ("/.config/fontconfig" : QString))

section before

variable (homeDir : QString) (refusals : SyncRefusals) (t : FileTree)
  (l : List FileName)

/-- What keeps the directory at `.cache` from being removed: an entry that
cannot be removed, or that `.cache` is only a link to it. -/
def resisting (home cache : List FileName) : List (List FileName) :=
  if (t.links (home ++ [cacheName])).isSome then cache :: refusals.entries
  else refusals.entries

/-- What clearing the cache takes away. -/
def cleared : Bool :=
  match t.location (cachePath homeDir), t.location homeDir.moves with
  | some cache, some home =>
      t.isDirAt cache && t.removed cache (resisting refusals t home cache) l
  | _, _ => false

/-- Where a path leads when the links that are cleared are gone. -/
def leads (path : List (Move FileName)) : Option (List FileName) :=
  locate (fun l => if cleared homeDir refusals t l then none else t.links l)
    maxLinks [] path

/-- A directory that is not cleared. -/
def keepsDir : Bool := t.isDirAt l && !cleared homeDir refusals t l

/-- The content of a file that is not cleared. -/
def kept : Option QByteArray :=
  if cleared homeDir refusals t l then none else t.contentAt l

/-- Nothing was at a location, or it is cleared. -/
def freed : Bool := t.isFreeAt l || cleared homeDir refusals t l

/-- Where `.config` is made, if it is. -/
def madeConfig : Option (List FileName) :=
  if (leads homeDir refusals t (configDirPath homeDir)).any
      (keepsDir homeDir refusals t) || refusals.mkdirConfig then none
  else
    Tree.newIn (keepsDir homeDir refusals t) (freed homeDir refusals t)
      configName (leads homeDir refusals t homeDir.moves)

/-- A directory once `.config` is made. -/
def hasConfig : Bool :=
  keepsDir homeDir refusals t l ||
    decide (madeConfig homeDir refusals t = some l)

/-- Where `fontconfig` is made, if it is. -/
def madeFontconfig : Option (List FileName) :=
  if (leads homeDir refusals t (fontconfigDirPath homeDir)).any
      (hasConfig homeDir refusals t) || refusals.mkdirFontconfig then none
  else
    Tree.newIn (hasConfig homeDir refusals t) (freed homeDir refusals t)
      fontconfigName (leads homeDir refusals t (configDirPath homeDir))

/-- A directory when the files are written. -/
def hasDir : Bool :=
  hasConfig homeDir refusals t l ||
    decide (madeFontconfig homeDir refusals t = some l)

/-- A file can be opened, in a directory and where none is, and takes all of
its content. -/
def Writable (name content : QString) : Prop :=
  refusals.opens name = false ∧
    storedBytes refusals name content = content.streamed ∧
      ∃ l, leads homeDir refusals t (configPath homeDir name).moves = some l ∧
        hasDir homeDir refusals t l.dropLast = true ∧
          hasDir homeDir refusals t l = false

end before

section prepared

variable {homeDir : QString} {refusals : SyncRefusals} {t : FileTree}

theorem clearCache_eq : clearCache homeDir refusals t =
    t.clearAt (cleared homeDir refusals t) := by
  have hnothing : (∀ l, cleared homeDir refusals t l = false) →
      t = t.clearAt (cleared homeDir refusals t) := by
    intro h
    rw [funext h]
    rfl
  rw [clearCache, ← cachePath]
  simp only
  cases hcache : t.location (cachePath homeDir) with
  | none =>
      apply hnothing
      intro l
      rw [cleared, hcache]
  | some cache =>
      cases hhome : t.location homeDir.moves with
      | none =>
          apply hnothing
          intro l
          rw [cleared, hcache, hhome]
      | some home =>
          have hcleared : ∀ l, cleared homeDir refusals t l =
              (t.isDirAt cache &&
                t.removed cache (resisting refusals t home cache) l) := by
            intro l
            rw [cleared, hcache, hhome]
          change (if t.isDirAt cache then
            t.removeRecursively cache (resisting refusals t home cache)
              else t) = _
          by_cases hdir : t.isDirAt cache = true
          · rw [if_pos hdir, funext hcleared, hdir]
            rfl
          · rw [if_neg hdir]
            apply hnothing
            intro l
            rw [hcleared, Bool.eq_false_iff.2 hdir, Bool.false_and]

theorem location_clearCache (path : List (Move FileName)) :
    (clearCache homeDir refusals t).location path =
      leads homeDir refusals t path := by
  rw [clearCache_eq]
  rfl

theorem isDirAt_clearCache (l : List FileName) :
    (clearCache homeDir refusals t).isDirAt l =
      keepsDir homeDir refusals t l := by
  rw [clearCache_eq, Tree.isDirAt_clearAt, keepsDir]

theorem isFreeAt_clearCache (l : List FileName) :
    (clearCache homeDir refusals t).isFreeAt l =
      freed homeDir refusals t l := by
  rw [clearCache_eq, Tree.isFreeAt_clearAt, freed]

theorem makeConfigDir_clearCache :
    makeConfigDir homeDir refusals (clearCache homeDir refusals t) =
      (clearCache homeDir refusals t).addDir
        (madeConfig homeDir refusals t) := by
  have hdir : (clearCache homeDir refusals t).isDir (configDirPath homeDir) =
      (leads homeDir refusals t (configDirPath homeDir)).any
        (keepsDir homeDir refusals t) := by
    rw [Tree.isDir, location_clearCache, funext isDirAt_clearCache]
  change (if (clearCache homeDir refusals t).isDir (configDirPath homeDir) ||
    refusals.mkdirConfig then _ else _) = _
  rw [hdir, Tree.mkdir_eq, location_clearCache, funext isDirAt_clearCache,
    funext isFreeAt_clearCache, Tree.addDir_ite]
  rfl

theorem of_madeConfig {l : List FileName}
    (h : madeConfig homeDir refusals t = some l) :
    freed homeDir refusals t l = true ∧ l.getLast? = some configName := by
  rw [madeConfig] at h
  split at h
  · exact absurd h.symm (Option.some_ne_none l)
  · exact Tree.of_newIn_eq_some h

theorem of_madeFontconfig {l : List FileName}
    (h : madeFontconfig homeDir refusals t = some l) :
    freed homeDir refusals t l = true ∧
      l.getLast? = some fontconfigName := by
  rw [madeFontconfig] at h
  split at h
  · exact absurd h.symm (Option.some_ne_none l)
  · exact Tree.of_newIn_eq_some h

/-- What is free stays free where no directory of that name is made. -/
theorem isFreeAt_makeConfigDir {l : List FileName}
    (h : l.getLast? ≠ some configName) :
    (makeConfigDir homeDir refusals (clearCache homeDir refusals t)).isFreeAt
      l = freed homeDir refusals t l := by
  have hmade : madeConfig homeDir refusals t ≠ some l :=
    fun hl => h (of_madeConfig hl).2
  rw [makeConfigDir_clearCache, Tree.isFreeAt_addDir, isFreeAt_clearCache,
    decide_eq_false hmade, Bool.not_false, Bool.and_true]

theorem isDirAt_makeConfigDir (l : List FileName) :
    (makeConfigDir homeDir refusals (clearCache homeDir refusals t)).isDirAt
      l = hasConfig homeDir refusals t l := by
  rw [makeConfigDir_clearCache, Tree.isDirAt_addDir, isDirAt_clearCache,
    hasConfig]

theorem location_makeConfigDir (path : List (Move FileName)) :
    (makeConfigDir homeDir refusals (clearCache homeDir refusals t)).location
      path = leads homeDir refusals t path := by
  rw [makeConfigDir_clearCache, Tree.location_addDir, location_clearCache]

theorem prepare_eq : prepare homeDir refusals t =
    (makeConfigDir homeDir refusals (clearCache homeDir refusals t)).addDir
      (madeFontconfig homeDir refusals t) := by
  let u := makeConfigDir homeDir refusals (clearCache homeDir refusals t)
  have hdir : u.isDir (fontconfigDirPath homeDir) =
      (leads homeDir refusals t (fontconfigDirPath homeDir)).any
        (hasConfig homeDir refusals t) := by
    rw [Tree.isDir, location_makeConfigDir, funext isDirAt_makeConfigDir]
  have hmade : Tree.newIn u.isDirAt u.isFreeAt fontconfigName
        (u.location (configDirPath homeDir)) =
      Tree.newIn (hasConfig homeDir refusals t) (freed homeDir refusals t)
        fontconfigName (leads homeDir refusals t (configDirPath homeDir)) := by
    rw [location_makeConfigDir, funext isDirAt_makeConfigDir, Tree.newIn,
      Tree.newIn]
    congr
    funext config
    rw [isFreeAt_makeConfigDir]
    rw [List.getLast?_concat, Ne, Option.some.injEq]
    decide
  change (if u.isDir (fontconfigDirPath homeDir) ||
    refusals.mkdirFontconfig then _ else u.mkdir (configDirPath homeDir) _) = _
  rw [hdir, Tree.mkdir_eq, hmade, Tree.addDir_ite]
  rfl

/-- Making directories leads no path elsewhere. -/
theorem location_prepare (path : List (Move FileName)) :
    (prepare homeDir refusals t).location path =
      leads homeDir refusals t path := by
  rw [prepare_eq, Tree.location_addDir, location_makeConfigDir]

theorem isDirAt_prepare (l : List FileName) :
    (prepare homeDir refusals t).isDirAt l = hasDir homeDir refusals t l := by
  rw [prepare_eq, Tree.isDirAt_addDir, isDirAt_makeConfigDir, hasDir]

theorem isFreeAt_prepare {l : List FileName}
    (hconfig : l.getLast? ≠ some configName)
    (hfontconfig : l.getLast? ≠ some fontconfigName) :
    (prepare homeDir refusals t).isFreeAt l = freed homeDir refusals t l := by
  have hmade : madeFontconfig homeDir refusals t ≠ some l :=
    fun hl => hfontconfig (of_madeFontconfig hl).2
  rw [prepare_eq, Tree.isFreeAt_addDir, isFreeAt_makeConfigDir hconfig,
    decide_eq_false hmade, Bool.not_false, Bool.and_true]

theorem contentAt_prepare (l : List FileName) :
    (prepare homeDir refusals t).contentAt l = kept homeDir refusals t l := by
  rw [prepare_eq, Tree.contentAt_addDir, makeConfigDir_clearCache,
    Tree.contentAt_addDir, clearCache_eq, Tree.contentAt_clearAt, kept]
  · intro l hl
    rw [isFreeAt_clearCache]
    exact (of_madeConfig hl).1
  · intro l hl
    obtain ⟨hfree, hlast⟩ := of_madeFontconfig hl
    rw [isFreeAt_makeConfigDir, hfree]
    rw [hlast, Ne, Option.some.injEq]
    decide

/-- The content at the end of a path. -/
theorem content_prepare (path : List (Move FileName)) :
    (prepare homeDir refusals t).content path =
      (leads homeDir refusals t path).bind (kept homeDir refusals t) := by
  rw [Tree.content, location_prepare, funext contentAt_prepare]

theorem writesFully_prepare_iff {name content : QString} :
    writesFully homeDir refusals name content (prepare homeDir refusals t) =
        true ↔ Writable homeDir refusals t name content := by
  rw [writesFully, Bool.and_eq_true, Bool.and_eq_true, Bool.not_eq_true',
    decide_eq_true_eq, Writable, and_assoc, and_comm (b := _ = _)]
  apply and_congr Iff.rfl
  apply and_congr Iff.rfl
  rw [Tree.openForWriting, location_prepare]
  cases leads homeDir refusals t (configPath homeDir name).moves with
  | none => simp
  | some l =>
      simp [Option.filter, Tree.writableAt, isDirAt_prepare]

end prepared

end PlasmaLoginAuthHelper

end PlasmaLogin

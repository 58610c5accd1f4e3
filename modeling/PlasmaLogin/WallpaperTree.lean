/-
Where `save` puts the wallpapers.  Once the configuration is written the child
empties the greeter's directory of wallpapers and fills it again from
descriptors it was given: the directories on the way to a file are made by
path, the file itself is opened below the directory, and only then is anything
written.
-/
import PlasmaLogin.ClearedDirectory
import PlasmaLogin.ConfigSave

namespace PlasmaLogin

open LinkedFiles PathWalk

/-- What the system refuses the child, by the number of the wallpaper: opening
the file, reading on once so many bytes are read, and storing more than so
many.  A child that is killed on the way to a refusal leaves the same files. -/
structure CopyRefusals where
  entries : List (List FileName) := []
  mkdir : List FileName → Bool := fun _ => false
  root : Bool := false
  openat2 : Nat → Bool := fun _ => false
  openOut : Nat → Bool := fun _ => false
  openIn : Nat → Bool := fun _ => false
  reads : Nat → Option Nat := fun _ => none
  stored : Nat → Option Nat := fun _ => none

/-- What `save` is given, and where the configuration is; descriptors of one
open file share what is left to read of it. -/
structure CopyTask where
  args : QString → Option Variant
  configFile : QString := "/etc/plasmalogin.conf"
  homeDir : QString
  openFile : QString → Nat := fun _ => 0
  refusals : CopyRefusals := {}

/-- The files, what is left to read of the open files, and the directory of
the wallpapers once it is open. -/
structure CopyState where
  tree : FileTree
  unread : Nat → QByteArray
  root : List FileName := []

namespace QString

/-- `path.left(path.lastIndexOf("/"))`, for a path with a separator. -/
def leftOfLast (path : QString) : QString :=
  ((path.reverse.dropWhile (· ≠ slash)).drop 1).reverse

/-- The string a C function is passed. -/
def cString (s : QString) : QString := s.takeWhile (· ≠ 0)

end QString

namespace PlasmaLoginAuthHelper

def wallpapersName : FileName := ⟨"wallpapers", by decide⟩

/-- The directory a wallpaper is in, below the home directory. -/
def relativeParentDirectory (wallpaper : QString) : QString :=
  (("wallpapers/" : QString) ++ wallpaper).leftOfLast

/-- What is read with a buffer of this size, so many times at most. -/
def pieces (size : Nat) : Nat → QByteArray → List QByteArray
  | 0, _ => []
  | n + 1, bytes =>
      if bytes.isEmpty then []
      else bytes.take size :: pieces size n (bytes.drop size)

/-- The reads of an open file to its end, or up to one that fails. -/
def reads (fails : Option Nat) (unread : QByteArray) :
    List (Option QByteArray) :=
  match fails with
  | none => (pieces 4096 unread.length unread).map some
  | some n => (pieces 4096 n (unread.take n)).map some ++ [none]

end PlasmaLoginAuthHelper

namespace CopyTask

open PlasmaLoginAuthHelper

variable (task : CopyTask)

/-- The descriptor of a wallpaper is there, and of a regular file. -/
def hasDescriptor (wallpaper : QString) : Bool :=
  ((task.args (("_fd_" : QString) ++ wallpaper)).getD {}).regularFd

/-- What the system stores of a wallpaper. -/
def storedBytes (i : Nat) (content : QByteArray) : QByteArray :=
  match task.refusals.stored i with
  | none => content
  | some n => content.take n

/-- The steps before the first wallpaper. -/
def clean (s : CopyState) : CopyState × Bool :=
  let tree := clearDirectory task.homeDir wallpapersName task.refusals.entries
    s.tree
  ({ s with tree := tree }, true)

def makeRoot (s : CopyState) : CopyState × Bool :=
  let tree := s.tree.mkdirUnless task.refusals.mkdir task.homeDir.moves
    wallpapersName
  ({ s with tree := tree }, true)

def openRoot (s : CopyState) : CopyState × Bool :=
  match (s.tree.location (entryPath task.homeDir wallpapersName)).filter
      s.tree.isDirAt with
  | none => (s, false)
  | some root =>
      if task.refusals.root then (s, false) else ({ s with root := root }, true)

/-- `homeDir.mkpath` of the directory a wallpaper is in. -/
def makeParent (wallpaper : QString) (t : FileTree) : FileTree × Bool :=
  if 0 ∈ relativeParentDirectory wallpaper then (t, false)
  else t.mkpath task.refusals.mkdir (QString.moves
    (task.homeDir ++ QString.ofString "/" ++ relativeParentDirectory wallpaper))

/-- The `openat2` of a wallpaper, which may not leave the directory. -/
def openBeneath (i : Nat) (wallpaper : QString) (root : List FileName)
    (t : FileTree) : Option (List FileName) :=
  if task.refusals.openat2 i || wallpaper.cString.head? == some slash then none
  else t.openBeneath root wallpaper.cString.moves

/-- One turn of the loop over the wallpapers. -/
def copyWallpaper (p : QString × Nat) (s : CopyState) : CopyState × Bool :=
  if badlyFormed p.1 then (s, false)
  else
    let made := task.makeParent p.1 s.tree
    let s := { s with tree := made.1 }
    if !made.2 then (s, false)
    else
      match task.openBeneath p.2 p.1 s.root s.tree with
      | none => (s, false)
      | some l =>
          let s := { s with tree := s.tree.setNode l (.file []) }
          if task.refusals.openOut p.2 then (s, false)
          else if !task.hasDescriptor p.1 then (s, true)
          else if task.refusals.openIn p.2 then (s, false)
          else
            let file := task.openFile p.1
            let r := transfer (reads (task.refusals.reads p.2) (s.unread file))
            ({ s with
                tree := s.tree.setNode l (.file (task.storedBytes p.2 r.1)),
                unread := fun file' =>
                  if file' = file then (s.unread file).drop r.1.length
                  else s.unread file' },
              r.2)

/-- The function `save` runs as the greeter's user. -/
def function : List (CopyState → CopyState × Bool) :=
  task.clean :: task.makeRoot :: task.openRoot ::
    (wallpaperNames task.args).zipIdx.map task.copyWallpaper

/-- The configuration file can be opened. -/
def opensConfig (env : SaveSurroundings) (t : FileTree) : Bool :=
  env.opens && (t.openForWriting task.configFile.moves).isSome

/-- The tree with this in the configuration file. -/
def configured (content : QByteArray) (t : FileTree) : FileTree :=
  t.write task.configFile.moves content

/-- The tree with the text in the configuration file. -/
def storesConfig (env : SaveSurroundings) (t : FileTree) : FileTree :=
  task.configured (storedConfig task.args env) t

end CopyTask

open PlasmaLoginAuthHelper in
/-- `PlasmaLoginAuthHelper::save`, on the files. -/
def saveWallpapers (task : CopyTask) (env : SaveSurroundings) (s : CopyState) :
    ActionReply × CopyState :=
  if !task.opensConfig env s.tree then (.helperError, s)
  else if oversized task.args then
    (.helperError, { s with tree := task.configured [] s.tree })
  else
    let s := { s with tree := task.storesConfig env s.tree }
    if (plasmaloginUserHomeDir env.user).isNone then (.helperError, s)
    else if !adjustPermissionsFromPlasma6_6 env.user env.repaired then
      (.helperError, s)
    else
      let r := runAsPlasmaLoginUser env.user env.run task.function s
      (if r.2 then .success else .helperError, r.1)

namespace CopyTask

open PlasmaLoginAuthHelper

/-- The tree once the old wallpapers are gone. -/
def cleaned (task : CopyTask) (t : FileTree) : FileTree :=
  clearDirectory task.homeDir wallpapersName task.refusals.entries t

/-- What has become of the files since the directory of the wallpapers was
opened. -/
def Copied (task : CopyTask) (t : FileTree) (s : CopyState) : Prop :=
  (task.cleaned t).location (entryPath task.homeDir wallpapersName) =
      some s.root ∧
    Tree.GrownOutside s.root (task.cleaned t) s.tree

section steps

variable {task : CopyTask} {t : FileTree} {s : CopyState}

theorem grown_makeParent (wallpaper : QString) :
    Tree.Grown t (task.makeParent wallpaper t).1 := by
  rw [makeParent]
  split
  · exact .refl t
  · exact Tree.grown_mkpath _

theorem prefix_of_openBeneath {i : Nat} {wallpaper : QString}
    {root l : List FileName}
    (h : task.openBeneath i wallpaper root t = some l) : root <+: l := by
  unfold openBeneath at h
  split at h
  · exact absurd h (by simp)
  · exact (Tree.prefix_of_openBeneath h).1

/-- A turn makes directories, and writes below the open directory only. -/
theorem outside_copyWallpaper (task : CopyTask) (p : QString × Nat) :
    (task.copyWallpaper p s).1.root = s.root ∧
      Tree.GrownOutside s.root s.tree (task.copyWallpaper p s).1.tree := by
  have hgrown : Tree.GrownOutside s.root s.tree
      (task.makeParent p.1 s.tree).1 := (grown_makeParent p.1).outside _
  unfold copyWallpaper
  split
  · exact ⟨rfl, (Tree.Grown.refl _).outside _⟩
  · simp only
    split
    · exact ⟨rfl, hgrown⟩
    · split
      · exact ⟨rfl, hgrown⟩
      next l hopen =>
        have hl := prefix_of_openBeneath hopen
        have hempty := hgrown.trans
          (Tree.grownOutside_setNode hl (.file []) _)
        split
        · exact ⟨rfl, hempty⟩
        · split
          · exact ⟨rfl, hempty⟩
          · split
            · exact ⟨rfl, hempty⟩
            · exact ⟨rfl, hempty.trans (Tree.grownOutside_setNode hl _ _)⟩

theorem copied_turns (turns : List (QString × Nat)) (hs : Copied task t s) :
    Copied task t (runSteps (turns.map task.copyWallpaper) s).1 := by
  apply runSteps_invariant (I := Copied task t) _ hs
  intro step hstep s hs
  obtain ⟨p, _, rfl⟩ := List.mem_map.1 hstep
  obtain ⟨hroot, houtside⟩ := outside_copyWallpaper task (s := s) p
  rw [Copied, hroot]
  exact ⟨hs.1, hs.2.trans houtside⟩

theorem openRoot_cases (task : CopyTask) (s : CopyState) :
    task.openRoot s = (s, false) ∨ ∃ root,
    s.tree.location (entryPath task.homeDir wallpapersName) = some root ∧
      s.tree.isDirAt root = true ∧
        task.openRoot s = ({ s with root := root }, true) := by
  unfold openRoot
  split
  next => exact Or.inl rfl
  next root hroot =>
    obtain ⟨hlocation, hdir⟩ := Option.filter_eq_some_iff.1 hroot
    split
    · exact Or.inl rfl
    · exact Or.inr ⟨root, hlocation, hdir, rfl⟩

/-- How far the child has come after some of its steps: it has changed
nothing, made directories only, or opened the directory of the wallpapers. -/
theorem progress_take (n : Nat) :
    (runSteps (task.function.take n) s).1.tree = s.tree ∨
      Tree.Grown (task.cleaned s.tree)
        (runSteps (task.function.take n) s).1.tree ∨
      Copied task s.tree (runSteps (task.function.take n) s).1 := by
  have hmade : Tree.Grown (task.cleaned s.tree)
      (task.makeRoot (task.clean s).1).1.tree := Tree.grown_mkdirUnless _ _
  rcases n with - | - | - | n
  · exact Or.inl rfl
  · exact Or.inr (Or.inl (.refl _))
  · exact Or.inr (Or.inl hmade)
  · rw [function, List.take_succ_cons, List.take_succ_cons,
      List.take_succ_cons, runSteps_cons_of_true rfl,
      runSteps_cons_of_true rfl, ← List.map_take]
    rcases openRoot_cases task (task.makeRoot (task.clean s).1).1 with hroot |
        ⟨root, hlocation, _, hroot⟩
    · rw [runSteps_cons_of_false (by rw [hroot]), hroot]
      exact Or.inr (Or.inl hmade)
    · rw [runSteps_cons_of_true (by rw [hroot]), hroot]
      refine Or.inr (Or.inr (copied_turns _ ⟨?_, hmade.outside root⟩))
      rwa [hmade.location] at hlocation

theorem location_of_copied (h : Copied task t s) :
    s.tree.location (entryPath task.homeDir wallpapersName) = some s.root := by
  rw [Tree.location, h.2.links]
  exact h.1

/-- The tree is left as it was, or the child has come so far. -/
theorem progress_run (task : CopyTask) (user : GreeterUser) (run : ChildRun)
    (s : CopyState) :
    (runAsPlasmaLoginUser user run task.function s).1.tree = s.tree ∨
      Tree.Grown (task.cleaned s.tree)
        (runAsPlasmaLoginUser user run task.function s).1.tree ∨
      Copied task s.tree
        (runAsPlasmaLoginUser user run task.function s).1 :=
  runAsPlasmaLoginUser_fst
    (P := fun s' => s'.tree = s.tree ∨
      Tree.Grown (task.cleaned s.tree) s'.tree ∨
      Copied task s.tree s') progress_take

end steps

/-- A location at the greeter's directory of wallpapers or below it, as a tree
has it. -/
def BelowWallpapers (homeDir : QString) (t : FileTree) (l : List FileName) :
    Prop :=
  ∃ base, t.location (entryPath homeDir wallpapersName) = some base ∧
    base <+: l

/-- Links and files went from the directory of the wallpapers only, files came
to that directory only, and elsewhere at most directories were made where
nothing was. -/
structure Confined (homeDir : QString) (before after : FileTree) : Prop where
  links : ∀ l, after.links l = before.links l ∨
    (BelowWallpapers homeDir before l ∧ after.links l = none)
  nodes : ∀ l, BelowWallpapers homeDir after l ∨
    after.nodes l = before.nodes l ∨
    (BelowWallpapers homeDir before l ∧ after.nodes l = none) ∨
    ((before.isFreeAt l = true ∨ BelowWallpapers homeDir before l) ∧
      after.nodes l = some .directory)

section confined

variable {task : CopyTask} {t t' : FileTree}

theorem confined_refl (homeDir : QString) (t : FileTree) :
    Confined homeDir t t :=
  ⟨fun _ => Or.inl rfl, fun _ => Or.inr (Or.inl rfl)⟩

/-- What is no longer as it was went from the directory of the wallpapers. -/
theorem cleaned_cases (task : CopyTask) (t : FileTree) (l : List FileName) :
    ((task.cleaned t).links l = t.links l ∧
        (task.cleaned t).nodes l = t.nodes l) ∨
      (BelowWallpapers task.homeDir t l ∧ (task.cleaned t).links l = none ∧
        (task.cleaned t).nodes l = none) := by
  rw [cleaned, clearDirectory_eq, Tree.links_clearAt, Tree.nodes_clearAt]
  cases hgoes : goes task.homeDir wallpapersName task.refusals.entries t l with
  | true => exact Or.inr ⟨prefix_of_goes hgoes, rfl, rfl⟩
  | false => exact Or.inl ⟨rfl, rfl⟩

theorem confined_of_cleaned (hlinks : t'.links = (task.cleaned t).links)
    (h : ∀ l, BelowWallpapers task.homeDir t' l ∨
      t'.nodes l = (task.cleaned t).nodes l ∨
      ((task.cleaned t).isFreeAt l = true ∧
        t'.nodes l = some .directory)) :
    Confined task.homeDir t t' where
  links l := by
    rw [hlinks]
    rcases cleaned_cases task t l with ⟨hlinks, _⟩ |
      ⟨hbelow, hlinks, _⟩
    · exact Or.inl hlinks
    · exact Or.inr ⟨hbelow, hlinks⟩
  nodes l := by
    rcases h l with hl | hnodes | ⟨hfree, hnodes⟩
    · exact Or.inl hl
    · rw [hnodes]
      rcases cleaned_cases task t l with ⟨_, hsame⟩ |
        ⟨hbelow, _, hgone⟩
      · exact Or.inr (Or.inl hsame)
      · exact Or.inr (Or.inr (Or.inl ⟨hbelow, hgone⟩))
    · refine Or.inr (Or.inr (Or.inr ⟨?_, hnodes⟩))
      rcases cleaned_cases task t l with ⟨hlinks, hsame⟩ |
        ⟨hbelow, _⟩
      · rw [Tree.isFreeAt, hlinks, hsame] at hfree
        exact Or.inl hfree
      · exact Or.inr hbelow

/-- The child keeps to the directory of the wallpapers. -/
theorem confined_run (task : CopyTask) (user : GreeterUser) (run : ChildRun)
    (s : CopyState) :
    Confined task.homeDir s.tree
      (runAsPlasmaLoginUser user run task.function s).1.tree := by
  rcases progress_run task user run s with hsame | hgrown | hcopied
  · rw [hsame]
    exact confined_refl task.homeDir s.tree
  · exact confined_of_cleaned hgrown.links fun l => Or.inr (hgrown.nodes l)
  · exact confined_of_cleaned hcopied.2.links fun l =>
      (hcopied.2.nodes l).imp_left fun hl =>
        ⟨_, location_of_copied hcopied, hl⟩

end confined

end CopyTask

/-- Whatever `save` is given, finds and is refused, and wherever its child is
killed: once the configuration file is written, if it is, files come and go in
the greeter's directory of wallpapers only. -/
theorem saveWallpapers_confined (task : CopyTask) (env : SaveSurroundings)
    (s : CopyState) :
    ∃ t ∈ [s.tree, task.configured [] s.tree, task.storesConfig env s.tree],
      CopyTask.Confined task.homeDir t (saveWallpapers task env s).2.tree := by
  have hsame : ∀ t ∈ [s.tree, task.configured [] s.tree,
      task.storesConfig env s.tree], ∃ t' ∈ [s.tree, task.configured [] s.tree,
        task.storesConfig env s.tree], CopyTask.Confined task.homeDir t' t :=
    fun t ht => ⟨t, ht, CopyTask.confined_refl task.homeDir t⟩
  unfold saveWallpapers
  split
  · exact hsame _ (by simp)
  · split
    · exact hsame _ (by simp)
    · simp only
      split
      · exact hsame _ (by simp)
      · split
        · exact hsame _ (by simp)
        · exact ⟨_, by simp, CopyTask.confined_run task env.user env.run
            { s with tree := task.storesConfig env s.tree }⟩

namespace CopyTask

open PlasmaLoginAuthHelper

/-- What comes of the system calls of a turn. -/
def outcome (task : CopyTask) (p : QString × Nat) (s : CopyState) :
    WallpaperCopy :=
  let made := task.makeParent p.1 s.tree
  { mkpath := made.2,
    openat2 := (task.openBeneath p.2 p.1 s.root made.1).isSome,
    openOut := !task.refusals.openOut p.2,
    openIn := !task.refusals.openIn p.2,
    reads := reads (task.refusals.reads p.2)
      (s.unread (task.openFile p.1)) }

/-- The surroundings of the child, told from the files. -/
def surroundings (task : CopyTask) (env : SaveSurroundings) (s : CopyState) :
    SaveSurroundings :=
  let opened := task.openRoot (task.makeRoot (task.clean s).1).1
  let turns := (wallpaperNames task.args).zipIdx
  { env with
    rootOpens := opened.2,
    copies := fun i => (turns[i]?.map fun p => task.outcome p
      (runSteps ((turns.take i).map task.copyWallpaper) opened.1).1).getD {} }

section replies

variable {task : CopyTask}

theorem copyWallpaper_snd (p : QString × Nat) (s : CopyState) :
    (task.copyWallpaper p s).2 = copies task.args (task.outcome p s) p.1 := by
  unfold copyWallpaper copies outcome
  cases badlyFormed p.1 with
  | true => rfl
  | false =>
      simp only [Bool.false_eq_true, ↓reduceIte]
      cases (task.makeParent p.1 s.tree).2 with
      | false => rfl
      | true =>
          simp only [Bool.not_true, Bool.false_eq_true, ↓reduceIte]
          cases task.openBeneath p.2 p.1 s.root
              (task.makeParent p.1 s.tree).1 with
          | none => rfl
          | some l =>
              simp only
              cases task.refusals.openOut p.2 with
              | true => rfl
              | false =>
                  rw [← hasDescriptor]
                  cases task.hasDescriptor p.1 with
                  | false => rfl
                  | true =>
                      cases task.refusals.openIn p.2 with
                      | true => rfl
                      | false => exact transfer_snd _

/-- The child ends as the surroundings told from the files say. -/
theorem runSteps_function_snd (env : SaveSurroundings) (s : CopyState)
    (w : Wallpapers) :
    (runSteps task.function s).2 =
      (runSteps (saveFunction task.args (task.surroundings env s)) w).2 := by
  rw [saveFunction_snd, function, runSteps_cons_of_true rfl,
    runSteps_cons_of_true rfl, surroundings]
  simp only
  cases hroot : (task.openRoot (task.makeRoot (task.clean s).1).1).2 with
  | false => rw [runSteps_cons_of_false hroot, Bool.false_and]
  | true =>
      rw [runSteps_cons_of_true hroot, Bool.true_and, Bool.eq_iff_iff,
        runSteps_map_iff, List.all_eq_true]
      constructor
      · rintro h ⟨name, i⟩ hp
        have hget := (List.mem_zipIdx_iff_getElem?).1 hp
        have hp' : (wallpaperNames task.args).zipIdx[i]? = some (name, i) := by
          simp [List.getElem?_zipIdx, hget]
        have hturn := h i _ hp'
        rw [copyWallpaper_snd] at hturn
        simpa only [hp', Option.map_some, Option.getD_some] using hturn
      · rintro h i ⟨name, i'⟩ hp
        have hi : (wallpaperNames task.args)[i]? = some name ∧ i = i' := by
          simpa [List.getElem?_zipIdx] using hp
        obtain ⟨hget, rfl⟩ := hi
        have hturn := h (name, i) (List.mem_zipIdx_iff_getElem?.2 hget)
        rw [copyWallpaper_snd]
        simpa only [hp, Option.map_some, Option.getD_some] using hturn

end replies

/-- The surroundings of `save`, told from the files. -/
def saveSurroundings (task : CopyTask) (env : SaveSurroundings)
    (s : CopyState) : SaveSurroundings :=
  { task.surroundings env { s with tree := task.storesConfig env s.tree } with
    opens := task.opensConfig env s.tree }

/-- The child leaves a file that is not among the wallpapers alone. -/
theorem Confined.contentAt {homeDir : QString} {before after : FileTree}
    {l : List FileName} {content : QByteArray}
    (h : Confined homeDir before after)
    (hfile : before.nodes l = some (.file content))
    (hbefore : ¬ BelowWallpapers homeDir before l)
    (hafter : ¬ BelowWallpapers homeDir after l) :
    after.contentAt l = some content := by
  rcases h.nodes l with hbelow | hsame | ⟨hbelow, _⟩ | ⟨hfree | hbelow, _⟩
  · exact absurd hbelow hafter
  · exact Tree.contentAt_of_file (hsame.trans hfile)
  · exact absurd hbelow hbefore
  · rw [Tree.isFreeAt_iff, hfile] at hfree
    exact absurd hfree.2 (by simp)
  · exact absurd hbelow hbefore

end CopyTask

open PlasmaLoginAuthHelper in
/-- The reply is that of `save` in the surroundings the files make. -/
theorem saveWallpapers_fst (task : CopyTask) (env : SaveSurroundings)
    (s : CopyState) (s' : SaveState) :
    (saveWallpapers task env s).1 =
      (save task.args (task.saveSurroundings env s) s').1 := by
  have hopens : (task.saveSurroundings env s).opens =
      task.opensConfig env s.tree := rfl
  have huser : (task.saveSurroundings env s).user = env.user := rfl
  have hrepaired : (task.saveSurroundings env s).repaired = env.repaired :=
    rfl
  have hrun : (task.saveSurroundings env s).run = env.run := rfl
  rw [saveWallpapers, save, hopens, huser, hrepaired, hrun]
  split
  · rfl
  · simp only
    split
    · rfl
    · split
      · rfl
      · split
        · rfl
        · rw [runAsPlasmaLoginUser_snd_congr
            (CopyTask.runSteps_function_snd env
              { s with tree := task.storesConfig env s.tree } s'.wallpapers)]
          rfl

open PlasmaLoginAuthHelper in
/-- What is in the configuration file is what `save` puts there, unless it is
one of the wallpapers. -/
theorem saveWallpapers_config (task : CopyTask) (env : SaveSurroundings)
    (s : CopyState) (w : Wallpapers) {l : List FileName}
    (hopen : s.tree.openForWriting task.configFile.moves = some l)
    (hbefore : ¬ CopyTask.BelowWallpapers task.homeDir s.tree l)
    (hafter : ¬ CopyTask.BelowWallpapers task.homeDir
      (saveWallpapers task env s).2.tree l) :
    (saveWallpapers task env s).2.tree.contentAt l =
      (save task.args (task.saveSurroundings env s)
        ⟨s.tree.contentAt l, w⟩).2.config := by
  have hopens : (task.saveSurroundings env s).opens =
      task.opensConfig env s.tree := rfl
  have huser : (task.saveSurroundings env s).user = env.user := rfl
  have hrepaired : (task.saveSurroundings env s).repaired = env.repaired :=
    rfl
  have hwritten : ∀ content, (task.configured content s.tree).nodes l =
      some (.file content) := by
    intro content
    rw [CopyTask.configured, Tree.nodes_write, if_pos hopen]
  have hbelow : ¬ CopyTask.BelowWallpapers task.homeDir
      (task.storesConfig env s.tree) l := by
    rw [CopyTask.BelowWallpapers, CopyTask.storesConfig, CopyTask.configured,
      Tree.location_write]
    exact hbefore
  revert hafter
  rw [saveWallpapers, save, hopens, huser, hrepaired]
  split
  · exact fun _ => rfl
  · simp only
    split
    · exact fun _ => Tree.contentAt_of_file (hwritten [])
    · split
      · exact fun _ => Tree.contentAt_of_file (hwritten _)
      · split
        · exact fun _ => Tree.contentAt_of_file (hwritten _)
        · intro hafter
          exact (CopyTask.confined_run task env.user env.run
            { s with tree := task.storesConfig env s.tree }).contentAt
              (hwritten _) hbelow hafter

end PlasmaLogin

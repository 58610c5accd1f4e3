/-
The wallpaper the settings module hands to `save`: one image, or the metadata
and the images of a package.  The module opens every file it can and passes
the descriptors on under the names the helper looks for.
-/
import Mathlib.Data.List.Nodup
import PlasmaLogin.SessionModel
import PlasmaLogin.WallpaperContents

namespace PlasmaLogin

open LinkedFiles PathWalk PlasmaLoginAuthHelper

/-- A file the settings module has opened. -/
structure PassedFile where
  content : QByteArray
  regular : Bool := true

/-- The files of the user as the settings module finds them; a directory lists
each of its entries once, and no entry has a NUL in its name. -/
structure ImageFiles where
  isDir : QString → Bool
  entryList : QString → List FileName
  file : QString → Option PassedFile
  nodup : ∀ dir, (entryList dir).Nodup
  noNul : ∀ dir, ∀ name ∈ entryList dir, 0 ∉ name.val

namespace PlasmaLoginKcm

variable (found : ImageFiles)

/-- The images of a package in one of its directories, by the path relative to
the greeter's wallpapers and the full one. -/
def addedImages (imagePath dir : QString) : List (QString × QString) :=
  (found.entryList (imagePath ++ dir)).map fun name =>
    (imagePath.fileName ++ dir ++ QString.ofString "/" ++ name.val,
      imagePath ++ dir ++ QString.ofString "/" ++ name.val)

/-- The calls of `addFile` in `syncWallpaper`. -/
def addedFiles (imagePath : QString) : List (QString × QString) :=
  if imagePath.isEmpty then []
  else if found.isDir imagePath then
    (imagePath.fileName ++ ("/metadata.json" : QString),
        imagePath ++ ("/metadata.json" : QString)) ::
      (addedImages found imagePath "/contents/images" ++
        addedImages found imagePath "/contents/images_dark")
  else [(imagePath.fileName, imagePath)]

/-- `wallpaperArgs`, where a name that is added again is overwritten. -/
def passedFile (files : List (QString × QString)) (relativePath : QString) :
    Option PassedFile :=
  files.foldl (fun passed p =>
    if p.1 = relativePath then (found.file p.2).or passed else passed) none

/-- `PlasmaLoginKcm::syncWallpaper`, with the text of the configuration. -/
def saveArguments (imagePath config : QString) : QString → Option Variant :=
  fun key =>
    let files := addedFiles found imagePath
    if key = ("config" : QString) then some { toString := config }
    else if key = ("wallpapers" : QString) then
      if imagePath.isEmpty then none
      else some { toStringList := files.map Prod.fst }
    else if ("_fd_" : QString).isPrefixOf key then
      (passedFile found files (key.drop 4)).map fun file =>
        { regularFd := file.regular }
    else none

/-- The number of the open file of a name. -/
def openFile (imagePath relativePath : QString) : Nat :=
  ((addedFiles found imagePath).map Prod.fst).idxOf relativePath

/-- What is to be read of an open file. -/
def unread (imagePath : QString) (i : Nat) : QByteArray :=
  (((addedFiles found imagePath)[i]?.bind fun p => found.file p.2).map
    PassedFile.content).getD []

/-- What the greeter is to get of a file. -/
def readable (path : QString) : QByteArray :=
  match found.file path with
  | some file => if file.regular then file.content else []
  | none => []

/-- What the helper is given. -/
def task (imagePath config homeDir : QString) (refusals : CopyRefusals) :
    CopyTask where
  args := saveArguments found imagePath config
  homeDir := homeDir
  openFile := openFile found imagePath
  refusals := refusals

section places

variable {found : ImageFiles} {imagePath : QString}

def contentsName : FileName := ⟨"contents", by decide⟩

def imagesName : FileName := ⟨"images", by decide⟩

def imagesDarkName : FileName := ⟨"images_dark", by decide⟩

def metadataName : FileName := ⟨"metadata.json", by decide⟩

/-- The directory of the images in a package. -/
def imagesDir (dir : FileName) : QString :=
  ("/contents/" : QString) ++ dir.val

theorem noNul_fileName (h : 0 ∉ imagePath) : 0 ∉ imagePath.fileName := by
  rw [QString.fileName]
  cases hlast : (QString.components imagePath).getLast? with
  | none => simp
  | some name =>
      have hinside : name <:+: imagePath :=
        QString.isInfix_of_mem_components (List.mem_of_getLast? hlast)
      exact fun hmem => h (hinside.subset hmem)

theorem noNul_imagesDir {dir : FileName} (hpath : 0 ∉ imagePath)
    (hdir : 0 ∉ dir.val) :
    0 ∉ imagePath.fileName ++ imagesDir dir ++ QString.ofString "/" := by
  rw [imagesDir]
  simp only [List.mem_append, not_or]
  exact ⟨⟨noNul_fileName hpath, by decide, hdir⟩, by decide⟩

/-- The place of an image of a package. -/
theorem place_image {dir name : FileName} (hpath : 0 ∉ imagePath)
    (hdir : 0 ∉ dir.val) (hname : 0 ∉ name.val) :
    CopyTask.place (imagePath.fileName ++ imagesDir dir ++
      QString.ofString "/" ++ name.val) =
        names imagePath.fileName.moves ++ [contentsName, dir, name] := by
  have hdirs : imagePath.fileName ++ imagesDir dir =
      imagePath.fileName ++ QString.ofString "/" ++ contentsName.val ++
        QString.ofString "/" ++ dir.val := by
    rw [imagesDir]
    simp only [List.append_assoc]
    rfl
  rw [CopyTask.place_append (noNul_imagesDir hpath hdir),
    CopyTask.place_entry hname, hdirs, QString.moves_append_slash,
    QString.moves_append_slash,
    QString.moves_of_isFileName contentsName.property,
    QString.moves_of_isFileName dir.property, names_append, names_append]
  simp [names]

/-- The places of the images of one of the directories. -/
theorem places_addedImages (found : ImageFiles) (dir : FileName)
    (hpath : 0 ∉ imagePath) (hdir : 0 ∉ dir.val) :
    (addedImages found imagePath (imagesDir dir)).map
        (fun p => CopyTask.place p.1) =
      (found.entryList (imagePath ++ imagesDir dir)).map fun name =>
        names imagePath.fileName.moves ++ [contentsName, dir, name] := by
  rw [addedImages, List.map_map]
  apply List.map_congr_left
  intro name hname
  exact place_image hpath hdir (found.noNul _ name hname)

/-- No two files of a package go to one place. -/
theorem nodup_places (hpath : 0 ∉ imagePath) :
    ((addedFiles found imagePath).map fun p =>
      CopyTask.place p.1).Nodup := by
  unfold addedFiles
  split
  · exact List.nodup_nil
  · split
    · have himages := places_addedImages found imagesName hpath (by decide)
      have hdark := places_addedImages found imagesDarkName hpath (by decide)
      have hmetadata : CopyTask.place (imagePath.fileName ++
          ("/metadata.json" : QString)) =
            names imagePath.fileName.moves ++ [metadataName] := by
        have hpath' : imagePath.fileName ++ ("/metadata.json" : QString) =
            imagePath.fileName ++ QString.ofString "/" ++
              metadataName.val := by
          rw [List.append_assoc]
          rfl
        have hnul : 0 ∉ imagePath.fileName ++ QString.ofString "/" := by
          rw [List.mem_append, not_or]
          exact ⟨noNul_fileName hpath, by decide⟩
        rw [hpath', CopyTask.place_append hnul,
          CopyTask.place_entry (by decide)]
      have hinjective : ∀ dir : FileName, Function.Injective fun name =>
          names imagePath.fileName.moves ++ [contentsName, dir, name] :=
        fun dir name name' h => by simpa using h
      rw [List.map_cons, List.map_append, hmetadata]
      change (_ :: ((addedImages found imagePath (imagesDir imagesName)).map _
        ++ (addedImages found imagePath (imagesDir imagesDarkName)).map
          _)).Nodup
      rw [himages, hdark, List.nodup_cons, List.nodup_append]
      refine ⟨by simp, List.Nodup.map (hinjective _) (found.nodup _),
        List.Nodup.map (hinjective _) (found.nodup _), ?_⟩
      intro p hp q hq heq
      obtain ⟨name, _, rfl⟩ := List.mem_map.1 hp
      obtain ⟨name', _, rfl⟩ := List.mem_map.1 hq
      have hdir : imagesName = imagesDarkName := by
        simp only [List.append_cancel_left_eq, List.cons.injEq] at heq
        exact heq.2.1
      exact absurd hdir (by decide)
    · simp

end places

section arguments

variable {found : ImageFiles} {imagePath config homeDir : QString}
  {refusals : CopyRefusals}

theorem nodup_addedFiles (found : ImageFiles) (hpath : 0 ∉ imagePath) :
    ((addedFiles found imagePath).map Prod.fst).Nodup := by
  have hplaces : (((addedFiles found imagePath).map Prod.fst).map
      CopyTask.place).Nodup := by
    rw [List.map_map]
    exact nodup_places hpath
  exact hplaces.of_map _

theorem foldl_passed_of_not_mem {files : List (QString × QString)}
    {relativePath : QString} (h : relativePath ∉ files.map Prod.fst)
    (passed : Option PassedFile) :
    files.foldl (fun passed p =>
      if p.1 = relativePath then (found.file p.2).or passed else passed)
        passed = passed := by
  induction files with
  | nil => rfl
  | cons p files ih =>
      rw [List.map_cons, List.mem_cons, not_or] at h
      rw [List.foldl_cons, if_neg (Ne.symm h.1)]
      exact ih h.2

/-- A name that is added once is passed as it was found. -/
theorem passedFile_of_mem {files : List (QString × QString)}
    (h : (files.map Prod.fst).Nodup) {p : QString × QString} (hp : p ∈ files) :
    passedFile found files p.1 = found.file p.2 := by
  rw [passedFile]
  induction files with
  | nil => exact absurd hp List.not_mem_nil
  | cons q files ih =>
      rw [List.map_cons, List.nodup_cons] at h
      rw [List.foldl_cons]
      rcases List.mem_cons.1 hp with rfl | hp
      · rw [if_pos rfl, Option.or_none]
        exact foldl_passed_of_not_mem h.1 _
      · have hne : q.1 ≠ p.1 := fun heq =>
          h.1 (heq ▸ List.mem_map_of_mem (f := Prod.fst) hp)
        rw [if_neg hne]
        exact ih h.2 hp

theorem wallpaperNames_saveArguments :
    PlasmaLoginAuthHelper.wallpaperNames
        (saveArguments found imagePath config) =
      (addedFiles found imagePath).map Prod.fst := by
  have hconfig : ("wallpapers" : QString) ≠ ("config" : QString) := by decide
  rw [PlasmaLoginAuthHelper.wallpaperNames, saveArguments]
  simp only [hconfig, ↓reduceIte]
  by_cases hempty : imagePath.isEmpty = true
  · rw [if_pos hempty, addedFiles, if_pos hempty]
    rfl
  · rw [if_neg hempty]
    rfl

/-- The descriptors of the names are those of the files. -/
theorem hasDescriptor_task (hpath : 0 ∉ imagePath) {p : QString × QString}
    (hp : p ∈ addedFiles found imagePath) :
    (task found imagePath config homeDir refusals).hasDescriptor p.1 =
      (found.file p.2).any PassedFile.regular := by
  have hfd : QString.ofString "_fd_" = [95, 102, 100, 95] := by decide
  have hhead : (QString.ofString "_fd_" ++ p.1).head? = some 95 := by
    rw [hfd]
    rfl
  have hconfig : QString.ofString "_fd_" ++ p.1 ≠ QString.ofString "config" := by
    intro heq
    rw [heq] at hhead
    exact absurd hhead (by decide)
  have hwallpapers : QString.ofString "_fd_" ++ p.1 ≠
      QString.ofString "wallpapers" := by
    intro heq
    rw [heq] at hhead
    exact absurd hhead (by decide)
  have hprefix : (QString.ofString "_fd_").isPrefixOf
      (QString.ofString "_fd_" ++ p.1) = true :=
    List.isPrefixOf_iff_prefix.2 (List.prefix_append ..)
  have hname : (QString.ofString "_fd_" ++ p.1).drop 4 = p.1 := by
    rw [hfd]
    rfl
  rw [CopyTask.hasDescriptor, task]
  simp only [saveArguments, hconfig, hwallpapers, hprefix, hname, ↓reduceIte]
  rw [passedFile_of_mem (nodup_addedFiles found hpath) hp]
  cases found.file p.2 with
  | none => rfl
  | some file => rfl

/-- What is to be read for a name is what the file holds. -/
theorem unread_openFile (hpath : 0 ∉ imagePath) {p : QString × QString}
    (hp : p ∈ addedFiles found imagePath) :
    unread found imagePath (openFile found imagePath p.1) =
      ((found.file p.2).map PassedFile.content).getD [] := by
  have hnames := nodup_addedFiles found hpath
  obtain ⟨i, hi, hget⟩ := List.getElem_of_mem hp
  have hindex : openFile found imagePath p.1 = i := by
    have hlength : i < ((addedFiles found imagePath).map Prod.fst).length := by
      rw [List.length_map]
      exact hi
    have hget' : ((addedFiles found imagePath).map Prod.fst)[i] = p.1 := by
      rw [List.getElem_map, hget]
    rw [openFile, ← hget', hnames.idxOf_getElem]
  rw [unread, hindex, List.getElem?_eq_getElem hi, hget]
  rfl

/-- No name on the list has a NUL. -/
theorem noNul_addedFiles (hpath : 0 ∉ imagePath) {p : QString × QString}
    (hp : p ∈ addedFiles found imagePath) : 0 ∉ p.1 := by
  have hname := noNul_fileName hpath
  have himages : ∀ dir : FileName, 0 ∉ dir.val →
      p ∈ addedImages found imagePath (imagesDir dir) → 0 ∉ p.1 := by
    intro dir hdir hp
    obtain ⟨name, hmem, rfl⟩ := List.mem_map.1 hp
    rw [List.mem_append, not_or]
    exact ⟨noNul_imagesDir hpath hdir, found.noNul _ name hmem⟩
  unfold addedFiles at hp
  split at hp
  · exact absurd hp List.not_mem_nil
  · split at hp
    · rcases List.mem_cons.1 hp with rfl | hp
      · rw [List.mem_append, not_or]
        exact ⟨hname, by decide⟩
      · rcases List.mem_append.1 hp with hp | hp
        · exact himages imagesName (by decide) hp
        · exact himages imagesDarkName (by decide) hp
    · rw [List.mem_singleton.1 hp]
      exact hname

/-- Every name on the list gets what is to be read of its file. -/
theorem deliveries_task (hpath : 0 ∉ imagePath)
    (hstored : ∀ i, refusals.stored i = none) :
    (task found imagePath config homeDir refusals).deliveries
        (PlasmaLoginAuthHelper.wallpaperNames
          (task found imagePath config homeDir refusals).args).zipIdx
        (unread found imagePath) =
      (addedFiles found imagePath).map fun p =>
        (CopyTask.place p.1, readable found p.2) := by
  have hnames : PlasmaLoginAuthHelper.wallpaperNames
      (task found imagePath config homeDir refusals).args =
        (addedFiles found imagePath).map Prod.fst :=
    wallpaperNames_saveArguments
  have hnodup : (((addedFiles found imagePath).map Prod.fst).map
      (openFile found imagePath)).Nodup :=
    List.Nodup.map_on (fun name hname _ _ heq => (List.idxOf_inj hname).1 heq)
      (nodup_addedFiles found hpath)
  have hopenFile : (((addedFiles found imagePath).map Prod.fst).zipIdx.map
      fun q => openFile found imagePath q.1).Nodup := by
    rw [← List.zipIdx_map_fst 0 ((addedFiles found imagePath).map Prod.fst),
      List.map_map] at hnodup
    exact hnodup
  have hfiles : ((addedFiles found imagePath).map fun p =>
      (CopyTask.place p.1, readable found p.2)) =
        (addedFiles found imagePath).zipIdx.map fun q =>
          (CopyTask.place q.1.1, readable found q.1.2) := by
    conv_lhs => rw [← List.zipIdx_map_fst 0 (addedFiles found imagePath)]
    rw [List.map_map]
    rfl
  rw [hnames, CopyTask.deliveries_eq_map hopenFile, hfiles, List.zipIdx_map,
    List.map_map]
  apply List.map_congr_left
  rintro ⟨p, i⟩ hp
  have hmem : p ∈ addedFiles found imagePath :=
    List.mem_of_getElem? (List.mem_zipIdx_iff_getElem?.1 hp)
  have hread : (task found imagePath config homeDir refusals).delivered
      (p.1, i) (unread found imagePath) = readable found p.2 := by
    have hopen : (task found imagePath config homeDir refusals).openFile p.1 =
        openFile found imagePath p.1 := rfl
    have hall : (task found imagePath config homeDir refusals).refusals.stored
        i = none := hstored i
    rw [CopyTask.delivered, CopyTask.storedBytes, hopen, hall,
      unread_openFile hpath hmem, hasDescriptor_task hpath hmem, readable]
    cases found.file p.2 with
    | none => rfl
    | some file => rfl
  exact congrArg (Prod.mk (CopyTask.place p.1)) hread

end arguments

/-- The greeter's directory of wallpapers has the files of the image or the
package, each with what the settings module could read of it, and no other
file or link. -/
structure Arrived (found : ImageFiles) (imagePath homeDir : QString)
    (root : List FileName) (t : FileTree) : Prop where
  files : ∀ p ∈ addedFiles found imagePath,
    t.content (QString.moves (homeDir ++ ("/wallpapers/" : QString) ++ p.1)) =
      some (readable found p.2)
  others : ∀ r content, t.nodes (root ++ r) = some (.file content) →
    ∃ p ∈ addedFiles found imagePath, r = CopyTask.place p.1
  links : ∀ r, t.links (root ++ r) = none

section arrived

variable {found : ImageFiles} {imagePath homeDir : QString}
  {root : List FileName} {t : FileTree}

theorem arrived_of_filled (hpath : 0 ∉ imagePath)
    (hroot : t.location (entryPath homeDir wallpapersName) = some root)
    (hdescends : ∀ p ∈ addedFiles found imagePath, Descends p.1.moves)
    (h : t.Filled root ((addedFiles found imagePath).map fun p =>
      (CopyTask.place p.1, readable found p.2))) :
    Arrived found imagePath homeDir root t where
  files p hp := by
    have hpath' : homeDir ++ ("/wallpapers/" : QString) ++ p.1 =
        homeDir ++ QString.ofString "/" ++ wallpapersName.val ++
          QString.ofString "/" ++ p.1 := by
      simp only [List.append_assoc]
      rfl
    have hplace : CopyTask.place p.1 = names p.1.moves := by
      rw [CopyTask.place, QString.cString_of_noNul (noNul_addedFiles hpath hp)]
    have hlocation := h.plain.location hroot (hdescends p hp)
    have hitems : (((addedFiles found imagePath).map fun p =>
        (CopyTask.place p.1, readable found p.2)).map Prod.fst).Nodup := by
      rw [List.map_map]
      exact nodup_places hpath
    have hlast := Assignments.lastValue_of_nodup Prod.snd hitems
      (List.mem_map_of_mem (f := fun p =>
        (CopyTask.place p.1, readable found p.2)) hp)
    have hnode := h.nodes (CopyTask.place p.1)
    rw [Tree.filledNode, hlast] at hnode
    rw [hpath', QString.moves_append_slash, moves_entry, Tree.content,
      hlocation, Option.bind_some, ← hplace]
    exact Tree.contentAt_of_file hnode
  others r content hnode := by
    rw [h.nodes, Tree.filledNode] at hnode
    split at hnode
    next value hvalue =>
      obtain ⟨item, hitem, rfl⟩ := Assignments.lastValue_isSome_iff.1
        (Option.isSome_iff_exists.2 ⟨value, hvalue⟩)
      obtain ⟨p, hp, rfl⟩ := List.mem_map.1 hitem
      exact ⟨p, hp, rfl⟩
    next =>
      split at hnode
      · exact absurd hnode (by simp)
      · exact absurd hnode (by simp)
  links := h.plain.links

theorem Arrived.content_eq (h : Arrived found imagePath homeDir root t)
    {p : QString × QString} (hp : p ∈ addedFiles found imagePath)
    {path : QString} {content : QByteArray}
    (hpath : path = homeDir ++ ("/wallpapers/" : QString) ++ p.1)
    (hread : readable found p.2 = content) :
    t.content path.moves = some content := by
  rw [hpath, ← hread]
  exact h.files p hp

end arrived

end PlasmaLoginKcm

/-- A package with its metadata and one image. -/
def PlasmaLoginKcm.nextPackage : ImageFiles where
  isDir path := path = ("/w/Next" : QString)
  entryList dir :=
    if dir = ("/w/Next/contents/images" : QString) then
      [⟨"1.png", by decide⟩]
    else []
  file path :=
    if path = ("/w/Next/metadata.json" : QString) then some ⟨[123, 125], true⟩
    else if path = ("/w/Next/contents/images/1.png" : QString) then
      some ⟨[1, 2, 3], true⟩
    else none
  nodup dir := by
    split
    · exact List.nodup_singleton _
    · exact List.nodup_nil
  noNul dir name hname := by
    split at hname
    · rw [List.mem_singleton.1 hname]
      decide
    · exact absurd hname List.not_mem_nil

end PlasmaLogin

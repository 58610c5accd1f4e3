/-
Emptying a directory of the greeter's home.  A link to a directory is emptied
where it leads and stays itself; what cannot be removed keeps the directories
it is in.
-/
import PlasmaLogin.DirectoryPaths
import PlasmaLogin.SettingsSync

namespace PlasmaLogin

open LinkedFiles PathWalk

namespace PlasmaLoginAuthHelper

/-- The path of an entry of the home directory. -/
def entryPath (homeDir : QString) (name : FileName) : List (Move FileName) :=
  homeDir.moves ++ [.down name]

/-- What keeps the directory at an entry of the home from being removed. -/
def keeping (entries : List (List FileName)) (t : FileTree)
    (home l : List FileName) (name : FileName) : List (List FileName) :=
  if (t.links (home ++ [name])).isSome then l :: entries else entries

/-- `QDir::removeRecursively` of an entry of the home directory. -/
def clearDirectory (homeDir : QString) (name : FileName)
    (entries : List (List FileName)) (t : FileTree) : FileTree :=
  match t.location (entryPath homeDir name), t.location homeDir.moves with
  | some l, some home =>
      if t.isDirAt l then t.removeRecursively l (keeping entries t home l name)
      else t
  | _, _ => t

/-- What emptying the directory takes away. -/
def goes (homeDir : QString) (name : FileName) (entries : List (List FileName))
    (t : FileTree) (l : List FileName) : Bool :=
  match t.location (entryPath homeDir name), t.location homeDir.moves with
  | some base, some home =>
      t.isDirAt base && t.removed base (keeping entries t home base name) l
  | _, _ => false

section clearing

variable {homeDir : QString} {name : FileName}
  {entries : List (List FileName)} {t : FileTree} {l : List FileName}

theorem clearDirectory_eq : clearDirectory homeDir name entries t =
    t.clearAt (goes homeDir name entries t) := by
  have hnothing : (∀ l, goes homeDir name entries t l = false) →
      t = t.clearAt (goes homeDir name entries t) := by
    intro h
    rw [funext h]
    rfl
  rw [clearDirectory]
  cases hbase : t.location (entryPath homeDir name) with
  | none =>
      apply hnothing
      intro l
      rw [goes, hbase]
  | some base =>
      cases hhome : t.location homeDir.moves with
      | none =>
          apply hnothing
          intro l
          rw [goes, hbase, hhome]
      | some home =>
          have hgoes : ∀ l, goes homeDir name entries t l =
              (t.isDirAt base &&
                t.removed base (keeping entries t home base name) l) := by
            intro l
            rw [goes, hbase, hhome]
          simp only
          by_cases hdir : t.isDirAt base = true
          · rw [if_pos hdir, funext hgoes, hdir]
            rfl
          · rw [if_neg hdir]
            apply hnothing
            intro l
            rw [hgoes, Bool.eq_false_iff.2 hdir, Bool.false_and]

/-- Only what is below the entry goes, links followed. -/
theorem prefix_of_goes (h : goes homeDir name entries t l = true) :
    ∃ base, t.location (entryPath homeDir name) = some base ∧ base <+: l := by
  unfold goes at h
  split at h
  next base home hbase _ =>
    rw [Bool.and_eq_true] at h
    exact ⟨base, hbase, Tree.prefix_of_removed h.2⟩
  next => exact absurd h Bool.false_ne_true

theorem goes_iff {base home : List FileName}
    (hbase : t.location (entryPath homeDir name) = some base)
    (hhome : t.location homeDir.moves = some home)
    (hlink : t.links (home ++ [name]) = none) (hdir : t.isDirAt base = true) :
    goes homeDir name [] t l = true ↔ base <+: l := by
  have hkeeping : keeping [] t home base name = [] := by
    rw [keeping, hlink]
    rfl
  simp only [goes, hbase, hhome, hdir, hkeeping, Bool.true_and,
    Tree.removed_nil_iff]

/-- Writing a file elsewhere does not change what goes. -/
theorem goes_write {home : List FileName}
    (hhome : t.location homeDir.moves = some home)
    (hlink : t.links (home ++ [name]) = none) (path : List (Move FileName))
    (content : QByteArray) :
    goes homeDir name [] (t.write path content) l = goes homeDir name [] t l := by
  have hkeeping : ∀ (t' : FileTree) base, t'.links = t.links →
      keeping [] t' home base name = [] := by
    intro t' base hlinks
    rw [keeping, hlinks, hlink]
    rfl
  rw [goes, goes, Tree.location_write, Tree.location_write, hhome]
  cases t.location (entryPath homeDir name) with
  | none => rfl
  | some base =>
      simp only [Tree.isDirAt_write, hkeeping _ base (Tree.links_write ..),
        hkeeping t base rfl]
      rfl

theorem goes_append (h : goes homeDir name entries t l = true)
    (r : List FileName) : goes homeDir name entries t (l ++ r) = true := by
  unfold goes at h ⊢
  split at h
  next =>
    rw [Bool.and_eq_true] at h ⊢
    exact ⟨h.1, Tree.removed_append h.2 r⟩
  next => exact absurd h Bool.false_ne_true

/-- The directory an entry is in does not go with it. -/
theorem goes_home (entries : List (List FileName)) {home : List FileName}
    (hhome : t.location homeDir.moves = some home)
    (hlink : t.links (home ++ [name]) = none) :
    goes homeDir name entries t home = false := by
  rw [← Bool.not_eq_true]
  intro hgoes
  obtain ⟨base, hbase, hbegins⟩ := prefix_of_goes hgoes
  have hentry : t.location (entryPath homeDir name) = some (home ++ [name]) :=
    Tree.location_concat hhome hlink
  obtain rfl := Option.some.inj (hentry.symm.trans hbase)
  have hlength := hbegins.length_le
  rw [List.length_append] at hlength
  exact Nat.not_succ_le_self _ hlength

/-- Everything is still in a directory. -/
theorem grounded_clearDirectory (h : t.Grounded) :
    (clearDirectory homeDir name entries t).Grounded := by
  intro l entry hthere
  rw [clearDirectory_eq, Tree.isFreeAt_clearAt, Bool.or_eq_false_iff] at hthere
  rw [clearDirectory_eq, Tree.isDirAt_clearAt, h l entry hthere.1,
    Bool.true_and, Bool.not_eq_true']
  rw [← Bool.not_eq_true]
  intro hgoes
  rw [goes_append hgoes] at hthere
  exact absurd hthere.2 (by simp)

theorem isFreeAt_clearDirectory : (clearDirectory homeDir name entries
    t).isFreeAt l = (t.isFreeAt l || goes homeDir name entries t l) := by
  rw [clearDirectory_eq, Tree.isFreeAt_clearAt]

/-- Everything at the entry goes when nothing resists. -/
theorem isFreeAt_cleared {home : List FileName} (hground : t.Grounded)
    (hhome : t.location homeDir.moves = some home)
    (hlink : t.links (home ++ [name]) = none) {r : List FileName}
    (hr : r ≠ []) : (clearDirectory homeDir name [] t).isFreeAt
      (home ++ [name] ++ r) = true := by
  have hbase : t.location (entryPath homeDir name) = some (home ++ [name]) :=
    Tree.location_concat hhome hlink
  rw [isFreeAt_clearDirectory, Bool.or_eq_true]
  by_cases hdir : t.isDirAt (home ++ [name]) = true
  · rw [goes_iff hbase hhome hlink hdir]
    exact Or.inr (List.prefix_append ..)
  · rw [Bool.not_eq_true] at hdir
    exact Or.inl (hground.isFreeAt_below hdir hr)

theorem moves_entry (homeDir : QString) (name : FileName) :
    QString.moves (homeDir ++ QString.ofString "/" ++ name.val) =
      entryPath homeDir name := by
  rw [QString.moves_append_slash, QString.moves_of_isFileName name.property]
  rfl

/-- Clearing the cache is one of these. -/
theorem clearCache_eq_clearDirectory (refusals : SyncRefusals) :
    clearCache homeDir refusals t =
      clearDirectory homeDir cacheName refusals.entries t := by
  have hpath : QString.moves (homeDir ++ ("/.cache" : QString)) =
      entryPath homeDir cacheName := by
    rw [← moves_entry, List.append_assoc]
    rfl
  rw [clearCache, clearDirectory, hpath]
  rfl

end clearing

end PlasmaLoginAuthHelper

end PlasmaLogin

/-
What is in the greeter's directory of wallpapers when `save` succeeds: every
wallpaper of the list with what was left to read of its descriptor, the
directories they are in, and nothing else.
-/
import PlasmaLogin.WallpaperTree

namespace PlasmaLogin

open LinkedFiles PathWalk

namespace QString

theorem leftOfLast_append (first : QString) {last : QString}
    (h : slash ∉ last) :
    (first ++ QString.ofString "/" ++ last).leftOfLast = first := by
  have hreverse : (first ++ QString.ofString "/" ++ last).reverse =
      last.reverse ++ slash :: first.reverse := by
    rw [List.reverse_append, List.reverse_append]
    rfl
  have hlast : ∀ c ∈ last.reverse, decide (c ≠ slash) = true := by
    intro c hc
    rw [decide_eq_true_eq]
    rintro rfl
    exact h (List.mem_reverse.1 hc)
  rw [leftOfLast, hreverse, List.dropWhile_append_of_pos hlast]
  simp

theorem exists_last {path : QString} (h : slash ∈ path) :
    ∃ first last, path = first ++ QString.ofString "/" ++ last ∧
      slash ∉ last := by
  obtain ⟨last, first, hreverse, hlast⟩ :=
    List.eq_append_cons_of_mem (List.mem_reverse.2 h)
  refine ⟨first.reverse, last.reverse, ?_, by simpa using hlast⟩
  rw [← List.reverse_reverse path, hreverse]
  simp only [List.reverse_append, List.reverse_cons, List.append_assoc]
  rfl

theorem isInfix_of_mem_components {path c : QString}
    (hc : c ∈ components path) : c <:+: path := by
  induction path generalizing c with
  | nil =>
      rw [List.mem_singleton.1 hc]
      exact List.nil_infix
  | cons x path ih =>
      rw [components, List.splitOn_cons_eq_if_modifyHead] at hc
      split at hc
      · rcases List.mem_cons.1 hc with rfl | hc
        · exact List.nil_infix
        · exact (ih hc).trans (List.suffix_cons x path).isInfix
      · obtain ⟨rest, heq⟩ := Assignments.splitOn_eq_upTo_cons slash path
        rw [heq, List.modifyHead_cons, List.mem_cons] at hc
        rcases hc with rfl | hc
        · have hbegins : Assignments.upTo slash path <+: path :=
            List.takeWhile_prefix _
          exact ((List.prefix_cons_inj x).2 hbegins).isInfix
        · have hmem : c ∈ components path := by
            rw [components, heq]
            exact List.mem_cons_of_mem _ hc
          exact (ih hmem).trans (List.suffix_cons x path).isInfix

/-- Without two dots in a row a path never goes up. -/
theorem descends_of_badlyFormed {path : QString}
    (h : PlasmaLoginAuthHelper.badlyFormed path = false) :
    Descends path.moves := by
  intro hup
  obtain ⟨c, hc, hmove⟩ := List.mem_map.1 hup
  have hdots : c = QString.ofString ".." := by
    unfold move at hmove
    split at hmove
    · exact absurd hmove (by simp)
    · split at hmove
      next hdots => exact hdots
      next => exact absurd hmove (by simp)
  have hinside := isInfix_of_mem_components hc
  rw [hdots] at hinside
  rw [PlasmaLoginAuthHelper.badlyFormed, decide_eq_false_iff_not] at h
  exact h hinside

theorem badlyFormed_cString {name : QString}
    (h : PlasmaLoginAuthHelper.badlyFormed name = false) :
    PlasmaLoginAuthHelper.badlyFormed name.cString = false := by
  rw [PlasmaLoginAuthHelper.badlyFormed, decide_eq_false_iff_not] at h ⊢
  exact fun hdots => h (hdots.trans (List.takeWhile_prefix _).isInfix)

theorem cString_append {first : QString} (h : 0 ∉ first) (last : QString) :
    (first ++ last).cString = first ++ last.cString := by
  rw [cString, List.takeWhile_append_of_pos, cString]
  intro c hc
  rw [decide_eq_true_eq]
  rintro rfl
  exact h hc

theorem cString_of_noNul {s : QString} (h : 0 ∉ s) : s.cString = s := by
  have happend := cString_append h []
  rw [List.append_nil] at happend
  exact happend.trans (List.append_nil _)

end QString

namespace PlasmaLoginAuthHelper

theorem flatten_pieces {size n : Nat} {bytes : QByteArray} (hsize : 0 < size)
    (hn : bytes.length ≤ n) : (pieces size n bytes).flatten = bytes := by
  induction n generalizing bytes with
  | zero =>
      rw [List.eq_nil_of_length_eq_zero (Nat.le_zero.1 hn)]
      rfl
  | succ n ih =>
      rw [pieces]
      split
      next hempty => rw [List.isEmpty_iff.1 hempty, List.flatten_nil]
      next hempty =>
        have hpos : 0 < bytes.length :=
          List.length_pos_iff.2 fun h => hempty (List.isEmpty_iff.2 h)
        have hdrop : (bytes.drop size).length ≤ n := by
          rw [List.length_drop]
          omega
        rw [List.flatten_cons, ih hdrop, List.take_append_drop]

theorem transfer_map_some (chunks : List QByteArray) :
    transfer (chunks.map some) = (chunks.flatten, true) := by
  induction chunks with
  | nil => rfl
  | cons chunk chunks ih =>
      rw [List.map_cons, transfer, ih]
      rfl

/-- A transfer that succeeds takes all that is left to read. -/
theorem transfer_reads {fails : Option Nat} {unread : QByteArray}
    (h : (transfer (reads fails unread)).2 = true) :
    (transfer (reads fails unread)).1 = unread := by
  cases fails with
  | none =>
      rw [reads, transfer_map_some]
      exact flatten_pieces (by decide) le_rfl
  | some n =>
      rw [transfer_snd, reads, List.all_append] at h
      simp at h

/-- The components in front of the last one are those of the directory. -/
theorem relativeParentDirectory_cases (homeDir wallpaper : QString)
    (h : 0 ∉ relativeParentDirectory wallpaper) :
    ∃ above last,
      QString.moves (homeDir ++ QString.ofString "/" ++
        relativeParentDirectory wallpaper) =
          entryPath homeDir wallpapersName ++ above ∧
        wallpaper.cString.moves = above ++ [last] := by
  have hpath : ∀ rest : QString, ("wallpapers/" : QString) ++ rest =
      QString.ofString "wallpapers" ++ QString.ofString "/" ++ rest :=
    fun rest => by rfl
  have hsingle : ∀ {name : QString}, slash ∉ name →
      name.moves = [QString.move name] := by
    intro name hname
    rw [QString.moves, QString.components, List.splitOn_eq_singleton hname]
    rfl
  have hcut : ∀ {name : QString}, slash ∉ name → slash ∉ name.cString :=
    fun hname hmem => hname (List.takeWhile_subset _ hmem)
  rw [relativeParentDirectory, hpath] at h ⊢
  by_cases hslash : slash ∈ wallpaper
  · obtain ⟨above, last, rfl, hlast⟩ := QString.exists_last hslash
    rw [← List.append_assoc, ← List.append_assoc,
      QString.leftOfLast_append _ hlast] at h ⊢
    refine ⟨above.moves, QString.move last.cString, ?_, ?_⟩
    · have hassoc : homeDir ++ QString.ofString "/" ++
          (QString.ofString "wallpapers" ++ QString.ofString "/" ++ above) =
            homeDir ++ QString.ofString "/" ++ wallpapersName.val ++
              QString.ofString "/" ++ above := by
        simp only [List.append_assoc]
        rfl
      rw [hassoc, QString.moves_append_slash, moves_entry]
    · have hnul : 0 ∉ above ++ QString.ofString "/" := by
        rw [List.mem_append, not_or] at h ⊢
        exact ⟨h.2, by decide⟩
      rw [QString.cString_append hnul, QString.moves_append_slash,
        hsingle (hcut hlast)]
  · rw [QString.leftOfLast_append _ hslash]
    refine ⟨[], QString.move wallpaper.cString, ?_, hsingle (hcut hslash)⟩
    rw [List.append_nil]
    exact moves_entry homeDir wallpapersName

end PlasmaLoginAuthHelper

namespace CopyTask

open PlasmaLoginAuthHelper

/-- Where a wallpaper goes, below the directory of the wallpapers. -/
def place (wallpaper : QString) : List FileName :=
  names wallpaper.cString.moves

/-- What a wallpaper gets of what is left to read. -/
def delivered (task : CopyTask) (p : QString × Nat)
    (unread : Nat → QByteArray) : QByteArray :=
  if task.hasDescriptor p.1 then
    task.storedBytes p.2 (unread (task.openFile p.1))
  else []

/-- What is left to read behind a wallpaper. -/
def leftover (task : CopyTask) (wallpaper : QString)
    (unread : Nat → QByteArray) : Nat → QByteArray :=
  if task.hasDescriptor wallpaper then fun file =>
    if file = task.openFile wallpaper then [] else unread file
  else unread

/-- What every file of the list gets. -/
def deliveries (task : CopyTask) :
    List (QString × Nat) → (Nat → QByteArray) →
      List (List FileName × QByteArray)
  | [], _ => []
  | p :: turns, unread => (place p.1, task.delivered p unread) ::
      deliveries task turns (task.leftover p.1 unread)

section deliveries

variable {task : CopyTask}

theorem place_append {first last : QString}
    (h : 0 ∉ first ++ QString.ofString "/") :
    place (first ++ QString.ofString "/" ++ last) =
      names first.moves ++ place last := by
  rw [place, QString.cString_append h, QString.moves_append_slash,
    names_append, place]

theorem place_entry {name : FileName} (h : 0 ∉ name.val) :
    place name.val = [name] := by
  rw [place, QString.cString_of_noNul h,
    QString.moves_of_isFileName name.property]
  rfl

theorem delivered_leftover {p q : QString × Nat} {unread : Nat → QByteArray}
    (h : task.openFile p.1 ≠ task.openFile q.1) :
    task.delivered p (task.leftover q.1 unread) = task.delivered p unread := by
  unfold delivered leftover
  split
  · split
    · simp only [if_neg h]
    · rfl
  · rfl

/-- Of different open files every wallpaper gets all there is. -/
theorem deliveries_eq_map {turns : List (QString × Nat)}
    (h : (turns.map fun p => task.openFile p.1).Nodup)
    (unread : Nat → QByteArray) :
    task.deliveries turns unread =
      turns.map fun p => (place p.1, task.delivered p unread) := by
  induction turns generalizing unread with
  | nil => rfl
  | cons p turns ih =>
      rw [List.map_cons, List.nodup_cons] at h
      rw [deliveries, ih h.2, List.map_cons]
      congr 1
      apply List.map_congr_left
      intro q hq
      rw [delivered_leftover]
      intro heq
      exact h.1 (heq ▸ List.mem_map_of_mem (f := fun p => task.openFile p.1) hq)

end deliveries

section turns

variable {task : CopyTask} {s : CopyState}

/-- What a turn that succeeds does. -/
theorem of_copyWallpaper {p : QString × Nat}
    (h : (task.copyWallpaper p s).2 = true) :
    badlyFormed p.1 = false ∧ (task.makeParent p.1 s.tree).2 = true ∧
      ∃ l, task.openBeneath p.2 p.1 s.root (task.makeParent p.1 s.tree).1 =
          some l ∧
        (task.copyWallpaper p s).1 =
          { s with
            tree := (task.makeParent p.1 s.tree).1.setNode l
              (.file (task.delivered p s.unread)),
            unread := task.leftover p.1 s.unread } := by
  unfold copyWallpaper at h ⊢
  cases hbad : badlyFormed p.1 with
  | true => simp [hbad] at h
  | false =>
      cases hmade : (task.makeParent p.1 s.tree).2 with
      | false => simp [hbad, hmade] at h
      | true =>
          simp only [hbad, hmade, Bool.not_true, Bool.false_eq_true,
            ↓reduceIte] at h ⊢
          cases hopen : task.openBeneath p.2 p.1 s.root
              (task.makeParent p.1 s.tree).1 with
          | none => simp [hopen] at h
          | some l =>
              refine ⟨trivial, trivial, l, rfl, ?_⟩
              simp only [hopen] at h ⊢
              rw [delivered, leftover]
              cases hout : task.refusals.openOut p.2 with
              | true => simp [hout] at h
              | false =>
                  cases hfd : task.hasDescriptor p.1 with
                  | false => simp
                  | true =>
                      cases hin : task.refusals.openIn p.2 with
                      | true => simp [hout, hfd, hin] at h
                      | false =>
                          simp only [hout, hfd, hin, Bool.not_true,
                            Bool.false_eq_true, ↓reduceIte] at h ⊢
                          rw [transfer_reads h, Tree.setNode_setNode,
                            List.drop_length]

/-- The paths of a turn that succeeds. -/
theorem paths_of_copyWallpaper {p : QString × Nat}
    (h : (task.copyWallpaper p s).2 = true) :
    ∃ above name l,
      Descends (above ++ [.down name]) ∧
        place p.1 = names above ++ [name] ∧
        (s.tree.mkpath task.refusals.mkdir
          (entryPath task.homeDir wallpapersName ++ above)).2 = true ∧
        (s.tree.mkpath task.refusals.mkdir
          (entryPath task.homeDir wallpapersName ++ above)).1.openBeneath
            s.root (above ++ [.down name]) = some l ∧
        (task.copyWallpaper p s).1 =
          { s with
            tree := (s.tree.mkpath task.refusals.mkdir
              (entryPath task.homeDir wallpapersName ++ above)).1.setNode l
                (.file (task.delivered p s.unread)),
            unread := task.leftover p.1 s.unread } := by
  obtain ⟨hbad, hmade, l, hopen, hturn⟩ := of_copyWallpaper h
  rw [makeParent] at hmade hopen hturn
  by_cases hnul : 0 ∈ relativeParentDirectory p.1
  · rw [if_pos hnul] at hmade
    exact absurd hmade Bool.false_ne_true
  · obtain ⟨above, last, hpath, hmoves⟩ :=
      relativeParentDirectory_cases task.homeDir p.1 hnul
    rw [if_neg hnul, hpath] at hmade hopen hturn
    unfold openBeneath at hopen
    split at hopen
    · exact absurd hopen (by simp)
    next =>
      have hdescends := QString.descends_of_badlyFormed
        (QString.badlyFormed_cString hbad)
      rw [hmoves] at hopen hdescends
      cases last with
      | down name =>
          refine ⟨above, name, l, hdescends, ?_, hmade, hopen, hturn⟩
          rw [place, hmoves, names_append]
          rfl
      | stay => simp [Tree.openBeneath] at hopen
      | up => simp [Tree.openBeneath] at hopen

/-- One more wallpaper in the directory, and nothing changed outside. -/
theorem filled_copyWallpaper {items : List (List FileName × QByteArray)}
    (hfilled : s.tree.Filled s.root items)
    (hroot : s.tree.location (entryPath task.homeDir wallpapersName) =
      some s.root) {p : QString × Nat}
    (h : (task.copyWallpaper p s).2 = true) :
    (task.copyWallpaper p s).1.tree.Filled s.root
        (items ++ [(place p.1, task.delivered p s.unread)]) ∧
      (task.copyWallpaper p s).1.unread = task.leftover p.1 s.unread ∧
      (task.copyWallpaper p s).1.root = s.root ∧
      (task.copyWallpaper p s).1.tree.links = s.tree.links ∧
      ∀ l, ¬ s.root <+: l →
        (task.copyWallpaper p s).1.tree.nodes l = s.tree.nodes l := by
  obtain ⟨above, name, l, hdescends, hplace, hmade, hopen, hturn⟩ :=
    paths_of_copyWallpaper h
  have habove := (descends_append.1 hdescends).1
  have hgrown : Tree.Grown s.tree (s.tree.mkpath task.refusals.mkdir
      (entryPath task.homeDir wallpapersName ++ above)).1 :=
    Tree.grown_mkpath _
  rw [hturn, hplace]
  refine ⟨hfilled.place hroot hdescends hmade hopen _, rfl, rfl,
    hgrown.links, fun l' hl' => ?_⟩
  have hne : l' ≠ l := by
    rintro rfl
    exact hl' (Tree.prefix_of_openBeneath hopen).1
  simp only
  rw [Tree.nodes_setNode, if_neg hne,
    hfilled.plain.nodes_mkpath hroot habove hmade, Tree.withDirectories,
    if_neg fun hbelow => hl' hbelow.1]

/-- All of the list in the directory. -/
theorem filled_turns {turns : List (QString × Nat)}
    {items : List (List FileName × QByteArray)}
    (hfilled : s.tree.Filled s.root items)
    (hroot : s.tree.location (entryPath task.homeDir wallpapersName) =
      some s.root)
    (h : (runSteps (turns.map task.copyWallpaper) s).2 = true) :
    (runSteps (turns.map task.copyWallpaper) s).1.tree.Filled s.root
        (items ++ task.deliveries turns s.unread) ∧
      (runSteps (turns.map task.copyWallpaper) s).1.tree.links =
        s.tree.links ∧
      ∀ l, ¬ s.root <+: l →
        (runSteps (turns.map task.copyWallpaper) s).1.tree.nodes l =
          s.tree.nodes l := by
  induction turns generalizing s items with
  | nil =>
      rw [deliveries, List.append_nil]
      exact ⟨hfilled, rfl, fun _ _ => rfl⟩
  | cons p turns ih =>
      rw [List.map_cons] at h ⊢
      obtain ⟨hturn, hrest⟩ := of_runSteps_cons h
      obtain ⟨hfilled', hunread, hroot', hlinks, hothers⟩ :=
        filled_copyWallpaper hfilled hroot hturn
      rw [hrest] at h ⊢
      rw [← hroot'] at hfilled'
      have hlocation : (task.copyWallpaper p s).1.tree.location
          (entryPath task.homeDir wallpapersName) =
            some (task.copyWallpaper p s).1.root := by
        rw [Tree.location, hlinks, hroot']
        exact hroot
      obtain ⟨hall, hlinks', hothers'⟩ := ih hfilled' hlocation h
      rw [hroot', hunread, List.append_assoc, List.singleton_append] at hall
      refine ⟨hall, hlinks'.trans hlinks, fun l hl => ?_⟩
      exact (hothers' l (hroot' ▸ hl)).trans (hothers l hl)

end turns

/-- The home directory is where it was once the wallpapers are gone, its
entry for them is no link, and nothing in it resists. -/
structure Clearable (task : CopyTask) (t : FileTree) (home : List FileName) :
    Prop where
  grounded : t.Grounded
  before : t.location task.homeDir.moves = some home
  after : (task.cleaned t).location task.homeDir.moves = some home
  link : t.links (home ++ [wallpapersName]) = none
  entries : task.refusals.entries = []

section root

variable {task : CopyTask} {t : FileTree} {home : List FileName}

/-- Writing the configuration first makes no difference. -/
theorem Clearable.configured (h : Clearable task t home)
    (content : QByteArray) : Clearable task (task.configured content t) home := by
  have hlinks : (task.configured content t).links = t.links :=
    Tree.links_write _ _
  have hcleaned : (task.cleaned (task.configured content t)).links =
      (task.cleaned t).links := by
    funext l
    rw [cleaned, cleaned, clearDirectory_eq, clearDirectory_eq,
      Tree.links_clearAt, Tree.links_clearAt, h.entries, CopyTask.configured,
      goes_write h.before h.link, Tree.links_write]
  refine ⟨h.grounded.write _ _, ?_, ?_, ?_, h.entries⟩
  · rw [Tree.location, hlinks]
    exact h.before
  · rw [Tree.location, hcleaned]
    exact h.after
  · rw [hlinks]
    exact h.link

theorem Clearable.root (h : Clearable task t home) :
    (task.cleaned t).location (entryPath task.homeDir wallpapersName) =
      some (home ++ [wallpapersName]) := by
  apply Tree.location_concat h.after
  rw [cleaned, clearDirectory_eq, Tree.links_clearAt, h.link, ite_self]

theorem Clearable.outside (h : Clearable task t home) {l : List FileName}
    (hl : ¬ home ++ [wallpapersName] <+: l) :
    (task.cleaned t).links l = t.links l ∧
      (task.cleaned t).nodes l = t.nodes l := by
  rcases cleaned_cases task t l with hsame | ⟨hbelow, _⟩
  · exact hsame
  · obtain ⟨base, hbase, hbegins⟩ := hbelow
    have hentry : t.location (entryPath task.homeDir wallpapersName) =
        some (home ++ [wallpapersName]) := Tree.location_concat h.before h.link
    obtain rfl := Option.some.inj (hentry.symm.trans hbase)
    exact absurd hbegins hl

/-- Before the first wallpaper the directory is there and empty. -/
theorem Clearable.filled (h : Clearable task t home)
    (hdir : ((task.cleaned t).mkdirUnless task.refusals.mkdir
      task.homeDir.moves wallpapersName).isDirAt
        (home ++ [wallpapersName]) = true) :
    ((task.cleaned t).mkdirUnless task.refusals.mkdir task.homeDir.moves
      wallpapersName).Filled (home ++ [wallpapersName]) [] := by
  have hgrown : Tree.Grown (task.cleaned t) ((task.cleaned t).mkdirUnless
      task.refusals.mkdir task.homeDir.moves wallpapersName) :=
    Tree.grown_mkdirUnless _ _
  have hfree : ∀ r, r ≠ [] →
      (task.cleaned t).isFreeAt (home ++ [wallpapersName] ++ r) = true := by
    intro r hr
    rw [cleaned, h.entries]
    exact isFreeAt_cleared h.grounded h.before h.link hr
  refine Tree.Filled.of_empty hdir ?_ fun r hr => ?_
  · rw [hgrown.links, cleaned, clearDirectory_eq, Tree.links_clearAt, h.link,
      ite_self]
  · have hne : home ++ [wallpapersName] ++ r ≠ home ++ [wallpapersName] := by
      simpa using hr
    rw [Tree.isFreeAt, hgrown.links, Tree.nodes_mkdirUnless h.after hne]
    exact hfree r hr

end root

/-- What the child leaves when all of its steps succeed. -/
theorem filled_function {task : CopyTask} {s : CopyState}
    {home : List FileName} (h : Clearable task s.tree home)
    (hok : (runSteps task.function s).2 = true) :
    (runSteps task.function s).1.tree.Filled (home ++ [wallpapersName])
        (task.deliveries (wallpaperNames task.args).zipIdx s.unread) ∧
      (runSteps task.function s).1.tree.links = (task.cleaned s.tree).links ∧
      ∀ l, ¬ home ++ [wallpapersName] <+: l →
        (runSteps task.function s).1.tree.links l = s.tree.links l ∧
          (runSteps task.function s).1.tree.nodes l = s.tree.nodes l := by
  have hgrown : Tree.Grown (task.cleaned s.tree)
      ((task.cleaned s.tree).mkdirUnless task.refusals.mkdir
        task.homeDir.moves wallpapersName) := Tree.grown_mkdirUnless _ _
  rw [function, runSteps_cons_of_true rfl, runSteps_cons_of_true rfl] at hok ⊢
  obtain ⟨hopen, hrest⟩ := of_runSteps_cons hok
  rw [hrest] at hok ⊢
  rcases openRoot_cases task (task.makeRoot (task.clean s).1).1 with hroot |
      ⟨root, hlocation, hdir, hroot⟩
  · rw [hroot] at hopen
    exact absurd hopen Bool.false_ne_true
  · rw [hroot] at hok ⊢
    have hentry : some root = some (home ++ [wallpapersName]) :=
      hlocation.symm.trans ((hgrown.location _).trans h.root)
    obtain rfl := Option.some.inj hentry
    obtain ⟨hfilled, hlinks, hothers⟩ :=
      filled_turns (h.filled hdir) hlocation hok
    refine ⟨hfilled, hlinks.trans hgrown.links, fun l hl => ?_⟩
    obtain ⟨hlinks', hnodes'⟩ := h.outside hl
    constructor
    · rw [hlinks]
      exact (congrFun hgrown.links l).trans hlinks'
    · have hne : l ≠ home ++ [wallpapersName] := by
        rintro rfl
        exact hl List.prefix_rfl
      exact (hothers l hl).trans
        ((Tree.nodes_mkdirUnless h.after hne).trans hnodes')

/-- No name on the list of a child that ends well has two dots in a row. -/
theorem descends_of_function {task : CopyTask} {s : CopyState}
    (hok : (runSteps task.function s).2 = true) {name : QString}
    (hname : name ∈ wallpaperNames task.args) : Descends name.moves := by
  obtain ⟨i, hget⟩ := List.mem_iff_getElem?.1 hname
  rw [runSteps_function_snd { user := ⟨true, []⟩ } s fun _ => none,
    saveFunction_snd, Bool.and_eq_true, List.all_eq_true] at hok
  have hcopies := hok.2 (name, i) (List.mem_zipIdx_iff_getElem?.2 hget)
  simp only [copies, Bool.and_eq_true, Bool.not_eq_true'] at hcopies
  exact QString.descends_of_badlyFormed hcopies.1.1.1.1

/-- A reply of success means that the configuration has been written and that
the child ran to its end. -/
theorem of_saveWallpapers {task : CopyTask} {env : SaveSurroundings}
    {s : CopyState} (h : (saveWallpapers task env s).1 = .success) :
    (runSteps task.function
        { s with tree := task.storesConfig env s.tree }).2 = true ∧
      (saveWallpapers task env s).2 =
        (runSteps task.function
          { s with tree := task.storesConfig env s.tree }).1 := by
  unfold saveWallpapers at h ⊢
  split at h
  · exact absurd h (by simp)
  next hopens =>
    split at h
    · exact absurd h (by simp)
    next hsize =>
      simp only at h
      split at h
      · exact absurd h (by simp)
      next hhome =>
        split at h
        · exact absurd h (by simp)
        next hadjust =>
          split at h
          next hrun =>
            obtain ⟨hvalid, hcompletes⟩ :=
              completes_of_runAsPlasmaLoginUser hrun
            have hsteps := runAsPlasmaLoginUser_of_completes hvalid hcompletes
              task.function { s with tree := task.storesConfig env s.tree }
            rw [if_neg hopens, if_neg hsize]
            simp only
            rw [if_neg hhome, if_neg hadjust]
            exact ⟨hsteps ▸ hrun, congrArg Prod.fst hsteps⟩
          next => exact absurd h (by simp)

end CopyTask

open PlasmaLoginAuthHelper in
/-- When `save` succeeds the directory of the wallpapers holds the files of its
list with what the system stored of what was left to read of their descriptors,
in the directories they need, and nothing else; outside of it only the
configuration file has changed. -/
theorem saveWallpapers_filled {task : CopyTask} {env : SaveSurroundings}
    {s : CopyState} {home : List FileName}
    (hclear : task.Clearable s.tree home)
    (h : (saveWallpapers task env s).1 = .success) :
    (saveWallpapers task env s).2.tree.Filled (home ++ [wallpapersName])
        (task.deliveries (wallpaperNames task.args).zipIdx s.unread) ∧
      ∀ l, ¬ home ++ [wallpapersName] <+: l →
        (saveWallpapers task env s).2.tree.links l = s.tree.links l ∧
          (saveWallpapers task env s).2.tree.nodes l =
            (task.storesConfig env s.tree).nodes l := by
  obtain ⟨hok, hstate⟩ := CopyTask.of_saveWallpapers h
  obtain ⟨hfilled, _, hothers⟩ :=
    CopyTask.filled_function (hclear.configured _) hok
  rw [hstate]
  refine ⟨hfilled, fun l hl => ⟨?_, (hothers l hl).2⟩⟩
  rw [(hothers l hl).1, CopyTask.storesConfig, CopyTask.configured,
    Tree.links_write]

/-- A home directory with an old wallpaper in it, beside /etc. -/
def CopyTask.usedHome : FileTree :=
  (Tree.single (names (QString.moves "/p/wallpapers/old.png")) [9]).setNode
    (names (QString.moves "/etc")) .directory

theorem CopyTask.grounded_usedHome : usedHome.Grounded :=
  (Tree.grounded_single _ _).setNode (by decide +kernel) fun _ => rfl

/-- A new wallpaper for that home directory. -/
def CopyTask.newWallpaper : CopyTask where
  args key :=
    if key = ("wallpapers" : QString) then some { toStringList := ["a/b.png"] }
    else if key = ("_fd_a/b.png" : QString) then some { regularFd := true }
    else none
  homeDir := "/p"

theorem CopyTask.newWallpaper_clearable :
    newWallpaper.Clearable usedHome (names (QString.moves "/p")) where
  grounded := grounded_usedHome
  before := rfl
  after := rfl
  link := rfl
  entries := rfl

theorem CopyTask.newWallpaper_succeeds :
    (saveWallpapers newWallpaper { user := ⟨true, "/p"⟩ }
      ⟨usedHome, fun _ => [1, 2, 3], []⟩).1 = .success := by
  decide +kernel

theorem saveWallpapers_filled_newWallpaper :
    (saveWallpapers CopyTask.newWallpaper { user := ⟨true, "/p"⟩ }
      ⟨CopyTask.usedHome, fun _ => [1, 2, 3], []⟩).2.tree.nodes
        (names (QString.moves "/p/wallpapers/a/b.png")) =
          some (.file [1, 2, 3]) := by
  have hfilled := (saveWallpapers_filled CopyTask.newWallpaper_clearable
    CopyTask.newWallpaper_succeeds).1
  have hplace : names (QString.moves "/p/wallpapers/a/b.png") =
      names (QString.moves "/p") ++ [PlasmaLoginAuthHelper.wallpapersName] ++
        CopyTask.place "a/b.png" := by
    decide +kernel
  rw [hplace, hfilled.nodes]
  rfl

end PlasmaLogin

/-
When the greeter's configuration mirrors the settings it was given.  A name
that was not given is not removed: the path the function removes lacks the
name, and a path with a separator at its end names no file.
-/
import PlasmaLogin.PreparedHome

namespace PlasmaLogin

open LinkedFiles PathWalk

namespace PlasmaLoginAuthHelper

/-- A path below `.config`. -/
def belowConfig (homeDir : QString) (names : List FileName) :
    List (Move FileName) :=
  QString.moves (homeDir ++ ("/.config" : QString)) ++ names.map Move.down

/-- There is nothing at `.cache`. -/
def CacheGone (homeDir : QString) (t : FileTree) : Prop :=
  ∀ home, t.location homeDir.moves = some home →
    t.isFreeAt (home ++ [cacheName]) = true

/-- The files hold what was given, and nothing else has changed. -/
structure Mirrored (args : QString → Option Variant) (homeDir : QString)
    (before : FileTree) (after : SyncState) : Prop where
  given : ∀ name ∈ managed, ∀ value, args name = some value →
    after.tree.content (configPath homeDir name).moves =
      some value.toString.streamed
  absent : ∀ name ∈ managed, args name = none →
    after.tree.content (configPath homeDir name).moves = none
  cache : CacheGone homeDir after.tree
  others : ∀ names : List FileName,
    (∀ name ∈ managed, names.map Move.down ≠ name.moves) →
      after.tree.content (belowConfig homeDir names) =
        before.content (belowConfig homeDir names)
  written : after.unwritten = []

/-- A name with its content, as it was given. -/
def Given (args : QString → Option Variant) (name content : QString) : Prop :=
  name ∈ managed ∧ ∃ value, args name = some value ∧ value.toString = content

/-- Every given file can be written; no name that was not given has a file; no
two names that lead to one file are in each other's way; and the cache is not
there or goes, and takes no other file with it. -/
structure Mirrorable (args : QString → Option Variant) (homeDir : QString)
    (refusals : SyncRefusals) (t : FileTree) : Prop where
  given : ∀ name content, Given args name content →
    Writable homeDir refusals t name content
  absent : ∀ name ∈ managed, args name = none →
    (leads homeDir refusals t (configPath homeDir name).moves).bind
        (kept homeDir refusals t) = none ∧
      ∀ name' content, Given args name' content →
        leads homeDir refusals t (configPath homeDir name').moves ≠
          leads homeDir refusals t (configPath homeDir name).moves
  shared : ∀ name content name' content', Given args name content →
    Given args name' content' →
      leads homeDir refusals t (configPath homeDir name).moves =
        leads homeDir refusals t (configPath homeDir name').moves →
          content.streamed = content'.streamed
  others : ∀ names : List FileName,
    (∀ name ∈ managed, names.map Move.down ≠ name.moves) →
      (∀ name content, Given args name content →
        leads homeDir refusals t (configPath homeDir name).moves =
          leads homeDir refusals t (belowConfig homeDir names) →
            t.content (belowConfig homeDir names) = some content.streamed) ∧
      ((∀ name content, Given args name content →
        leads homeDir refusals t (configPath homeDir name).moves ≠
          leads homeDir refusals t (belowConfig homeDir names)) →
            (leads homeDir refusals t (belowConfig homeDir names)).bind
                (kept homeDir refusals t) =
              t.content (belowConfig homeDir names))
  cache : ∀ home, leads homeDir refusals t homeDir.moves = some home →
    freed homeDir refusals t (home ++ [cacheName]) = true ∧
      ∀ name content, Given args name content →
        leads homeDir refusals t (configPath homeDir name).moves ≠
          some (home ++ [cacheName])

section writes

variable {args : QString → Option Variant} {homeDir : QString}
  {refusals : SyncRefusals} {t : FileTree}

/-- Where a file that can be written is. -/
theorem openForWriting_of_writesFully {name content : QString}
    (h : writesFully homeDir refusals name content t = true) :
    ∃ l, t.openForWriting (configPath homeDir name).moves = some l ∧
      t.location (configPath homeDir name).moves = some l := by
  rw [writesFully, Bool.and_eq_true, Bool.and_eq_true] at h
  obtain ⟨l, hl⟩ := Option.isSome_iff_exists.1 h.1.2
  exact ⟨l, hl, Tree.location_of_openForWriting hl⟩

/-- When every given file can be written, the writes are those of the given
files. -/
theorem mem_writes_iff
    (h : ∀ name content, Given args name content →
      writesFully homeDir refusals name content t = true)
    (w : List (Move FileName) × QByteArray) :
    w ∈ writes args homeDir refusals managed ↔
      ∃ name content, Given args name content ∧
        w = ((configPath homeDir name).moves, content.streamed) := by
  have hwritten : ∀ name value, name ∈ managed → args name = some value →
      refusals.opens name = false ∧
        storedBytes refusals name value.toString = value.toString.streamed := by
    intro name value hname hvalue
    have hfully := h name value.toString ⟨hname, value, hvalue, rfl⟩
    rw [writesFully, Bool.and_eq_true, Bool.and_eq_true, Bool.not_eq_true',
      decide_eq_true_eq] at hfully
    exact ⟨hfully.1.1, hfully.2⟩
  rw [writes, List.mem_filterMap]
  constructor
  · rintro ⟨name, hname, hw⟩
    obtain ⟨value, hvalue, hw⟩ := Option.bind_eq_some_iff.1 hw
    obtain ⟨hopens, hstored⟩ := hwritten name value hname hvalue
    rw [hopens, hstored, if_neg Bool.false_ne_true, Option.some.injEq] at hw
    exact ⟨name, value.toString, ⟨hname, value, hvalue, rfl⟩, hw.symm⟩
  · rintro ⟨name, content, ⟨hname, value, hvalue, rfl⟩, rfl⟩
    obtain ⟨hopens, hstored⟩ := hwritten name value hname hvalue
    refine ⟨name, hname, ?_⟩
    rw [hvalue, Option.bind_some, hopens, hstored,
      if_neg Bool.false_ne_true]

/-- A location holds a given file afterwards, or what it held before and no
given file is there. -/
theorem nodes_writes
    (h : ∀ name content, Given args name content →
      writesFully homeDir refusals name content t = true)
    (l : List FileName) :
    (∃ name content, Given args name content ∧
        t.location (configPath homeDir name).moves = some l ∧
        (t.writeAll (writes args homeDir refusals managed)).nodes l =
          some (.file content.streamed)) ∨
      ((t.writeAll (writes args homeDir refusals managed)).nodes l =
          t.nodes l ∧
        ∀ name content, Given args name content →
          t.location (configPath homeDir name).moves ≠ some l) := by
  rcases t.nodes_writeAll l (writes args homeDir refusals managed) with
    ⟨w, hw, hopen, hnodes⟩ | ⟨hnodes, hothers⟩
  · obtain ⟨name, content, hgiven, rfl⟩ := (mem_writes_iff h w).1 hw
    exact Or.inl ⟨name, content, hgiven,
      Tree.location_of_openForWriting hopen, hnodes⟩
  · refine Or.inr ⟨hnodes, fun name content hgiven hl => ?_⟩
    obtain ⟨l', hopen, hl'⟩ := openForWriting_of_writesFully (h _ _ hgiven)
    obtain rfl := Option.some.inj (hl.symm.trans hl')
    exact hothers _ ((mem_writes_iff h _).2 ⟨name, content, hgiven, rfl⟩) hopen

/-- The same about the file at the end of a path. -/
theorem content_writes
    (h : ∀ name content, Given args name content →
      writesFully homeDir refusals name content t = true)
    (path : List (Move FileName)) :
    (∃ name content, Given args name content ∧
        t.location (configPath homeDir name).moves = t.location path ∧
        (t.writeAll (writes args homeDir refusals managed)).content path =
          some content.streamed) ∨
      ((t.writeAll (writes args homeDir refusals managed)).content path =
          t.content path ∧
        ∀ name content, Given args name content →
          t.location (configPath homeDir name).moves ≠ t.location path) := by
  rw [Tree.content, Tree.content, Tree.location_writeAll]
  cases hl : t.location path with
  | none =>
      refine Or.inr ⟨rfl, fun name content hgiven hname => ?_⟩
      obtain ⟨l, _, hl'⟩ := openForWriting_of_writesFully (h _ _ hgiven)
      exact absurd (hl'.symm.trans hname) (by simp)
  | some l =>
      simp only [Option.bind_some]
      rcases nodes_writes h l with ⟨name, content, hgiven, hname, hnodes⟩ |
        ⟨hnodes, hothers⟩
      · exact Or.inl ⟨name, content, hgiven, hname,
          Tree.contentAt_of_file hnodes⟩
      · exact Or.inr ⟨Tree.contentAt_of_nodes_eq hnodes, hothers⟩

/-- Paths to one location lead to one file. -/
theorem content_of_location_eq {t : FileTree} {path path' : List (Move FileName)}
    (h : t.location path = t.location path') :
    t.content path = t.content path' := by
  rw [Tree.content, Tree.content, h]

theorem failures_eq_nil_iff :
    failures args homeDir refusals t managed = [] ↔
      ∀ name content, Given args name content →
        writesFully homeDir refusals name content t = true := by
  rw [failures, List.filter_eq_nil_iff]
  constructor
  · rintro h name content ⟨hname, value, hvalue, rfl⟩
    have hnot := h name hname
    rw [hvalue, Option.any_some, Bool.not_eq_true, Bool.not_eq_false'] at hnot
    exact hnot
  · intro h name hname
    cases hvalue : args name with
    | none => simp
    | some value =>
        have hfully := h name value.toString ⟨hname, value, hvalue, rfl⟩
        simp [hfully]

end writes

section mirrored

variable {args : QString → Option Variant} {homeDir : QString}
  {refusals : SyncRefusals} {t : FileTree}

/-- The state the writes lead to. -/
def written (args : QString → Option Variant) (homeDir : QString)
    (refusals : SyncRefusals) (t : FileTree) : SyncState where
  tree := (prepare homeDir refusals t).writeAll
    (writes args homeDir refusals managed)
  unwritten := failures args homeDir refusals (prepare homeDir refusals t)
    managed

theorem location_written (path : List (Move FileName)) :
    (written args homeDir refusals t).tree.location path =
      leads homeDir refusals t path := by
  rw [written, Tree.location_writeAll, location_prepare]

/-- The place of the cache is free afterwards if it is before the writes and
none of them gets there. -/
theorem isFreeAt_written {home : List FileName}
    (h : (written args homeDir refusals t).tree.nodes (home ++ [cacheName]) =
      (prepare homeDir refusals t).nodes (home ++ [cacheName])) :
    (written args homeDir refusals t).tree.isFreeAt (home ++ [cacheName]) =
      freed homeDir refusals t (home ++ [cacheName]) := by
  have hlast : (home ++ [cacheName]).getLast? = some cacheName :=
    List.getLast?_concat
  rw [Tree.isFreeAt, h, written, Tree.links_writeAll, ← isFreeAt_prepare,
    Tree.isFreeAt]
  · rw [hlast, Ne, Option.some.injEq]
    decide
  · rw [hlast, Ne, Option.some.injEq]
    decide

/-- What the path of a name holds afterwards: a given file, or what was
kept. -/
theorem content_written
    (h : ∀ name content, Given args name content →
      Writable homeDir refusals t name content)
    (path : List (Move FileName)) :
    (∃ name content, Given args name content ∧
        leads homeDir refusals t (configPath homeDir name).moves =
          leads homeDir refusals t path ∧
        (written args homeDir refusals t).tree.content path =
          some content.streamed) ∨
      ((written args homeDir refusals t).tree.content path =
          (leads homeDir refusals t path).bind (kept homeDir refusals t) ∧
        ∀ name content, Given args name content →
          leads homeDir refusals t (configPath homeDir name).moves ≠
            leads homeDir refusals t path) := by
  have hfully := fun name content hgiven =>
    writesFully_prepare_iff.2 (h name content hgiven)
  rw [← content_prepare]
  simp only [← location_prepare]
  exact content_writes hfully path

/-- The same about the place of the cache. -/
theorem cache_written
    (h : ∀ name content, Given args name content →
      Writable homeDir refusals t name content) (home : List FileName) :
    (∃ name content, Given args name content ∧
        leads homeDir refusals t (configPath homeDir name).moves =
          some (home ++ [cacheName])) ∨
      (written args homeDir refusals t).tree.isFreeAt (home ++ [cacheName]) =
        freed homeDir refusals t (home ++ [cacheName]) := by
  have hfully := fun name content hgiven =>
    writesFully_prepare_iff.2 (h name content hgiven)
  rcases nodes_writes hfully (home ++ [cacheName]) with
    ⟨name, content, hgiven, hlocation, _⟩ | ⟨hnodes, _⟩
  · rw [location_prepare] at hlocation
    exact Or.inl ⟨name, content, hgiven, hlocation⟩
  · exact Or.inr (isFreeAt_written hnodes)

theorem mirrored_of_mirrorable (h : Mirrorable args homeDir refusals t) :
    Mirrored args homeDir t (written args homeDir refusals t) where
  given name hname value hvalue := by
    have hgiven : Given args name value.toString := ⟨hname, value, hvalue, rfl⟩
    rcases content_written h.given (configPath homeDir name).moves with
      ⟨name', content', hgiven', hlocation, hcontent⟩ | ⟨_, hothers⟩
    · rw [← h.shared _ _ _ _ hgiven' hgiven hlocation]
      exact hcontent
    · exact absurd rfl (hothers name _ hgiven)
  absent name hname hvalue := by
    obtain ⟨hnone, hothers⟩ := h.absent name hname hvalue
    rcases content_written h.given (configPath homeDir name).moves with
      ⟨name', content', hgiven', hlocation, _⟩ | ⟨hcontent, _⟩
    · exact absurd hlocation (hothers name' content' hgiven')
    · exact hcontent.trans hnone
  cache home hhome := by
    rw [location_written] at hhome
    obtain ⟨hfreed, hothers⟩ := h.cache home hhome
    rcases cache_written h.given home with
      ⟨name, content, hgiven, hlocation⟩ | hfree
    · exact absurd hlocation (hothers name content hgiven)
    · exact hfree.trans hfreed
  others names hnames := by
    obtain ⟨hwritten, hkept⟩ := h.others names hnames
    rcases content_written h.given (belowConfig homeDir names) with
      ⟨name, content, hgiven, hlocation, hcontent⟩ | ⟨hcontent, hothers⟩
    · exact hcontent.trans (hwritten name content hgiven hlocation).symm
    · exact hcontent.trans (hkept hothers)
  written := failures_eq_nil_iff.2 fun name content hgiven =>
    writesFully_prepare_iff.2 (h.given name content hgiven)

section mirrorable

variable (h : Mirrored args homeDir t (written args homeDir refusals t))

include h

theorem writable_of_mirrored {name content : QString}
    (hgiven : Given args name content) :
    Writable homeDir refusals t name content :=
  writesFully_prepare_iff.1
    (failures_eq_nil_iff.1 h.written name content hgiven)

/-- A path to a given file's location leads to its content. -/
theorem content_of_mirrored {name content : QString}
    (hgiven : Given args name content) {path : List (Move FileName)}
    (hlocation : leads homeDir refusals t (configPath homeDir name).moves =
      leads homeDir refusals t path) :
    (written args homeDir refusals t).tree.content path =
      some content.streamed := by
  have hcontent : (written args homeDir refusals t).tree.content
      (configPath homeDir name).moves = some content.streamed := by
    obtain ⟨hname, value, hvalue, rfl⟩ := hgiven
    exact h.given name hname value hvalue
  rw [← hcontent]
  apply content_of_location_eq
  rw [location_written, location_written, hlocation]

/-- No given file is where a name without one leads to. -/
theorem ne_absent_of_mirrored {name name' content : QString}
    (hname : name ∈ managed) (hvalue : args name = none)
    (hgiven : Given args name' content) :
    leads homeDir refusals t (configPath homeDir name').moves ≠
      leads homeDir refusals t (configPath homeDir name).moves := by
  intro hlocation
  have hnone := h.absent name hname hvalue
  rw [content_of_mirrored h hgiven hlocation] at hnone
  exact absurd hnone (Option.some_ne_none _)

/-- Nor where the cache is. -/
theorem ne_cache_of_mirrored {name content : QString}
    (hgiven : Given args name content) {home : List FileName}
    (hhome : leads homeDir refusals t homeDir.moves = some home) :
    leads homeDir refusals t (configPath homeDir name).moves ≠
      some (home ++ [cacheName]) := by
  intro hlocation
  have hfree := h.cache home ((location_written _).trans hhome)
  have hfile := content_of_mirrored h hgiven rfl
  rw [Tree.content, location_written, hlocation, Option.bind_some,
    Tree.contentAt] at hfile
  rw [Tree.isFreeAt, Bool.and_eq_true, Option.isNone_iff_eq_none,
    Option.isNone_iff_eq_none] at hfree
  rw [hfree.2] at hfile
  exact absurd hfile.symm (Option.some_ne_none _)

theorem mirrorable_of_mirrored : Mirrorable args homeDir refusals t := by
  have hwritable : ∀ name content, Given args name content →
      Writable homeDir refusals t name content :=
    fun _ _ hgiven => writable_of_mirrored h hgiven
  constructor
  case given => exact hwritable
  case absent =>
    intro name hname hvalue
    refine ⟨?_, fun name' content hgiven =>
      ne_absent_of_mirrored h hname hvalue hgiven⟩
    rcases content_written hwritable (configPath homeDir name).moves with
      ⟨name', content', hgiven', hlocation, _⟩ | ⟨hsame, _⟩
    · exact absurd hlocation (ne_absent_of_mirrored h hname hvalue hgiven')
    · exact hsame.symm.trans (h.absent name hname hvalue)
  case shared =>
    intro name content name' content' hgiven hgiven' hlocation
    have heq := content_of_mirrored h hgiven hlocation
    rw [content_of_mirrored h hgiven' rfl, Option.some.injEq] at heq
    exact heq.symm
  case others =>
    intro names hnames
    have hsame := h.others names hnames
    refine ⟨fun name content hgiven hlocation => ?_, fun hothers => ?_⟩
    · rw [← hsame]
      exact content_of_mirrored h hgiven hlocation
    · rcases content_written hwritable (belowConfig homeDir names) with
        ⟨name, content, hgiven, hlocation, _⟩ | ⟨hkept, _⟩
      · exact absurd hlocation (hothers name content hgiven)
      · exact hkept.symm.trans hsame
  case cache =>
    intro home hhome
    refine ⟨?_, fun name content hgiven =>
      ne_cache_of_mirrored h hgiven hhome⟩
    rcases cache_written hwritable home with
      ⟨name, content, hgiven, hlocation⟩ | hsame
    · exact absurd hlocation (ne_cache_of_mirrored h hgiven hhome)
    · exact hsame.symm.trans
        (h.cache home ((location_written _).trans hhome))

end mirrorable

end mirrored

end PlasmaLoginAuthHelper

open PlasmaLoginAuthHelper in
/-- A successful `sync` mirrors what was given if and only if it does not get
to its end, or every given file can be written, no other managed name has a
file, the cache goes, and no link leads two names to one file. -/
theorem sync_mirrored_iff (args : QString → Option Variant)
    (env : SyncSurroundings) (t : FileTree) :
    ((sync args env t).1 = .success →
        Mirrored args env.user.homeDir t (sync args env t).2) ↔
      (env.Completes →
        Mirrorable args env.user.homeDir env.refusals t) := by
  constructor
  · intro h henv
    rw [sync_of_completes args henv t] at h
    exact mirrorable_of_mirrored (h rfl)
  · intro h hsuccess
    have henv := completes_of_sync hsuccess
    rw [sync_of_completes args henv t]
    exact mirrored_of_mirrorable (h henv)

/-- A home directory with the keyboard settings of an earlier `sync`. -/
def PlasmaLoginAuthHelper.staleHome : FileTree where
  links _ := none
  nodes l :=
    let config := QString.moves "/var/lib/plasmalogin/.config"
    let path := Move.stay :: l.map Move.down
    if path = config ++ QString.moves "kxkbrc" then
      some (.file ("[Layout]" : QString).streamed)
    else if path.isPrefixOf config then some .directory
    else none

open PlasmaLoginAuthHelper in
/-- Without keyboard settings to copy those of the earlier `sync` stay, and
settings that could not be written are reported as copied. -/
theorem sync_not_mirrored :
    (¬ ∀ (args : QString → Option Variant) (env : SyncSurroundings)
      (t : FileTree), (sync args env t).1 = .success →
        Mirrored args env.user.homeDir t (sync args env t).2) ∧
      (sync (fun name => if name = "kxkbrc" then some {} else none)
        { user := ⟨true, "/var/lib/plasmalogin"⟩,
          refusals := { opens := fun _ => true } } staleHome).1 = .success ∧
      (sync (fun name => if name = "kxkbrc" then some {} else none)
        { user := ⟨true, "/var/lib/plasmalogin"⟩,
          refusals := { opens := fun _ => true } } staleHome).2.unwritten =
        ["kxkbrc"] := by
  refine ⟨fun h => ?_, rfl, rfl⟩
  have hmirrored := h (fun _ => none)
    { user := ⟨true, "/var/lib/plasmalogin"⟩ } staleHome rfl
  have hstays : ((sync (fun _ => none)
      { user := ⟨true, "/var/lib/plasmalogin"⟩ } staleHome).2.tree.content
        (configPath "/var/lib/plasmalogin" "kxkbrc").moves).isSome = true := rfl
  rw [hmirrored.absent "kxkbrc" List.mem_cons_self rfl] at hstays
  exact absurd hstays (by simp)

end PlasmaLogin

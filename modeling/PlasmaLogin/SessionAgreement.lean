/-
Whether a session the greeter offers is one the daemon can open: it is when
the session's file name ends the way the daemon completes names.
-/
import PlasmaLogin.SessionLookups

namespace PlasmaLogin

open FirstMatch PathWalk

namespace Session

variable {ν : Type}

/-- A session that was read from a path. -/
def OpenedAt (s : Session) (path : QString) : Prop :=
  ∃ file, s.desktopFile = some file ∧ file.openedPath.SamePath path

instance (s : Session) (path : QString) : Decidable (s.OpenedAt path) :=
  match h : s.desktopFile with
  | none => isFalse fun ⟨_, hfile, _⟩ => by simp [h] at hfile
  | some file =>
      if hsame : file.openedPath.SamePath path then isTrue ⟨file, h, hsame⟩
      else isFalse fun ⟨other, hfile, hother⟩ =>
        hsame (Option.some.inj (h.symm.trans hfile) ▸ hother)

/-- A located file exists, so it is the one that is opened. -/
theorem create_of_filePath {inst : Installation ν} {type : SessionType}
    {name path : QString} (h : filePath inst type name = some path) :
    ∃ file, create inst type name = ⟨type, some file⟩ ∧
      file.openedPath = path := by
  obtain ⟨relative, _, hlocate⟩ := Option.bind_eq_some_iff.1 h
  have hfile : (inst.file path).isSome = true :=
    List.find?_some (p := fun path => (inst.file path).isSome) hlocate
  obtain ⟨node, hnode⟩ := Option.isSome_iff_exists.1 hfile
  have hopened : opened inst type name = some node := by
    rw [opened, h, Option.bind_some, hnode]
  refine ⟨{ inst.config node with openedPath := path }, ?_, rfl⟩
  unfold create
  rw [h, hopened]

theorem create_of_filePath_eq_none {inst : Installation ν}
    {type : SessionType} {name : QString}
    (h : filePath inst type name = none) : create inst type name = {} := by
  unfold create
  rw [h]

theorem desktopName_isFileName {name : QString} (hname : IsFileName name) :
    IsFileName (desktopName name) := by
  have hslash : slash ∉ desktopName name := by
    unfold desktopName
    split
    · exact hname.2.2.2
    · rw [List.mem_append, not_or]
      exact ⟨hname.2.2.2, by decide⟩
  have hsingle : (desktopName name).components = [desktopName name] :=
    List.splitOn_eq_singleton hslash
  obtain ⟨first, last, hcomponents, hlast⟩ := desktopName_components name
  have heq := congrArg List.getLast? (hsingle.symm.trans hcomponents)
  rw [List.getLast?_singleton, List.getLast?_concat] at heq
  exact Option.some.inj heq ▸ hlast

/-- The name of the file that is opened is the completed one. -/
theorem filePath_spelling {inst : Installation ν} {type : SessionType}
    {name path : QString} (h : filePath inst type name = some path) :
    ∃ dir, path = dir ++ QString.ofString "/" ++ desktopName name := by
  obtain ⟨relative, hrelative, hlocate⟩ := Option.bind_eq_some_iff.1 h
  obtain ⟨directory, _, rfl⟩ := Option.map_eq_some_iff.1 hrelative
  obtain ⟨dir, _, rfl⟩ := List.mem_map.1 (List.mem_of_find?_eq_some hlocate)
  exact ⟨dir ++ QString.ofString "/" ++ (QString.ofString "/" ++ directory),
    by simp [List.append_assoc]⟩

end Session

namespace ModelSession

variable {localeAwareCompare : QString → QString → Ordering}

/-- The order of the sessions, by one key after the other. -/
def order (localeAwareCompare : QString → QString → Ordering) :
    ModelSession → ModelSession → Ordering :=
  compareLex (compareOn fun s => !s.isPlasma)
    (compareLex (fun a b => localeAwareCompare a.displayName b.displayName)
      (compareOn fun s => decide (s.type ≠ .wayland)))

theorem sortsBefore_iff {a b : ModelSession} :
    sortsBefore localeAwareCompare a b = true ↔
      order localeAwareCompare a b = .lt := by
  simp only [sortsBefore, order, compareLex, compareOn]
  cases a.isPlasma <;> cases b.isPlasma <;>
    cases localeAwareCompare a.displayName b.displayName <;>
      cases a.type <;> cases b.type <;> decide

instance [Std.TransCmp localeAwareCompare] :
    Std.TransCmp (order localeAwareCompare) :=
  have : Std.TransCmp fun a b : ModelSession =>
      localeAwareCompare a.displayName b.displayName :=
    { eq_swap := Std.OrientedCmp.eq_swap
      isLE_trans := Std.TransCmp.isLE_trans }
  inferInstanceAs (Std.TransCmp (compareLex _ (compareLex _ _)))

theorem sortsBefore_eq_false_iff [Std.TransCmp localeAwareCompare]
    {a b : ModelSession} : sortsBefore localeAwareCompare b a = false ↔
      (order localeAwareCompare a b).isLE = true := by
  have hswap : order localeAwareCompare a b =
      (order localeAwareCompare b a).swap := Std.OrientedCmp.eq_swap
  rw [← Bool.not_eq_true, sortsBefore_iff, hswap]
  cases order localeAwareCompare b a <;> decide

end ModelSession

namespace SessionModel

variable {ν : Type} {inst : ListedInstallation ν}

theorem mem_collected_iff {s : ModelSession} :
    s ∈ collected inst ↔
      ∃ path ∈ getSessionsPaths inst (locateAll inst s.type.directory),
        s = getSession inst path s.type := by
  rw [collected, List.mem_append, sessionsOf, sessionsOf, List.mem_map,
    List.mem_map]
  constructor
  · rintro (⟨path, hpath, rfl⟩ | ⟨path, hpath, rfl⟩)
    · exact ⟨path, hpath, rfl⟩
    · exact ⟨path, hpath, rfl⟩
  · rintro ⟨path, hpath, heq⟩
    rw [heq]
    cases htype : s.type with
    | x11 => exact Or.inl ⟨path, htype ▸ hpath, rfl⟩
    | wayland => exact Or.inr ⟨path, htype ▸ hpath, rfl⟩

theorem nodup_fileNames (type : SessionKind) :
    ((getSessionsPaths inst (locateAll inst type.directory)).map
      QString.fileName).Nodup := by
  rw [getSessionsPaths_eq]
  exact nodup_foldl_addNew _ List.nodup_nil

/-- The file name of a listed session is one the greeter lists. -/
theorem listable_of_mem {s : ModelSession} (hs : s ∈ collected inst) :
    Listable s.fileName := by
  obtain ⟨path, hpath, heq⟩ := mem_collected_iff.1 hs
  have hname : s.fileName = path.fileName := by rw [heq]; rfl
  rw [getSessionsPaths_eq] at hpath
  rcases mem_foldl_addNew hpath with hnil | hcandidate
  · exact absurd hnil List.not_mem_nil
  · obtain ⟨dataDir, _, hentry⟩ := List.mem_flatMap.1 hcandidate
    obtain ⟨name, hmem, rfl⟩ := List.mem_map.1 hentry
    obtain ⟨hfileName, hfilter, hhidden, _⟩ := mem_entryList_iff.1 hmem
    rw [hname, absoluteFilePath,
      QString.fileName_append_slash _ hfileName.2.2.2]
    exact ⟨hfileName, hfilter, hhidden⟩

/-- A listed session lies in the first data directory that provides it. -/
theorem path_of_mem {s : ModelSession} (hs : s ∈ collected inst) :
    (inst.dataDirs.find? (provides inst s.type s.fileName)).map
      (listedPath s.type s.fileName) = some s.path := by
  obtain ⟨path, hpath, heq⟩ := mem_collected_iff.1 hs
  have hself := find?_key_of_mem (nodup_fileNames s.type) hpath
  have hname : path.fileName = s.fileName := by rw [heq]; rfl
  have hsame : path = s.path := by rw [heq]; rfl
  rw [← find?_getSessionsPaths s.type (listable_of_mem hs), ← hname, hself,
    hsame]

/-- Every name a data directory provides is listed. -/
theorem exists_mem_collected {type : SessionKind} {name dataDir : QString}
    (hname : Listable name) (hdataDir : dataDir ∈ inst.dataDirs)
    (hprovides : provides inst type name dataDir = true) :
    ∃ s ∈ collected inst, s.type = type ∧ s.fileName = name := by
  have hfind : (inst.dataDirs.find? (provides inst type name)).isSome = true :=
    List.find?_isSome.2 ⟨dataDir, hdataDir, hprovides⟩
  obtain ⟨first, hfirst⟩ := Option.isSome_iff_exists.1 hfind
  have hkept : (getSessionsPaths inst (locateAll inst type.directory)).find?
      (fun path => path.fileName = name) = _ :=
    find?_getSessionsPaths type hname
  rw [hfirst, Option.map_some] at hkept
  refine ⟨getSession inst (listedPath type name first) type,
    mem_collected_iff.2 ⟨_, List.mem_of_find?_eq_some hkept, rfl⟩, rfl, ?_⟩
  exact fileName_listedPath type hname.isFileName.2.2.2 first

/-- A session is known by its type and file name. -/
theorem nodup_collected : ((collected inst).map fun s =>
    (s.type, s.fileName)).Nodup := by
  have hkind : ∀ type, ((sessionsOf inst type).map fun s =>
      (s.type, s.fileName)) =
        (((getSessionsPaths inst (locateAll inst type.directory)).map
          QString.fileName).map fun name => (type, name)) := by
    intro type
    rw [sessionsOf, List.map_map, List.map_map]
    rfl
  have hnodup : ∀ type, ((sessionsOf inst type).map fun s =>
      (s.type, s.fileName)).Nodup := by
    intro type
    rw [hkind]
    exact (nodup_fileNames type).map fun _ _ h => (Prod.mk.inj h).2
  rw [collected, List.map_append]
  apply (hnodup .x11).append (hnodup .wayland)
  intro pair hx hwayland
  rw [hkind] at hx hwayland
  obtain ⟨name, _, rfl⟩ := List.mem_map.1 hx
  obtain ⟨other, _, heq⟩ := List.mem_map.1 hwayland
  exact absurd (Prod.mk.inj heq).1 (by decide)

/-- The names all sessions directories list. -/
def Lists (inst : ListedInstallation ν) (type : SessionKind)
    (name : QString) : Prop :=
  ∃ dir ∈ locateAll inst type.directory, name ∈ entryList inst dir

theorem lists_iff {type : SessionKind} {name : QString} :
    Lists inst type name ↔ ∃ s ∈ collected inst, s.type = type ∧
      s.fileName = name := by
  constructor
  · rintro ⟨dir, hdir, hname⟩
    obtain ⟨hmem, _⟩ := List.mem_filter.1 hdir
    obtain ⟨dataDir, hdataDir, rfl⟩ := List.mem_map.1 hmem
    obtain ⟨hfileName, hfilter, hhidden, hfile⟩ := mem_entryList_iff.1 hname
    exact exists_mem_collected ⟨hfileName, hfilter, hhidden⟩ hdataDir hfile
  · rintro ⟨s, hs, rfl, rfl⟩
    obtain ⟨dataDir, hdataDir, _⟩ := Option.map_eq_some_iff.1 (path_of_mem hs)
    have hname := (mem_entryList_sessionsDir (listable_of_mem hs) dataDir).2
      (List.find?_some hdataDir)
    refine ⟨sessionsDir s.type dataDir, List.mem_filter.2 ⟨List.mem_map.2
      ⟨dataDir, List.mem_of_find?_eq_some hdataDir, rfl⟩, ?_⟩, hname⟩
    rw [Option.isSome_iff_ne_none]
    intro hnone
    rw [entryList_eq_nil hnone] at hname
    exact List.not_mem_nil hname

/-- The file the daemon opens for a listed session, when the name needs no
completing. -/
theorem filePath_of_mem {s : ModelSession} (hs : s ∈ collected inst)
    (hsuffix : (QString.ofString ".desktop").isSuffixOf s.fileName = true) :
    ∃ path, Session.filePath inst.toInstallation s.type.daemonType s.fileName =
      some path ∧ path.SamePath s.path := by
  obtain ⟨dataDir, hdataDir, hpath⟩ :=
    Option.map_eq_some_iff.1 (path_of_mem hs)
  refine ⟨locatedPath s.type s.fileName dataDir, ?_, ?_⟩
  · rw [filePath_eq s.type hsuffix, hdataDir, Option.map_some]
  · rw [← hpath]
    exact samePath_locatedPath s.type s.fileName dataDir

/-- Any other name is completed to the name of another file. -/
theorem suffix_of_openedAt {s : ModelSession} (hs : s ∈ collected inst)
    {type : SessionType}
    (h : (Session.create inst.toInstallation type s.fileName).OpenedAt
      s.path) :
    (QString.ofString ".desktop").isSuffixOf s.fileName = true := by
  obtain ⟨file, hfile, hsame⟩ := h
  cases hpath : Session.filePath inst.toInstallation type s.fileName with
  | none =>
      rw [Session.create_of_filePath_eq_none hpath] at hfile
      simp at hfile
  | some path =>
      obtain ⟨opened, hcreate, hname⟩ := Session.create_of_filePath hpath
      rw [hcreate] at hfile
      obtain rfl := Option.some.inj hfile
      obtain ⟨dir, hdir⟩ := Session.filePath_spelling hpath
      obtain ⟨dataDir, _, hlisted⟩ := Option.map_eq_some_iff.1 (path_of_mem hs)
      have hfileName := (listable_of_mem hs).isFileName
      rw [hname, hdir, ← hlisted] at hsame
      have heq := QString.SamePath.last
        (Session.desktopName_isFileName hfileName) hfileName hsame
      by_contra hsuffix
      rw [Session.desktopName, if_neg hsuffix] at heq
      exact absurd (congrArg List.length heq) (by simp [QString.ofString])

theorem openedAt_create_iff {s : ModelSession} (hs : s ∈ collected inst) :
    (Session.create inst.toInstallation s.type.daemonType
        s.fileName).OpenedAt s.path ↔
      (QString.ofString ".desktop").isSuffixOf s.fileName = true := by
  constructor
  · exact suffix_of_openedAt hs
  · intro hsuffix
    obtain ⟨path, hpath, hsame⟩ := filePath_of_mem hs hsuffix
    obtain ⟨file, hcreate, hname⟩ := Session.create_of_filePath hpath
    exact ⟨file, by rw [hcreate], hname ▸ hsame⟩

section rows

variable {localeAwareCompare : QString → QString → Ordering}
  {sessions : List ModelSession}

theorem Populates.mem_iff (h : Populates localeAwareCompare inst sessions)
    {s : ModelSession} : s ∈ sessions ↔ s ∈ collected inst :=
  h.1.mem_iff

theorem Populates.nodup (h : Populates localeAwareCompare inst sessions) :
    (sessions.map fun s => (s.type, s.fileName)).Nodup :=
  (h.1.map _).nodup_iff.2 nodup_collected

/-- With a comparison that is an order, `populate` leaves a sorted list. -/
theorem populates_populate [Std.TransCmp localeAwareCompare] :
    Populates localeAwareCompare inst (populate localeAwareCompare inst) := by
  refine ⟨List.perm_insertionSort _ _, ?_⟩
  have : Std.Total fun a b : ModelSession =>
      ModelSession.sortsBefore localeAwareCompare b a = false := ⟨fun a b => by
    rw [ModelSession.sortsBefore_eq_false_iff,
      ModelSession.sortsBefore_eq_false_iff]
    exact or_iff_not_imp_left.2 fun h =>
      Ordering.isLE_of_eq_lt (Std.OrientedCmp.lt_of_not_isLE h)⟩
  have : IsTrans ModelSession fun a b =>
      ModelSession.sortsBefore localeAwareCompare b a = false := ⟨fun a b c => by
    rw [ModelSession.sortsBefore_eq_false_iff,
      ModelSession.sortsBefore_eq_false_iff,
      ModelSession.sortsBefore_eq_false_iff]
    exact Std.TransCmp.isLE_trans⟩
  exact List.pairwise_insertionSort _ _

end rows

/-- The session a row stands for, as `SessionButton` reads it from the model
and the daemon from the login message. -/
def submitted (texts : LabelTexts) (inst : ListedInstallation ν)
    (sessions : List ModelSession) (row : Int) : Option Session :=
  match data texts sessions row .type, data texts sessions row .fileName with
  | .number type, .text fileName =>
      some (Session.create inst.toInstallation (.ofNumber type) fileName)
  | _, _ => none

/-- Greeter and daemon agree on the sessions the greeter lists. -/
structure Agrees (texts : LabelTexts) (inst : ListedInstallation ν)
    (sessions : List ModelSession) : Prop where
  unique : (sessions.map fun s => (s.type, s.fileName)).Nodup
  complete : ∀ type name, Lists inst type name →
    ∃ s ∈ sessions, s.type = type ∧ s.fileName = name
  opened : ∀ (row : Nat) (s : ModelSession), sessions[row]? = some s →
    ∃ session, submitted texts inst sessions row = some session ∧
      session.OpenedAt s.path

theorem submitted_of_getElem? {texts : LabelTexts}
    {sessions : List ModelSession} {row : Nat} {s : ModelSession}
    (h : sessions[row]? = some s) :
    submitted texts inst sessions row =
      some (Session.create inst.toInstallation s.type.daemonType
        s.fileName) := by
  have hrow : ¬ (row : Int) < 0 := by omega
  simp [submitted, data, hrow, h, SessionKind.daemonType]

end SessionModel

open SessionModel in
theorem isSuffixOf_of_agrees {ν : Type} {inst : ListedInstallation ν}
    {localeAwareCompare : QString → QString → Ordering}
    {sessions : List ModelSession} {texts : LabelTexts}
    (h : Populates localeAwareCompare inst sessions)
    (hagrees : Agrees texts inst sessions) {type : SessionKind}
    {name : QString} (hlists : Lists inst type name) :
    (QString.ofString ".desktop").isSuffixOf name = true := by
  obtain ⟨s, hs, rfl, rfl⟩ := hagrees.complete type name hlists
  obtain ⟨row, hrow, heq⟩ := List.mem_iff_getElem.1 hs
  have hget : sessions[row]? = some s := by
    rw [List.getElem?_eq_getElem hrow, heq]
  obtain ⟨session, hsubmitted, hopened⟩ := hagrees.opened row s hget
  rw [submitted_of_getElem? hget, Option.some.injEq] at hsubmitted
  exact (openedAt_create_iff (h.mem_iff.1 hs)).1 (hsubmitted ▸ hopened)

open SessionModel in
/-- Greeter and daemon agree on the sessions if and only if every name that
is listed ends in the suffix as the daemon spells it. -/
theorem sessions_agree_iff {ν : Type} {inst : ListedInstallation ν}
    {localeAwareCompare : QString → QString → Ordering}
    {sessions : List ModelSession}
    (h : Populates localeAwareCompare inst sessions) (texts : LabelTexts) :
    Agrees texts inst sessions ↔ ∀ type name, Lists inst type name →
      (QString.ofString ".desktop").isSuffixOf name = true := by
  constructor
  · exact fun hagrees type name => isSuffixOf_of_agrees h hagrees
  · intro hsuffix
    refine ⟨h.nodup, fun type name hlists => ?_, fun row s hget => ?_⟩
    · obtain ⟨s, hs, htype, hname⟩ := lists_iff.1 hlists
      exact ⟨s, h.mem_iff.2 hs, htype, hname⟩
    · have hs : s ∈ collected inst :=
        h.mem_iff.1 (List.mem_of_getElem? hget)
      exact ⟨_, submitted_of_getElem? hget, (openedAt_create_iff hs).2
        (hsuffix s.type s.fileName (lists_iff.2 ⟨s, hs, rfl, rfl⟩))⟩

/-- The nodes of a file system with one session of each type. -/
inductive SessionsNode where
  | root
  | usr
  | sessions (type : SessionKind)
  | file (type : SessionKind)
deriving DecidableEq

/-- The entries of the directories; both sessions have the same file name. -/
def SessionsNode.children (name : FileName) :
    SessionsNode → List (FileName × SessionsNode)
  | .root => [(⟨"usr", by decide⟩, .usr)]
  | .usr => [(⟨"xsessions", by decide⟩, .sessions .x11),
      (⟨"wayland-sessions", by decide⟩, .sessions .wayland)]
  | .sessions type => [(name, .file type)]
  | .file _ => []

/-- A machine with two sessions of one file name, one of each type. -/
def ListedInstallation.twoSessions (name : FileName)
    (hname : 0 ∉ name.val) : ListedInstallation SessionsNode where
  fs := {
    root := .root
    isDir := fun
      | .file _ => false
      | _ => true
    isFile := fun
      | .file _ => true
      | _ => false
    parent := fun
      | .file type => .sessions type
      | .sessions _ => .usr
      | _ => .root
    entry := fun n entry =>
      ((n.children name).find? fun child => child.1 = entry).map Prod.snd
    root_isDir := rfl
    parent_root := rfl
    isDir_of_isFile := fun n => by cases n <;> simp
    entry_parent := fun n => by
      rcases n with _ | _ | (_ | _) | _
      · exact fun h => absurd rfl h
      · exact fun _ => ⟨⟨"usr", by decide⟩, rfl⟩
      · exact fun _ => ⟨⟨"xsessions", by decide⟩, rfl⟩
      · exact fun _ => ⟨⟨"wayland-sessions", by decide⟩, rfl⟩
      · exact fun _ => ⟨name, by simp [SessionsNode.children]⟩ }
  dataDirs := ["/usr"]
  config _ := { name := [], exec := "startplasma" }
  names n := (n.children name).map Prod.fst
  texts _ := ⟨"Plasma", []⟩
  mem_names_iff n entry := by
    rw [Option.isSome_map, List.find?_isSome, List.mem_map]
    simp only [decide_eq_true_eq]
  nul_not_mem n entry hentry := by
    cases n with
    | root =>
        rw [List.mem_singleton.1 hentry]
        decide
    | usr =>
        rcases List.mem_cons.1 hentry with rfl | hentry
        · decide
        · rw [List.mem_singleton.1 hentry]
          decide
    | sessions type =>
        rw [List.mem_singleton.1 hentry]
        exact hname
    | file type => exact absurd hentry List.not_mem_nil

/-- Labels that leave the display name as it is. -/
def SessionModel.LabelTexts.plain : SessionModel.LabelTexts :=
  ⟨fun _ name => name, fun name _ => name, fun _ name _ => name⟩

open SessionModel in
/-- The sessions of a machine whose names end in the suffix. -/
theorem sessions_agree_iff_plasma :
    Agrees .plain
        (.twoSessions ⟨"plasma.desktop", by decide⟩ (by decide))
        (populate compare
          (.twoSessions ⟨"plasma.desktop", by decide⟩ (by decide))) := by
  refine (sessions_agree_iff populates_populate _).2 fun type name hlists => ?_
  obtain ⟨s, hs, _, rfl⟩ := lists_iff.1 hlists
  have hall : ∀ s ∈ collected (.twoSessions ⟨"plasma.desktop", by decide⟩
      (by decide)), (QString.ofString ".desktop").isSuffixOf s.fileName =
        true := by
    decide
  exact hall s hs

open SessionModel in
/-- A session file in capitals is listed, and the daemon looks for another
file. -/
theorem sessions_not_agree :
    ¬ ∀ (ν : Type) (inst : ListedInstallation ν)
      (localeAwareCompare : QString → QString → Ordering)
      (sessions : List ModelSession) (texts : LabelTexts),
        Populates localeAwareCompare inst sessions →
          Agrees texts inst sessions := by
  intro hall
  let inst := ListedInstallation.twoSessions ⟨"GAME.DESKTOP", by decide⟩
    (by decide)
  have hpopulates : Populates compare inst (populate compare inst) :=
    populates_populate
  have hlists : Lists inst .x11 (QString.ofString "GAME.DESKTOP") :=
    ⟨"/usr/xsessions", by decide, by decide⟩
  have hsuffix := isSuffixOf_of_agrees hpopulates
    (hall _ inst _ _ .plain hpopulates) hlists
  exact absurd hsuffix (by decide)

end PlasmaLogin

/-
The session a login screen submits while the sessions directories change.  A
button reads the type and the file name of its row with functions that announce
no change, so it reads them again only when the row is another one.
-/
import PlasmaLogin.Mealy
import PlasmaLogin.SessionAgreement

namespace PlasmaLogin

open Mealy PathWalk

/-- The type and the file name that a login sends. -/
structure SubmittedSession where
  type : UInt32 := 0
  fileName : QString := []
deriving DecidableEq, Repr

def ModelSession.submitted (s : ModelSession) : SubmittedSession :=
  ⟨s.type.number, s.fileName⟩

/-- `SessionButton`. -/
structure SessionButton where
  currentIndex : Int
  current : SubmittedSession := {}
deriving DecidableEq, Repr

/-- The directories `SessionModel` watches, as it found them at the start. -/
structure SessionDirs where
  xSessionsDirs : List QString
  waylandSessionsDirs : List QString
deriving DecidableEq

namespace SessionModel

variable {ν : Type}

/-- What `SessionModel::populate` collects from the directories. -/
def collectedIn (inst : ListedInstallation ν) (dirs : SessionDirs) :
    List ModelSession :=
  ((getSessionsPaths inst dirs.xSessionsDirs).map fun path =>
      getSession inst path .x11) ++
    (getSessionsPaths inst dirs.waylandSessionsDirs).map fun path =>
      getSession inst path .wayland

/-- The lists it can leave behind. -/
def Repopulates (localeAwareCompare : QString → QString → Ordering)
    (inst : ListedInstallation ν) (dirs : SessionDirs)
    (sessions : List ModelSession) : Prop :=
  sessions.Perm (collectedIn inst dirs) ∧ sessions.Pairwise fun a b =>
    ModelSession.sortsBefore localeAwareCompare b a = false

/-- The directories of an installation. -/
def located (inst : ListedInstallation ν) : SessionDirs where
  xSessionsDirs := locateAll inst SessionKind.x11.directory
  waylandSessionsDirs := locateAll inst SessionKind.wayland.directory

/-- The first time, the directories are those that are found. -/
theorem repopulates_located {localeAwareCompare : QString → QString → Ordering}
    {inst : ListedInstallation ν} {sessions : List ModelSession} :
    Repopulates localeAwareCompare inst (located inst) sessions ↔
      Populates localeAwareCompare inst sessions :=
  Iff.rfl

/-- The session of a row. -/
def sessionAt (sessions : List ModelSession) (row : Int) :
    Option ModelSession :=
  if row < 0 then none else sessions[row.toNat]?

/-- The pairs that stand for a session. -/
def choices (sessions : List ModelSession) : List SubmittedSession :=
  sessions.map ModelSession.submitted

end SessionModel

open SessionModel

namespace SessionButton

/-- The bindings of `currentSessionType` and `currentSessionFileName`; nothing
is assigned where the model has no such row. -/
def evaluate (texts : LabelTexts) (sessions : List ModelSession)
    (b : SessionButton) : SessionButton :=
  { b with current := {
      type := match data texts sessions b.currentIndex .type with
        | .number type => type
        | _ => b.current.type
      fileName := match data texts sessions b.currentIndex .fileName with
        | .text fileName => fileName
        | _ => b.current.fileName } }

/-- An assignment to `currentIndex`. -/
def setIndex (texts : LabelTexts) (sessions : List ModelSession) (index : Int)
    (b : SessionButton) : SessionButton :=
  if b.currentIndex = index then b
  else evaluate texts sessions { b with currentIndex := index }

end SessionButton

/-- The session model, the row in `GreeterState` and the buttons of the
screens. -/
structure GreeterSessions where
  sessions : List ModelSession
  sessionIndex : Int
  buttons : List SessionButton := []

/-- What happens at the screens. -/
inductive ChoiceEvent where
  | screenAdded
  | screenRemoved (screen : Nat)
  | triggered (screen row : Nat)
  | loginRequest (screen : Nat)
deriving DecidableEq, Repr

namespace GreeterSessions

/-- The start of the greeter, with the row of `GreeterState`. -/
def start (texts : LabelTexts) (sessions : List ModelSession)
    (preselectedSession lastLoggedInSession : QString) : GreeterSessions :=
  let preselectedSessionIndex :=
    indexOfData texts sessions (.text preselectedSession) .fileName
  let lastLoggedInSessionIndex :=
    indexOfData texts sessions (.text lastLoggedInSession) .fileName
  { sessions := sessions,
    sessionIndex :=
      if preselectedSessionIndex ≠ -1 then preselectedSessionIndex
      else if lastLoggedInSessionIndex ≠ -1 then lastLoggedInSessionIndex
      else 0 }

/-- The button of a new screen. -/
def newButton (texts : LabelTexts) (g : GreeterSessions) : SessionButton :=
  SessionButton.evaluate texts g.sessions { currentIndex := g.sessionIndex }

/-- A row is chosen from the menu of a button.  Its new row becomes that of
`GreeterState`, which the other buttons follow when it changes. -/
def triggered (texts : LabelTexts) (screen row : Nat) (g : GreeterSessions) :
    GreeterSessions :=
  let setIndex := SessionButton.setIndex texts g.sessions row
  match g.buttons[screen]? with
  | none => g
  | some b =>
      if b.currentIndex = row then g
      else if g.sessionIndex = row then
        { g with buttons := g.buttons.modify screen setIndex }
      else { g with sessionIndex := row, buttons := g.buttons.map setIndex }

def answer (texts : LabelTexts) (g : GreeterSessions) :
    ChoiceEvent → GreeterSessions × List SubmittedSession
  | .screenAdded => ({ g with buttons := g.buttons ++ [g.newButton texts] }, [])
  | .screenRemoved screen =>
      ({ g with buttons := g.buttons.eraseIdx screen }, [])
  | .triggered screen row => (g.triggered texts screen row, [])
  | .loginRequest screen =>
      (g, (g.buttons[screen]?.map SessionButton.current).toList)

/-- `populate` for a changed directory: the model is reset, and no button and
no row with it. -/
structure DirectoryChanged {ν : Type}
    (localeAwareCompare : QString → QString → Ordering)
    (inst : ListedInstallation ν) (dirs : SessionDirs)
    (g g' : GreeterSessions) : Prop where
  sessions : Repopulates localeAwareCompare inst dirs g'.sessions
  frame : g' = { g with sessions := g'.sessions }

/-- The session of the row that is selected. -/
def selected (g : GreeterSessions) : Option ModelSession :=
  sessionAt g.sessions g.sessionIndex

/-- Every button has the row of `GreeterState` and submits its session. -/
def Shown (g : GreeterSessions) : Prop :=
  ∀ b ∈ g.buttons, b.currentIndex = g.sessionIndex ∧
    ∀ s ∈ g.selected, b.current = s.submitted

end GreeterSessions

/-- The screens as long as the directories do not change. -/
def choiceMachine (texts : LabelTexts) :
    Machine GreeterSessions ChoiceEvent SubmittedSession where
  enabled _ _ := True
  step := GreeterSessions.answer texts

/-- A choice survives: it is kept if its session is still there, and stands for
a session of the new list otherwise. -/
structure ChoiceSurvives (before : SubmittedSession)
    (sessions : List ModelSession) (after : SubmittedSession) : Prop where
  kept : before ∈ choices sessions → after = before
  replaced : before ∉ choices sessions → sessions ≠ [] →
    after ∈ choices sessions

namespace SessionModel

theorem data_of_sessionAt {texts : LabelTexts} {sessions : List ModelSession}
    {row : Int} {s : ModelSession} (h : sessionAt sessions row = some s) :
    data texts sessions row .type = .number s.type.number ∧
      data texts sessions row .fileName = .text s.fileName := by
  rw [sessionAt, Option.ite_none_left_eq_some] at h
  simp only [data, if_neg h.1, h.2, and_self]

theorem data_of_sessionAt_none {texts : LabelTexts}
    {sessions : List ModelSession} {row : Int}
    (h : sessionAt sessions row = none) (role : Role) :
    data texts sessions row role = .invalid := by
  rw [sessionAt] at h
  rw [data]
  split
  · rfl
  next hrow =>
    rw [if_neg hrow] at h
    rw [h]

theorem mem_of_sessionAt {sessions : List ModelSession} {row : Int}
    {s : ModelSession} (h : sessionAt sessions row = some s) :
    s ∈ sessions := by
  rw [sessionAt, Option.ite_none_left_eq_some] at h
  exact List.mem_of_getElem? h.2

variable {ν : Type} {inst : ListedInstallation ν}

theorem fileName_addSessionPath {dir name : QString} (hname : IsFileName name)
    {paths : List QString} (h : ∀ p ∈ paths, p.fileName ≠ []) :
    ∀ p ∈ addSessionPath dir paths name, p.fileName ≠ [] := by
  have hbare : name.fileName = name := by
    rw [QString.fileName, QString.components,
      List.splitOn_eq_singleton hname.2.2.2]
    rfl
  rw [addSessionPath]
  split
  · exact h
  · intro p hp
    rcases List.mem_append.1 hp with hp | hp
    · exact h p hp
    · rw [List.mem_singleton.1 hp, hbare, absoluteFilePath,
        QString.fileName_append_slash dir hname.2.2.2]
      exact hname.1

/-- Every session that is found has a file name. -/
theorem fileName_of_mem_getSessionsPaths (dirs : List QString) :
    ∀ p ∈ getSessionsPaths inst dirs, p.fileName ≠ [] := by
  refine List.foldlRecOn (motive := fun paths : List QString =>
    ∀ p ∈ paths, p.fileName ≠ []) dirs _
      (fun p hp => absurd hp List.not_mem_nil) fun paths hpaths dir _ => ?_
  exact List.foldlRecOn (motive := fun paths : List QString =>
    ∀ p ∈ paths, p.fileName ≠ []) _ _ hpaths fun paths hpaths name hname =>
      fileName_addSessionPath (mem_entryList_iff.1 hname).1 hpaths

section repopulated

variable {localeAwareCompare : QString → QString → Ordering}
  {dirs : SessionDirs} {sessions : List ModelSession}

theorem Repopulates.mem_choices_iff
    (h : Repopulates localeAwareCompare inst dirs sessions)
    (c : SubmittedSession) :
    c ∈ choices sessions ↔ c ∈ choices (collectedIn inst dirs) :=
  (h.1.map ModelSession.submitted).mem_iff

theorem Repopulates.eq_nil_iff
    (h : Repopulates localeAwareCompare inst dirs sessions) :
    sessions = [] ↔ collectedIn inst dirs = [] := by
  rw [← List.length_eq_zero_iff, h.1.length_eq, List.length_eq_zero_iff]

theorem Repopulates.fileName_ne_nil
    (h : Repopulates localeAwareCompare inst dirs sessions) :
    ∀ c ∈ choices sessions, c.fileName ≠ [] := by
  intro c hc
  obtain ⟨s, hs, rfl⟩ := List.mem_map.1 hc
  rcases List.mem_append.1 (h.1.mem_iff.1 hs) with hs | hs
  · obtain ⟨path, hpath, rfl⟩ := List.mem_map.1 hs
    exact fileName_of_mem_getSessionsPaths dirs.xSessionsDirs path hpath
  · obtain ⟨path, hpath, rfl⟩ := List.mem_map.1 hs
    exact fileName_of_mem_getSessionsPaths dirs.waylandSessionsDirs path hpath

end repopulated

end SessionModel

namespace SessionButton

variable {texts : LabelTexts} {sessions : List ModelSession}
  {b : SessionButton}

theorem evaluate_of_sessionAt {s : ModelSession}
    (h : sessionAt sessions b.currentIndex = some s) :
    (evaluate texts sessions b).current = s.submitted := by
  have hdata := @data_of_sessionAt texts _ _ _ h
  simp only [evaluate, hdata.1, hdata.2, ModelSession.submitted]

theorem evaluate_of_none (h : sessionAt sessions b.currentIndex = none) :
    (evaluate texts sessions b).current = b.current := by
  simp only [evaluate, data_of_sessionAt_none h]

theorem setIndex_currentIndex (index : Int) :
    (setIndex texts sessions index b).currentIndex = index := by
  rw [setIndex]
  split
  next heq => exact heq
  · rfl

end SessionButton

namespace GreeterSessions

variable {texts : LabelTexts} {g : GreeterSessions}

/-- What happens at the screens leaves every button with the selected
session. -/
theorem Shown.answer (h : g.Shown) (e : ChoiceEvent) :
    (g.answer texts e).1.Shown := by
  cases e with
  | screenAdded =>
      intro b hb
      rcases List.mem_append.1 hb with hb | hb
      · exact h b hb
      · rw [List.mem_singleton.1 hb]
        exact ⟨rfl, fun s hs => SessionButton.evaluate_of_sessionAt hs⟩
  | screenRemoved screen =>
      exact fun b hb => h b (List.mem_of_mem_eraseIdx hb)
  | loginRequest screen => exact h
  | triggered screen row =>
      simp only [GreeterSessions.answer, triggered]
      split
      · exact h
      next b hb =>
        obtain ⟨hindex, _⟩ := h b (List.mem_of_getElem? hb)
        split
        · exact h
        next hother =>
          rw [hindex] at hother
          rw [if_neg hother]
          intro b' hb'
          obtain ⟨b, hb, rfl⟩ := List.mem_map.1 hb'
          refine ⟨SessionButton.setIndex_currentIndex _, fun s hs => ?_⟩
          rw [SessionButton.setIndex, (h b hb).1, if_neg hother]
          exact SessionButton.evaluate_of_sessionAt hs

theorem shown_exec (texts : LabelTexts) (sessions : List ModelSession)
    (preselectedSession lastLoggedInSession : QString)
    (es : List ChoiceEvent) :
    ((choiceMachine texts).exec (start texts sessions preselectedSession
      lastLoggedInSession) es).Shown :=
  (choiceMachine texts).exec_invariant (I := Shown) (G := fun _ _ => True)
    (fun _ e h _ => h.answer e) (fun _ hb => absurd hb List.not_mem_nil)
    fun _ _ => trivial

end GreeterSessions

namespace ChoiceSurvives

variable {before after : SubmittedSession} {sessions : List ModelSession}

/-- An unchanged choice survives if and only if its session is still there, or
there is none. -/
theorem self_iff : ChoiceSurvives before sessions before ↔
    before ∈ choices sessions ∨ sessions = [] := by
  constructor
  · intro h
    by_contra hnot
    rw [not_or] at hnot
    exact hnot.1 (h.replaced hnot.1 hnot.2)
  · rintro (hmem | hempty)
    · exact ⟨fun _ => rfl, fun hgone => absurd hmem hgone⟩
    · exact ⟨fun _ => rfl, fun _ hne => absurd hempty hne⟩

/-- The choice that a new button reads survives if and only if the row has not
moved, or, where the session is gone, there still is such a row. -/
theorem newButton_iff {texts : LabelTexts} {g : GreeterSessions}
    (hnames : ∀ c ∈ choices g.sessions, c.fileName ≠ []) :
    ChoiceSurvives before g.sessions (g.newButton texts).current ↔
      if before ∈ choices g.sessions then
        g.selected.map ModelSession.submitted = some before
      else g.sessions = [] ∨ g.selected.isSome = true := by
  cases hselected : g.selected with
  | some s =>
      have hcurrent : (g.newButton texts).current = s.submitted :=
        SessionButton.evaluate_of_sessionAt hselected
      have hmem : s.submitted ∈ choices g.sessions :=
        List.mem_map_of_mem (mem_of_sessionAt hselected)
      rw [hcurrent]
      split
      next hthere =>
        exact ⟨fun h => congrArg some (h.kept hthere), fun h =>
          ⟨fun _ => Option.some.inj h, fun hgone => absurd hthere hgone⟩⟩
      next hgone =>
        exact iff_of_true ⟨fun hthere => absurd hthere hgone, fun _ _ => hmem⟩
          (Or.inr rfl)
  | none =>
      have hcurrent : (g.newButton texts).current = {} :=
        SessionButton.evaluate_of_none hselected
      have hno : ({} : SubmittedSession) ∉ choices g.sessions :=
        fun hmem => hnames _ hmem rfl
      rw [hcurrent]
      split
      next hthere =>
        refine iff_of_false (fun h => ?_) (by simp)
        exact hno (h.kept hthere ▸ hthere)
      next hgone =>
        constructor
        · intro h
          exact Or.inl (by_contra fun hne => hno (h.replaced hgone hne))
        · rintro (hempty | habsurd)
          · exact ⟨fun hthere => absurd hthere hgone,
              fun _ hne => absurd hempty hne⟩
          · cases habsurd

end ChoiceSurvives

/-- When the directories change, the choice survives on the screens there are
if and only if they still hold its session or hold none, and on a screen that
is added then if and only if the row leads to it, or to any session if it is
gone. -/
theorem choice_survives_iff {ν : Type} (texts : LabelTexts)
    {localeAwareCompare : QString → QString → Ordering}
    {inst : ListedInstallation ν} {dirs : SessionDirs}
    (sessions : List ModelSession)
    (preselectedSession lastLoggedInSession : QString) (es : List ChoiceEvent)
    {s : ModelSession} {g' : GreeterSessions}
    (hselected : ((choiceMachine texts).exec (.start texts sessions
      preselectedSession lastLoggedInSession) es).selected = some s)
    (h : GreeterSessions.DirectoryChanged localeAwareCompare inst dirs
      ((choiceMachine texts).exec (.start texts sessions preselectedSession
        lastLoggedInSession) es) g') :
    (∀ b ∈ g'.buttons, ChoiceSurvives s.submitted g'.sessions b.current ↔
        s.submitted ∈ choices (collectedIn inst dirs) ∨
          collectedIn inst dirs = []) ∧
      (ChoiceSurvives s.submitted g'.sessions (g'.newButton texts).current ↔
        if s.submitted ∈ choices g'.sessions then
          g'.selected.map ModelSession.submitted = some s.submitted
        else g'.sessions = [] ∨ g'.selected.isSome = true) := by
  refine ⟨fun b hb => ?_,
    ChoiceSurvives.newButton_iff h.sessions.fileName_ne_nil⟩
  rw [h.frame] at hb
  have hshown := GreeterSessions.shown_exec texts sessions preselectedSession
    lastLoggedInSession es b hb
  rw [hshown.2 s hselected, ChoiceSurvives.self_iff,
    h.sessions.mem_choices_iff, h.sessions.eq_nil_iff]

/-- A machine with the sessions of one desktop. -/
def ListedInstallation.gnome : ListedInstallation SessionsNode :=
  .twoSessions ⟨"gnome.desktop", by decide⟩ (by decide)

/-- The same machine with another one. -/
def ListedInstallation.plasma : ListedInstallation SessionsNode :=
  .twoSessions ⟨"plasma.desktop", by decide⟩ (by decide)

def gnomeSession : ModelSession :=
  ⟨.wayland, "/usr/wayland-sessions/gnome.desktop", "Plasma", []⟩

/-- One screen, with the first session. -/
def oneScreen : GreeterSessions :=
  (choiceMachine .plain).exec (.start .plain (populate compare .gnome) [] [])
    [.screenAdded]

/-- The desktop is replaced by the other. -/
def replacedDesktop : GreeterSessions :=
  { oneScreen with sessions := populate compare .plasma }

theorem directoryChanged_replacedDesktop :
    GreeterSessions.DirectoryChanged compare ListedInstallation.plasma
      (located ListedInstallation.gnome) oneScreen replacedDesktop where
  sessions := by
    have hdirs : located ListedInstallation.gnome =
        located ListedInstallation.plasma := by decide
    rw [hdirs, repopulates_located]
    exact populates_populate
  frame := rfl

theorem choice_survives_iff_replacedDesktop :
    (∀ b ∈ replacedDesktop.buttons,
        ChoiceSurvives gnomeSession.submitted replacedDesktop.sessions
            b.current ↔
          gnomeSession.submitted ∈ choices (collectedIn
              ListedInstallation.plasma (located ListedInstallation.gnome)) ∨
            collectedIn ListedInstallation.plasma
              (located ListedInstallation.gnome) = []) ∧
      (ChoiceSurvives gnomeSession.submitted replacedDesktop.sessions
          (replacedDesktop.newButton .plain).current ↔
        if gnomeSession.submitted ∈ choices replacedDesktop.sessions then
          replacedDesktop.selected.map ModelSession.submitted =
            some gnomeSession.submitted
        else replacedDesktop.sessions = [] ∨
          replacedDesktop.selected.isSome = true) :=
  choice_survives_iff .plain (populate compare .gnome) [] [] [.screenAdded]
    (by decide) directoryChanged_replacedDesktop

/-- The button goes on submitting a session that is gone. -/
theorem choice_not_survives :
    ¬ ∀ (ν : Type) (texts : LabelTexts)
      (localeAwareCompare : QString → QString → Ordering)
      (inst inst' : ListedInstallation ν) (sessions : List ModelSession)
      (preselectedSession lastLoggedInSession : QString)
      (es : List ChoiceEvent) (s : ModelSession) (g' : GreeterSessions),
        Std.TransCmp localeAwareCompare →
          Populates localeAwareCompare inst sessions →
            ((choiceMachine texts).exec (.start texts sessions
                preselectedSession lastLoggedInSession) es).selected =
              some s →
            GreeterSessions.DirectoryChanged localeAwareCompare inst'
                (located inst) ((choiceMachine texts).exec (.start texts
                  sessions preselectedSession lastLoggedInSession) es) g' →
              ∀ b ∈ g'.buttons,
                ChoiceSurvives s.submitted g'.sessions b.current := by
  intro hall
  have hsurvives := hall SessionsNode .plain compare .gnome .plasma
    (populate compare .gnome) [] [] [.screenAdded] gnomeSession _ inferInstance
    populates_populate (by decide) directoryChanged_replacedDesktop
    ⟨0, ⟨1, "gnome.desktop"⟩⟩ (by decide)
  exact absurd (hsurvives.replaced (by decide) (by decide)) (by decide)

end PlasmaLogin

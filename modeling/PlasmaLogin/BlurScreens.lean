/-
The greeter's `BlurScreenBridge` and the wallpaper process: calls of
`blurScreen` on their way over the session bus, while greeter windows move,
screens come and go and the wallpaper process is started and exits.
-/
import PlasmaLogin.Inflight
import PlasmaLogin.Mealy
import PlasmaLogin.QString

namespace PlasmaLogin

open Inflight Mealy

structure QScreen where
  id : Nat
  name : QString
deriving DecidableEq

structure WallpaperWindow where
  screen : QScreen
  m_blur : Bool := false
deriving DecidableEq

/-- The process that has the bus name, and the calls it has yet to handle. -/
structure WallpaperApp where
  windows : List WallpaperWindow
  calls : List QString := []
deriving DecidableEq

/-- `screen` has the name of the screen of each greeter window that is on one;
`bus` the calls the bus has yet to pass on, and `registrations` the times it
has said that the name got an owner which the bridge has yet to hear of. -/
structure BlurScreens where
  m_activeWindow : Option Nat := none
  screen : Nat → Option QString
  bus : List QString := []
  registrations : Nat := 0
  wallpaper : Option WallpaperApp := none

inductive BlurEvent where
  | setActiveWindow (activeWindow : Option Nat)
  | windowMoved (window : Nat) (screen : Option QString)
  | windowDestroyed (window : Nat)
  | serviceRegistered
  | callRouted
  | blurScreen
  | wallpaperStarted (screens : List QScreen)
  | wallpaperExited
  | screenAdded (screen : QScreen)
  | screenRemoved (screen : QScreen)
deriving DecidableEq

namespace WallpaperApp

/-- The window `WallpaperApp::createWindowForScreen` makes. -/
def createWindowForScreen (screen : QScreen) : WallpaperWindow where
  screen := screen

/-- `WallpaperApp::blurScreen`. -/
def blurScreen (screenName : QString) (windows : List WallpaperWindow) :
    List WallpaperWindow :=
  windows.map fun window =>
    { window with m_blur := decide (window.screen.name = screenName) }

/-- The windows that are left when a screen has gone. -/
def screenRemoved (screen : QScreen) (windows : List WallpaperWindow) :
    List WallpaperWindow :=
  windows.filter fun window => window.screen ≠ screen

end WallpaperApp

namespace BlurScreens

/-- The name `BlurScreenBridge::notifyBlurScreenChange` passes on. -/
def screenName (s : BlurScreens) : QString :=
  (s.m_activeWindow.bind s.screen).getD ""

/-- `BlurScreenBridge::notifyBlurScreenChange`. -/
def notifyBlurScreenChange (s : BlurScreens) : BlurScreens × List QString :=
  ({ s with bus := s.bus ++ [s.screenName] }, [s.screenName])

/-- `BlurScreenBridge::setActiveWindow`. -/
def setActiveWindow (activeWindow : Option Nat) (s : BlurScreens) :
    BlurScreens × List QString :=
  if s.m_activeWindow = activeWindow then (s, [])
  else { s with m_activeWindow := activeWindow }.notifyBlurScreenChange

/-- `m_activeWindow` is a `QPointer`, and nobody is told that it is cleared. -/
def windowDestroyed (window : Nat) (s : BlurScreens) : BlurScreens where
  m_activeWindow := if s.m_activeWindow = some window then none
    else s.m_activeWindow
  screen := Function.update s.screen window none
  bus := s.bus
  registrations := s.registrations
  wallpaper := s.wallpaper

def serviceRegistered (s : BlurScreens) : BlurScreens × List QString :=
  match s.registrations with
  | 0 => (s, [])
  | n + 1 => { s with registrations := n }.notifyBlurScreenChange

/-- The bus passes the oldest call on to the owner of the name; a call that
finds none is lost. -/
def callRouted (s : BlurScreens) : BlurScreens :=
  match s.bus with
  | [] => s
  | call :: bus =>
      { s with
        bus := bus
        wallpaper := s.wallpaper.map fun app =>
          { app with calls := app.calls ++ [call] } }

def blurScreen (s : BlurScreens) : BlurScreens :=
  { s with
    wallpaper := s.wallpaper.map fun app =>
      match app.calls with
      | [] => app
      | screenName :: calls =>
          ⟨WallpaperApp.blurScreen screenName app.windows, calls⟩ }

/-- `WallpaperApp::WallpaperApp`: the windows are there before the name is
registered; a second process does not get the name. -/
def wallpaperStarted (screens : List QScreen) (s : BlurScreens) :
    BlurScreens :=
  match s.wallpaper with
  | some _ => s
  | none =>
      { s with
        registrations := s.registrations + 1
        wallpaper := some
          { windows := screens.map WallpaperApp.createWindowForScreen } }

def onWindows (f : List WallpaperWindow → List WallpaperWindow)
    (s : BlurScreens) : BlurScreens :=
  { s with
    wallpaper := s.wallpaper.map fun app =>
      { app with windows := f app.windows } }

def step (s : BlurScreens) : BlurEvent → BlurScreens × List QString
  | .setActiveWindow activeWindow => s.setActiveWindow activeWindow
  | .windowMoved window screen =>
      ({ s with screen := Function.update s.screen window screen }, [])
  | .windowDestroyed window => (s.windowDestroyed window, [])
  | .serviceRegistered => s.serviceRegistered
  | .callRouted => (s.callRouted, [])
  | .blurScreen => (s.blurScreen, [])
  | .wallpaperStarted screens => (s.wallpaperStarted screens, [])
  | .wallpaperExited => ({ s with wallpaper := none }, [])
  | .screenAdded screen =>
      (s.onWindows fun windows =>
        windows ++ [WallpaperApp.createWindowForScreen screen], [])
  | .screenRemoved screen =>
      (s.onWindows (WallpaperApp.screenRemoved screen), [])

/-- The calls the bridge makes are what is put out. -/
def blurMachine : Machine BlurScreens BlurEvent QString where
  enabled _ _ := True
  step := step

/-- The greeter has just been started: nothing is blurred, and no window is
active. -/
structure Fresh (s : BlurScreens) : Prop where
  activeWindow : s.m_activeWindow = none
  bus : s.bus = []
  registrations : s.registrations = 0
  wallpaper : ∀ app ∈ s.wallpaper, app.calls = [] ∧
    ∀ window ∈ app.windows, window.m_blur = false

/-- Nothing is on its way, in either direction. -/
structure Settled (s : BlurScreens) : Prop where
  bus : s.bus = []
  registrations : s.registrations = 0
  wallpaper : ∀ app ∈ s.wallpaper, app.calls = []

/-- The events the bridge hears of, or that make no difference to it: the
active window neither moves nor goes unnoticed, and no running wallpaper
process gets another screen with the name of the active one's. -/
def Noticed (s : BlurScreens) : BlurEvent → Prop
  | .windowMoved window _ => s.m_activeWindow ≠ some window
  | .windowDestroyed window => s.m_activeWindow ≠ some window
  | .screenAdded screen =>
      s.wallpaper.isSome = true → screen.name ≠ s.screenName
  | .setActiveWindow _ | .serviceRegistered | .callRouted | .blurScreen
  | .wallpaperStarted _ | .wallpaperExited | .screenRemoved _ => True

instance (s : BlurScreens) (e : BlurEvent) : Decidable (s.Noticed e) :=
  match e with
  | .windowMoved window _ | .windowDestroyed window =>
      inferInstanceAs (Decidable (s.m_activeWindow ≠ some window))
  | .screenAdded screen =>
      inferInstanceAs (Decidable
        (s.wallpaper.isSome = true → screen.name ≠ s.screenName))
  | .setActiveWindow _ | .serviceRegistered | .callRouted | .blurScreen
  | .wallpaperStarted _ | .wallpaperExited | .screenRemoved _ => .isTrue trivial

/-- Every window is blurred as its screen's name and the last call say, up to
`R`. -/
def Shows (R : Bool → Bool → Prop) (windows : List WallpaperWindow)
    (sent : Option QString) : Prop :=
  ∀ window ∈ windows,
    R window.m_blur (decide (sent = some window.screen.name))

/-- The wallpaper process shows the last call, or will when it has handled
those on their way, or the bridge is about to hear of it. -/
def Mirrors (R : Bool → Bool → Prop) (sent : Option QString)
    (s : BlurScreens) : Prop :=
  ∀ app ∈ s.wallpaper, s.registrations = 0 →
    Latest (Shows R) app.windows (app.calls ++ s.bus) sent

section mirrors

variable {R : Bool → Bool → Prop} {sent : Option QString} {s : BlurScreens}

theorem shows_blurScreen (hR : ∀ b, R b b) (screenName : QString)
    (windows : List WallpaperWindow) :
    Shows R (WallpaperApp.blurScreen screenName windows) (some screenName) := by
  intro window hwindow
  obtain ⟨before, _, rfl⟩ := List.mem_map.1 hwindow
  simp only [Option.some.injEq, eq_comm (a := screenName)]
  exact hR _

theorem Shows.screenRemoved {windows : List WallpaperWindow}
    (h : Shows R windows sent) (screen : QScreen) :
    Shows R (WallpaperApp.screenRemoved screen windows) sent :=
  fun window hwindow => h window (List.mem_filter.1 hwindow).1

theorem Shows.createWindowForScreen {windows : List WallpaperWindow}
    (h : Shows R windows sent) {screen : QScreen}
    (hscreen : R false (decide (sent = some screen.name))) :
    Shows R (windows ++ [WallpaperApp.createWindowForScreen screen]) sent := by
  intro window hwindow
  rcases List.mem_append.1 hwindow with hold | hnew
  · exact h window hold
  · obtain rfl := List.mem_singleton.1 hnew
    exact hscreen

/-- Whatever was on its way before, a new call comes after it. -/
theorem mirrors_notifyBlurScreenChange :
    Mirrors R (some s.screenName) s.notifyBlurScreenChange.1 := by
  intro app _ _
  simp only [notifyBlurScreenChange, ← List.append_assoc]
  exact latest_concat

theorem Mirrors.callRouted (h : Mirrors R sent s) :
    Mirrors R sent s.callRouted := by
  unfold BlurScreens.callRouted
  split
  next => exact h
  next call bus hbus =>
    rintro app happ hregistrations
    obtain ⟨app, hbefore, rfl⟩ := Option.map_eq_some_iff.1 happ
    have hlatest := h app hbefore hregistrations
    rw [hbus] at hlatest
    rw [List.append_assoc]
    exact hlatest

theorem Mirrors.blurScreen (h : Mirrors R sent s) (hR : ∀ b, R b b) :
    Mirrors R sent s.blurScreen := by
  rintro app happ hregistrations
  obtain ⟨app, hbefore, rfl⟩ := Option.map_eq_some_iff.1 happ
  have hlatest := h app hbefore hregistrations
  cases hcalls : app.calls with
  | nil =>
      simp only
      exact hlatest
  | cons screenName calls =>
      rw [hcalls] at hlatest
      exact hlatest.deliver (shows_blurScreen hR screenName app.windows)

theorem Mirrors.onWindows (h : Mirrors R sent s)
    {f : List WallpaperWindow → List WallpaperWindow}
    (hf : ∀ app ∈ s.wallpaper, Shows R app.windows sent →
      Shows R (f app.windows) sent) :
    Mirrors R sent (s.onWindows f) := by
  rintro app happ hregistrations
  obtain ⟨app, hbefore, rfl⟩ := Option.map_eq_some_iff.1 happ
  exact (h app hbefore hregistrations).imp (hf app hbefore)

/-- What the last call is after a step. -/
theorem Mirrors.step (h : Mirrors R sent s) (hR : ∀ b, R b b) (e : BlurEvent)
    (hadded : ∀ screen, e = .screenAdded screen → s.wallpaper.isSome = true →
      R false (decide (sent = some screen.name))) :
    Mirrors R ((s.step e).2.getLast?.or sent) (s.step e).1 := by
  cases e with
  | setActiveWindow activeWindow =>
      simp only [BlurScreens.step, setActiveWindow]
      split
      · exact h
      · exact mirrors_notifyBlurScreenChange
  | windowMoved window screen => exact h
  | windowDestroyed window => exact h
  | serviceRegistered =>
      simp only [BlurScreens.step, serviceRegistered]
      split
      · exact h
      · exact mirrors_notifyBlurScreenChange
  | callRouted => exact h.callRouted
  | blurScreen => exact h.blurScreen hR
  | wallpaperStarted screens =>
      simp only [BlurScreens.step, wallpaperStarted]
      split
      · exact h
      · exact fun _ _ hregistrations => absurd hregistrations (by simp)
  | wallpaperExited => exact fun _ happ => absurd happ (by simp [BlurScreens.step])
  | screenAdded screen =>
      exact h.onWindows fun app happ hshows =>
        hshows.createWindowForScreen (hadded screen rfl (by
          rw [Option.mem_def.1 happ]
          rfl))
  | screenRemoved screen =>
      exact h.onWindows fun _ _ hshows => hshows.screenRemoved screen

theorem Fresh.mirrors (h : s.Fresh) (hR : ∀ b, R b b) : Mirrors R none s := by
  intro app happ _
  obtain ⟨hcalls, hwindows⟩ := h.wallpaper app happ
  rw [hcalls, h.bus, List.append_nil, latest_nil]
  intro window hwindow
  rw [hwindows window hwindow]
  exact hR false

theorem Settled.shows (h : s.Settled) (hmirrors : Mirrors R sent s)
    {app : WallpaperApp} (happ : s.wallpaper = some app) :
    Shows R app.windows sent := by
  have hlatest := hmirrors app happ h.registrations
  rw [h.wallpaper app happ, h.bus, List.append_nil, latest_nil] at hlatest
  exact hlatest

end mirrors

/-- The call the bridge has made last. -/
def lastCall (s : BlurScreens) (es : List BlurEvent) : Option QString :=
  (blurMachine.outputs s es).getLast?

theorem lastCall_concat (s : BlurScreens) (es : List BlurEvent)
    (e : BlurEvent) :
    lastCall s (es ++ [e]) =
      ((blurMachine.exec s es).step e).2.getLast?.or (lastCall s es) := by
  rw [lastCall, blurMachine.outputs_concat, List.getLast?_append]
  rfl

section runs

variable {s : BlurScreens} {es : List BlurEvent}

/-- A window that is blurred is so for the last call, in every run. -/
theorem Fresh.mirrors_le (h : s.Fresh) :
    Mirrors (· ≤ ·) (lastCall s es) (blurMachine.exec s es) := by
  induction es using List.reverseRecOn with
  | nil => exact h.mirrors le_refl
  | append_singleton es e ih =>
      rw [lastCall_concat, blurMachine.exec_concat]
      exact ih.step le_refl e fun _ _ _ => Bool.false_le _

/-- The last call had the name that a call would have now. -/
def UpToDate (sent : Option QString) (s : BlurScreens) : Prop :=
  sent.getD "" = s.screenName

/-- What happens to another window is nothing to the active one. -/
theorem bind_update_screen {window : Nat} (h : s.m_activeWindow ≠ some window)
    (screen : Option QString) :
    s.m_activeWindow.bind (Function.update s.screen window screen) =
      s.m_activeWindow.bind s.screen := by
  cases hactive : s.m_activeWindow with
  | none => rfl
  | some w =>
      have hne : w ≠ window := fun heq => h (by rw [hactive, heq])
      rw [Option.bind_some, Option.bind_some, Function.update_of_ne hne]

theorem screenName_windowDestroyed {window : Nat}
    (h : s.m_activeWindow ≠ some window) :
    (s.windowDestroyed window).screenName = s.screenName := by
  rw [screenName, windowDestroyed, if_neg h, bind_update_screen h, screenName]

theorem UpToDate.step {sent : Option QString} (h : UpToDate sent s)
    {e : BlurEvent} (he : s.Noticed e) :
    UpToDate ((s.step e).2.getLast?.or sent) (s.step e).1 := by
  cases e with
  | setActiveWindow activeWindow =>
      simp only [BlurScreens.step, setActiveWindow]
      split
      · exact h
      · rfl
  | windowMoved window screen =>
      have hsame := bind_update_screen he screen
      rw [UpToDate, screenName] at h ⊢
      exact h.trans (congrArg (·.getD "") hsame.symm)
  | windowDestroyed window =>
      exact Eq.trans h (screenName_windowDestroyed he).symm
  | serviceRegistered =>
      simp only [BlurScreens.step, serviceRegistered]
      split
      · exact h
      · rfl
  | callRouted =>
      simp only [BlurScreens.step, callRouted]
      split <;> exact h
  | blurScreen => exact h
  | wallpaperStarted screens =>
      simp only [BlurScreens.step, wallpaperStarted]
      split <;> exact h
  | wallpaperExited => exact h
  | screenAdded screen => exact h
  | screenRemoved screen => exact h

theorem Fresh.upToDate (h : s.Fresh) : UpToDate none s := by
  rw [UpToDate, screenName, h.activeWindow]
  rfl

/-- As long as nothing goes unnoticed, the last call says which windows are
blurred, and it has the right name. -/
theorem Fresh.mirrors_eq (h : s.Fresh) (hes : blurMachine.Guarded Noticed s es) :
    Mirrors (· = ·) (lastCall s es) (blurMachine.exec s es) ∧
      UpToDate (lastCall s es) (blurMachine.exec s es) := by
  induction es using List.reverseRecOn with
  | nil => exact ⟨h.mirrors fun _ => rfl, h.upToDate⟩
  | append_singleton es e ih =>
      rw [blurMachine.guarded_concat] at hes
      obtain ⟨hmirrors, hupToDate⟩ := ih hes.1
      rw [lastCall_concat, blurMachine.exec_concat]
      refine ⟨hmirrors.step (fun _ => rfl) e ?_, hupToDate.step hes.2⟩
      rintro screen rfl happ
      have hname := hes.2 happ
      rw [eq_comm, decide_eq_false_iff_not]
      intro hsent
      rw [UpToDate, hsent] at hupToDate
      exact hname hupToDate

end runs

/-- What is on its way, each with the steps it still takes. -/
def pending (s : BlurScreens) : Nat :=
  3 * s.registrations + 2 * s.bus.length +
    (s.wallpaper.map fun app => app.calls.length).getD 0

/-- The steps that bring what is on its way one step further. -/
def deliveries : List BlurEvent := [.serviceRegistered, .callRouted, .blurScreen]

theorem settled_of_pending {s : BlurScreens} (h : s.pending = 0) :
    s.Settled := by
  rw [pending, Nat.add_eq_zero_iff, Nat.add_eq_zero_iff] at h
  refine ⟨List.length_eq_zero_iff.1 (by omega), by omega, fun app happ => ?_⟩
  rw [Option.mem_def.1 happ] at h
  exact List.length_eq_zero_iff.1 h.2

theorem noticed_of_mem_deliveries {s : BlurScreens} {e : BlurEvent}
    (he : e ∈ deliveries) : s.Noticed e := by
  simp only [deliveries, List.mem_cons, List.not_mem_nil, or_false] at he
  rcases he with rfl | rfl | rfl <;> trivial

/-- There is always a delivery left to make until all is settled. -/
theorem exists_delivery {s : BlurScreens} (h : ¬ s.Settled) :
    ∃ e ∈ deliveries, (s.step e).1.pending < s.pending := by
  rcases hregistrations : s.registrations with - | n
  · rcases hbus : s.bus with - | ⟨call, bus⟩
    · rcases happ : s.wallpaper with - | ⟨windows, - | ⟨screenName, calls⟩⟩
      · refine absurd (settled_of_pending ?_) h
        simp [pending, hregistrations, hbus, happ]
      · refine absurd (settled_of_pending ?_) h
        simp [pending, hregistrations, hbus, happ]
      · refine ⟨.blurScreen, by simp [deliveries], ?_⟩
        simp [step, blurScreen, pending, hregistrations, hbus, happ]
    · refine ⟨.callRouted, by simp [deliveries], ?_⟩
      simp only [step, callRouted, pending, hregistrations, hbus]
      cases s.wallpaper with
      | none => simp
      | some app =>
          simp only [Option.map_some, Option.getD_some, List.length_append,
            List.length_cons, List.length_nil]
          omega
  · refine ⟨.serviceRegistered, by simp [deliveries], ?_⟩
    simp only [step, serviceRegistered, hregistrations, notifyBlurScreenChange,
      pending, List.length_append, List.length_cons, List.length_nil]
    omega

/-- The calls arrive, whatever the state, when the deliveries go on. -/
theorem settles (s : BlurScreens) : ∃ es : List BlurEvent,
    blurMachine.Guarded Noticed s es ∧ (∀ e ∈ es, e ∈ deliveries) ∧
      (blurMachine.exec s es).Settled := by
  induction hn : s.pending using Nat.strong_induction_on generalizing s with
  | h n ih =>
      by_cases hs : s.Settled
      · exact ⟨[], blurMachine.guarded_nil Noticed s, by simp, hs⟩
      · obtain ⟨e, he, hless⟩ := exists_delivery hs
        obtain ⟨es, hnoticed, hes, hsettled⟩ := ih _ (hn ▸ hless) _ rfl
        exact ⟨e :: es, (blurMachine.guarded_cons Noticed s e es).2
          ⟨noticed_of_mem_deliveries he, hnoticed⟩,
          List.forall_mem_cons.2 ⟨he, hes⟩, hsettled⟩

end BlurScreens

/-- When the calls have arrived, a window is blurred only if the bridge's last
call had its screen's name; and if nothing went unnoticed, exactly the windows
on a screen with the name of the active window's are blurred. -/
theorem settled_blur {s : BlurScreens} {es : List BlurEvent} (hs : s.Fresh)
    (hsettled : (BlurScreens.blurMachine.exec s es).Settled)
    {app : WallpaperApp}
    (happ : (BlurScreens.blurMachine.exec s es).wallpaper = some app)
    {window : WallpaperWindow} (hwindow : window ∈ app.windows) :
    (window.m_blur = true →
        BlurScreens.lastCall s es = some window.screen.name) ∧
      (BlurScreens.blurMachine.Guarded BlurScreens.Noticed s es →
        (window.m_blur = true ↔ BlurScreens.lastCall s es ≠ none ∧
          (BlurScreens.blurMachine.exec s es).screenName =
            window.screen.name)) := by
  constructor
  · intro hblur
    have hshows := hsettled.shows hs.mirrors_le happ window hwindow
    exact of_decide_eq_true (Bool.eq_true_of_true_le (hblur ▸ hshows))
  · intro hes
    obtain ⟨hmirrors, hupToDate⟩ := hs.mirrors_eq hes
    have hshows := hsettled.shows hmirrors happ window hwindow
    rw [hshows, decide_eq_true_iff, ← hupToDate]
    cases BlurScreens.lastCall s es with
    | none => simp
    | some name => simp

/-- A greeter window on each of two screens. -/
def BlurScreens.twoWindows : BlurScreens where
  screen window := if window = 1 then some "DP-1" else some "HDMI-1"

/-- The wallpaper process starts, and the first window becomes active before
the bridge hears of it. -/
def BlurScreens.firstActive : List BlurEvent :=
  [.wallpaperStarted [⟨0, "DP-1"⟩, ⟨1, "HDMI-1"⟩], .setActiveWindow (some 1),
    .callRouted, .serviceRegistered, .blurScreen, .callRouted, .blurScreen]

theorem settled_blur_firstActive :
    BlurScreens.lastCall BlurScreens.twoWindows BlurScreens.firstActive =
        some "DP-1" ∧
      (BlurScreens.blurMachine.exec BlurScreens.twoWindows
        BlurScreens.firstActive).screenName = "DP-1" := by
  have hwindow : (⟨⟨0, "DP-1"⟩, true⟩ : WallpaperWindow) ∈
      [(⟨⟨0, "DP-1"⟩, true⟩ : WallpaperWindow), ⟨⟨1, "HDMI-1"⟩, false⟩] :=
    List.mem_cons_self
  have hblur := settled_blur (s := BlurScreens.twoWindows)
    ⟨rfl, rfl, rfl, nofun⟩ ⟨rfl, rfl, by decide⟩
    (rfl : (BlurScreens.blurMachine.exec BlurScreens.twoWindows
      BlurScreens.firstActive).wallpaper = some ⟨_, []⟩) hwindow
  exact ⟨hblur.1 rfl, ((hblur.2 (by decide)).1 rfl).2⟩

end PlasmaLogin

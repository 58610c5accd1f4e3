/-
`GreeterEventFilter`: key filters that are attached to one window at a time,
while the windows of the greeter come and go.
-/
import PlasmaLogin.Mealy
import Mathlib.Data.List.Nodup
import Mathlib.Logic.Function.Basic

namespace PlasmaLogin

open Mealy

/-- `Qt::Key_Escape`. -/
def Key_Escape : Nat := 0x01000000

/-- A `QEvent` for a window. -/
inductive WindowEvent where
  | keyPress (key : Nat)
  | other
deriving DecidableEq

/-- The signals of a filter, and what it does to the screens. -/
inductive FilterSignal where
  | windowChanged (filter : Nat)
  | keyPressed (filter : Nat)
  | escapeKeyPressed (filter : Nat)
  | screensOff
deriving DecidableEq

/-- Any number of filters and windows; a window that is there has its list of
event filters, the one installed last at its head. -/
structure WindowFilters where
  m_window : Nat → Option Nat := fun _ => none
  windows : Nat → Option (List Nat) := fun _ => none

inductive FilterEvent where
  | windowCreated (w : Nat)
  | windowDestroyed (w : Nat)
  | setWindow (filter : Nat) (window : Option Nat)
  | sendEvent (w : Nat) (event : WindowEvent) (dpmsSupported : Bool)
deriving DecidableEq

namespace WindowFilters

/-- `GreeterEventFilter::window`. -/
def window (s : WindowFilters) (filter : Nat) : Option Nat := s.m_window filter

/-- `QObject::removeEventFilter`. -/
def removeEventFilter (w filter : Nat) (s : WindowFilters) : WindowFilters :=
  { s with
    windows := Function.update s.windows w
      ((s.windows w).map fun filters => filters.filter fun g => g ≠ filter) }

/-- `QObject::installEventFilter`; a filter already installed moves to the
front. -/
def installEventFilter (w filter : Nat) (s : WindowFilters) : WindowFilters :=
  { s with
    windows := Function.update s.windows w
      ((s.windows w).map fun filters =>
        filter :: filters.filter fun g => g ≠ filter) }

/-- `GreeterEventFilter::setWindow`. -/
def setWindow (filter : Nat) (window : Option Nat) (s : WindowFilters) :
    WindowFilters × List FilterSignal :=
  if s.m_window filter = window then (s, [])
  else
    let removed := match s.m_window filter with
      | some w => s.removeEventFilter w filter
      | none => s
    let assigned :=
      { removed with m_window := Function.update removed.m_window filter window }
    let installed := match window with
      | some w => assigned.installEventFilter w filter
      | none => assigned
    (installed, [.windowChanged filter])

/-- `GreeterEventFilter::eventFilter`; `true` keeps the event from the filters
behind and from the window. -/
def eventFilter (dpmsSupported : Bool) (filter : Nat) :
    WindowEvent → Bool × List FilterSignal
  | .keyPress key =>
      if key = Key_Escape then
        (true, (if dpmsSupported then [.screensOff] else []) ++
          [.escapeKeyPressed filter])
      else (false, [.keyPressed filter])
  | .other => (false, [])

/-- An event on its way through the filters of its window. -/
def sendThroughFilters (dpmsSupported : Bool) (event : WindowEvent) :
    List Nat → List FilterSignal
  | [] => []
  | filter :: rest =>
      let r := eventFilter dpmsSupported filter event
      r.2 ++ if r.1 then [] else sendThroughFilters dpmsSupported event rest

/-- The end of a window: nothing points to it any more. -/
def destroy (w : Nat) (s : WindowFilters) : WindowFilters where
  m_window filter := if s.m_window filter = some w then none
    else s.m_window filter
  windows := Function.update s.windows w none

def step (s : WindowFilters) :
    FilterEvent → WindowFilters × List FilterSignal
  | .windowCreated w =>
      ({ s with windows := Function.update s.windows w (some []) }, [])
  | .windowDestroyed w => (s.destroy w, [])
  | .setWindow filter window => s.setWindow filter window
  | .sendEvent w event dpmsSupported =>
      (s, sendThroughFilters dpmsSupported event ((s.windows w).getD []))

/-- Only a window that is there is assigned, destroyed or sent events to. -/
def Enabled (s : WindowFilters) : FilterEvent → Prop
  | .windowCreated w => s.windows w = none
  | .windowDestroyed w => (s.windows w).isSome
  | .setWindow _ window => ∀ w ∈ window, (s.windows w).isSome
  | .sendEvent w _ _ => (s.windows w).isSome

instance (s : WindowFilters) (e : FilterEvent) : Decidable (s.Enabled e) :=
  match e with
  | .windowCreated w => inferInstanceAs (Decidable (s.windows w = none))
  | .windowDestroyed w => inferInstanceAs (Decidable ((s.windows w).isSome))
  | .setWindow _ none => .isTrue nofun
  | .setWindow _ (some w) =>
      decidable_of_iff ((s.windows w).isSome) (by simp [Enabled])
  | .sendEvent w _ _ => inferInstanceAs (Decidable ((s.windows w).isSome))

def windowFilters : Machine WindowFilters FilterEvent FilterSignal where
  enabled := Enabled
  step := step

instance (s : WindowFilters) (es : List FilterEvent) :
    Decidable (windowFilters.Runs s es) :=
  inferInstanceAs (Decidable (windowFilters.Guarded Enabled s es))

end WindowFilters

/-- The window a filter is attached to by the events so far: the one it was
given last, as long as that has not been destroyed. -/
def attach (filter : Nat) (attached : Option Nat) : FilterEvent → Option Nat
  | .setWindow g window => if g = filter then window else attached
  | .windowDestroyed w => if attached = some w then none else attached
  | .windowCreated _ | .sendEvent _ _ _ => attached

def attachedTo (filter : Nat) (es : List FilterEvent) : Option Nat :=
  es.foldl (attach filter) none

namespace WindowFilters

variable {s : WindowFilters} {filter : Nat} {window : Option Nat}

theorem setWindow_m_window (s : WindowFilters) (filter : Nat)
    (window : Option Nat) :
    (s.setWindow filter window).1.m_window =
      Function.update s.m_window filter window := by
  by_cases hsame : s.m_window filter = window
  · rw [setWindow, if_pos hsame, ← hsame, Function.update_eq_self]
  · rw [setWindow, if_neg hsame]
    cases s.m_window filter <;> cases window <;> rfl

theorem removeEventFilter_windows (w filter : Nat) (s : WindowFilters)
    (v : Nat) :
    (s.removeEventFilter w filter).windows v =
      (s.windows v).map fun filters =>
        if w = v then filters.filter fun g => g ≠ filter else filters := by
  by_cases hv : v = w
  · subst hv
    simp [removeEventFilter]
  · simp [removeEventFilter, Function.update_of_ne hv, Ne.symm hv]

theorem installEventFilter_windows (w filter : Nat) (s : WindowFilters)
    (v : Nat) :
    (s.installEventFilter w filter).windows v =
      (s.windows v).map fun filters =>
        if w = v then filter :: filters.filter fun g => g ≠ filter
        else filters := by
  by_cases hv : v = w
  · subst hv
    simp [installEventFilter]
  · simp [installEventFilter, Function.update_of_ne hv, Ne.symm hv]

/-- What an assignment that is not the same makes of the filters of each
window. -/
theorem setWindow_windows (hother : s.m_window filter ≠ window) (w : Nat) :
    (s.setWindow filter window).1.windows w =
      (s.windows w).map fun filters =>
        if window = some w then filter :: filters.filter fun g => g ≠ filter
        else if s.m_window filter = some w then
          filters.filter fun g => g ≠ filter
        else filters := by
  rw [setWindow, if_neg hother]
  cases hold : s.m_window filter with
  | none =>
      cases window with
      | none => simp
      | some new => simp [installEventFilter_windows]
  | some old =>
      rw [hold] at hother
      cases window with
      | none => simp [removeEventFilter_windows]
      | some new =>
          have hne : old ≠ new := fun h => hother (congrArg some h)
          simp only [installEventFilter_windows, removeEventFilter_windows,
            Option.map_map, Option.some.injEq]
          congr 1
          funext filters
          rw [Function.comp_apply]
          -- the two windows are different ones
          by_cases hnew : new = w
          · subst hnew
            simp [hne]
          · simp [hnew]

/-- The filters installed on the windows mirror the pointers of the filters:
each is installed once, on the window it points to, and that is there. -/
structure Mirrors (s : WindowFilters) : Prop where
  nodup : ∀ w filters, s.windows w = some filters → filters.Nodup
  mem_iff : ∀ w filters, s.windows w = some filters →
    ∀ f, f ∈ filters ↔ s.m_window f = some w
  alive : ∀ f w, s.m_window f = some w → (s.windows w).isSome

theorem mirrors_start : Mirrors {} where
  nodup _ _ h := by cases h
  mem_iff _ _ h := by cases h
  alive _ _ h := by cases h

theorem Mirrors.created (h : s.Mirrors) {w : Nat} (hnew : s.windows w = none) :
    (s.step (.windowCreated w)).1.Mirrors where
  nodup v filters hv := by
    by_cases hvw : v = w
    · subst hvw
      simp only [step, Function.update_self, Option.some.injEq] at hv
      exact hv ▸ List.nodup_nil
    · simp only [step, Function.update_of_ne hvw] at hv
      exact h.nodup v filters hv
  mem_iff v filters hv f := by
    by_cases hvw : v = w
    · subst hvw
      simp only [step, Function.update_self, Option.some.injEq] at hv
      subst hv
      have hnone : s.m_window f ≠ some v := by
        intro hpoints
        have hthere := h.alive f v hpoints
        rw [hnew] at hthere
        cases hthere
      simpa [step] using hnone
    · simp only [step, Function.update_of_ne hvw] at hv
      exact h.mem_iff v filters hv f
  alive f v hv := by
    by_cases hvw : v = w
    · subst hvw
      simp [step]
    · simp only [step, Function.update_of_ne hvw] at hv ⊢
      exact h.alive f v hv

theorem Mirrors.destroy (h : s.Mirrors) (w : Nat) : (s.destroy w).Mirrors where
  nodup v filters hv := by
    obtain ⟨hvw, hold⟩ : v ≠ w ∧ s.windows v = some filters := by
      by_cases hvw : v = w
      · simp [WindowFilters.destroy, hvw] at hv
      · exact ⟨hvw, by simpa [WindowFilters.destroy, hvw] using hv⟩
    exact h.nodup v filters hold
  mem_iff v filters hv f := by
    obtain ⟨hvw, hold⟩ : v ≠ w ∧ s.windows v = some filters := by
      by_cases hvw : v = w
      · simp [WindowFilters.destroy, hvw] at hv
      · exact ⟨hvw, by simpa [WindowFilters.destroy, hvw] using hv⟩
    rw [h.mem_iff v filters hold f]
    simp only [WindowFilters.destroy]
    by_cases hpoints : s.m_window f = some w
    · simp [hpoints, Ne.symm hvw]
    · simp [hpoints]
  alive f v hv := by
    simp only [WindowFilters.destroy, Option.ite_none_left_eq_some] at hv
    have hvw : v ≠ w := fun heq => hv.1 (heq ▸ hv.2)
    simp only [WindowFilters.destroy, Function.update_of_ne hvw]
    exact h.alive f v hv.2

/-- The lists follow the pointer that is assigned. -/
theorem Mirrors.mem_setWindow_iff (h : s.Mirrors)
    (hother : s.m_window filter ≠ window) {v : Nat} {filters : List Nat}
    (hv : (s.setWindow filter window).1.windows v = some filters) (f : Nat) :
    f ∈ filters ↔ (s.setWindow filter window).1.m_window f = some v := by
  rw [setWindow_windows hother, Option.map_eq_some_iff] at hv
  obtain ⟨old, hold, rfl⟩ := hv
  rw [setWindow_m_window]
  have hmem := h.mem_iff v old hold
  by_cases hf : f = filter
  · subst hf
    rw [Function.update_self]
    split
    next hnew => simp [hnew]
    next hnew =>
      split
      · simpa using hnew
      next hkept => simpa [hmem, hkept] using hnew
  · rw [Function.update_of_ne hf, ← hmem f]
    split
    · simp [hf]
    · split
      · simp [hf]
      · rfl

theorem Mirrors.setWindow (h : s.Mirrors)
    (hthere : ∀ w ∈ window, (s.windows w).isSome) :
    (s.setWindow filter window).1.Mirrors := by
  by_cases hsame : s.m_window filter = window
  · rw [WindowFilters.setWindow, if_pos hsame]
    exact h
  constructor
  · intro v filters hv
    rw [setWindow_windows hsame, Option.map_eq_some_iff] at hv
    obtain ⟨old, hold, rfl⟩ := hv
    have hnodup := h.nodup v old hold
    split
    · exact List.nodup_cons.2 ⟨by simp, hnodup.filter _⟩
    · split
      · exact hnodup.filter _
      · exact hnodup
  · intro v filters hv f
    exact h.mem_setWindow_iff hsame hv f
  · intro f v hv
    have hold : (s.windows v).isSome := by
      rw [setWindow_m_window] at hv
      by_cases hf : f = filter
      · subst hf
        rw [Function.update_self] at hv
        exact hthere v hv
      · rw [Function.update_of_ne hf] at hv
        exact h.alive f v hv
    rw [setWindow_windows hsame, Option.isSome_map]
    exact hold

theorem Mirrors.step (h : s.Mirrors) {e : FilterEvent} (he : s.Enabled e) :
    (s.step e).1.Mirrors := by
  cases e with
  | windowCreated w => exact h.created he
  | windowDestroyed w => exact h.destroy w
  | setWindow filter window => exact h.setWindow he
  | sendEvent w event supported => exact h

/-- `window()` follows what the filter is attached to. -/
theorem step_m_window (s : WindowFilters) (f : Nat) (e : FilterEvent) :
    (s.step e).1.m_window f = attach f (s.m_window f) e := by
  cases e with
  | setWindow g window =>
      rw [step, setWindow_m_window, attach]
      by_cases hg : g = f
      · simp [hg]
      · rw [Function.update_of_ne (Ne.symm hg), if_neg hg]
  | _ => rfl

theorem exec_window (f : Nat) (es : List FilterEvent) :
    (windowFilters.exec {} es).window f = attachedTo f es := by
  induction es using List.reverseRecOn with
  | nil => rfl
  | append_singleton es e ih =>
      rw [windowFilters.exec_concat, attachedTo, List.foldl_concat, ← attachedTo,
        ← ih]
      exact step_m_window _ f e

theorem exec_mirrors {es : List FilterEvent} (hrun : windowFilters.Runs {} es) :
    (windowFilters.exec {} es).Mirrors :=
  windowFilters.exec_invariant (fun _ _ h he => h.step he) mirrors_start hrun

/-- Any other key passes through all filters of the window. -/
theorem sendThroughFilters_key {key : Nat} (hkey : key ≠ Key_Escape)
    (supported : Bool) (filters : List Nat) :
    sendThroughFilters supported (.keyPress key) filters =
      filters.map .keyPressed := by
  induction filters with
  | nil => rfl
  | cons f rest ih =>
      rw [sendThroughFilters, eventFilter, if_neg hkey, ih]
      rfl

/-- The escape key stays with the filter installed last. -/
theorem sendThroughFilters_escape (supported : Bool) (filters : List Nat) :
    sendThroughFilters supported (.keyPress Key_Escape) filters =
      filters.head?.elim [] fun f =>
        (if supported then [.screensOff] else []) ++ [.escapeKeyPressed f] := by
  cases filters with
  | nil => rfl
  | cons f rest =>
      rw [sendThroughFilters, eventFilter, if_pos rfl]
      exact List.append_nil _

theorem sendThroughFilters_other (supported : Bool) (filters : List Nat) :
    sendThroughFilters supported .other filters = [] := by
  induction filters with
  | nil => rfl
  | cons f rest ih => exact ih

/-- The key signals of a filter. -/
def IsKeySignal (filter : Nat) (signal : FilterSignal) : Prop :=
  signal = .keyPressed filter ∨ signal = .escapeKeyPressed filter

theorem mem_of_isKeySignal {supported : Bool} {event : WindowEvent}
    {filters : List Nat} {f : Nat} {signal : FilterSignal}
    (hmem : signal ∈ sendThroughFilters supported event filters)
    (hsignal : IsKeySignal f signal) :
    (∃ key, event = .keyPress key) ∧ f ∈ filters := by
  cases event with
  | other =>
      rw [sendThroughFilters_other] at hmem
      cases hmem
  | keyPress key =>
      refine ⟨⟨key, rfl⟩, ?_⟩
      by_cases hkey : key = Key_Escape
      · subst hkey
        rw [sendThroughFilters_escape] at hmem
        cases filters with
        | nil => cases hmem
        | cons g rest =>
            rcases hsignal with rfl | rfl
            · simp at hmem
            · have hfg : f = g := by
                rcases List.mem_append.1 hmem with hscreens | hescape
                · cases supported <;> simp at hscreens
                · simpa using hescape
              rw [hfg]
              exact List.mem_cons_self
      · rw [sendThroughFilters_key hkey] at hmem
        obtain ⟨g, hg, rfl⟩ := List.mem_map.1 hmem
        rcases hsignal with heq | heq
        · cases heq
          exact hg
        · cases heq

/-- Only a filter attached to the window signals its key presses. -/
theorem attached_of_isKeySignal {e : FilterEvent} (h : s.Mirrors)
    (he : s.Enabled e) {f : Nat} {signal : FilterSignal}
    (hmem : signal ∈ (s.step e).2) (hsignal : IsKeySignal f signal) :
    ∃ w key supported, e = .sendEvent w (.keyPress key) supported ∧
      s.window f = some w := by
  cases e with
  | sendEvent w event supported =>
      obtain ⟨filters, hfilters⟩ := Option.isSome_iff_exists.1 he
      rw [step, hfilters, Option.getD_some] at hmem
      obtain ⟨⟨key, rfl⟩, hin⟩ := mem_of_isKeySignal hmem hsignal
      exact ⟨w, key, supported, rfl, (h.mem_iff w filters hfilters f).1 hin⟩
  | setWindow g window =>
      rw [step, WindowFilters.setWindow] at hmem
      split at hmem
      · cases hmem
      · rw [List.mem_singleton] at hmem
        rcases hsignal with rfl | rfl <;> cases hmem
  | _ => cases hmem

/-- Each filter attached to the window signals any other key once. -/
theorem count_keyPressed (h : s.Mirrors) {w key : Nat} (supported : Bool)
    (hkey : key ≠ Key_Escape) {f : Nat} (hattached : s.window f = some w) :
    (s.step (.sendEvent w (.keyPress key) supported)).2.count
      (.keyPressed f) = 1 := by
  obtain ⟨filters, hfilters⟩ := Option.isSome_iff_exists.1
    (h.alive f w hattached)
  have hin : f ∈ filters := (h.mem_iff w filters hfilters f).2 hattached
  have hinjective : Function.Injective FilterSignal.keyPressed :=
    fun _ _ heq => FilterSignal.keyPressed.inj heq
  rw [step, hfilters, Option.getD_some, sendThroughFilters_key hkey]
  apply List.count_eq_one_of_mem
  · exact (h.nodup w filters hfilters).map hinjective
  · exact List.mem_map_of_mem hin

/-- A filter given a window that is there is installed on it. -/
theorem setWindow_attaches (h : s.Mirrors) (f : Nat) {w : Nat}
    (hthere : (s.windows w).isSome) :
    (s.setWindow f (some w)).1.window f = some w ∧
      ∃ filters, (s.setWindow f (some w)).1.windows w = some filters ∧
        f ∈ filters := by
  have hgiven : (s.setWindow f (some w)).1.window f = some w := by
    rw [window, setWindow_m_window, Function.update_self]
  have hset : (s.setWindow f (some w)).1.Mirrors :=
    h.setWindow (by simpa using hthere)
  obtain ⟨filters, hfilters⟩ := Option.isSome_iff_exists.1
    (hset.alive f w hgiven)
  exact ⟨hgiven, filters, hfilters,
    (hset.mem_iff w filters hfilters f).2 hgiven⟩

/-- Whatever has happened, a filter that signals a key press is attached to the
window the key was pressed in, every other key than Escape is signalled once
by each filter attached there, and the filters of a window destroyed have no
window and can be given another. -/
theorem signals_follow_window {es : List FilterEvent} {e : FilterEvent}
    (hrun : windowFilters.Runs {} (es ++ [e])) :
    let before := windowFilters.exec {} es
    let after := before.step e
    (∀ f, before.window f = attachedTo f es) ∧
    (∀ f, ∀ signal ∈ after.2, IsKeySignal f signal →
      ∃ w key supported, e = .sendEvent w (.keyPress key) supported ∧
        attachedTo f es = some w) ∧
    (∀ w key supported, e = .sendEvent w (.keyPress key) supported →
      key ≠ Key_Escape → ∀ f, attachedTo f es = some w →
        after.2.count (.keyPressed f) = 1) ∧
    (∀ w, e = .windowDestroyed w → ∀ f, attachedTo f es = some w →
      after.1.window f = none ∧
        ∀ v, (after.1.windows v).isSome →
          (after.1.setWindow f (some v)).1.window f = some v ∧
            ∃ filters, (after.1.setWindow f (some v)).1.windows v =
              some filters ∧ f ∈ filters) := by
  rw [Machine.Runs, windowFilters.guarded_concat] at hrun
  have hmirrors := exec_mirrors hrun.1
  have henabled : (windowFilters.exec {} es).Enabled e := hrun.2
  simp only [← exec_window]
  refine ⟨fun _ => trivial, ?_, ?_, ?_⟩
  · intro f signal hmem hsignal
    exact attached_of_isKeySignal hmirrors henabled hmem hsignal
  · rintro w key supported rfl hkey f hattached
    exact count_keyPressed hmirrors supported hkey hattached
  · rintro w rfl f hattached
    constructor
    · rw [window, step_m_window, attach]
      exact if_pos hattached
    · intro v hv
      exact setWindow_attaches (hmirrors.step henabled) f hv

/-- Two filters with a window each; the first is moved to the window of the
second, where both signal the next key. -/
theorem signals_follow_window_moved :
    ((windowFilters.exec {} [.windowCreated 0, .windowCreated 1,
        .setWindow 0 (some 0), .setWindow 1 (some 1),
        .sendEvent 0 (.keyPress 0x41) true, .setWindow 0 (some 1)]).step
      (.sendEvent 1 (.keyPress 0x41) true)).2.count (.keyPressed 0) = 1 :=
  (@signals_follow_window [.windowCreated 0, .windowCreated 1,
      .setWindow 0 (some 0), .setWindow 1 (some 1),
      .sendEvent 0 (.keyPress 0x41) true, .setWindow 0 (some 1)]
    (.sendEvent 1 (.keyPress 0x41) true) (by decide)).2.2.1
    1 0x41 true rfl (by decide) 0 (by decide)

end WindowFilters

end PlasmaLogin

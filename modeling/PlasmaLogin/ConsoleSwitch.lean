/-
Switching the console.  The kernel does not leave a console that shows graphics
and leaves the switching to the kernel; `VirtualTerminal::jumpToVt` puts such a
console right before it asks for another one.
-/
import Mathlib.Logic.Function.Basic
import PlasmaLogin.Calls
import PlasmaLogin.QString

namespace PlasmaLogin

open Calls

/-- `VT_AUTO` and `VT_PROCESS`: who switches away from the console. -/
inductive SwitchMode where
  | auto
  | process
deriving DecidableEq

/-- `KD_TEXT` and `KD_GRAPHICS`. -/
inductive DisplayMode where
  | text
  | graphics
deriving DecidableEq

structure Console where
  switching : SwitchMode
  display : DisplayMode
deriving DecidableEq

/-- The kernel does not switch away from the console. -/
def Console.Stuck (c : Console) : Prop :=
  c.switching = .auto ∧ c.display = .graphics

instance (c : Console) : Decidable c.Stuck :=
  inferInstanceAs (Decidable (_ ∧ _))

/-- The files `jumpToVt` opens: `/dev/tty0` and that of the terminal. -/
inductive VtFile where
  | active
  | tty
deriving DecidableEq

/-- How an `ioctl` that may wait ends. -/
inductive IoctlEnd where
  | done
  | interrupted
  | failed
deriving DecidableEq

/-- The calls of `jumpToVt`. -/
inductive VtCall where
  | openFile (file : VtFile) (vt : Int32)
  | clear
  | setDisplayMode (file : VtFile) (mode : DisplayMode)
  | getMode (file : VtFile)
  | getDisplayMode (file : VtFile)
  | setProcessMode (file : VtFile)
  | handleSignals
  | activate (file : VtFile) (vt : Int32)
  | waitActive (file : VtFile) (vt : Int32)
  | close (file : VtFile)

/-- The answers; those to the calls that switch come with whether the terminal
is in front by then. -/
@[reducible] def VtCall.Answer : VtCall → Type
  | .openFile _ _ | .clear | .setDisplayMode _ _ | .setProcessMode _ => Bool
  | .getMode _ => Option SwitchMode
  | .getDisplayMode _ => Option DisplayMode
  | .activate _ _ | .waitActive _ _ => IoctlEnd × Bool
  | .handleSignals | .close _ => PUnit

/-- A part of `jumpToVt`. -/
abbrev VtProgram (A : Type) := Program VtCall.Answer Empty A

abbrev VtTrace := List (Event VtCall.Answer)

def vtCall (op : VtCall) : VtProgram op.Answer := .perform op

namespace VirtualTerminal

/-- `handleVtSwitches`. -/
def handleVtSwitches (file : VtFile) : VtProgram PUnit := do
  let _ : Bool ← vtCall (.setProcessMode file)
  vtCall .handleSignals

/-- `fixVtMode`; a mode that cannot be read counts as zero. -/
def fixVtMode (file : VtFile) (vtAuto : Bool) : VtProgram PUnit := do
  let mode : Option SwitchMode ← vtCall (.getMode file)
  if mode.getD .auto = .auto then do
    let kernelDisplayMode : Option DisplayMode ← vtCall (.getDisplayMode file)
    if kernelDisplayMode.getD .text = .text then return ⟨⟩
    else if vtAuto then do
      let _ : Bool ← vtCall (.setDisplayMode file .text)
      return ⟨⟩
    else handleVtSwitches file
  else return ⟨⟩

/-- The loop of `jumpToVt`, and whether it has ended within that many turns. -/
def switchTo (file : VtFile) (vt : Int32) : Nat → VtProgram Bool
  | 0 => return false
  | turns + 1 => do
      let activated : IoctlEnd × Bool ← vtCall (.activate file vt)
      match activated.1 with
      | .interrupted => switchTo file vt turns
      | .failed => return true
      | .done => do
          let waited : IoctlEnd × Bool ← vtCall (.waitActive file vt)
          match waited.1 with
          | .interrupted => switchTo file vt turns
          | .failed | .done => return true

/-- The process asks to be told of switches, if the kernel is not to switch by
itself. -/
def handleUnlessAuto (file : VtFile) (vtAuto : Bool) : VtProgram PUnit :=
  if vtAuto then return ⟨⟩ else handleVtSwitches file

/-- What `jumpToVt` does with the console it leaves and the one it opens, and
the file it goes on with. -/
def prepare (vt : Int32) (vtAuto : Bool) : VtProgram VtFile := do
  let _ : Bool ← vtCall (.openFile .active 0)
  let opened : Bool ← vtCall (.openFile .tty vt)
  if opened then do
    let _ : Bool ← vtCall .clear
    let _ : Bool ← vtCall (.setDisplayMode .tty .graphics)
    fixVtMode .active vtAuto
    handleUnlessAuto .tty vtAuto
    return .tty
  else do
    handleUnlessAuto .active vtAuto
    return .active

/-- `VirtualTerminal::jumpToVt`, as far as its loop gets in a number of
turns. -/
def jumpToVt (turns : Nat) (vt : Int32) (vtAuto : Bool) : VtProgram PUnit := do
  let file : VtFile ← prepare vt vtAuto
  let ended : Bool ← switchTo file vt turns
  if ended then do
    vtCall (.close .active)
    if file = .tty then vtCall (.close .tty) else return ⟨⟩
  else return ⟨⟩

end VirtualTerminal

/-- The consoles, the one in front, and what the files of a process are open
on. -/
structure Consoles where
  front : Int32
  console : Int32 → Console
  files : VtFile → Option Int32 := fun _ => none

namespace Consoles

/-- The kernel would ignore a request for the terminal. -/
def Ignores (s : Consoles) (vt : Int32) : Prop :=
  s.front ≠ vt ∧ (s.console s.front).Stuck

/-- The console a file is open on, changed. -/
def change (s : Consoles) (file : VtFile) (f : Console → Console) : Consoles :=
  match s.files file with
  | none => s
  | some vt =>
      { s with console := Function.update s.console vt (f (s.console vt)) }

def openOn (s : Consoles) (file : VtFile) (vt : Int32) : Consoles :=
  { s with files := Function.update s.files file (some vt) }

/-- What a call does to the consoles. -/
def after (s : Consoles) : Event VtCall.Answer → Consoles
  | ⟨.openFile .active _, opened⟩ =>
      if opened then s.openOn .active s.front else s
  | ⟨.openFile .tty vt, opened⟩ => if opened then s.openOn .tty vt else s
  | ⟨.setDisplayMode file mode, done⟩ =>
      if done then s.change file fun c => { c with display := mode } else s
  | ⟨.setProcessMode file, done⟩ =>
      if done then s.change file fun c => { c with switching := .process }
      else s
  | ⟨.activate _ vt, result⟩ | ⟨.waitActive _ vt, result⟩ =>
      if result.2 then { s with front := vt } else s
  | _ => s

/-- The consoles behind the calls of a trace. -/
def exec (s : Consoles) (t : VtTrace) : Consoles := t.foldl after s

/-- The files open as they can be opened, and on an open file no call fails
but those that switch. -/
def Allows (opens : VtFile → Bool) (s : Consoles) :
    Event VtCall.Answer → Prop
  | ⟨.openFile file _, opened⟩ => opened = opens file
  | ⟨.setDisplayMode file _, done⟩ | ⟨.setProcessMode file, done⟩ =>
      done = (s.files file).isSome
  | ⟨.getMode file, mode⟩ =>
      mode = (s.files file).map fun vt => (s.console vt).switching
  | ⟨.getDisplayMode file, mode⟩ =>
      mode = (s.files file).map fun vt => (s.console vt).display
  | _ => True

/-- The answers of a trace. -/
def Answered (opens : VtFile → Bool) : Consoles → VtTrace → Prop
  | _, [] => True
  | s, ev :: t => s.Allows opens ev ∧ Answered opens (s.after ev) t

/-- The call asks for the terminal. -/
def asksFor (vt : Int32) : VtCall → Bool
  | .activate _ vt' => vt' = vt
  | _ => false

/-- The kernel ignores a request for the terminal in the trace. -/
def Ignored (vt : Int32) : Consoles → VtTrace → Prop
  | _, [] => False
  | s, ev :: t => asksFor vt ev.op = true ∧ s.Ignores vt ∨
      Ignored vt (s.after ev) t

@[simp] theorem exec_nil (s : Consoles) : s.exec [] = s := rfl

@[simp] theorem exec_cons (s : Consoles) (ev : Event VtCall.Answer)
    (t : VtTrace) : s.exec (ev :: t) = (s.after ev).exec t := rfl

theorem exec_append (s : Consoles) (t₁ t₂ : VtTrace) :
    s.exec (t₁ ++ t₂) = (s.exec t₁).exec t₂ :=
  List.foldl_append

variable {opens : VtFile → Bool} {s : Consoles} {vt : Int32}

theorem answered_append {t₁ t₂ : VtTrace} :
    Answered opens s (t₁ ++ t₂) ↔
      Answered opens s t₁ ∧ Answered opens (s.exec t₁) t₂ := by
  induction t₁ generalizing s with
  | nil => simp [Answered]
  | cons ev t₁ ih => simp [Answered, ih, and_assoc]

theorem ignored_append {t₁ t₂ : VtTrace} :
    Ignored vt s (t₁ ++ t₂) ↔ Ignored vt s t₁ ∨ Ignored vt (s.exec t₁) t₂ := by
  induction t₁ generalizing s with
  | nil => simp [Ignored]
  | cons ev t₁ ih => simp [Ignored, ih, or_assoc]

theorem not_ignored_of_quiet {t : VtTrace}
    (h : ∀ ev ∈ t, asksFor vt ev.op = false) : ¬ Ignored vt s t := by
  induction t generalizing s with
  | nil => exact id
  | cons ev t ih =>
      rw [List.forall_mem_cons] at h
      rintro (⟨hasks, _⟩ | hrest)
      · rw [h.1] at hasks
        cases hasks
      · exact ih h.2 hrest

/-- Once the terminal is in front nothing is ignored. -/
theorem ignores_of_switched (file : VtFile) (result : IoctlEnd × Bool)
    (h : (s.after ⟨.activate file vt, result⟩).Ignores vt ∨
      (s.after ⟨.waitActive file vt, result⟩).Ignores vt) : s.Ignores vt := by
  obtain ⟨ended, arrived⟩ := result
  cases arrived with
  | false => exact h.elim id id
  | true => exact h.elim (fun h => absurd rfl h.1) fun h => absurd rfl h.1

theorem change_of_none {file : VtFile} (h : s.files file = none)
    (f : Console → Console) : s.change file f = s := by
  rw [change, h]

@[simp] theorem change_front (s : Consoles) (file : VtFile)
    (f : Console → Console) : (s.change file f).front = s.front := by
  rw [change]
  split <;> rfl

@[simp] theorem change_files (s : Consoles) (file : VtFile)
    (f : Console → Console) : (s.change file f).files = s.files := by
  rw [change]
  split <;> rfl

theorem change_console_self {file : VtFile} (h : s.files file = some vt)
    (f : Console → Console) :
    (s.change file f).console vt = f (s.console vt) := by
  rw [change, h]
  exact Function.update_self vt _ _

theorem change_console_ne {file : VtFile} (h : s.files file ≠ some vt)
    (f : Console → Console) : (s.change file f).console vt = s.console vt := by
  rw [change]
  split
  · rfl
  next vt' hvt =>
    have hne : vt ≠ vt' := fun heq => h (heq ▸ hvt)
    exact Function.update_of_ne hne _ _

/-- A call that changes the console of a file, if the file is open. -/
theorem change_if (file : VtFile) (f : Console → Console) :
    (if (s.files file).isSome then s.change file f else s) =
      s.change file f := by
  split
  · rfl
  next h =>
    rw [Option.not_isSome_iff_eq_none] at h
    rw [change_of_none h]

/-- The consoles behind `fixVtMode`. -/
def fixed (s : Consoles) (file : VtFile) (vtAuto : Bool) : Consoles :=
  if (s.files file).any fun vt => decide (s.console vt).Stuck then
    s.change file fun c => if vtAuto then { c with display := .text }
      else { c with switching := .process }
  else s

/-- The consoles behind `handleUnlessAuto`. -/
def handled (s : Consoles) (file : VtFile) (vtAuto : Bool) : Consoles :=
  if vtAuto then s else s.change file fun c => { c with switching := .process }

theorem fixed_of_none {file : VtFile} (h : s.files file = none)
    (vtAuto : Bool) : s.fixed file vtAuto = s := by
  rw [fixed, change_of_none h, ite_self]

@[simp] theorem fixed_front (s : Consoles) (file : VtFile) (vtAuto : Bool) :
    (s.fixed file vtAuto).front = s.front := by
  rw [fixed]
  split <;> simp

@[simp] theorem fixed_files (s : Consoles) (file : VtFile) (vtAuto : Bool) :
    (s.fixed file vtAuto).files = s.files := by
  rw [fixed]
  split <;> simp

theorem not_stuck_fixed {file : VtFile} (h : s.files file = some vt)
    (vtAuto : Bool) : ¬((s.fixed file vtAuto).console vt).Stuck := by
  rw [fixed, h, Option.any_some]
  split
  · rw [change_console_self h]
    cases vtAuto <;> simp [Console.Stuck]
  next hstuck => simpa using hstuck

@[simp] theorem handled_front (s : Consoles) (file : VtFile) (vtAuto : Bool) :
    (s.handled file vtAuto).front = s.front := by
  rw [handled]
  split <;> simp

theorem handled_console_ne {file : VtFile} (h : s.files file ≠ some vt)
    (vtAuto : Bool) : (s.handled file vtAuto).console vt = s.console vt := by
  rw [handled]
  split
  · rfl
  · exact change_console_ne h _

/-- A console that a process switches is not stuck. -/
theorem stuck_handled_iff {file : VtFile} (h : s.files file = some vt)
    (vtAuto : Bool) : ((s.handled file vtAuto).console vt).Stuck ↔
      (s.console vt).Stuck ∧ vtAuto = true := by
  rw [handled]
  cases vtAuto with
  | true => simp
  | false =>
      simp only [Bool.false_eq_true, ↓reduceIte, change_console_self h]
      simp [Console.Stuck]

/-- The consoles when the loop begins. -/
def prepared (opens : VtFile → Bool) (s : Consoles) (vt : Int32)
    (vtAuto : Bool) : Consoles :=
  let s := if opens .active then s.openOn .active s.front else s
  if opens .tty then
    (((s.openOn .tty vt).change .tty fun c =>
      { c with display := .graphics }).fixed .active vtAuto).handled .tty vtAuto
  else s.handled .active vtAuto

@[simp] theorem prepared_front (opens : VtFile → Bool) (s : Consoles)
    (vt : Int32) (vtAuto : Bool) :
    (s.prepared opens vt vtAuto).front = s.front := by
  rw [prepared]
  cases opens .active <;> cases opens .tty <;> simp [openOn]

/-- The console in front is not stuck when the loop begins, unless nothing
could be done about it. -/
theorem stuck_prepared_iff (opens : VtFile → Bool)
    (hfiles : ∀ file, s.files file = none) (hne : s.front ≠ vt)
    (vtAuto : Bool) :
    ((s.prepared opens vt vtAuto).console s.front).Stuck ↔
      (s.console s.front).Stuck ∧
        (opens .active = false ∨ opens .tty = false ∧ vtAuto = true) := by
  have htty : ∀ s' : Consoles, ((s'.openOn .tty vt).change .tty fun c =>
      { c with display := .graphics }).files .tty ≠ some s.front := by
    intro s'
    simp [openOn, Ne.symm hne]
  have hother : ∀ s' : Consoles, ((s'.openOn .tty vt).change .tty fun c =>
      { c with display := .graphics }).console s.front = s'.console s.front :=
    fun s' => change_console_ne (by simp [openOn, Ne.symm hne]) _
  rw [prepared]
  cases hactive : opens .active with
  | true =>
      have hopen : ∀ s' : Consoles, (s'.openOn .active s.front).files .active =
          some s.front := fun _ => by simp [openOn]
      cases hopens : opens .tty with
      | true =>
          have hkept : (((s.openOn .active s.front).openOn .tty vt).change .tty
              fun c => { c with display := .graphics }).files .active =
                some s.front := by
            simp [openOn]
          simp only [↓reduceIte]
          rw [handled_console_ne (by rw [fixed_files]; exact htty _)]
          simp [not_stuck_fixed hkept]
      | false =>
          simp only [↓reduceIte, Bool.false_eq_true]
          rw [stuck_handled_iff (hopen s)]
          simp [openOn]
  | false =>
      cases hopens : opens .tty with
      | true =>
          simp only [↓reduceIte, Bool.false_eq_true]
          rw [handled_console_ne (by rw [fixed_files]; exact htty _),
            fixed_of_none (by simp [openOn, hfiles]), hother]
          simp
      | false =>
          simp only [↓reduceIte, Bool.false_eq_true]
          rw [handled_console_ne (by rw [hfiles]; simp)]
          simp

end Consoles

namespace VirtualTerminal

open Consoles

variable {opens : VtFile → Bool} {s : Consoles} {t : VtTrace}

theorem exec_handleVtSwitches {file : VtFile} {o : Except Empty PUnit}
    (hrun : Run (handleVtSwitches file) t o) (h : Answered opens s t) :
    s.exec t = s.change file fun c => { c with switching := .process } := by
  obtain ⟨(done : Bool), t₁, rfl, h₁⟩ := run_call_bind_iff.1 hrun
  obtain ⟨_, rfl, _⟩ := run_perform_iff.1 h₁
  have hdone : done = (s.files file).isSome := h.1
  rw [exec_cons, after, hdone, change_if]
  rfl

/-- What `fixVtMode` finds out. -/
theorem fixed_of_mode {file : VtFile} {vtAuto : Bool}
    (h : ((s.files file).map fun vt => (s.console vt).switching).getD .auto ≠
      .auto ∨ ((s.files file).map fun vt => (s.console vt).display).getD .text =
        .text) : s.fixed file vtAuto = s := by
  rw [fixed, if_neg]
  cases hfile : s.files file with
  | none => simp
  | some vt =>
      simp only [hfile, Option.map_some, Option.getD_some] at h
      rw [Option.any_some, decide_eq_true_eq]
      rintro ⟨hauto, hgraphics⟩
      rcases h with h | h
      · exact h hauto
      · rw [hgraphics] at h
        cases h

theorem fixed_of_stuck {file : VtFile} {vtAuto : Bool}
    (h : ¬((s.files file).map fun vt => (s.console vt).display).getD .text =
      .text)
    (hauto : ((s.files file).map fun vt => (s.console vt).switching).getD
      .auto = .auto) :
    s.fixed file vtAuto = s.change file fun c =>
      if vtAuto then { c with display := .text }
      else { c with switching := .process } := by
  rw [fixed, if_pos]
  cases hfile : s.files file with
  | none => simp [hfile] at h
  | some vt =>
      simp only [hfile, Option.map_some, Option.getD_some] at h hauto
      simp only [Option.any_some, decide_eq_true_eq]
      refine ⟨hauto, ?_⟩
      cases hdisplay : (s.console vt).display with
      | text => exact absurd hdisplay h
      | graphics => rfl

theorem exec_fixVtMode {file : VtFile} {vtAuto : Bool}
    {o : Except Empty PUnit} (hrun : Run (fixVtMode file vtAuto) t o)
    (h : Answered opens s t) : s.exec t = s.fixed file vtAuto := by
  obtain ⟨(mode : Option SwitchMode), t₁, rfl, h₁⟩ := run_call_bind_iff.1 hrun
  obtain ⟨hmode, hrest⟩ := h
  obtain rfl : mode = (s.files file).map fun vt =>
    (s.console vt).switching := hmode
  split at h₁
  next hauto =>
    obtain ⟨(display : Option DisplayMode), t₂, rfl, h₂⟩ :=
      run_call_bind_iff.1 h₁
    obtain ⟨hdisplay, hlast⟩ := hrest
    obtain rfl : display = (s.files file).map fun vt =>
      (s.console vt).display := hdisplay
    split at h₂
    next htext =>
      obtain ⟨rfl, _⟩ := run_returns_iff.1 h₂
      exact (fixed_of_mode (Or.inr htext)).symm
    next htext =>
      rw [fixed_of_stuck htext hauto]
      split at h₂
      next hvt =>
        obtain ⟨(done : Bool), t₃, rfl, h₃⟩ := run_call_bind_iff.1 h₂
        obtain ⟨rfl, _⟩ := run_returns_iff.1 h₃
        have hdone : done = (s.files file).isSome := hlast.1
        simp only [exec_cons, exec_nil, after, hdone, change_if, hvt,
          ↓reduceIte]
      next hvt =>
        rw [Bool.not_eq_true] at hvt
        simp only [hvt, Bool.false_eq_true, ↓reduceIte]
        change s.exec t₂ = _
        exact exec_handleVtSwitches h₂ hlast
  next hauto =>
    obtain ⟨rfl, _⟩ := run_returns_iff.1 h₁
    exact (fixed_of_mode (Or.inl hauto)).symm

theorem exec_handleUnlessAuto {file : VtFile} {vtAuto : Bool}
    {o : Except Empty PUnit} (hrun : Run (handleUnlessAuto file vtAuto) t o)
    (h : Answered opens s t) : s.exec t = s.handled file vtAuto := by
  rw [handleUnlessAuto] at hrun
  rw [handled]
  split at hrun
  next hvt =>
    obtain ⟨rfl, _⟩ := run_returns_iff.1 hrun
    rw [if_pos hvt, exec_nil]
  next hvt =>
    rw [if_neg hvt]
    exact exec_handleVtSwitches hrun h

/-- The calls before the loop. -/
theorem exec_prepare {vt : Int32} {vtAuto : Bool} {file : VtFile}
    (hrun : Run (prepare vt vtAuto) t (.ok file)) (h : Answered opens s t) :
    s.exec t = s.prepared opens vt vtAuto := by
  obtain ⟨(activeOpened : Bool), t₁, rfl, h₁⟩ := run_call_bind_iff.1 hrun
  obtain ⟨rfl, hrest⟩ : activeOpened = opens .active ∧ _ := h
  obtain ⟨(ttyOpened : Bool), t₂, rfl, h₂⟩ := run_call_bind_iff.1 h₁
  obtain ⟨rfl, hrest⟩ : ttyOpened = opens .tty ∧ _ := hrest
  rw [prepared, exec_cons, exec_cons]
  cases htty : opens .tty with
  | true =>
      rw [htty] at h₂ hrest
      obtain ⟨_, t₃, rfl, h₃⟩ := run_call_bind_iff.1 h₂
      obtain ⟨(done : Bool), t₄, rfl, h₄⟩ := run_call_bind_iff.1 h₃
      obtain ⟨_, hdone, hrest⟩ := hrest
      obtain ⟨_, t₅, t₆, hfix, h₆, rfl⟩ := run_bind_ok_iff.1 h₄
      obtain ⟨_, t₇, t₈, hhandle, h₈, rfl⟩ := run_bind_ok_iff.1 h₆
      obtain ⟨rfl, _⟩ := run_returns_iff.1 h₈
      rw [List.append_nil] at hrest ⊢
      rw [answered_append] at hrest
      rw [exec_cons, exec_cons, exec_append,
        exec_handleUnlessAuto hhandle hrest.2, exec_fixVtMode hfix hrest.1]
      have hset : ∀ s' : Consoles, done = (s'.files .tty).isSome →
          s'.after ⟨.setDisplayMode .tty .graphics, done⟩ =
            s'.change .tty fun c => { c with display := .graphics } := by
        intro s' hs'
        rw [after, hs', change_if]
      rw [hset _ hdone]
      rfl
  | false =>
      rw [htty] at h₂ hrest
      obtain ⟨_, t₃, t₄, hhandle, h₄, rfl⟩ := run_bind_ok_iff.1 h₂
      obtain ⟨rfl, _⟩ := run_returns_iff.1 h₄
      rw [List.append_nil] at hrest ⊢
      exact exec_handleUnlessAuto hhandle hrest

/-- What the loop is up to. -/
theorem ignored_switchTo {file : VtFile} {vt : Int32} {turns : Nat}
    {o : Except Empty Bool} (hrun : Run (switchTo file vt turns) t o)
    (h : Ignored vt s t) : s.Ignores vt := by
  induction turns generalizing s t with
  | zero =>
      obtain ⟨rfl, _⟩ := run_returns_iff.1 hrun
      cases h
  | succ turns ih =>
      obtain ⟨(activated : IoctlEnd × Bool), t₁, rfl, h₁⟩ :=
        run_call_bind_iff.1 hrun
      rcases h with ⟨_, hignores⟩ | h
      · exact hignores
      refine ignores_of_switched file activated (Or.inl ?_)
      cases hend : activated.1 with
      | interrupted =>
          rw [hend] at h₁
          exact ih h₁ h
      | failed =>
          rw [hend] at h₁
          obtain ⟨rfl, _⟩ := run_returns_iff.1 h₁
          cases h
      | done =>
          rw [hend] at h₁
          obtain ⟨(waited : IoctlEnd × Bool), t₂, rfl, h₂⟩ :=
            run_call_bind_iff.1 h₁
          rcases h with ⟨hasks, _⟩ | h
          · cases hasks
          refine ignores_of_switched file waited (Or.inr ?_)
          cases hwaited : waited.1 with
          | interrupted =>
              rw [hwaited] at h₂
              exact ih h₂ h
          | failed =>
              rw [hwaited] at h₂
              obtain ⟨rfl, _⟩ := run_returns_iff.1 h₂
              cases h
          | done =>
              rw [hwaited] at h₂
              obtain ⟨rfl, _⟩ := run_returns_iff.1 h₂
              cases h

theorem ignored_switchTo_iff {file : VtFile} {vt : Int32} {turns : Nat}
    {o : Except Empty Bool} (hrun : Run (switchTo file vt (turns + 1)) t o) :
    Ignored vt s t ↔ s.Ignores vt := by
  refine ⟨ignored_switchTo hrun, fun h => ?_⟩
  obtain ⟨_, t₁, rfl, _⟩ := run_call_bind_iff.1 hrun
  exact Or.inl ⟨decide_eq_true rfl, h⟩

section quiet

open Program

variable (vt : Int32)

/-- A part that asks for no terminal. -/
abbrev Quiet {A : Type} (p : VtProgram A) : Prop :=
  p.Only fun op => asksFor vt op = false

theorem quiet_handleVtSwitches (file : VtFile) :
    Quiet vt (handleVtSwitches file) :=
  only_bind (only_perform rfl) fun _ => only_perform rfl

theorem quiet_handleUnlessAuto (file : VtFile) (vtAuto : Bool) :
    Quiet vt (handleUnlessAuto file vtAuto) := by
  rw [handleUnlessAuto]
  split
  · trivial
  · exact quiet_handleVtSwitches vt file

theorem quiet_fixVtMode (file : VtFile) (vtAuto : Bool) :
    Quiet vt (fixVtMode file vtAuto) := by
  refine only_bind (only_perform rfl) fun mode => ?_
  split
  · refine only_bind (only_perform rfl) fun display => ?_
    split
    · trivial
    · split
      · exact only_bind (only_perform rfl) fun _ => trivial
      · exact quiet_handleVtSwitches vt file
  · trivial

theorem quiet_prepare (vt' : Int32) (vtAuto : Bool) :
    Quiet vt (prepare vt' vtAuto) := by
  refine only_bind (only_perform rfl) fun _ => ?_
  refine only_bind (only_perform rfl) fun opened => ?_
  cases opened with
  | true =>
      exact only_bind (only_perform rfl) fun _ =>
        only_bind (only_perform rfl) fun _ =>
          only_bind (quiet_fixVtMode vt .active vtAuto) fun _ =>
            only_bind (quiet_handleUnlessAuto vt .tty vtAuto) fun _ => trivial
  | false =>
      exact only_bind (quiet_handleUnlessAuto vt .active vtAuto) fun _ =>
        trivial

theorem quiet_afterLoop (file : VtFile) (ended : Bool) :
    Quiet vt (if ended then do
        vtCall (.close .active)
        if file = .tty then vtCall (.close .tty) else return ⟨⟩
      else return ⟨⟩ : VtProgram PUnit) := by
  split
  · refine only_bind (only_perform rfl) fun _ => ?_
    split
    · exact only_perform rfl
    · trivial
  · trivial

end quiet

end VirtualTerminal

open VirtualTerminal Consoles in
/-- The kernel ignores a request of `jumpToVt` exactly when the console in
front is stuck and is not the one asked for, and its file did not open, or the
terminal's did not and the kernel is to switch by itself.  Where neither file
opens the request fails for want of one, and counts as ignored. -/
theorem jumpToVt_ignored_iff (opens : VtFile → Bool) {s : Consoles}
    (hfiles : ∀ file, s.files file = none) {turns : Nat} {vt : Int32}
    {vtAuto : Bool} {t : VtTrace} {o : Except Empty PUnit}
    (hrun : Run (jumpToVt (turns + 1) vt vtAuto) t o)
    (hanswers : Answered opens s t) :
    Ignored vt s t ↔ s.Ignores vt ∧
      (opens .active = false ∨ opens .tty = false ∧ vtAuto = true) := by
  rcases run_bind_iff.1 hrun with ⟨file, t₁, t₂, h₁, h₂, rfl⟩ | ⟨e, _, _⟩
  swap
  · cases e
  obtain ⟨o', t₃, t₄, h₃, rfl, hlast⟩ :=
    run_bind_of_only (quiet_afterLoop vt file) h₂
  have hfirst := (quiet_prepare vt vt vtAuto).run h₁
  rw [answered_append] at hanswers
  rw [ignored_append, or_iff_right (not_ignored_of_quiet hfirst),
    ignored_append, or_iff_left (not_ignored_of_quiet hlast),
    exec_prepare h₁ hanswers.1, ignored_switchTo_iff h₃]
  simp only [Ignores, prepared_front]
  rw [and_assoc]
  exact and_congr_right fun hne => stuck_prepared_iff opens hfiles hne vtAuto

namespace Consoles

/-- The second console shows graphics, and its program has gone. -/
def leftInGraphics : Consoles where
  front := 2
  console vt := if vt = 2 then ⟨.auto, .graphics⟩ else ⟨.auto, .text⟩

/-- The answers to a jump that leaves it. -/
def leaving : (op : VtCall) → op.Answer
  | .openFile _ _ | .clear | .setDisplayMode _ _ | .setProcessMode _ => true
  | .getMode _ => some SwitchMode.auto
  | .getDisplayMode _ => some DisplayMode.graphics
  | .activate _ _ | .waitActive _ _ => (IoctlEnd.done, true)
  | .handleSignals | .close _ => ⟨⟩

end Consoles

open VirtualTerminal Consoles in
theorem jumpToVt_ignored_iff_leaving :
    ¬ Ignored 3 leftInGraphics ((jumpToVt 1 3 true).exec leaving).2 :=
  have hiff : Ignored 3 leftInGraphics ((jumpToVt 1 3 true).exec leaving).2 ↔
      leftInGraphics.Ignores 3 ∧ (true = false ∨ true = false ∧ true = true) :=
    jumpToVt_ignored_iff (fun _ => true) (fun _ => rfl)
      (run_exec leaving (jumpToVt 1 3 true))
      ⟨rfl, rfl, trivial, rfl, rfl, rfl, rfl, trivial, trivial, trivial, trivial,
        trivial⟩
  fun h => by simpa using (hiff.1 h).2

end PlasmaLogin

/-
Saving the configuration.  The helper empties the system's file by opening it,
and only then looks at what it was given and goes through the steps that can
fail.
-/
import Mathlib.Data.List.Infix
import PlasmaLogin.HelperActions

namespace PlasmaLogin

/-- The wallpapers of the greeter, by name. -/
abbrev Wallpapers := QString → Option QByteArray

/-- What the system does about one wallpaper; a read that fails is `none`. -/
structure WallpaperCopy where
  mkpath : Bool := true
  openat2 : Bool := true
  openOut : Bool := true
  openIn : Bool := true
  reads : List (Option QByteArray) := []

/-- What `PlasmaLoginAuthHelper::save` meets; `stored` is how many bytes of the
text the system stores if not all. -/
structure SaveSurroundings where
  user : GreeterUser
  opens : Bool := true
  stored : Option Nat := none
  repaired : Bool := true
  run : ChildRun := {}
  kept : QString → Bool := fun _ => false
  rootOpens : Bool := true
  copies : Nat → WallpaperCopy := fun _ => {}

/-- The system's configuration file, when there is one, and the wallpapers. -/
structure SaveState where
  config : Option QByteArray
  wallpapers : Wallpapers := fun _ => none

namespace PlasmaLoginAuthHelper

/-- `args["config"].toString()`. -/
def configText (args : QString → Option Variant) : QString :=
  ((args "config").getD {}).toString

/-- `args["wallpapers"].toStringList()`. -/
def wallpaperNames (args : QString → Option Variant) : List QString :=
  ((args "wallpapers").getD {}).toStringList

/-- The text is larger than 1 MiB. -/
def oversized (args : QString → Option Variant) : Bool :=
  1 * 1024 * 1024 < (configText args).toLocal8Bit.length

/-- What of the text gets into the file. -/
def storedConfig (args : QString → Option Variant) (env : SaveSurroundings) :
    QByteArray :=
  match env.stored with
  | none => (configText args).streamed
  | some n => (configText args).streamed.take n

def setWallpaper (name : QString) (content : QByteArray) (w : Wallpapers) :
    Wallpapers :=
  fun name' => if name' = name then some content else w name'

/-- The loop that copies a wallpaper, with whether it gets to the end. -/
def transfer : List (Option QByteArray) → QByteArray × Bool
  | [] => ([], true)
  | none :: _ => ([], false)
  | some chunk :: reads => (chunk ++ (transfer reads).1, (transfer reads).2)

/-- The name has two dots in a row. -/
def badlyFormed (name : QString) : Bool := (".." : QString) <:+: name

/-- One turn of the loop over the wallpapers. -/
def copyWallpaper (args : QString → Option Variant) (copy : WallpaperCopy)
    (name : QString) (w : Wallpapers) : Wallpapers × Bool :=
  if badlyFormed name then (w, false)
  else if !copy.mkpath then (w, false)
  else if !copy.openat2 then (w, false)
  else
    let w := setWallpaper name [] w
    if !copy.openOut then (w, false)
    else if !((args (("_fd_" : QString) ++ name)).getD {}).regularFd then
      (w, true)
    else if !copy.openIn then (w, false)
    else
      let r := transfer copy.reads
      (setWallpaper name r.1 w, r.2)

/-- The function `save` runs as the greeter's user. -/
def saveFunction (args : QString → Option Variant) (env : SaveSurroundings) :
    List (Wallpapers → Wallpapers × Bool) :=
  (fun w => (fun name => if env.kept name then w name else none, true)) ::
    (fun w => (w, env.rootOpens)) ::
      (wallpaperNames args).zipIdx.map fun p =>
        copyWallpaper args (env.copies p.2) p.1

/-- `PlasmaLoginAuthHelper::save`. -/
def save (args : QString → Option Variant) (env : SaveSurroundings)
    (s : SaveState) : ActionReply × SaveState :=
  if !env.opens then (.helperError, s)
  else
    let s := { s with config := some [] }
    if oversized args then (.helperError, s)
    else
      let s := { s with config := some (storedConfig args env) }
      if (plasmaloginUserHomeDir env.user).isNone then (.helperError, s)
      else if !adjustPermissionsFromPlasma6_6 env.user env.repaired then
        (.helperError, s)
      else
        let r := runAsPlasmaLoginUser env.user env.run (saveFunction args env)
          s.wallpapers
        (if r.2 then .success else .helperError,
          { s with wallpapers := r.1 })

/-- A wallpaper is copied to its end, or passed over. -/
def copies (args : QString → Option Variant) (copy : WallpaperCopy)
    (name : QString) : Bool :=
  !badlyFormed name && copy.mkpath && copy.openat2 && copy.openOut &&
    (!((args (("_fd_" : QString) ++ name)).getD {}).regularFd ||
      copy.openIn && copy.reads.all Option.isSome)

/-- Nothing behind the writing of the file fails. -/
structure Finishes (args : QString → Option Variant) (env : SaveSurroundings) :
    Prop where
  home : env.user.homeDir ≠ []
  valid : env.user.valid = true
  repaired : env.repaired = true
  run : env.run.Completes
  root : env.rootOpens = true
  copies : ∀ p ∈ (wallpaperNames args).zipIdx,
    copies args (env.copies p.2) p.1 = true

/-- An error leaves the file as it was, and success leaves the text in it. -/
def AllOrNothing (args : QString → Option Variant) (before : SaveState)
    (r : ActionReply × SaveState) : Prop :=
  (r.1 = .helperError → r.2.config = before.config) ∧
    (r.1 = .success → r.2.config = some (configText args).streamed)

section function

variable {args : QString → Option Variant} {env : SaveSurroundings}

theorem transfer_snd (reads : List (Option QByteArray)) :
    (transfer reads).2 = reads.all Option.isSome := by
  induction reads with
  | nil => rfl
  | cons chunk reads ih =>
      cases chunk with
      | none => rfl
      | some chunk => exact ih

theorem copyWallpaper_snd (copy : WallpaperCopy) (name : QString)
    (w : Wallpapers) :
    (copyWallpaper args copy name w).2 = copies args copy name := by
  unfold copyWallpaper copies
  cases badlyFormed name with
  | true => rfl
  | false =>
      cases copy.mkpath with
      | false => rfl
      | true =>
          cases copy.openat2 with
          | false => rfl
          | true =>
              cases copy.openOut with
              | false => rfl
              | true =>
                  cases ((args (("_fd_" : QString) ++ name)).getD
                      {}).regularFd with
                  | false => rfl
                  | true =>
                      cases copy.openIn with
                      | false => rfl
                      | true => exact transfer_snd copy.reads

theorem saveFunction_snd (w : Wallpapers) :
    (runSteps (saveFunction args env) w).2 =
      (env.rootOpens && (wallpaperNames args).zipIdx.all fun p =>
        copies args (env.copies p.2) p.1) := by
  rw [saveFunction, runSteps]
  simp only [↓reduceIte]
  rw [runSteps]
  cases env.rootOpens with
  | true =>
      exact runSteps_map_snd (fun p w => copyWallpaper_snd _ p.1 w) _ _
  | false => rfl

/-- The child ends well exactly when nothing behind the writing fails. -/
theorem runAsPlasmaLoginUser_saveFunction (hhome : env.user.homeDir ≠ [])
    (hrepaired : env.repaired = true) (w : Wallpapers) :
    (runAsPlasmaLoginUser env.user env.run (saveFunction args env) w).2 =
      true ↔ Finishes args env := by
  constructor
  · intro h
    obtain ⟨hvalid, hrun⟩ := completes_of_runAsPlasmaLoginUser h
    rw [runAsPlasmaLoginUser_of_completes hvalid hrun, saveFunction_snd,
      Bool.and_eq_true, List.all_eq_true] at h
    exact ⟨hhome, hvalid, hrepaired, hrun, h.1, h.2⟩
  · intro h
    rw [runAsPlasmaLoginUser_of_completes h.valid h.run, saveFunction_snd,
      Bool.and_eq_true, List.all_eq_true]
    exact ⟨h.root, h.copies⟩

/-- Once the text is written the file stays as it is, and the reply says
whether the rest went well. -/
theorem save_of_written {s : SaveState} (hopens : env.opens = true)
    (hsize : oversized args = false) :
    (save args env s).2.config = some (storedConfig args env) ∧
      ((save args env s).1 = .success ↔ Finishes args env) := by
  rw [save, hopens, hsize]
  simp only [Bool.not_true, Bool.false_eq_true, ↓reduceIte]
  split
  next hdir =>
    refine ⟨rfl, iff_of_false (by simp) fun h => ?_⟩
    rw [plasmaloginUserHomeDir, if_neg (by simpa using h.home)] at hdir
    exact absurd hdir (by simp)
  next hdir =>
    have hhome : env.user.homeDir ≠ [] := by
      intro heq
      apply hdir
      rw [plasmaloginUserHomeDir, heq]
      rfl
    split
    next hadjust =>
      refine ⟨rfl, iff_of_false (by simp) fun h => ?_⟩
      simp [adjustPermissionsFromPlasma6_6, h.valid, h.repaired, h.home]
        at hadjust
    next hadjust =>
      have hrepaired : env.repaired = true := by
        simp only [adjustPermissionsFromPlasma6_6, Bool.not_eq_true,
          Bool.not_eq_false', Bool.and_eq_true] at hadjust
        exact hadjust.2
      refine ⟨rfl, ?_⟩
      rw [← runAsPlasmaLoginUser_saveFunction hhome hrepaired s.wallpapers]
      split
      next hrun => exact iff_of_true rfl hrun
      next hrun => exact iff_of_false (by simp) hrun

end function

end PlasmaLoginAuthHelper

open PlasmaLoginAuthHelper in
/-- A `save` is all or nothing if and only if the file cannot be opened, or
the text gets into it whole and nothing fails behind that, or the file held
what it is left with. -/
theorem save_allOrNothing_iff (args : QString → Option Variant)
    (env : SaveSurroundings) (s : SaveState) :
    AllOrNothing args s (save args env s) ↔
      env.opens = false ∨
        (oversized args = true ∧ s.config = some []) ∨
        (oversized args = false ∧
          ((Finishes args env ∧
              storedConfig args env = (configText args).streamed) ∨
            (¬ Finishes args env ∧
              s.config = some (storedConfig args env)))) := by
  cases hopens : env.opens with
  | false =>
      have hsave : save args env s = (.helperError, s) := by
        rw [save, hopens]
        rfl
      rw [hsave]
      exact iff_of_true ⟨fun _ => rfl, fun h => absurd h (by simp)⟩
        (Or.inl rfl)
  | true =>
      cases hsize : oversized args with
      | true =>
          have hsave : save args env s =
              (.helperError, { s with config := some [] }) := by
            rw [save, hopens, hsize]
            rfl
          rw [hsave]
          constructor
          · exact fun h => Or.inr (Or.inl ⟨rfl, (h.1 rfl).symm⟩)
          · rintro (h | ⟨_, hempty⟩ | ⟨h, _⟩)
            · exact absurd h (by simp)
            · exact ⟨fun _ => hempty.symm, fun h => absurd h (by simp)⟩
            · exact absurd h (by simp)
      | false =>
          obtain ⟨hconfig, hreply⟩ := save_of_written (s := s) hopens hsize
          have herror : (save args env s).1 = .helperError ↔
              ¬ Finishes args env := by
            rw [← hreply]
            cases (save args env s).1 <;> simp
          rw [AllOrNothing, hconfig, hreply, herror]
          by_cases hfinishes : Finishes args env
          · simp [hfinishes]
          · simp [hfinishes, eq_comm (a := s.config)]

open PlasmaLoginAuthHelper in
/-- Without a user for the greeter the new text stays behind an error, and the
text is lost without one when the system is full. -/
theorem save_not_allOrNothing :
    (¬ ∀ (args : QString → Option Variant) (env : SaveSurroundings)
      (s : SaveState), AllOrNothing args s (save args env s)) ∧
      ¬ AllOrNothing (fun _ => some { toString := "[Greeter]" })
        { config := some [] }
        (save (fun _ => some { toString := "[Greeter]" })
          { user := ⟨true, "/var/lib/plasmalogin"⟩, stored := some 0 }
          { config := some [] }) := by
  refine ⟨fun h => ?_, fun h => absurd (h.2 rfl) (by decide)⟩
  have herror := (h (fun _ => some { toString := "[Greeter]" })
    { user := ⟨false, []⟩ } { config := some [] }).1 rfl
  exact absurd herror (by decide)

end PlasmaLogin

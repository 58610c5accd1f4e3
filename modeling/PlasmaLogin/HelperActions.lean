/-
What the privileged helper of the settings module starts from: the arguments
of an action, the greeter's user, and the child process that runs a function
as that user.
-/
import PlasmaLogin.QString

namespace PlasmaLogin

inductive ActionReply where
  | success
  | helperError
deriving DecidableEq, Repr

/-- `KUser("plasmalogin")`. -/
structure GreeterUser where
  valid : Bool := true
  homeDir : QString

/-- `plasmaloginUserHomeDir`. -/
def plasmaloginUserHomeDir (user : GreeterUser) : Option QString :=
  if user.homeDir.isEmpty then none else some user.homeDir

/-- `PlasmaLoginAuthHelper::adjustPermissionsFromPlasma6_6`; `repaired` says
whether the home directory could be opened and everything in it was made the
user's. -/
def adjustPermissionsFromPlasma6_6 (user : GreeterUser) (repaired : Bool) :
    Bool :=
  user.valid && !user.homeDir.isEmpty && repaired

/-- What becomes of a child process; it can be killed after some of its
steps. -/
structure ChildRun where
  forked : Bool := true
  setgid : Bool := true
  setuid : Bool := true
  killedAfter : Option Nat := none
  waited : Bool := true

/-- Everything about the child that does not depend on its function went
well. -/
def ChildRun.Completes (run : ChildRun) : Prop :=
  run.forked = true ∧ run.setgid = true ∧ run.setuid = true ∧
    run.killedAfter = none ∧ run.waited = true

instance (run : ChildRun) : Decidable run.Completes :=
  inferInstanceAs (Decidable (_ ∧ _ ∧ _ ∧ _ ∧ _))

section child

variable {σ : Type}

/-- The steps of a function; one that fails is the last. -/
def runSteps : List (σ → σ × Bool) → σ → σ × Bool
  | [], s => (s, true)
  | step :: steps, s =>
      let r := step s
      if r.2 then runSteps steps r.1 else (r.1, false)

/-- `runAsPlasmaLoginUser`. -/
def runAsPlasmaLoginUser (user : GreeterUser) (run : ChildRun)
    (function : List (σ → σ × Bool)) (s : σ) : σ × Bool :=
  if !user.valid then (s, false)
  else if !run.forked then (s, false)
  else if !run.setgid || !run.setuid then (s, false)
  else
    match run.killedAfter with
    | some n => ((runSteps (function.take n) s).1, false)
    | none =>
        let r := runSteps function s
        (r.1, run.waited && r.2)

theorem runAsPlasmaLoginUser_of_completes {user : GreeterUser}
    {run : ChildRun} (huser : user.valid = true) (hrun : run.Completes)
    (function : List (σ → σ × Bool)) (s : σ) :
    runAsPlasmaLoginUser user run function s = runSteps function s := by
  obtain ⟨hforked, hgid, huid, hkilled, hwaited⟩ := hrun
  simp [runAsPlasmaLoginUser, huser, hforked, hgid, huid, hkilled, hwaited]

theorem completes_of_runAsPlasmaLoginUser {user : GreeterUser}
    {run : ChildRun} {function : List (σ → σ × Bool)} {s : σ}
    (h : (runAsPlasmaLoginUser user run function s).2 = true) :
    user.valid = true ∧ run.Completes := by
  unfold runAsPlasmaLoginUser at h
  split at h
  · exact absurd h Bool.false_ne_true
  next huser =>
    split at h
    · exact absurd h Bool.false_ne_true
    next hforked =>
      split at h
      · exact absurd h Bool.false_ne_true
      next hids =>
        rw [Bool.or_eq_true, not_or] at hids
        split at h
        · exact absurd h Bool.false_ne_true
        next hkilled =>
          rw [Bool.and_eq_true] at h
          exact ⟨by simpa using huser, by simpa using hforked,
            by simpa using hids.1, by simpa using hids.2, hkilled, h.1⟩

theorem runSteps_cons_of_true {step : σ → σ × Bool} {s : σ}
    (h : (step s).2 = true) (steps : List (σ → σ × Bool)) :
    runSteps (step :: steps) s = runSteps steps (step s).1 := by
  rw [runSteps]
  simp only [h, ↓reduceIte]

theorem runSteps_cons_of_false {step : σ → σ × Bool} {s : σ}
    (h : (step s).2 = false) (steps : List (σ → σ × Bool)) :
    runSteps (step :: steps) s = ((step s).1, false) := by
  rw [runSteps]
  simp only [h, Bool.false_eq_true, ↓reduceIte]

/-- Of steps that succeed the first one does. -/
theorem of_runSteps_cons {step : σ → σ × Bool} {steps : List (σ → σ × Bool)}
    {s : σ} (h : (runSteps (step :: steps) s).2 = true) :
    (step s).2 = true ∧
      runSteps (step :: steps) s = runSteps steps (step s).1 := by
  cases hstep : (step s).2 with
  | true => exact ⟨rfl, runSteps_cons_of_true hstep steps⟩
  | false =>
      rw [runSteps_cons_of_false hstep] at h
      exact absurd h Bool.false_ne_true

/-- What every step keeps, failures included, the steps keep. -/
theorem runSteps_invariant {I : σ → Prop} {steps : List (σ → σ × Bool)} {s : σ}
    (hsteps : ∀ step ∈ steps, ∀ s, I s → I (step s).1) (hs : I s) :
    I (runSteps steps s).1 := by
  induction steps generalizing s with
  | nil => exact hs
  | cons step steps ih =>
      rw [List.forall_mem_cons] at hsteps
      have hstep := hsteps.1 s hs
      cases hok : (step s).2 with
      | true =>
          rw [runSteps_cons_of_true hok]
          exact ih hsteps.2 hstep
      | false =>
          rw [runSteps_cons_of_false hok]
          exact hstep

/-- Functions that end alike make a child end alike. -/
theorem runAsPlasmaLoginUser_snd_congr {τ : Type} {user : GreeterUser}
    {run : ChildRun} {function : List (σ → σ × Bool)}
    {function' : List (τ → τ × Bool)} {s : σ} {s' : τ}
    (h : (runSteps function s).2 = (runSteps function' s').2) :
    (runAsPlasmaLoginUser user run function s).2 =
      (runAsPlasmaLoginUser user run function' s').2 := by
  unfold runAsPlasmaLoginUser
  split
  · rfl
  · split
    · rfl
    · split
      · rfl
      · split
        · rfl
        · simp only [h]

/-- Whatever becomes of the child, it has done some first of its steps. -/
theorem runAsPlasmaLoginUser_fst {P : σ → Prop} {user : GreeterUser}
    {run : ChildRun} {function : List (σ → σ × Bool)} {s : σ}
    (h : ∀ n, P (runSteps (function.take n) s).1) :
    P (runAsPlasmaLoginUser user run function s).1 := by
  unfold runAsPlasmaLoginUser
  split
  · exact h 0
  · split
    · exact h 0
    · split
      · exact h 0
      · split
        next n _ => exact h n
        next =>
          have hall := h function.length
          rwa [List.take_length] at hall

/-- Steps that never fail, one after the other. -/
theorem runSteps_of_forall {steps : List (σ → σ)} (s : σ) :
    runSteps (steps.map fun step s => (step s, true)) s =
      (steps.foldl (fun s step => step s) s, true) := by
  induction steps generalizing s with
  | nil => rfl
  | cons step steps ih => exact ih (step s)

/-- A loop whose turns succeed whatever the state is. -/
theorem runSteps_map_snd {α : Type} {turn : α → σ → σ × Bool} {ok : α → Bool}
    (h : ∀ a s, (turn a s).2 = ok a) (items : List α) (s : σ) :
    (runSteps (items.map turn) s).2 = items.all ok := by
  induction items generalizing s with
  | nil => rfl
  | cons a items ih =>
      rw [List.map_cons, runSteps, List.all_cons, h a s]
      cases ok a with
      | true => exact ih _
      | false => rfl

/-- A loop succeeds when every turn does, from the state it starts in. -/
theorem runSteps_map_iff {α : Type} {turn : α → σ → σ × Bool} (items : List α)
    (s : σ) : (runSteps (items.map turn) s).2 = true ↔
      ∀ i a, items[i]? = some a →
        (turn a (runSteps ((items.take i).map turn) s).1).2 = true := by
  induction items generalizing s with
  | nil => simp [runSteps]
  | cons a items ih =>
      rw [List.map_cons]
      cases hok : (turn a s).2 with
      | true =>
          rw [runSteps_cons_of_true hok, ih]
          constructor
          · intro h i b hb
            cases i with
            | zero =>
                obtain rfl := Option.some.inj hb
                exact hok
            | succ i =>
                rw [List.take_succ_cons, List.map_cons,
                  runSteps_cons_of_true hok]
                exact h i b hb
          · intro h i b hb
            have hturn := h (i + 1) b hb
            rwa [List.take_succ_cons, List.map_cons,
              runSteps_cons_of_true hok] at hturn
      | false =>
          rw [runSteps_cons_of_false hok]
          refine iff_of_false Bool.false_ne_true fun h => ?_
          have hturn := h 0 a rfl
          rw [List.take_zero, List.map_nil, runSteps, hok] at hturn
          exact absurd hturn Bool.false_ne_true

end child

/-- A `QVariant`, by what it is converted to; the descriptor counts when it is
valid and of a regular file. -/
structure Variant where
  toString : QString := []
  toStringList : List QString := []
  regularFd : Bool := false

namespace QString

/-- The bytes `QTextStream` writes.  A lone surrogate is written as U+FFFD; a
high one at the end is kept back for text that does not come. -/
def streamed : QString → QByteArray
  | [] => []
  | [c] => if isHighSurrogate c then []
      else if isLowSurrogate c then [0xEF, 0xBF, 0xBD]
      else utf8Bytes c.toNat
  | c :: d :: rest =>
      if isHighSurrogate c && isLowSurrogate d then
        utf8Bytes (0x10000 + (c.toNat - 0xD800) * 0x400 + (d.toNat - 0xDC00))
          ++ streamed rest
      else if isHighSurrogate c || isLowSurrogate c then
        [0xEF, 0xBF, 0xBD] ++ streamed (d :: rest)
      else utf8Bytes c.toNat ++ streamed (d :: rest)

end QString

end PlasmaLogin

/-
How a kernel walks a path: a tree of directories with a parent each, where
looking a name up follows symbolic links.  Walks that only stay where they are
lead to an entry of the directory they start from; any other walk leads
elsewhere in some file system.
-/
import Mathlib.Data.Fin.Basic
import Mathlib.Data.List.Basic

namespace PathWalk

universe u v

variable {ν : Type u} {γ : Type v}

/-- Files and directories `ν` with entries named by `γ`; the lookup of an
entry follows symbolic links, so one node can have many names. -/
structure FileSystem (ν : Type u) (γ : Type v) where
  root : ν
  isDir : ν → Bool
  isFile : ν → Bool
  parent : ν → ν
  entry : ν → γ → Option ν
  root_isDir : isDir root = true
  parent_root : parent root = root
  isDir_of_isFile : ∀ n, isFile n = true → isDir n = false
  entry_parent : ∀ n, n ≠ root → ∃ name, entry (parent n) name = some n

/-- What one component of a path asks for. -/
inductive Move (γ : Type v) where
  | stay
  | up
  | down (name : γ)
deriving DecidableEq

namespace FileSystem

/-- One component; only directories can be walked. -/
def move (fs : FileSystem ν γ) (n : ν) (m : Move γ) : Option ν :=
  if fs.isDir n then
    match m with
    | .stay => some n
    | .up => some (fs.parent n)
    | .down name => fs.entry n name
  else none

/-- The node a path leads to.  Behind a name that is missing there is none,
not even with `up`. -/
def walk (fs : FileSystem ν γ) : ν → List (Move γ) → Option ν
  | n, [] => some n
  | n, m :: ms => (fs.move n m).bind fun n => fs.walk n ms

@[simp] theorem walk_nil (fs : FileSystem ν γ) (n : ν) :
    fs.walk n [] = some n := rfl

@[simp] theorem walk_cons (fs : FileSystem ν γ) (n : ν) (m : Move γ)
    (ms : List (Move γ)) :
    fs.walk n (m :: ms) = (fs.move n m).bind fun n => fs.walk n ms := rfl

theorem walk_append (fs : FileSystem ν γ) (n : ν) (first rest : List (Move γ)) :
    fs.walk n (first ++ rest) =
      (fs.walk n first).bind fun n => fs.walk n rest := by
  induction first generalizing n with
  | nil => rfl
  | cons m first ih =>
      rw [List.cons_append, walk_cons, walk_cons]
      cases fs.move n m with
      | none => rfl
      | some n' => exact ih n'

theorem move_stay {fs : FileSystem ν γ} {n : ν} (h : fs.isDir n = true) :
    fs.move n .stay = some n := by
  rw [move, if_pos h]

theorem entry_of_move_down {fs : FileSystem ν γ} {n n' : ν} {name : γ}
    (h : fs.move n (.down name) = some n') : fs.entry n name = some n' := by
  unfold move at h
  split at h
  · exact h
  · exact absurd h (by simp)

/-- Staying first changes nothing for a lookup. -/
theorem walk_stay_down (fs : FileSystem ν γ) (n : ν) (name : γ)
    (ms : List (Move γ)) :
    fs.walk n (.stay :: .down name :: ms) = fs.walk n (.down name :: ms) := by
  cases hdir : fs.isDir n with
  | true => rw [walk_cons, move_stay hdir, Option.bind_some]
  | false => simp [move, hdir]

/-- A walk that stays and then looks a name up ends at an entry of the
directory it starts from. -/
theorem entry_of_walk_stays {fs : FileSystem ν γ} {n n' : ν}
    {ms : List (Move γ)} (hms : ∀ m ∈ ms, m = .stay) {name : γ}
    (h : fs.walk n (ms ++ [.down name]) = some n') :
    fs.entry n name = some n' := by
  induction ms with
  | nil =>
      rw [List.nil_append, walk_cons] at h
      obtain ⟨n'', hmove, heq⟩ := Option.bind_eq_some_iff.1 h
      cases heq
      exact entry_of_move_down hmove
  | cons m ms ih =>
      rw [List.forall_mem_cons] at hms
      obtain ⟨rfl, hrest⟩ := hms
      apply ih hrest
      rw [List.cons_append, walk_cons] at h
      obtain ⟨n'', hmove, hwalk⟩ := Option.bind_eq_some_iff.1 h
      unfold move at hmove
      split at hmove
      · cases hmove
        exact hwalk
      · simp at hmove

end FileSystem

section Tower

variable [DecidableEq γ]

/-- The directory above, in a tower of `h + 2` nested directories. -/
def Tower.above {h : Nat} (i : Fin (h + 2)) : Fin (h + 2) :=
  ⟨min (i + 1) (h + 1), by omega⟩

/-- The directory below. -/
def Tower.below {h : Nat} (i : Fin (h + 2)) : Option (Fin (h + 2)) :=
  if 0 < i.val then some ⟨i - 1, by omega⟩ else none

/-- Nested directories, numbered from the innermost one.  `inner` names the
directory below, `link` in the root links to the innermost one, `last` in
directory `h` names the only file and every other name links to the directory
above. -/
def tower (h : Nat) {inner link last : γ} (hlink : inner ≠ link)
    (hlast : inner ≠ last) : FileSystem (Option (Fin (h + 2))) γ where
  root := some (Fin.last (h + 1))
  isDir := Option.isSome
  isFile := Option.isNone
  parent
    | none => some ⟨h, by omega⟩
    | some i => some (Tower.above i)
  entry
    | none, _ => none
    | some i, name =>
        if i = Fin.last (h + 1) ∧ name = link then some (some 0)
        else if i.val = h ∧ name = last then some none
        else if name = inner then (Tower.below i).map some
        else some (some (Tower.above i))
  root_isDir := rfl
  parent_root := by simp [Tower.above, Fin.last]
  isDir_of_isFile n hn := by cases n <;> simp_all
  entry_parent := by
    rintro (_ | i) hi
    · exact ⟨last, by simp [Fin.ext_iff]⟩
    · have hbelow : i.val < h + 1 := by
        rw [ne_eq, Option.some.injEq, Fin.ext_iff, Fin.val_last] at hi
        omega
      refine ⟨inner, ?_⟩
      simp only [hlink, hlast, and_false, if_false, if_true]
      have habove : (Tower.above i).val = i + 1 := by
        simp only [Tower.above]
        omega
      simp [Tower.below, habove]

variable {h : Nat} {inner link last : γ} {hlink : inner ≠ link}
  {hlast : inner ≠ last}

/-- Every move but staying climbs the tower. -/
theorem tower_move {m : Move γ} (hm : m ≠ .down inner) (hstay : m ≠ .stay)
    {i : Fin (h + 2)} (hi : i.val < h) :
    (tower h hlink hlast).move (some i) m =
      some (some ⟨i + 1, by omega⟩) := by
  have habove : Tower.above i = ⟨i + 1, by omega⟩ := by
    simp only [Tower.above, Fin.mk.injEq]
    omega
  cases m with
  | stay => exact absurd rfl hstay
  | up => exact congrArg (some <| some ·) habove
  | down name =>
      have hname : name ≠ inner := fun heq => hm (heq ▸ rfl)
      have hroot : i ≠ Fin.last (h + 1) := by
        rw [ne_eq, Fin.ext_iff, Fin.val_last]
        omega
      change (if i = Fin.last (h + 1) ∧ name = link then some (some 0)
        else if i.val = h ∧ name = last then some none
        else if name = inner then (Tower.below i).map some
        else some (some (Tower.above i))) = _
      rw [if_neg (fun hc => hroot hc.1), if_neg (fun hc => hi.ne hc.1),
        if_neg hname, habove]

theorem tower_walk {ms : List (Move γ)} (hms : .down inner ∉ ms)
    {i : Fin (h + 2)} (hi : i + ms.countP (· ≠ .stay) ≤ h) :
    (tower h hlink hlast).walk (some i) ms =
      some (some ⟨i + ms.countP (· ≠ .stay), by omega⟩) := by
  induction ms generalizing i with
  | nil => rfl
  | cons m ms ih =>
      rw [List.mem_cons, not_or] at hms
      by_cases hstay : m = .stay
      · subst hstay
        have hcount : (Move.stay :: ms).countP (· ≠ .stay) =
            ms.countP (· ≠ .stay) := by simp
        simp only [hcount] at hi ⊢
        exact ih hms.2 hi
      · have hcount : (m :: ms).countP (· ≠ .stay) =
            ms.countP (· ≠ .stay) + 1 := by simp [hstay]
        simp only [hcount] at hi ⊢
        rw [FileSystem.walk_cons, tower_move (Ne.symm hms.1) hstay (by omega),
          Option.bind_some, ih hms.2 (by simp only; omega)]
        congr 3
        simp only
        omega

/-- A walk that does not just stay leads out of the directory it starts from:
there is a file system where it ends at a file that is not an entry of it. -/
theorem exists_walk_out {ms : List (Move γ)} (hmoves : ∃ m ∈ ms, m ≠ .stay)
    {inner link last : γ} (hlink : inner ≠ link) (hlast : inner ≠ last)
    (hms : .down inner ∉ ms) :
    ∃ (ν : Type) (fs : FileSystem ν γ) (start file : ν),
      fs.move fs.root (.down link) = some start ∧
        fs.walk start (ms ++ [.down last]) = some file ∧
        fs.isFile file = true ∧ ∀ name, fs.entry start name ≠ some file := by
  let h := ms.countP (· ≠ .stay)
  have hpos : 0 < h := by
    rw [List.countP_pos_iff]
    obtain ⟨m, hm, hne⟩ := hmoves
    exact ⟨m, hm, by simpa using hne⟩
  refine ⟨_, tower h hlink hlast, some 0, none, ?_, ?_, rfl, ?_⟩
  · change (if Fin.last (h + 1) = Fin.last (h + 1) ∧ link = link
      then some (some 0) else _) = _
    rw [if_pos ⟨rfl, rfl⟩]
  · rw [FileSystem.walk_append, tower_walk hms (by simp [h]),
      Option.bind_some]
    simp [FileSystem.move, tower, h, Fin.ext_iff]
  · intro name
    have hzero : ¬ (0 : Fin (h + 2)) = Fin.last (h + 1) := by
      simp [Fin.ext_iff]
    change (if (0 : Fin (h + 2)) = Fin.last (h + 1) ∧ name = link
      then some (some 0)
      else if (0 : Fin (h + 2)).val = h ∧ name = last then some none
      else if name = inner then (Tower.below (0 : Fin (h + 2))).map some
      else some (some (Tower.above 0))) ≠ _
    rw [if_neg (fun hc => hzero hc.1), if_neg (fun hc => hpos.ne hc.1)]
    split <;> simp [Tower.below]

end Tower

end PathWalk

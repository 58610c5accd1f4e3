/-
`adjustOwnershipRecursively`, which makes everything in the greeter's home
directory the greeter's.  Any of its calls can fail, and the repair goes on
with what is left.
-/
import PlasmaLogin.DirectoryTree
import PlasmaLogin.HelperActions
import PlasmaLogin.Mealy
import Mathlib.Logic.Function.Basic

namespace PlasmaLogin

open DirectoryTree Mealy

/-- The calls of the repair, by the path they are for. -/
inductive OwnerCall (N : Type) where
  | fdopendir (path : List N)
  | fstatat (path : List N)
  | openat2 (path : List N)
  | fchownat (path : List N) (uid gid : UInt32)
deriving DecidableEq

/-- Which calls fail. -/
structure FailingCalls (N : Type) where
  fdopendir : List N → Bool
  fstatat : List N → Bool
  openat2 : List N → Bool
  fchownat : List N → Bool

namespace FailingCalls

variable {N : Type} (f : FailingCalls N)

def fails : OwnerCall N → Bool
  | .fdopendir path => f.fdopendir path
  | .fstatat path => f.fstatat path
  | .openat2 path => f.openat2 path
  | .fchownat path _ _ => f.fchownat path

/-- A directory that was opened is listed, or it is not. -/
def listed (dir : List N) (loop : Bool × List (OwnerCall N)) :
    Bool × List (OwnerCall N) :=
  if f.fdopendir dir then (false, [.fdopendir dir])
  else (loop.1, .fdopendir dir :: loop.2)

/-- An entry is looked at, and the rest of its turn depends on it. -/
def statted (entry : List N) (turn : Bool × List (OwnerCall N)) :
    Bool × List (OwnerCall N) :=
  if f.fstatat entry then (false, [.fstatat entry])
  else (turn.1, .fstatat entry :: turn.2)

/-- The end of an entry's turn. -/
def changeOwner (uid gid : UInt32) (entry : List N) (success : Bool) :
    Bool × List (OwnerCall N) :=
  (success && !f.fchownat entry, [.fchownat entry uid gid])

/-- The turn of a directory that was looked at; `loop` is what its own
entries come to. -/
def enterDirectory (uid gid : UInt32) (entry : List N) (success : Bool)
    (loop : Bool × List (OwnerCall N)) : Bool × List (OwnerCall N) :=
  if f.openat2 entry then (false, [.openat2 entry])
  else
    let child := f.listed entry loop
    andThen (child.1 && success, .openat2 entry :: child.2)
      (f.changeOwner uid gid entry)

/-- The loop over the entries of a directory; `.` and `..` are skipped. -/
def adjustEntries (uid gid : UInt32) :
    List N → Bool → Listing N → Bool × List (OwnerCall N)
  | _, success, .nil => (success, [])
  | path, success, .self rest => adjustEntries uid gid path success rest
  | path, success, .parent rest => adjustEntries uid gid path success rest
  | path, success, .file name rest =>
      let entry := path ++ [name]
      andThen (f.statted entry (f.changeOwner uid gid entry success))
        fun success => adjustEntries uid gid path success rest
  | path, success, .link name rest =>
      andThen (f.statted (path ++ [name]) (success, []))
        fun success => adjustEntries uid gid path success rest
  | path, success, .dir name entries rest =>
      let entry := path ++ [name]
      let loop := adjustEntries uid gid entry true entries
      andThen (f.statted entry (f.enterDirectory uid gid entry success loop))
        fun success => adjustEntries uid gid path success rest

/-- `adjustOwnershipRecursively`, with its calls. -/
def adjustOwnershipRecursively (uid gid : UInt32) (path : List N)
    (entries : Listing N) : Bool × List (OwnerCall N) :=
  f.listed path (f.adjustEntries uid gid path true entries)

end FailingCalls

/-- The owners after a call. -/
def FailingCalls.ownersAfterCall {N : Type} [DecidableEq N]
    (f : FailingCalls N) (owner : List N → UInt32 × UInt32) :
    OwnerCall N → List N → UInt32 × UInt32
  | .fchownat path uid gid =>
      if f.fchownat path then owner
      else Function.update owner path (uid, gid)
  | .fdopendir _ | .fstatat _ | .openat2 _ => owner

/-- The owners the calls leave behind. -/
def FailingCalls.ownersAfter {N : Type} [DecidableEq N] (f : FailingCalls N)
    (owner : List N → UInt32 × UInt32) (calls : List (OwnerCall N)) :
    List N → UInt32 × UInt32 :=
  calls.foldl f.ownersAfterCall owner

namespace FailingCalls

variable {N : Type} {f : FailingCalls N} {uid gid : UInt32}

/-- A directory on the way could be looked at, opened and listed. -/
def Entered (f : FailingCalls N) (dir : List N) : Prop :=
  f.fstatat dir = false ∧ f.openat2 dir = false ∧ f.fdopendir dir = false

/-- So could all directories between `path` and the entry. -/
def Through (f : FailingCalls N) (path rel : List N) : Prop :=
  ∀ q, q ≠ [] → q <+: rel → q ≠ rel → f.Entered (path ++ q)

theorem through_singleton (path : List N) (name : N) :
    f.Through path [name] := by
  intro q hne hprefix hproper
  cases q with
  | nil => exact absurd rfl hne
  | cons first q =>
      rw [List.cons_prefix_cons] at hprefix
      obtain ⟨rfl, hnil⟩ := hprefix
      exact absurd (by rw [List.prefix_nil.1 hnil]) hproper

theorem through_cons {path rest : List N} {name : N} (hrest : rest ≠ []) :
    f.Through path (name :: rest) ↔
      f.Entered (path ++ [name]) ∧ f.Through (path ++ [name]) rest := by
  constructor
  · intro h
    constructor
    · apply h [name] (by simp) (by simp)
      intro heq
      exact hrest (List.cons.inj heq).2.symm
    · intro q hne hprefix hproper
      have hentered := h (name :: q) (by simp)
        (List.cons_prefix_cons.2 ⟨rfl, hprefix⟩)
        (fun heq => hproper (List.cons.inj heq).2)
      simpa using hentered
  · rintro ⟨hentered, h⟩ q hne hprefix hproper
    cases q with
    | nil => exact absurd rfl hne
    | cons first q =>
        rw [List.cons_prefix_cons] at hprefix
        obtain ⟨rfl, hprefix⟩ := hprefix
        by_cases hq : q = []
        · rw [hq]
          exact hentered
        · have hdeeper := h q hq hprefix fun heq => hproper (heq ▸ rfl)
          simpa using hdeeper

/-- An entry whose turn comes to its end. -/
def Repairs (f : FailingCalls N) (p : List N) (k : FileKind) : Prop :=
  f.fstatat p = false ∧ k ≠ .link ∧ (k = .dir → f.openat2 p = false)

/-- The calls made for the entry itself in its turn. -/
def Made (f : FailingCalls N) (uid gid : UInt32) (p : List N) (k : FileKind) :
    OwnerCall N → Prop
  | .fstatat q => q = p
  | .openat2 q => q = p ∧ f.fstatat p = false ∧ k = .dir
  | .fdopendir q =>
      q = p ∧ f.fstatat p = false ∧ k = .dir ∧ f.openat2 p = false
  | .fchownat q u g => q = p ∧ u = uid ∧ g = gid ∧ f.Repairs p k

theorem mem_statted_iff {entry : List N} {turn : Bool × List (OwnerCall N)}
    {call : OwnerCall N} : call ∈ (f.statted entry turn).2 ↔
      call = .fstatat entry ∨ f.fstatat entry = false ∧ call ∈ turn.2 := by
  rw [statted]
  cases f.fstatat entry <;> simp

theorem mem_listed_iff {dir : List N} {loop : Bool × List (OwnerCall N)}
    {call : OwnerCall N} : call ∈ (f.listed dir loop).2 ↔
      call = .fdopendir dir ∨ f.fdopendir dir = false ∧ call ∈ loop.2 := by
  rw [listed]
  cases f.fdopendir dir <;> simp

theorem made_file_iff {entry : List N} {success : Bool} {call : OwnerCall N} :
    call ∈ (f.statted entry (f.changeOwner uid gid entry success)).2 ↔
      f.Made uid gid entry .file call := by
  rw [mem_statted_iff, changeOwner]
  cases call <;> simp [Made, Repairs, and_comm, and_assoc, and_left_comm]

variable (uid gid) in
theorem made_link_iff {entry : List N} {success : Bool} {call : OwnerCall N} :
    call ∈ (f.statted entry (success, [])).2 ↔
      f.Made uid gid entry .link call := by
  rw [mem_statted_iff]
  cases call <;> simp [Made, Repairs]

theorem made_dir_iff {entry : List N} {success : Bool}
    {loop : Bool × List (OwnerCall N)} {call : OwnerCall N} :
    call ∈ (f.statted entry
        (f.enterDirectory uid gid entry success loop)).2 ↔
      f.Made uid gid entry .dir call ∨ f.Entered entry ∧ call ∈ loop.2 := by
  rw [mem_statted_iff, enterDirectory, Entered]
  by_cases hopen : f.openat2 entry = true
  · rw [if_pos hopen]
    cases call <;> simp [Made, Repairs, hopen, and_comm]
  · rw [if_neg hopen]
    rw [Bool.not_eq_true] at hopen
    simp only [andThen_snd, List.mem_append, List.mem_cons, mem_listed_iff,
      changeOwner, List.not_mem_nil, or_false, hopen, true_and]
    cases call <;> simp [Made, Repairs, hopen] <;> tauto

/-- The entries of a directory are reached through it. -/
theorem exists_below_iff {path : List N} {name : N} {entries : Listing N}
    {call : OwnerCall N} :
    (∃ rel k, (∃ q, rel = name :: q ∧ entries.Has q k) ∧
        f.Through path rel ∧ f.Made uid gid (path ++ rel) k call) ↔
      f.Entered (path ++ [name]) ∧ ∃ rel k, entries.Has rel k ∧
        f.Through (path ++ [name]) rel ∧
          f.Made uid gid (path ++ [name] ++ rel) k call := by
  constructor
  · rintro ⟨_, k, ⟨q, rfl, hhas⟩, hthrough, hmade⟩
    obtain ⟨hentered, hdeeper⟩ := (through_cons hhas.ne_nil).1 hthrough
    refine ⟨hentered, q, k, hhas, hdeeper, ?_⟩
    simpa using hmade
  · rintro ⟨hentered, q, k, hhas, hdeeper, hmade⟩
    refine ⟨name :: q, k, ⟨q, rfl, hhas⟩, ?_, ?_⟩
    · exact (through_cons hhas.ne_nil).2 ⟨hentered, hdeeper⟩
    · simpa using hmade

/-- Every call is made for an entry that can be reached. -/
theorem mem_adjustEntries_iff {path : List N} {success : Bool} {l : Listing N}
    {call : OwnerCall N} :
    call ∈ (f.adjustEntries uid gid path success l).2 ↔
      ∃ rel k, l.Has rel k ∧ f.Through path rel ∧
        f.Made uid gid (path ++ rel) k call := by
  induction l generalizing path success with
  | nil => simp [adjustEntries, Listing.Has]
  | self rest ih => exact ih
  | parent rest ih => exact ih
  | file name rest ih =>
      rw [adjustEntries, andThen_snd, List.mem_append, made_file_iff, ih]
      simp only [Listing.Has, or_and_right, exists_or, and_assoc]
      simp [through_singleton]
  | link name rest ih =>
      rw [adjustEntries, andThen_snd, List.mem_append,
        made_link_iff uid gid, ih]
      simp only [Listing.Has, or_and_right, exists_or, and_assoc]
      simp [through_singleton]
  | dir name entries rest ihe ih =>
      rw [adjustEntries, andThen_snd, List.mem_append, made_dir_iff, ihe, ih,
        ← exists_below_iff]
      simp only [Listing.Has, or_and_right, exists_or, and_assoc, or_assoc]
      simp [through_singleton]

/-- The result is that nothing has failed, neither before nor now. -/
def Reports (f : FailingCalls N) (success : Bool)
    (r : Bool × List (OwnerCall N)) : Prop :=
  r.1 = true ↔ success = true ∧ ∀ call ∈ r.2, f.fails call = false

variable {success : Bool} {r : Bool × List (OwnerCall N)}

theorem Reports.andThen {next : Bool → Bool × List (OwnerCall N)}
    (h : f.Reports success r) (hnext : ∀ b, f.Reports b (next b)) :
    f.Reports success (andThen r next) := by
  have hrest := hnext r.1
  rw [Reports] at h hrest ⊢
  rw [andThen_fst, andThen_snd, hrest, h, List.forall_mem_append, and_assoc]

theorem reports_fail {call : OwnerCall N} (hfails : f.fails call = true) :
    f.Reports success (false, [call]) := by
  simp [Reports, hfails]

theorem Reports.cons {call : OwnerCall N} (h : f.Reports success r)
    (hfails : f.fails call = false) : f.Reports success (r.1, call :: r.2) := by
  rw [Reports] at h ⊢
  rw [h, List.forall_mem_cons]
  simp [hfails]

theorem Reports.statted (h : f.Reports success r) (entry : List N) :
    f.Reports success (f.statted entry r) := by
  rw [FailingCalls.statted]
  split
  next hfails => exact reports_fail hfails
  next hfails => exact h.cons (Bool.not_eq_true _ ▸ hfails)

theorem Reports.listed (h : f.Reports success r) (dir : List N) :
    f.Reports success (f.listed dir r) := by
  rw [FailingCalls.listed]
  split
  next hfails => exact reports_fail hfails
  next hfails => exact h.cons (Bool.not_eq_true _ ▸ hfails)

theorem reports_changeOwner (entry : List N) :
    f.Reports success (f.changeOwner uid gid entry success) := by
  simp [Reports, changeOwner, fails]

theorem Reports.enterDirectory (h : f.Reports true r) (entry : List N) :
    f.Reports success (f.enterDirectory uid gid entry success r) := by
  rw [FailingCalls.enterDirectory]
  split
  next hfails => exact reports_fail hfails
  next hfails =>
    refine Reports.andThen ?_ fun b => reports_changeOwner entry
    have hchild : f.Reports success
        ((f.listed entry r).1 && success, (f.listed entry r).2) := by
      have hlisted := h.listed entry
      rw [Reports] at hlisted ⊢
      rw [Bool.and_eq_true, hlisted, and_comm]
      simp
    exact hchild.cons (Bool.not_eq_true _ ▸ hfails)

variable (f uid gid) in
theorem reports_adjustEntries (path : List N) (success : Bool)
    (l : Listing N) :
    f.Reports success (f.adjustEntries uid gid path success l) := by
  induction l generalizing path success with
  | nil => simp [Reports, adjustEntries]
  | self rest ih => exact ih path success
  | parent rest ih => exact ih path success
  | file name rest ih =>
      exact ((reports_changeOwner _).statted _).andThen fun b => ih path b
  | link name rest ih =>
      have hnothing : f.Reports success (success, []) := by simp [Reports]
      exact (hnothing.statted _).andThen fun b => ih path b
  | dir name entries rest ihe ih =>
      exact (((ihe _ true).enterDirectory _).statted _).andThen fun b =>
        ih path b

/-- The whole repair succeeds when none of its calls fails. -/
theorem adjustOwnershipRecursively_fst_iff (path : List N) (l : Listing N) :
    (f.adjustOwnershipRecursively uid gid path l).1 = true ↔
      ∀ call ∈ (f.adjustOwnershipRecursively uid gid path l).2,
        f.fails call = false := by
  have hreports := (reports_adjustEntries f uid gid path true l).listed path
  rw [adjustOwnershipRecursively]
  exact hreports.trans (and_iff_right rfl)

/-- Everything up to an entry was opened and listed, the directory the repair
began with included. -/
def Ancestors (f : FailingCalls N) (rel : List N) : Prop :=
  ∀ q, q <+: rel → q ≠ rel → f.fdopendir q = false ∧
    (q ≠ [] → f.fstatat q = false ∧ f.openat2 q = false)

theorem ancestors_iff {rel : List N} (hne : rel ≠ []) :
    f.Ancestors rel ↔ f.fdopendir [] = false ∧ f.Through [] rel := by
  constructor
  · intro h
    refine ⟨(h [] List.nil_prefix hne.symm).1, ?_⟩
    intro q hq hprefix hproper
    obtain ⟨hlist, hopen⟩ := h q hprefix hproper
    exact ⟨(hopen hq).1, (hopen hq).2, hlist⟩
  · rintro ⟨hroot, hthrough⟩ q hprefix hproper
    by_cases hq : q = []
    · subst hq
      exact ⟨hroot, fun h => absurd rfl h⟩
    · obtain ⟨hstat, hopen, hlist⟩ := hthrough q hq hprefix hproper
      exact ⟨hlist, fun _ => ⟨hstat, hopen⟩⟩

theorem mem_adjustOwnershipRecursively_iff {l : Listing N}
    {call : OwnerCall N} :
    call ∈ (f.adjustOwnershipRecursively uid gid [] l).2 ↔
      call = .fdopendir [] ∨
        ∃ p k, l.Has p k ∧ f.Ancestors p ∧ f.Made uid gid p k call := by
  rw [adjustOwnershipRecursively, mem_listed_iff, mem_adjustEntries_iff]
  apply or_congr_right
  constructor
  · rintro ⟨hroot, p, k, hhas, hthrough, hmade⟩
    exact ⟨p, k, hhas, (ancestors_iff hhas.ne_nil).2 ⟨hroot, hthrough⟩, hmade⟩
  · rintro ⟨p, k, hhas, hancestors, hmade⟩
    obtain ⟨hroot, hthrough⟩ := (ancestors_iff hhas.ne_nil).1 hancestors
    exact ⟨hroot, p, k, hhas, hthrough, hmade⟩

/-- Besides being looked at, the call of an entry is made for its kind. -/
theorem made_of_mem {tree : DirTree N} {p : List N} {k : FileKind}
    (hp : tree.entries.Has p k) {call : OwnerCall N}
    (hmem : call ∈ (f.adjustOwnershipRecursively uid gid [] tree.entries).2)
    (hcall : ∀ q k', f.Made uid gid q k' call → q = p)
    (hroot : call ≠ .fdopendir []) :
    f.Ancestors p ∧ f.Made uid gid p k call := by
  rcases mem_adjustOwnershipRecursively_iff.1 hmem with hcalled |
    ⟨q, k', hq, hancestors, hmade⟩
  · exact absurd hcalled hroot
  · have hsame := hcall q k' hmade
    subst hsame
    rw [hp.unique tree.distinct hq]
    exact ⟨hancestors, hmade⟩

theorem fchownat_mem_iff {tree : DirTree N} {p : List N} {k : FileKind}
    (hp : tree.entries.Has p k) :
    .fchownat p uid gid ∈
        (f.adjustOwnershipRecursively uid gid [] tree.entries).2 ↔
      f.Ancestors p ∧ f.Repairs p k := by
  constructor
  · intro hmem
    obtain ⟨hancestors, hmade⟩ := made_of_mem hp hmem
      (fun q k' hmade => hmade.1.symm) (by simp)
    exact ⟨hancestors, hmade.2.2.2⟩
  · rintro ⟨hancestors, hrepairs⟩
    exact mem_adjustOwnershipRecursively_iff.2
      (Or.inr ⟨p, k, hp, hancestors, rfl, rfl, rfl, hrepairs⟩)

/-- No directory is opened or listed at a symbolic link. -/
theorem not_descends {tree : DirTree N} {p : List N}
    (hp : tree.entries.Has p .link) :
    .openat2 p ∉ (f.adjustOwnershipRecursively uid gid [] tree.entries).2 ∧
      .fdopendir p ∉
        (f.adjustOwnershipRecursively uid gid [] tree.entries).2 := by
  constructor
  · intro hmem
    have hmade := (made_of_mem hp hmem (fun q k' hmade => hmade.1.symm)
      (by simp)).2
    exact absurd hmade.2.2 (by decide)
  · intro hmem
    have hmade := (made_of_mem hp hmem (fun q k' hmade => hmade.1.symm)
      (by simpa using hp.ne_nil)).2
    exact absurd hmade.2.2.1 (by decide)

/-- An entry has the new owner once a call for it has succeeded. -/
theorem ownersAfter_apply [DecidableEq N] {calls : List (OwnerCall N)}
    (hsame : ∀ q u g, .fchownat q u g ∈ calls → u = uid ∧ g = gid)
    (owner : List N → UInt32 × UInt32) (p : List N) :
    f.ownersAfter owner calls p =
      if .fchownat p uid gid ∈ calls ∧ f.fchownat p = false then (uid, gid)
      else owner p := by
  induction calls generalizing owner with
  | nil => simp [ownersAfter]
  | cons call calls ih =>
      have hrest := ih fun q u g hmem =>
        hsame q u g (List.mem_cons_of_mem _ hmem)
      rw [ownersAfter, List.foldl_cons, ← ownersAfter, hrest]
      cases call with
      | fchownat q u g =>
          obtain ⟨rfl, rfl⟩ := hsame q u g List.mem_cons_self
          rw [ownersAfterCall]
          by_cases hq : p = q
          · subst hq
            cases f.fchownat p <;> simp
          · cases f.fchownat q <;> simp [hq]
      | _ => simp [ownersAfterCall]

end FailingCalls

open FailingCalls in
/-- Whatever fails, symbolic links stay as they are, every other entry is given
to the new owner if it could be looked at (and, as a directory, opened) and
everything above it could be opened and listed, and the repair reports success
when nothing has failed. -/
theorem adjustOwnership_covers {N : Type} [DecidableEq N] (tree : DirTree N)
    (f : FailingCalls N) (uid gid : UInt32)
    (owner : List N → UInt32 × UInt32) :
    let r := f.adjustOwnershipRecursively uid gid [] tree.entries
    (∀ p, tree.entries.Has p .link →
      f.ownersAfter owner r.2 p = owner p ∧
        .openat2 p ∉ r.2 ∧ .fdopendir p ∉ r.2) ∧
    (∀ p k, tree.entries.Has p k → k ≠ .link →
      (.fchownat p uid gid ∈ r.2 ↔
        f.Ancestors p ∧ f.fstatat p = false ∧
          (k = .dir → f.openat2 p = false)) ∧
      f.ownersAfter owner r.2 p =
        if .fchownat p uid gid ∈ r.2 ∧ f.fchownat p = false then (uid, gid)
        else owner p) ∧
    (r.1 = true ↔ ∀ call ∈ r.2, f.fails call = false) := by
  have hsame : ∀ q u g, .fchownat q u g ∈
      (f.adjustOwnershipRecursively uid gid [] tree.entries).2 →
        u = uid ∧ g = gid := by
    intro q u g hmem
    rcases mem_adjustOwnershipRecursively_iff.1 hmem with hroot |
      ⟨p, k, _, _, hmade⟩
    · cases hroot
    · exact ⟨hmade.2.1, hmade.2.2.1⟩
  refine ⟨?_, ?_, adjustOwnershipRecursively_fst_iff [] tree.entries⟩
  · intro p hp
    refine ⟨?_, not_descends hp⟩
    rw [ownersAfter_apply hsame, if_neg]
    rintro ⟨hmem, _⟩
    exact ((fchownat_mem_iff hp).1 hmem).2.2.1 rfl
  · intro p k hp hk
    constructor
    · rw [fchownat_mem_iff hp, Repairs]
      simp [hk]
    · exact ownersAfter_apply hsame owner p

/-- A home directory with settings and a link. -/
def settledHome : DirTree QString where
  entries := .self (.parent (.dir ".config" (.file "kdeglobals" .nil)
    (.link "wallpapers" .nil)))
  distinct := by
    have hnames : QString.ofString ".config" ≠ "wallpapers" := by decide
    simp [Listing.Distinct, Listing.names, hnames]

/-- A directory that cannot be listed changes its owner, and what is in it
does not. -/
example :
    let f : FailingCalls QString :=
      ⟨fun dir => dir = [".config"], fun _ => false, fun _ => false,
        fun _ => false⟩
    let r := f.adjustOwnershipRecursively 975 975 [] settledHome.entries
    let owner := f.ownersAfter (fun _ => (0, 0)) r.2
    r.1 = false ∧ owner [".config"] = (975, 975) ∧
      owner [".config", "kdeglobals"] = (0, 0) ∧
        owner ["wallpapers"] = (0, 0) := by
  decide

/-- Whether the home directory opens and everything in it is repaired. -/
def homeRepaired {N : Type} (opens : Bool) (f : FailingCalls N)
    (uid gid : UInt32) (home : DirTree N) : Bool :=
  opens && (f.adjustOwnershipRecursively uid gid [] home.entries).1

/-- The repair of an upgraded installation succeeds when there is a home
directory that opens and nothing fails in it. -/
theorem adjustPermissions_iff {N : Type} (user : GreeterUser) (opens : Bool)
    (f : FailingCalls N) (uid gid : UInt32) (home : DirTree N) :
    adjustPermissionsFromPlasma6_6 user
        (homeRepaired opens f uid gid home) = true ↔
      user.valid = true ∧ user.homeDir ≠ [] ∧ opens = true ∧
        ∀ call ∈ (f.adjustOwnershipRecursively uid gid [] home.entries).2,
          f.fails call = false := by
  rw [adjustPermissionsFromPlasma6_6, homeRepaired, Bool.and_eq_true,
    Bool.and_eq_true, Bool.and_eq_true,
    FailingCalls.adjustOwnershipRecursively_fst_iff]
  simp [and_assoc]

end PlasmaLogin

/-
Making the directories of a path and opening a file below a directory, in a
tree with links.  A path that goes on below a directory without links is known
from its names alone; a walk that may not leave a directory ends below it.
-/
import Mathlib.Data.List.Infix
import PlasmaLogin.Assignments
import PlasmaLogin.LinkedFiles

namespace LinkedFiles

open PathWalk

universe u v

variable {γ : Type u} {β : Type v}

/-- The names a path goes down. -/
def names : List (Move γ) → List γ
  | [] => []
  | .down name :: moves => name :: names moves
  | _ :: moves => names moves

/-- The path never goes up. -/
def Descends (moves : List (Move γ)) : Prop := Move.up ∉ moves

/-- A walk below a directory that may not leave it, up to the first link. -/
def walkBeneath (links : List γ → Option (List (Move γ))) (base : List γ)
    (follow : List γ → List (Move γ) → Option (List γ)) :
    List γ → List (Move γ) → Option (List γ)
  | done, [] => some done
  | done, .stay :: moves => walkBeneath links base follow done moves
  | done, .up :: moves =>
      if done.isEmpty then none
      else walkBeneath links base follow done.dropLast moves
  | done, .down name :: moves =>
      match links (base ++ done ++ [name]) with
      | none => walkBeneath links base follow (done ++ [name]) moves
      | some target => follow done (target ++ moves)

/-- A walk below a directory over so many links at most. -/
def locateBeneath (links : List γ → Option (List (Move γ))) (base : List γ) :
    Nat → List γ → List (Move γ) → Option (List γ)
  | 0 => walkBeneath links base fun _ _ => none
  | n + 1 => walkBeneath links base (locateBeneath links base n)

section paths

@[simp] theorem names_append (p q : List (Move γ)) :
    names (p ++ q) = names p ++ names q := by
  induction p with
  | nil => rfl
  | cons m p ih => cases m <;> simp [names, ih]

theorem descends_cons {m : Move γ} {moves : List (Move γ)} :
    Descends (m :: moves) ↔ m ≠ .up ∧ Descends moves := by
  simp [Descends, eq_comm]

theorem descends_append {p q : List (Move γ)} :
    Descends (p ++ q) ↔ Descends p ∧ Descends q := by
  simp [Descends]

variable {links : List γ → Option (List (Move γ))} {base : List γ}

/-- Where there are no links a path only goes down. -/
theorem walk_of_descends {follow : List γ → List (Move γ) → Option (List γ)}
    {done : List γ} (hlinks : ∀ r, links (done ++ r) = none)
    {moves : List (Move γ)} (h : Descends moves) :
    walk links follow done moves = some (done ++ names moves) := by
  induction moves generalizing done with
  | nil => simp [walk, names]
  | cons m moves ih =>
      rw [descends_cons] at h
      cases m with
      | stay => exact ih hlinks h.2
      | up => exact absurd rfl h.1
      | down name =>
          rw [walk, hlinks [name]]
          simp only
          rw [ih (fun r => by rw [List.append_assoc]; exact hlinks _) h.2]
          simp [names]

/-- A walk goes on where its first part ends, if what follows a link does. -/
theorem walk_append {follow : List γ → List (Move γ) → Option (List γ)}
    {l : List γ} {q : List (Move γ)} (hlinks : ∀ r, links (l ++ r) = none)
    (hq : Descends q)
    (hfollow : ∀ done p, follow done p = some l →
      follow done (p ++ q) = some (l ++ names q))
    {done : List γ} {p : List (Move γ)}
    (hp : walk links follow done p = some l) :
    walk links follow done (p ++ q) = some (l ++ names q) := by
  induction p generalizing done with
  | nil =>
      obtain rfl := Option.some.inj hp
      exact walk_of_descends hlinks hq
  | cons m p ih =>
      cases m with
      | stay => exact ih hp
      | up => exact ih hp
      | down name =>
          rw [List.cons_append]
          rw [walk] at hp ⊢
          cases hlink : links (done ++ [name]) with
          | none =>
              rw [hlink] at hp
              exact ih hp
          | some target =>
              rw [hlink] at hp
              simp only [← List.append_assoc]
              exact hfollow done _ hp

theorem locate_append {n : Nat} {done l : List γ} {p q : List (Move γ)}
    (hp : locate links n done p = some l)
    (hlinks : ∀ r, links (l ++ r) = none) (hq : Descends q) :
    locate links n done (p ++ q) = some (l ++ names q) := by
  induction n generalizing done p with
  | zero =>
      exact walk_append hlinks hq (fun _ _ h => absurd h (by simp)) hp
  | succ n ih => exact walk_append hlinks hq (fun _ _ h => ih h) hp

/-- A name behind a path is looked up where the path leads. -/
theorem walk_concat {follow : List γ → List (Move γ) → Option (List γ)}
    {l : List γ} {name : γ} (hlink : links (l ++ [name]) = none)
    (hfollow : ∀ done p, follow done p = some l →
      follow done (p ++ [.down name]) = some (l ++ [name]))
    {done : List γ} {p : List (Move γ)}
    (hp : walk links follow done p = some l) :
    walk links follow done (p ++ [.down name]) = some (l ++ [name]) := by
  induction p generalizing done with
  | nil =>
      obtain rfl := Option.some.inj hp
      rw [List.nil_append, walk, hlink]
      rfl
  | cons m p ih =>
      cases m with
      | stay => exact ih hp
      | up => exact ih hp
      | down step =>
          rw [List.cons_append]
          rw [walk] at hp ⊢
          cases hstep : links (done ++ [step]) with
          | none =>
              rw [hstep] at hp
              exact ih hp
          | some target =>
              rw [hstep] at hp
              simp only [← List.append_assoc]
              exact hfollow done _ hp

theorem locate_concat {n : Nat} {done l : List γ} {p : List (Move γ)}
    {name : γ} (hp : locate links n done p = some l)
    (hlink : links (l ++ [name]) = none) :
    locate links n done (p ++ [.down name]) = some (l ++ [name]) := by
  induction n generalizing done p with
  | zero => exact walk_concat hlink (fun _ _ h => absurd h (by simp)) hp
  | succ n ih => exact walk_concat hlink (fun _ _ h => ih h) hp

theorem walkBeneath_of_descends
    {follow : List γ → List (Move γ) → Option (List γ)} {done : List γ}
    (hlinks : ∀ r, links (base ++ r) = none) {moves : List (Move γ)}
    (h : Descends moves) :
    walkBeneath links base follow done moves = some (done ++ names moves) := by
  induction moves generalizing done with
  | nil => simp [walkBeneath, names]
  | cons m moves ih =>
      rw [descends_cons] at h
      cases m with
      | stay => exact ih h.2
      | up => exact absurd rfl h.1
      | down name =>
          rw [walkBeneath, List.append_assoc, hlinks]
          simp only
          rw [ih h.2]
          simp [names]

end paths

namespace Tree

/-- Where opening a path below a directory for writing gets to, when the path
may not leave the directory. -/
def openBeneath (base : List γ) (moves : List (Move γ)) (t : Tree γ β) :
    Option (List γ) :=
  match moves.getLast? with
  | some (.down _) =>
      ((locateBeneath t.links base maxLinks [] moves).map
        (base ++ ·)).filter t.writableAt
  | _ => none

theorem prefix_of_openBeneath {base l : List γ} {moves : List (Move γ)}
    {t : Tree γ β} (h : t.openBeneath base moves = some l) :
    base <+: l ∧ t.writableAt l = true := by
  unfold openBeneath at h
  split at h
  next =>
    obtain ⟨hl, hwritable⟩ := Option.filter_eq_some_iff.1 h
    obtain ⟨r, _, rfl⟩ := Option.map_eq_some_iff.1 hl
    exact ⟨List.prefix_append base r, hwritable⟩
  next => exact absurd h (by simp)

section changes

variable [DecidableEq γ]

/-- A directory is made, unless the system refuses to make one there. -/
def mkdirUnless (refuses : List γ → Bool) (parent : List (Move γ)) (name : γ)
    (t : Tree γ β) : Tree γ β :=
  match t.location parent with
  | some l => if refuses (l ++ [name]) then t else t.mkdir parent name
  | none => t

/-- Makes the directory at the end of a path and those above it that are
missing; the path is given from its end. -/
def mkpathTo (refuses : List γ → Bool) :
    List (Move γ) → Tree γ β → Tree γ β × Bool
  | [], t => (t, t.isDir [])
  | m :: above, t =>
      if t.isDir (m :: above).reverse then (t, true)
      else
        let r := mkpathTo refuses above t
        if r.2 then
          let t := match m with
            | .down name => r.1.mkdirUnless refuses above.reverse name
            | _ => r.1
          (t, t.isDir (m :: above).reverse)
        else r

def mkpath (refuses : List γ → Bool) (path : List (Move γ)) (t : Tree γ β) :
    Tree γ β × Bool :=
  t.mkpathTo refuses path.reverse

end changes

/-- Directories were made where nothing was, and nothing else has changed. -/
structure Grown (t t' : Tree γ β) : Prop where
  links : t'.links = t.links
  nodes : ∀ l, t'.nodes l = t.nodes l ∨
    (t.isFreeAt l = true ∧ t'.nodes l = some .directory)

theorem Grown.refl (t : Tree γ β) : Grown t t :=
  ⟨rfl, fun _ => Or.inl rfl⟩

theorem Grown.trans {t t' t'' : Tree γ β} (h : Grown t t')
    (h' : Grown t' t'') : Grown t t'' where
  links := h'.links.trans h.links
  nodes l := by
    rcases h.nodes l with heq | ⟨hfree, hdir⟩
    · rcases h'.nodes l with heq' | ⟨hfree', hdir'⟩
      · exact Or.inl (heq'.trans heq)
      · rw [isFreeAt, heq, h.links] at hfree'
        exact Or.inr ⟨hfree', hdir'⟩
    · rcases h'.nodes l with heq' | ⟨hfree', _⟩
      · exact Or.inr ⟨hfree, heq'.trans hdir⟩
      · rw [isFreeAt, hdir, Bool.and_eq_true] at hfree'
        exact absurd hfree'.2 (by simp)

theorem Grown.location {t t' : Tree γ β} (h : Grown t t')
    (path : List (Move γ)) : t'.location path = t.location path := by
  rw [Tree.location, Tree.location, h.links]

/-- A file is still there. -/
theorem Grown.file {t t' : Tree γ β} (h : Grown t t') {l : List γ}
    {content : β} (hfile : t.nodes l = some (.file content)) :
    t'.nodes l = some (.file content) := by
  rcases h.nodes l with heq | ⟨hfree, _⟩
  · exact heq.trans hfile
  · rw [isFreeAt, hfile, Bool.and_eq_true] at hfree
    exact absurd hfree.2 (by simp)

section making

variable [DecidableEq γ] {refuses : List γ → Bool} {t : Tree γ β}

theorem grown_setDirectory {l : List γ} (h : t.isFreeAt l = true) :
    Grown t (t.setNode l .directory) where
  links := rfl
  nodes l' := by
    rw [nodes_setNode]
    by_cases heq : l' = l
    · subst heq
      exact Or.inr ⟨h, if_pos rfl⟩
    · exact Or.inl (if_neg heq)

theorem grown_mkdir (parent : List (Move γ)) (name : γ) :
    Grown t (t.mkdir parent name) := by
  unfold mkdir
  split
  next l _ =>
    split
    next hfree =>
      rw [Bool.and_eq_true] at hfree
      exact grown_setDirectory hfree.2
    next => exact .refl t
  next => exact .refl t

theorem grown_mkdirUnless (parent : List (Move γ)) (name : γ) :
    Grown t (t.mkdirUnless refuses parent name) := by
  unfold mkdirUnless
  split
  · split
    · exact .refl t
    · exact grown_mkdir parent name
  · exact .refl t

theorem grown_mkpathTo (path : List (Move γ)) :
    Grown t (t.mkpathTo refuses path).1 := by
  induction path with
  | nil => exact .refl t
  | cons m above ih =>
      rw [mkpathTo]
      split
      · exact .refl t
      · simp only
        split
        · cases m with
          | down name => exact ih.trans (grown_mkdirUnless above.reverse name)
          | stay => exact ih
          | up => exact ih
        · exact ih

theorem grown_mkpath (path : List (Move γ)) :
    Grown t (t.mkpath refuses path).1 := grown_mkpathTo path.reverse

end making

/-- Outside a directory, directories were made where nothing was, and nothing
else has changed. -/
structure GrownOutside (base : List γ) (t t' : Tree γ β) : Prop where
  links : t'.links = t.links
  nodes : ∀ l, base <+: l ∨ t'.nodes l = t.nodes l ∨
    (t.isFreeAt l = true ∧ t'.nodes l = some .directory)

theorem GrownOutside.trans {base : List γ} {t t' t'' : Tree γ β}
    (h : GrownOutside base t t') (h' : GrownOutside base t' t'') :
    GrownOutside base t t'' where
  links := h'.links.trans h.links
  nodes l := by
    rcases h.nodes l with hl | heq | ⟨hfree, hdir⟩
    · exact Or.inl hl
    · rcases h'.nodes l with hl | heq' | ⟨hfree', hdir'⟩
      · exact Or.inl hl
      · exact Or.inr (Or.inl (heq'.trans heq))
      · rw [isFreeAt, heq, h.links] at hfree'
        exact Or.inr (Or.inr ⟨hfree', hdir'⟩)
    · rcases h'.nodes l with hl | heq' | ⟨hfree', _⟩
      · exact Or.inl hl
      · exact Or.inr (Or.inr ⟨hfree, heq'.trans hdir⟩)
      · rw [isFreeAt, hdir, Bool.and_eq_true] at hfree'
        exact absurd hfree'.2 (by simp)

theorem Grown.outside {t t' : Tree γ β} (h : Grown t t') (base : List γ) :
    GrownOutside base t t' :=
  ⟨h.links, fun l => Or.inr (h.nodes l)⟩

theorem grownOutside_setNode [DecidableEq γ] {base l : List γ} (hl : base <+: l)
    (node : Node β) (t : Tree γ β) : GrownOutside base t (t.setNode l node) where
  links := rfl
  nodes l' := by
    by_cases heq : l' = l
    · exact Or.inl (heq ▸ hl)
    · exact Or.inr (Or.inl (by rw [nodes_setNode, if_neg heq]))

theorem isDirAt_iff {t : Tree γ β} {l : List γ} :
    t.isDirAt l = true ↔ t.nodes l = some .directory := by
  unfold isDirAt
  split
  next h => exact iff_of_true rfl h
  next h => exact iff_of_false Bool.false_ne_true fun hdir => h hdir

/-- Everything is in a directory. -/
def Grounded (t : Tree γ β) : Prop :=
  ∀ l name, t.isFreeAt (l ++ [name]) = false → t.isDirAt l = true

/-- Where there is no directory nothing is in it. -/
theorem Grounded.isFreeAt_below {t : Tree γ β} (h : Grounded t)
    {base : List γ} (hbase : t.isDirAt base = false) {r : List γ}
    (hr : r ≠ []) : t.isFreeAt (base ++ r) = true := by
  induction r using List.reverseRecOn with
  | nil => exact absurd rfl hr
  | append_singleton r name ih =>
      by_contra hthere
      rw [Bool.not_eq_true, ← List.append_assoc] at hthere
      have hdir := h _ _ hthere
      by_cases hempty : r = []
      · rw [hempty, List.append_nil, hbase] at hdir
        exact absurd hdir Bool.false_ne_true
      · have hfree := ih hempty
        rw [isFreeAt, isDirAt_iff.1 hdir, Bool.and_eq_true] at hfree
        exact absurd hfree.2 (by simp)

/-- It stays so when something is put in a directory, a file where no
directory is. -/
theorem Grounded.setNode [DecidableEq γ] {t : Tree γ β} {l : List γ}
    {node : Node β} (h : Grounded t) (hparent : t.isDirAt l.dropLast = true)
    (hnode : t.isDirAt l = true → node = .directory) :
    Grounded (t.setNode l node) := by
  intro l' name hthere
  have hdir : t.isDirAt l' = true := by
    by_cases heq : l' ++ [name] = l
    · rw [← heq, List.dropLast_concat] at hparent
      exact hparent
    · apply h l' name
      rw [isFreeAt, nodes_setNode, if_neg heq] at hthere
      exact hthere
  by_cases heq : l' = l
  · rw [isDirAt_iff, nodes_setNode, if_pos heq, hnode (heq ▸ hdir)]
  · rw [isDirAt_iff, nodes_setNode, if_neg heq]
    exact isDirAt_iff.1 hdir

theorem Grounded.write [DecidableEq γ] {t : Tree γ β} (h : Grounded t)
    (path : List (Move γ)) (content : β) : Grounded (t.write path content) := by
  unfold Tree.write
  split
  next l hopen =>
    obtain ⟨_, hwritable⟩ := Option.filter_eq_some_iff.1 hopen
    rw [writableAt, Bool.and_eq_true, Bool.not_eq_true'] at hwritable
    refine h.setNode hwritable.1 fun hdir => ?_
    rw [hwritable.2] at hdir
    exact absurd hdir Bool.false_ne_true
  next => exact h

theorem isFreeAt_iff {t : Tree γ β} {l : List γ} :
    t.isFreeAt l = true ↔ t.links l = none ∧ t.nodes l = none := by
  rw [isFreeAt, Bool.and_eq_true, Option.isNone_iff_eq_none,
    Option.isNone_iff_eq_none]

theorem prefix_of_removed [DecidableEq γ] {t : Tree γ β} {base l : List γ}
    {resisting : List (List γ)} (h : t.removed base resisting l = true) :
    base <+: l := by
  rw [removed, Bool.and_eq_true] at h
  exact List.isPrefixOf_iff_prefix.1 h.1

theorem removed_nil_iff [DecidableEq γ] {t : Tree γ β} {base l : List γ} :
    t.removed base [] l = true ↔ base <+: l := by
  rw [removed, List.any_nil, Bool.not_false, Bool.and_true,
    List.isPrefixOf_iff_prefix]

/-- What is in a directory goes with it. -/
theorem removed_append [DecidableEq γ] {t : Tree γ β} {base l : List γ}
    {resisting : List (List γ)} (h : t.removed base resisting l = true)
    (r : List γ) : t.removed base resisting (l ++ r) = true := by
  have hbegins := prefix_of_removed h
  rw [removed, Bool.and_eq_true, Bool.not_eq_true', List.any_eq_false] at h ⊢
  refine ⟨List.isPrefixOf_iff_prefix.2
    (hbegins.trans (List.prefix_append l r)), fun l' hl' hkept => ?_⟩
  rw [Bool.and_eq_true, List.isPrefixOf_iff_prefix] at hkept
  apply h.2 l' hl'
  rw [Bool.and_eq_true, List.isPrefixOf_iff_prefix]
  exact ⟨(List.prefix_append l r).trans hkept.1, hkept.2⟩

theorem location_concat {t : Tree γ β} {p : List (Move γ)} {l : List γ}
    {name : γ} (hp : t.location p = some l)
    (hlink : t.links (l ++ [name]) = none) :
    t.location (p ++ [.down name]) = some (l ++ [name]) :=
  locate_concat hp hlink

/-- A file and the directories it is in. -/
def single [DecidableEq γ] (file : List γ) (content : β) : Tree γ β where
  links _ := none
  nodes l :=
    if l = file then some (.file content)
    else if l <+: file then some .directory
    else none

theorem grounded_single [DecidableEq γ] (file : List γ) (content : β) :
    (single file content).Grounded := by
  intro l name hthere
  have hbegins : l ++ [name] <+: file := by
    by_contra hnot
    have hne : l ++ [name] ≠ file := fun heq => hnot (heq ▸ List.prefix_rfl)
    simp [isFreeAt, single, hnot, hne] at hthere
  have hne : l ≠ file := by
    rintro rfl
    have hlength := hbegins.length_le
    rw [List.length_append] at hlength
    exact Nat.not_succ_le_self _ hlength
  rw [isDirAt_iff, single]
  simp only [hne, (List.prefix_append l [name]).trans hbegins, ↓reduceIte]

theorem setNode_setNode [DecidableEq γ] (l : List γ) (node node' : Node β)
    (t : Tree γ β) :
    (t.setNode l node).setNode l node' = t.setNode l node' := by
  unfold setNode
  congr 1
  funext l'
  split
  · rfl
  next hne => simp only [hne, ↓reduceIte]

/-- A directory without links in it, where everything is in a directory. -/
structure Plain (t : Tree γ β) (base : List γ) : Prop where
  root : t.isDirAt base = true
  links : ∀ r, t.links (base ++ r) = none
  parents : ∀ r name, t.nodes (base ++ r ++ [name]) ≠ none →
    t.isDirAt (base ++ r) = true

section plain

variable {t : Tree γ β} {base : List γ}

/-- What is above something is a directory. -/
theorem Plain.above (h : Plain t base) {r s : List γ} (hs : s ≠ [])
    (hnode : t.nodes (base ++ (r ++ s)) ≠ none) :
    t.isDirAt (base ++ r) = true := by
  induction s using List.reverseRecOn with
  | nil => exact absurd rfl hs
  | append_singleton s name ih =>
      have hdir := h.parents (r ++ s) name (by simpa using hnode)
      by_cases hempty : s = []
      · subst hempty
        simpa using hdir
      · apply ih hempty
        rw [isDirAt_iff.1 hdir]
        exact Option.some_ne_none _

theorem Plain.location (h : Plain t base) {p q : List (Move γ)}
    (hp : t.location p = some base) (hq : Descends q) :
    t.location (p ++ q) = some (base ++ names q) :=
  locate_append hp h.links hq

theorem Plain.openBeneath (h : Plain t base) {moves : List (Move γ)}
    {name : γ} (hmoves : Descends (moves ++ [.down name])) :
    t.openBeneath base (moves ++ [.down name]) =
      if t.writableAt (base ++ names moves ++ [name]) then
        some (base ++ names moves ++ [name]) else none := by
  have hwalk : locateBeneath t.links base maxLinks []
      (moves ++ [.down name]) = some (names moves ++ [name]) := by
    have hnames : names (moves ++ [Move.down name]) = names moves ++ [name] :=
      names_append _ _
    rw [← hnames]
    exact walkBeneath_of_descends h.links hmoves
  rw [Tree.openBeneath, List.getLast?_concat, hwalk, Option.map_some,
    List.append_assoc]
  rfl

variable [DecidableEq γ] {refuses : List γ → Bool}

/-- The directories of a path below the directory are there afterwards. -/
def withDirectories (base r : List γ) (t : Tree γ β) (l : List γ) :
    Option (Node β) :=
  if base <+: l ∧ l <+: base ++ r then some .directory else t.nodes l

theorem withDirectories_of_isDir (h : Plain t base) {r : List γ}
    (hdir : t.isDirAt (base ++ r) = true) (l : List γ) :
    t.withDirectories base r l = t.nodes l := by
  unfold withDirectories
  split
  next hl =>
    obtain ⟨⟨r', rfl⟩, hr⟩ := hl
    obtain ⟨s, rfl⟩ := (List.prefix_append_right_inj base).1 hr
    by_cases hs : s = []
    · subst hs
      rw [List.append_nil] at hdir
      exact (isDirAt_iff.1 hdir).symm
    · refine (isDirAt_iff.1 (h.above hs ?_)).symm
      rw [isDirAt_iff.1 hdir]
      exact Option.some_ne_none _
  · rfl

theorem withDirectories_concat (r : List γ) (name : γ) (l : List γ) :
    t.withDirectories base (r ++ [name]) l =
      if l = base ++ (r ++ [name]) then some .directory
      else t.withDirectories base r l := by
  unfold withDirectories
  by_cases heq : l = base ++ (r ++ [name])
  · subst heq
    rw [if_pos rfl, if_pos ⟨List.prefix_append .., List.prefix_rfl⟩]
  · rw [if_neg heq]
    apply if_congr _ rfl rfl
    rw [← List.append_assoc, List.prefix_concat_iff, List.append_assoc]
    exact and_congr_right fun _ => or_iff_right heq

theorem nodes_mkdirUnless {parent : List (Move γ)} {name : γ} {l l' : List γ}
    (hparent : t.location parent = some l) (hne : l' ≠ l ++ [name]) :
    (t.mkdirUnless refuses parent name).nodes l' = t.nodes l' := by
  simp only [mkdirUnless, mkdir, hparent]
  split
  · rfl
  · split
    · rw [nodes_setNode, if_neg hne]
    · rfl

/-- Making the directories of a path below the directory, when it succeeds. -/
theorem Plain.nodes_mkpath (h : Plain t base) {p q : List (Move γ)}
    (hp : t.location p = some base) (hq : Descends q)
    (hmade : (t.mkpath refuses (p ++ q)).2 = true) (l : List γ) :
    (t.mkpath refuses (p ++ q)).1.nodes l =
      t.withDirectories base (names q) l := by
  induction q using List.reverseRecOn with
  | nil =>
      have hdir : t.isDir p = true := by
        rw [isDir, hp]
        exact h.root
      have hsame : t.mkpathTo refuses p.reverse = (t, true) := by
        cases hrev : p.reverse with
        | nil =>
            rw [List.reverse_eq_nil_iff.1 hrev] at hdir
            rw [mkpathTo, hdir]
        | cons m above =>
            rw [mkpathTo, ← hrev, List.reverse_reverse, if_pos hdir]
      rw [List.append_nil, mkpath, hsame]
      rw [withDirectories_of_isDir h]
      simpa [names] using h.root
  | append_singleton q m ih =>
      obtain ⟨hfirst, hm⟩ := descends_append.1 hq
      have hrev : (p ++ (q ++ [m])).reverse = m :: (p ++ q).reverse := by
        rw [← List.append_assoc, List.reverse_concat]
      have hpath : (m :: (p ++ q).reverse).reverse = p ++ (q ++ [m]) := by
        rw [← hrev, List.reverse_reverse]
      have hlocation := h.location hp hq
      rw [mkpath, hrev, mkpathTo, hpath] at hmade ⊢
      by_cases hdir : t.isDir (p ++ (q ++ [m])) = true
      · rw [if_pos hdir, withDirectories_of_isDir h]
        rw [isDir, hlocation] at hdir
        exact hdir
      · rw [if_neg hdir] at hmade ⊢
        have habove : (t.mkpathTo refuses (p ++ q).reverse).2 = true := by
          by_contra hfails
          simp only [hfails, ↓reduceIte] at hmade
        have hgrown : Grown t (t.mkpathTo refuses (p ++ q).reverse).1 :=
          grown_mkpathTo _
        have hnodes := ih hfirst habove
        rw [mkpath] at hnodes
        simp only [habove, ↓reduceIte] at hmade ⊢
        cases m with
        | stay => simpa [names] using hnodes
        | up => exact absurd rfl (descends_cons.1 hm).1
        | down name =>
            have hparent : (t.mkpathTo refuses (p ++ q).reverse).1.location
                (p ++ q).reverse.reverse = some (base ++ names q) := by
              rw [List.reverse_reverse, hgrown.location]
              exact h.location hp hfirst
            have hnames : names (q ++ [Move.down name]) = names q ++ [name] :=
              names_append _ _
            rw [hnames] at hlocation ⊢
            rw [withDirectories_concat]
            by_cases heq : l = base ++ (names q ++ [name])
            · rw [if_pos heq, heq]
              rw [isDir, (grown_mkdirUnless _ _).location, hgrown.location,
                hlocation] at hmade
              exact isDirAt_iff.1 hmade
            · rw [if_neg heq, nodes_mkdirUnless hparent, hnodes]
              rwa [List.append_assoc]

theorem Plain.mkpath (h : Plain t base) {p q : List (Move γ)}
    (hp : t.location p = some base) (hq : Descends q)
    (hmade : (t.mkpath refuses (p ++ q)).2 = true) :
    Plain (t.mkpath refuses (p ++ q)).1 base := by
  have hgrown : Grown t (t.mkpath refuses (p ++ q)).1 := grown_mkpath _
  have hkeeps : ∀ l, t.isDirAt l = true →
      (t.mkpath refuses (p ++ q)).1.isDirAt l = true := by
    intro l hdir
    rw [isDirAt_iff] at hdir ⊢
    rcases hgrown.nodes l with heq | ⟨_, hmade⟩
    · exact heq.trans hdir
    · exact hmade
  refine ⟨hkeeps base h.root, fun r => ?_, fun r name hnode => ?_⟩
  · rw [hgrown.links]
    exact h.links r
  · rw [h.nodes_mkpath hp hq hmade, withDirectories] at hnode
    split at hnode
    next hl =>
      rw [isDirAt_iff, h.nodes_mkpath hp hq hmade, withDirectories, if_pos]
      exact ⟨List.prefix_append base r,
        (List.prefix_append (base ++ r) [name]).trans hl.2⟩
    next => exact hkeeps _ (h.parents r name hnode)

theorem Plain.setFile (h : Plain t base) {l : List γ}
    (hl : t.writableAt l = true) (content : β) :
    Plain (t.setNode l (.file content)) base := by
  rw [writableAt, Bool.and_eq_true, Bool.not_eq_true'] at hl
  have hdirs := isDirAt_setFile hl.2 content
  refine ⟨(hdirs base).trans h.root, h.links, fun r name hnode => ?_⟩
  rw [hdirs]
  rw [nodes_setNode] at hnode
  split at hnode
  next heq =>
    have hparent := hl.1
    rwa [← heq, List.dropLast_concat] at hparent
  next => exact h.parents r name hnode

end plain

section filled

variable [DecidableEq γ]

/-- What a directory holds once files have been put into it one by one, with
the directories they are in; the last file of a place stays. -/
def filledNode (items : List (List γ × β)) (r : List γ) : Option (Node β) :=
  match Assignments.lastValue Prod.fst Prod.snd r items with
  | some content => some (.file content)
  | none =>
      if r = [] ∨ ∃ item ∈ items, r <+: item.1 then some .directory else none

structure Filled (t : Tree γ β) (base : List γ) (items : List (List γ × β)) :
    Prop where
  plain : Plain t base
  nodes : ∀ r, t.nodes (base ++ r) = filledNode items r

variable {t : Tree γ β} {base : List γ} {items : List (List γ × β)}
  {refuses : List γ → Bool}

/-- An empty directory. -/
theorem Filled.of_empty (hbase : t.isDirAt base = true)
    (hlink : t.links base = none)
    (h : ∀ r, r ≠ [] → t.isFreeAt (base ++ r) = true) : Filled t base [] where
  plain := by
    refine ⟨hbase, fun r => ?_, fun r name hnode => ?_⟩
    · by_cases hr : r = []
      · rwa [hr, List.append_nil]
      · exact (isFreeAt_iff.1 (h r hr)).1
    · rw [List.append_assoc] at hnode
      exact absurd (isFreeAt_iff.1 (h _ (by simp))).2 hnode
  nodes r := by
    by_cases hr : r = []
    · rw [hr, List.append_nil]
      exact isDirAt_iff.1 hbase
    · rw [(isFreeAt_iff.1 (h r hr)).2]
      simp [filledNode, Assignments.lastValue, hr]

/-- One more file, in directories that are made for it. -/
theorem Filled.place (h : Filled t base items) {p moves : List (Move γ)}
    {name : γ} {l : List γ} (hp : t.location p = some base)
    (hmoves : Descends (moves ++ [.down name]))
    (hmade : (t.mkpath refuses (p ++ moves)).2 = true)
    (hopen : (t.mkpath refuses (p ++ moves)).1.openBeneath base
      (moves ++ [.down name]) = some l) (content : β) :
    Filled ((t.mkpath refuses (p ++ moves)).1.setNode l (.file content)) base
      (items ++ [(names moves ++ [name], content)]) := by
  have hdescends := (descends_append.1 hmoves).1
  have hplain := h.plain.mkpath hp hdescends hmade
  have hnodes := h.plain.nodes_mkpath hp hdescends hmade
  rw [hplain.openBeneath hmoves] at hopen
  split at hopen
  next hwritable =>
    obtain rfl := Option.some.inj hopen
    refine ⟨hplain.setFile hwritable content, fun r => ?_⟩
    rw [nodes_setNode, filledNode, Assignments.lastValue_concat]
    by_cases heq : r = names moves ++ [name]
    · rw [if_pos (by rw [heq, List.append_assoc]), if_pos heq.symm]
    · have hne : base ++ r ≠ base ++ names moves ++ [name] := by
        rw [List.append_assoc, Ne, List.append_cancel_left_eq]
        exact heq
      rw [if_neg hne, if_neg (Ne.symm heq)]
      have hnode := h.nodes r
      rw [filledNode] at hnode
      cases hlast : Assignments.lastValue Prod.fst Prod.snd r items with
      | some old =>
          rw [hlast] at hnode
          exact (grown_mkpath _).file hnode
      | none =>
          rw [hlast] at hnode
          simp only at hnode ⊢
          rw [hnodes, withDirectories, hnode]
          simp only [List.prefix_append, List.prefix_append_right_inj,
            true_and, List.mem_append, List.mem_singleton, or_and_right,
            exists_or, exists_eq_left, List.prefix_concat_iff, heq, false_or]
          by_cases hbelow : r <+: names moves
          · simp [hbelow]
          · rw [if_neg hbelow]
            refine if_congr ?_ rfl rfl
            rw [or_iff_left hbelow]
  next => exact absurd hopen (by simp)

end filled

end Tree

end LinkedFiles

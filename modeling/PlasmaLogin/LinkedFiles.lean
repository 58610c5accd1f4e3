/-
The directories, files and symbolic links of a file system that changes.  A
location is a path with every link followed; where nothing is, it is the place
where something would be made.  Making directories and writing files leaves
the links alone, so every path keeps its location.

Going up is lexical: `..` behind a component that is missing, or is a file,
leads back to the directory before it, where a kernel refuses the path.
-/
import PlasmaLogin.PathWalk

namespace LinkedFiles

open PathWalk

universe u v

variable {γ : Type u} {β : Type v}

/-- What is at a location, links apart. -/
inductive Node (β : Type v) where
  | directory
  | file (content : β)

/-- A file system by location; the target of a link starts from the directory
the link is in. -/
structure Tree (γ : Type u) (β : Type v) where
  links : List γ → Option (List (Move γ))
  nodes : List γ → Option (Node β)

/-- A walk up to the first link; `follow` goes on behind it.  It does not ask
whether the places on the way exist. -/
def walk (links : List γ → Option (List (Move γ)))
    (follow : List γ → List (Move γ) → Option (List γ)) :
    List γ → List (Move γ) → Option (List γ)
  | done, [] => some done
  | done, .stay :: moves => walk links follow done moves
  | done, .up :: moves => walk links follow done.dropLast moves
  | done, .down name :: moves =>
      match links (done ++ [name]) with
      | none => walk links follow (done ++ [name]) moves
      | some target => follow done (target ++ moves)

/-- A walk over so many links at most. -/
def locate (links : List γ → Option (List (Move γ))) :
    Nat → List γ → List (Move γ) → Option (List γ)
  | 0 => walk links fun _ _ => none
  | n + 1 => walk links (locate links n)

/-- The links a kernel follows in one path. -/
def maxLinks : Nat := 40

namespace Tree

/-- The location of a path from the root. -/
def location (t : Tree γ β) (path : List (Move γ)) : Option (List γ) :=
  locate t.links maxLinks [] path

def isDirAt (t : Tree γ β) (l : List γ) : Bool :=
  match t.nodes l with
  | some .directory => true
  | _ => false

def contentAt (t : Tree γ β) (l : List γ) : Option β :=
  match t.nodes l with
  | some (.file content) => some content
  | _ => none

/-- Nothing is at a location, not even a link. -/
def isFreeAt (t : Tree γ β) (l : List γ) : Bool :=
  (t.links l).isNone && (t.nodes l).isNone

/-- There is a directory at the end of a path. -/
def isDir (t : Tree γ β) (path : List (Move γ)) : Bool :=
  (t.location path).any t.isDirAt

/-- The content of the file at the end of a path. -/
def content (t : Tree γ β) (path : List (Move γ)) : Option β :=
  (t.location path).bind t.contentAt

/-- A file can be written, and made if need be, at a location. -/
def writableAt (t : Tree γ β) (l : List γ) : Bool :=
  t.isDirAt l.dropLast && !t.isDirAt l

/-- Where opening a path for writing gets to. -/
def openForWriting (t : Tree γ β) (path : List (Move γ)) : Option (List γ) :=
  (t.location path).filter t.writableAt

section changes

variable [DecidableEq γ]

def setNode (l : List γ) (node : Node β) (t : Tree γ β) : Tree γ β :=
  { t with nodes := fun l' => if l' = l then some node else t.nodes l' }

/-- Opening a file, which empties it, and writing to it. -/
def write (path : List (Move γ)) (content : β) (t : Tree γ β) : Tree γ β :=
  match t.openForWriting path with
  | some l => t.setNode l (.file content)
  | none => t

/-- A directory is made where nothing is, in a directory that is there. -/
def mkdir (parent : List (Move γ)) (name : γ) (t : Tree γ β) : Tree γ β :=
  match t.location parent with
  | some l =>
      if t.isDirAt l && t.isFreeAt (l ++ [name]) then
        t.setNode (l ++ [name]) .directory
      else t
  | none => t

def clearAt (gone : List γ → Bool) (t : Tree γ β) : Tree γ β where
  links l := if gone l then none else t.links l
  nodes l := if gone l then none else t.nodes l

/-- The file or link an entry of a directory names is removed. -/
def unlink (parent : List (Move γ)) (name : γ) (t : Tree γ β) : Tree γ β :=
  match t.location parent with
  | some l =>
      if t.isDirAt (l ++ [name]) then t
      else t.clearAt fun l' => l' == l ++ [name]
  | none => t

/-- What goes when a directory is removed with everything below it, links not
followed.  What resists stays, and so do the directories it is in. -/
def removed (base : List γ) (resisting : List (List γ)) (t : Tree γ β)
    (l : List γ) : Bool :=
  base.isPrefixOf l &&
    !resisting.any fun l' => l.isPrefixOf l' && !t.isFreeAt l'

def removeRecursively (base : List γ) (resisting : List (List γ))
    (t : Tree γ β) : Tree γ β :=
  t.clearAt (t.removed base resisting)

def writeAll : List (List (Move γ) × β) → Tree γ β → Tree γ β
  | [], t => t
  | w :: ws, t => writeAll ws (t.write w.1 w.2)

end changes

section reads

variable {t : Tree γ β} {l : List γ}

theorem contentAt_of_nodes_eq {t' : Tree γ β}
    (h : t'.nodes l = t.nodes l) : t'.contentAt l = t.contentAt l := by
  rw [contentAt, contentAt, h]

theorem contentAt_of_file {content : β} (h : t.nodes l = some (.file content)) :
    t.contentAt l = some content := by
  rw [contentAt, h]

theorem isDirAt_of_openForWriting {path : List (Move γ)}
    (h : t.openForWriting path = some l) : t.isDirAt l = false := by
  obtain ⟨_, hwritable⟩ := Option.filter_eq_some_iff.1 h
  rw [writableAt, Bool.and_eq_true, Bool.not_eq_true'] at hwritable
  exact hwritable.2

theorem location_of_openForWriting {path : List (Move γ)}
    (h : t.openForWriting path = some l) : t.location path = some l :=
  (Option.filter_eq_some_iff.1 h).1

end reads

section writes

variable [DecidableEq γ] {t : Tree γ β} {l : List γ}

@[simp] theorem nodes_setNode (node : Node β) (l' : List γ) :
    (t.setNode l node).nodes l' = if l' = l then some node else t.nodes l' :=
  rfl

/-- Writing a file where no directory is leaves the directories alone. -/
theorem isDirAt_setFile (h : t.isDirAt l = false) (content : β) (l' : List γ) :
    (t.setNode l (.file content)).isDirAt l' = t.isDirAt l' := by
  by_cases heq : l' = l
  · rw [heq, h, isDirAt, nodes_setNode, if_pos rfl]
  · rw [isDirAt, isDirAt, nodes_setNode, if_neg heq]

theorem links_write (path : List (Move γ)) (content : β) :
    (t.write path content).links = t.links := by
  unfold write
  split
  · rfl
  · rfl

theorem isDirAt_write (path : List (Move γ)) (content : β) (l : List γ) :
    (t.write path content).isDirAt l = t.isDirAt l := by
  unfold write
  split
  next hopen => exact isDirAt_setFile (isDirAt_of_openForWriting hopen) _ l
  · rfl

theorem location_write (path : List (Move γ)) (content : β)
    (path' : List (Move γ)) :
    (t.write path content).location path' = t.location path' := by
  rw [location, location, links_write]

theorem openForWriting_write (path : List (Move γ)) (content : β)
    (path' : List (Move γ)) :
    (t.write path content).openForWriting path' = t.openForWriting path' := by
  rw [openForWriting, openForWriting, location_write]
  congr 1
  funext l
  rw [writableAt, writableAt, isDirAt_write, isDirAt_write]

theorem nodes_write (path : List (Move γ)) (content : β) (l : List γ) :
    (t.write path content).nodes l =
      if t.openForWriting path = some l then some (.file content)
      else t.nodes l := by
  unfold write
  split
  next l' hopen =>
    rw [nodes_setNode]
    by_cases heq : l = l'
    · rw [if_pos heq, if_pos (heq ▸ hopen)]
    · rw [if_neg heq, if_neg]
      intro hl
      exact heq (Option.some.inj (hl.symm.trans hopen))
  next hopen => rw [if_neg (by rw [hopen]; simp)]

variable (t) in
theorem links_writeAll (ws : List (List (Move γ) × β)) :
    (t.writeAll ws).links = t.links := by
  induction ws generalizing t with
  | nil => rfl
  | cons w ws ih => exact (ih _).trans (links_write w.1 w.2)

variable (t) in
theorem location_writeAll (ws : List (List (Move γ) × β))
    (path : List (Move γ)) :
    (t.writeAll ws).location path = t.location path := by
  rw [location, location, links_writeAll]

variable (t l) in
/-- After a number of writes a location holds what one of them wrote there, or
what it held before and none of them got to it. -/
theorem nodes_writeAll (ws : List (List (Move γ) × β)) :
    (∃ w ∈ ws, t.openForWriting w.1 = some l ∧
        (t.writeAll ws).nodes l = some (.file w.2)) ∨
      ((t.writeAll ws).nodes l = t.nodes l ∧
        ∀ w ∈ ws, t.openForWriting w.1 ≠ some l) := by
  induction ws generalizing t with
  | nil => exact Or.inr ⟨rfl, fun w hw => absurd hw (by simp)⟩
  | cons w ws ih =>
      rcases ih (t.write w.1 w.2) with ⟨w', hw', hopen, hnodes⟩ |
        ⟨hnodes, hothers⟩
      · rw [openForWriting_write] at hopen
        exact Or.inl ⟨w', List.mem_cons_of_mem w hw', hopen, hnodes⟩
      · rw [nodes_write] at hnodes
        by_cases hopen : t.openForWriting w.1 = some l
        · rw [if_pos hopen] at hnodes
          exact Or.inl ⟨w, List.mem_cons_self, hopen, hnodes⟩
        · rw [if_neg hopen] at hnodes
          refine Or.inr ⟨hnodes, List.forall_mem_cons.2 ⟨hopen, ?_⟩⟩
          intro w' hw'
          rw [← openForWriting_write w.1 w.2 w'.1]
          exact hothers w' hw'

end writes

section removals

variable (t : Tree γ β) (gone : List γ → Bool) (l : List γ)

theorem links_clearAt : (t.clearAt gone).links l =
    if gone l then none else t.links l := rfl

theorem nodes_clearAt : (t.clearAt gone).nodes l =
    if gone l then none else t.nodes l := rfl

theorem isDirAt_clearAt :
    (t.clearAt gone).isDirAt l = (t.isDirAt l && !gone l) := by
  rw [isDirAt, isDirAt, nodes_clearAt]
  cases gone l with
  | true => simp
  | false => simp

theorem contentAt_clearAt :
    (t.clearAt gone).contentAt l = if gone l then none else t.contentAt l := by
  rw [contentAt, contentAt, nodes_clearAt]
  cases gone l with
  | true => rfl
  | false => rfl

theorem isFreeAt_clearAt :
    (t.clearAt gone).isFreeAt l = (t.isFreeAt l || gone l) := by
  rw [isFreeAt, isFreeAt, links_clearAt, nodes_clearAt]
  cases gone l with
  | true => simp
  | false => simp

end removals

section directories

/-- A free name in a directory. -/
def newIn (isDir free : List γ → Bool) (name : γ) (parent : Option (List γ)) :
    Option (List γ) :=
  parent.bind fun l =>
    if isDir l && free (l ++ [name]) then some (l ++ [name]) else none

theorem of_newIn_eq_some {isDir free : List γ → Bool} {name : γ}
    {parent : Option (List γ)} {l : List γ}
    (h : newIn isDir free name parent = some l) :
    free l = true ∧ l.getLast? = some name := by
  obtain ⟨l', _, hl⟩ := Option.bind_eq_some_iff.1 h
  split at hl
  next hfree =>
    rw [Bool.and_eq_true] at hfree
    obtain rfl := Option.some.inj hl
    exact ⟨hfree.2, List.getLast?_concat⟩
  · exact absurd hl.symm (Option.some_ne_none l)

variable [DecidableEq γ]

/-- The tree with a directory at a location, if there is one. -/
def addDir (made : Option (List γ)) (t : Tree γ β) : Tree γ β :=
  match made with
  | some l => t.setNode l .directory
  | none => t

theorem mkdir_eq (parent : List (Move γ)) (name : γ) (t : Tree γ β) :
    t.mkdir parent name =
      t.addDir (newIn t.isDirAt t.isFreeAt name (t.location parent)) := by
  rw [mkdir, newIn]
  cases t.location parent with
  | none => rfl
  | some l =>
      simp only [Option.bind_some]
      split
      · rfl
      · rfl

variable {made : Option (List γ)} {t : Tree γ β}

theorem addDir_ite (skip : Bool) :
    (if skip then t else t.addDir made) =
      t.addDir (if skip then none else made) := by
  cases skip with
  | true => rfl
  | false => rfl

theorem links_addDir : (t.addDir made).links = t.links := by
  cases made with
  | none => rfl
  | some l => rfl

theorem nodes_addDir (l : List γ) : (t.addDir made).nodes l =
    if made = some l then some .directory else t.nodes l := by
  cases made with
  | none => rfl
  | some l' =>
      rw [addDir, nodes_setNode]
      exact if_congr (by rw [Option.some.injEq, eq_comm]) rfl rfl

theorem location_addDir (path : List (Move γ)) :
    (t.addDir made).location path = t.location path := by
  rw [location, location, links_addDir]

theorem isDirAt_addDir (l : List γ) : (t.addDir made).isDirAt l =
    (t.isDirAt l || decide (made = some l)) := by
  rw [isDirAt, isDirAt, nodes_addDir]
  by_cases hmade : made = some l
  · simp [hmade]
  · simp [hmade]

theorem isFreeAt_addDir (l : List γ) : (t.addDir made).isFreeAt l =
    (t.isFreeAt l && !decide (made = some l)) := by
  rw [isFreeAt, isFreeAt, links_addDir, nodes_addDir]
  by_cases hmade : made = some l
  · simp [hmade]
  · simp [hmade]

/-- Where nothing was there is no file to lose. -/
theorem contentAt_addDir (h : ∀ l, made = some l → t.isFreeAt l = true)
    (l : List γ) : (t.addDir made).contentAt l = t.contentAt l := by
  rw [contentAt, contentAt, nodes_addDir]
  by_cases hmade : made = some l
  · have hfree := h l hmade
    rw [isFreeAt, Bool.and_eq_true, Option.isNone_iff_eq_none,
      Option.isNone_iff_eq_none] at hfree
    rw [if_pos hmade, hfree.2]
  · rw [if_neg hmade]

end directories

end Tree

end LinkedFiles

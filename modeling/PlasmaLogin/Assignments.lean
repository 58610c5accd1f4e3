/-
Lists of assignments as text: one on a line, the name in front of the first
separator, and of several values of a name the last.
-/
import Mathlib.Data.List.Induction
import Mathlib.Data.List.TakeWhile

namespace Assignments

universe u v w x

section text

variable {C : Type u} [DecidableEq C]

/-- The lines of a text, the last one with or without its newline. -/
def readLines (newline : C) : List C → List (List C)
  | [] => []
  | c :: rest =>
      if c = newline then [] :: readLines newline rest
      else match readLines newline rest with
        | [] => [[c]]
        | line :: lines => (c :: line) :: lines

variable {newline separator : C}

theorem readLines_append {line : List C} (h : newline ∉ line)
    (rest : List C) :
    readLines newline (line ++ newline :: rest) =
      line :: readLines newline rest := by
  induction line with
  | nil => simp [readLines]
  | cons c line ih =>
      rw [List.mem_cons, not_or] at h
      simp [readLines, Ne.symm h.1, ih h.2]

/-- Lines come back one by one. -/
theorem readLines_lines {lines : List (List C)}
    (h : ∀ line ∈ lines, newline ∉ line) :
    readLines newline (lines.flatMap fun line => line ++ [newline]) =
      lines := by
  induction lines with
  | nil => rfl
  | cons line lines ih =>
      rw [List.forall_mem_cons] at h
      rw [List.flatMap_cons, List.append_assoc, List.singleton_append,
        readLines_append h.1, ih h.2]

theorem of_mem_readLines {text line : List C}
    (h : line ∈ readLines newline text) :
    newline ∉ line ∧ line ⊆ text := by
  induction text generalizing line with
  | nil => exact absurd h List.not_mem_nil
  | cons c rest ih =>
      rw [readLines] at h
      split at h
      · rcases List.mem_cons.1 h with rfl | h
        · exact ⟨List.not_mem_nil, List.nil_subset _⟩
        · exact ⟨(ih h).1, List.subset_cons_of_subset c (ih h).2⟩
      next hc =>
        split at h
        · rw [List.mem_singleton.1 h, List.mem_singleton]
          exact ⟨Ne.symm hc, by simp⟩
        next first lines hlines =>
          rcases List.mem_cons.1 h with rfl | h
          · obtain ⟨hfirst, hsubset⟩ := @ih first (by simp [hlines])
            refine ⟨?_, List.cons_subset_cons c hsubset⟩
            rw [List.mem_cons, not_or]
            exact ⟨Ne.symm hc, hfirst⟩
          · obtain ⟨hline, hsubset⟩ := @ih line (by simp [hlines, h])
            exact ⟨hline, List.subset_cons_of_subset c hsubset⟩

/-- The part in front of the first separator. -/
def upTo (separator : C) (text : List C) : List C :=
  text.takeWhile fun c => c ≠ separator

theorem upTo_eq_self_iff {text : List C} :
    upTo separator text = text ↔ separator ∉ text := by
  rw [upTo, List.takeWhile_eq_self_iff]
  simp only [decide_eq_true_eq]
  exact ⟨fun h hmem => h _ hmem rfl, fun h c hc heq => h (heq ▸ hc)⟩

theorem splitOn_eq_upTo_cons (separator : C) (text : List C) :
    ∃ rest, text.splitOn separator = upTo separator text :: rest := by
  induction text with
  | nil => exact ⟨[], rfl⟩
  | cons c text ih =>
      obtain ⟨rest, heq⟩ := ih
      rw [List.splitOn_cons_eq_if_modifyHead, heq]
      split
      next hc =>
        rw [eq_of_beq hc]
        exact ⟨upTo separator text :: rest, by simp [upTo]⟩
      next hc =>
        have hne : c ≠ separator := by simpa using hc
        exact ⟨rest, by simp [upTo, hne]⟩

/-- Splitting at every separator cuts a value off at its first one. -/
theorem splitOn_assignment {name : List C} (h : separator ∉ name)
    (value : List C) :
    ∃ rest, (name ++ separator :: value).splitOn separator =
      name :: upTo separator value :: rest := by
  obtain ⟨rest, heq⟩ := splitOn_eq_upTo_cons separator value
  refine ⟨rest, ?_⟩
  rw [List.splitOn_append_cons_self, List.splitOn_eq_singleton h, heq]
  rfl

end text

section bindings

variable {A : Type u} {K : Type v} {V : Type w} [DecidableEq K]
  (key : A → K) (value : A → V)

/-- The value that the last element with a key gives it. -/
def lastValue (k : K) (as : List A) : Option V :=
  as.foldl (fun found a => if key a = k then some (value a) else found) none

variable {key : A → K} {value : A → V}

theorem lastValue_concat (k : K) (as : List A) (a : A) :
    lastValue key value k (as ++ [a]) =
      if key a = k then some (value a) else lastValue key value k as := by
  rw [lastValue, List.foldl_append]
  rfl

theorem lastValue_map {V' : Type x} (f : V → V') (k : K) (as : List A) :
    lastValue key (fun a => f (value a)) k as =
      (lastValue key value k as).map f := by
  induction as using List.reverseRecOn with
  | nil => rfl
  | append_singleton as a ih =>
      rw [lastValue_concat, lastValue_concat, ih]
      split <;> rfl

theorem lastValue_isSome_iff {k : K} {as : List A} :
    (lastValue key value k as).isSome = true ↔ ∃ a ∈ as, key a = k := by
  induction as using List.reverseRecOn with
  | nil => simp [lastValue]
  | append_singleton as a ih =>
      rw [lastValue_concat]
      split
      next heq => simp [heq]
      next hne => simp [ih, hne]

/-- A key that one element has gets its value. -/
theorem lastValue_of_nodup (value : A → V) {as : List A}
    (h : (as.map key).Nodup) {a : A} (ha : a ∈ as) :
    lastValue key value (key a) as = some (value a) := by
  induction as using List.reverseRecOn with
  | nil => exact absurd ha List.not_mem_nil
  | append_singleton as b ih =>
      rw [List.map_append, List.nodup_append] at h
      rw [lastValue_concat]
      rcases List.mem_append.1 ha with ha | ha
      · have hne : key b ≠ key a := fun heq =>
          h.2.2 _ (List.mem_map_of_mem ha) _ (List.mem_singleton.2 rfl) heq.symm
        rw [if_neg hne]
        exact ih h.1 ha
      · rw [List.mem_singleton.1 ha, if_pos rfl]

/-- A map into which the elements are put one by one binds a key to the value
of the last element with it. -/
theorem lookup_foldl {M : Type x} {step : M → A → M}
    (lookup : M → K → Option V)
    (hstep : ∀ m a k, lookup (step m a) k =
      if key a = k then some (value a) else lookup m k)
    (m : M) (as : List A) (k : K) :
    lookup (as.foldl step m) k =
      (lastValue key value k as).or (lookup m k) := by
  induction as using List.reverseRecOn with
  | nil => rfl
  | append_singleton as a ih =>
      rw [List.foldl_append, List.foldl_cons, List.foldl_nil, hstep,
        lastValue_concat, ih]
      split <;> rfl

end bindings

end Assignments

/-
Lists used as small stores: the first element that matches a predicate is
found, changed in place or removed, and of the elements with one key the first
is kept.
-/
import Mathlib.Data.List.Nodup

namespace FirstMatch

universe u v

variable {A : Type u} {B : Type v}

/-- Change the first element that matches. -/
def modifyFirst (p : A → Bool) (f : A → A) : List A → List A
  | [] => []
  | a :: rest => if p a then f a :: rest else a :: modifyFirst p f rest

theorem mem_modifyFirst {p : A → Bool} {f : A → A} {l : List A} {a : A}
    (ha : a ∈ modifyFirst p f l) : a ∈ l ∨ ∃ b ∈ l, p b = true ∧ a = f b := by
  induction l with
  | nil => simp [modifyFirst] at ha
  | cons head tail ih =>
      by_cases hp : p head = true
      · simp only [modifyFirst, hp, ↓reduceIte, List.mem_cons] at ha
        rcases ha with rfl | ha
        · exact Or.inr ⟨head, List.mem_cons_self, hp, rfl⟩
        · exact Or.inl (List.mem_cons_of_mem head ha)
      · simp only [modifyFirst, hp, Bool.false_eq_true, ↓reduceIte,
          List.mem_cons] at ha
        rcases ha with rfl | ha
        · exact Or.inl List.mem_cons_self
        · rcases ih ha with hold | ⟨b, hb, hpb, rfl⟩
          · exact Or.inl (List.mem_cons_of_mem head hold)
          · exact Or.inr ⟨b, List.mem_cons_of_mem head hb, hpb, rfl⟩

/-- What the change does to the first match is there afterwards. -/
theorem exists_mem_modifyFirst {p : A → Bool} {f : A → A} {l : List A}
    (h : ∃ a ∈ l, p a = true) : ∃ a, p a = true ∧ f a ∈ modifyFirst p f l := by
  induction l with
  | nil =>
      obtain ⟨a, ha, _⟩ := h
      exact absurd ha List.not_mem_nil
  | cons head tail ih =>
      by_cases hp : p head = true
      · exact ⟨head, hp, by simp [modifyFirst, hp]⟩
      · obtain ⟨a, ha, hpa⟩ := h
        rcases List.mem_cons.1 ha with rfl | htail
        · exact absurd hpa hp
        · obtain ⟨b, hpb, hb⟩ := ih ⟨a, htail, hpa⟩
          exact ⟨b, hpb, by simp [modifyFirst, hp, hb]⟩

/-- A projection the change leaves alone is the same list afterwards. -/
theorem map_modifyFirst {p : A → Bool} {f : A → A} {g : A → B}
    (hg : ∀ a, g (f a) = g a) (l : List A) :
    (modifyFirst p f l).map g = l.map g := by
  induction l with
  | nil => rfl
  | cons head tail ih =>
      by_cases hp : p head = true
      · simp [modifyFirst, hp, hg]
      · simp [modifyFirst, hp, ih]

/-- A change that a projection carries over to its values. -/
theorem map_modifyFirst_comp {p : B → Bool} {f : A → A} {f' : B → B}
    {g : A → B} (hf : ∀ a, g (f a) = f' (g a)) (l : List A) :
    (modifyFirst (p ∘ g) f l).map g = modifyFirst p f' (l.map g) := by
  induction l with
  | nil => rfl
  | cons head tail ih =>
      by_cases hp : p (g head) = true
      · simp [modifyFirst, hp, hf]
      · simp [modifyFirst, hp, ih]

@[simp] theorem length_modifyFirst (p : A → Bool) (f : A → A) (l : List A) :
    (modifyFirst p f l).length = l.length := by
  induction l with
  | nil => rfl
  | cons head tail ih =>
      by_cases hp : p head = true
      · simp [modifyFirst, hp]
      · simp [modifyFirst, hp, ih]

@[simp] theorem modifyFirst_eq_nil_iff {p : A → Bool} {f : A → A}
    {l : List A} : modifyFirst p f l = [] ↔ l = [] := by
  rw [← List.length_eq_zero_iff, length_modifyFirst, List.length_eq_zero_iff]

/-- To remove what a search finds is to remove the first match. -/
theorem erase_of_find? [DecidableEq A] {p : A → Bool} {l : List A} {a : A}
    (h : l.find? p = some a) : l.erase a = l.eraseP p := by
  obtain ⟨hp, pre, post, rfl, hpre⟩ := List.find?_eq_some_iff_append.1 h
  have hmiss : ∀ b ∈ pre, ¬ p b = true := by simpa using hpre
  rw [List.eraseP_append_right _ hmiss, List.eraseP_cons_of_pos hp,
    List.erase_append_right _ fun hmem => hmiss a hmem hp, List.erase_cons_head]

/-- What a search finds stands between the others. -/
theorem exists_eraseP_of_find? {p : A → Bool} {l : List A} {a : A}
    (h : l.find? p = some a) :
    ∃ pre post, l = pre ++ a :: post ∧ l.eraseP p = pre ++ post := by
  obtain ⟨hp, pre, post, rfl, hpre⟩ := List.find?_eq_some_iff_append.1 h
  have hmiss : ∀ b ∈ pre, ¬ p b = true := by simpa using hpre
  refine ⟨pre, post, rfl, ?_⟩
  rw [List.eraseP_append_right _ hmiss, List.eraseP_cons_of_pos hp]

section keys

variable [DecidableEq B] {key : A → B}

/-- Append an element unless there is one with its key. -/
def addNew (key : A → B) (l : List A) (a : A) : List A :=
  if l.any fun b => key b = key a then l else l ++ [a]

/-- Looking a key up does not notice what is left out. -/
theorem find?_addNew (l : List A) (a : A) (k : B) :
    (addNew key l a).find? (fun b => key b = k) =
      (l ++ [a]).find? fun b => key b = k := by
  unfold addNew
  split
  next hany =>
    rw [List.find?_append]
    by_cases hk : key a = k
    · obtain ⟨b, hb, hkey⟩ := List.any_eq_true.1 hany
      have hfound : (l.find? fun b => key b = k).isSome = true := by
        rw [List.find?_isSome]
        exact ⟨b, hb, by simpa [hk] using hkey⟩
      obtain ⟨c, hc⟩ := Option.isSome_iff_exists.1 hfound
      rw [hc, Option.some_or]
    · simp [hk]
  · rfl

theorem find?_foldl_addNew (l acc : List A) (k : B) :
    (l.foldl (addNew key) acc).find? (fun b => key b = k) =
      (acc ++ l).find? fun b => key b = k := by
  induction l generalizing acc with
  | nil => rw [List.foldl_nil, List.append_nil]
  | cons a rest ih =>
      rw [List.foldl_cons, ih, List.find?_append, find?_addNew,
        ← List.find?_append, List.append_assoc, List.singleton_append]

theorem mem_foldl_addNew {l acc : List A} {a : A}
    (h : a ∈ l.foldl (addNew key) acc) : a ∈ acc ∨ a ∈ l := by
  induction l generalizing acc with
  | nil => exact Or.inl h
  | cons b rest ih =>
      rcases ih h with hacc | hrest
      · unfold addNew at hacc
        split at hacc
        · exact Or.inl hacc
        · rcases List.mem_append.1 hacc with hacc | hb
          · exact Or.inl hacc
          · exact Or.inr (List.mem_singleton.1 hb ▸ List.mem_cons_self)
      · exact Or.inr (List.mem_cons_of_mem b hrest)

theorem nodup_addNew {l : List A} (h : (l.map key).Nodup) (a : A) :
    ((addNew key l a).map key).Nodup := by
  unfold addNew
  split
  · exact h
  next hany =>
    rw [List.map_append, List.map_singleton]
    apply h.append (List.nodup_singleton _)
    rw [List.disjoint_singleton]
    intro hmem
    obtain ⟨b, hb, hkey⟩ := List.mem_map.1 hmem
    exact hany (List.any_eq_true.2 ⟨b, hb, by simpa using hkey⟩)

theorem nodup_foldl_addNew (l : List A) {acc : List A}
    (h : (acc.map key).Nodup) : ((l.foldl (addNew key) acc).map key).Nodup := by
  induction l generalizing acc with
  | nil => exact h
  | cons a rest ih => exact ih (nodup_addNew h a)

theorem key_of_find? {l : List A} {b : B} {a : A}
    (h : l.find? (fun a => key a = b) = some a) : key a = b := by
  have hp := List.find?_some h
  rwa [decide_eq_true_eq] at hp

/-- Of a list without duplicate keys, an element is what its key finds. -/
theorem find?_key_of_mem {l : List A} (h : (l.map key).Nodup) {a : A}
    (ha : a ∈ l) : (l.find? fun b => key b = key a) = some a := by
  induction l with
  | nil => exact absurd ha List.not_mem_nil
  | cons b rest ih =>
      rw [List.map_cons, List.nodup_cons] at h
      rcases List.mem_cons.1 ha with rfl | hrest
      · rw [List.find?_cons_of_pos (by simp)]
      · have hne : key b ≠ key a := fun heq =>
          h.1 (heq ▸ List.mem_map_of_mem hrest)
        rw [List.find?_cons_of_neg (by simpa using hne), ih h.2 hrest]

end keys

section rows

variable {p : A → Bool} {l : List A}

/-- Looking through the positions of a list. -/
theorem find?_range_eq (p : A → Bool) (l : List A) :
    ((List.range l.length).find? fun i => (l[i]?).any p) = l.findIdx? p := by
  apply Option.ext
  intro i
  rw [List.find?_range_eq_some, List.findIdx?_eq_some_iff_getElem]
  simp only [List.mem_range, Bool.not_eq_true']
  constructor
  · rintro ⟨hp, hi, hbefore⟩
    rw [List.getElem?_eq_getElem hi, Option.any_some] at hp
    refine ⟨hi, hp, fun j hj => ?_⟩
    have hfalse := hbefore j hj
    rw [List.getElem?_eq_getElem (Nat.lt_trans hj hi), Option.any_some] at hfalse
    rw [hfalse]
    exact Bool.false_ne_true
  · rintro ⟨hi, hp, hbefore⟩
    rw [List.getElem?_eq_getElem hi, Option.any_some]
    refine ⟨hp, hi, fun j hj => ?_⟩
    rw [List.getElem?_eq_getElem (Nat.lt_trans hj hi), Option.any_some]
    exact Bool.eq_false_iff.2 (hbefore j hj)

/-- The position of the first element that matches, -1 if none does. -/
def firstRow (p : A → Bool) (l : List A) : Int :=
  match l.findIdx? p with
  | some i => i
  | none => -1

theorem firstRow_of_none (h : ∀ a ∈ l, p a = false) : firstRow p l = -1 := by
  rw [firstRow, List.findIdx?_eq_none_iff.2 h]

theorem firstRow_of_mem {a : A} (ha : a ∈ l) (hp : p a = true) :
    firstRow p l = l.findIdx p := by
  have hidx : l.findIdx? p = some (l.findIdx p) :=
    List.findIdx?_eq_some_iff_findIdx_eq.2
      ⟨List.findIdx_lt_length_of_exists ⟨a, ha, hp⟩, rfl⟩
  rw [firstRow, hidx]

theorem getElem?_firstRow {a : A} (ha : a ∈ l) (hp : p a = true) :
    l[(firstRow p l).toNat]? = l.find? p := by
  rw [firstRow_of_mem ha hp, Int.toNat_natCast, List.find?_eq_getElem?_findIdx]

end rows

end FirstMatch

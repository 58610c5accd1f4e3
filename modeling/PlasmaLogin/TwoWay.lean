/-
A shared value with fields that mirror it, kept equal by change handlers in
both directions.  A handler assigns only what differs, and an assignment runs
the handlers of what it changes before anything else goes on.
-/
import Mathlib.Data.List.Basic

namespace TwoWay

universe u v w

variable {S : Type u} {V : Type v} {F : Type w}

/-- Where a state keeps the value and the fields that mirror it. -/
structure Mirror (S : Type u) (V : Type v) (F : Type w) where
  shared : S → V
  setShared : V → S → S
  fields : S → List F
  field : F → S → V
  setField : F → V → S → S

/-- What is read is what was written there last. -/
structure Mirror.Lawful (m : Mirror S V F) : Prop where
  shared_setShared : ∀ v s, m.shared (m.setShared v s) = v
  fields_setShared : ∀ v s, m.fields (m.setShared v s) = m.fields s
  field_setShared : ∀ f v s, m.field f (m.setShared v s) = m.field f s
  shared_setField : ∀ f v s, m.shared (m.setField f v s) = m.shared s
  fields_setField : ∀ f v s, m.fields (m.setField f v s) = m.fields s
  field_setField : ∀ f v s, f ∈ m.fields s → m.field f (m.setField f v s) = v
  field_setField_ne : ∀ f g v s, g ≠ f →
    m.field g (m.setField f v s) = m.field g s

/-- The handlers of a field's change and of the shared value's change, the
latter once for each field. -/
inductive Handler (F : Type w) where
  | toShared (f : F)
  | toField (f : F)

namespace Mirror

/-- Every field is as the shared value. -/
def Agrees (m : Mirror S V F) (s : S) : Prop :=
  ∀ f ∈ m.fields s, m.field f s = m.shared s

/-- Every field but one is. -/
def AgreesBut (m : Mirror S V F) (f : F) (s : S) : Prop :=
  ∀ g ∈ m.fields s, g ≠ f → m.field g s = m.shared s

/-- Two states that a mirror does not tell apart. -/
structure Same (m : Mirror S V F) (s t : S) : Prop where
  fields : m.fields t = m.fields s
  shared : m.shared t = m.shared s
  field : ∀ g ∈ m.fields s, m.field g t = m.field g s

theorem Same.refl (m : Mirror S V F) (s : S) : m.Same s s :=
  ⟨rfl, rfl, fun _ _ => rfl⟩

theorem Same.trans {m : Mirror S V F} {s t u : S} (h : m.Same s t)
    (h' : m.Same t u) : m.Same s u := by
  refine ⟨h'.fields.trans h.fields, h'.shared.trans h.shared, fun g hg => ?_⟩
  rw [h'.field g (h.fields ▸ hg), h.field g hg]

theorem Agrees.but {m : Mirror S V F} {s : S} (h : m.Agrees s) (f : F) :
    m.AgreesBut f s :=
  fun g hg _ => h g hg

theorem AgreesBut.agrees {m : Mirror S V F} {f : F} {s : S}
    (h : m.AgreesBut f s) (hf : f ∉ m.fields s) : m.Agrees s :=
  fun g hg => h g hg fun heq => hf (heq ▸ hg)

theorem Agrees.same {m : Mirror S V F} {s t : S} (h : m.Agrees s)
    (hs : m.Same s t) : m.Agrees t := by
  intro g hg
  rw [hs.fields] at hg
  rw [hs.field g hg, hs.shared, h g hg]

theorem AgreesBut.same {m : Mirror S V F} {f : F} {s t : S}
    (h : m.AgreesBut f s) (hs : m.Same s t) : m.AgreesBut f t := by
  intro g hg hne
  rw [hs.fields] at hg
  rw [hs.field g hg, hs.shared, h g hg hne]

variable [DecidableEq V] (m : Mirror S V F)

/-- One handler, with the handlers of the change it makes. -/
def fire : Handler F → S → S × List (Handler F)
  | .toShared f, s =>
      if m.shared s = m.field f s then (s, [])
      else (m.setShared (m.field f s) s, (m.fields s).map .toField)
  | .toField f, s =>
      if m.field f s = m.shared s then (s, [])
      else (m.setField f (m.shared s) s, [.toShared f])

/-- The handlers that are due, for a number of turns at most. -/
def settle : Nat → List (Handler F) → S → S
  | 0, _, s => s
  | _, [], s => s
  | turns + 1, h :: hs, s =>
      settle turns ((m.fire h s).2 ++ hs) (m.fire h s).1

/-- An assignment to a field. -/
def assignField (f : F) (v : V) (s : S) : S :=
  if m.field f s = v then s
  else m.settle (1 + 2 * (m.fields s).length) [.toShared f] (m.setField f v s)

/-- An assignment to the shared value. -/
def assignShared (v : V) (s : S) : S :=
  if m.shared s = v then s
  else
    m.settle (2 * (m.fields s).length) ((m.fields s).map .toField)
      (m.setShared v s)

/-- The shared value is copied to some fields. -/
def fill (fs : List F) (s : S) : S :=
  fs.foldl (fun s f =>
    if m.field f s = m.shared s then s else m.setField f (m.shared s) s) s

variable {m}

@[simp] theorem settle_nil (turns : Nat) (s : S) :
    m.settle turns [] s = s := by
  cases turns <;> rfl

theorem fill_cons_eq {f : F} {s : S} (h : m.field f s = m.shared s)
    (fs : List F) : m.fill (f :: fs) s = m.fill fs s := by
  simp only [fill, List.foldl_cons, if_pos h]

theorem fill_cons_ne {f : F} {s : S} (h : m.field f s ≠ m.shared s)
    (fs : List F) :
    m.fill (f :: fs) s = m.fill fs (m.setField f (m.shared s) s) := by
  simp only [fill, List.foldl_cons, if_neg h]

/-- What survives the assignments to fields survives copying. -/
theorem fill_invariant {I : S → Prop} (hm : m.Lawful)
    (hfield : ∀ f v t, f ∈ m.fields t → I t → I (m.setField f v t))
    {fs : List F} {s : S} (hfs : ∀ f ∈ fs, f ∈ m.fields s) (hs : I s) :
    I (m.fill fs s) := by
  induction fs generalizing s with
  | nil => exact hs
  | cons f fs ih =>
      rw [List.forall_mem_cons] at hfs
      by_cases heq : m.field f s = m.shared s
      · rw [fill_cons_eq heq]
        exact ih hfs.2 hs
      · rw [fill_cons_ne heq]
        apply ih
        · rw [hm.fields_setField]
          exact hfs.2
        · exact hfield f _ s hfs.1 hs

theorem fields_fill (hm : m.Lawful) {fs : List F} {s : S}
    (hfs : ∀ f ∈ fs, f ∈ m.fields s) : m.fields (m.fill fs s) = m.fields s :=
  fill_invariant (I := fun t => m.fields t = m.fields s) hm
    (fun f v t _ ht => (hm.fields_setField f v t).trans ht) hfs rfl

theorem shared_fill (hm : m.Lawful) {fs : List F} {s : S}
    (hfs : ∀ f ∈ fs, f ∈ m.fields s) : m.shared (m.fill fs s) = m.shared s :=
  fill_invariant (I := fun t => m.shared t = m.shared s) hm
    (fun f v t _ ht => (hm.shared_setField f v t).trans ht) hfs rfl

/-- Every field that is copied to has the shared value. -/
theorem field_fill (hm : m.Lawful) {fs : List F} {s : S}
    (hfs : ∀ f ∈ fs, f ∈ m.fields s) {g : F}
    (hg : g ∈ fs ∨ m.field g s = m.shared s) :
    m.field g (m.fill fs s) = m.shared s := by
  induction fs generalizing s with
  | nil => exact hg.resolve_left (List.not_mem_nil)
  | cons f fs ih =>
      rw [List.forall_mem_cons] at hfs
      by_cases heq : m.field f s = m.shared s
      · rw [fill_cons_eq heq]
        apply ih hfs.2
        rcases hg with hmem | hsame
        · exact (List.mem_cons.1 hmem).elim (fun h => Or.inr (h ▸ heq)) Or.inl
        · exact Or.inr hsame
      · rw [fill_cons_ne heq]
        refine (ih ?_ ?_).trans (hm.shared_setField f _ s)
        · rw [hm.fields_setField]
          exact hfs.2
        · rw [hm.shared_setField]
          by_cases hne : g = f
          · exact Or.inr (hne ▸ hm.field_setField f _ s hfs.1)
          · rw [hm.field_setField_ne f g _ s hne]
            exact hg.imp_left fun h => (List.mem_cons.1 h).resolve_left hne

theorem agrees_fill (hm : m.Lawful) (s : S) :
    m.Agrees (m.fill (m.fields s) s) := by
  intro g hg
  rw [fields_fill hm fun _ h => h] at hg
  rw [shared_fill hm fun _ h => h, field_fill hm (fun _ h => h) (Or.inl hg)]

/-- Two turns for a field are enough, more make no difference. -/
theorem settle_toField (hm : m.Lawful) {fs : List F} {s : S} {turns : Nat}
    (hturns : 2 * fs.length ≤ turns) (hfs : ∀ f ∈ fs, f ∈ m.fields s) :
    m.settle turns (fs.map .toField) s = m.fill fs s := by
  induction fs generalizing s turns with
  | nil => exact settle_nil turns s
  | cons f fs ih =>
      rw [List.forall_mem_cons] at hfs
      rw [List.length_cons] at hturns
      obtain ⟨k, rfl⟩ := Nat.exists_eq_add_of_le' (show 2 ≤ turns by omega)
      by_cases heq : m.field f s = m.shared s
      · have hfire : m.fire (.toField f) s = (s, []) := if_pos heq
        rw [List.map_cons, settle, hfire, fill_cons_eq heq]
        exact ih (by omega) hfs.2
      · have hfire : m.fire (.toField f) s =
            (m.setField f (m.shared s) s, [.toShared f]) := if_neg heq
        -- the handler of the field's own change finds nothing to assign
        have hback : m.fire (.toShared f) (m.setField f (m.shared s) s) =
            (m.setField f (m.shared s) s, []) := by
          apply if_pos
          rw [hm.shared_setField, hm.field_setField f _ s hfs.1]
        rw [List.map_cons, settle, hfire, fill_cons_ne heq]
        change m.settle (k + 1) (.toShared f :: fs.map .toField) _ = _
        rw [settle, hback]
        apply ih (by omega)
        rw [hm.fields_setField]
        exact hfs.2

theorem settle_toShared (hm : m.Lawful) {f : F} {s : S} {turns : Nat}
    (hturns : 1 + 2 * (m.fields s).length ≤ turns) :
    m.settle turns [.toShared f] s =
      if m.shared s = m.field f s then s
      else m.fill (m.fields s) (m.setShared (m.field f s) s) := by
  obtain ⟨k, rfl⟩ := Nat.exists_eq_add_of_le' (show 1 ≤ turns by omega)
  rw [settle]
  by_cases heq : m.shared s = m.field f s
  · have hfire : m.fire (.toShared f) s = (s, []) := if_pos heq
    rw [hfire, if_pos heq]
    exact settle_nil k s
  · have hfire : m.fire (.toShared f) s =
        (m.setShared (m.field f s) s, (m.fields s).map .toField) := if_neg heq
    rw [hfire, if_neg heq, List.append_nil]
    apply settle_toField hm (by omega)
    rw [hm.fields_setShared]
    exact fun _ h => h

/-- What an assignment to the shared value comes to. -/
theorem assignShared_eq (hm : m.Lawful) (v : V) (s : S) :
    m.assignShared v s =
      if m.shared s = v then s else m.fill (m.fields s) (m.setShared v s) := by
  rw [assignShared, settle_toField hm (Nat.le_refl _)]
  rw [hm.fields_setShared]
  exact fun _ h => h

/-- What an assignment to a field comes to. -/
theorem assignField_eq (hm : m.Lawful) {f : F} {s : S} (hf : f ∈ m.fields s)
    (v : V) :
    m.assignField f v s =
      if m.field f s = v then s
      else if m.shared s = v then m.setField f v s
      else m.fill (m.fields s) (m.setShared v (m.setField f v s)) := by
  have hturns : 1 + 2 * (m.fields (m.setField f v s)).length ≤
      1 + 2 * (m.fields s).length :=
    Nat.le_of_eq (by rw [hm.fields_setField f v s])
  rw [assignField, settle_toShared hm hturns, hm.shared_setField,
    hm.field_setField f v s hf, hm.fields_setField]

theorem shared_assignShared (hm : m.Lawful) (v : V) (s : S) :
    m.shared (m.assignShared v s) = v := by
  rw [assignShared_eq hm]
  split
  · assumption
  · rw [shared_fill hm, hm.shared_setShared]
    rw [hm.fields_setShared]
    exact fun _ h => h

theorem agrees_assignShared (hm : m.Lawful) (v : V) {s : S}
    (h : m.Agrees s) : m.Agrees (m.assignShared v s) := by
  rw [assignShared_eq hm]
  split
  · exact h
  · rw [← hm.fields_setShared v s]
    exact agrees_fill hm _

theorem assignField_of_eq {f : F} {v : V} {s : S} (h : m.field f s = v) :
    m.assignField f v s = s := if_pos h

theorem shared_assignField (hm : m.Lawful) {f : F} {s : S}
    (hf : f ∈ m.fields s) {v : V} (hne : m.field f s = v → m.shared s = v) :
    m.shared (m.assignField f v s) = v := by
  rw [assignField_eq hm hf]
  split
  · exact hne (by assumption)
  · split
    · rw [hm.shared_setField]
      assumption
    · rw [shared_fill hm, hm.shared_setShared]
      rw [hm.fields_setShared, hm.fields_setField]
      exact fun _ h => h

/-- An assignment to the one field that may differ makes all agree, unless it
assigns what the field has already. -/
theorem AgreesBut.assignField (hm : m.Lawful) {f : F} {s : S}
    (h : m.AgreesBut f s) (hf : f ∈ m.fields s) {v : V}
    (hne : m.field f s = v → m.shared s = v) :
    m.Agrees (m.assignField f v s) := by
  rw [assignField_eq hm hf]
  split
  next heq =>
    intro g hg
    by_cases hgf : g = f
    · rw [hgf, heq, hne heq]
    · exact h g hg hgf
  next =>
    split
    next heq =>
      intro g hg
      rw [hm.fields_setField] at hg
      rw [hm.shared_setField, heq]
      by_cases hgf : g = f
      · rw [hgf]
        exact hm.field_setField f v s hf
      · rw [hm.field_setField_ne f g v s hgf, h g hg hgf, heq]
    next =>
      rw [← hm.fields_setField f v s,
        ← hm.fields_setShared v (m.setField f v s)]
      exact agrees_fill hm _

theorem Agrees.assignField (hm : m.Lawful) {f : F} {s : S}
    (h : m.Agrees s) (hf : f ∈ m.fields s) (v : V) :
    m.Agrees (m.assignField f v s) :=
  (h.but f).assignField hm hf fun hv => by rw [← h f hf, hv]

theorem Agrees.shared_assignField (hm : m.Lawful) {f : F} {s : S}
    (h : m.Agrees s) (hf : f ∈ m.fields s) (v : V) :
    m.shared (m.assignField f v s) = v :=
  Mirror.shared_assignField hm hf fun hv => by rw [← h f hf, hv]

/-- What survives single assignments survives an assignment with its
handlers. -/
theorem assignShared_invariant {I : S → Prop} (hm : m.Lawful)
    (hshared : ∀ v t, I t → I (m.setShared v t))
    (hfield : ∀ f v t, f ∈ m.fields t → I t → I (m.setField f v t))
    {s : S} (hs : I s) (v : V) : I (m.assignShared v s) := by
  rw [assignShared_eq hm]
  split
  · exact hs
  · apply fill_invariant hm hfield _ (hshared v s hs)
    rw [hm.fields_setShared]
    exact fun _ h => h

theorem assignField_invariant {I : S → Prop} (hm : m.Lawful)
    (hshared : ∀ v t, I t → I (m.setShared v t))
    (hfield : ∀ f v t, f ∈ m.fields t → I t → I (m.setField f v t))
    {f : F} {s : S} (hf : f ∈ m.fields s) (hs : I s) (v : V) :
    I (m.assignField f v s) := by
  rw [assignField_eq hm hf]
  split
  · exact hs
  · have hset := hfield f v s hf hs
    split
    · exact hset
    · apply fill_invariant hm hfield _ (hshared v _ hset)
      rw [hm.fields_setShared, hm.fields_setField]
      exact fun _ h => h

/-- What no single assignment changes. -/
structure Ignores {α : Type u} (m : Mirror S V F) (g : S → α) : Prop where
  setShared : ∀ v s, g (m.setShared v s) = g s
  setField : ∀ f v s, g (m.setField f v s) = g s

section Ignores

variable {α : Type u} {g : S → α}

theorem Ignores.fire (h : m.Ignores g) (handler : Handler F) (s : S) :
    g (m.fire handler s).1 = g s := by
  cases handler with
  | toShared f =>
      rw [Mirror.fire]
      split
      · rfl
      · exact h.setShared _ s
  | toField f =>
      rw [Mirror.fire]
      split
      · rfl
      · exact h.setField f _ s

/-- The handlers of an assignment do not change it either. -/
theorem Ignores.settle (h : m.Ignores g) (turns : Nat) (hs : List (Handler F))
    (s : S) : g (m.settle turns hs s) = g s := by
  induction turns generalizing hs s with
  | zero => rfl
  | succ turns ih =>
      cases hs with
      | nil => rfl
      | cons handler hs => exact (ih _ _).trans (h.fire handler s)

theorem Ignores.assignField (h : m.Ignores g) (f : F) (v : V) (s : S) :
    g (m.assignField f v s) = g s := by
  rw [Mirror.assignField]
  split
  · rfl
  · exact (h.settle _ _ _).trans (h.setField f v s)

theorem Ignores.assignShared (h : m.Ignores g) (v : V) (s : S) :
    g (m.assignShared v s) = g s := by
  rw [Mirror.assignShared]
  split
  · rfl
  · exact (h.settle _ _ _).trans (h.setShared v s)

end Ignores

end Mirror

section Apart

universe v' w'

variable {V' : Type v'} {F' : Type w'}

/-- What is written through one mirror is not seen through another one. -/
structure Apart (m : Mirror S V F) (m' : Mirror S V' F') : Prop where
  setShared : ∀ v s, m'.Same s (m.setShared v s)
  setField : ∀ f v s, f ∈ m.fields s → m'.Same s (m.setField f v s)

variable [DecidableEq V] {m : Mirror S V F} {m' : Mirror S V' F'}

theorem Apart.assignShared (h : Apart m m') (hm : m.Lawful) (v : V) (s : S) :
    m'.Same s (m.assignShared v s) :=
  Mirror.assignShared_invariant hm (fun v t ht => ht.trans (h.setShared v t))
    (fun f v t hf ht => ht.trans (h.setField f v t hf)) (.refl m' s) v

theorem Apart.assignField (h : Apart m m') (hm : m.Lawful) {f : F} {s : S}
    (hf : f ∈ m.fields s) (v : V) : m'.Same s (m.assignField f v s) :=
  Mirror.assignField_invariant hm (fun v t ht => ht.trans (h.setShared v t))
    (fun f v t hf ht => ht.trans (h.setField f v t hf)) hf (.refl m' s) v

end Apart

end TwoWay

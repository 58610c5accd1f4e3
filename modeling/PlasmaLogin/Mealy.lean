/-
Machines that answer each event with a new state and a list of outputs, and
the histories they produce.  Everything nondeterministic is carried by the
event, so one event list is one run and a statement about every event list is
a statement about every interleaving.
-/
import Mathlib.Data.List.Basic
import Mathlib.Data.List.Induction

namespace Mealy

universe u v w

variable {S : Type u} {E : Type v} {O : Type w}

/-- A handler that goes on with a second handler, outputs in order. -/
def andThen (r : S × List O) (next : S → S × List O) : S × List O :=
  ((next r.1).1, r.2 ++ (next r.1).2)

@[simp] theorem andThen_fst (r : S × List O) (next : S → S × List O) :
    (andThen r next).1 = (next r.1).1 := rfl

@[simp] theorem andThen_snd (r : S × List O) (next : S → S × List O) :
    (andThen r next).2 = r.2 ++ (next r.1).2 := rfl

/-- An event-driven machine.  `enabled` says which events the surroundings can
deliver in a state. -/
structure Machine (S : Type u) (E : Type v) (O : Type w) where
  enabled : S → E → Prop
  step : S → E → S × List O

/-- One completed transition with both of its states. -/
structure Step (S : Type u) (E : Type v) (O : Type w) where
  before : S
  event : E
  outputs : List O
  after : S

/-- The transition a machine makes on one event. -/
def Machine.fire (M : Machine S E O) (s : S) (e : E) : Step S E O :=
  ⟨s, e, (M.step s e).2, (M.step s e).1⟩

/-- The history of a run, oldest transition first. -/
def Machine.steps (M : Machine S E O) : S → List E → List (Step S E O)
  | _, [] => []
  | s, e :: es => M.fire s e :: M.steps (M.step s e).1 es

/-- The state a run ends in. -/
def Machine.exec (M : Machine S E O) : S → List E → S
  | s, [] => s
  | s, e :: es => M.exec (M.step s e).1 es

/-- Everything a run puts out. -/
def Machine.outputs (M : Machine S E O) (s : S) (es : List E) : List O :=
  (M.steps s es).flatMap Step.outputs

/-- Every transition of the run satisfies a condition on its first state and
its event. -/
def Machine.Guarded (M : Machine S E O) (G : S → E → Prop) (s : S)
    (es : List E) : Prop :=
  ∀ st ∈ M.steps s es, G st.before st.event

/-- The surroundings only ever deliver enabled events. -/
def Machine.Runs (M : Machine S E O) (s : S) (es : List E) : Prop :=
  M.Guarded M.enabled s es

instance (M : Machine S E O) (G : S → E → Prop)
    [∀ s e, Decidable (G s e)] (s : S) (es : List E) :
    Decidable (M.Guarded G s es) :=
  inferInstanceAs (Decidable (∀ st ∈ M.steps s es, G st.before st.event))

@[simp] theorem Machine.steps_nil (M : Machine S E O) (s : S) :
    M.steps s [] = [] := rfl

@[simp] theorem Machine.steps_cons (M : Machine S E O) (s : S) (e : E)
    (es : List E) :
    M.steps s (e :: es) = M.fire s e :: M.steps (M.step s e).1 es := rfl

@[simp] theorem Machine.exec_nil (M : Machine S E O) (s : S) :
    M.exec s [] = s := rfl

@[simp] theorem Machine.exec_cons (M : Machine S E O) (s : S) (e : E)
    (es : List E) : M.exec s (e :: es) = M.exec (M.step s e).1 es := rfl

@[simp] theorem Machine.outputs_nil (M : Machine S E O) (s : S) :
    M.outputs s [] = [] := rfl

@[simp] theorem Machine.outputs_cons (M : Machine S E O) (s : S) (e : E)
    (es : List E) :
    M.outputs s (e :: es) = (M.step s e).2 ++ M.outputs (M.step s e).1 es :=
  List.flatMap_cons

theorem Machine.exec_append (M : Machine S E O) (s : S) (first rest : List E) :
    M.exec s (first ++ rest) = M.exec (M.exec s first) rest := by
  induction first generalizing s with
  | nil => rfl
  | cons e es ih => exact ih (M.step s e).1

theorem Machine.steps_append (M : Machine S E O) (s : S)
    (first rest : List E) :
    M.steps s (first ++ rest) =
      M.steps s first ++ M.steps (M.exec s first) rest := by
  induction first generalizing s with
  | nil => rfl
  | cons e es ih =>
      simp only [List.cons_append, steps_cons, exec_cons, ih]

theorem Machine.steps_concat (M : Machine S E O) (s : S) (es : List E)
    (e : E) :
    M.steps s (es ++ [e]) = M.steps s es ++ [M.fire (M.exec s es) e] := by
  rw [steps_append]
  rfl

theorem Machine.exec_concat (M : Machine S E O) (s : S) (es : List E)
    (e : E) : M.exec s (es ++ [e]) = (M.step (M.exec s es) e).1 := by
  rw [exec_append]
  rfl

theorem Machine.outputs_concat (M : Machine S E O) (s : S) (es : List E)
    (e : E) :
    M.outputs s (es ++ [e]) = M.outputs s es ++ (M.step (M.exec s es) e).2 := by
  rw [outputs, steps_concat, List.flatMap_append, List.flatMap_singleton]
  rfl

/-- A transition of a run is the answer to one of its events in the state the
earlier events lead to. -/
theorem Machine.mem_steps_iff (M : Machine S E O) (s : S) (es : List E)
    (st : Step S E O) :
    st ∈ M.steps s es ↔
      ∃ pre e post, es = pre ++ e :: post ∧ st = M.fire (M.exec s pre) e := by
  induction es generalizing s with
  | nil => simp
  | cons e es ih =>
      rw [steps_cons, List.mem_cons, ih]
      constructor
      · rintro (rfl | ⟨pre, e', post, rfl, rfl⟩)
        · exact ⟨[], e, es, rfl, rfl⟩
        · exact ⟨e :: pre, e', post, rfl, rfl⟩
      · rintro ⟨pre, e', post, heq, rfl⟩
        cases pre with
        | nil =>
            simp only [List.nil_append, List.cons.injEq] at heq
            obtain ⟨rfl, rfl⟩ := heq
            exact Or.inl rfl
        | cons e'' pre =>
            simp only [List.cons_append, List.cons.injEq] at heq
            obtain ⟨rfl, rfl⟩ := heq
            exact Or.inr ⟨pre, e', post, rfl, rfl⟩

theorem Machine.guarded_nil (M : Machine S E O) (G : S → E → Prop) (s : S) :
    M.Guarded G s [] := by
  intro st hst
  simp at hst

theorem Machine.guarded_cons (M : Machine S E O) (G : S → E → Prop) (s : S)
    (e : E) (es : List E) :
    M.Guarded G s (e :: es) ↔ G s e ∧ M.Guarded G (M.step s e).1 es := by
  simp only [Guarded, steps_cons, List.forall_mem_cons]
  rfl

theorem Machine.guarded_append (M : Machine S E O) (G : S → E → Prop) (s : S)
    (first rest : List E) :
    M.Guarded G s (first ++ rest) ↔
      M.Guarded G s first ∧ M.Guarded G (M.exec s first) rest := by
  simp only [Guarded, steps_append, List.forall_mem_append]

theorem Machine.guarded_concat (M : Machine S E O) (G : S → E → Prop) (s : S)
    (es : List E) (e : E) :
    M.Guarded G s (es ++ [e]) ↔ M.Guarded G s es ∧ G (M.exec s es) e := by
  rw [guarded_append, guarded_cons]
  exact and_congr_right fun _ =>
    ⟨And.left, fun h => ⟨h, M.guarded_nil G _⟩⟩

/-- The induction rule for runs: what holds first and survives every
permitted transition holds in the state the run ends in. -/
theorem Machine.exec_invariant (M : Machine S E O) {I : S → Prop}
    {G : S → E → Prop}
    (hstep : ∀ s e, I s → G s e → I (M.step s e).1) {s : S} {es : List E}
    (hs : I s) (hes : M.Guarded G s es) : I (M.exec s es) := by
  induction es generalizing s with
  | nil => exact hs
  | cons e es ih =>
      rw [guarded_cons] at hes
      exact ih (hstep s e hs hes.1) hes.2

/-- The same rule at every transition of the run. -/
theorem Machine.steps_invariant (M : Machine S E O) {I : S → Prop}
    {G : S → E → Prop}
    (hstep : ∀ s e, I s → G s e → I (M.step s e).1) {s : S} {es : List E}
    (hs : I s) (hes : M.Guarded G s es) :
    ∀ st ∈ M.steps s es, I st.before := by
  intro st hst
  obtain ⟨pre, e, post, rfl, rfl⟩ := (M.mem_steps_iff s es st).1 hst
  rw [guarded_append] at hes
  exact M.exec_invariant hstep hs hes.1

/-- The induction rule for properties that look back at the history. -/
theorem Machine.history_invariant (M : Machine S E O)
    {J : List (Step S E O) → S → Prop} {G : S → E → Prop}
    (hstep : ∀ history s e, J history s → G s e →
      J (history ++ [M.fire s e]) (M.step s e).1) {s : S} {es : List E}
    (hs : J [] s) (hes : M.Guarded G s es) :
    J (M.steps s es) (M.exec s es) := by
  induction es using List.reverseRecOn with
  | nil => exact hs
  | append_singleton es e ih =>
      rw [guarded_concat] at hes
      rw [steps_concat, exec_concat]
      exact hstep _ _ e (ih hes.1) hes.2

/-- A relation along transitions holds between the ends of a run. -/
theorem Machine.exec_related (M : Machine S E O) {R : S → S → Prop}
    (hrefl : ∀ s, R s s) (htrans : ∀ s t u, R s t → R t u → R s u)
    (hstep : ∀ s e, R s (M.step s e).1) (s : S) (es : List E) :
    R s (M.exec s es) := by
  induction es generalizing s with
  | nil => exact hrefl s
  | cons e es ih => exact htrans _ _ _ (hstep s e) (ih _)

/-- It also holds between the state after a transition and the end. -/
theorem Machine.steps_related (M : Machine S E O) {R : S → S → Prop}
    (hrefl : ∀ s, R s s) (htrans : ∀ s t u, R s t → R t u → R s u)
    (hstep : ∀ s e, R s (M.step s e).1) (s : S) (es : List E) :
    ∀ st ∈ M.steps s es, R st.after (M.exec s es) := by
  intro st hst
  obtain ⟨pre, e, post, rfl, rfl⟩ := (M.mem_steps_iff s es st).1 hst
  rw [exec_append]
  exact M.exec_related hrefl htrans hstep _ post

/-- A state some run of enabled events leads to. -/
def Machine.Reachable (M : Machine S E O) (start s : S) : Prop :=
  ∃ es, M.Runs start es ∧ M.exec start es = s

theorem Machine.Reachable.refl (M : Machine S E O) (s : S) :
    M.Reachable s s :=
  ⟨[], M.guarded_nil _ s, rfl⟩

theorem Machine.Reachable.invariant {M : Machine S E O} {I : S → Prop}
    {start s : S} (h : M.Reachable start s) (hs : I start)
    (hstep : ∀ s e, I s → M.enabled s e → I (M.step s e).1) : I s := by
  obtain ⟨es, hrun, rfl⟩ := h
  exact M.exec_invariant hstep hs hrun

end Mealy

/-
Sequential programs that call their surroundings.  A program returns, ends its
process, or makes a call and goes on with the answer.  A run is the list of
the calls with their answers; any answers will do, so a statement about every
run is a statement about every behaviour of the surroundings.
-/
import Mathlib.Data.List.Basic

namespace Calls

universe u v w

variable {Op : Type u} {Res : Op → Type v} {E : Type w} {A B : Type v}

/-- A call with the answer it got. -/
structure Event (Res : Op → Type v) where
  op : Op
  res : Res op

/-- A program whose calls are answered in `Res` and which ends its process
with an `E`. -/
inductive Program (Res : Op → Type v) (E : Type w) (A : Type v) where
  | returns (a : A)
  | exits (e : E)
  | call (op : Op) (next : Res op → Program Res E A)

namespace Program

/-- One call, returning its answer. -/
def perform (op : Op) : Program Res E (Res op) := .call op .returns

def bind : Program Res E A → (A → Program Res E B) → Program Res E B
  | .returns a, f => f a
  | .exits e, _ => .exits e
  | .call op next, f => .call op fun r => (next r).bind f

instance : Monad (Program Res E) where
  pure := .returns
  bind := bind

/-- Ends the process unless a condition holds. -/
def require (e : E) (b : Bool) : Program Res E PUnit :=
  if b then .returns ⟨⟩ else .exits e

/-- A loop over a list. -/
def each {X : Type*} (body : X → Program Res E PUnit) :
    List X → Program Res E PUnit
  | [] => pure ⟨⟩
  | y :: ys => do
      body y
      each body ys

@[simp] theorem pure_def (a : A) :
    (pure a : Program Res E A) = .returns a := rfl

@[simp] theorem bind_def (p : Program Res E A) (f : A → Program Res E B) :
    p >>= f = p.bind f := rfl

@[simp] theorem returns_bind (a : A) (f : A → Program Res E B) :
    (returns a).bind f = f a := rfl

@[simp] theorem exits_bind (e : E) (f : A → Program Res E B) :
    (exits e).bind f = .exits e := rfl

end Program

/-- The program makes the calls and gets the answers of the list, and then
returns or ends its process. -/
inductive Run : Program Res E A → List (Event Res) → Except E A → Prop where
  | returns (a : A) : Run (.returns a) [] (.ok a)
  | exits (e : E) : Run (.exits e) [] (.error e)
  | call (op : Op) (r : Res op) {next : Res op → Program Res E A}
      {t : List (Event Res)} {o : Except E A} :
      Run (next r) t o → Run (.call op next) (⟨op, r⟩ :: t) o

theorem run_returns_iff {a : A} {t : List (Event Res)} {o : Except E A} :
    Run (.returns a) t o ↔ t = [] ∧ o = .ok a := by
  constructor
  · rintro ⟨⟩
    exact ⟨rfl, rfl⟩
  · rintro ⟨rfl, rfl⟩
    exact .returns a

theorem run_exits_iff {e : E} {t : List (Event Res)} {o : Except E A} :
    Run (.exits e) t o ↔ t = [] ∧ o = .error e := by
  constructor
  · rintro ⟨⟩
    exact ⟨rfl, rfl⟩
  · rintro ⟨rfl, rfl⟩
    exact .exits e

theorem run_call_iff {op : Op} {next : Res op → Program Res E A}
    {t : List (Event Res)} {o : Except E A} :
    Run (.call op next) t o ↔
      ∃ r t', t = ⟨op, r⟩ :: t' ∧ Run (next r) t' o := by
  constructor
  · rintro ⟨⟩
    next t' r h => exact ⟨r, t', rfl, h⟩
  · rintro ⟨r, t', rfl, h⟩
    exact .call op r h

theorem run_perform_iff {op : Op} {t : List (Event Res)}
    {o : Except E (Res op)} :
    Run (.perform op) t o ↔ ∃ r, t = [⟨op, r⟩] ∧ o = .ok r := by
  unfold Program.perform
  simp only [run_call_iff, run_returns_iff]
  constructor
  · rintro ⟨r, t', rfl, rfl, rfl⟩
    exact ⟨r, rfl, rfl⟩
  · rintro ⟨r, rfl, rfl⟩
    exact ⟨r, [], rfl, rfl, rfl⟩

/-- A run of two programs in sequence is a run of both, unless the first one
ends the process. -/
theorem run_bind_iff {p : Program Res E A} {f : A → Program Res E B}
    {t : List (Event Res)} {o : Except E B} :
    Run (p.bind f) t o ↔
      (∃ a t₁ t₂, Run p t₁ (.ok a) ∧ Run (f a) t₂ o ∧ t = t₁ ++ t₂) ∨
        ∃ e, Run p t (.error e) ∧ o = .error e := by
  induction p generalizing t with
  | returns a =>
      simp only [Program.returns_bind, run_returns_iff]
      constructor
      · exact fun h => Or.inl ⟨a, [], t, ⟨rfl, rfl⟩, h, rfl⟩
      · rintro (⟨a', t₁, t₂, ⟨rfl, ha⟩, h, rfl⟩ | ⟨e, ⟨_, he⟩, _⟩)
        · cases ha
          exact h
        · cases he
  | exits e =>
      simp only [Program.exits_bind, run_exits_iff]
      constructor
      · rintro ⟨rfl, rfl⟩
        exact Or.inr ⟨e, ⟨rfl, rfl⟩, rfl⟩
      · rintro (⟨a, t₁, t₂, ⟨_, ha⟩, _⟩ | ⟨e', ⟨rfl, he⟩, rfl⟩)
        · cases ha
        · cases he
          exact ⟨rfl, rfl⟩
  | call op next ih =>
      simp only [Program.bind, run_call_iff, ih]
      constructor
      · rintro ⟨r, t', rfl, ⟨a, t₁, t₂, h₁, h₂, rfl⟩ | ⟨e, he, rfl⟩⟩
        · exact Or.inl ⟨a, _, t₂, ⟨r, t₁, rfl, h₁⟩, h₂, rfl⟩
        · exact Or.inr ⟨e, ⟨r, t', rfl, he⟩, rfl⟩
      · rintro (⟨a, _, t₂, ⟨r, t₁, rfl, h₁⟩, h₂, rfl⟩ |
          ⟨e, ⟨r, t', rfl, he⟩, rfl⟩)
        · exact ⟨r, _, rfl, Or.inl ⟨a, t₁, t₂, h₁, h₂, rfl⟩⟩
        · exact ⟨r, t', rfl, Or.inr ⟨e, he, rfl⟩⟩

/-- A sequence returns when both parts do. -/
theorem run_bind_ok_iff {p : Program Res E A} {f : A → Program Res E B}
    {t : List (Event Res)} {b : B} :
    Run (p.bind f) t (.ok b) ↔
      ∃ a t₁ t₂, Run p t₁ (.ok a) ∧ Run (f a) t₂ (.ok b) ∧ t = t₁ ++ t₂ := by
  rw [run_bind_iff]
  constructor
  · rintro (h | ⟨e, _, he⟩)
    · exact h
    · cases he
  · exact Or.inl

theorem run_call_bind_iff {op : Op} {f : Res op → Program Res E B}
    {t : List (Event Res)} {o : Except E B} :
    Run ((Program.perform op).bind f) t o ↔
      ∃ r t', t = ⟨op, r⟩ :: t' ∧ Run (f r) t' o :=
  run_call_iff

/-- A call whose answer is returned in some form. -/
theorem run_call_returns_iff {op : Op} {f : Res op → B}
    {t : List (Event Res)} {o : Except E B} :
    Run ((Program.perform op).bind fun r => .returns (f r)) t o ↔
      ∃ r, t = [⟨op, r⟩] ∧ o = .ok (f r) := by
  simp only [run_call_bind_iff, run_returns_iff]
  constructor
  · rintro ⟨r, t', rfl, rfl, rfl⟩
    exact ⟨r, rfl, rfl⟩
  · rintro ⟨r, rfl, rfl⟩
    exact ⟨r, [], rfl, rfl, rfl⟩

/-- A call whose answer has to pass a check. -/
theorem run_call_require_iff {op : Op} {check : Res op → Bool} {e : E}
    {t : List (Event Res)} {o : Except E PUnit} :
    Run ((Program.perform op).bind fun r => Program.require e (check r)) t o ↔
      ∃ r, t = [⟨op, r⟩] ∧
        (check r = true ∧ o = .ok ⟨⟩ ∨ check r = false ∧ o = .error e) := by
  have hcheck : ∀ (b : Bool) (t : List (Event Res)),
      Run (Program.require e b) t o ↔
        t = [] ∧ (b = true ∧ o = .ok ⟨⟩ ∨ b = false ∧ o = .error e) := by
    intro b t
    cases b with
    | true => simp [Program.require, run_returns_iff]
    | false => simp [Program.require, run_exits_iff]
  rw [run_call_bind_iff]
  constructor
  · rintro ⟨r, t', rfl, h⟩
    obtain ⟨rfl, hresult⟩ := (hcheck _ _).1 h
    exact ⟨r, rfl, hresult⟩
  · rintro ⟨r, rfl, h⟩
    exact ⟨r, [], rfl, (hcheck _ _).2 ⟨rfl, h⟩⟩

/-- A requirement is met, or it ends the process. -/
theorem run_require_bind_iff {e : E} {b : Bool}
    {f : PUnit → Program Res E B} {t : List (Event Res)} {o : Except E B} :
    Run ((Program.require e b).bind f) t o ↔
      b = true ∧ Run (f ⟨⟩) t o ∨ b = false ∧ t = [] ∧ o = .error e := by
  cases b with
  | true => simp [Program.require]
  | false => simp [Program.require, run_exits_iff]

section Only

variable (allowed : Op → Prop)

/-- Whatever the answers are, the program only makes calls that are
allowed. -/
def Program.Only : Program Res E A → Prop
  | .returns _ => True
  | .exits _ => True
  | .call op next => allowed op ∧ ∀ r, (next r).Only

variable {allowed}

/-- The frame rule: a run has no other calls. -/
theorem Program.Only.run {p : Program Res E A} (h : p.Only allowed)
    {t : List (Event Res)} {o : Except E A} (hrun : Run p t o) :
    ∀ ev ∈ t, allowed ev.op := by
  induction hrun with
  | returns a => simp
  | exits e => simp
  | call op r _ ih =>
      rw [List.forall_mem_cons]
      exact ⟨h.1, ih (h.2 r)⟩

theorem Program.only_bind {p : Program Res E A} {f : A → Program Res E B}
    (hp : p.Only allowed) (hf : ∀ a, (f a).Only allowed) :
    (p.bind f).Only allowed := by
  induction p with
  | returns a => exact hf a
  | exits e => trivial
  | call op next ih => exact ⟨hp.1, fun r => ih r (hp.2 r)⟩

/-- What a second part that only makes allowed calls adds to the run of the
first. -/
theorem run_bind_of_only {p : Program Res E A} {f : A → Program Res E B}
    (hf : ∀ a, (f a).Only allowed) {t : List (Event Res)} {o : Except E B}
    (hrun : Run (p.bind f) t o) :
    ∃ o' t₁ t₂, Run p t₁ o' ∧ t = t₁ ++ t₂ ∧ ∀ ev ∈ t₂, allowed ev.op := by
  rcases run_bind_iff.1 hrun with ⟨a, t₁, t₂, h₁, h₂, rfl⟩ | ⟨e, h, _⟩
  · exact ⟨.ok a, t₁, t₂, h₁, rfl, (hf a).run h₂⟩
  · exact ⟨.error e, t, [], h, (List.append_nil t).symm, by simp⟩

theorem Program.only_perform {op : Op} (h : allowed op) :
    (Program.perform op : Program Res E (Res op)).Only allowed :=
  ⟨h, fun _ => trivial⟩

theorem Program.only_require {e : E} {b : Bool} :
    (Program.require e b : Program Res E PUnit).Only allowed := by
  unfold Program.require
  split <;> trivial

/-- The loop rule: a loop makes the calls of its body. -/
theorem Program.only_each {X : Type*} {body : X → Program Res E PUnit}
    (h : ∀ y, (body y).Only allowed) (ys : List X) :
    (each body ys).Only allowed := by
  induction ys with
  | nil => trivial
  | cons y ys ih => exact only_bind (h y) fun _ => ih

end Only

/-- The run in which every call is answered by a function. -/
def Program.exec (answer : (op : Op) → Res op) :
    Program Res E A → Except E A × List (Event Res)
  | .returns a => (.ok a, [])
  | .exits e => (.error e, [])
  | .call op next =>
      ((next (answer op)).exec answer |>.1,
        ⟨op, answer op⟩ :: ((next (answer op)).exec answer).2)

theorem exec_perform_bind (answer : (op : Op) → Res op) (op : Op)
    (f : Res op → Program Res E B) :
    (((Program.perform op).bind f).exec answer).1 =
      ((f (answer op)).exec answer).1 := rfl

/-- What a sequence returns once its first part has returned. -/
theorem exec_bind_of_ok {answer : (op : Op) → Res op} {p : Program Res E A}
    {a : A} (h : (p.exec answer).1 = .ok a) (f : A → Program Res E B) :
    ((p.bind f).exec answer).1 = ((f a).exec answer).1 := by
  induction p with
  | returns b =>
      cases h
      rfl
  | exits e => cases h
  | call op next ih => exact ih (answer op) h

/-- Every program runs to its end. -/
theorem run_exec (answer : (op : Op) → Res op) (p : Program Res E A) :
    Run p (p.exec answer).2 (p.exec answer).1 := by
  induction p with
  | returns a => exact .returns a
  | exits e => exact .exits e
  | call op next ih => exact .call op (answer op) (ih (answer op))

/-- In that run every answer is the function's. -/
theorem exec_answered (answer : (op : Op) → Res op) (p : Program Res E A) :
    ∀ ev ∈ (p.exec answer).2, ev = ⟨ev.op, answer ev.op⟩ := by
  induction p with
  | returns a => exact fun _ h => nomatch h
  | exits e => exact fun _ h => nomatch h
  | call op next ih =>
      intro ev hev
      rcases List.mem_cons.1 hev with rfl | hrest
      · rfl
      · exact ih (answer op) ev hrest

end Calls

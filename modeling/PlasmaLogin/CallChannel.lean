/-
A client that calls a server over two FIFO channels.  Some frames are notices,
some are calls the client waits on; a server that replies to calls only, and
to each at most once, stays in lockstep with any such client.
-/
import PlasmaLogin.Mealy

namespace CallChannel

open Mealy

universe u v w x y

variable {F : Type u} {R : Type v} {E : Type w} {S : Type x} {X : Type y}

/-- What a client still has to do. -/
inductive Caller (F : Type u) (R : Type v) (E : Type w) where
  | ends (result : E)
  | pauses (next : Caller F R E)
  | sends (frame : F) (next : Caller F R E)
  | calls (frame : F) (next : R → Caller F R E)

/-- A client acts by itself or waits for the reply to a call. -/
inductive Phase (F : Type u) (R : Type v) (E : Type w) where
  | acts (caller : Caller F R E)
  | awaits (frame : F) (next : R → Caller F R E)

/-- A server reads frames, and other things happen to it meanwhile. -/
structure Server (S : Type x) (F : Type u) (R : Type v) (X : Type y) where
  serve : S → F → S × List R
  disturb : S → X → S × List R

/-- Both parties with the frames between them, oldest first. -/
structure Line (F : Type u) (R : Type v) (E : Type w) (S : Type x) where
  phase : Phase F R E
  toServer : List F := []
  toCaller : List R := []
  server : S

inductive Event (X : Type y) where
  | acts
  | receives
  | serves
  | disturbs (x : X)

inductive Output (F : Type u) (R : Type v) where
  | replies (reply : R)
  | delivers (frame : F) (reply : R)

/-- One step of either party; a party that cannot move stays where it is. -/
def Server.answer (sv : Server S F R X) (l : Line F R E S) :
    Event X → Line F R E S × List (Output F R)
  | .acts =>
      match l.phase with
      | .acts (.pauses next) => ({ l with phase := .acts next }, [])
      | .acts (.sends frame next) =>
          ({ l with phase := .acts next, toServer := l.toServer ++ [frame] },
            [])
      | .acts (.calls frame next) =>
          ({ l with
            phase := .awaits frame next, toServer := l.toServer ++ [frame] },
            [])
      | _ => (l, [])
  | .receives =>
      match l.phase, l.toCaller with
      | .awaits frame next, reply :: rest =>
          ({ l with phase := .acts (next reply), toCaller := rest },
            [.delivers frame reply])
      | _, _ => (l, [])
  | .serves =>
      match l.toServer with
      | [] => (l, [])
      | frame :: rest =>
          let r := sv.serve l.server frame
          ({ l with
            toServer := rest, toCaller := l.toCaller ++ r.2, server := r.1 },
            r.2.map Output.replies)
  | .disturbs x =>
      let r := sv.disturb l.server x
      ({ l with toCaller := l.toCaller ++ r.2, server := r.1 },
        r.2.map Output.replies)

/-- The client, the channels and the server as one machine. -/
def Server.machine (sv : Server S F R X) :
    Machine (Line F R E S) (Event X) (Output F R) where
  enabled _ _ := True
  step := sv.answer

/-- Which frames are calls, and which replies answer them. -/
structure Protocol (F : Type u) (R : Type v) where
  expects : F → Bool
  answers : R → F → Prop

/-- A client that waits after its calls and only after them. -/
def Caller.Obeys (P : Protocol F R) : Caller F R E → Prop
  | .ends _ => True
  | .pauses next => next.Obeys P
  | .sends frame next => P.expects frame = false ∧ next.Obeys P
  | .calls frame next => P.expects frame = true ∧ ∀ r, (next r).Obeys P

/-- A server that speaks only when it is called. -/
structure Server.Obeys (sv : Server S F R X) (P : Protocol F R) : Prop where
  silent : ∀ s frame, P.expects frame = false → (sv.serve s frame).2 = []
  once : ∀ s frame, P.expects frame = true →
    (sv.serve s frame).2 = [] ∨
      ∃ r, (sv.serve s frame).2 = [r] ∧ P.answers r frame
  undisturbed : ∀ s x, (sv.disturb s x).2 = []

/-- Where an open call can be: on its way behind notices, read and left
without a reply, or answered. -/
inductive Line.Open (P : Protocol F R) (frame : F) (l : Line F R E S) :
    Prop where
  | sent (notices : List F) (htoServer : l.toServer = notices ++ [frame])
      (hnotices : ∀ g ∈ notices, P.expects g = false)
      (htoCaller : l.toCaller = [])
  | unanswered (htoServer : l.toServer = []) (htoCaller : l.toCaller = [])
  | answered (reply : R) (htoServer : l.toServer = [])
      (htoCaller : l.toCaller = [reply]) (hanswers : P.answers reply frame)

/-- The parties in lockstep: nothing comes back unless a call is open. -/
def Line.Lockstep (P : Protocol F R) (l : Line F R E S) : Prop :=
  match l.phase with
  | .acts caller => caller.Obeys P ∧ l.toCaller = [] ∧
      ∀ g ∈ l.toServer, P.expects g = false
  | .awaits frame next => P.expects frame = true ∧
      (∀ r, (next r).Obeys P) ∧ l.Open P frame

/-- What a step in lockstep may put out: a delivery that answers the call it
is delivered to, and a reply to the call it has just read. -/
def StepInLockstep (P : Protocol F R)
    (st : Step (Line F R E S) (Event X) (Output F R)) : Prop :=
  (∀ frame reply, Output.delivers frame reply ∈ st.outputs →
    P.answers reply frame) ∧
  ∀ reply, Output.replies reply ∈ st.outputs →
    ∃ frame next, st.event = .serves ∧ st.before.phase = .awaits frame next ∧
      st.before.toServer = [frame] ∧ st.before.toCaller = [] ∧
      P.answers reply frame

variable {P : Protocol F R} {sv : Server S F R X}

theorem Line.Lockstep.length_toCaller {l : Line F R E S}
    (h : l.Lockstep P) : l.toCaller.length ≤ 1 := by
  rw [Lockstep] at h
  split at h
  · simp [h.2.1]
  · rcases h.2.2 with ⟨_, _, _, hnone⟩ | ⟨_, hnone⟩ | ⟨reply, _, hone, _⟩
    · simp [hnone]
    · simp [hnone]
    · simp [hone]

/-- The parties are in lockstep whatever the server has become. -/
theorem Line.Lockstep.withServer {l : Line F R E S} (h : l.Lockstep P)
    {T : Type x} (s : T) :
    Lockstep P (⟨l.phase, l.toServer, l.toCaller, s⟩ : Line F R E T) := by
  obtain ⟨phase, toServer, toCaller, server⟩ := l
  rcases phase with caller | ⟨frame, next⟩
  · exact h
  · obtain ⟨hexpects, hnext, hopen⟩ := h
    refine ⟨hexpects, hnext, ?_⟩
    rcases hopen with ⟨notices, htoServer, hnotices, hnone⟩ |
      ⟨htoServer, hnone⟩ | ⟨reply, htoServer, hone, hanswers⟩
    · exact .sent notices htoServer hnotices hnone
    · exact .unanswered htoServer hnone
    · exact .answered reply htoServer hone hanswers

variable (sv) in
theorem lockstep_acts {l : Line F R E S} (h : l.Lockstep P) :
    (sv.answer l .acts).1.Lockstep P ∧ (sv.answer l .acts).2 = [] := by
  obtain ⟨phase, toServer, toCaller, server⟩ := l
  rcases phase with caller | ⟨frame, next⟩
  · obtain ⟨hcaller, hnone, hnotices⟩ := h
    rcases caller with result | next | ⟨frame, next⟩ | ⟨frame, next⟩
    · exact ⟨⟨hcaller, hnone, hnotices⟩, rfl⟩
    · exact ⟨⟨hcaller, hnone, hnotices⟩, rfl⟩
    · refine ⟨⟨hcaller.2, hnone, ?_⟩, rfl⟩
      intro g hg
      rcases List.mem_append.1 hg with hg | hg
      · exact hnotices g hg
      · rw [List.mem_singleton.1 hg]
        exact hcaller.1
    · exact ⟨⟨hcaller.1, hcaller.2, .sent toServer rfl hnotices hnone⟩, rfl⟩
  · exact ⟨h, rfl⟩

variable (sv) in
theorem lockstep_receives {l : Line F R E S} (h : l.Lockstep P) :
    (sv.answer l .receives).1.Lockstep P ∧
      ∀ o ∈ (sv.answer l .receives).2, ∃ frame reply,
        o = .delivers frame reply ∧ P.answers reply frame := by
  obtain ⟨phase, toServer, toCaller, server⟩ := l
  rcases phase with caller | ⟨frame, next⟩
  · exact ⟨h, by simp [Server.answer]⟩
  · obtain ⟨hexpects, hnext, hopen⟩ := h
    rcases hopen with ⟨notices, htoServer, hnotices, hnone⟩ |
      ⟨htoServer, hnone⟩ | ⟨reply, htoServer, hone, hanswers⟩
    · dsimp only at hnone
      subst hnone
      exact ⟨⟨hexpects, hnext, .sent notices htoServer hnotices rfl⟩,
        by simp [Server.answer]⟩
    · dsimp only at hnone
      subst hnone
      exact ⟨⟨hexpects, hnext, .unanswered htoServer rfl⟩,
        by simp [Server.answer]⟩
    · dsimp only at hone htoServer
      subst hone htoServer
      refine ⟨⟨hnext reply, rfl, fun g hg => absurd hg List.not_mem_nil⟩, ?_⟩
      intro o ho
      exact ⟨frame, reply, List.mem_singleton.1 ho, hanswers⟩

theorem lockstep_serves (hsv : sv.Obeys P) {l : Line F R E S}
    (h : l.Lockstep P) :
    (sv.answer l .serves).1.Lockstep P ∧
      ∀ o ∈ (sv.answer l .serves).2, ∃ frame next reply,
        o = .replies reply ∧ l.phase = .awaits frame next ∧
          l.toServer = [frame] ∧ l.toCaller = [] ∧
          P.answers reply frame := by
  obtain ⟨phase, toServer, toCaller, server⟩ := l
  rcases phase with caller | ⟨frame, next⟩
  · obtain ⟨hcaller, hnone, hnotices⟩ := h
    dsimp only at hnone
    subst hnone
    rcases toServer with _ | ⟨g, rest⟩
    · exact ⟨⟨hcaller, rfl, hnotices⟩, by simp [Server.answer]⟩
    · have hsilent := hsv.silent server g (hnotices g List.mem_cons_self)
      refine ⟨⟨hcaller, ?_, ?_⟩, ?_⟩
      · exact hsilent
      · exact fun g' hg' => hnotices g' (List.mem_cons_of_mem g hg')
      · simp [Server.answer, hsilent]
  · obtain ⟨hexpects, hnext, hopen⟩ := h
    rcases hopen with ⟨notices, htoServer, hnotices, hnone⟩ |
      ⟨htoServer, hnone⟩ | ⟨reply, htoServer, hone, hanswers⟩
    · dsimp only at htoServer hnone
      subst htoServer hnone
      rcases notices with _ | ⟨g, notices⟩
      · rcases hsv.once server frame hexpects with hnone |
          ⟨reply, hone, hanswers⟩
        · refine ⟨⟨hexpects, hnext, .unanswered rfl ?_⟩, ?_⟩
          · exact hnone
          · simp [Server.answer, hnone]
        · refine ⟨⟨hexpects, hnext, .answered reply rfl ?_ hanswers⟩, ?_⟩
          · exact hone
          · intro o ho
            simp only [Server.answer, List.nil_append, hone, List.map_cons,
              List.map_nil, List.mem_singleton] at ho
            exact ⟨frame, next, reply, ho, rfl, rfl, rfl, hanswers⟩
      · have hsilent := hsv.silent server g (hnotices g List.mem_cons_self)
        refine ⟨⟨hexpects, hnext, .sent notices rfl ?_ ?_⟩, ?_⟩
        · exact fun g' hg' => hnotices g' (List.mem_cons_of_mem g hg')
        · exact hsilent
        · simp [Server.answer, hsilent]
    · dsimp only at htoServer
      subst htoServer
      exact ⟨⟨hexpects, hnext, .unanswered rfl hnone⟩,
        by simp [Server.answer]⟩
    · dsimp only at htoServer
      subst htoServer
      exact ⟨⟨hexpects, hnext, .answered reply rfl hone hanswers⟩,
        by simp [Server.answer]⟩

theorem lockstep_disturbs (hsv : sv.Obeys P) {l : Line F R E S}
    (h : l.Lockstep P) (x : X) :
    (sv.answer l (.disturbs x)).1.Lockstep P ∧
      (sv.answer l (.disturbs x)).2 = [] := by
  have hnone := hsv.undisturbed l.server x
  have hsame : (sv.answer l (.disturbs x)).1 =
      { l with server := (sv.disturb l.server x).1 } := by
    simp only [Server.answer, hnone, List.append_nil]
  refine ⟨?_, by simp [Server.answer, hnone]⟩
  rw [hsame]
  exact h.withServer (sv.disturb l.server x).1

theorem stepInLockstep_of_silent {l : Line F R E S} {e : Event X}
    (h : (sv.answer l e).2 = []) : StepInLockstep P (sv.machine.fire l e) := by
  have hnone : (sv.machine.fire l e).outputs = [] := h
  constructor
  · intro frame reply ho
    rw [hnone] at ho
    exact absurd ho List.not_mem_nil
  · intro reply ho
    rw [hnone] at ho
    exact absurd ho List.not_mem_nil

/-- One step keeps the parties in lockstep. -/
theorem Line.Lockstep.step (hsv : sv.Obeys P) {l : Line F R E S}
    (h : l.Lockstep P) (e : Event X) :
    (sv.machine.step l e).1.Lockstep P ∧
      StepInLockstep P (sv.machine.fire l e) := by
  rcases e with _ | _ | _ | x
  · obtain ⟨hline, hnone⟩ := lockstep_acts sv h
    exact ⟨hline, stepInLockstep_of_silent hnone⟩
  · obtain ⟨hline, hout⟩ := lockstep_receives sv h
    refine ⟨hline, ?_, ?_⟩
    · intro frame reply ho
      obtain ⟨frame', reply', heq, hanswers⟩ := hout _ ho
      cases heq
      exact hanswers
    · intro reply ho
      obtain ⟨frame', reply', heq, _⟩ := hout _ ho
      exact absurd heq (by simp)
  · obtain ⟨hline, hout⟩ := lockstep_serves hsv h
    refine ⟨hline, ?_, ?_⟩
    · intro frame reply ho
      obtain ⟨frame', next', reply', heq, _⟩ := hout _ ho
      exact absurd heq (by simp)
    · intro reply ho
      obtain ⟨frame, next, reply', heq, hphase, htoServer, htoCaller,
        hanswers⟩ := hout _ ho
      cases heq
      exact ⟨frame, next, rfl, hphase, htoServer, htoCaller, hanswers⟩
  · obtain ⟨hline, hnone⟩ := lockstep_disturbs hsv h x
    exact ⟨hline, stepInLockstep_of_silent hnone⟩

/-- So does every run, and each of its steps is one in lockstep. -/
theorem Line.Lockstep.run (hsv : sv.Obeys P) {l : Line F R E S}
    (h : l.Lockstep P) (es : List (Event X)) :
    (sv.machine.exec l es).Lockstep P ∧
      ∀ st ∈ sv.machine.steps l es, StepInLockstep P st := by
  have hstep : ∀ (l : Line F R E S) (e : Event X), l.Lockstep P → True →
      (sv.machine.step l e).1.Lockstep P :=
    fun _ e hl _ => (hl.step hsv e).1
  have hguard : sv.machine.Guarded (fun _ _ => True) l es :=
    fun _ _ => trivial
  refine ⟨sv.machine.exec_invariant hstep h hguard, ?_⟩
  intro st hst
  have hbefore := sv.machine.steps_invariant hstep h hguard st hst
  obtain ⟨pre, e, post, _, rfl⟩ := (sv.machine.mem_steps_iff l es st).1 hst
  exact (Line.Lockstep.step hsv hbefore e).2

/-- A call that was read and left without a reply stays open for ever. -/
theorem exec_unanswered (hsv : sv.Obeys P) (frame : F)
    (next : R → Caller F R E) (s : S) (es : List (Event X)) :
    ∃ s', sv.machine.exec ⟨.awaits frame next, [], [], s⟩ es =
      ⟨.awaits frame next, [], [], s'⟩ := by
  induction es generalizing s with
  | nil => exact ⟨s, rfl⟩
  | cons e es ih =>
      rcases e with _ | _ | _ | x
      · exact ih s
      · exact ih s
      · exact ih s
      · obtain ⟨s', hs'⟩ := ih (sv.disturb s x).1
        refine ⟨s', ?_⟩
        rw [Machine.exec_cons, ← hs']
        simp only [Server.machine, Server.answer, hsv.undisturbed s x,
          List.append_nil]

end CallChannel

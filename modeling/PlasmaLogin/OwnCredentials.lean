/-
The display and the helpers it starts, each with its end of the channel.  A
helper that has asked for something does nothing until it is answered: a call
that is unread when the next helper starts would be the call of one that was
killed, and a display whose helper is killed stops.
-/
import PlasmaLogin.DisplayStops
import PlasmaLogin.HelperChannel
import PlasmaLogin.Lockstep

namespace PlasmaLogin

open Mealy CallChannel

/-- The helper from its command line on; one that cannot use it exits. -/
def HelperProcess.main {M : Type} (pam : PamModules M) (args : List QString) :
    HelperProcess :=
  match HelperApp.setUp args with
  | .error status => .ends status
  | .ok (_, app) => doAuth pam app

theorem HelperProcess.obeys_main {M : Type} (pam : PamModules M)
    (args : List QString) : (main pam args).Obeys helperProtocol := by
  rw [main]
  split
  · trivial
  · exact obeys_doAuth pam _

/-- A helper with the frames between it and the display, oldest first; `gone`
when its process has ended, by itself or by a signal. -/
structure HelperLine where
  phase : Phase HelperFrame DaemonFrame HelperExitStatus
  toDaemon : List HelperFrame := []
  toHelper : List DaemonFrame := []
  gone : Bool := false

namespace HelperLine

/-- The helper's channel with the display at its other end. -/
def line (l : HelperLine) (d : Display) :
    Line HelperFrame DaemonFrame HelperExitStatus Display :=
  ⟨l.phase, l.toDaemon, l.toHelper, d⟩

/-- The helper after something has happened on its channel. -/
def after (l : HelperLine) (d : Display) (e : Event OtherEvent) : HelperLine :=
  let c := (displayServer.answer (l.line d) e).1
  { l with phase := c.phase, toDaemon := c.toServer, toHelper := c.toCaller }

/-- The helper waits for a reply. -/
def waits (l : HelperLine) : Bool :=
  match l.phase with
  | .acts _ => false
  | .awaits _ _ => true

/-- The display still has a call of the helper to read. -/
def Unread (l : HelperLine) : Prop :=
  ∃ frame ∈ l.toDaemon, frame.expectsReply = true

/-- How the end of a helper reaches the display: a helper that never ran has
sent nothing, and one that waits for a reply does not exit by itself. -/
def EndsWith (l : HelperLine) (e : DisplayEvent) : Prop :=
  l.gone = true ∧
    match e with
    | .helperError true _ => l.toDaemon.isEmpty = true
    | .helperFinished report _ =>
        report.exitStatus = .normalExit → l.waits = false
    | _ => True

instance (l : HelperLine) (e : DisplayEvent) : Decidable (l.EndsWith e) :=
  match e with
  | .helperError true _ => inferInstanceAs (Decidable (_ ∧ _ = true))
  | .helperFinished _ _ => inferInstanceAs (Decidable (_ ∧ (_ → _ = false)))
  | .helperError false _ | .start _ | .displayServerStarted _ |
    .newConnection _ | .connectionClosed _ | .login .. | .helperFrame _ |
    .greeterFrame _ | .greeterError _ | .greeterFinished _ _ |
    .greeterStop _ _ | .stop _ => inferInstanceAs (Decidable (_ ∧ True))

/-- The helper and the display are in lockstep. -/
def InLockstep (l : HelperLine) : Prop :=
  ∀ d, (l.line d).Lockstep helperProtocol

theorem InLockstep.after {l : HelperLine} (h : l.InLockstep) (d : Display)
    (e : Event OtherEvent) : (l.after d e).InLockstep :=
  fun d' => ((h d).step displayServer_obeys e).1.withServer d'

/-- A helper that does not wait has left no call behind. -/
theorem InLockstep.not_unread {l : HelperLine} (h : l.InLockstep)
    (hwaits : l.waits = false) : ¬ l.Unread := by
  rintro ⟨frame, hframe, hexpects⟩
  have hlockstep := h (.create [] 0 0 {})
  obtain ⟨phase, toDaemon, toHelper, gone⟩ := l
  cases phase with
  | acts caller =>
      have hnotice : frame.expectsReply = false :=
        hlockstep.2.2 frame hframe
      exact absurd (hnotice.symm.trans hexpects) (by decide)
  | awaits call next => exact absurd hwaits (by simp [waits])

theorem unread_receives {l : HelperLine} {d : Display}
    (h : (l.after d .receives).Unread) : l.Unread := by
  obtain ⟨phase, toDaemon, toHelper, gone⟩ := l
  cases phase <;> cases toHelper <;> exact h

theorem unread_serves {l : HelperLine} {d : Display}
    (h : (l.after d .serves).Unread) : l.Unread := by
  obtain ⟨phase, toDaemon, toHelper, gone⟩ := l
  cases toDaemon with
  | nil => exact h
  | cons frame rest =>
      obtain ⟨call, hcall, hexpects⟩ := h
      exact ⟨call, List.mem_cons_of_mem frame hcall, hexpects⟩

end HelperLine

/-- A display with its helpers, oldest first, and what each of them does. -/
structure Crew where
  roster : Roster
  lines : List HelperLine := []

/-- A helper takes a step, takes a reply or is gone; it announces itself; the
display reads the next frame, or something else reaches it. -/
inductive CrewEvent where
  | acts (helper : Nat)
  | receives (helper : Nat)
  | leaves (helper : Nat)
  | announces (helper : Nat)
  | serves
  | occurs (event : DisplayEvent)

namespace Crew

/-- The frame at the head of the channel the display reads from. -/
def nextFrame (c : Crew) : Option HelperFrame :=
  (c.roster.bound.bind (c.lines[·]?)).bind (·.toDaemon.head?)

/-- What an event is to the display and its helpers' list. -/
def rosterEvent (c : Crew) : CrewEvent → Option RosterEvent
  | .acts _ | .receives _ | .leaves _ => none
  | .announces i => some (.announces i)
  | .serves => c.nextFrame.map .reads
  | .occurs e => some (.occurs e)

/-- Something happens on the channel of one helper. -/
def moves (c : Crew) (i : Nat) (e : Event OtherEvent) : List HelperLine :=
  c.lines.modify i fun l => l.after c.roster.display e

/-- What can come next.  A display that has stopped is deleted with its
connections, so that no Login is read for it any more; the end of a helper
reaches the display when the helper is gone. -/
def Enabled (c : Crew) : CrewEvent → Prop
  | .acts i | .receives i => ∃ l ∈ c.lines[i]?, l.gone = false
  | .leaves i | .announces i => i < c.lines.length
  | .serves => c.nextFrame.isSome = true
  | .occurs e => c.roster.Enabled (.occurs e) ∧
      (e.asks.isSome = true → c.roster.display.started = true) ∧
      (c.roster.display.auth.isActive = true →
        (c.roster.display.answer e).1.auth.isActive = false →
          ∀ l ∈ c.lines.getLast?, l.EndsWith e)

instance (c : Crew) (e : CrewEvent) : Decidable (c.Enabled e) :=
  match e with
  | .acts i | .receives i =>
      inferInstanceAs (Decidable (∃ l ∈ c.lines[i]?, l.gone = false))
  | .leaves _ | .announces _ => inferInstanceAs (Decidable (_ < _))
  | .serves => inferInstanceAs (Decidable (_ = true))
  | .occurs e => inferInstanceAs (Decidable
      (_ ∧ (_ → _) ∧ (_ → _ → ∀ l ∈ c.lines.getLast?, l.EndsWith e)))

/-- The frame that is read reports no user but the helper's own. -/
def Honest (c : Crew) (e : CrewEvent) : Prop :=
  ∀ e' ∈ c.rosterEvent e, c.roster.Honest e'

instance (c : Crew) (e : CrewEvent) : Decidable (c.Honest e) :=
  inferInstanceAs (Decidable (∀ e' ∈ c.rosterEvent e, c.roster.Honest e'))

section Running

variable {M : Type} (pam : Nat → PamModules M)
  (libexecDir serverName : QString)

/-- The helper an event starts, with its own module stack. -/
def joins (c : Crew) (e : DisplayEvent) : List HelperLine :=
  (c.roster.starts e).toList.map fun h =>
    let auth := (c.roster.display.attemptBase e).attemptAuth h.attempt
    { phase := .acts (HelperProcess.main (pam c.lines.length)
        (auth.helperArguments libexecDir serverName)) }

/-- The helpers after an event. -/
def linesAfter (c : Crew) : CrewEvent → List HelperLine
  | .acts i => c.moves i .acts
  | .receives i => c.moves i .receives
  | .leaves i => c.lines.modify i fun l => { l with gone := true }
  | .announces _ => c.lines
  | .serves => c.roster.bound.elim c.lines fun i => c.moves i .serves
  | .occurs e => c.lines ++ c.joins pam libexecDir serverName e

def answer (c : Crew) (e : CrewEvent) : Crew × List DisplayEffect :=
  let r := (c.rosterEvent e).elim (c.roster, []) c.roster.answer
  ({ roster := r.1, lines := c.linesAfter pam libexecDir serverName e }, r.2)

end Running

/-- A display fresh from its constructor. -/
def create (seatName : QString) (terminalId : Int32) (authId : Int64)
    (autologinSession : Session) : Crew :=
  { roster := .create seatName terminalId authId autologinSession }

end Crew

/-- A display with helpers whose module stacks are given by their numbers. -/
def crewMachine {M : Type} (pam : Nat → PamModules M)
    (libexecDir serverName : QString) :
    Machine Crew CrewEvent DisplayEffect where
  enabled := Crew.Enabled
  step := Crew.answer pam libexecDir serverName

instance {M : Type} (pam : Nat → PamModules M) (libexecDir serverName : QString)
    (c : Crew) (es : List CrewEvent) :
    Decidable ((crewMachine pam libexecDir serverName).Runs c es) :=
  inferInstanceAs (Decidable
    ((crewMachine pam libexecDir serverName).Guarded Crew.Enabled c es))

/-- Every reply to a request fills in the pass phrase and the user name of the
attempt that started the helper the request has been read from. -/
def AnswersOwnHelper (st : Step Crew CrewEvent DisplayEffect) : Prop :=
  ∀ reply, .helperReply (.request reply) ∈ st.outputs →
    ∃ r h, st.before.rosterEvent st.event = some (.reads (.request r)) ∧
      st.before.roster.sender = some h ∧
      Display.fillPrompts h.attempt.user h.attempt.password r.prompts =
        some reply.prompts

namespace Crew

variable {M : Type} {pam : Nat → PamModules M}
  {libexecDir serverName : QString}

/-- The helpers run beside the display: it does what it does without them. -/
theorem exec_roster (c : Crew) (es : List CrewEvent) :
    ∃ es', ((crewMachine pam libexecDir serverName).exec c es).roster =
      rosterMachine.exec c.roster es' := by
  induction es generalizing c with
  | nil => exact ⟨[], rfl⟩
  | cons e es ih =>
      obtain ⟨es', hes'⟩ := ih (c.answer pam libexecDir serverName e).1
      rw [Machine.exec_cons]
      cases hevent : c.rosterEvent e with
      | none =>
          refine ⟨es', hes'.trans ?_⟩
          rw [answer, hevent]
          rfl
      | some e' =>
          refine ⟨e' :: es', hes'.trans ?_⟩
          rw [answer, hevent]
          rfl

/-- What binds a display to its helpers.  Only the newest helper can be there
and only it can have a call unread; while no helper runs, a call is left
unread on a display that has stopped at most. -/
structure Bound (c : Crew) : Prop where
  length : c.lines.length = c.roster.helpers.length
  lockstep : ∀ l ∈ c.lines, l.InLockstep
  notes : c.roster.NotesCredentials
  unread : ∀ i, ∀ l ∈ c.lines[i]?, l.Unread → c.roster.noted = some i
  running : ∀ i, ∀ l ∈ c.lines[i]?, l.gone = false →
    c.roster.display.auth.isActive = true ∧ c.roster.noted = some i
  newest : ∀ i ∈ c.roster.noted, i + 1 = c.lines.length
  idle : c.roster.display.auth.isActive = false → ∀ l ∈ c.lines, l.Unread →
    c.roster.display.started = false
  unstarted : c.roster.display.startOwed = true →
    c.lines = [] ∧ c.roster.display.started = false

theorem bound_create (seatName : QString) (terminalId : Int32)
    (authId : Int64) (autologinSession : Session) :
    Bound (create seatName terminalId authId autologinSession) where
  length := rfl
  lockstep _ hl := absurd hl List.not_mem_nil
  notes i hi := absurd hi (by simp [create, Roster.create])
  unread i l hl := absurd hl (by simp [create])
  running i l hl := absurd hl (by simp [create])
  newest i hi := absurd hi (by simp [create, Roster.create])
  idle _ _ hl := absurd hl List.not_mem_nil
  unstarted _ := ⟨rfl, rfl⟩

/-- The helpers move: none comes back, and only one that is there leaves a
call behind. -/
theorem Bound.lines {c : Crew} (h : Bound c) {ls : List HelperLine}
    (hlength : ls.length = c.lines.length) (hlockstep : ∀ l ∈ ls, l.InLockstep)
    (hlines : ∀ i : Nat, ∀ l' ∈ ls[i]?, ∃ l ∈ c.lines[i]?,
      (l'.gone = false → l.gone = false) ∧
        (l'.Unread → l.Unread ∨ l.gone = false)) :
    Bound { c with lines := ls } where
  length := hlength.trans h.length
  lockstep := hlockstep
  notes := h.notes
  unread i l' hl' hunread := by
    obtain ⟨l, hl, _, hcall⟩ := hlines i l' hl'
    rcases hcall hunread with hunread | hthere
    · exact h.unread i l hl hunread
    · exact (h.running i l hl hthere).2
  running i l' hl' hthere := by
    obtain ⟨l, hl, hgone, _⟩ := hlines i l' hl'
    exact h.running i l hl (hgone hthere)
  newest i hi := (h.newest i hi).trans hlength.symm
  idle hidle l' hl' hunread := by
    obtain ⟨i, hi⟩ := List.getElem?_of_mem hl'
    obtain ⟨l, hl, _, hcall⟩ := hlines i l' hi
    rcases hcall hunread with hunread | hthere
    · exact h.idle hidle l (List.mem_of_getElem? hl) hunread
    · have hactive := (h.running i l hl hthere).1
      exact absurd (hidle.symm.trans hactive) (by decide)
  unstarted howed := by
    obtain ⟨hnone, hdown⟩ := h.unstarted howed
    rw [hnone] at hlength
    exact ⟨List.length_eq_zero_iff.1 hlength, hdown⟩

/-- One helper changes. -/
theorem Bound.modify {c : Crew} (h : Bound c) (i : Nat)
    (f : HelperLine → HelperLine)
    (hlockstep : ∀ l, l.InLockstep → (f l).InLockstep)
    (hline : ∀ l ∈ c.lines[i]?, ((f l).gone = false → l.gone = false) ∧
      ((f l).Unread → l.Unread ∨ l.gone = false)) :
    Bound { c with lines := c.lines.modify i f } := by
  refine h.lines (List.length_modify ..) ?_ ?_
  · intro l hl
    obtain ⟨j, hj⟩ := List.getElem?_of_mem hl
    rw [List.getElem?_modify] at hj
    split at hj
    · obtain ⟨l', hl', rfl⟩ := Option.map_eq_some_iff.1 hj
      exact hlockstep l' (h.lockstep l' (List.mem_of_getElem? hl'))
    · rw [id_map'] at hj
      exact h.lockstep l (List.mem_of_getElem? hj)
  · intro j l' hl'
    rw [List.getElem?_modify] at hl'
    split at hl'
    next heq =>
      subst heq
      obtain ⟨l, hl, rfl⟩ := Option.map_eq_some_iff.1 hl'
      exact ⟨l, hl, hline l hl⟩
    next hother =>
      rw [id_map'] at hl'
      exact ⟨l', hl', id, Or.inl⟩

/-- A call that is read comes from the helper noted last. -/
theorem Bound.current {c : Crew} (h : Bound c) {frame : HelperFrame}
    (hframe : c.nextFrame = some frame) :
    c.roster.Current (.reads frame) := by
  obtain ⟨l, hl, hhead⟩ := Option.bind_eq_some_iff.1 hframe
  obtain ⟨i, hbound, hline⟩ := Option.bind_eq_some_iff.1 hl
  have hnoted : frame.expectsReply = true → c.roster.noted = some i :=
    fun hexpects => h.unread i l hline
      ⟨frame, List.mem_of_mem_head? hhead, hexpects⟩
  cases frame with
  | request r => exact fun _ => hbound.trans (hnoted rfl).symm
  | authenticated user =>
      cases user with
      | nil => exact Or.inl rfl
      | cons ch user =>
          refine Or.inr fun j hj => ?_
          rw [hnoted rfl, Option.mem_some_iff] at hj
          rw [hbound, hj]
  | _ => trivial

/-- The helper that is read from is one the display has started. -/
theorem Bound.enabled_reads {c : Crew} (h : Bound c) {frame : HelperFrame}
    (hframe : c.nextFrame = some frame) :
    c.roster.Enabled (.reads frame) := by
  obtain ⟨l, hl, _⟩ := Option.bind_eq_some_iff.1 hframe
  obtain ⟨i, hbound, hline⟩ := Option.bind_eq_some_iff.1 hl
  have hlt : i < c.roster.helpers.length :=
    h.length ▸ (List.getElem?_eq_some_iff.1 hline).1
  change c.roster.sender.isSome = true
  rw [Roster.sender, hbound, Option.bind_some, List.getElem?_eq_getElem hlt]
  rfl

/-- Reading a frame. -/
theorem Bound.reads {c : Crew} (h : Bound c) {frame : HelperFrame}
    (hhonest : c.roster.Honest (.reads frame))
    (hcurrent : c.roster.Current (.reads frame)) :
    Bound { c with roster := (c.roster.answer (.reads frame)).1 } := by
  obtain ⟨hstarted, hchild⟩ :=
    Display.dataPending_started_child frame c.roster.display
  have hactive : (c.roster.display.dataPending frame).1.auth.isActive =
      c.roster.display.auth.isActive := by
    rw [Auth.isActive, hchild]
    rfl
  have howed : (c.roster.display.dataPending frame).1.startOwed =
      c.roster.display.startOwed :=
    Display.answer_startOwed_eq (e := .helperFrame frame) (by simp)
  exact {
    length := h.length
    lockstep := h.lockstep
    notes := h.notes.reads hhonest hcurrent
    unread := h.unread
    running := fun i l hl hthere =>
      ⟨hactive.trans (h.running i l hl hthere).1,
        (h.running i l hl hthere).2⟩
    newest := h.newest
    idle := fun hidle l hl hunread =>
      hstarted.trans (h.idle (hactive.symm.trans hidle) l hl hunread)
    unstarted := fun hstart =>
      ⟨(h.unstarted (howed.symm.trans hstart)).1,
        hstarted.trans (h.unstarted (howed.symm.trans hstart)).2⟩ }

/-- A call is noted when no helper runs. -/
theorem inactive_of_noted {d : Display} {e : DisplayEvent} {t : Attempt}
    (h : d.notedAttempt e = some t) : d.auth.isActive = false := by
  rw [Display.notedAttempt, Option.filter_eq_some_iff] at h
  simpa using h.2

/-- A noted call finds no call of a helper unread. -/
theorem Bound.not_unread {c : Crew} (h : Bound c) {e : DisplayEvent}
    (henabled : c.Enabled (.occurs e)) {t : Attempt}
    (hnoted : c.roster.display.notedAttempt e = some t) :
    ∀ l ∈ c.lines, ¬ l.Unread := by
  intro l hl hunread
  have hdown := h.idle (inactive_of_noted hnoted) l hl hunread
  cases e with
  | start ctx =>
      rw [(h.unstarted henabled.1.1).1] at hl
      exact absurd hl List.not_mem_nil
  | login ctx s user password session =>
      exact absurd (hdown.symm.trans (henabled.2.1 rfl)) (by decide)
  | _ => simp [Display.notedAttempt, Display.attemptOf] at hnoted

/-- The helper that is there, or has a call unread, is the newest. -/
theorem Bound.getLast? {c : Crew} (h : Bound c) {i : Nat} {l : HelperLine}
    (hl : c.lines[i]? = some l) (hnoted : c.roster.noted = some i) :
    l ∈ c.lines.getLast? := by
  rw [List.getLast?_eq_getElem?, ← h.newest i hnoted]
  exact hl

/-- A helper that ends with a call unread takes the display down. -/
theorem Bound.stopped_of_unread {c : Crew} (h : Bound c) {e : DisplayEvent}
    (henabled : c.Enabled (.occurs e))
    (hidle : (c.roster.display.answer e).1.auth.isActive = false)
    {l : HelperLine} (hl : l ∈ c.lines) (hunread : l.Unread) :
    (c.roster.display.answer e).1.started = false := by
  by_contra hstopped
  have hup := Bool.eq_true_of_not_eq_false hstopped
  have hother : ∀ ctx, e ≠ .start ctx := by
    rintro ctx rfl
    rw [(h.unstarted henabled.1.1).1] at hl
    exact absurd hl List.not_mem_nil
  have hstarted := Display.started_of_answer hother hup
  cases hactive : c.roster.display.auth.isActive with
  | false =>
      have hdown := h.idle hactive l hl hunread
      exact absurd (hdown.symm.trans hstarted) (by decide)
  | true =>
      obtain ⟨i, hi⟩ := List.getElem?_of_mem hl
      have hends := henabled.2.2 hactive hidle l
        (h.getLast? hi (h.unread i l hi hunread))
      cases htouches : Display.touchesHelper e with
      | false =>
          have hchild := (Display.answer_of_started htouches hup).2
          rw [Auth.isActive, hchild] at hidle
          exact absurd (hactive.symm.trans hidle) (by decide)
      | true =>
          cases e with
          | start ctx => exact hother ctx rfl
          | login ctx s user password session =>
              have hkept := (Display.answer_login ctx s user password session
                c.roster.display).2.2 (Or.inl hactive)
              exact absurd (hkept.symm.trans hidle) (by decide)
          | helperError failed text =>
              cases failed with
              | false => exact absurd (hactive.symm.trans hidle) (by decide)
              | true =>
                  obtain ⟨frame, hframe, _⟩ := hunread
                  rw [List.isEmpty_iff.1 hends.2] at hframe
                  exact absurd hframe List.not_mem_nil
          | helperFinished report waits =>
              rw [Display.answer, Display.childExited_started, hstarted,
                Bool.true_and, decide_eq_true_eq] at hup
              by_cases hnormal : report.exitStatus = .normalExit
              · exact (h.lockstep l hl).not_unread (hends.2 hnormal) hunread
              · rw [Auth.exitStatusOf, if_pos hnormal] at hup
                exact absurd hup (by decide)
          | _ => simp [Display.touchesHelper] at htouches

variable (pam libexecDir serverName) in
theorem length_joins (c : Crew) (e : DisplayEvent) :
    (c.joins pam libexecDir serverName e).length =
      (c.roster.starts e).toList.length := by
  rw [joins, List.length_map]

/-- A helper that has just been started has sent nothing. -/
theorem of_mem_joins {c : Crew} {e : DisplayEvent} {l : HelperLine}
    (hl : l ∈ c.joins pam libexecDir serverName e) :
    l.InLockstep ∧ ¬ l.Unread := by
  obtain ⟨h, _, rfl⟩ := List.mem_map.1 hl
  refine ⟨fun d => ⟨HelperProcess.obeys_main _ _, rfl, ?_⟩, ?_⟩
  · exact fun _ hg => absurd hg List.not_mem_nil
  · rintro ⟨frame, hframe, _⟩
    exact absurd hframe List.not_mem_nil

/-- The display before its start and after it. -/
theorem Bound.unstarted_occurs {c : Crew} (h : Bound c) {e : DisplayEvent}
    (howed : (c.roster.display.answer e).1.startOwed = true) :
    (∀ ctx, e ≠ .start ctx) ∧ c.lines = [] ∧
      (c.roster.display.answer e).1.started = false ∧
      c.roster.display.started = false := by
  have hother : ∀ ctx, e ≠ .start ctx := by
    rintro ctx rfl
    obtain ⟨_, _, _, _, _, _, _, hframe⟩ :=
      c.roster.display.answer_start_frame ctx
    rw [hframe] at howed
    exact absurd howed Bool.false_ne_true
  obtain ⟨hnone, hdown⟩ :=
    h.unstarted ((Display.answer_startOwed_eq hother).symm.trans howed)
  refine ⟨hother, hnone, ?_, hdown⟩
  by_contra hup
  have hstarted := Display.started_of_answer hother
    (Bool.eq_true_of_not_eq_false hup)
  exact absurd (hdown.symm.trans hstarted) (by decide)

/-- Something that no call of `startAuth` gets past its guard in. -/
theorem Bound.occurs_of_not_noted {c : Crew} (h : Bound c) {e : DisplayEvent}
    (henabled : c.Enabled (.occurs e))
    (hnoted : c.roster.display.notedAttempt e = none) :
    Bound (c.answer pam libexecDir serverName (.occurs e)).1 := by
  have hstarts : c.roster.starts e = none := by
    rw [Roster.starts, Option.map_eq_none_iff]
    by_contra haccepted
    obtain ⟨t, ht⟩ := Option.ne_none_iff_exists'.1 haccepted
    rw [Display.notedAttempt_of_accepted ht] at hnoted
    exact absurd hnoted (by simp)
  have hlines : (c.answer pam libexecDir serverName (.occurs e)).1.lines =
      c.lines := by
    simp [answer, linesAfter, joins, hstarts]
  have hnotedAfter : (c.roster.answer (.occurs e)).1.noted =
      c.roster.noted := by
    simp [Roster.answer, hnoted]
  have hhelpers : (c.roster.answer (.occurs e)).1.helpers =
      c.roster.helpers := by
    simp [Roster.answer, hstarts]
  refine ⟨?_, ?_, h.notes.occurs henabled.1.2.1, ?_, ?_, ?_, ?_, ?_⟩
  · rw [hlines]
    exact h.length.trans (congrArg List.length hhelpers).symm
  · rw [hlines]
    exact h.lockstep
  · intro i l hl hunread
    rw [hlines] at hl
    exact hnotedAfter.trans (h.unread i l hl hunread)
  · intro i l hl hthere
    rw [hlines] at hl
    obtain ⟨hactive, hlast⟩ := h.running i l hl hthere
    refine ⟨?_, hnotedAfter.trans hlast⟩
    by_contra hidle
    -- the helper that is there is the newest, so it is the one that ended
    have hends := henabled.2.2 hactive (Bool.eq_false_of_not_eq_true hidle) l
      (h.getLast? hl hlast)
    exact absurd (hthere.symm.trans hends.1) (by decide)
  · intro i hi
    rw [hlines]
    exact h.newest i (hnotedAfter ▸ hi)
  · intro hidle l hl hunread
    rw [hlines] at hl
    exact h.stopped_of_unread henabled hidle hl hunread
  · intro howed
    obtain ⟨_, hnone, hdown, _⟩ := h.unstarted_occurs howed
    rw [hlines]
    exact ⟨hnone, hdown⟩

/-- A call of `startAuth` that gets past its guard finds every helper gone and
every call read. -/
theorem Bound.occurs_of_noted {c : Crew} (h : Bound c) {e : DisplayEvent}
    (henabled : c.Enabled (.occurs e)) {t : Attempt}
    (hnoted : c.roster.display.notedAttempt e = some t) :
    Bound (c.answer pam libexecDir serverName (.occurs e)).1 := by
  have hidle := inactive_of_noted hnoted
  have hgone : ∀ l ∈ c.lines, ¬ l.gone = false := by
    intro l hl hthere
    obtain ⟨i, hi⟩ := List.getElem?_of_mem hl
    exact absurd (hidle.symm.trans (h.running i l hi hthere).1) (by decide)
  have hunread : ∀ l ∈ (c.answer pam libexecDir serverName
      (.occurs e)).1.lines, ¬ l.Unread := by
    intro l hl
    rcases List.mem_append.1 hl with hl | hl
    · exact h.not_unread henabled hnoted l hl
    · exact (of_mem_joins hl).2
  have howed : ¬ (c.roster.display.answer e).1.startOwed = true := by
    intro howed
    obtain ⟨hother, _, _, hdown⟩ := h.unstarted_occurs howed
    cases e with
    | start ctx => exact hother ctx rfl
    | login ctx s user password session =>
        exact absurd (hdown.symm.trans (henabled.2.1 rfl)) (by decide)
    | _ => simp [Display.notedAttempt, Display.attemptOf] at hnoted
  refine ⟨?_, ?_, h.notes.occurs henabled.1.2.1, ?_, ?_, ?_, ?_, ?_⟩
  · change (c.lines ++ c.joins pam libexecDir serverName e).length =
      (c.roster.helpers ++ (c.roster.starts e).toList).length
    rw [List.length_append, List.length_append, length_joins, h.length]
  · intro l hl
    rcases List.mem_append.1 hl with hl | hl
    · exact h.lockstep l hl
    · exact (of_mem_joins hl).1
  · exact fun i l hl hcall =>
      absurd hcall (hunread l (List.mem_of_getElem? hl))
  · intro i l hl hthere
    change (c.lines ++ c.joins pam libexecDir serverName e)[i]? = some l at hl
    rw [List.getElem?_append] at hl
    split at hl
    · exact absurd hthere (hgone l (List.mem_of_getElem? hl))
    next hlength =>
      -- the helper that has just been started
      obtain ⟨started, hstarts⟩ : ∃ started,
          c.roster.starts e = some started := by
        by_contra hnone
        rw [joins, Option.eq_none_iff_forall_ne_some.2
          (fun x hx => hnone ⟨x, hx⟩)] at hl
        simp at hl
      have hi : i = c.lines.length := by
        have hlt := (List.getElem?_eq_some_iff.1 hl).1
        rw [length_joins, hstarts, Option.toList_some,
          List.length_singleton] at hlt
        omega
      obtain ⟨t', ht', _⟩ := Option.map_eq_some_iff.1 hstarts
      refine ⟨?_, ?_⟩
      · change (c.roster.display.answer e).1.auth.isActive = true
        rw [Display.answer_of_accepted ht']
        exact Auth.start_isActive _
      · simp [answer, rosterEvent, Roster.answer, hnoted, hstarts, hi,
          h.length]
  · intro i hi
    cases hstarts : c.roster.starts e with
    | none =>
        simp [answer, rosterEvent, Roster.answer, hnoted, hstarts] at hi
    | some started =>
        obtain rfl : c.roster.helpers.length = i := by
          simpa [answer, rosterEvent, Roster.answer, hnoted, hstarts] using hi
        change _ = (c.lines ++ c.joins pam libexecDir serverName e).length
        rw [List.length_append, length_joins, hstarts, h.length]
        rfl
  · exact fun _ l hl hcall => absurd hcall (hunread l hl)
  · exact fun hstart => absurd hstart howed

theorem Bound.step {c : Crew} (h : Bound c) {e : CrewEvent}
    (henabled : c.Enabled e) (hhonest : c.Honest e) :
    Bound (c.answer pam libexecDir serverName e).1 := by
  cases e with
  | acts i =>
      refine h.modify i _ (fun l hl => hl.after _ _) fun l hl => ⟨id, ?_⟩
      obtain ⟨l', hl', hthere⟩ := henabled
      obtain rfl : l' = l := Option.some.inj (hl'.symm.trans hl)
      exact fun _ => Or.inr hthere
  | receives i =>
      exact h.modify i _ (fun l hl => hl.after _ _) fun l _ =>
        ⟨id, fun hcall => Or.inl (HelperLine.unread_receives hcall)⟩
  | leaves i =>
      exact h.modify i _ (fun l hl => hl) fun l _ =>
        ⟨fun hthere => absurd hthere (by simp), Or.inl⟩
  | announces i =>
      exact ⟨h.length, h.lockstep, h.notes, h.unread, h.running, h.newest,
        h.idle, h.unstarted⟩
  | serves =>
      obtain ⟨frame, hframe⟩ := Option.isSome_iff_exists.1 henabled
      obtain ⟨l, hl, _⟩ := Option.bind_eq_some_iff.1 hframe
      obtain ⟨i, hbound, _⟩ := Option.bind_eq_some_iff.1 hl
      have hevent : c.rosterEvent .serves = some (.reads frame) := by
        rw [rosterEvent, hframe]
        rfl
      have hread := h.reads (hhonest _ hevent) (h.current hframe)
      have hserved := hread.modify i (·.after c.roster.display .serves)
        (fun l hl => hl.after _ _) fun l _ =>
          ⟨id, fun hcall => Or.inl (HelperLine.unread_serves hcall)⟩
      simpa [answer, hevent, linesAfter, hbound, moves] using hserved
  | occurs e =>
      cases hnoted : c.roster.display.notedAttempt e with
      | none => exact h.occurs_of_not_noted henabled hnoted
      | some t => exact h.occurs_of_noted henabled hnoted

/-- A reply is to a call that has just been read. -/
theorem Bound.answersOwnHelper {c : Crew} (h : Bound c) {e : CrewEvent}
    (henabled : c.Enabled e) :
    AnswersOwnHelper
      ((crewMachine pam libexecDir serverName).fire c e) := by
  intro reply hreply
  change _ ∈ ((c.rosterEvent e).elim (c.roster, []) c.roster.answer).2
    at hreply
  cases e with
  | serves =>
      obtain ⟨frame, hframe⟩ := Option.isSome_iff_exists.1 henabled
      have hevent : c.rosterEvent .serves = some (.reads frame) := by
        rw [rosterEvent, hframe]
        rfl
      rw [hevent] at hreply
      obtain ⟨r, helper, heq, hsender, hfill⟩ := h.notes.reply
        (h.enabled_reads hframe) (h.current hframe) hreply
      exact ⟨r, helper, hevent.trans (congrArg some heq), hsender, hfill⟩
  | announces i => exact absurd hreply List.not_mem_nil
  | occurs e =>
      obtain ⟨r, heq, _⟩ := Roster.exists_of_reply henabled.1 hreply
      exact absurd heq (by simp)
  | _ => exact absurd hreply List.not_mem_nil

end Crew

/-- A stack that asks for the password and takes any. -/
def PamModules.asksPassword : PamModules Unit where
  start := ⟨true, []⟩
  initial := ()
  authenticate _ := .converses [⟨.promptEchoOff, "Password: "⟩]
    fun _ => .returns (⟨true, []⟩, ())
  acctMgmt _ := .returns (.success, ())
  chAuthTok _ := .returns (⟨true, []⟩, ())
  userName _ := "alice"
  setCred _ := .returns (⟨true, []⟩, ())
  putEnv _ _ := ⟨true, []⟩
  openSession _ := .returns (⟨true, []⟩, ())
  sessionStarts _ := true
  sessionStatus _ := .success
  closeSession _ := .returns (⟨true, []⟩, ())
  deleteCred _ := .returns (⟨true, []⟩, ())

/-- alice's helper asks for the password; bob's Login is refused meanwhile. -/
def CrewEvent.aliceAsked : List CrewEvent :=
  [.occurs (.start {}), .occurs (.displayServerStarted {}),
    .occurs (.newConnection 7), .occurs (.newConnection 8),
    .occurs (.login {} 7 "alice" "secret" .plasma),
    .announces 0, .acts 0, .occurs (.login {} 8 "bob" "hunter2" {})]

end PlasmaLogin

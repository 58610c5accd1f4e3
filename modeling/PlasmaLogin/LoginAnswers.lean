/-
Whether every login gets an answer.  A display is run together with the
frames its helper has sent and it has not read yet, in any order, and with the
connections that have asked for a login and heard no verdict since.
-/
import PlasmaLogin.Verdicts

namespace PlasmaLogin

open Mealy

namespace Display

theorem dataPending_started_child (frame : HelperFrame) (d : Display) :
    (d.dataPending frame).1.started = d.started ∧
      (d.dataPending frame).1.auth.child = d.auth.child := by
  have hslot : ∀ (success : Bool) (d : Display),
      (d.slotAuthenticationFinished success).1.started = d.started ∧
        (d.slotAuthenticationFinished success).1.auth.child =
          d.auth.child := by
    intro success d
    unfold slotAuthenticationFinished
    split <;> exact ⟨rfl, rfl⟩
  cases frame with
  | request r =>
      rw [dataPending_request]
      unfold slotRequestChanged
      split <;> exact ⟨rfl, rfl⟩
  | authenticated user =>
      rw [dataPending_authenticated]
      split
      · exact hslot false d
      · exact hslot true { d with auth := d.auth.setUser user }
  | sessionStatus status => cases status <;> exact ⟨rfl, rfl⟩
  | _ => exact ⟨rfl, rfl⟩

/-- The end of a greeter stops the display or leaves its helper alone. -/
theorem greeterExited_of_started {waits : List StopWaits}
    {report : ExitReport} {d : Display}
    (h : (greeterExited (stop waits) report d).1.started = true) :
    (greeterExited (stop waits) report d).1.auth = d.auth := by
  revert h
  unfold greeterExited
  simp only
  split
  · exact fun _ => rfl
  · rw [stop_started]
    simp
  · rw [andThen_fst, stop_started]
    simp
  · simp only [andThen_fst, removeDisplay, stop_started]
    simp

/-- Whether an event is about the display's own helper. -/
def touchesHelper : DisplayEvent → Bool
  | .start _ | .login _ _ _ _ _ | .helperError _ _ | .helperFinished _ _ =>
      true
  | _ => false

/-- While the display stays up, other events leave its helper alone. -/
theorem answer_of_started {d : Display} {e : DisplayEvent}
    (he : touchesHelper e = false)
    (hup : (d.answer e).1.started = true) :
    d.started = true ∧ (d.answer e).1.auth.child = d.auth.child := by
  cases e with
  | displayServerStarted ctx =>
      obtain ⟨_, hframe⟩ := d.answer_displayServerStarted_frame ctx
      rw [hframe] at hup ⊢
      exact ⟨hup, rfl⟩
  | newConnection s => exact ⟨hup, rfl⟩
  | connectionClosed s => exact ⟨hup, rfl⟩
  | helperFrame frame =>
      have hslot := dataPending_started_child frame d
      exact ⟨hslot.1 ▸ hup, hslot.2⟩
  | greeterFrame frame => cases frame <;> exact ⟨hup, rfl⟩
  | greeterError failed => exact ⟨hup, rfl⟩
  | greeterFinished report waits =>
      exact ⟨(closes_greeterExited (closes_stop waits) report
        d).state.started hup, congrArg Auth.child
          (greeterExited_of_started hup)⟩
  | greeterStop report waits =>
      refine ⟨(closes_stopGreeter (closes_stop waits) report
        { d with greeterStopsOwed := d.greeterStopsOwed - 1 }).state.started
          hup, ?_⟩
      revert hup
      change (stopGreeter (stop waits) report _).1.started = true →
        (stopGreeter (stop waits) report _).1.auth.child = _
      unfold stopGreeter
      split
      · exact fun hup => congrArg Auth.child (greeterExited_of_started hup)
      · exact fun _ => rfl
  | stop waits => exact absurd (stop_started waits d ▸ hup) (by decide)
  | _ => simp [touchesHelper] at he

/-- A login is noted, and a helper runs for it that ran before or starts. -/
theorem answer_login (ctx : Context) (s : SocketId) (user password : QString)
    (session : Session) (d : Display) :
    let d' := (d.answer (.login ctx s user password session)).1
    d'.started = d.started ∧ d'.socket = some s ∧
      (d.auth.isActive = true ∨
        user ≠ ("plasmalogin" : QString) ∧ session.startable = true →
          d'.auth.isActive = true) := by
  cases haccepted :
      d.acceptedAttempt (.login ctx s user password session) with
  | some t =>
      rw [answer_of_accepted haccepted]
      exact ⟨rfl, rfl, fun _ => Auth.start_isActive _⟩
  | none =>
      unfold answer login
      simp only
      split
      next huser =>
        refine ⟨rfl, rfl, ?_⟩
        rintro (hactive | ⟨hother, _⟩)
        · exact hactive
        · exact absurd huser hother
      next huser =>
        have hrefused : (!d.auth.isActive && session.startable) = false := by
          simpa [acceptedAttempt, attemptOf, huser] using haccepted
        obtain ⟨phrase, hrefuse⟩ := startAuth_refused ctx user password
          (d := { d with socket := some s }) hrefused
        rw [hrefuse]
        refine ⟨rfl, rfl, ?_⟩
        rintro (hactive | ⟨_, hsession⟩)
        · exact hactive
        · simpa [hsession] using hrefused

end Display

/-- The connection an effect sends a verdict to. -/
def DisplayEffect.verdictTo : DisplayEffect → Option SocketId
  | .loginFailed s | .loginSucceeded s => some s
  | _ => none

/-- The connection that asks for a login. -/
def DisplayEvent.asks : DisplayEvent → Option SocketId
  | .login _ s _ _ _ => some s
  | _ => none

/-- A display with what is on its way to it and what it still owes. -/
structure Link where
  display : Display
  inFlight : List HelperFrame := []
  waiting : List SocketId := []

/-- The helper sends a frame, or something reaches the display. -/
inductive LinkEvent where
  | sends (frame : HelperFrame)
  | occurs (event : DisplayEvent)

namespace Link

def Enabled (c : Link) : LinkEvent → Prop
  | .sends _ => c.display.auth.isActive = true
  | .occurs e => c.display.Enabled e ∧ ∀ frame ∈ e.frame?, frame ∈ c.inFlight

instance (c : Link) (e : LinkEvent) : Decidable (c.Enabled e) := by
  unfold Enabled
  split <;> infer_instance

/-- The connections still without a verdict when effects are out. -/
def unanswered (effects : List DisplayEffect) (waiting : List SocketId) :
    List SocketId :=
  waiting.filter fun s => some s ∉ effects.map DisplayEffect.verdictTo

def answer (c : Link) : LinkEvent → Link × List DisplayEffect
  | .sends frame => ({ c with inFlight := frame :: c.inFlight }, [])
  | .occurs e =>
      let r := c.display.answer e
      ({ display := r.1,
         inFlight := e.frame?.elim c.inFlight c.inFlight.erase,
         waiting := unanswered r.2 (c.waiting ++ e.asks.toList) }, r.2)

/-- A display fresh from its constructor. -/
def create (seatName : QString) (terminalId : Int32) (authId : Int64)
    (autologinSession : Session) : Link :=
  { display := .create seatName terminalId authId autologinSession }

/-- A verdict of the helper has been sent and not been read. -/
def verdictInFlight (c : Link) : Bool :=
  c.inFlight.any HelperFrame.isVerdict

/-- A login comes when no other connection waits, and is refused out of hand,
joins one that waits or starts a helper; no connection closes while it waits,
and while one waits no helper fails to start or reports a failed
authentication by its exit alone. -/
def Answerable (c : Link) : LinkEvent → Prop
  | .occurs (.login _ s user _ session) =>
      (∀ s' ∈ c.waiting, s' = s) ∧
        (user = ("plasmalogin" : QString) ∨ c.waiting ≠ [] ∨
          c.display.auth.isActive = false ∧ session.startable = true)
  | .occurs (.connectionClosed s) => s ∉ c.waiting
  | .occurs (.helperError true _) =>
      c.waiting = [] ∨ c.verdictInFlight = true
  | .occurs (.helperFinished report _) =>
      Auth.exitStatusOf report = .authError →
        c.waiting = [] ∨ c.verdictInFlight = true
  | _ => True

instance (c : Link) (e : LinkEvent) :
    Decidable (c.Answerable e) := by
  unfold Answerable
  split <;> infer_instance

end Link

/-- A display with its helper and its greeters. -/
def linkMachine : Machine Link LinkEvent DisplayEffect where
  enabled := Link.Enabled
  step := Link.answer

instance (c : Link) (es : List LinkEvent) :
    Decidable (linkMachine.Runs c es) :=
  inferInstanceAs (Decidable
    (∀ st ∈ linkMachine.steps c es, st.before.Enabled st.event))

instance (c : Link) (es : List LinkEvent) :
    Decidable (linkMachine.Guarded Link.Answerable c es) :=
  inferInstanceAs (Decidable
    (∀ st ∈ linkMachine.steps c es, st.before.Answerable st.event))

/-- A history of a display and its helper. -/
abbrev LinkHistory := List (Step Link LinkEvent DisplayEffect)

/-- The connection that asks for a login in a step. -/
def LinkEvent.asks : LinkEvent → Option SocketId
  | .sends _ => none
  | .occurs e => e.asks

/-- Every login is followed by a verdict to the connection it came from. -/
def AnswersLogins (history : LinkHistory) : Prop :=
  ∀ st rest s, st :: rest <:+ history → st.event.asks = some s →
    ∃ x ∈ (st :: rest).flatMap Step.outputs, x.verdictTo = some s

namespace Link

/-- The connections of the logins without a verdict are those that wait. -/
def Accounts (history : LinkHistory) (waiting : List SocketId) : Prop :=
  ∀ st rest s, st :: rest <:+ history → st.event.asks = some s →
    s ∈ waiting ∨ ∃ x ∈ (st :: rest).flatMap Step.outputs,
      x.verdictTo = some s

theorem Accounts.answersLogins {history : LinkHistory}
    (h : Accounts history []) : AnswersLogins history := by
  intro st rest s hsuffix hasks
  rcases h st rest s hsuffix hasks with hwaiting | hanswered
  · exact absurd hwaiting List.not_mem_nil
  · exact hanswered

theorem mem_unanswered {effects : List DisplayEffect}
    {waiting : List SocketId} {s : SocketId} (hs : s ∈ waiting) :
    s ∈ unanswered effects waiting ∨ ∃ x ∈ effects, x.verdictTo = some s := by
  by_cases hanswered : some s ∈ effects.map DisplayEffect.verdictTo
  · exact Or.inr (List.mem_map.1 hanswered)
  · exact Or.inl (List.mem_filter.2 ⟨hs, by simpa using hanswered⟩)

theorem unanswered_subset (effects : List DisplayEffect)
    (waiting : List SocketId) : unanswered effects waiting ⊆ waiting :=
  List.filter_subset_self ..

/-- Who asked, or waited, before a step waits after it or has an answer. -/
theorem mem_waiting_answer {c : Link} {e : LinkEvent} {s : SocketId}
    (hs : s ∈ c.waiting ∨ e.asks = some s) :
    s ∈ (c.answer e).1.waiting ∨
      ∃ x ∈ (c.answer e).2, x.verdictTo = some s := by
  cases e with
  | sends frame =>
      rcases hs with hs | hs
      · exact Or.inl hs
      · simp [LinkEvent.asks] at hs
  | occurs e =>
      apply mem_unanswered
      apply List.mem_append.2
      rcases hs with hs | hs
      · exact Or.inl hs
      · exact Or.inr (Option.mem_toList.2 hs)

theorem Accounts.step {history : LinkHistory} {c : Link}
    (h : Accounts history c.waiting) (e : LinkEvent) :
    Accounts (history ++ [linkMachine.fire c e])
      (c.answer e).1.waiting := by
  intro st rest s hsuffix hasks
  rcases List.suffix_concat_iff.1 hsuffix with hnil | ⟨first, heq, hfirst⟩
  · exact absurd hnil (List.cons_ne_nil st rest)
  · cases first with
    | nil =>
        obtain ⟨rfl, rfl⟩ : st = linkMachine.fire c e ∧ rest = [] := by
          simpa using heq
        rw [List.flatMap_singleton]
        exact mem_waiting_answer (Or.inr hasks)
    | cons st' rest' =>
        obtain ⟨rfl, rfl⟩ : st = st' ∧
            rest = rest' ++ [linkMachine.fire c e] := by
          simpa using heq
        rw [← List.cons_append, List.flatMap_append, List.flatMap_singleton]
        rcases h st rest' s hfirst hasks with hwaiting | ⟨x, hx, hto⟩
        · rcases mem_waiting_answer (e := e) (Or.inl hwaiting) with
            hstill | ⟨x, hx, hto⟩
          · exact Or.inl hstill
          · exact Or.inr ⟨x, List.mem_append_right _ hx, hto⟩
        · exact Or.inr ⟨x, List.mem_append_left _ hx, hto⟩

/-- What a display still owes is on its way: one connection waits, it is the
one remembered, and its helper runs or has sent a verdict. -/
structure Owed (c : Link) : Prop where
  alone : ∃ s, c.display.socket = some s ∧ ∀ s' ∈ c.waiting, s' = s
  coming : c.display.auth.isActive = true ∨ c.verdictInFlight = true

/-- What holds as long as every login can be answered. -/
structure Answering (c : Link) : Prop where
  flags : c.display.FlagsConfined
  settled : c.waiting ≠ [] → c.display.Settled
  owed : c.display.started = true → c.waiting ≠ [] → c.Owed

theorem answering_create (seatName : QString) (terminalId : Int32)
    (authId : Int64) (autologinSession : Session) :
    Answering (create seatName terminalId authId autologinSession) where
  flags := Display.flagsConfined_create ..
  settled h := absurd rfl h
  owed _ h := absurd rfl h

theorem waiting_ne_nil_of_answer {c : Link} {e : DisplayEvent}
    (h : (c.answer (.occurs e)).1.waiting ≠ []) :
    c.waiting ≠ [] ∨ ∃ s, e.asks = some s := by
  obtain ⟨s, hs⟩ := List.exists_mem_of_ne_nil _ h
  rcases List.mem_append.1 (unanswered_subset _ _ hs) with hs | hs
  · exact Or.inl (List.ne_nil_of_mem hs)
  · exact Or.inr ⟨s, Option.mem_toList.1 hs⟩

theorem waiting_subset_of_answer {c : Link} {e : DisplayEvent}
    (h : e.asks = none) : (c.answer (.occurs e)).1.waiting ⊆ c.waiting := by
  intro s hs
  rcases List.mem_append.1 (unanswered_subset _ _ hs) with hs | hs
  · exact hs
  · rw [h] at hs
    exact absurd hs List.not_mem_nil

/-- A verdict of the helper leaves nobody waiting. -/
theorem Owed.waiting_nil {c : Link} (h : c.Owed)
    (hoff : c.display.auth.autologin = false) {frame : HelperFrame}
    (hverdict : frame.isVerdict = true) :
    (c.answer (.occurs (.helperFrame frame))).1.waiting = [] := by
  obtain ⟨s, hsocket, halone⟩ := h.alone
  have hsent : some s ∈
      (c.display.answer (.helperFrame frame)).2.map
        DisplayEffect.verdictTo := by
    have hmem : ∀ x ∈ Display.verdicts
        (c.display.answer (.helperFrame frame)).2,
          x ∈ (c.display.answer (.helperFrame frame)).2 :=
      fun x hx => (List.mem_filter.1 hx).1
    cases frame with
    | error message type =>
        cases type with
        | authentication =>
            refine List.mem_map.2 ⟨.loginFailed s, hmem _ ?_, rfl⟩
            change _ ∈ Display.verdicts (c.display.dataPending _).2
            rw [Display.verdicts_error, hsocket]
            exact List.mem_singleton_self _
        | _ => simp [HelperFrame.isVerdict] at hverdict
    | authenticated user =>
        refine List.mem_map.2 ⟨Display.verdictOn user s, hmem _ ?_, ?_⟩
        · change _ ∈ Display.verdicts (c.display.dataPending _).2
          rw [Display.verdicts_authenticated hoff, hsocket]
          exact List.mem_singleton_self _
        · unfold Display.verdictOn
          split <;> rfl
    | _ => simp [HelperFrame.isVerdict] at hverdict
  apply List.filter_eq_nil_iff.2
  intro s' hs'
  have hsame : s' = s := by
    rcases List.mem_append.1 hs' with hs' | hs'
    · exact halone s' hs'
    · exact absurd hs' List.not_mem_nil
  subst hsame
  simpa using List.mem_map.1 hsent

/-- A verdict on its way stays on its way until one is read. -/
theorem verdictInFlight_answer {c : Link} {e : DisplayEvent}
    (hsilent : ∀ frame ∈ e.frame?, frame.isVerdict = false)
    (h : c.verdictInFlight = true) :
    (c.answer (.occurs e)).1.verdictInFlight = true := by
  obtain ⟨frame, hframe, hverdict⟩ := List.any_eq_true.1 h
  refine List.any_eq_true.2 ⟨frame, ?_, hverdict⟩
  change frame ∈ e.frame?.elim c.inFlight c.inFlight.erase
  cases hread : e.frame? with
  | none => exact hframe
  | some frame' =>
      refine (List.mem_erase_of_ne ?_).2 hframe
      rintro rfl
      rw [hsilent frame hread] at hverdict
      exact absurd hverdict (by decide)

/-- What is owed stays owed through a step that asks for nothing, keeps the
connection and does not lose the helper's verdict. -/
theorem Owed.answer {c : Link} {e : DisplayEvent} (h : c.Owed)
    (hasks : e.asks = none)
    (hsilent : ∀ frame ∈ e.frame?, frame.isVerdict = false)
    (hsocket : (c.display.answer e).1.socket = c.display.socket)
    (hhelper : c.display.auth.isActive = true →
      (c.display.answer e).1.auth.isActive = true ∨
        c.verdictInFlight = true) :
    (c.answer (.occurs e)).1.Owed where
  alone := by
    obtain ⟨s, hs, halone⟩ := h.alone
    exact ⟨s, hsocket.trans hs,
      fun s' hs' => halone s' (waiting_subset_of_answer hasks hs')⟩
  coming := by
    rcases h.coming with hactive | hverdict
    · rcases hhelper hactive with hactive | hverdict
      · exact Or.inl hactive
      · exact Or.inr (verdictInFlight_answer hsilent hverdict)
    · exact Or.inr (verdictInFlight_answer hsilent hverdict)

/-- While an answer is owed no event that is silent about it moves the
connection. -/
theorem Owed.socket_answer {c : Link} {e : DisplayEvent} (h : c.Owed)
    (hwaited : c.waiting ≠ []) (he : Display.touchesHelper e = false)
    (hsilent : ∀ frame ∈ e.frame?, frame.isVerdict = false)
    (hanswerable : c.Answerable (.occurs e)) :
    (c.display.answer e).1.socket = c.display.socket := by
  cases hmoves : Display.movesSocket e with
  | false => exact Display.answer_socket hmoves _
  | true =>
      cases e with
      | connectionClosed s =>
          obtain ⟨s', hs', halone⟩ := h.alone
          obtain ⟨s'', hs''⟩ := List.exists_mem_of_ne_nil _ hwaited
          obtain rfl := halone s'' hs''
          have hne : ¬ c.display.socket = some s := by
            rw [hs', Option.some.injEq]
            rintro rfl
            exact hanswerable hs''
          change (if c.display.socket = some s then none
            else c.display.socket) = _
          rw [if_neg hne]
      | helperFrame frame =>
          cases frame with
          | authenticated user => exact absurd (hsilent _ rfl) (by simp)
          | _ => simp [Display.movesSocket] at hmoves
      | login ctx s user password session =>
          simp [Display.touchesHelper] at he
      | _ => simp [Display.movesSocket] at hmoves

/-- Events that are not about the helper's process. -/
theorem Answering.owed_of_not_touchesHelper {c : Link}
    {e : DisplayEvent} (h : c.Answering)
    (he : Display.touchesHelper e = false)
    (hanswerable : c.Answerable (.occurs e))
    (hup : (c.display.answer e).1.started = true)
    (hwaiting : (c.answer (.occurs e)).1.waiting ≠ []) :
    (c.answer (.occurs e)).1.Owed := by
  obtain ⟨hstarted, hchild⟩ := Display.answer_of_started he hup
  have hasks : e.asks = none := by
    cases e <;> first | rfl | simp [Display.touchesHelper] at he
  have hwaited : c.waiting ≠ [] := by
    rcases waiting_ne_nil_of_answer hwaiting with hwaited | ⟨s, hs⟩
    · exact hwaited
    · simp [hasks] at hs
  have howed := h.owed hstarted hwaited
  have hsilent : ∀ frame ∈ e.frame?, frame.isVerdict = false := by
    intro frame hframe
    obtain rfl := DisplayEvent.eq_of_frame? hframe
    by_contra hverdict
    rw [Bool.not_eq_false] at hverdict
    exact hwaiting
      (howed.waiting_nil (h.settled hwaited).autologin hverdict)
  have hhelper : c.display.auth.isActive = true →
      (c.display.answer e).1.auth.isActive = true ∨
        c.verdictInFlight = true := by
    intro hactive
    unfold Auth.isActive
    rw [hchild]
    exact Or.inl hactive
  have hsocket := howed.socket_answer hwaited he hsilent hanswerable
  exact howed.answer hasks hsilent hsocket hhelper

/-- A login joins those that wait or is the first. -/
theorem Answering.owed_login {c : Link} (h : c.Answering) {ctx : Context}
    {s : SocketId} {user password : QString} {session : Session}
    (hanswerable : c.Answerable
      (.occurs (.login ctx s user password session)))
    (hup : (c.display.answer
      (.login ctx s user password session)).1.started = true)
    (hwaiting : (c.answer
      (.occurs (.login ctx s user password session))).1.waiting ≠ []) :
    (c.answer (.occurs (.login ctx s user password session))).1.Owed := by
  obtain ⟨halone, hreason⟩ := hanswerable
  obtain ⟨hstarted, hsocket, hhelper⟩ :=
    Display.answer_login ctx s user password session c.display
  have hsame : ∀ s' ∈ (c.answer
      (.occurs (.login ctx s user password session))).1.waiting, s' = s := by
    intro s' hs'
    rcases List.mem_append.1 (unanswered_subset _ _ hs') with hs' | hs'
    · exact halone s' hs'
    · exact List.mem_singleton.1 hs'
  have hother : user ≠ ("plasmalogin" : QString) := by
    rintro rfl
    obtain ⟨s', hs'⟩ := List.exists_mem_of_ne_nil _ hwaiting
    obtain rfl := hsame s' hs'
    simp [Link.answer, unanswered, Display.answer, Display.login,
      DisplayEffect.verdictTo] at hs'
  refine ⟨⟨s, hsocket, hsame⟩, ?_⟩
  rcases hreason with huser | hwaited | ⟨_, hsession⟩
  · exact absurd huser hother
  · rcases (h.owed (hstarted ▸ hup) hwaited).coming with hactive | hverdict
    · exact Or.inl (hhelper (Or.inl hactive))
    · right
      apply verdictInFlight_answer _ hverdict
      intro frame hframe
      simp [DisplayEvent.frame?] at hframe
  · exact Or.inl (hhelper (Or.inr ⟨hother, hsession⟩))

theorem Answering.owed_occurs {c : Link} {e : DisplayEvent}
    (h : c.Answering) (henabled : c.Enabled (.occurs e))
    (hanswerable : c.Answerable (.occurs e))
    (hup : (c.display.answer e).1.started = true)
    (hwaiting : (c.answer (.occurs e)).1.waiting ≠ []) :
    (c.answer (.occurs e)).1.Owed := by
  cases htouches : Display.touchesHelper e with
  | false => exact h.owed_of_not_touchesHelper htouches hanswerable hup hwaiting
  | true =>
      cases e with
      | login ctx s user password session =>
          exact h.owed_login hanswerable hup hwaiting
      | start ctx =>
          have hwaited : c.waiting ≠ [] :=
            (waiting_ne_nil_of_answer hwaiting).resolve_right
              (by simp [DisplayEvent.asks])
          have hnot := (h.settled hwaited).startOwed
          rw [henabled.1] at hnot
          exact absurd hnot (by decide)
      | helperError failed text =>
          have hwaited : c.waiting ≠ [] :=
            (waiting_ne_nil_of_answer hwaiting).resolve_right
              (by simp [DisplayEvent.asks])
          refine (h.owed hup hwaited).answer rfl
            (fun frame hframe => absurd hframe (by simp [DisplayEvent.frame?]))
            rfl fun hactive => ?_
          cases failed with
          | false => exact Or.inl hactive
          | true => exact Or.inr (hanswerable.resolve_left hwaited)
      | helperFinished report waits =>
          have hwaited : c.waiting ≠ [] :=
            (waiting_ne_nil_of_answer hwaiting).resolve_right
              (by simp [DisplayEvent.asks])
          have hended := Display.childExited_started waits report c.display
          have hsame := (Display.closes_childExited
            (Display.closes_stop waits) report c.display).state
          rw [show (Display.childExited (Display.stop waits) report
            c.display).1.started = true from hup, eq_comm,
            Bool.and_eq_true, decide_eq_true_eq] at hended
          refine (h.owed hended.1 hwaited).answer rfl
            (fun frame hframe => absurd hframe (by simp [DisplayEvent.frame?]))
            (congrArg Display.socket hsame.frame :) fun _ => Or.inr ?_
          exact (hanswerable hended.2).resolve_left hwaited
      | _ => simp [Display.touchesHelper] at htouches

theorem Answering.step {c : Link} {e : LinkEvent} (h : c.Answering)
    (henabled : c.Enabled e) (hanswerable : c.Answerable e) :
    (c.answer e).1.Answering := by
  cases e with
  | sends frame =>
      refine ⟨h.flags, h.settled, fun hup hwaiting => ?_⟩
      have howed := h.owed hup hwaiting
      refine ⟨howed.alone, howed.coming.imp_right fun hverdict => ?_⟩
      change (frame :: c.inFlight).any HelperFrame.isVerdict = true
      rw [List.any_cons, show c.inFlight.any HelperFrame.isVerdict = true from
        hverdict, Bool.or_true]
  | occurs e =>
      refine ⟨h.flags.answer henabled.1, fun hwaiting => ?_,
        h.owed_occurs henabled hanswerable⟩
      rcases waiting_ne_nil_of_answer hwaiting with hwaited | ⟨s, hs⟩
      · exact (h.settled hwaited).answer henabled.1
      · cases e with
        | login ctx s' user password session =>
            exact (h.flags.settled henabled.1).answer henabled.1
        | _ => simp [DisplayEvent.asks] at hs

end Link

open Link in
/-- In a run whose steps can all be answered, whenever the display is up, no
helper runs and nothing is in flight, every login has had its verdict. -/
theorem steps_answersLogins (seatName : QString) (terminalId : Int32)
    (authId : Int64) (autologinSession : Session) (es : List LinkEvent)
    (hrun : linkMachine.Runs
      (create seatName terminalId authId autologinSession) es)
    (hanswerable : linkMachine.Guarded Answerable
      (create seatName terminalId authId autologinSession) es)
    (hstarted : (linkMachine.exec
      (create seatName terminalId authId autologinSession)
        es).display.started = true)
    (hidle : (linkMachine.exec
      (create seatName terminalId authId autologinSession)
        es).display.auth.isActive = false)
    (hread : (linkMachine.exec
      (create seatName terminalId authId autologinSession)
        es).inFlight = []) :
    AnswersLogins (linkMachine.steps
      (create seatName terminalId authId autologinSession) es) := by
  obtain ⟨haccounts, hanswering⟩ := linkMachine.history_invariant
    (J := fun history c => Accounts history c.waiting ∧ Answering c)
    (G := fun c e => c.Enabled e ∧ c.Answerable e)
    (fun _ _ e h he => ⟨h.1.step e, h.2.step he.1 he.2⟩)
    ⟨fun _ _ _ hsuffix _ => absurd (List.suffix_nil.1 hsuffix)
      (List.cons_ne_nil _ _), answering_create ..⟩
    (fun st hst => ⟨hrun st hst, hanswerable st hst⟩)
  have hnone : (linkMachine.exec
      (create seatName terminalId authId autologinSession) es).waiting =
        [] := by
    by_contra hwaiting
    rcases (hanswering.owed hstarted hwaiting).coming with hactive | hverdict
    · rw [hidle] at hactive
      exact absurd hactive (by decide)
    · rw [verdictInFlight, hread] at hverdict
      exact absurd hverdict (by decide)
  rw [hnone] at haccounts
  exact haccounts.answersLogins

/-- alice asks for a session after a greeter has connected. -/
def LinkEvent.aliceAsks (session : Session) : List LinkEvent :=
  [.occurs (.start {}), .occurs (.displayServerStarted {}),
    .occurs (.newConnection 7),
    .occurs (.login {} 7 "alice" "secret" session)]

/-- The helper reports a wrong password and exits. -/
def LinkEvent.wrongPassword : List LinkEvent :=
  [.sends (.authenticated []),
    .occurs (.helperFinished ⟨HelperExitStatus.authError, .normalExit, []⟩ []),
    .occurs (.helperFrame (.authenticated []))]

open Link LinkEvent in
/-- A wrong password is answered. -/
theorem steps_answersLogins_alice :
    AnswersLogins (linkMachine.steps (create "seat0" 1 1 {})
      (aliceAsks .plasma ++ wrongPassword)) :=
  steps_answersLogins "seat0" 1 1 {} _ (by decide) (by decide) (by decide)
    (by decide) (by decide)

open Link LinkEvent in
/-- A login for a session that does not exist gets no answer at all. -/
theorem steps_not_answersLogins :
    ¬ ∀ (seatName : QString) (terminalId : Int32) (authId : Int64)
      (autologinSession : Session) (es : List LinkEvent),
        linkMachine.Runs
            (create seatName terminalId authId autologinSession) es →
          (linkMachine.exec
            (create seatName terminalId authId autologinSession)
              es).display.started = true →
          (linkMachine.exec
            (create seatName terminalId authId autologinSession)
              es).display.auth.isActive = false →
          (linkMachine.exec
            (create seatName terminalId authId autologinSession)
              es).inFlight = [] →
          AnswersLogins (linkMachine.steps
            (create seatName terminalId authId autologinSession) es) := by
  intro hall
  have hanswers := hall "seat0" 1 1 {} (aliceAsks {}) (by decide) (by decide)
    (by decide) (by decide)
  obtain ⟨x, hx, _⟩ := hanswers _ [] 7 (List.suffix_append
    (linkMachine.steps (create "seat0" 1 1 {}) (aliceAsks {}).dropLast)
    [linkMachine.fire (linkMachine.exec (create "seat0" 1 1 {})
      (aliceAsks {}).dropLast) (.occurs (.login {} 7 "alice" "secret" {}))])
    rfl
  exact absurd hx List.not_mem_nil

end PlasmaLogin

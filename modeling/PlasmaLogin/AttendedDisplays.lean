/-
Whether a seat ever goes dark.  A display that is up has a greeter, or a call
that will start one, or the helper of a login or session; the seat puts a new
display up only when one of them ends the right way.
-/
import PlasmaLogin.IdleDisplays

namespace PlasmaLogin

open Mealy

namespace Display

/-- There is a greeter, or one to come, or somebody logging in or logged
in. -/
def Attended (d : Display) : Prop :=
  0 < d.displayServerStartedOwed ∨ d.greeter.isRunning = true ∨
    d.auth.isActive = true

/-- The event takes the last of them away, and the display stays up. -/
def Abandons (d : Display) : DisplayEvent → Prop
  | .displayServerStarted ctx =>
      (ctx.chownFails = true ∨ d.greeter.started = true) ∧
        d.displayServerStartedOwed = 1 ∧ d.greeter.isRunning = false ∧
          d.auth.isActive = false
  | .helperError failed _ => failed = true ∧
      d.displayServerStartedOwed = 0 ∧ d.greeter.isRunning = false
  | .helperFinished report _ => Auth.exitStatusOf report = .authError ∧
      d.displayServerStartedOwed = 0 ∧ d.greeter.isRunning = false
  | .greeterError failed => failed = true ∧
      d.displayServerStartedOwed = 0 ∧ d.auth.isActive = false
  | .greeterFinished report _ =>
      Auth.exitStatusOf report ∉ Greeter.failures ∧
        d.displayServerStartedOwed = 0 ∧ d.auth.isActive = false
  | .greeterStop report _ => d.greeter.waits = true ∧
      (∃ r ∈ report, Auth.exitStatusOf r ∉ Greeter.failures) ∧
        d.displayServerStartedOwed = 0 ∧ d.auth.isActive = false
  | _ => False

instance (d : Display) : Decidable d.Attended :=
  inferInstanceAs (Decidable (_ ∨ _ ∨ _))

instance (d : Display) (e : DisplayEvent) : Decidable (d.Abandons e) :=
  match e with
  | .displayServerStarted _ => inferInstanceAs (Decidable (_ ∧ _))
  | .helperError _ _ => inferInstanceAs (Decidable (_ ∧ _))
  | .helperFinished _ _ => inferInstanceAs (Decidable (_ ∧ _))
  | .greeterError _ => inferInstanceAs (Decidable (_ ∧ _))
  | .greeterFinished _ _ => inferInstanceAs (Decidable (_ ∧ _))
  | .greeterStop _ _ => inferInstanceAs (Decidable (_ ∧ _))
  | .start _ | .newConnection _ | .connectionClosed _ | .login .. |
    .helperFrame _ | .greeterFrame _ | .stop _ =>
      inferInstanceAs (Decidable False)

theorem not_attended_iff {d : Display} :
    ¬ d.Attended ↔ d.displayServerStartedOwed = 0 ∧
      d.greeter.isRunning = false ∧ d.auth.isActive = false := by
  simp [Attended]

/-- Nothing is taken away. -/
theorem Attended.mono {d d' : Display} (h : d.Attended)
    (howed : d.displayServerStartedOwed ≤ d'.displayServerStartedOwed)
    (hgreeter : d'.greeter.isRunning = d.greeter.isRunning)
    (hhelper : d.auth.isActive = true → d'.auth.isActive = true) :
    d'.Attended := by
  rcases h with h | h | h
  · exact Or.inl (Nat.lt_of_lt_of_le h howed)
  · exact Or.inr (Or.inl (hgreeter.trans h))
  · exact Or.inr (Or.inr (hhelper h))

theorem attended_withoutGreeter_iff {d : Display} :
    d.withoutGreeter.Attended ↔
      ¬(d.displayServerStartedOwed = 0 ∧ d.auth.isActive = false) := by
  simp [Attended, withoutGreeter, Greeter.isRunning, Nat.pos_iff_ne_zero,
    imp_iff_not_or]

theorem attended_withoutHelper_iff {d : Display} :
    d.withoutHelper.Attended ↔
      ¬(d.displayServerStartedOwed = 0 ∧ d.greeter.isRunning = false) := by
  simp [Attended, withoutHelper, Auth.isActive, Nat.pos_iff_ne_zero,
    imp_iff_not_or]

/-- A greeter that ends without a failure is only forgotten. -/
theorem greeterExited_of_not_failure
    (stop : Display → Display × List DisplayEffect) {report : ExitReport}
    (h : Auth.exitStatusOf report ∉ Greeter.failures) (d : Display) :
    greeterExited stop report d = (d.withoutGreeter, []) := by
  have hsome := Greeter.onHelperFinished_isSome_iff (Auth.exitStatusOf report)
    d.greeter
  have hnone : (d.greeter.onHelperFinished (Auth.exitStatusOf report)).2 =
      none := by
    rw [← Option.not_isSome_iff_eq_none, hsome]
    exact h
  simp only [greeterExited, hnone]
  rfl

/-- A greeter that ends while the display stays up has not failed. -/
theorem greeterExited_of_up {waits : List StopWaits} {report : ExitReport}
    {d : Display}
    (hup : (greeterExited (stop waits) report d).1.started = true) :
    Auth.exitStatusOf report ∉ Greeter.failures ∧
      (greeterExited (stop waits) report d).1 = d.withoutGreeter := by
  rw [greeterExited_started, Bool.and_eq_true, decide_eq_true_eq] at hup
  exact ⟨hup.2, by rw [greeterExited_of_not_failure _ hup.2]⟩

/-- A frame of the helper takes nothing away. -/
theorem dataPending_attended (frame : HelperFrame) {d : Display}
    (h : d.Attended) : (d.dataPending frame).1.Attended := by
  have hfinished : ∀ (success : Bool) {d : Display}, d.Attended →
      (d.slotAuthenticationFinished success).1.Attended := by
    intro success d h
    unfold slotAuthenticationFinished
    split
    · exact h.mono (Nat.le_succ _) rfl id
    · exact h.mono le_rfl rfl id
  cases frame with
  | request r =>
      rw [dataPending_request]
      unfold slotRequestChanged
      split <;> exact h.mono le_rfl rfl id
  | authenticated user =>
      rw [dataPending_authenticated]
      split
      · exact hfinished false h
      · exact hfinished true (h.mono le_rfl rfl id)
  | sessionStatus status => cases status <;> exact h.mono le_rfl rfl id
  | _ => exact h

/-- A call that starts the greeter starts it, or cannot. -/
theorem displayServerStarted_attended_iff {d : Display} {ctx : Context}
    (he : 0 < d.displayServerStartedOwed) :
    (d.answer (.displayServerStarted ctx)).1.Attended ↔
      ¬ d.Abandons (.displayServerStarted ctx) := by
  by_cases hblocked : ctx.chownFails = true ∨ d.greeter.started = true
  · have hsame : (d.answer (.displayServerStarted ctx)).1.greeter.isRunning =
        d.greeter.isRunning := by
      simp only [answer, startSocketServerAndGreeter]
      split
      · rfl
      next hchown =>
        have hstarted := hblocked.resolve_left hchown
        simp [Greeter.start, hstarted, Greeter.isRunning]
    obtain ⟨greeter, hframe⟩ := d.answer_displayServerStarted_frame ctx
    rw [← not_iff_not, not_not, not_attended_iff, hsame, hframe, Abandons,
      and_iff_right hblocked]
    have hone : d.displayServerStartedOwed - 1 = 0 ↔
        d.displayServerStartedOwed = 1 := by omega
    rw [hone]
  · refine iff_of_true ?_ fun habandons => hblocked habandons.1
    rw [not_or, Bool.not_eq_true, Bool.not_eq_true] at hblocked
    refine Or.inr (Or.inl ?_)
    simp only [answer, startSocketServerAndGreeter, hblocked.1,
      Bool.false_eq_true, ↓reduceIte, Greeter.start, hblocked.2,
      Greeter.isRunning, Option.any_some, Auth.start_isActive]

/-- An event leaves a display that stays up attended unless it abandons
it. -/
theorem attended_answer_iff {d : Display} {e : DisplayEvent}
    (howed : d.startOwed = false) (he : d.Enabled e)
    (hup : (d.answer e).1.started = true) (h : d.Attended) :
    (d.answer e).1.Attended ↔ ¬ d.Abandons e := by
  cases e with
  | start ctx => exact absurd (howed.symm.trans he) (by decide)
  | displayServerStarted ctx => exact displayServerStarted_attended_iff he
  | newConnection s => exact iff_of_true (h.mono le_rfl rfl id) id
  | connectionClosed s => exact iff_of_true (h.mono le_rfl rfl id) id
  | login ctx s user password session =>
      have hkept : (d.answer (.login ctx s user password
          session)).1.displayServerStartedOwed = d.displayServerStartedOwed ∧
          (d.answer (.login ctx s user password session)).1.greeter =
            d.greeter := by
        unfold answer login
        simp only
        split
        · exact ⟨rfl, rfl⟩
        · obtain ⟨_, _, _, _, _, heq⟩ := startAuth_frame ctx user password
            session { d with socket := some s }
          rw [heq]
          exact ⟨rfl, rfl⟩
      refine iff_of_true (h.mono hkept.1.ge (by rw [hkept.2]) ?_) id
      exact fun hactive => (answer_login ctx s user password session d).2.2
        (Or.inl hactive)
  | helperFrame frame => exact iff_of_true (dataPending_attended frame h) id
  | helperError failed text =>
      cases failed with
      | false => exact iff_of_true h fun habandons => by cases habandons.1
      | true =>
          rw [Abandons, and_iff_right rfl, ← attended_withoutHelper_iff]
          rfl
  | helperFinished report waits =>
      have hstatus : losesHelper (.helperFinished report waits) = true := by
        rw [answer, childExited_started, Bool.and_eq_true] at hup
        exact hup.2
      rw [(answer_losesHelper hstatus d).1, attended_withoutHelper_iff,
        Abandons, and_iff_right (of_decide_eq_true hstatus)]
  | greeterFrame frame =>
      refine iff_of_true ?_ id
      cases frame <;> exact h.mono le_rfl rfl id
  | greeterError failed =>
      cases failed with
      | false =>
          refine iff_of_true (h.mono le_rfl ?_ id) fun habandons => by
            cases habandons.1
          cases hauth : d.greeter.auth <;>
            simp [answer, Greeter.isRunning, dropFailed, hauth]
      | true =>
          have hgone : (d.answer (.greeterError true)).1.greeter.isRunning =
              false := by
            cases hauth : d.greeter.auth <;>
              simp [answer, Greeter.isRunning, dropFailed, Auth.isActive, hauth]
          rw [Abandons, and_iff_right rfl, ← not_iff_not, not_not,
            not_attended_iff, hgone]
          exact and_congr_right' (and_iff_right rfl)
  | greeterFinished report waits =>
      obtain ⟨hstatus, hafter⟩ := greeterExited_of_up hup
      rw [answer, hafter, attended_withoutGreeter_iff, Abandons,
        and_iff_right hstatus]
  | greeterStop report waits =>
      simp only [answer, stopGreeter] at hup ⊢
      cases hwaits : d.greeter.waits with
      | false =>
          refine iff_of_true (h.mono le_rfl rfl id) fun habandons => ?_
          exact absurd (hwaits.symm.trans habandons.1) (by decide)
      | true =>
          cases report with
          | none =>
              refine iff_of_true (h.mono le_rfl rfl id) fun habandons => ?_
              obtain ⟨r, hr, _⟩ := habandons.2.1
              cases hr
          | some report =>
              rw [hwaits] at hup
              obtain ⟨hstatus, hafter⟩ := greeterExited_of_up hup
              have hfailure : ∃ r ∈ some report,
                  Auth.exitStatusOf r ∉ Greeter.failures :=
                ⟨report, rfl, hstatus⟩
              simp only [hafter, attended_withoutGreeter_iff, Abandons, hwaits,
                hfailure, true_and]
  | stop waits => exact absurd (stop_started waits d ▸ hup) (by decide)

/-- The seat hears nothing of it. -/
theorem Abandons.quiet {d : Display} {e : DisplayEvent} (h : d.Abandons e) :
    stops (d.answer e).2 = 0 ∧
      DisplayEffect.displayServerFailed ∉ (d.answer e).2 := by
  have hother : EffectKind.closing ∉ e.kinds →
      DisplayEffect.displayServerFailed ∉ (d.answer e).2 :=
    fun hkinds hmem => hkinds (d.answer_kinds e _ hmem)
  cases e with
  | displayServerStarted ctx =>
      exact ⟨stops_answer d _, hother (by simp [DisplayEvent.kinds])⟩
  | helperError failed text =>
      exact ⟨stops_answer d _, hother (by simp [DisplayEvent.kinds])⟩
  | helperFinished report waits =>
      have hloses : losesHelper (.helperFinished report waits) = true :=
        decide_eq_true h.1
      exact (answer_losesHelper hloses d).2
  | greeterError failed =>
      exact ⟨stops_answer d _, hother (by simp [DisplayEvent.kinds])⟩
  | greeterFinished report waits =>
      rw [answer, greeterExited_of_not_failure _ h.1]
      exact ⟨rfl, List.not_mem_nil⟩
  | greeterStop report waits =>
      obtain ⟨hwaits, ⟨report, rfl, hstatus⟩, -⟩ := h
      have hquiet : (d.answer (.greeterStop (some report) waits)).2 = [] := by
        simp only [answer, stopGreeter, hwaits,
          greeterExited_of_not_failure _ hstatus]
      rw [hquiet]
      exact ⟨rfl, List.not_mem_nil⟩
  | _ => cases h

theorem startAuth_isActive {ctx : Context} {user password : QString}
    {session : Session} {d : Display}
    (h : (d.startAuth ctx user password session).2.2 = true) :
    (d.startAuth ctx user password session).1.auth.isActive = true := by
  revert h
  unfold startAuth
  split
  · exact fun h => absurd h Bool.false_ne_true
  · simp only
    split
    · exact fun h => absurd h Bool.false_ne_true
    · exact fun _ => Auth.start_isActive _

/-- A display begins with a session or the way to a greeter. -/
theorem attended_start (ctx : Context) {d : Display} (h : d.started = false) :
    (d.answer (.start ctx)).1.Attended := by
  unfold answer start
  simp only [h, Bool.false_eq_true, ↓reduceIte]
  split
  · split
    next hstarted => exact Or.inr (Or.inr (startAuth_isActive hstarted))
    · exact Or.inl (Nat.succ_pos _)
  · exact Or.inl (Nat.succ_pos _)

end Display

namespace Seat

/-- Every listed display is attended, but for one whose signals the seat is
answering. -/
def AttendedBut (k : Option Nat) (m : Seat) : Prop :=
  ∀ j ∈ m.listed, some j ≠ k → ∃ d, m.displays[j]? = some d ∧ d.Attended

/-- There is a display on the list, and each of them is attended. -/
structure Lit (m : Seat) : Prop where
  listed : m.listed ≠ []
  attended : m.AttendedBut none

/-- The event abandons no listed display. -/
def KeepsLit (m : Seat) : SeatEvent → Prop
  | .display i e _ => i ∈ m.listed → ∀ d ∈ m.displays[i]?, ¬ d.Abandons e
  | _ => True

instance (m : Seat) (e : SeatEvent) : Decidable (m.KeepsLit e) :=
  match e with
  | .display i e _ => inferInstanceAs (Decidable
      (i ∈ m.listed → ∀ d ∈ m.displays[i]?, ¬ d.Abandons e))
  | .firstLoginElsewhere | .switchToGreeter _ _ => isTrue trivial

variable {m : Seat} {k : Option Nat}

theorem newDisplay_attended (new : NewDisplay) (m : Seat) :
    (m.newDisplay new).Attended :=
  Display.attended_start new.ctx rfl

theorem AttendedBut.createDisplay (hlisted : Listed m k)
    (h : m.AttendedBut k) (new : NewDisplay) :
    (m.createDisplay new).1.AttendedBut k := by
  intro j hj hne
  change ∃ d, (m.displays ++ [m.newDisplay new])[j]? = some d ∧ _
  rcases List.mem_append.1 hj with hj | hj
  · obtain ⟨d, hd, hattended⟩ := h j hj hne
    exact ⟨d, List.getElem?_append_left (hlisted.bound j hj) ▸ hd, hattended⟩
  · rw [List.mem_singleton.1 hj, List.getElem?_concat_length]
    exact ⟨_, rfl, newDisplay_attended new m⟩

theorem AttendedBut.removeDisplay (h : m.AttendedBut k) (i : Nat) :
    (m.removeDisplay i).AttendedBut k :=
  fun j hj => h j ((mem_removeDisplay i j m).1 hj).1

theorem AttendedBut.displayStopped (hlisted : Listed m k)
    (h : m.AttendedBut k) (i : Nat) (restart : Restart) :
    (m.displayStopped i restart).1.AttendedBut k := by
  unfold Seat.displayStopped
  simp only
  split
  · exact AttendedBut.createDisplay (hlisted.removeDisplay i)
      (h.removeDisplay i) restart.new
  · exact h.removeDisplay i

theorem displayStopped_listed (i : Nat) (restart : Restart) (m : Seat) :
    (m.displayStopped i restart).1.listed ≠ [] := by
  unfold Seat.displayStopped
  simp only
  split
  · exact List.append_ne_nil_of_right_ne_nil _ (List.cons_ne_nil _ _)
  next hsome => exact fun hnil => hsome (List.isEmpty_iff.2 hnil)

/-- There is a display on the list until the daemon exits. -/
theorem deliver_listed (i : Nat) (restart : Restart)
    (xs : List DisplayEffect) (h : m.exiting = true ∨ m.listed ≠ []) :
    (deliver i restart xs m).1.exiting = true ∨
      (deliver i restart xs m).1.listed ≠ [] := by
  induction xs generalizing m with
  | nil => exact h
  | cons x xs ih =>
      refine ih (m := (m.react i restart x).1) ?_
      cases x with
      | stopped => exact Or.inr (displayStopped_listed i restart m)
      | displayServerFailed => exact Or.inl rfl
      | _ => exact h

theorem AttendedBut.deliver (hlisted : Listed m k) (h : m.AttendedBut k)
    (i : Nat) (restart : Restart) (xs : List DisplayEffect) :
    (deliver i restart xs m).1.AttendedBut k := by
  induction xs generalizing m with
  | nil => exact h
  | cons x xs ih =>
      refine ih (hlisted.react i restart x) ?_
      cases x with
      | stopped => exact h.displayStopped hlisted i restart
      | displayServerFailed => exact h.removeDisplay i
      | _ => exact h

theorem AttendedBut.setDisplay (h : m.AttendedBut none) (i : Nat)
    (d : Display) : (m.setDisplay i d).AttendedBut (some i) := by
  intro j hj hne
  obtain ⟨d', hd', hattended⟩ := h j hj (by simp)
  refine ⟨d', ?_, hattended⟩
  change (m.displays.set i d)[j]? = some d'
  rw [List.getElem?_set_ne fun heq => hne (congrArg some heq.symm)]
  exact hd'

/-- What one event of a listed display does to the others and to itself. -/
theorem display_lit_iff (hlisted : Listed m none) (h : m.Lit) {i : Nat}
    {d : Display} (hd : m.displays[i]? = some d) {e : DisplayEvent}
    (he : d.Enabled e) (hexiting : m.exiting = false) (restart : Restart) :
    ((m.answer (.display i e restart)).1.exiting = false →
        (m.answer (.display i e restart)).1.Lit) ↔
      m.KeepsLit (.display i e restart) := by
  obtain ⟨hi, _⟩ := List.getElem?_eq_some_iff.1 hd
  have howed := hlisted.settled d (List.mem_of_getElem? hd)
  have hkeeps : m.KeepsLit (.display i e restart) ↔
      (i ∈ m.listed → ¬ d.Abandons e) := by
    simp [KeepsLit, hd]
  rw [hkeeps]
  by_cases hmem : i ∈ (m.answer (.display i e restart)).1.listed
  · -- the display stays on the list, and the seat has not answered it
    obtain ⟨hbefore, hup, hsame⟩ :=
      mem_of_mem_deliver hlisted hd e restart hmem
    obtain ⟨d', hd', hattended⟩ := h.attended i hbefore (by simp)
    rw [hd] at hd'
    cases hd'
    have hiff := Display.attended_answer_iff howed he hup hattended
    have hself : (m.setDisplay i (d.answer e).1).displays[i]? =
        some (d.answer e).1 := List.getElem?_set_self hi
    rw [hsame]
    constructor
    · intro hlit _
      obtain ⟨d', hd', hattended'⟩ :=
        (hlit hexiting).attended i hbefore (by simp)
      rw [hself] at hd'
      cases hd'
      exact hiff.1 hattended'
    · intro hkeep _
      refine ⟨h.listed, fun j hj _ => ?_⟩
      by_cases hji : j = i
      · rw [hji]
        exact ⟨_, hself, hiff.2 (hkeep hbefore)⟩
      · exact h.attended.setDisplay i _ j hj fun heq => hji (Option.some.inj heq)
  · refine iff_of_true (fun hexit => ?_) fun hbefore habandons => ?_
    · simp only [answer, hd] at hexit hmem ⊢
      have hdelivered := AttendedBut.deliver
        (hlisted.setDisplay (Display.answer_startOwed howed e he).1)
        (h.attended.setDisplay i (d.answer e).1) i restart (d.answer e).2
      refine ⟨?_, fun j hj _ => hdelivered j hj fun heq => ?_⟩
      · have hleft := deliver_listed (m := m.setDisplay i (d.answer e).1) i
          restart (d.answer e).2 (Or.inr h.listed)
        rw [hexit] at hleft
        exact hleft.resolve_left Bool.false_ne_true
      · rw [Option.some.injEq] at heq
        exact hmem (heq ▸ hj)
    · obtain ⟨hstops, hserver⟩ := habandons.quiet
      apply hmem
      simp only [answer, hd, deliver_silent restart _ hstops hserver]
      exact hbefore

theorem lit_createDisplay (hlisted : Listed m none) (h : m.AttendedBut none)
    (new : NewDisplay) : (m.createDisplay new).1.Lit :=
  ⟨List.append_ne_nil_of_right_ne_nil _ (List.cons_ne_nil _ _),
    h.createDisplay hlisted new⟩

theorem answer_lit_iff (hlisted : Listed m none) (h : m.Lit) {e : SeatEvent}
    (he : m.Enabled e) :
    ((m.answer e).1.exiting = false → (m.answer e).1.Lit) ↔ m.KeepsLit e := by
  cases e with
  | firstLoginElsewhere =>
      exact iff_of_true (fun _ => ⟨h.listed, h.attended⟩) trivial
  | switchToGreeter sessions new =>
      refine iff_of_true (fun _ => ?_) trivial
      unfold Seat.answer switchToGreeter
      simp only
      split
      · exact h
      · exact lit_createDisplay hlisted h.attended new
  | display i e restart =>
      obtain ⟨hexiting, d, hd, hen⟩ := he
      exact display_lit_iff hlisted h hd hen hexiting restart

theorem lit_create (name : QString) (lock : Bool) (new : NewDisplay) :
    (create name lock new).Lit :=
  lit_createDisplay ⟨List.nodup_nil, fun _ hj => absurd hj List.not_mem_nil,
    fun _ hj => absurd hj List.not_mem_nil,
    fun _ hd => absurd hd List.not_mem_nil⟩
    (fun _ hj => absurd hj List.not_mem_nil) new

/-- At every moment of the run, until the daemon exits, the seat is lit. -/
def LitThroughout (m : Seat) (es : List SeatEvent) : Prop :=
  ∀ pre post, es = pre ++ post → (seatMachine.exec m pre).exiting = false →
    (seatMachine.exec m pre).Lit

end Seat

open Seat in
/-- Throughout a run the seat has a display, and every display has a greeter,
a call that starts one or somebody logging in or logged in, if and only if no
event of the run takes the last of these from a display and leaves it up. -/
theorem runs_lit_iff (name : QString) (lock : Bool) (new : NewDisplay)
    {es : List SeatEvent} (hrun : seatMachine.Runs (create name lock new) es) :
    LitThroughout (create name lock new) es ↔
      seatMachine.Guarded KeepsLit (create name lock new) es := by
  constructor
  · intro hlit st hst
    have hlisted := listed_steps name lock new hrun st hst
    have henabled := hrun st hst
    obtain ⟨pre, e, post, hes, rfl⟩ :=
      (seatMachine.mem_steps_iff _ _ _).1 hst
    have hexiting : (seatMachine.exec (create name lock new) pre).exiting =
        false := by
      cases e with
      | display i e restart => exact henabled.1
      | _ => exact henabled
    refine (answer_lit_iff hlisted (hlit pre (e :: post) hes hexiting)
      henabled).1 fun hexit => ?_
    have hafter := hlit (pre ++ [e]) post (by rw [hes, List.append_cons])
    rw [Machine.exec_concat] at hafter
    exact hafter hexit
  · intro hguard pre post hes
    subst hes
    rw [Machine.Runs, Machine.guarded_append] at hrun
    rw [Machine.guarded_append] at hguard
    refine (seatMachine.exec_invariant
      (I := fun m => Listed m none ∧ (m.exiting = false → m.Lit))
      (G := fun m e => m.Enabled e ∧ m.KeepsLit e) ?_
      ⟨listed_create name lock new, fun _ => lit_create name lock new⟩
      (fun st hst => ⟨hrun.1 st hst, hguard.1 st hst⟩)).2
    intro m e h he
    have hexiting : m.exiting = false := by
      cases e with
      | display i e restart => exact he.1.1
      | _ => exact he.1
    exact ⟨h.1.answer he.1, (answer_lit_iff h.1 (h.2 hexiting) he.1).2 he.2⟩

/-- A greeter is shown, its process ends by a failure, and the seat shows
another one. -/
def Seat.greeterFails : List SeatEvent :=
  [.display 0 (.displayServerStarted {}) ⟨none, Seat.plainDisplay⟩,
    .display 0 (.greeterFrame (.sessionStatus true)) ⟨none, Seat.plainDisplay⟩,
    .display 0 (.greeterFinished ⟨2, .normalExit, []⟩ [])
      ⟨none, Seat.plainDisplay⟩]

open Seat in
theorem runs_lit_iff_failure :
    LitThroughout (create "seat0" false plainDisplay) greeterFails :=
  (runs_lit_iff "seat0" false plainDisplay (by decide)).2 (by decide)

end PlasmaLogin

/-
How often an event makes a display say that it has stopped.  A stop waits for
the two helpers, and what they report on their way out can call the same stop
again before it has reset the flag it looks at.
-/
import PlasmaLogin.AutologinFlag
import PlasmaLogin.GreeterEnd
import PlasmaLogin.LoginAnswers

namespace PlasmaLogin

open Mealy

/-- `Display::stopped`. -/
def DisplayEffect.isStopped : DisplayEffect → Bool
  | .stopped => true
  | _ => false

/-- How often a slot says that the display has stopped. -/
def stops (effects : List DisplayEffect) : Nat :=
  effects.countP DisplayEffect.isStopped

@[simp] theorem stops_nil : stops [] = 0 := rfl

@[simp] theorem stops_append (first rest : List DisplayEffect) :
    stops (first ++ rest) = stops first + stops rest :=
  List.countP_append

theorem stops_eq_zero {effects : List DisplayEffect}
    (h : ∀ x ∈ effects, x.isStopped = false) : stops effects = 0 :=
  List.countP_eq_zero.2 fun x hx => by simp [h x hx]

/-- Effects of another kind stop nothing. -/
theorem stops_eq_zero_of_kinds {effects : List DisplayEffect}
    (h : ∀ x ∈ effects, x.kind ≠ .closing) : stops effects = 0 := by
  refine stops_eq_zero fun x hx => ?_
  have hkind := h x hx
  cases x <;> simp_all [DisplayEffect.kind, DisplayEffect.isStopped]

namespace Display

/-- The status the greeter's helper ends with while a stop waits for it. -/
def greeterEnds (w : StopWaits) (d : Display) : Option HelperExitStatus :=
  if d.greeter.waits then w.greeter.map Auth.exitStatusOf else none

/-- The status the login's helper ends with while a stop waits for it. -/
def helperEnds (w : StopWaits) (d : Display) : Option HelperExitStatus :=
  if d.auth.isActive then w.helper.map Auth.exitStatusOf else none

/-- What ends during a stop does not stop the display again; a display server
that fails takes the display off the seat with its signals blocked. -/
def QuietWait (w : StopWaits) (d : Display) : Prop :=
  d.greeterEnds w = some .displayServerError ∨
    d.greeterEnds w ≠ some .ttyError ∧ d.greeterEnds w ≠ some .sessionError ∧
      (d.helperEnds w = none ∨ d.helperEnds w = some .authError)

instance (w : StopWaits) (d : Display) : Decidable (d.QuietWait w) :=
  inferInstanceAs (Decidable (_ ∨ _ ∧ _ ∧ (_ ∨ _)))

/-- The display after the end of the greeter's helper. -/
def withoutGreeter (d : Display) : Display :=
  { d with greeter := { d.greeter with started := false, auth := none } }

/-- The display after the end of the login's helper. -/
def withoutHelper (d : Display) : Display :=
  { d with auth := { d.auth with child := .notRunning } }

theorem slotAuthError_internal_stops (message : QString) (d : Display) :
    stops (d.slotAuthError message .internal) = 0 := by
  refine stops_eq_zero_of_kinds fun x hx => ?_
  rcases slotAuthError_kinds message .internal d x hx with hkind | ⟨herror, _⟩
  · rw [hkind]
    decide
  · cases herror

theorem stop_of_not_started (waits : List StopWaits) {d : Display}
    (h : d.started = false) : stop waits d = (d, []) := by
  cases waits <;> simp [stop, h]

/-- A blocked display stops silently. -/
theorem stops_removeDisplay (stop : Display → Display × List DisplayEffect)
    (d : Display) : stops (removeDisplay stop d).2 = 0 := by
  refine stops_eq_zero fun x hx => ?_
  have hsignal := (List.mem_filter.1 hx).2
  cases x <;> simp_all [DisplayEffect.isSignal, DisplayEffect.isStopped]

theorem childExited_eq (stop : Display → Display × List DisplayEffect)
    (report : ExitReport) (d : Display) :
    childExited stop report d = andThen (d.withoutHelper,
      if report.exitStatus = .normalExit then []
      else d.withoutHelper.childError report.errorString ++
        d.withoutHelper.slotAuthError report.errorString .internal)
      (slotHelperFinished stop (Auth.exitStatusOf report)) := rfl

theorem stops_childExited (waits : List StopWaits) (report : ExitReport)
    (d : Display) :
    stops (childExited (stop waits) report d).2 =
      if Auth.exitStatusOf report = .authError then 0
      else stops (stop waits d.withoutHelper).2 := by
  have herrors : stops (if report.exitStatus = .normalExit then []
      else d.withoutHelper.childError report.errorString ++
        d.withoutHelper.slotAuthError report.errorString .internal) = 0 := by
    split
    · rfl
    · rw [stops_append]
      exact congrArg₂ (· + ·) (slotAuthError_internal_stops _ _)
        (slotAuthError_internal_stops _ _)
  rw [childExited_eq, andThen_snd, stops_append, herrors, Nat.zero_add]
  unfold slotHelperFinished
  by_cases h : Auth.exitStatusOf report = .authError
  · rw [if_neg (not_not_intro h), if_pos h, stops_nil]
  · rw [if_pos h, if_neg h]

theorem stops_greeterExited (waits : List StopWaits) (report : ExitReport)
    (d : Display) :
    stops (greeterExited (stop waits) report d).2 =
      if Auth.exitStatusOf report ∈ [HelperExitStatus.ttyError, .sessionError]
      then stops (stop waits d.withoutGreeter).2 else 0 := by
  simp only [greeterExited, Greeter.onHelperFinished]
  by_cases hserver : Auth.exitStatusOf report = .displayServerError
  · rw [if_pos hserver, if_neg (by rw [hserver]; decide)]
    change stops ([.displayServerFailed] ++ _) = 0
    rw [stops_append, stops_removeDisplay]
    rfl
  · by_cases htty : Auth.exitStatusOf report = .ttyError
    · rw [if_neg hserver, if_pos htty, if_pos (by rw [htty]; decide)]
      change stops ([.ttyFailure, .jumpToVt initialVt] ++ _) = _
      rw [stops_append]
      exact Nat.zero_add _
    · by_cases hsession : Auth.exitStatusOf report = .sessionError
      · rw [if_neg hserver, if_neg htty, if_pos hsession,
          if_pos (by rw [hsession]; decide)]
        rfl
      · rw [if_neg hserver, if_neg htty, if_neg hsession,
          if_neg (by simp [htty, hsession])]
        rfl

theorem stops_stop_cons (w : StopWaits) (rest : List StopWaits) {d : Display}
    (h : d.started = true) :
    stops (stop (w :: rest) d).2 =
      stops (stopGreeter (stop rest) w.greeter d).2 +
        stops (stopHelper (stop rest) w.helper
          (stopGreeter (stop rest) w.greeter d).1).2 + 1 := by
  simp only [stop, h, ↓reduceIte, andThen_fst, andThen_snd, stops_append]
  rfl

/-- A display that is up says that it has stopped. -/
theorem stops_stop_pos (waits : List StopWaits) {d : Display}
    (h : d.started = true) : 0 < stops (stop waits d).2 := by
  cases waits with
  | nil =>
      simp only [stop, h, ↓reduceIte]
      exact Nat.one_pos
  | cons w rest =>
      rw [stops_stop_cons w rest h]
      exact Nat.succ_pos _

theorem stops_stopGreeter (w : StopWaits) (rest : List StopWaits)
    (d : Display) :
    stops (stopGreeter (stop rest) w.greeter d).2 =
      if d.greeterEnds w = some .ttyError ∨ d.greeterEnds w = some .sessionError
      then stops (stop rest d.withoutGreeter).2 else 0 := by
  unfold stopGreeter greeterEnds
  cases hwaits : d.greeter.waits with
  | false => rfl
  | true =>
      cases w.greeter with
      | none => rfl
      | some report =>
          simp only [stops_greeterExited, List.mem_cons, List.not_mem_nil,
            or_false, ↓reduceIte, Option.map_some, Option.some.injEq]

theorem stops_stopHelper (w : StopWaits) (rest : List StopWaits)
    (d : Display) :
    stops (stopHelper (stop rest) w.helper d).2 =
      if d.helperEnds w = none ∨ d.helperEnds w = some .authError then 0
      else stops (stop rest d.withoutHelper).2 := by
  unfold stopHelper helperEnds
  cases hactive : d.auth.isActive with
  | false => simp
  | true =>
      cases w.helper with
      | none => simp
      | some report =>
          simp only [stops_childExited, ↓reduceIte, Option.map_some,
            reduceCtorEq, Option.some.injEq, false_or]

/-- A greeter that ends without a failure leaves the display to the rest of
the stop. -/
theorem stopGreeter_started (w : StopWaits) (rest : List StopWaits)
    (d : Display) :
    (stopGreeter (stop rest) w.greeter d).1.started =
      (d.started && decide (∀ status ∈ d.greeterEnds w,
        status ∉ Greeter.failures)) := by
  unfold stopGreeter greeterEnds
  cases hwaits : d.greeter.waits with
  | false => simp
  | true =>
      cases w.greeter with
      | none => simp
      | some report => simp [greeterExited_started]

theorem stopGreeter_auth {w : StopWaits} {rest : List StopWaits} {d : Display}
    (h : (stopGreeter (stop rest) w.greeter d).1.started = true) :
    (stopGreeter (stop rest) w.greeter d).1.auth = d.auth := by
  revert h
  unfold stopGreeter
  split
  · exact greeterExited_of_started
  · exact fun _ => rfl

/-- Only an end that is a failure takes the display down. -/
theorem stopGreeter_started_of_ne (w : StopWaits) (rest : List StopWaits)
    {d : Display} (h : d.started = true)
    (hserver : d.greeterEnds w ≠ some .displayServerError)
    (hfailed : ¬(d.greeterEnds w = some .ttyError ∨
      d.greeterEnds w = some .sessionError)) :
    (stopGreeter (stop rest) w.greeter d).1.started = true := by
  rw [stopGreeter_started, h, Bool.true_and, decide_eq_true_eq]
  intro status hstatus
  simp only [Greeter.failures, List.mem_cons, List.not_mem_nil, or_false]
  rw [Option.mem_def] at hstatus
  rw [hstatus, ne_eq, Option.some.injEq] at hserver
  simp only [hstatus, Option.some.injEq] at hfailed
  exact not_or.2 ⟨hserver, hfailed⟩

/-- A stop stops once exactly when nothing that ends during its first wait
stops the display again. -/
theorem stops_stop_eq_one_iff (waits : List StopWaits) {d : Display}
    (h : d.started = true) :
    stops (stop waits d).2 = 1 ↔ ∀ w ∈ waits.head?, d.QuietWait w := by
  cases waits with
  | nil => simp [stop, h, closeDown, stops, DisplayEffect.isStopped]
  | cons w rest =>
      rw [stops_stop_cons w rest h, Nat.add_eq_right, Nat.add_eq_zero_iff]
      simp only [List.head?_cons, Option.mem_some_iff, forall_eq',
        stops_stopGreeter, stops_stopHelper]
      by_cases hserver : d.greeterEnds w = some .displayServerError
      · -- the display is down before the stop waits for the other helper
        have hdown : (stopGreeter (stop rest) w.greeter d).1.withoutHelper.started
            = false := by
          have hgreeter := stopGreeter_started w rest d
          rw [h, Bool.true_and, hserver] at hgreeter
          exact hgreeter
        rw [stop_of_not_started rest hdown, hserver]
        simp only [stops_nil, ite_self]
        exact ⟨fun _ => Or.inl hserver, fun _ => ⟨if_neg (by decide), trivial⟩⟩
      by_cases hfailed : d.greeterEnds w = some .ttyError ∨
          d.greeterEnds w = some .sessionError
      · have hnested : stops (stop rest d.withoutGreeter).2 ≠ 0 :=
          Nat.ne_of_gt (stops_stop_pos rest h)
        rw [if_pos hfailed]
        refine ⟨fun hzero => absurd hzero.1 hnested, ?_⟩
        rintro (hquiet | ⟨htty, hsession, _⟩)
        · exact absurd hquiet hserver
        · exact absurd hfailed (not_or.2 ⟨htty, hsession⟩)
      · have hup := stopGreeter_started_of_ne w rest h hserver hfailed
        have hends : (stopGreeter (stop rest) w.greeter d).1.helperEnds w =
            d.helperEnds w := by
          unfold helperEnds
          rw [stopGreeter_auth hup]
        have hnested : stops (stop rest (stopGreeter (stop rest) w.greeter
            d).1.withoutHelper).2 ≠ 0 :=
          Nat.ne_of_gt (stops_stop_pos rest hup)
        rw [if_neg hfailed, hends, QuietWait]
        rw [not_or] at hfailed
        simp only [true_and, ite_eq_left_iff, hnested, imp_false, not_not,
          hserver, hfailed, false_or, ne_eq, not_false_eq_true]

/-- The stop that the end of the greeter's helper calls. -/
def greeterStopCall (report : ExitReport) (waits : List StopWaits)
    (d : Display) : Option (Display × List StopWaits) :=
  if Auth.exitStatusOf report ∈ [HelperExitStatus.ttyError, .sessionError]
  then some (d.withoutGreeter, waits) else none

/-- The call of `Display::stop` an event leads to, if its signals get out. -/
def stopCall (d : Display) : DisplayEvent → Option (Display × List StopWaits)
  | .helperFinished report waits =>
      if Auth.exitStatusOf report = .authError then none
      else some (d.withoutHelper, waits)
  | .greeterFinished report waits => greeterStopCall report waits d
  | .greeterStop (some report) waits =>
      if d.greeter.waits then greeterStopCall report waits
        { d with greeterStopsOwed := d.greeterStopsOwed - 1 }
      else none
  | .stop waits => some (d, waits)
  | _ => none

/-- The event stops the display once at most. -/
def StopsOnce (d : Display) (e : DisplayEvent) : Prop :=
  ∀ call ∈ d.stopCall e, call.1.started = true →
    ∀ w ∈ call.2.head?, call.1.QuietWait w

instance (d : Display) (e : DisplayEvent) : Decidable (d.StopsOnce e) :=
  inferInstanceAs (Decidable (∀ call ∈ d.stopCall e, _))

theorem stops_greeterExited_call (waits : List StopWaits) (report : ExitReport)
    (d : Display) :
    stops (greeterExited (stop waits) report d).2 =
      (greeterStopCall report waits d).elim 0
        fun call => stops (stop call.2 call.1).2 := by
  rw [stops_greeterExited, greeterStopCall]
  split <;> rfl

/-- An event says as often that the display has stopped as its stop does. -/
theorem stops_answer (d : Display) (e : DisplayEvent) :
    stops (d.answer e).2 =
      (d.stopCall e).elim 0 fun call => stops (stop call.2 call.1).2 := by
  cases e with
  | helperFinished report waits =>
      rw [answer, stops_childExited, stopCall]
      split <;> rfl
  | greeterFinished report waits => exact stops_greeterExited_call waits report d
  | greeterStop report waits =>
      cases report with
      | none =>
          simp only [answer, stopGreeter]
          cases d.greeter.waits <;> rfl
      | some report =>
          simp only [answer, stopGreeter, stopCall]
          cases d.greeter.waits with
          | false => rfl
          | true => exact stops_greeterExited_call waits report _
  | stop waits => rfl
  | helperFrame frame =>
      refine stops_eq_zero_of_kinds fun x hx hkind => ?_
      have hkinds := d.answer_kinds _ x hx
      rw [hkind] at hkinds
      unfold DisplayEvent.kinds at hkinds
      split at hkinds <;> simp_all
  | _ =>
      refine stops_eq_zero_of_kinds fun x hx hkind => ?_
      have hkinds := d.answer_kinds _ x hx
      rw [hkind] at hkinds
      simp [DisplayEvent.kinds] at hkinds

theorem started_of_stopCall {d : Display} {e : DisplayEvent}
    {call : Display × List StopWaits} (h : call ∈ d.stopCall e) :
    call.1.started = d.started := by
  unfold stopCall greeterStopCall at h
  rw [Option.mem_def] at h
  split at h
  · split at h
    · cases h
    · cases h
      rfl
  · split at h
    · cases h
      rfl
    · cases h
  · split at h
    · split at h
      · cases h
        rfl
      · cases h
    · cases h
  · cases h
    rfl
  · cases h

theorem stops_answer_le_one_iff (d : Display) (e : DisplayEvent) :
    stops (d.answer e).2 ≤ 1 ↔ d.StopsOnce e := by
  rw [stops_answer, StopsOnce]
  cases d.stopCall e with
  | none => simp
  | some call =>
      simp only [Option.elim_some, Option.mem_some_iff, forall_eq']
      cases hup : call.1.started with
      | false => simp [stop_of_not_started call.2 hup]
      | true =>
          have hpos := stops_stop_pos call.2 hup
          rw [← stops_stop_eq_one_iff call.2 hup]
          simp only [true_imp_iff]
          omega

/-- Nothing stops twice in a row. -/
theorem stops_answer_of_not_started {d : Display} (h : d.started = false)
    (e : DisplayEvent) : stops (d.answer e).2 = 0 := by
  rw [stops_answer]
  cases hcall : d.stopCall e with
  | none => rfl
  | some call =>
      have hdown : call.1.started = false :=
        (started_of_stopCall hcall).trans h
      rw [Option.elim_some, stop_of_not_started call.2 hdown, stops_nil]

theorem greeterExited_started_of_stops {report : ExitReport}
    {waits : List StopWaits} {d : Display}
    (h : stops (greeterExited (stop waits) report d).2 ≠ 0) :
    (greeterExited (stop waits) report d).1.started = false := by
  rw [stops_greeterExited, ite_ne_right_iff] at h
  have hfailure : Auth.exitStatusOf report ∈ Greeter.failures :=
    List.mem_cons_of_mem _ h.1
  rw [greeterExited_started, decide_eq_false (not_not_intro hfailure),
    Bool.and_false]

/-- A display that says it has stopped is down. -/
theorem answer_started_of_stops {d : Display} {e : DisplayEvent}
    (h : stops (d.answer e).2 ≠ 0) : (d.answer e).1.started = false := by
  cases e with
  | helperFinished report waits =>
      rw [answer, stops_childExited, ite_ne_left_iff] at h
      rw [answer, childExited_started, decide_eq_false h.1, Bool.and_false]
  | greeterFinished report waits => exact greeterExited_started_of_stops h
  | greeterStop report waits =>
      revert h
      simp only [answer, stopGreeter]
      split
      · exact greeterExited_started_of_stops
      · exact fun h => absurd rfl h
  | stop waits => exact stop_started waits d
  | _ => exact absurd (stops_answer d _) h

theorem stops_greeterExited_of_down {report : ExitReport}
    {waits : List StopWaits} {d : Display} (hup : d.started = true)
    (hdown : (greeterExited (stop waits) report d).1.started = false) :
    stops (greeterExited (stop waits) report d).2 ≠ 0 ∨
      DisplayEffect.displayServerFailed ∈
        (greeterExited (stop waits) report d).2 := by
  rw [greeterExited_started, hup, Bool.true_and, decide_eq_false_iff_not,
    not_not] at hdown
  rcases List.mem_cons.1 hdown with hserver | hfailed
  · right
    simp only [greeterExited, Greeter.onHelperFinished, if_pos hserver]
    exact List.mem_append_left _ List.mem_cons_self
  · left
    rw [stops_greeterExited, if_pos hfailed]
    exact Nat.ne_of_gt (stops_stop_pos waits hup)

/-- A display goes down with a word, unless its display server failed. -/
theorem stops_of_answer_started {d : Display} {e : DisplayEvent}
    (hup : d.started = true) (hdown : (d.answer e).1.started = false) :
    stops (d.answer e).2 ≠ 0 ∨
      DisplayEffect.displayServerFailed ∈ (d.answer e).2 := by
  cases e with
  | start ctx =>
      revert hdown
      unfold answer start
      simp [hup]
  | displayServerStarted ctx =>
      obtain ⟨_, hframe⟩ := d.answer_displayServerStarted_frame ctx
      rw [hframe] at hdown
      exact absurd (hup.symm.trans hdown) (by decide)
  | login ctx s user password session =>
      rw [(answer_login ctx s user password session d).1, hup] at hdown
      cases hdown
  | helperFrame frame =>
      rw [answer, (dataPending_started_child frame d).1, hup] at hdown
      cases hdown
  | helperFinished report waits =>
      rw [answer, childExited_started, hup, Bool.true_and,
        decide_eq_false_iff_not] at hdown
      rw [answer, stops_childExited, if_neg hdown]
      exact Or.inl (Nat.ne_of_gt (stops_stop_pos waits hup))
  | greeterFrame frame =>
      cases frame <;> exact absurd (hup.symm.trans hdown) (by decide)
  | greeterFinished report waits =>
      exact stops_greeterExited_of_down hup hdown
  | greeterStop report waits =>
      revert hdown
      simp only [answer, stopGreeter]
      split
      · exact stops_greeterExited_of_down hup
      · exact fun hdown => absurd (hup.symm.trans hdown) (by decide)
  | stop waits => exact Or.inl (Nat.ne_of_gt (stops_stop_pos waits hup))
  | newConnection s => exact absurd (hup.symm.trans hdown) (by decide)
  | connectionClosed s => exact absurd (hup.symm.trans hdown) (by decide)
  | helperError failed text => exact absurd (hup.symm.trans hdown) (by decide)
  | greeterError failed => exact absurd (hup.symm.trans hdown) (by decide)

/-- Only its start brings a display up. -/
theorem started_of_answer {d : Display} {e : DisplayEvent}
    (he : ∀ ctx, e ≠ .start ctx) (hup : (d.answer e).1.started = true) :
    d.started = true := by
  cases htouches : touchesHelper e with
  | false => exact (answer_of_started htouches hup).1
  | true =>
      cases e with
      | start ctx => exact absurd rfl (he ctx)
      | login ctx s user password session =>
          exact (answer_login ctx s user password session d).1 ▸ hup
      | helperError failed text => exact hup
      | helperFinished report waits =>
          exact (d.closes_answer rfl).state.started hup
      | _ => simp [touchesHelper] at htouches

/-- Only the start itself settles that one is owed. -/
theorem answer_startOwed_eq {d : Display} {e : DisplayEvent}
    (he : ∀ ctx, e ≠ .start ctx) :
    (d.answer e).1.startOwed = d.startOwed := by
  cases hbrings : bringsUp e with
  | false => exact (answer_settles d hbrings).startOwed
  | true =>
      cases e with
      | start ctx => exact absurd rfl (he ctx)
      | displayServerStarted ctx =>
          obtain ⟨_, hframe⟩ := d.answer_displayServerStarted_frame ctx
          rw [hframe]
      | newConnection s => rfl
      | _ => simp [bringsUp] at hbrings

/-- A display whose start is not owed any more has been started. -/
theorem answer_startOwed {d : Display} (h : d.startOwed = false)
    (e : DisplayEvent) (he : d.Enabled e) :
    (d.answer e).1.startOwed = false ∧
      ((d.answer e).1.started = true → d.started = true) := by
  have hother : ∀ ctx, e ≠ .start ctx := by
    rintro ctx rfl
    exact absurd (h.symm.trans he) (by decide)
  exact ⟨(answer_startOwed_eq hother).trans h, started_of_answer hother⟩

end Display

end PlasmaLogin

/-
The displays of a seat that nobody is logging in or logged in on.  A seat
asks logind, not its own list, whether there is a greeter to switch to.
-/
import PlasmaLogin.Seat

namespace PlasmaLogin

open Mealy

namespace Display

/-- The display's helper ends, and the display stays up. -/
def losesHelper : DisplayEvent → Bool
  | .helperFinished report _ => Auth.exitStatusOf report = .authError
  | .helperError failedToStart _ => failedToStart
  | _ => false

theorem answer_losesHelper {e : DisplayEvent} (h : losesHelper e = true)
    (d : Display) :
    (d.answer e).1 = d.withoutHelper ∧ stops (d.answer e).2 = 0 ∧
      DisplayEffect.displayServerFailed ∉ (d.answer e).2 := by
  cases e with
  | helperFinished report waits =>
      rw [losesHelper, decide_eq_true_eq] at h
      have hnormal : report.exitStatus = .normalExit := by
        by_contra hcrash
        rw [Auth.exitStatusOf, if_pos hcrash] at h
        exact absurd h (by decide)
      have hanswer : d.answer (.helperFinished report waits) =
          (d.withoutHelper, []) := by
        simp only [answer, childExited_eq, hnormal, andThen,
          slotHelperFinished, h, ne_eq, not_true_eq_false, ↓reduceIte,
          List.append_nil]
      rw [hanswer]
      exact ⟨rfl, rfl, List.not_mem_nil⟩
  | helperError failed text =>
      rw [losesHelper] at h
      subst h
      refine ⟨rfl, slotAuthError_internal_stops text d.withoutHelper, ?_⟩
      intro hmem
      have hkind := d.answer_kinds _ _ hmem
      simp [DisplayEffect.kind, DisplayEvent.kinds] at hkind
  | _ => simp [losesHelper] at h

/-- There is no other way to lose the helper and stay up. -/
theorem losesHelper_of_answer {d : Display} {e : DisplayEvent}
    (howed : d.startOwed = false) (he : d.Enabled e)
    (hactive : d.auth.isActive = true)
    (hup : (d.answer e).1.started = true)
    (hidle : (d.answer e).1.auth.isActive = false) : losesHelper e = true := by
  cases htouches : touchesHelper e with
  | false =>
      have hchild := (answer_of_started htouches hup).2
      have hsame : (d.answer e).1.auth.isActive = d.auth.isActive := by
        unfold Auth.isActive
        rw [hchild]
      rw [hsame, hactive] at hidle
      cases hidle
  | true =>
      cases e with
      | start ctx => exact absurd (howed.symm.trans he) (by decide)
      | login ctx s user password session =>
          have hstays := (answer_login ctx s user password session d).2.2
            (Or.inl hactive)
          rw [hstays] at hidle
          cases hidle
      | helperError failed text =>
          cases failed with
          | true => rfl
          | false => exact absurd (hactive.symm.trans hidle) (by decide)
      | helperFinished report waits =>
          rw [answer, childExited_started, Bool.and_eq_true] at hup
          exact hup.2
      | _ => simp [touchesHelper] at htouches

end Display

namespace Seat

/-- Nobody is logging in or logged in on the display `j`. -/
def isIdle (m : Seat) (j : Nat) : Bool :=
  (m.displays[j]?).any fun d => !d.auth.isActive

/-- The listed displays without a session, active or starting. -/
def idleDisplays (m : Seat) : List Nat := m.listed.filter m.isIdle

/-- The new display logs in by itself. -/
def LogsIn (new : NewDisplay) (m : Seat) : Prop :=
  (Display.construct new.construction
    m.firstloginLock).1.autologinSession.startable = true

instance (new : NewDisplay) (m : Seat) : Decidable (m.LogsIn new) :=
  inferInstanceAs (Decidable (_ = true))

/-- The event leaves at most one idle display if there was at most one. -/
def KeepsOneIdle (m : Seat) : SeatEvent → Prop
  | .firstLoginElsewhere => True
  | .switchToGreeter sessions new =>
      SeatManager.greeterSession m.name sessions = none →
        m.idleDisplays = [] ∨ m.LogsIn new
  | .display i e _ =>
      i ∈ m.listed → Display.losesHelper e = true → m.idleDisplays = []

instance (m : Seat) (e : SeatEvent) : Decidable (m.KeepsOneIdle e) :=
  match e with
  | .firstLoginElsewhere => isTrue trivial
  | .switchToGreeter _ _ => inferInstanceAs (Decidable (_ = none → _ ∨ _))
  | .display _ _ _ => inferInstanceAs (Decidable (_ ∈ _ → _ = true → _ = []))

theorem newDisplay_isActive (new : NewDisplay) (m : Seat) :
    (m.newDisplay new).auth.isActive = true ↔ m.LogsIn new := by
  have hstart : ∀ d : Display, d.auth.isActive = false → d.started = false →
      ((d.answer (.start new.ctx)).1.auth.isActive = true ↔
        d.autologinSession.startable = true) := by
    intro d hidle hfresh
    cases haccepted : d.acceptedAttempt (.start new.ctx) with
    | some t =>
        obtain ⟨hattempt, hready⟩ :=
          Display.acceptedAttempt_eq_some_iff.1 haccepted
        simp only [Display.attemptOf, Option.ite_none_left_eq_some] at hattempt
        obtain ⟨_, heq⟩ := hattempt
        cases heq
        rw [Display.answer_of_accepted haccepted]
        simp only [Auth.start_isActive, true_iff]
        simpa [hidle] using hready
    | none =>
        have hrefused : d.autologinSession.startable = false := by
          cases hvalid : d.autologinSession.isValid with
          | false => simp [Session.startable, hvalid]
          | true =>
              simpa [Display.acceptedAttempt, Display.attemptOf, hvalid,
                hfresh, hidle] using haccepted
        have hstays : (d.answer (.start new.ctx)).1.auth.isActive = false := by
          unfold Display.answer Display.start
          simp only [hfresh, Bool.false_eq_true, ↓reduceIte]
          split
          · have hnot : ∀ d' : Display, (!d'.auth.isActive &&
                d.autologinSession.startable) = false := by
              intro d'
              rw [hrefused, Bool.and_false]
            obtain ⟨phrase, hrefuse⟩ := Display.startAuth_refused new.ctx
              new.ctx.autologinUser [] (hnot { d with
                startOwed := false, started := true,
                auth := d.auth.setAutologin true })
            rw [hrefuse]
            exact hidle
          · exact hidle
        rw [hstays, hrefused]
  exact hstart _ rfl rfl

/-- Without the display `i` there is one idle display less, if it is one. -/
theorem idleDisplays_length {m : Seat} (h : m.listed.Nodup) (i : Nat) :
    m.idleDisplays.length = (m.removeDisplay i).idleDisplays.length +
      if i ∈ m.idleDisplays then 1 else 0 := by
  have hnodup : m.idleDisplays.Nodup := h.filter _
  have hothers : (m.removeDisplay i).idleDisplays = m.idleDisplays.erase i := by
    rw [hnodup.erase_eq_filter]
    unfold idleDisplays removeDisplay
    simp only [List.filter_filter]
    refine List.filter_congr fun j _ => ?_
    rw [Bool.and_comm, bne, decide_not]
    rfl
  rw [hothers]
  split
  next hmem =>
    rw [List.length_erase_of_mem hmem]
    exact (Nat.sub_add_cancel (List.length_pos_of_mem hmem)).symm
  next hmem => rw [List.erase_of_not_mem hmem, Nat.add_zero]

theorem isIdle_of_grown {m m' : Seat} (h : m.displays <+: m'.displays)
    {j : Nat} (hj : j < m.displays.length) : m'.isIdle j = m.isIdle j := by
  have hd : m.displays[j]? = some m.displays[j] :=
    List.getElem?_eq_getElem hj
  rw [isIdle, isIdle, getElem?_of_grown h hd, hd]

theorem isIdle_setDisplay_self {m : Seat} {i : Nat}
    (hi : i < m.displays.length) (d : Display) :
    (m.setDisplay i d).isIdle i = !d.auth.isActive := by
  unfold isIdle setDisplay
  rw [List.getElem?_set_self hi]
  rfl

theorem isIdle_setDisplay_ne {m : Seat} {i j : Nat} (h : i ≠ j)
    (d : Display) : (m.setDisplay i d).isIdle j = m.isIdle j := by
  unfold isIdle setDisplay
  rw [List.getElem?_set_ne h]

/-- The idle displays of the same list with some displays more. -/
theorem idleDisplays_of_grown {m m' : Seat} {k : Option Nat}
    (h : Listed m k) (hlisted : m'.listed = m.listed)
    (hgrown : m.displays <+: m'.displays) :
    m'.idleDisplays = m.idleDisplays := by
  unfold idleDisplays
  rw [hlisted]
  exact List.filter_congr fun j hj => isIdle_of_grown hgrown (h.bound j hj)

/-- A new display adds itself unless it logs in by itself. -/
theorem createDisplay_idleDisplays {m : Seat} {k : Option Nat}
    (h : Listed m k) (new : NewDisplay) :
    (m.createDisplay new).1.idleDisplays = m.idleDisplays ++
      if m.LogsIn new then [] else [m.displays.length] := by
  have hgrown : m.displays <+: (m.createDisplay new).1.displays :=
    List.prefix_append _ _
  have hold : m.listed.filter (m.createDisplay new).1.isIdle =
      m.idleDisplays :=
    List.filter_congr fun j hj => isIdle_of_grown hgrown (h.bound j hj)
  have hnew : (m.createDisplay new).1.isIdle m.displays.length =
      !(m.newDisplay new).auth.isActive := by
    change ((m.displays ++ [m.newDisplay new])[m.displays.length]?).any _ = _
    rw [List.getElem?_concat_length]
    rfl
  change (m.listed ++ [m.displays.length]).filter
    (m.createDisplay new).1.isIdle = _
  rw [List.filter_append, hold, List.filter_singleton, hnew]
  by_cases hlogs : m.LogsIn new
  · rw [(newDisplay_isActive new m).2 hlogs, if_pos hlogs]
    rfl
  · have hidle := mt (newDisplay_isActive new m).1 hlogs
    rw [Bool.not_eq_true] at hidle
    rw [hidle, if_neg hlogs]
    rfl

/-- Answering a display adds an idle display only where none is listed. -/
theorem deliver_others {i : Nat} (restart : Restart) {m : Seat}
    {k : Option Nat} (h : Listed m k) (hi : i < m.displays.length)
    (hone : (m.removeDisplay i).idleDisplays.length ≤ 1)
    (xs : List DisplayEffect) :
    ((deliver i restart xs m).1.removeDisplay i).idleDisplays.length ≤ 1 := by
  induction xs generalizing m with
  | nil => exact hone
  | cons x xs ih =>
      refine ih (h.react i restart x) (Nat.lt_of_lt_of_le hi
        (react_displays i restart m x).length_le) ?_
      cases x with
      | stopped =>
          have hout := not_mem_displayStopped hi restart
          have hafter := h.displayStopped i restart
          have hcount := idleDisplays_length hafter.nodup i
          have hnot : i ∉ (m.displayStopped i restart).1.idleDisplays :=
            fun hmem => hout (List.mem_of_mem_filter hmem)
          rw [if_neg hnot, Nat.add_zero] at hcount
          change ((m.displayStopped i restart).1.removeDisplay
            i).idleDisplays.length ≤ 1
          rw [← hcount]
          unfold Seat.displayStopped
          simp only
          split
          next hempty =>
            have hnone : (m.removeDisplay i).idleDisplays = [] := by
              rw [idleDisplays, List.isEmpty_iff.1 hempty, List.filter_nil]
            rw [createDisplay_idleDisplays (h.removeDisplay i), hnone]
            split <;> simp
          · exact hone
      | displayServerFailed =>
          have hremoved : ((m.react i restart .displayServerFailed).1.removeDisplay
              i).listed = (m.removeDisplay i).listed := by
            change ((m.listed.filter _).filter _) = m.listed.filter _
            rw [List.filter_filter]
            simp only [Bool.and_self]
          rw [idleDisplays_of_grown (h.removeDisplay i) hremoved
            List.prefix_rfl]
          exact hone
      | _ => exact hone

theorem enabled_losesHelper {d : Display} {e : DisplayEvent}
    (he : d.Enabled e) (hloses : Display.losesHelper e = true) :
    d.auth.isActive = true := by
  cases e with
  | helperFinished report waits => exact he
  | helperError failed text => exact he
  | _ => simp [Display.losesHelper] at hloses

/-- A listed display that stays on the list has been left alone. -/
theorem mem_of_mem_deliver {m : Seat} (h : Listed m none) {i : Nat}
    {d : Display} (hd : m.displays[i]? = some d) (e : DisplayEvent)
    (restart : Restart)
    (hmem : i ∈ (m.answer (.display i e restart)).1.listed) :
    i ∈ m.listed ∧ (d.answer e).1.started = true ∧
      (m.answer (.display i e restart)).1 = m.setDisplay i (d.answer e).1 := by
  obtain ⟨hi, _⟩ := List.getElem?_eq_some_iff.1 hd
  simp only [answer, hd] at hmem ⊢
  have hsilent := mt (not_mem_deliver
    (Nat.lt_of_lt_of_eq hi List.length_set.symm) restart) (not_not_intro hmem)
  simp only [not_or, not_not] at hsilent
  obtain ⟨hlisted, hstops, hserver⟩ := hsilent
  refine ⟨hlisted, ?_, deliver_silent restart _ hstops hserver⟩
  obtain ⟨d', hd', hup⟩ := h.up i hlisted (by simp)
  rw [hd] at hd'
  cases hd'
  cases hdown : (d.answer e).1.started with
  | true => rfl
  | false =>
      rcases Display.stops_of_answer_started hup hdown with hs | hs
      · exact absurd hstops hs
      · exact absurd hs hserver

theorem removeDisplay_setDisplay_idleDisplays (m : Seat) (i : Nat)
    (d : Display) :
    ((m.setDisplay i d).removeDisplay i).idleDisplays =
      (m.removeDisplay i).idleDisplays := by
  refine List.filter_congr fun j hj => ?_
  have hne := ((mem_removeDisplay i j m).1 hj).2
  exact isIdle_setDisplay_ne hne.symm d

/-- A listed display is idle when its helper is not running. -/
theorem mem_idleDisplays_setDisplay {m : Seat} {i : Nat}
    (hi : i < m.displays.length) (d : Display) :
    i ∈ (m.setDisplay i d).idleDisplays ↔
      i ∈ m.listed ∧ d.auth.isActive = false := by
  rw [idleDisplays, List.mem_filter, isIdle_setDisplay_self hi,
    Bool.not_eq_true']
  rfl

theorem setDisplay_self {m : Seat} {i : Nat} {d : Display}
    (hd : m.displays[i]? = some d) : m.setDisplay i d = m := by
  obtain ⟨hi, rfl⟩ := List.getElem?_eq_some_iff.1 hd
  rw [setDisplay, List.set_getElem_self]

/-- A listed display that loses its helper becomes idle beside the others. -/
theorem display_idle_of_losesHelper {m : Seat} (h : Listed m none) {i : Nat}
    {d : Display} (hd : m.displays[i]? = some d) {e : DisplayEvent}
    (he : d.Enabled e) (restart : Restart) (hlisted : i ∈ m.listed)
    (hloses : Display.losesHelper e = true) :
    (m.answer (.display i e restart)).1.idleDisplays.length =
      m.idleDisplays.length + 1 := by
  obtain ⟨hi, _⟩ := List.getElem?_eq_some_iff.1 hd
  have howed := h.settled d (List.mem_of_getElem? hd)
  have hset := h.setDisplay (i := i) (Display.answer_startOwed howed e he).1
  have hself := mem_idleDisplays_setDisplay hi d
  rw [setDisplay_self hd] at hself
  obtain ⟨hd', hstops, hserver⟩ := Display.answer_losesHelper hloses d
  have hnot : i ∉ m.idleDisplays := by
    rw [hself, enabled_losesHelper he hloses]
    simp
  have hidle : i ∈ (m.setDisplay i (d.answer e).1).idleDisplays := by
    rw [mem_idleDisplays_setDisplay hi, hd']
    exact ⟨hlisted, rfl⟩
  have hbefore := idleDisplays_length h.nodup i
  have hafter := idleDisplays_length hset.nodup i
  rw [if_neg hnot, Nat.add_zero] at hbefore
  rw [if_pos hidle, removeDisplay_setDisplay_idleDisplays] at hafter
  simp only [answer, hd, deliver_silent restart _ hstops hserver]
  rw [hafter, ← hbefore]

/-- An event of a display keeps at most one idle display unless it takes the
helper from a second one. -/
theorem display_idle_iff {m : Seat} (h : Listed m none) {i : Nat}
    {d : Display} (hd : m.displays[i]? = some d) {e : DisplayEvent}
    (he : d.Enabled e) (restart : Restart)
    (hone : m.idleDisplays.length ≤ 1) :
    (m.answer (.display i e restart)).1.idleDisplays.length ≤ 1 ↔
      m.KeepsOneIdle (.display i e restart) := by
  obtain ⟨hi, _⟩ := List.getElem?_eq_some_iff.1 hd
  have howed := h.settled d (List.mem_of_getElem? hd)
  have hset := h.setDisplay (i := i) (Display.answer_startOwed howed e he).1
  have hi' : i < (m.setDisplay i (d.answer e).1).displays.length :=
    Nat.lt_of_lt_of_eq hi List.length_set.symm
  have hbefore := idleDisplays_length h.nodup i
  have hself := mem_idleDisplays_setDisplay hi d
  rw [setDisplay_self hd] at hself
  by_cases hloses : i ∈ m.listed ∧ Display.losesHelper e = true
  · obtain ⟨hlisted, hloses⟩ := hloses
    rw [display_idle_of_losesHelper h hd he restart hlisted hloses]
    simp only [KeepsOneIdle, hlisted, hloses, true_imp_iff]
    rw [← List.length_eq_zero_iff]
    omega
  · refine ⟨fun _ hlisted hl => absurd ⟨hlisted, hl⟩ hloses, fun _ => ?_⟩
    by_cases hidle : i ∈ (m.answer (.display i e restart)).1.idleDisplays
    · -- the display was idle before
      obtain ⟨hlisted, hup, hsame⟩ := mem_of_mem_deliver h hd e restart
        (List.mem_of_mem_filter hidle)
      rw [hsame] at hidle ⊢
      have hafter := idleDisplays_length hset.nodup i
      rw [if_pos hidle, removeDisplay_setDisplay_idleDisplays] at hafter
      rw [mem_idleDisplays_setDisplay hi] at hidle
      cases hactive : d.auth.isActive with
      | true =>
          exact absurd ⟨hlisted, Display.losesHelper_of_answer howed he
            hactive hup hidle.2⟩ hloses
      | false =>
          rw [if_pos (hself.2 ⟨hlisted, hactive⟩)] at hbefore
          rwa [hafter, ← hbefore]
    · have hdelivered := (hset.deliver i restart (d.answer e).2).nodup
      have hothers := deliver_others restart hset hi' (by
        rw [removeDisplay_setDisplay_idleDisplays]
        omega) (d.answer e).2
      simp only [answer, hd] at hidle ⊢
      rwa [idleDisplays_length hdelivered i, if_neg hidle, Nat.add_zero]

/-- What one event does to the number of idle displays. -/
theorem answer_idle_iff {m : Seat} (h : Listed m none) {e : SeatEvent}
    (he : m.Enabled e) (hone : m.idleDisplays.length ≤ 1) :
    (m.answer e).1.idleDisplays.length ≤ 1 ↔ m.KeepsOneIdle e := by
  cases e with
  | firstLoginElsewhere => exact ⟨fun _ => trivial, fun _ => hone⟩
  | switchToGreeter sessions new =>
      simp only [answer, switchToGreeter, KeepsOneIdle]
      cases SeatManager.greeterSession m.name sessions with
      | some id => simpa using hone
      | none =>
          simp only [true_imp_iff]
          rw [createDisplay_idleDisplays h, List.length_append]
          by_cases hlogs : m.LogsIn new
          · simpa [hlogs] using hone
          · rw [if_neg hlogs, List.length_singleton,
              ← List.length_eq_zero_iff]
            simp only [hlogs, or_false]
            omega
  | display i e restart =>
      obtain ⟨_, d, hd, hen⟩ := he
      exact display_idle_iff h hd hen restart hone

theorem create_idleDisplays (name : QString) (lock : Bool)
    (new : NewDisplay) : (create name lock new).idleDisplays.length ≤ 1 :=
  List.length_filter_le _ _

/-- At every moment of the run at most one listed display is idle. -/
def OneIdleThroughout (m : Seat) (es : List SeatEvent) : Prop :=
  ∀ pre post, es = pre ++ post →
    (seatMachine.exec m pre).idleDisplays.length ≤ 1

end Seat

open Seat in
/-- A seat has at most one idle display throughout a run if and only if no
event of the run adds a second one: a request for a greeter that logind does
not list yet, or a helper that ends and leaves its display up. -/
theorem runs_oneIdle_iff (name : QString) (lock : Bool) (new : NewDisplay)
    (es : List SeatEvent)
    (hrun : seatMachine.Runs (create name lock new) es) :
    OneIdleThroughout (create name lock new) es ↔
      seatMachine.Guarded KeepsOneIdle (create name lock new) es := by
  constructor
  · intro hidle st hst
    have hlisted := listed_steps name lock new hrun st hst
    have henabled := hrun st hst
    obtain ⟨pre, e, post, hes, rfl⟩ :=
      (seatMachine.mem_steps_iff _ _ _).1 hst
    refine (answer_idle_iff hlisted henabled (hidle pre (e :: post) hes)).1 ?_
    have hafter := hidle (pre ++ [e]) post (by rw [hes, List.append_cons])
    rwa [Machine.exec_concat] at hafter
  · intro hguard pre post hes
    subst hes
    rw [Machine.Runs, Machine.guarded_append] at hrun
    rw [Machine.guarded_append] at hguard
    exact (seatMachine.exec_invariant
      (I := fun m => Listed m none ∧ m.idleDisplays.length ≤ 1)
      (G := fun m e => m.Enabled e ∧ m.KeepsOneIdle e)
      (fun _ _ h he => ⟨h.1.answer he.1, (answer_idle_iff h.1 he.1 h.2).2 he.2⟩)
      ⟨listed_create name lock new, create_idleDisplays name lock new⟩
      (fun st hst => ⟨hrun.1 st hst, hguard.1 st hst⟩)).2

/-- The display the event may add is constructed with Relogin off. -/
def SeatEvent.ReloginOff : SeatEvent → Prop
  | .firstLoginElsewhere => True
  | .switchToGreeter _ new => new.construction.config.relogin = false
  | .display _ _ restart => restart.new.construction.config.relogin = false

/-- A greeter is shown, and a request for one comes in while logind lists the
given sessions. -/
def Seat.greeterWanted (sessions : List SeatSession) : List SeatEvent :=
  [.display 0 (.displayServerStarted {}) ⟨none, Seat.plainDisplay⟩,
    .switchToGreeter (some sessions) Seat.plainDisplay]

open Seat in
/-- logind lists the greeter, and the seat switches to it. -/
theorem runs_oneIdle_iff_listed :
    OneIdleThroughout (create "seat0" false plainDisplay)
        (greeterWanted [⟨⟨"c1", "plasmalogin", "plasmalogin-greeter",
          "active"⟩, "seat0"⟩]) :=
  (runs_oneIdle_iff "seat0" false plainDisplay _ (by decide)).2 (by decide)

open Seat in
/-- logind does not list the greeter yet, and the seat gets a second one. -/
theorem runs_not_oneIdle :
    ¬ ∀ (name : QString) (lock : Bool) (new : NewDisplay)
      (es : List SeatEvent), new.construction.config.relogin = false →
        (∀ e ∈ es, e.ReloginOff) →
          seatMachine.Runs (create name lock new) es →
            OneIdleThroughout (create name lock new) es := by
  intro hall
  have hidle := hall "seat0" false plainDisplay (greeterWanted []) rfl
    (by simp [greeterWanted, SeatEvent.ReloginOff, plainDisplay]) (by decide)
    (greeterWanted []) [] (List.append_nil _).symm
  exact absurd hidle (by decide)

end PlasmaLogin

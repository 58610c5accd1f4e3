/-
How often the displays of a seat say that they have stopped, and what is on
the seat's list whenever it has answered.
-/
import PlasmaLogin.Seat

namespace PlasmaLogin

open Mealy

namespace SeatEffect

/-- The display `k` says that it has stopped. -/
def isStopped (k : Nat) : SeatEffect → Bool
  | .display i x => decide (i = k) && x.isStopped
  | _ => false

/-- The seat has answered that the display `k` has stopped. -/
def isProcessed (k : Nat) : SeatEffect → Bool
  | .displayStopped i _ => decide (i = k)
  | _ => false

end SeatEffect

namespace Seat

/-- The event does not make a display's stop call itself. -/
def StopsOnce (m : Seat) : SeatEvent → Prop
  | .display i e _ => ∀ d ∈ m.displays[i]?, d.StopsOnce e
  | _ => True

instance (m : Seat) (e : SeatEvent) : Decidable (m.StopsOnce e) :=
  match e with
  | .display i e _ =>
      inferInstanceAs (Decidable (∀ d ∈ m.displays[i]?, d.StopsOnce e))
  | .firstLoginElsewhere | .switchToGreeter _ _ => isTrue trivial

/-- Each display stops once, each stop is answered once, and an answer leaves
a list of displays that are up, at least one and none twice. -/
structure StopsOnceIn (m : Seat) (es : List SeatEvent) : Prop where
  emitted : ∀ k, (seatMachine.outputs m es).countP (SeatEffect.isStopped k) ≤ 1
  processed :
    ∀ k, (seatMachine.outputs m es).countP (SeatEffect.isProcessed k) ≤ 1
  left : ∀ st ∈ seatMachine.steps m es, ∀ k l,
    SeatEffect.displayStopped k l ∈ st.outputs →
      l ≠ [] ∧ l.Nodup ∧ ∀ j ∈ l, ∃ d, st.after.displays[j]? = some d ∧
        d.started = true

/-- Starting a display says nothing about stopping. -/
theorem createDisplay_effects (new : NewDisplay) (m : Seat) :
    ∀ y ∈ (m.createDisplay new).2, ∃ x : DisplayEffect,
      y = .display m.displays.length x ∧ x.isStopped = false := by
  intro y hy
  obtain ⟨x, hx, rfl⟩ := List.mem_map.1 hy
  have hnone : stops ((Display.construct new.construction
      m.firstloginLock).1.answer (.start new.ctx)).2 = 0 :=
    Display.stops_answer _ _
  refine ⟨x, rfl, ?_⟩
  rw [stops, List.countP_eq_zero] at hnone
  simpa using hnone x hx

/-- The seat's answers to one effect. -/
theorem react_effects (i : Nat) (restart : Restart) (m : Seat)
    (x : DisplayEffect) (k : Nat) :
    (m.react i restart x).2.countP (SeatEffect.isStopped k) = 0 ∧
      (m.react i restart x).2.countP (SeatEffect.isProcessed k) =
        if i = k ∧ x.isStopped = true then 1 else 0 := by
  cases x with
  | stopped =>
      have hcreated := (m.removeDisplay i).createDisplay_effects restart.new
      have hstopped : ((m.removeDisplay i).createDisplay
          restart.new).2.countP (SeatEffect.isStopped k) = 0 := by
        refine List.countP_eq_zero.2 fun y hy => ?_
        obtain ⟨x, rfl, hx⟩ := hcreated y hy
        simp [SeatEffect.isStopped, hx]
      have hprocessed : ((m.removeDisplay i).createDisplay
          restart.new).2.countP (SeatEffect.isProcessed k) = 0 := by
        refine List.countP_eq_zero.2 fun y hy => ?_
        obtain ⟨x, rfl, _⟩ := hcreated y hy
        simp [SeatEffect.isProcessed]
      have hjump : ∀ vt : Option Int32,
          (vt.map SeatEffect.jumpToVt).toList.countP
              (SeatEffect.isStopped k) = 0 ∧
            (vt.map SeatEffect.jumpToVt).toList.countP
              (SeatEffect.isProcessed k) = 0 := by
        intro vt
        cases vt <;> simp [SeatEffect.isStopped, SeatEffect.isProcessed]
      simp only [react, displayStopped, List.countP_append, hjump]
      split <;>
        simp [hstopped, hprocessed, SeatEffect.isStopped,
          SeatEffect.isProcessed, DisplayEffect.isStopped, List.countP_cons]
  | displayServerFailed =>
      simp [react, displayServerFailed, SeatEffect.isStopped,
        SeatEffect.isProcessed, DisplayEffect.isStopped]
  | _ => simp [react, DisplayEffect.isStopped]

/-- The seat answers every stop of the display once. -/
theorem deliver_counts (i : Nat) (restart : Restart)
    (xs : List DisplayEffect) (m : Seat) (k : Nat) :
    (deliver i restart xs m).2.countP (SeatEffect.isStopped k) =
        (if i = k then stops xs else 0) ∧
      (deliver i restart xs m).2.countP (SeatEffect.isProcessed k) =
        if i = k then stops xs else 0 := by
  induction xs generalizing m with
  | nil => simp [deliver]
  | cons x xs ih =>
      obtain ⟨hstopped, hprocessed⟩ := react_effects i restart m x k
      obtain ⟨ihstopped, ihprocessed⟩ := ih (m.react i restart x).1
      have hx : stops (x :: xs) =
          (if x.isStopped = true then 1 else 0) + stops xs := by
        rw [stops, List.countP_cons, Nat.add_comm, stops]
      simp only [deliver, andThen_snd, List.cons_append, List.countP_cons,
        List.countP_append, hstopped, hprocessed, ihstopped, ihprocessed, hx]
      by_cases hik : i = k
      · cases hsays : x.isStopped <;>
          simp [SeatEffect.isStopped, SeatEffect.isProcessed, hik, hsays,
            Nat.add_comm]
      · simp [SeatEffect.isStopped, SeatEffect.isProcessed, hik]

/-- How often an event makes the display `k` stop. -/
def stopsOf (k : Nat) (m : Seat) : SeatEvent → Nat
  | .display i e _ =>
      if i = k then (m.displays[i]?).elim 0 fun d => stops (d.answer e).2
      else 0
  | _ => 0

theorem answer_counts (m : Seat) (e : SeatEvent) (k : Nat) :
    (m.answer e).2.countP (SeatEffect.isStopped k) = m.stopsOf k e ∧
      (m.answer e).2.countP (SeatEffect.isProcessed k) = m.stopsOf k e := by
  cases e with
  | firstLoginElsewhere => exact ⟨rfl, rfl⟩
  | switchToGreeter sessions new =>
      simp only [answer, switchToGreeter, stopsOf]
      split
      · exact ⟨rfl, rfl⟩
      · have hcreated := m.createDisplay_effects new
        constructor <;> refine List.countP_eq_zero.2 fun y hy => ?_
        · obtain ⟨x, rfl, hx⟩ := hcreated y hy
          simp [SeatEffect.isStopped, hx]
        · obtain ⟨x, rfl, _⟩ := hcreated y hy
          simp [SeatEffect.isProcessed]
  | display i e restart =>
      simp only [answer, stopsOf]
      cases m.displays[i]? with
      | none => simp
      | some d => exact deliver_counts i restart _ _ k

/-- What `displayStopped` leaves on the list. -/
theorem displayStopped_left {m : Seat} {i : Nat}
    (h : Listed m (some i)) (hi : i < m.displays.length) (restart : Restart)
    {k : Nat} {l : List Nat}
    (hl : SeatEffect.displayStopped k l ∈ (m.displayStopped i restart).2) :
    l ≠ [] ∧ l.Nodup ∧ ∀ j ∈ l,
      ∃ d, (m.displayStopped i restart).1.displays[j]? = some d ∧
        d.started = true := by
  have hleft : l = (m.displayStopped i restart).1.listed := by
    simp only [Seat.displayStopped, List.mem_append, List.mem_singleton,
      Option.mem_toList, Option.map_eq_some_iff, reduceCtorEq, and_false,
      exists_false, or_false] at hl
    rcases hl with hl | hl
    · split at hl
      · obtain ⟨x, hx, _⟩ := createDisplay_effects restart.new _ _ hl
        cases hx
      · exact absurd hl List.not_mem_nil
    · exact (SeatEffect.displayStopped.inj hl).2
  have hafter := h.displayStopped i restart
  subst hleft
  refine ⟨?_, hafter.nodup, fun j hj => hafter.up j hj ?_⟩
  · unfold Seat.displayStopped
    simp only
    split
    · exact List.append_ne_nil_of_right_ne_nil _ (List.cons_ne_nil _ _)
    next hsome => exact fun hnil => hsome (List.isEmpty_iff.2 hnil)
  · intro heq
    rw [Option.some.injEq] at heq
    exact not_mem_displayStopped hi restart (heq ▸ hj)

theorem deliver_left {i : Nat} (restart : Restart) {xs : List DisplayEffect}
    {m : Seat} (h : Listed m (some i)) (hi : i < m.displays.length) {k : Nat}
    {l : List Nat}
    (hl : SeatEffect.displayStopped k l ∈ (deliver i restart xs m).2) :
    l ≠ [] ∧ l.Nodup ∧ ∀ j ∈ l,
      ∃ d, (deliver i restart xs m).1.displays[j]? = some d ∧
        d.started = true := by
  induction xs generalizing m with
  | nil => exact absurd hl List.not_mem_nil
  | cons x xs ih =>
      have hnext := h.react i restart x
      have hgrown := deliver_displays i restart xs (m.react i restart x).1
      rcases List.mem_append.1 hl with hl | hl
      · have hx : x = .stopped := by
          cases x <;> simp_all [react, Seat.displayServerFailed]
        subst hx
        obtain ⟨hne, hnodup, hup⟩ := displayStopped_left h hi restart
          (List.mem_of_ne_of_mem (by simp) hl)
        refine ⟨hne, hnodup, fun j hj => ?_⟩
        obtain ⟨d, hd, hstarted⟩ := hup j hj
        exact ⟨d, getElem?_of_grown hgrown hd, hstarted⟩
      · exact ih hnext (Nat.lt_of_lt_of_le hi
          (react_displays i restart m x).length_le) hl

/-- Every answer leaves displays that are up. -/
theorem answer_left {m : Seat} (h : Listed m none) {e : SeatEvent}
    (he : m.Enabled e) {k : Nat} {l : List Nat}
    (hl : SeatEffect.displayStopped k l ∈ (m.answer e).2) :
    l ≠ [] ∧ l.Nodup ∧ ∀ j ∈ l,
      ∃ d, (m.answer e).1.displays[j]? = some d ∧ d.started = true := by
  cases e with
  | firstLoginElsewhere => exact absurd hl List.not_mem_nil
  | switchToGreeter sessions new =>
      simp only [answer, switchToGreeter] at hl
      split at hl
      · simp at hl
      · obtain ⟨x, hx, _⟩ := createDisplay_effects new m _ hl
        cases hx
  | display i e restart =>
      obtain ⟨_, d, hd, hen⟩ := he
      obtain ⟨hi, _⟩ := List.getElem?_eq_some_iff.1 hd
      have howed := h.settled d (List.mem_of_getElem? hd)
      simp only [answer, hd] at hl ⊢
      exact deliver_left restart
        (h.setDisplay (Display.answer_startOwed howed e hen).1)
        (Nat.lt_of_lt_of_eq hi List.length_set.symm) hl

/-- How often the display `k` has stopped in a history. -/
def stopCount (k : Nat) (history : List (Step Seat SeatEvent SeatEffect)) :
    Nat :=
  (history.flatMap Step.outputs).countP (SeatEffect.isStopped k)

/-- A display that has stopped is down and has stopped once. -/
structure HasStoppedOnce (history : List (Step Seat SeatEvent SeatEffect))
    (m : Seat) : Prop where
  listed : Listed m none
  once : ∀ k, stopCount k history ≤ 1
  down : ∀ k, stopCount k history ≠ 0 →
    ∃ d, m.displays[k]? = some d ∧ d.started = false

theorem stopCount_concat (k : Nat)
    (history : List (Step Seat SeatEvent SeatEffect)) (m : Seat)
    (e : SeatEvent) :
    stopCount k (history ++ [seatMachine.fire m e]) =
      stopCount k history + m.stopsOf k e := by
  rw [stopCount, List.flatMap_append, List.countP_append,
    List.flatMap_singleton]
  exact congrArg _ (answer_counts m e k).1

/-- What an event leaves of a display that is not its own, or was down. -/
theorem answer_getElem?_of_down {m : Seat} (h : Listed m none) {e : SeatEvent}
    (he : m.Enabled e) {k : Nat} {d : Display} (hd : m.displays[k]? = some d)
    (hdown : d.started = false) :
    ∃ d', (m.answer e).1.displays[k]? = some d' ∧ d'.started = false := by
  cases e with
  | firstLoginElsewhere => exact ⟨d, hd, hdown⟩
  | switchToGreeter sessions new =>
      refine ⟨d, getElem?_of_grown ?_ hd, hdown⟩
      simp only [answer, switchToGreeter]
      split
      · exact List.prefix_rfl
      · exact List.prefix_append _ _
  | display i e restart =>
      obtain ⟨_, d', hd', hen⟩ := he
      simp only [answer, hd']
      have hgrown := deliver_displays i restart (d'.answer e).2
        (m.setDisplay i (d'.answer e).1)
      by_cases hik : i = k
      · subst hik
        rw [hd] at hd'
        cases hd'
        have howed := h.settled d (List.mem_of_getElem? hd)
        obtain ⟨hi, _⟩ := List.getElem?_eq_some_iff.1 hd
        refine ⟨_, getElem?_of_grown hgrown (List.getElem?_set_self hi), ?_⟩
        rw [← Bool.not_eq_true] at hdown ⊢
        exact mt (Display.answer_startOwed howed e hen).2 hdown
      · refine ⟨d, getElem?_of_grown hgrown ?_, hdown⟩
        exact (List.getElem?_set_ne hik).trans hd

/-- A display that has stopped is down, and no event makes it stop again. -/
theorem stopsOf_of_down {m : Seat} (h : Listed m none) {e : SeatEvent}
    (he : m.Enabled e) {k : Nat} {d : Display} (hd : m.displays[k]? = some d)
    (hdown : d.started = false) :
    m.stopsOf k e = 0 ∧
      ∃ d, (m.answer e).1.displays[k]? = some d ∧ d.started = false := by
  refine ⟨?_, answer_getElem?_of_down h he hd hdown⟩
  cases e with
  | display i e restart =>
      simp only [stopsOf]
      split
      next hik =>
        subst hik
        rw [hd]
        exact Display.stops_answer_of_not_started hdown e
      · rfl
  | _ => rfl

/-- An event stops a display once at most, which is down afterwards. -/
theorem stopsOf_le_one {m : Seat} {e : SeatEvent} (he : m.Enabled e)
    (honce : m.StopsOnce e) (k : Nat) :
    m.stopsOf k e ≤ 1 ∧ (m.stopsOf k e ≠ 0 →
      ∃ d, (m.answer e).1.displays[k]? = some d ∧ d.started = false) := by
  cases e with
  | display i e restart =>
      obtain ⟨_, d, hd, hen⟩ := he
      obtain ⟨hi, _⟩ := List.getElem?_eq_some_iff.1 hd
      simp only [stopsOf, answer, hd, Option.elim_some]
      split
      next hik =>
        subst hik
        refine ⟨(Display.stops_answer_le_one_iff d e).2 (honce d hd),
          fun hstops => ⟨(d.answer e).1, ?_,
            Display.answer_started_of_stops hstops⟩⟩
        exact getElem?_of_grown (deliver_displays _ restart _ _)
          (List.getElem?_set_self hi)
      · exact ⟨Nat.zero_le 1, fun hstops => absurd rfl hstops⟩
  | _ => exact ⟨Nat.zero_le 1, fun hstops => absurd rfl hstops⟩

theorem HasStoppedOnce.step
    {history : List (Step Seat SeatEvent SeatEffect)} {m : Seat}
    (h : HasStoppedOnce history m) {e : SeatEvent} (he : m.Enabled e)
    (honce : m.StopsOnce e) :
    HasStoppedOnce (history ++ [seatMachine.fire m e]) (m.answer e).1 := by
  have hkept : ∀ k, stopCount k history ≠ 0 → m.stopsOf k e = 0 ∧
      ∃ d, (m.answer e).1.displays[k]? = some d ∧ d.started = false := by
    intro k hk
    obtain ⟨d, hd, hdown⟩ := h.down k hk
    exact stopsOf_of_down h.listed he hd hdown
  have hnew := stopsOf_le_one he honce
  refine ⟨h.listed.answer he, fun k => ?_, fun k hk => ?_⟩
  · rw [stopCount_concat]
    by_cases hk : stopCount k history = 0
    · rw [hk, Nat.zero_add]
      exact (hnew k).1
    · rw [(hkept k hk).1, Nat.add_zero]
      exact h.once k
  · rw [stopCount_concat] at hk
    by_cases hold : stopCount k history = 0
    · rw [hold, Nat.zero_add] at hk
      exact (hnew k).2 hk
    · exact (hkept k hold).2

/-- The seat answers as many stops as there are. -/
theorem outputs_processed (m : Seat) (es : List SeatEvent) (k : Nat) :
    (seatMachine.outputs m es).countP (SeatEffect.isProcessed k) =
      (seatMachine.outputs m es).countP (SeatEffect.isStopped k) := by
  induction es generalizing m with
  | nil => rfl
  | cons e es ih =>
      obtain ⟨hstopped, hprocessed⟩ := answer_counts m e k
      rw [Machine.outputs_cons, List.countP_append, List.countP_append, ih]
      exact congrArg (· + _) (hprocessed.trans hstopped.symm)

end Seat

open Seat in
/-- In a run of a seat every display stops once, and is processed once, if
and only if no stop calls itself. -/
theorem steps_stopsOnce_iff (name : QString) (lock : Bool) (new : NewDisplay)
    (es : List SeatEvent)
    (hrun : seatMachine.Runs (create name lock new) es) :
    StopsOnceIn (create name lock new) es ↔
      seatMachine.Guarded StopsOnce (create name lock new) es := by
  constructor
  · intro honce st hst
    obtain ⟨pre, e, post, hes, hfire⟩ := (seatMachine.mem_steps_iff _ _ _).1 hst
    have hsublist : st.outputs.Sublist
        (seatMachine.outputs (create name lock new) es) :=
      List.sublist_flatten_of_mem (List.mem_map_of_mem hst)
    subst hfire
    cases e with
    | display i e restart =>
        intro d hd
        rw [← Display.stops_answer_le_one_iff]
        have hcount := (answer_counts (seatMachine.exec
          (create name lock new) pre) (.display i e restart) i).1
        have hd : (seatMachine.exec (create name lock new) pre).displays[i]? =
            some d := hd
        simp only [stopsOf, ↓reduceIte, hd, Option.elim_some] at hcount
        rw [← hcount]
        exact (hsublist.countP_le).trans (honce.emitted i)
    | _ => trivial
  · intro hguard
    have hstart : HasStoppedOnce [] (create name lock new) :=
      ⟨listed_create name lock new, fun _ => Nat.zero_le 1,
        fun _ hk => absurd rfl hk⟩
    have hboth : seatMachine.Guarded (fun m e => m.Enabled e ∧ m.StopsOnce e)
        (create name lock new) es :=
      fun st hst => ⟨hrun st hst, hguard st hst⟩
    have hhistory := seatMachine.history_invariant
      (fun _ _ _ h he => h.step he.1 he.2) hstart hboth
    refine ⟨hhistory.once, fun k => ?_, fun st hst k l hl => ?_⟩
    · rw [outputs_processed]
      exact hhistory.once k
    · have hlisted := listed_steps name lock new hrun st hst
      have henabled := hrun st hst
      obtain ⟨pre, e, post, _, rfl⟩ := (seatMachine.mem_steps_iff _ _ _).1 hst
      exact answer_left hlisted henabled hl

/-- alice has logged in on the first display, and `e` ends it. -/
def Seat.aliceEnds (e : DisplayEvent) : List SeatEvent :=
  ([.displayServerStarted {}, .newConnection 7,
    .login {} 7 "alice" "secret" .plasma,
    .helperFrame (.authenticated "alice"), .helperFrame (.sessionStatus true),
    .greeterFrame (.sessionStatus true), e] : List DisplayEvent).map
      fun e => .display 0 e ⟨none, Seat.plainDisplay⟩

open Seat in
/-- alice logs out, and the greeter is told to go. -/
theorem steps_stopsOnce_iff_logout :
    StopsOnceIn (create "seat0" false plainDisplay)
        (aliceEnds (.helperFinished ⟨0, .normalExit, []⟩
          [⟨some ⟨255, .normalExit, []⟩, none⟩])) :=
  (steps_stopsOnce_iff "seat0" false plainDisplay _ (by decide)).2 (by decide)

open Seat in
/-- A greeter that fails stops the display, the stop waits for the helper of
alice's session, and the end of that helper stops the display again. -/
theorem steps_not_stopsOnce :
    ¬ ∀ (name : QString) (lock : Bool) (new : NewDisplay)
      (es : List SeatEvent), seatMachine.Runs (create name lock new) es →
        StopsOnceIn (create name lock new) es := by
  intro hall
  have honce := hall "seat0" false plainDisplay
    (aliceEnds (.greeterFinished ⟨2, .normalExit, []⟩
      [⟨none, some ⟨255, .normalExit, []⟩⟩])) (by decide)
  exact absurd (honce.emitted 0) (by decide)

end PlasmaLogin

/-
`Seat` with every display it has ever constructed.  The seat answers the
signals of a display from inside the display's own slot, one after the other:
it takes the display off its list and puts a new one there when none is left.
-/
import PlasmaLogin.Daemon
import PlasmaLogin.DisplayStops

namespace PlasmaLogin

open Mealy

/-- What `Seat::createDisplay` reads. -/
structure NewDisplay where
  construction : Construction
  ctx : Context

/-- What `Seat::displayStopped` reads: the terminal of the session that the
display has returned to, when logind knows it, and what a new display
needs. -/
structure Restart where
  reusedVt : Option Int32
  new : NewDisplay

/-- An entry of logind's session list with the seat of the session. -/
structure SeatSession where
  session : LogindSession
  seatName : QString

/-- `Seat`; `listed` is `m_displays`, by position among all displays.  The
latch is the daemon's, `exiting` is set once the daemon has been told to
exit. -/
structure Seat where
  name : QString
  displays : List Display := []
  listed : List Nat := []
  firstloginLock : Bool := false
  exiting : Bool := false

/-- What can happen to a seat.  `switchToGreeter` comes from the bus as well
as from the secure attention key; `sessions` is `none` without logind. -/
inductive SeatEvent where
  | firstLoginElsewhere
  | switchToGreeter (sessions : Option (List SeatSession)) (new : NewDisplay)
  | display (index : Nat) (event : DisplayEvent) (restart : Restart)

/-- What a seat and its displays do; `displayStopped` is the end of that slot
with the list it leaves. -/
inductive SeatEffect where
  | display (index : Nat) (effect : DisplayEffect)
  | displayStopped (index : Nat) (listed : List Nat)
  | jumpToVt (vt : Int32)
  | activate (sessionId : QString)
  | exit (code : Int)

/-- The greeter's session that `SeatManager::switchToGreeter` looks for. -/
def SeatManager.greeterSession (name : QString)
    (sessions : Option (List SeatSession)) : Option QString :=
  ((sessions.getD []).find? fun s =>
    s.session.userName = ("plasmalogin" : QString) &&
      s.session.service = ("plasmalogin-greeter" : QString) &&
        s.seatName = name).map fun s => s.session.sessionId

namespace Seat

/-- The display that `Seat::createDisplay` constructs, after its start. -/
def newDisplay (new : NewDisplay) (m : Seat) : Display :=
  ((Display.construct new.construction m.firstloginLock).1.answer
    (.start new.ctx)).1

/-- `Seat::createDisplay`. -/
def createDisplay (new : NewDisplay) (m : Seat) : Seat × List SeatEffect :=
  let built := Display.construct new.construction m.firstloginLock
  ({ m with
      displays := m.displays ++ [m.newDisplay new],
      listed := m.listed ++ [m.displays.length],
      firstloginLock := built.2 },
    (built.1.answer (.start new.ctx)).2.map (.display m.displays.length))

/-- The seat's part of `Seat::removeDisplay`. -/
def removeDisplay (i : Nat) (m : Seat) : Seat :=
  { m with listed := m.listed.filter fun j => j ≠ i }

/-- The terminal of the last display of the list. -/
def lastTerminal (m : Seat) : Option Int32 :=
  (m.listed.getLast?.bind fun j => (m.displays[j]?).map
    Display.currentTerminalId).filter fun vt => vt ≠ -1

/-- The terminal of the session a display has returned to. -/
def reusedTerminal (i : Nat) (restart : Restart) (m : Seat) : Option Int32 :=
  match (m.displays[i]?).bind Display.reuseSessionId with
  | some (_ :: _) => restart.reusedVt
  | _ => none

/-- `Seat::displayStopped`. -/
def displayStopped (i : Nat) (restart : Restart) (m : Seat) :
    Seat × List SeatEffect :=
  let nextVt := m.reusedTerminal i restart
  let m := m.removeDisplay i
  let r := if m.listed.isEmpty then m.createDisplay restart.new else (m, [])
  let nextVt := if m.listed.isEmpty then nextVt else nextVt.or m.lastTerminal
  (r.1, r.2 ++ (nextVt.map SeatEffect.jumpToVt).toList ++
    [.displayStopped i r.1.listed])

/-- What a seat does about a display whose display server failed. -/
def displayServerFailed (i : Nat) (m : Seat) : Seat × List SeatEffect :=
  ({ m.removeDisplay i with exiting := true }, [.exit 12])

/-- The slots of the seat that one effect of a display reaches. -/
def react (i : Nat) (restart : Restart) (m : Seat) :
    DisplayEffect → Seat × List SeatEffect
  | .stopped => m.displayStopped i restart
  | .displayServerFailed => m.displayServerFailed i
  | _ => (m, [])

/-- The effects of a display with the seat's answers in between. -/
def deliver (i : Nat) (restart : Restart) :
    List DisplayEffect → Seat → Seat × List SeatEffect
  | [], m => (m, [])
  | x :: xs, m =>
      andThen ((m.react i restart x).1,
        .display i x :: (m.react i restart x).2) (deliver i restart xs)

/-- The seat with the state of one display replaced. -/
def setDisplay (i : Nat) (d : Display) (m : Seat) : Seat :=
  { m with displays := m.displays.set i d }

/-- `SeatManager::switchToGreeter` on a seat that exists. -/
def switchToGreeter (sessions : Option (List SeatSession)) (new : NewDisplay)
    (m : Seat) : Seat × List SeatEffect :=
  match SeatManager.greeterSession m.name sessions with
  | some id => (m, [.activate id])
  | none => m.createDisplay new

def answer (m : Seat) : SeatEvent → Seat × List SeatEffect
  | .firstLoginElsewhere => ({ m with firstloginLock := true }, [])
  | .switchToGreeter sessions new => m.switchToGreeter sessions new
  | .display i e restart =>
      match m.displays[i]? with
      | none => (m, [])
      | some d =>
          deliver i restart (d.answer e).2 (m.setDisplay i (d.answer e).1)

/-- Nothing happens any more once the daemon exits. -/
def Enabled (m : Seat) : SeatEvent → Prop
  | .firstLoginElsewhere => m.exiting = false
  | .switchToGreeter _ _ => m.exiting = false
  | .display i e _ => m.exiting = false ∧
      ∃ d, m.displays[i]? = some d ∧ d.Enabled e

/-- `Seat::Seat`. -/
def create (name : QString) (firstloginLock : Bool) (new : NewDisplay) :
    Seat :=
  (createDisplay new { name := name, firstloginLock := firstloginLock }).1

instance (m : Seat) (e : SeatEvent) : Decidable (m.Enabled e) :=
  match e with
  | .firstLoginElsewhere => inferInstanceAs (Decidable (m.exiting = false))
  | .switchToGreeter _ _ => inferInstanceAs (Decidable (m.exiting = false))
  | .display i e _ => decidable_of_iff
      (m.exiting = false ∧ (m.displays[i]?).any fun d => d.Enabled e)
      (by simp [Enabled, Option.any_eq_true])

end Seat

/-- A seat under everything that can happen to it and its displays. -/
def seatMachine : Machine Seat SeatEvent SeatEffect where
  enabled := Seat.Enabled
  step := Seat.answer

instance (m : Seat) (es : List SeatEvent) : Decidable (seatMachine.Runs m es) :=
  inferInstanceAs (Decidable
    (∀ st ∈ seatMachine.steps m es, st.before.Enabled st.event))

namespace Seat

theorem mem_removeDisplay (i j : Nat) (m : Seat) :
    j ∈ (m.removeDisplay i).listed ↔ j ∈ m.listed ∧ j ≠ i := by
  simp [removeDisplay]

/-- A new display has been started, and its start is not owed again. -/
theorem newDisplay_started (new : NewDisplay) (m : Seat) :
    (m.newDisplay new).started = true ∧
      (m.newDisplay new).startOwed = false := by
  have hfresh : ∀ (c : Construction) (lock : Bool),
      (Display.construct c lock).1.started = false := fun _ _ => rfl
  unfold newDisplay Display.answer Display.start
  simp only [hfresh, Bool.false_eq_true, ↓reduceIte]
  split
  · obtain ⟨_, _, _, _, _, heq⟩ := Display.startAuth_frame new.ctx
      new.ctx.autologinUser []
      (Display.construct new.construction m.firstloginLock).1.autologinSession
      { (Display.construct new.construction m.firstloginLock).1 with
        startOwed := false, started := true,
        auth := (Display.construct new.construction
          m.firstloginLock).1.auth.setAutologin true }
    split <;> simp [heq, Display.handleAutologinFailure]
  · exact ⟨rfl, rfl⟩

/-- What holds of a seat and its displays, but for one display whose signals
the seat is answering. -/
structure Listed (m : Seat) (i : Option Nat) : Prop where
  nodup : m.listed.Nodup
  bound : ∀ j ∈ m.listed, j < m.displays.length
  up : ∀ j ∈ m.listed, some j ≠ i →
    ∃ d, m.displays[j]? = some d ∧ d.started = true
  settled : ∀ d ∈ m.displays, d.startOwed = false

theorem Listed.createDisplay {m : Seat} {i : Option Nat} (h : Listed m i)
    (new : NewDisplay) : Listed (m.createDisplay new).1 i where
  nodup := by
    refine List.nodup_append.2 ⟨h.nodup, List.nodup_singleton _, ?_⟩
    intro j hj k hk heq
    rw [List.mem_singleton.1 hk] at heq
    exact absurd (h.bound j hj) (by omega)
  bound j hj := by
    change j < (m.displays ++ [m.newDisplay new]).length
    rw [List.length_append, List.length_singleton]
    rcases List.mem_append.1 hj with hj | hj
    · exact Nat.lt_succ_of_lt (h.bound j hj)
    · rw [List.mem_singleton.1 hj]
      exact Nat.lt_succ_self _
  up j hj hne := by
    change ∃ d, (m.displays ++ [m.newDisplay new])[j]? = some d ∧ _
    rcases List.mem_append.1 hj with hj | hj
    · obtain ⟨d, hd, hup⟩ := h.up j hj hne
      exact ⟨d, List.getElem?_append_left (h.bound j hj) ▸ hd, hup⟩
    · rw [List.mem_singleton.1 hj, List.getElem?_concat_length]
      exact ⟨_, rfl, (m.newDisplay_started new).1⟩
  settled d hd := by
    rcases List.mem_append.1 hd with hd | hd
    · exact h.settled d hd
    · rw [List.mem_singleton.1 hd]
      exact (m.newDisplay_started new).2

theorem Listed.removeDisplay {m : Seat} {k : Option Nat} (h : Listed m k)
    (i : Nat) : Listed (m.removeDisplay i) k where
  nodup := h.nodup.filter _
  bound j hj := h.bound j ((mem_removeDisplay i j m).1 hj).1
  up j hj := h.up j ((mem_removeDisplay i j m).1 hj).1
  settled := h.settled

theorem Listed.displayStopped {m : Seat} {k : Option Nat} (h : Listed m k)
    (i : Nat) (restart : Restart) : Listed (m.displayStopped i restart).1 k := by
  unfold Seat.displayStopped
  simp only
  split
  · exact (h.removeDisplay i).createDisplay restart.new
  · exact h.removeDisplay i

theorem Listed.react {m : Seat} {k : Option Nat} (h : Listed m k) (i : Nat)
    (restart : Restart) (x : DisplayEffect) :
    Listed (m.react i restart x).1 k := by
  cases x with
  | stopped => exact h.displayStopped i restart
  | displayServerFailed =>
      have hremoved := h.removeDisplay i
      exact ⟨hremoved.nodup, hremoved.bound, hremoved.up, hremoved.settled⟩
  | _ => exact h

theorem Listed.deliver {m : Seat} {k : Option Nat} (h : Listed m k) (i : Nat)
    (restart : Restart) (xs : List DisplayEffect) :
    Listed (deliver i restart xs m).1 k := by
  induction xs generalizing m with
  | nil => exact h
  | cons x xs ih => exact ih (h.react i restart x)

/-- Displays are only ever added. -/
theorem displayStopped_displays (i : Nat) (restart : Restart) (m : Seat) :
    m.displays <+: (m.displayStopped i restart).1.displays := by
  unfold displayStopped
  simp only
  split
  · exact List.prefix_append _ _
  · exact List.prefix_rfl

theorem react_displays (i : Nat) (restart : Restart) (m : Seat)
    (x : DisplayEffect) :
    m.displays <+: (m.react i restart x).1.displays := by
  cases x with
  | stopped => exact displayStopped_displays i restart m
  | _ => exact List.prefix_rfl

theorem deliver_displays (i : Nat) (restart : Restart)
    (xs : List DisplayEffect) (m : Seat) :
    m.displays <+: (deliver i restart xs m).1.displays := by
  induction xs generalizing m with
  | nil => exact List.prefix_rfl
  | cons x xs ih => exact (react_displays i restart m x).trans (ih _)

theorem getElem?_of_grown {ds ds' : List Display} (h : ds <+: ds') {j : Nat}
    {d : Display} (hd : ds[j]? = some d) : ds'[j]? = some d := by
  obtain ⟨rest, rfl⟩ := h
  obtain ⟨hj, _⟩ := List.getElem?_eq_some_iff.1 hd
  rwa [List.getElem?_append_left hj]

theorem not_mem_displayStopped {i : Nat} {m : Seat}
    (hi : i < m.displays.length) (restart : Restart) :
    i ∉ (m.displayStopped i restart).1.listed := by
  have hremoved : i ∉ (m.removeDisplay i).listed :=
    fun h => ((mem_removeDisplay i i m).1 h).2 rfl
  unfold displayStopped
  simp only
  split
  · intro hmem
    rcases List.mem_append.1 hmem with hmem | hmem
    · exact hremoved hmem
    · exact absurd (List.mem_singleton.1 hmem) (Nat.ne_of_lt hi)
  · exact hremoved

theorem not_mem_react {i : Nat} {m : Seat} (hi : i < m.displays.length)
    (restart : Restart) {x : DisplayEffect}
    (h : i ∉ m.listed ∨ x.isStopped = true ∨ x = .displayServerFailed) :
    i ∉ (m.react i restart x).1.listed := by
  cases x with
  | stopped => exact not_mem_displayStopped hi restart
  | displayServerFailed =>
      exact fun hmem => ((mem_removeDisplay i i m).1 hmem).2 rfl
  | _ => exact h.elim id (by simp [DisplayEffect.isStopped])

/-- A display that says it has stopped, or has no display server, is off the
list. -/
theorem not_mem_deliver {i : Nat} {m : Seat} (hi : i < m.displays.length)
    (restart : Restart) {xs : List DisplayEffect}
    (h : i ∉ m.listed ∨ stops xs ≠ 0 ∨
      DisplayEffect.displayServerFailed ∈ xs) :
    i ∉ (deliver i restart xs m).1.listed := by
  induction xs generalizing m with
  | nil => exact h.elim id (by simp)
  | cons x xs ih =>
      refine ih (Nat.lt_of_lt_of_le hi (react_displays i restart m x).length_le)
        ?_
      have hreact := not_mem_react hi restart (x := x)
      rcases h with hout | hstops | hserver
      · exact Or.inl (hreact (Or.inl hout))
      · cases hx : x.isStopped with
        | true => exact Or.inl (hreact (Or.inr (Or.inl hx)))
        | false =>
            rw [stops, List.countP_cons_of_neg (by simp [hx])] at hstops
            exact Or.inr (Or.inl hstops)
      · rcases List.mem_cons.1 hserver with hx | hserver
        · exact Or.inl (hreact (Or.inr (Or.inr hx.symm)))
        · exact Or.inr (Or.inr hserver)

/-- The seat takes no notice of other effects. -/
theorem deliver_silent {i : Nat} (restart : Restart) (m : Seat)
    {xs : List DisplayEffect} (hstops : stops xs = 0)
    (hserver : DisplayEffect.displayServerFailed ∉ xs) :
    (deliver i restart xs m).1 = m := by
  induction xs with
  | nil => rfl
  | cons x xs ih =>
      rw [stops, List.countP_cons] at hstops
      have hx : x.isStopped = false := by
        cases hx : x.isStopped <;> simp_all
      have hreact : (m.react i restart x).1 = m := by
        cases x <;> simp_all [react, DisplayEffect.isStopped]
      change (deliver i restart xs (m.react i restart x).1).1 = m
      rw [hreact]
      exact ih (by simp_all [stops])
        (fun hmem => hserver (List.mem_cons_of_mem x hmem))

theorem Listed.setDisplay {m : Seat} (h : Listed m none) {i : Nat}
    {d : Display} (hd : d.startOwed = false) :
    Listed (m.setDisplay i d) (some i) where
  nodup := h.nodup
  bound j hj := by
    change j < (m.displays.set i d).length
    rw [List.length_set]
    exact h.bound j hj
  up j hj hne := by
    obtain ⟨d', hd', hup⟩ := h.up j hj (by simp)
    refine ⟨d', ?_, hup⟩
    change (m.displays.set i d)[j]? = some d'
    rw [List.getElem?_set_ne fun heq => hne (congrArg some heq.symm)]
    exact hd'
  settled d' hd' := by
    rcases List.mem_or_eq_of_mem_set hd' with hd' | rfl
    · exact h.settled d' hd'
    · exact hd

/-- Every listed display is up between events. -/
theorem Listed.answer {m : Seat} (h : Listed m none) {e : SeatEvent}
    (he : m.Enabled e) : Listed (m.answer e).1 none := by
  cases e with
  | firstLoginElsewhere => exact ⟨h.nodup, h.bound, h.up, h.settled⟩
  | switchToGreeter sessions new =>
      unfold Seat.answer switchToGreeter
      simp only
      split
      · exact h
      · exact h.createDisplay new
  | display i e restart =>
      obtain ⟨_, d, hd, hen⟩ := he
      have howed := h.settled d (List.mem_of_getElem? hd)
      obtain ⟨hsettled, _⟩ := Display.answer_startOwed howed e hen
      have hset := h.setDisplay (i := i) hsettled
      have hi : i < (m.setDisplay i (d.answer e).1).displays.length := by
        obtain ⟨hi, _⟩ := List.getElem?_eq_some_iff.1 hd
        exact (List.length_set).symm ▸ hi
      have hdelivered := hset.deliver i restart (d.answer e).2
      have hgrown := deliver_displays i restart (d.answer e).2
        (m.setDisplay i (d.answer e).1)
      simp only [Seat.answer, hd]
      refine ⟨hdelivered.nodup, hdelivered.bound, fun j hj _ => ?_,
        hdelivered.settled⟩
      by_cases hji : j = i
      · subst hji
        have hsilent := mt (not_mem_deliver hi restart) (not_not_intro hj)
        simp only [not_or, not_not] at hsilent
        obtain ⟨hmem, hstops, hserver⟩ := hsilent
        obtain ⟨d', hd', hup⟩ := h.up j hmem (by simp)
        rw [hd] at hd'
        cases hd'
        refine ⟨(d.answer e).1, getElem?_of_grown hgrown ?_, ?_⟩
        · exact List.getElem?_set_self (List.length_set ▸ hi)
        · cases hdown : (d.answer e).1.started with
          | true => rfl
          | false =>
              rcases Display.stops_of_answer_started hup hdown with hs | hs
              · exact absurd hstops hs
              · exact absurd hs hserver
      · exact hdelivered.up j hj fun heq => hji (Option.some.inj heq)

theorem listed_create (name : QString) (lock : Bool) (new : NewDisplay) :
    Listed (create name lock new) none :=
  Listed.createDisplay ⟨List.nodup_nil,
    fun _ hj => absurd hj List.not_mem_nil,
    fun _ hj => absurd hj List.not_mem_nil,
    fun _ hd => absurd hd List.not_mem_nil⟩ new

/-- Every step of a run starts from a list of displays that are up. -/
theorem listed_steps (name : QString) (lock : Bool) (new : NewDisplay)
    {es : List SeatEvent} (hrun : seatMachine.Runs (create name lock new) es) :
    ∀ st ∈ seatMachine.steps (create name lock new) es,
      Listed st.before none :=
  seatMachine.steps_invariant (I := fun m => Listed m none)
    (fun _ _ h he => h.answer he) (listed_create name lock new) hrun

/-- A display without autologin. -/
def plainDisplay : NewDisplay where
  construction :=
    { config := { relogin := false, user := [], session := [] },
      seatName := "seat0", authId := 1, availableVt := some 1,
      softRebootsCount := some 0, create := fun _ _ => {} }
  ctx := {}

end Seat

end PlasmaLogin

/-
The daemon and all the displays of its seats: how a display is constructed
under the configuration of the moment, the latch that lets the first login
in, and which helpers can be started without a password.
-/
import PlasmaLogin.AutologinFlag

namespace PlasmaLogin

open Mealy

/-- The configuration the display constructor reads. -/
structure AutologinConfig where
  relogin : Bool
  user : QString
  session : QString

/-- What a display is constructed from: `availableVt` is `none` on a seat
without terminals, `softRebootsCount` when the question to systemd fails, and
`create` is `Session::create`. -/
structure Construction where
  config : AutologinConfig
  seatName : QString
  authId : Int64
  availableVt : Option Int32
  softRebootsCount : Option UInt32
  create : SessionType → QString → Session

/-- `DaemonApp::tryLockFirstLogin`: the answer and the latch afterwards. -/
def tryLockFirstLogin (softRebootsCount : Option UInt32) (lock : Bool) :
    Bool × Bool :=
  if lock then (false, true)
  else
    match softRebootsCount with
    | none => (true, true)
    | some count => (count = 0, true)

/-- The autologin session of the configuration. -/
def Construction.autologinSession (c : Construction) : Session :=
  let session := c.create .waylandSession c.config.session
  if session.isValid then session
  else c.create .x11Session c.config.session

/-- `Display::Display`, with the latch afterwards. -/
def Display.construct (c : Construction) (lock : Bool) : Display × Bool :=
  let r := if c.config.relogin then (true, lock)
    else tryLockFirstLogin c.softRebootsCount lock
  (create c.seatName (c.availableVt.getD (-1)) c.authId
    (if r.1 && !c.config.user.isEmpty then c.autologinSession else {}), r.2)

/-- A display with the setting it was constructed under. -/
structure DaemonDisplay where
  display : Display
  relogin : Bool

/-- The daemon with every display it has ever constructed. -/
structure Daemon where
  firstloginLock : Bool := false
  displays : List DaemonDisplay := []

/-- What can happen in the daemon: a seat creates and starts a display, or
something reaches one of the displays. -/
inductive DaemonEvent where
  | createDisplay (construction : Construction) (ctx : Context)
  | display (index : Nat) (event : DisplayEvent)

/-- The effects of a display, under its position. -/
abbrev DaemonEffect := Nat × DisplayEffect

namespace Daemon

/-- `Seat::createDisplay`. -/
def createDisplay (c : Construction) (ctx : Context) (m : Daemon) :
    Daemon × List DaemonEffect :=
  let built := Display.construct c m.firstloginLock
  let r := built.1.answer (.start ctx)
  ({ firstloginLock := built.2,
     displays := m.displays ++ [⟨r.1, c.config.relogin⟩] },
    r.2.map fun x => (m.displays.length, x))

/-- An event of one display. -/
def displayEvent (i : Nat) (e : DisplayEvent) (m : Daemon) :
    Daemon × List DaemonEffect :=
  match m.displays[i]? with
  | none => (m, [])
  | some entry =>
      let r := entry.display.answer e
      ({ m with displays :=
          m.displays.set i { entry with display := r.1 } },
        r.2.map fun x => (i, x))

def answer (m : Daemon) : DaemonEvent → Daemon × List DaemonEffect
  | .createDisplay c ctx => m.createDisplay c ctx
  | .display i e => m.displayEvent i e

def Enabled (m : Daemon) : DaemonEvent → Prop
  | .createDisplay _ _ => True
  | .display i e => ∃ entry, m.displays[i]? = some entry ∧
      entry.display.Enabled e

end Daemon

/-- The daemon under everything that can happen to it. -/
def daemonMachine : Machine Daemon DaemonEvent DaemonEffect where
  enabled := Daemon.Enabled
  step := Daemon.answer

instance (m : Daemon) (e : DaemonEvent) : Decidable (m.Enabled e) :=
  match e with
  | .createDisplay _ _ => isTrue trivial
  | .display i e => decidable_of_iff
      ((m.displays[i]?).any fun entry => entry.display.Enabled e)
      (by simp [Daemon.Enabled, Option.any_eq_true])

instance (m : Daemon) (es : List DaemonEvent) :
    Decidable (daemonMachine.Runs m es) :=
  inferInstanceAs (Decidable
    (∀ st ∈ daemonMachine.steps m es, st.before.Enabled st.event))

/-- The handle a helper, of a login or of a greeter, is started with. -/
def DisplayEffect.startedAuth : DisplayEffect → Option Auth
  | .helperStart auth | .greeterStart auth => some auth
  | _ => none

/-- Autologin is configured on a display that was constructed while the
setting to log in again was off. -/
def DaemonDisplay.FirstLogin (entry : DaemonDisplay) : Prop :=
  entry.relogin = false ∧ entry.display.autologinSession.isValid = true

namespace Daemon

/-- What holds of the displays of the daemon and of its latch. -/
structure Confined (m : Daemon) : Prop where
  flags : ∀ entry ∈ m.displays, entry.display.FlagsConfined
  lock : ∀ entry ∈ m.displays, entry.FirstLogin → m.firstloginLock = true
  unique : ∀ (i j : Nat) (entry other : DaemonDisplay),
    m.displays[i]? = some entry → m.displays[j]? = some other →
      entry.FirstLogin → other.FirstLogin → i = j

theorem confined_empty : Confined {} where
  flags _ h := absurd h List.not_mem_nil
  lock _ h := absurd h List.not_mem_nil
  unique _ _ _ _ h := by simp at h

/-- The latch never opens again. -/
theorem construct_lock (c : Construction) {lock : Bool} (h : lock = true) :
    (Display.construct c lock).2 = true := by
  unfold Display.construct tryLockFirstLogin
  cases c.config.relogin <;> simp [h]

/-- The entry `createDisplay` adds. -/
def createdDisplay (c : Construction) (ctx : Context) (m : Daemon) :
    DaemonDisplay :=
  ⟨((Display.construct c m.firstloginLock).1.answer (.start ctx)).1,
    c.config.relogin⟩

/-- Only a display that closes the latch gets a first login. -/
theorem createdDisplay_firstLogin {c : Construction} {ctx : Context}
    {m : Daemon} (h : (m.createdDisplay c ctx).FirstLogin) :
    m.firstloginLock = false ∧
      (m.createDisplay c ctx).1.firstloginLock = true := by
  obtain ⟨hrelogin, hvalid⟩ := h
  change c.config.relogin = false at hrelogin
  rw [createdDisplay, Display.answer_autologinSession] at hvalid
  change _ ∧ (Display.construct c m.firstloginLock).2 = true
  unfold Display.construct tryLockFirstLogin at hvalid ⊢
  cases hlock : m.firstloginLock with
  | true =>
      simp [hrelogin, hlock, Display.create, Session.isValid] at hvalid
  | false => cases c.softRebootsCount <;> simp [hrelogin]

theorem createDisplay_getElem? {c : Construction} {ctx : Context}
    {m : Daemon} {k : Nat} {entry : DaemonDisplay}
    (h : (m.createDisplay c ctx).1.displays[k]? = some entry) :
    m.displays[k]? = some entry ∨
      k = m.displays.length ∧ entry = m.createdDisplay c ctx := by
  change (m.displays ++ [m.createdDisplay c ctx])[k]? = some entry at h
  rw [List.getElem?_append] at h
  split at h
  · exact Or.inl h
  next hk =>
    rw [List.getElem?_singleton] at h
    split at h
    · exact Or.inr ⟨by omega, (Option.some.inj h).symm⟩
    · exact absurd h (by simp)

theorem Confined.createDisplay {m : Daemon} (h : Confined m)
    (c : Construction) (ctx : Context) :
    Confined (m.createDisplay c ctx).1 where
  flags entry hentry := by
    rcases List.mem_append.1 hentry with hentry | hentry
    · exact h.flags entry hentry
    · rw [List.mem_singleton.1 hentry]
      exact (Display.flagsConfined_create _ _ _ _).answer
        (e := .start ctx) rfl
  lock entry hentry hfirst := by
    rcases List.mem_append.1 hentry with hentry | hentry
    · exact construct_lock c (h.lock entry hentry hfirst)
    · rw [List.mem_singleton.1 hentry] at hfirst
      exact (createdDisplay_firstLogin hfirst).2
  unique i j entry other hi hj hentry hother := by
    rcases createDisplay_getElem? hi with hi | ⟨rfl, rfl⟩ <;>
      rcases createDisplay_getElem? hj with hj | ⟨rfl, rfl⟩
    · exact h.unique i j entry other hi hj hentry hother
    · have hlock := h.lock entry (List.mem_of_getElem? hi) hentry
      rw [(createdDisplay_firstLogin hother).1] at hlock
      exact absurd hlock (by decide)
    · have hlock := h.lock other (List.mem_of_getElem? hj) hother
      rw [(createdDisplay_firstLogin hentry).1] at hlock
      exact absurd hlock (by decide)
    · rfl

/-- An entry of the daemon after an event of a display: unchanged, or the
display's own with its answer. -/
theorem displayEvent_getElem? {m : Daemon} {i k : Nat} {e : DisplayEvent}
    {entry : DaemonDisplay}
    (h : (m.displayEvent i e).1.displays[k]? = some entry) :
    ∃ before, m.displays[k]? = some before ∧
      entry.relogin = before.relogin ∧
      (entry.display = before.display ∨
        k = i ∧ entry.display = (before.display.answer e).1) := by
  unfold displayEvent at h
  split at h
  · exact ⟨entry, h, rfl, Or.inl rfl⟩
  next own hown =>
    rw [List.getElem?_set] at h
    split at h
    next hik =>
      subst hik
      split at h
      · rw [Option.some.injEq] at h
        subst h
        exact ⟨own, hown, rfl, Or.inr ⟨rfl, rfl⟩⟩
      · exact absurd h (by simp)
    · exact ⟨entry, h, rfl, Or.inl rfl⟩

theorem displayEvent_firstLogin {m : Daemon} {i k : Nat} {e : DisplayEvent}
    {entry : DaemonDisplay}
    (h : (m.displayEvent i e).1.displays[k]? = some entry)
    (hfirst : entry.FirstLogin) :
    ∃ before, m.displays[k]? = some before ∧ before.FirstLogin := by
  obtain ⟨before, hbefore, hrelogin, hdisplay⟩ := displayEvent_getElem? h
  have hsession : entry.display.autologinSession =
      before.display.autologinSession := by
    rcases hdisplay with hdisplay | ⟨_, hdisplay⟩
    · rw [hdisplay]
    · rw [hdisplay, Display.answer_autologinSession]
  exact ⟨before, hbefore, hrelogin ▸ hfirst.1, hsession ▸ hfirst.2⟩

theorem displayEvent_lock (m : Daemon) (i : Nat) (e : DisplayEvent) :
    (m.displayEvent i e).1.firstloginLock = m.firstloginLock := by
  unfold displayEvent
  split <;> rfl

theorem Confined.displayEvent {m : Daemon} (h : Confined m) {i : Nat}
    {e : DisplayEvent} (he : m.Enabled (.display i e)) :
    Confined (m.displayEvent i e).1 where
  flags entry hentry := by
    obtain ⟨k, hk⟩ := List.getElem?_of_mem hentry
    obtain ⟨before, hbefore, _, hdisplay⟩ := displayEvent_getElem? hk
    have hflags := h.flags before (List.mem_of_getElem? hbefore)
    rcases hdisplay with hdisplay | ⟨rfl, hdisplay⟩
    · exact hdisplay ▸ hflags
    · obtain ⟨own, hown, henabled⟩ := he
      rw [hbefore, Option.some.injEq] at hown
      subst hown
      exact hdisplay ▸ hflags.answer henabled
  lock entry hentry hfirst := by
    obtain ⟨k, hk⟩ := List.getElem?_of_mem hentry
    obtain ⟨before, hbefore, hbefore'⟩ := displayEvent_firstLogin hk hfirst
    rw [displayEvent_lock]
    exact h.lock before (List.mem_of_getElem? hbefore) hbefore'
  unique j k entry other hj hk hentry hother := by
    obtain ⟨before, hbefore, hfirst⟩ := displayEvent_firstLogin hj hentry
    obtain ⟨before', hbefore', hfirst'⟩ := displayEvent_firstLogin hk hother
    exact h.unique j k before before' hbefore hbefore' hfirst hfirst'

/-- Everything that can happen keeps the daemon confined. -/
theorem Confined.answer {m : Daemon} (h : Confined m) {e : DaemonEvent}
    (he : m.Enabled e) : Confined (m.answer e).1 := by
  cases e with
  | createDisplay c ctx => exact h.createDisplay c ctx
  | display i e => exact h.displayEvent he

theorem confined_step (m : Daemon) (e : DaemonEvent) (h : Confined m)
    (he : daemonMachine.enabled m e) : Confined (daemonMachine.step m e).1 :=
  h.answer he

/-- Displays keep their place, their setting and their autologin session. -/
structure Extends (m m' : Daemon) : Prop where
  displays : ∀ (i : Nat) (entry : DaemonDisplay),
    m.displays[i]? = some entry → ∃ entry' : DaemonDisplay,
      m'.displays[i]? = some entry' ∧ entry'.relogin = entry.relogin ∧
        entry'.display.autologinSession = entry.display.autologinSession

theorem Extends.refl (m : Daemon) : Extends m m :=
  ⟨fun _ entry h => ⟨entry, h, rfl, rfl⟩⟩

theorem Extends.trans {m m' m'' : Daemon} (h : Extends m m')
    (h' : Extends m' m'') : Extends m m'' := by
  constructor
  intro i entry hentry
  obtain ⟨entry', hentry', hrelogin, hsession⟩ := h.displays i entry hentry
  obtain ⟨entry'', hentry'', hrelogin', hsession'⟩ :=
    h'.displays i entry' hentry'
  exact ⟨entry'', hentry'', hrelogin'.trans hrelogin,
    hsession'.trans hsession⟩

theorem extends_answer (m : Daemon) (e : DaemonEvent) :
    Extends m (m.answer e).1 := by
  constructor
  intro k entry hentry
  cases e with
  | createDisplay c ctx =>
      refine ⟨entry, ?_, rfl, rfl⟩
      change (m.displays ++ [_])[k]? = some entry
      rw [List.getElem?_append_left (List.getElem?_eq_some_iff.1 hentry).1]
      exact hentry
  | display i e =>
      change ∃ entry', (m.displayEvent i e).1.displays[k]? = some entry' ∧ _
      unfold displayEvent
      split
      · exact ⟨entry, hentry, rfl, rfl⟩
      next own hown =>
        by_cases hik : i = k
        · subst hik
          rw [hown, Option.some.injEq] at hentry
          subst hentry
          refine ⟨_, List.getElem?_set_self
            (List.getElem?_eq_some_iff.1 hown).1, rfl, ?_⟩
          exact Display.answer_autologinSession ..
        · refine ⟨entry, ?_, rfl, rfl⟩
          rw [List.getElem?_set_ne hik]
          exact hentry

/-- An effect that starts a helper with the autologin flag on. -/
def StartsAutologin (x : DaemonEffect) : Prop :=
  ∃ auth, x.2.startedAuth = some auth ∧ auth.autologin = true

/-- The display at a position was constructed with the setting off. -/
def ReloginOff (m : Daemon) (i : Nat) : Prop :=
  ∃ entry, m.displays[i]? = some entry ∧ entry.relogin = false

theorem display_startsAutologin {d : Display} (h : d.FlagsConfined)
    {e : DisplayEvent} {x : DisplayEffect} (hx : x ∈ (d.answer e).2)
    {auth : Auth} (hauth : x.startedAuth = some auth)
    (hon : auth.autologin = true) : d.autologinSession.isValid = true := by
  cases x with
  | helperStart auth' =>
      cases hauth
      exact h.helperStart_armed hx hon
  | greeterStart auth' =>
      cases hauth
      rw [Display.greeterStart_autologin hx] at hon
      exact absurd hon (by decide)
  | _ => simp [DisplayEffect.startedAuth] at hauth

/-- A helper with the autologin flag only starts on a display with an
autologin session. -/
theorem Confined.startsAutologin {m : Daemon} (h : Confined m)
    {e : DaemonEvent} {x : DaemonEffect}
    (hx : x ∈ (m.answer e).2) (hstarts : StartsAutologin x) :
    ∃ entry, (m.answer e).1.displays[x.1]? = some entry ∧
      entry.display.autologinSession.isValid = true := by
  obtain ⟨auth, hauth, hon⟩ := hstarts
  cases e with
  | createDisplay c ctx =>
      obtain ⟨y, hy, rfl⟩ := List.mem_map.1 hx
      refine ⟨m.createdDisplay c ctx, List.getElem?_concat_length, ?_⟩
      rw [createdDisplay, Display.answer_autologinSession]
      exact display_startsAutologin
        (Display.flagsConfined_create _ _ _ _) hy hauth hon
  | display i e =>
      change x ∈ (m.displayEvent i e).2 at hx
      change ∃ entry, (m.displayEvent i e).1.displays[x.1]? = some entry ∧ _
      unfold Daemon.displayEvent at hx ⊢
      split at hx
      · exact absurd hx List.not_mem_nil
      next own hown =>
        obtain ⟨y, hy, rfl⟩ := List.mem_map.1 hx
        refine ⟨_, List.getElem?_set_self
          (List.getElem?_eq_some_iff.1 hown).1, ?_⟩
        rw [Display.answer_autologinSession]
        exact display_startsAutologin
          (h.flags own (List.mem_of_getElem? hown)) hy hauth hon

/-- A login that can arrive starts no helper with a flag on. -/
theorem Confined.login {m : Daemon} (h : Confined m) {i : Nat}
    {ctx : Context} {s : SocketId} {user password : QString}
    {session : Session}
    (he : m.Enabled (.display i (.login ctx s user password session)))
    {x : DaemonEffect} (hx : x ∈
      (m.answer (.display i (.login ctx s user password session))).2)
    {auth : Auth} (hauth : x.2.startedAuth = some auth) :
    auth.autologin = false ∧ auth.greeter = false := by
  obtain ⟨own, hown, henabled⟩ := he
  have hflags := h.flags own (List.mem_of_getElem? hown)
  simp only [Daemon.answer, Daemon.displayEvent, hown] at hx
  obtain ⟨y, hy, rfl⟩ := List.mem_map.1 hx
  cases y with
  | helperStart auth' =>
      cases hauth
      exact hflags.helperStart_login henabled hy
  | greeterStart auth' =>
      have hkinds := own.display.answer_kinds _ _ hy
      simp [DisplayEffect.kind, DisplayEvent.kinds] at hkinds
  | _ => simp [DisplayEffect.startedAuth] at hauth

/-- Logins start helpers with both flags off, and all the helpers started
with the autologin flag on displays constructed while the setting to log in
again was off belong to one display. -/
structure AutologinConfined (es : List DaemonEvent) : Prop where
  logins : ∀ st ∈ daemonMachine.steps {} es,
    ∀ i ctx s user password session,
      st.event = .display i (.login ctx s user password session) →
        ∀ x ∈ st.outputs, ∀ auth, x.2.startedAuth = some auth →
          auth.autologin = false ∧ auth.greeter = false
  unique : ∀ st ∈ daemonMachine.steps {} es, ∀ x ∈ st.outputs,
    ∀ st' ∈ daemonMachine.steps {} es, ∀ y ∈ st'.outputs,
      StartsAutologin x → ReloginOff (daemonMachine.exec {} es) x.1 →
        StartsAutologin y → ReloginOff (daemonMachine.exec {} es) y.1 →
          x.1 = y.1

/-- A start with the flag on under the setting off makes the display one of a
first login to the end of the run. -/
theorem firstLogin_of_startsAutologin {es : List DaemonEvent}
    (hrun : daemonMachine.Runs {} es)
    {st : Step Daemon DaemonEvent DaemonEffect}
    (hst : st ∈ daemonMachine.steps {} es) {x : DaemonEffect}
    (hx : x ∈ st.outputs) (hstarts : StartsAutologin x)
    (hoff : ReloginOff (daemonMachine.exec {} es) x.1) :
    ∃ entry, (daemonMachine.exec {} es).displays[x.1]? = some entry ∧
      entry.FirstLogin := by
  have hconfined := daemonMachine.steps_invariant confined_step
    confined_empty hrun st hst
  have hafter := daemonMachine.steps_related Extends.refl
    (fun _ _ _ h h' => h.trans h') extends_answer {} es st hst
  obtain ⟨pre, e, post, -, rfl⟩ :=
    (daemonMachine.mem_steps_iff {} es st).1 hst
  obtain ⟨entry, hentry, hvalid⟩ := hconfined.startsAutologin hx hstarts
  obtain ⟨entry', hentry', _, hsession⟩ := hafter.displays _ _ hentry
  obtain ⟨entry'', hentry'', hrelogin⟩ := hoff
  rw [hentry', Option.some.injEq] at hentry''
  subst hentry''
  exact ⟨entry', hentry', hrelogin, hsession ▸ hvalid⟩

end Daemon

open Daemon in
/-- Passwordless starts are confined in every run of the daemon. -/
theorem daemon_autologinConfined (es : List DaemonEvent)
    (hrun : daemonMachine.Runs {} es) : AutologinConfined es where
  logins st hst i ctx s user password session hevent x hx auth hauth := by
    have hconfined := daemonMachine.steps_invariant confined_step
      confined_empty hrun st hst
    have henabled := hrun st hst
    obtain ⟨pre, e, post, -, rfl⟩ :=
      (daemonMachine.mem_steps_iff {} es st).1 hst
    change e = _ at hevent
    subst hevent
    exact hconfined.login henabled hx hauth
  unique st hst x hx st' hst' y hy hstarts hoff hstarts' hoff' := by
    have hend := daemonMachine.exec_invariant confined_step confined_empty
      hrun
    obtain ⟨entry, hentry, hfirst⟩ :=
      firstLogin_of_startsAutologin hrun hst hx hstarts hoff
    obtain ⟨other, hother, hfirst'⟩ :=
      firstLogin_of_startsAutologin hrun hst' hy hstarts' hoff'
    exact hend.unique _ _ entry other hentry hother hfirst hfirst'

/-- Two displays are created, autologin fails on the first, and alice logs in
there. -/
def Daemon.autologinFails : List DaemonEvent :=
  let construction : Construction :=
    ⟨⟨false, "alice", "plasma"⟩, "seat0", 1, some 1, some 0,
      fun _ _ => .plasma⟩
  [.createDisplay construction { autologinUser := "alice" },
    .createDisplay construction { autologinUser := "alice" },
    .display 0 (.helperFrame (.authenticated [])),
    .display 0 (.helperFinished ⟨1, .normalExit, []⟩ []),
    .display 0 (.displayServerStarted {}), .display 0 (.newConnection 7),
    .display 0 (.login {} 7 "alice" "secret" .plasma)]

/-- The confinement of that run. -/
theorem daemon_autologinConfined_fails :
    Daemon.AutologinConfined Daemon.autologinFails :=
  daemon_autologinConfined _ (by decide)

end PlasmaLogin

/-
The environment a session is started with.  Every attempt that reaches the
helper inserts its variables into the handle, and nothing takes a variable
out again before the helper is told about all of them.
-/
import PlasmaLogin.SessionUnlock

namespace PlasmaLogin

open Mealy

namespace QProcessEnvironment

/-- Two environments with the same variables and values. -/
def Same (env env' : QProcessEnvironment) : Prop :=
  ∀ name, env.lookup name = env'.lookup name

theorem Same.symm {env env' : QProcessEnvironment} (h : Same env env') :
    Same env' env := fun name => (h name).symm

theorem Same.trans {env env' env'' : QProcessEnvironment}
    (h : Same env env') (h' : Same env' env'') : Same env env'' :=
  fun name => (h name).trans (h' name)

theorem mem_insert (env : QProcessEnvironment) (key value name : QString) :
    name ∈ QProcessEnvironment.insert env key value ↔
      name = key ∨ name ∈ env := AList.mem_insert env

theorem mem_insertAll (env other : QProcessEnvironment) (name : QString) :
    name ∈ env.insertAll other ↔ name ∈ env ∨ name ∈ other :=
  AList.mem_union.trans or_comm

theorem lookup_insertAll_of_mem {other : QProcessEnvironment}
    {name : QString} (env : QProcessEnvironment) (h : name ∈ other) :
    (env.insertAll other).lookup name = other.lookup name :=
  AList.lookup_union_left h

/-- A variable of several environments inserted one after the other is a
variable of one of them. -/
theorem mem_foldl_insertAll (env : QProcessEnvironment)
    (others : List QProcessEnvironment) (name : QString) :
    name ∈ others.foldl insertAll env ↔
      name ∈ env ∨ ∃ other ∈ others, name ∈ other := by
  induction others generalizing env with
  | nil => simp
  | cons other others ih =>
      rw [List.foldl_cons, ih, mem_insertAll]
      simp only [List.mem_cons, exists_eq_or_imp, or_assoc]

/-- Inserting the last environment changes nothing else exactly when it sets
every variable that is already there. -/
theorem same_insertAll_iff (env other : QProcessEnvironment) :
    Same (env.insertAll other) other ↔ ∀ name ∈ env, name ∈ other := by
  constructor
  · intro hsame name hname
    have hmem : name ∈ env.insertAll other :=
      (mem_insertAll env other name).2 (Or.inl hname)
    rw [← AList.lookup_isSome] at hmem ⊢
    rwa [← hsame name]
  · intro hcovered name
    by_cases hname : name ∈ other
    · exact lookup_insertAll_of_mem env hname
    · have hunion : name ∉ env.insertAll other := by
        rw [mem_insertAll]
        exact fun h => hname (h.elim (hcovered name) id)
      rw [AList.lookup_eq_none.2 hunion, AList.lookup_eq_none.2 hname]

end QProcessEnvironment

/-- What the environment of an attempt is made from. -/
structure AttemptInputs where
  user : QString
  session : Session
  seatName : QString
  defaultPath : QString
  newSessionId : Int32
  terminalId : Int32

namespace AttemptInputs

/-- The variables an attempt sets. -/
def environment (a : AttemptInputs) : QProcessEnvironment :=
  Display.sessionEnvironment
    { defaultPath := a.defaultPath, newSessionId := a.newSessionId } a.session
    { auth := { id := 0 }, seatName := a.seatName,
      sessionTerminalId := a.terminalId }

/-- The variables every attempt sets. -/
def alwaysSet : List QString :=
  ["PATH", "XDG_SEAT_PATH", "XDG_SESSION_PATH", "DESKTOP_SESSION",
    "XDG_SESSION_CLASS", "XDG_SESSION_TYPE", "XDG_SEAT",
    "XDG_SESSION_DESKTOP"]

/-- `a` sets every variable that `earlier` sets. -/
def Covers (a earlier : AttemptInputs) : Prop :=
  (earlier.session.desktopNames ≠ [] → a.session.desktopNames ≠ []) ∧
    (0 < earlier.terminalId → 0 < a.terminalId)

instance (a earlier : AttemptInputs) : Decidable (a.Covers earlier) :=
  inferInstanceAs (Decidable (_ ∧ _))

/-- Two variables depend on the attempt. -/
theorem mem_environment_iff (a : AttemptInputs) (name : QString) :
    name ∈ a.environment ↔ name ∈ alwaysSet ∨
      (name = ("XDG_CURRENT_DESKTOP" : QString) ∧
        a.session.desktopNames ≠ []) ∨
      (name = ("XDG_VTNR" : QString) ∧ 0 < a.terminalId) := by
  unfold environment Display.sessionEnvironment alwaysSet
  by_cases hnames : a.session.desktopNames = [] <;>
    by_cases hterminal : 0 < a.terminalId <;>
    simp only [hnames, hterminal, List.isEmpty_nil, List.isEmpty_iff,
      ↓reduceIte, QProcessEnvironment.mem_insert, AList.notMem_empty,
      List.mem_cons, List.not_mem_nil, ne_eq, not_true_eq_false,
      not_false_eq_true, and_true, and_false, or_false] <;>
    grind

/-- The names of the two variables are not among the others. -/
theorem covers_iff (a earlier : AttemptInputs) :
    a.Covers earlier ↔ ∀ name ∈ earlier.environment, name ∈ a.environment := by
  simp only [mem_environment_iff]
  constructor
  · rintro ⟨hnames, hterminal⟩ name
      (hname | ⟨rfl, hname⟩ | ⟨rfl, hname⟩)
    · exact Or.inl hname
    · exact Or.inr (Or.inl ⟨rfl, hnames hname⟩)
    · exact Or.inr (Or.inr ⟨rfl, hterminal hname⟩)
  · intro hall
    constructor
    · intro hset
      rcases hall _ (Or.inr (Or.inl ⟨rfl, hset⟩)) with
        hname | ⟨_, hname⟩ | ⟨hname, _⟩
      · exact absurd hname (by decide)
      · exact hname
      · exact absurd hname (by decide)
    · intro hset
      rcases hall _ (Or.inr (Or.inr ⟨rfl, hset⟩)) with
        hname | ⟨hname, _⟩ | ⟨_, hname⟩
      · exact absurd hname (by decide)
      · exact absurd hname (by decide)
      · exact hname

end AttemptInputs

namespace Display

/-- The attempt an event makes, as far as the session's environment goes. -/
def attemptInputs (d : Display) (e : DisplayEvent) : Option AttemptInputs :=
  (d.acceptedAttempt e).map fun t =>
    { user := t.user, session := t.session, seatName := d.seatName,
      defaultPath := t.ctx.defaultPath, newSessionId := t.ctx.newSessionId,
      terminalId := d.newSessionTerminal t.ctx }

/-- The attempts of a history that reached the helper. -/
def attempts (history : History) : List AttemptInputs :=
  history.filterMap fun st => st.before.attemptInputs st.event

/-- The environments a step sends to the helper. -/
def sentEnvironments (st : Step Display DisplayEvent DisplayEffect) :
    List QProcessEnvironment :=
  st.outputs.filterMap fun
    | .helperReply (.authenticated env) => some env
    | _ => none

theorem attempts_concat (history : History)
    (st : Step Display DisplayEvent DisplayEffect) :
    attempts (history ++ [st]) =
      attempts history ++ (st.before.attemptInputs st.event).toList := by
  unfold attempts
  rw [List.filterMap_append]
  cases h : st.before.attemptInputs st.event <;> simp [h]

theorem attemptBase_inputs (d : Display) (e : DisplayEvent) (ctx : Context) :
    (d.attemptBase e).seatName = d.seatName ∧
      (d.attemptBase e).newSessionTerminal ctx = d.newSessionTerminal ctx := by
  cases e <;> exact ⟨rfl, rfl⟩

/-- An accepted attempt adds its variables to those of the handle. -/
theorem environment_of_accepted {d : Display} {e : DisplayEvent} {t : Attempt}
    (h : d.acceptedAttempt e = some t) :
    ∃ a, d.attemptInputs e = some a ∧
      (d.answer e).1.auth.environment =
        d.auth.environment.insertAll a.environment := by
  refine ⟨_, by rw [attemptInputs, h, Option.map_some], ?_⟩
  have hbase : (d.attemptBase e).auth.environment = d.auth.environment :=
    (congrArg Auth.environment (d.attemptBase_auth e) :)
  obtain ⟨hseat, hterminal⟩ := d.attemptBase_inputs e t.ctx
  rw [answer_of_accepted h, ← hbase, ← hseat, ← hterminal]
  change (((d.attemptBase e).attemptAuth t).start).environment = _
  rw [Auth.start_eq]
  unfold attemptAuth preparedAuth
  cases ((d.attemptBase e).prepared t).reuseSessionId <;> rfl

theorem environment_of_quiet {d : Display} {e : DisplayEvent}
    (h : d.acceptedAttempt e = none) :
    (d.answer e).1.auth.environment = d.auth.environment := by
  rw [(answer_quiet h).kept.environment]
  unfold reported
  split <;> rfl

/-- The handle's environment is that of all attempts, one inserted after the
other. -/
def Accumulates (history : History) (d : Display) : Prop :=
  d.auth.environment = ((attempts history).map
    AttemptInputs.environment).foldl QProcessEnvironment.insertAll ∅

theorem Accumulates.step {history : History} {d : Display}
    (h : Accumulates history d) (e : DisplayEvent) :
    Accumulates (history ++ [displayMachine.fire d e]) (d.answer e).1 := by
  have hattempts : attempts (history ++ [displayMachine.fire d e]) =
      attempts history ++ (d.attemptInputs e).toList := attempts_concat history _
  unfold Accumulates
  rw [hattempts]
  cases haccepted : d.acceptedAttempt e with
  | some t =>
      obtain ⟨a, ha, henv⟩ := environment_of_accepted haccepted
      rw [henv, ha, h, Option.toList_some, List.map_append, List.foldl_append]
      rfl
  | none =>
      have hnone : d.attemptInputs e = none := by
        rw [attemptInputs, haccepted, Option.map_none]
      rw [environment_of_quiet haccepted, hnone, h, Option.toList_none,
        List.append_nil]

theorem accumulates_exec (seatName : QString) (terminalId : Int32)
    (authId : Int64) (autologinSession : Session) (es : List DisplayEvent) :
    Accumulates
      (displayMachine.steps
        (create seatName terminalId authId autologinSession) es)
      (displayMachine.exec
        (create seatName terminalId authId autologinSession) es) :=
  displayMachine.history_invariant (J := Accumulates) (G := fun _ _ => True)
    (fun _ _ e h _ => h.step e) rfl fun _ _ => trivial

/-- A reported user is answered with the handle's environment. -/
theorem sentEnvironments_authenticated (d : Display) {user : QString}
    (h : user ≠ []) :
    sentEnvironments (displayMachine.fire d
      (.helperFrame (.authenticated user))) = [d.auth.environment] := by
  change (d.dataPending (.authenticated user)).2.filterMap _ = _
  have huser : user.isEmpty = false := List.isEmpty_eq_false_iff.2 h
  rw [dataPending_authenticated, huser]
  simp only [slotAuthenticationFinished, Bool.not_true, Bool.and_false,
    Bool.false_eq_true, ↓reduceIte, andThen_snd]
  cases d.reuseSessionId <;> cases d.socket <;> rfl

/-- What two histories that end with the attempt `a` send to the helper is
the same, and all of it is set by `a`. -/
def Isolates (a : AttemptInputs)
    (st₁ st₂ : Step Display DisplayEvent DisplayEffect) : Prop :=
  ∃ env₁ env₂, sentEnvironments st₁ = [env₁] ∧ sentEnvironments st₂ = [env₂] ∧
    env₁.Same env₂ ∧ ∀ name, name ∈ env₁ ∨ name ∈ env₂ → name ∈ a.environment

/-- After a last attempt the handle has that attempt's variables alone
exactly when it covers the earlier ones. -/
theorem Accumulates.covers_iff {history : History} {d : Display}
    (h : Accumulates history d) {earlier : List AttemptInputs}
    {a : AttemptInputs} (ha : attempts history = earlier ++ [a]) :
    (∀ b ∈ earlier, a.Covers b) ↔
      ∀ name ∈ d.auth.environment, name ∈ a.environment := by
  have henv : ∀ name, name ∈ d.auth.environment ↔
      (∃ b ∈ earlier, name ∈ b.environment) ∨ name ∈ a.environment := by
    intro name
    rw [h, ha, QProcessEnvironment.mem_foldl_insertAll]
    simp [or_and_right, exists_or]
  simp only [AttemptInputs.covers_iff, henv]
  constructor
  · rintro hall name (⟨b, hb, hname⟩ | hname)
    · exact hall b hb name hname
    · exact hname
  · exact fun hall b hb name hname => hall name (Or.inl ⟨b, hb, hname⟩)

theorem Accumulates.same_of_covers {history : History} {d : Display}
    (h : Accumulates history d) {earlier : List AttemptInputs}
    {a : AttemptInputs} (ha : attempts history = earlier ++ [a])
    (hcovers : ∀ b ∈ earlier, a.Covers b) :
    d.auth.environment.Same a.environment := by
  have hmem := (h.covers_iff ha).1 hcovers
  unfold Accumulates at h
  rw [ha, List.map_append, List.foldl_append] at h
  change _ = QProcessEnvironment.insertAll _ a.environment at h
  rw [h] at hmem ⊢
  rw [QProcessEnvironment.same_insertAll_iff]
  exact fun name hname =>
    hmem name ((QProcessEnvironment.mem_insertAll _ _ _).2 (Or.inl hname))

end Display

open Display in
/-- Two histories with the same last attempt send the same environment, with
nothing of the earlier attempts in it, exactly when the last attempt sets
every variable that an earlier one has set. -/
theorem steps_isolates_iff (seatName₁ seatName₂ : QString)
    (terminalId₁ terminalId₂ : Int32) (authId₁ authId₂ : Int64)
    (autologinSession₁ autologinSession₂ : Session)
    (es₁ es₂ : List DisplayEvent) (earlier₁ earlier₂ : List AttemptInputs)
    (a : AttemptInputs) (user : QString) (huser : user ≠ [])
    (h₁ : attempts (displayMachine.steps
      (create seatName₁ terminalId₁ authId₁ autologinSession₁) es₁) =
        earlier₁ ++ [a])
    (h₂ : attempts (displayMachine.steps
      (create seatName₂ terminalId₂ authId₂ autologinSession₂) es₂) =
        earlier₂ ++ [a]) :
    Isolates a
      (displayMachine.fire (displayMachine.exec
        (create seatName₁ terminalId₁ authId₁ autologinSession₁) es₁)
        (.helperFrame (.authenticated user)))
      (displayMachine.fire (displayMachine.exec
        (create seatName₂ terminalId₂ authId₂ autologinSession₂) es₂)
        (.helperFrame (.authenticated user))) ↔
      ∀ b ∈ earlier₁ ++ earlier₂, a.Covers b := by
  have hacc₁ :=
    accumulates_exec seatName₁ terminalId₁ authId₁ autologinSession₁ es₁
  have hacc₂ :=
    accumulates_exec seatName₂ terminalId₂ authId₂ autologinSession₂ es₂
  rw [List.forall_mem_append]
  constructor
  · rintro ⟨env₁, env₂, hsent₁, hsent₂, _, hset⟩
    rw [sentEnvironments_authenticated _ huser, List.singleton_inj]
      at hsent₁ hsent₂
    subst hsent₁ hsent₂
    rw [hacc₁.covers_iff h₁, hacc₂.covers_iff h₂]
    exact ⟨fun name h => hset name (Or.inl h),
      fun name h => hset name (Or.inr h)⟩
  · rintro ⟨hcovers₁, hcovers₂⟩
    refine ⟨_, _, sentEnvironments_authenticated _ huser,
      sentEnvironments_authenticated _ huser, ?_, ?_⟩
    · exact (hacc₁.same_of_covers h₁ hcovers₁).trans
        (hacc₂.same_of_covers h₂ hcovers₂).symm
    · rintro name (hname | hname)
      · exact (hacc₁.covers_iff h₁).1 hcovers₁ name hname
      · exact (hacc₂.covers_iff h₂).1 hcovers₂ name hname

/-- A session with the given `DesktopNames`. -/
def Session.sway (desktopNames : QString) : Session where
  desktopFile := some
    { name := "sway.desktop", exec := "sway", desktopNames := desktopNames }

def Display.aliceLogsIn (desktopNames : QString) : DisplayEvent :=
  .login {} 7 "alice" "hunter2" (.sway desktopNames)

/-- alice's first password is wrong, and she tries again with a session
without `DesktopNames`. -/
def Display.aliceTriesAgain (desktopNames : QString) : List DisplayEvent :=
  [.start {}, .displayServerStarted {}, .newConnection 7,
    aliceLogsIn desktopNames, .helperFrame (.authenticated []),
    .helperFinished ⟨1, .normalExit, []⟩ [], aliceLogsIn []]

/-- alice's last attempt. -/
def Display.aliceInputs : AttemptInputs :=
  { user := "alice",
    session := .sway [],
    seatName := "seat0", defaultPath := [], newSessionId := 0,
    terminalId := 1 }

open Display in
/-- A first attempt with the same session leaves nothing behind. -/
theorem steps_isolates_iff_alice :
    Isolates aliceInputs
        (displayMachine.fire (displayMachine.exec (create "seat0" 1 1 {})
          (aliceTriesAgain [])) (.helperFrame (.authenticated "alice")))
        (displayMachine.fire (displayMachine.exec (create "seat0" 1 1 {})
          (aliceTriesAgain [])) (.helperFrame (.authenticated "alice"))) :=
  (steps_isolates_iff "seat0" "seat0" 1 1 1 1 {} {} (aliceTriesAgain [])
    (aliceTriesAgain []) [aliceInputs] [aliceInputs] aliceInputs "alice"
    (by decide) rfl rfl).2 (by decide)

open Display in
/-- After a failed attempt with a KDE session the helper is told
`XDG_CURRENT_DESKTOP=KDE` for a session that names no desktop. -/
theorem steps_not_isolates :
    ¬ ∀ (seatName₁ seatName₂ : QString) (terminalId₁ terminalId₂ : Int32)
      (authId₁ authId₂ : Int64) (autologinSession₁ autologinSession₂ : Session)
      (es₁ es₂ : List DisplayEvent) (earlier₁ earlier₂ : List AttemptInputs)
      (a : AttemptInputs) (user : QString), user ≠ [] →
        displayMachine.Runs
          (create seatName₁ terminalId₁ authId₁ autologinSession₁) es₁ →
        displayMachine.Runs
          (create seatName₂ terminalId₂ authId₂ autologinSession₂) es₂ →
        (∀ name, DisplayEvent.helperFrame (.authenticated name) ∈ es₁ ++ es₂ →
          name = []) →
        attempts (displayMachine.steps
          (create seatName₁ terminalId₁ authId₁ autologinSession₁) es₁) =
            earlier₁ ++ [a] →
        attempts (displayMachine.steps
          (create seatName₂ terminalId₂ authId₂ autologinSession₂) es₂) =
            earlier₂ ++ [a] →
          Isolates a
            (displayMachine.fire (displayMachine.exec
              (create seatName₁ terminalId₁ authId₁ autologinSession₁) es₁)
              (.helperFrame (.authenticated user)))
            (displayMachine.fire (displayMachine.exec
              (create seatName₂ terminalId₂ authId₂ autologinSession₂) es₂)
              (.helperFrame (.authenticated user))) := by
  intro hall
  have hfailed : ∀ name, DisplayEvent.helperFrame (.authenticated name) ∈
      aliceTriesAgain "KDE" ++ aliceTriesAgain [] → name = [] := by
    intro name hname
    simp only [aliceTriesAgain, aliceLogsIn, List.cons_append, List.nil_append,
      List.mem_cons, List.not_mem_nil, reduceCtorEq,
      DisplayEvent.helperFrame.injEq, HelperFrame.authenticated.injEq,
      false_or, or_false, or_self] at hname
    exact hname
  obtain ⟨env₁, env₂, hsent₁, hsent₂, hsame, _⟩ :=
    hall "seat0" "seat0" 1 1 1 1 {} {} (aliceTriesAgain "KDE")
      (aliceTriesAgain []) [{ aliceInputs with session := .sway "KDE" }]
      [aliceInputs] aliceInputs "alice" (by decide) (by decide) (by decide)
      hfailed rfl rfl
  cases hsent₁
  cases hsent₂
  exact absurd (hsame "XDG_CURRENT_DESKTOP") (by decide)

end PlasmaLogin

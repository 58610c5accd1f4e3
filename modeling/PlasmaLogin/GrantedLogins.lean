/-
What a display grants in one attempt: it tells the greeter of a success, and
unlocks a session to return to, exactly when PAM has authenticated a user and
the account may be used, whatever else happens meanwhile.
-/
import PlasmaLogin.OneVerdict

namespace PlasmaLogin

open Mealy

/-- The effects that let somebody in. -/
def DisplayEffect.grants : DisplayEffect → Bool
  | .loginSucceeded _ | .unlockSession _ | .activateSession _ => true
  | _ => false

/-- PAM authenticates the user, lets the account in and knows its name. -/
def PamBehaviour.accepts (pam : PamBehaviour) : Bool :=
  pam.start.success && pam.authenticates && !pam.userName.isEmpty

namespace PamBackend

theorem authenticated_not_mem_talk (xs : List Exchange) (d : PamData)
    (user : QString) : .authenticated user ∉ (talk xs d).2 := by
  intro hmem
  have hverdict : HelperFrame.authenticated user ∈
      (talk xs d).2.filter HelperFrame.isVerdict :=
    List.mem_filter.2 ⟨hmem, rfl⟩
  rw [verdicts_talk] at hverdict
  obtain ⟨x, _, hx⟩ := List.mem_flatMap.1 hverdict
  unfold Exchange.errorFrames at hx
  split at hx
  · obtain ⟨msg, _, hmsg⟩ := List.mem_filterMap.1 hx
    unfold PamMessage.errorFrame at hmsg
    split at hmsg
    · cases hmsg
    · cases hmsg
  · cases hx

/-- A PAM call reports nobody; what comes after it may. -/
theorem authenticated_mem_perform {call : PamCall} {error : AuthError}
    {next : PamData → PamData × List HelperFrame} {d : PamData}
    {user : QString} (h : .authenticated user ∈ (perform call error next d).2) :
    .authenticated user ∈ (next (talk call.exchanges d).1).2 := by
  unfold perform at h
  rw [andThen_snd, List.mem_append] at h
  rcases h with htalk | hnext
  · exact absurd htalk (authenticated_not_mem_talk _ _ _)
  · split at hnext
    · exact hnext
    · simp at hnext

theorem authenticated_not_mem_authenticate (pam : PamBehaviour) (d : PamData)
    (user : QString) : .authenticated user ∉ (authenticate pam d).2 :=
  fun h => absurd
    (authenticated_mem_perform (authenticated_mem_perform h)) (by simp)

theorem authenticated_not_mem_openSession (pam : PamBehaviour) (d : PamData)
    (user : QString) : .authenticated user ∉ (openSession pam d).2 :=
  fun h => absurd (authenticated_mem_perform (authenticated_mem_perform
    (authenticated_mem_perform h))) (by simp)

end PamBackend

/-- The helper reports a user only after PAM has accepted one. -/
theorem PamBehaviour.accepts_of_mem_doAuth {pam : PamBehaviour}
    {app : HelperApp} {user : QString} (huser : user ≠ [])
    (h : .authenticated user ∈ (HelperApp.doAuth pam app).1) :
    pam.accepts = true := by
  unfold HelperApp.doAuth at h
  cases hstart : pam.start.success with
  | false => simp [hstart, huser] at h
  | true =>
      have hauthenticate :=
        PamBackend.authenticated_not_mem_authenticate pam {} user
      have hopen := fun d =>
        PamBackend.authenticated_not_mem_openSession pam d user
      cases hauth : pam.authenticates with
      | false => simp [hstart, hauth, hauthenticate, huser] at h
      | true =>
          have hname : user = pam.userName := by
            simp only [hstart, hauth, Bool.not_true, Bool.false_eq_true,
              ↓reduceIte] at h
            split at h <;> simpa [hauthenticate, hopen] using h
          simp [accepts, hstart, hauth, ← hname, huser]

namespace Display

/-- An error is no success. -/
theorem not_grants_of_error {d : Display} {message : QString}
    {x : DisplayEffect}
    (hx : x ∈ (d.dataPending (.error message .authentication)).2) :
    x.grants = false := by
  change x ∈ d.slotAuthError message .authentication at hx
  unfold slotAuthError at hx
  split at hx
  · cases hx
  · simp only [↓reduceIte, List.mem_cons, List.not_mem_nil, or_false] at hx
    rcases hx with rfl | rfl <;> rfl

/-- A failed authentication is none either. -/
theorem not_grants_of_nobody {d : Display} {x : DisplayEffect}
    (hx : x ∈ (d.dataPending (.authenticated [])).2) : x.grants = false := by
  rw [dataPending_authenticated, List.isEmpty_nil, if_pos rfl] at hx
  unfold slotAuthenticationFinished at hx
  split at hx
  · cases hx
  · cases hsocket : d.socket with
    | none => simp [hsocket] at hx
    | some s =>
        simp only [hsocket, List.nil_append, List.mem_singleton] at hx
        rw [hx]
        rfl

theorem not_grants_of_login {ctx : Context} {s : SocketId}
    {user password : QString} {session : Session} {d : Display}
    {x : DisplayEffect} (hx : x ∈ (d.login ctx s user password session).2) :
    x.grants = false := by
  unfold login at hx
  split at hx
  · rw [List.mem_singleton.1 hx]
    rfl
  · have hkind := startAuth_kinds _ _ _ _ _ x hx
    cases x <;> simp_all [DisplayEffect.kind, DisplayEffect.grants]

/-- Only the report of a user makes the display grant anything. -/
theorem eq_authenticated_of_grants {d : Display} {e : DisplayEvent}
    {x : DisplayEffect} (hx : x ∈ (d.answer e).2) (hgrants : x.grants = true) :
    ∃ user, user ≠ [] ∧ e = .helperFrame (.authenticated user) := by
  have hkinds := d.answer_kinds e x hx
  have hkind : x.kind = .verdict ∨ x.kind = .unlock := by
    cases x <;> simp_all [DisplayEffect.grants, DisplayEffect.kind]
  cases e with
  | login ctx s user password session =>
      rw [not_grants_of_login hx] at hgrants
      cases hgrants
  | helperFrame frame =>
      cases frame with
      | error message type =>
          cases type with
          | authentication =>
              rw [not_grants_of_error hx] at hgrants
              cases hgrants
          | _ => rcases hkind with hkind | hkind <;>
              simp [hkind, DisplayEvent.kinds] at hkinds
      | authenticated user =>
          cases user with
          | nil =>
              rw [not_grants_of_nobody hx] at hgrants
              cases hgrants
          | cons c user => exact ⟨c :: user, List.cons_ne_nil c user, rfl⟩
      | _ => rcases hkind with hkind | hkind <;>
          simp [hkind, DisplayEvent.kinds] at hkinds
  | _ => rcases hkind with hkind | hkind <;>
      simp [hkind, DisplayEvent.kinds] at hkinds

theorem mem_of_grants_outputs {d : Display} {es : List DisplayEvent}
    {x : DisplayEffect} (hx : x ∈ displayMachine.outputs d es)
    (hgrants : x.grants = true) :
    ∃ user, user ≠ [] ∧ .helperFrame (.authenticated user) ∈ es := by
  obtain ⟨st, hst, hx⟩ := List.mem_flatMap.1 hx
  obtain ⟨pre, e, post, rfl, rfl⟩ := (displayMachine.mem_steps_iff d es st).1 hst
  obtain ⟨user, huser, rfl⟩ := eq_authenticated_of_grants hx hgrants
  exact ⟨user, huser, by simp⟩

/-- Whoever is waiting stays until a user is reported. -/
theorem answer_socket_of_open {d : Display} {e : DisplayEvent}
    (hframe : e.frame? = none) (hlogin : e.isLogin = false)
    (hopen : ∀ s, d.socket = some s → e ≠ .connectionClosed s) :
    (d.answer e).1.socket = d.socket := by
  cases hmoves : movesSocket e with
  | false => exact answer_socket hmoves d
  | true =>
      cases e with
      | connectionClosed s =>
          exact if_neg fun hs => hopen s hs rfl
      | helperFrame frame => simp [DisplayEvent.frame?] at hframe
      | login ctx s user password session =>
          simp [DisplayEvent.isLogin] at hlogin
      | _ => simp [movesSocket] at hmoves

/-- A frame leaves the connection, or it is the last one that concerns it. -/
theorem answer_frame_socket {d : Display} (hoff : d.auth.autologin = false)
    (frame : HelperFrame) :
    (d.answer (.helperFrame frame)).1.socket = d.socket ∨
      (d.answer (.helperFrame frame)).1.socket = none := by
  cases hmoves : movesSocket (.helperFrame frame) with
  | false => exact Or.inl (answer_socket hmoves d)
  | true =>
      cases frame with
      | authenticated user => exact Or.inr (socket_authenticated hoff user)
      | _ => simp [movesSocket] at hmoves

/-- Whatever happens in between, a greeter that stays hears all the verdicts
on the frames that come. -/
theorem verdicts_outputs_of_open {d : Display} (h : Settled d)
    {es : List DisplayEvent} (hrun : displayMachine.Runs d es)
    (hlogin : ∀ e ∈ es, e.isLogin = false)
    (hopen : ∀ s, d.socket = some s → .connectionClosed s ∉ es) :
    verdicts (displayMachine.outputs d es) =
      announces d.socket (es.filterMap DisplayEvent.frame?) := by
  induction es generalizing d with
  | nil => cases d.socket <;> rfl
  | cons e es ih =>
      rw [Machine.Runs, Machine.guarded_cons] at hrun
      rw [List.forall_mem_cons] at hlogin
      have hsettled : Settled (d.answer e).1 := h.answer hrun.1
      cases hframe : e.frame? with
      | some frame =>
          obtain rfl := DisplayEvent.eq_of_frame? hframe
          have hrest := ih hsettled hrun.2 hlogin.2 fun s hs hmem => by
            rcases answer_frame_socket h.autologin frame with hsame | hnone
            · exact hopen s (hsame ▸ hs) (List.mem_cons_of_mem _ hmem)
            · rw [hnone] at hs
              cases hs
          rw [Machine.outputs_cons, verdicts_append,
            List.filterMap_cons_some hframe, announces_cons h.autologin]
          exact congrArg _ hrest
      | none =>
          have hsilent : verdicts (d.answer e).2 = [] := by
            apply verdicts_eq_nil
            intro x hx hkind
            have hkinds := d.answer_kinds e x hx
            rw [hkind] at hkinds
            exact DisplayEvent.verdict_not_mem_kinds hframe hlogin.1 hkinds
          have hsame := answer_socket_of_open hframe hlogin.1
            fun s hs heq => hopen s hs (heq ▸ List.mem_cons_self)
          have hrest := ih hsettled hrun.2 hlogin.2 fun s hs hmem =>
            hopen s (hsame ▸ hs) (List.mem_cons_of_mem e hmem)
          rw [Machine.outputs_cons, verdicts_append,
            List.filterMap_cons_none hframe]
          change verdicts (d.answer e).2 ++ _ = _
          rw [hsilent, List.nil_append, ← hsame]
          exact hrest

theorem loginSucceeded_mem_verdicts {xs : List DisplayEffect} {s : SocketId} :
    .loginSucceeded s ∈ xs ↔ .loginSucceeded s ∈ verdicts xs := by
  simp [verdicts, DisplayEffect.kind]

/-- A greeter that hears everything hears of a success if PAM accepts. -/
theorem loginSucceeded_mem_announce_iff (pam : PamBehaviour) (app : HelperApp)
    (s : SocketId) :
    .loginSucceeded s ∈ announce s (HelperApp.doAuth pam app).1 ↔
      pam.accepts = true := by
  cases hstart : pam.start.success with
  | false =>
      rw [announce_doAuth_of_not_start hstart]
      simp [PamBehaviour.accepts, hstart]
  | true =>
      cases hauth : pam.authenticates with
      | false =>
          rw [announce_doAuth_of_failed hstart hauth]
          simp [PamBehaviour.accepts, hauth]
      | true =>
          rw [announce_doAuth_of_authenticates hstart hauth]
          cases huser : pam.userName <;>
            simp [PamBehaviour.accepts, hstart, hauth, huser, verdictOn]

end Display

open Display in
/-- Until the next login, whatever else happens: a display lets somebody in
only if PAM has accepted, and if the greeter stays, it is told so exactly
then. -/
theorem login_granted_iff (seatName : QString) (terminalId : Int32)
    (authId : Int64) (autologinSession : Session) (d : Display)
    (hreach : displayMachine.Reachable
      (create seatName terminalId authId autologinSession) d)
    (ctx : Context) (s : SocketId) (user password : QString)
    (session : Session)
    (henabled : d.Enabled (.login ctx s user password session))
    (haccepted : (d.acceptedAttempt
      (.login ctx s user password session)).isSome = true)
    (pam : PamBehaviour) (app : HelperApp) (es : List DisplayEvent)
    (hrun : displayMachine.Runs
      (d.answer (.login ctx s user password session)).1 es)
    (hlogin : ∀ e ∈ es, e.isLogin = false)
    (hframes : es.filterMap DisplayEvent.frame? <+:
      (HelperApp.doAuth pam app).1) :
    (∀ x ∈ displayMachine.outputs
        (d.answer (.login ctx s user password session)).1 es,
      x.grants = true → pam.accepts = true) ∧
    (es.filterMap DisplayEvent.frame? = (HelperApp.doAuth pam app).1 →
      .connectionClosed s ∉ es →
        (.loginSucceeded s ∈ displayMachine.outputs
            (d.answer (.login ctx s user password session)).1 es ↔
          pam.accepts = true)) := by
  have hflags : FlagsConfined d := hreach.invariant
    (flagsConfined_create seatName terminalId authId autologinSession)
    fun _ _ h he => h.answer he
  have hsettled := (hflags.settled henabled).answer henabled
  have hsocket :
      (d.answer (.login ctx s user password session)).1.socket = some s := by
    obtain ⟨t, ht⟩ := Option.isSome_iff_exists.1 haccepted
    rw [answer_of_accepted ht]
    rfl
  constructor
  · intro x hx hgrants
    obtain ⟨name, hname, hmem⟩ := mem_of_grants_outputs hx hgrants
    have hframe : .authenticated name ∈ es.filterMap DisplayEvent.frame? :=
      List.mem_filterMap.2 ⟨_, hmem, rfl⟩
    exact PamBehaviour.accepts_of_mem_doAuth hname (hframes.subset hframe)
  · intro hall hopen
    have hheard := verdicts_outputs_of_open hsettled hrun hlogin
      fun s' hs' hmem => by
        rw [hsocket, Option.some.injEq] at hs'
        exact hopen (hs' ▸ hmem)
    rw [loginSucceeded_mem_verdicts, hheard, hsocket, hall]
    exact loginSucceeded_mem_announce_iff pam app s

/-- PAM lets alice in, and her session starts. -/
def PamBehaviour.acceptsAlice : PamBehaviour where
  authenticate := ⟨[⟨[⟨.promptEchoOff, "Password: "⟩], id⟩], ⟨true, []⟩⟩
  userName := "alice"

open Display in
/-- alice is let in when all the frames have arrived. -/
theorem login_granted_alice :
    .loginSucceeded 7 ∈ displayMachine.outputs (withGreeter.answer aliceLogin).1
      ((HelperApp.doAuth .acceptsAlice
        { sessionPath := "startplasma-wayland", user := "alice" }).1.map
          DisplayEvent.helperFrame) :=
  ((login_granted_iff "seat0" 1 1 {} withGreeter
    ⟨[.start {}, .displayServerStarted {}, .newConnection 7],
      by decide, rfl⟩ _ _ _ _ _ (by decide) (by decide) .acceptsAlice
    { sessionPath := "startplasma-wayland", user := "alice" } _
    (runs_frames _ _) (by simp [DisplayEvent.isLogin])
    (by rw [List.filterMap_map]; exact List.filterMap_some ▸ List.prefix_rfl)).2
    (by rw [List.filterMap_map]; exact List.filterMap_some) (by simp)).2
    (by decide)

end PlasmaLogin

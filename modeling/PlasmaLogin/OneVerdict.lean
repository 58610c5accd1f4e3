/-
How many verdicts a greeter gets for one attempt.  The helper sends an error
frame for every error message PAM shows on the way and for the final failure,
and the display passes each of them on as a failed login.
-/
import PlasmaLogin.Verdicts

namespace PlasmaLogin

open Mealy

namespace Display

/-- The verdicts on the frames of one attempt, for a connection that stays:
nothing is said any more once the user was reported. -/
def announce (s : SocketId) : List HelperFrame → List DisplayEffect
  | [] => []
  | .authenticated user :: _ => [verdictOn user s]
  | .error _ .authentication :: frames => .loginFailed s :: announce s frames
  | _ :: frames => announce s frames

/-- The verdicts a display sends on frames. -/
def announces (socket : Option SocketId) (frames : List HelperFrame) :
    List DisplayEffect :=
  socket.elim [] fun s => announce s frames

theorem announce_cons_of_not_isVerdict {frame : HelperFrame}
    (h : frame.isVerdict = false) (s : SocketId) (frames : List HelperFrame) :
    announce s (frame :: frames) = announce s frames := by
  cases frame with
  | error message type => cases type <;> simp_all [announce]
  | authenticated user => simp at h
  | _ => rfl

/-- Only the verdict frames count. -/
theorem announce_filter (s : SocketId) (frames : List HelperFrame) :
    announce s (frames.filter HelperFrame.isVerdict) = announce s frames := by
  induction frames with
  | nil => rfl
  | cons frame frames ih =>
      cases hverdict : frame.isVerdict with
      | false =>
          rw [List.filter_cons_of_neg (by simp [hverdict]),
            announce_cons_of_not_isVerdict hverdict, ih]
      | true =>
          rw [List.filter_cons_of_pos hverdict]
          cases frame with
          | error message type =>
              cases type with
              | authentication => simp [announce, ih]
              | _ => simp [HelperFrame.isVerdict] at hverdict
          | authenticated user => rfl
          | _ => simp [HelperFrame.isVerdict] at hverdict

/-- Error frames give a failed login each. -/
theorem announce_errors (s : SocketId) {errors : List HelperFrame}
    (h : ∀ frame ∈ errors, ∃ text, frame = .error text .authentication)
    (frames : List HelperFrame) :
    announce s (errors ++ frames) =
      errors.map (fun _ => .loginFailed s) ++ announce s frames := by
  induction errors with
  | nil => rfl
  | cons error errors ih =>
      rw [List.forall_mem_cons] at h
      obtain ⟨⟨text, rfl⟩, hrest⟩ := h
      rw [List.cons_append, announce, ih hrest, List.map_cons,
        List.cons_append]

theorem announce_mono (s : SocketId) {first frames : List HelperFrame}
    (h : first <+: frames) : announce s first <+: announce s frames := by
  induction first generalizing frames with
  | nil => exact List.nil_prefix
  | cons frame first ih =>
      obtain ⟨rest, rfl⟩ := h
      have hrest := ih (List.prefix_append first rest)
      cases hverdict : frame.isVerdict with
      | false =>
          rw [List.cons_append, announce_cons_of_not_isVerdict hverdict,
            announce_cons_of_not_isVerdict hverdict]
          exact hrest
      | true =>
          cases frame with
          | error message type =>
              cases type with
              | authentication =>
                  exact List.cons_prefix_cons.2 ⟨rfl, hrest⟩
              | _ => simp [HelperFrame.isVerdict] at hverdict
          | authenticated user => exact List.prefix_rfl
          | _ => simp [HelperFrame.isVerdict] at hverdict

/-- One frame sends its verdict and leaves the others to the rest. -/
theorem announces_cons {d : Display} (hoff : d.auth.autologin = false)
    (frame : HelperFrame) (frames : List HelperFrame) :
    announces d.socket (frame :: frames) =
      verdicts (d.answer (.helperFrame frame)).2 ++
        announces (d.answer (.helperFrame frame)).1.socket frames := by
  cases hverdict : frame.isVerdict with
  | false =>
      have hsilent : verdicts (d.answer (.helperFrame frame)).2 = [] := by
        apply verdicts_eq_nil
        intro x hx hkind
        have hkinds := d.answer_kinds _ x hx
        rw [hkind] at hkinds
        cases frame with
        | error message type =>
            cases type <;>
              simp_all [DisplayEvent.kinds, HelperFrame.isVerdict]
        | authenticated user => simp at hverdict
        | _ => simp [DisplayEvent.kinds] at hkinds
      have hmoves : movesSocket (.helperFrame frame) = false := by
        cases frame <;> simp_all [movesSocket]
      rw [hsilent, answer_socket hmoves, List.nil_append]
      cases d.socket with
      | none => rfl
      | some s => exact announce_cons_of_not_isVerdict hverdict s frames
  | true =>
      cases frame with
      | error message type =>
          cases type with
          | authentication =>
              have hsent := verdicts_error d message
              change _ = verdicts (d.dataPending _).2 ++ announces d.socket _
              rw [hsent]
              cases d.socket <;> rfl
          | _ => simp [HelperFrame.isVerdict] at hverdict
      | authenticated user =>
          change _ = verdicts (d.dataPending _).2 ++
            announces (d.dataPending _).1.socket _
          rw [verdicts_authenticated hoff, socket_authenticated hoff]
          cases d.socket <;> rfl
      | _ => simp [HelperFrame.isVerdict] at hverdict

/-- Whatever else happens in between, nobody hears more than the verdicts on
the frames that came. -/
theorem verdicts_outputs_prefix {d : Display} (h : Settled d)
    {es : List DisplayEvent} (hrun : displayMachine.Runs d es)
    (hlogin : ∀ e ∈ es, e.isLogin = false) :
    verdicts (displayMachine.outputs d es) <+:
      announces d.socket (es.filterMap DisplayEvent.frame?) := by
  induction es generalizing d with
  | nil => exact List.nil_prefix
  | cons e es ih =>
      rw [Machine.Runs, Machine.guarded_cons] at hrun
      rw [List.forall_mem_cons] at hlogin
      have hrest := ih (h.answer hrun.1) hrun.2 hlogin.2
      rw [Machine.outputs_cons, verdicts_append]
      cases hframe : e.frame? with
      | some frame =>
          obtain rfl := DisplayEvent.eq_of_frame? hframe
          rw [List.filterMap_cons_some hframe, announces_cons h.autologin]
          exact (List.prefix_append_right_inj _).2 hrest
      | none =>
          have hsilent : verdicts (d.answer e).2 = [] := by
            apply verdicts_eq_nil
            intro x hx hkind
            have hkinds := d.answer_kinds e x hx
            rw [hkind] at hkinds
            exact DisplayEvent.verdict_not_mem_kinds hframe hlogin.1 hkinds
          change verdicts (d.answer e).2 ++ _ <+: _
          rw [List.filterMap_cons_none hframe, hsilent, List.nil_append]
          apply hrest.trans
          rcases answer_socket_or hframe hlogin.1 d with hsame | hnone
          · exact hsame ▸ List.prefix_rfl
          · rw [hnone]
            exact List.nil_prefix

/-- When only the frames arrive, every verdict on them is sent. -/
theorem verdicts_outputs_frames {d : Display} (h : Settled d)
    (frames : List HelperFrame) :
    verdicts (displayMachine.outputs d
      (frames.map DisplayEvent.helperFrame)) = announces d.socket frames := by
  induction frames generalizing d with
  | nil => cases d.socket <;> rfl
  | cons frame frames ih =>
      rw [List.map_cons, Machine.outputs_cons, verdicts_append]
      change verdicts (d.answer _).2 ++ verdicts
        (displayMachine.outputs (d.answer _).1 _) = _
      have hsettled : Settled (d.answer (.helperFrame frame)).1 :=
        h.answer (by trivial)
      rw [ih hsettled, announces_cons h.autologin]

theorem runs_frames (d : Display) (frames : List HelperFrame) :
    displayMachine.Runs d (frames.map DisplayEvent.helperFrame) := by
  induction frames generalizing d with
  | nil => exact displayMachine.guarded_nil _ d
  | cons frame frames ih =>
      exact (displayMachine.guarded_cons _ _ _ _).2 ⟨trivial, ih _⟩

end Display

namespace PamBehaviour

/-- The helper's authentication fails in the end. -/
def finallyFails (pam : PamBehaviour) : Bool :=
  !(pam.start.success && pam.authenticates)

theorem errorFrames_errors (pam : PamBehaviour) :
    ∀ frame ∈ pam.errorFrames, ∃ text, frame = .error text .authentication := by
  have herrors : ∀ x : Exchange, ∀ frame ∈ x.errorFrames,
      ∃ text, frame = .error text .authentication := by
    intro x frame hframe
    unfold Exchange.errorFrames at hframe
    split at hframe
    · obtain ⟨msg, _, hmsg⟩ := List.mem_filterMap.1 hframe
      unfold PamMessage.errorFrame at hmsg
      split at hmsg
      · exact ⟨msg.text, (Option.some.inj hmsg).symm⟩
      · simp at hmsg
    · simp at hframe
  intro frame hframe
  unfold errorFrames at hframe
  rcases List.mem_append.1 hframe with hframe | hframe
  · obtain ⟨x, _, hx⟩ := List.mem_flatMap.1 hframe
    exact herrors x frame hx
  · split at hframe
    · obtain ⟨x, _, hx⟩ := List.mem_flatMap.1 hframe
      exact herrors x frame hx
    · simp at hframe

end PamBehaviour

namespace Display

/-- What the greeter hears when the helper does not get started with PAM. -/
theorem announce_doAuth_of_not_start {pam : PamBehaviour}
    (h : pam.start.success = false) (app : HelperApp) (s : SocketId) :
    announce s (HelperApp.doAuth pam app).1 = [.loginFailed s] := by
  simp [HelperApp.doAuth, h, announce, verdictOn]

/-- What the greeter hears of a failed authentication. -/
theorem announce_doAuth_of_failed {pam : PamBehaviour}
    (hstart : pam.start.success = true) (h : pam.authenticates = false)
    (app : HelperApp) (s : SocketId) :
    announce s (HelperApp.doAuth pam app).1 =
      pam.errorFrames.map (fun _ => .loginFailed s) ++
        [.loginFailed s, .loginFailed s] := by
  obtain ⟨text, hverdicts⟩ := pam.verdicts_authenticate_of_failed h {}
  have hframes : (HelperApp.doAuth pam app).1 =
      (PamBackend.authenticate pam {}).2 ++ [.authenticated []] := by
    simp [HelperApp.doAuth, hstart, h]
  rw [hframes, ← announce_filter, List.filter_append, hverdicts,
    List.append_assoc, announce_errors s pam.errorFrames_errors]
  rfl

/-- What the greeter hears of a successful authentication. -/
theorem announce_doAuth_of_authenticates {pam : PamBehaviour}
    (hstart : pam.start.success = true) (h : pam.authenticates = true)
    (app : HelperApp) (s : SocketId) :
    announce s (HelperApp.doAuth pam app).1 =
      pam.errorFrames.map (fun _ => .loginFailed s) ++
        [verdictOn pam.userName s] := by
  have hverdicts := pam.verdicts_authenticate_of_authenticates h {}
  obtain ⟨rest, hframes⟩ : ∃ rest, (HelperApp.doAuth pam app).1 =
      (PamBackend.authenticate pam {}).2 ++
        .authenticated pam.userName :: rest := by
    unfold HelperApp.doAuth
    simp only [hstart, h, Bool.not_true, Bool.false_eq_true, ↓reduceIte]
    split
    · exact ⟨[], rfl⟩
    · exact ⟨_, rfl⟩
  rw [hframes, ← announce_filter, List.filter_append, hverdicts,
    List.filter_cons_of_pos (by simp),
    announce_errors s pam.errorFrames_errors, announce]

/-- Until the next login, a greeter gets at most one verdict on an attempt
the display just started a helper for, and a failed one only when the
authentication fails in the end. -/
def OneVerdict (d : Display) (pam : PamBehaviour) (app : HelperApp) : Prop :=
  ∀ es : List DisplayEvent, displayMachine.Runs d es →
    (∀ e ∈ es, e.isLogin = false) →
    es.filterMap DisplayEvent.frame? <+: (HelperApp.doAuth pam app).1 →
      (verdicts (displayMachine.outputs d es)).length ≤ 1 ∧
        ∀ s, .loginFailed s ∈ displayMachine.outputs d es →
          pam.finallyFails = true

/-- It is enough to look at all the verdicts on all the frames. -/
theorem oneVerdict_iff_announce {d : Display} (h : Settled d) {s : SocketId}
    (hs : d.socket = some s) (pam : PamBehaviour) (app : HelperApp) :
    d.OneVerdict pam app ↔
      (announce s (HelperApp.doAuth pam app).1).length ≤ 1 ∧
        ∀ s', .loginFailed s' ∈ announce s (HelperApp.doAuth pam app).1 →
          pam.finallyFails = true := by
  have hmem : ∀ (xs : List DisplayEffect) s', .loginFailed s' ∈ xs ↔
      .loginFailed s' ∈ verdicts xs := by
    simp [verdicts, DisplayEffect.kind]
  constructor
  · intro hone
    have hsent := verdicts_outputs_frames h (HelperApp.doAuth pam app).1
    rw [hs] at hsent
    change _ = announce s _ at hsent
    obtain ⟨hlength, hfailed⟩ := hone
      ((HelperApp.doAuth pam app).1.map DisplayEvent.helperFrame)
      (runs_frames d _)
      (by simp [DisplayEvent.isLogin])
      (by
        have hframes : ∀ frames : List HelperFrame,
            (frames.map DisplayEvent.helperFrame).filterMap
              DisplayEvent.frame? = frames := by
          intro frames
          rw [List.filterMap_map]
          exact List.filterMap_some
        exact hframes _ ▸ List.prefix_rfl)
    rw [hsent] at hlength
    refine ⟨hlength, fun s' hs' => hfailed s' ?_⟩
    rw [hmem, hsent]
    exact hs'
  · rintro ⟨hlength, hfailed⟩ es hrun hlogin hframes
    have hprefix := verdicts_outputs_prefix h hrun hlogin
    rw [hs] at hprefix
    have hall := hprefix.trans (announce_mono s hframes)
    refine ⟨hall.length_le.trans hlength, fun s' hs' => hfailed s' ?_⟩
    exact hall.subset ((hmem _ s').1 hs')

end Display

open Display in
/-- An attempt of a greeter gets one verdict exactly when PAM cannot be
started, or it shows no error message and authenticates a named user. -/
theorem login_oneVerdict_iff (seatName : QString) (terminalId : Int32)
    (authId : Int64) (autologinSession : Session) (d : Display)
    (hreach : displayMachine.Reachable
      (create seatName terminalId authId autologinSession) d)
    (ctx : Context) (s : SocketId) (user password : QString)
    (session : Session)
    (henabled : d.Enabled (.login ctx s user password session))
    (haccepted : (d.acceptedAttempt
      (.login ctx s user password session)).isSome = true)
    (pam : PamBehaviour) (app : HelperApp) :
    (d.answer (.login ctx s user password session)).1.OneVerdict pam app ↔
      pam.start.success = false ∨
        pam.errorFrames = [] ∧ pam.authenticates = true ∧
          pam.userName ≠ [] := by
  have hflags : FlagsConfined d := hreach.invariant
    (flagsConfined_create seatName terminalId authId autologinSession)
    fun _ _ h he => h.answer he
  have hsettled := (hflags.settled henabled).answer henabled
  have hsocket :
      (d.answer (.login ctx s user password session)).1.socket = some s := by
    obtain ⟨t, ht⟩ := Option.isSome_iff_exists.1 haccepted
    rw [answer_of_accepted ht]
    rfl
  rw [oneVerdict_iff_announce hsettled hsocket]
  cases hstart : pam.start.success with
  | false =>
      rw [announce_doAuth_of_not_start hstart]
      simp [PamBehaviour.finallyFails, hstart]
  | true =>
      cases hauth : pam.authenticates with
      | false =>
          rw [announce_doAuth_of_failed hstart hauth]
          simp
      | true =>
          rw [announce_doAuth_of_authenticates hstart hauth]
          have hfails : pam.finallyFails = false := by
            simp [PamBehaviour.finallyFails, hstart, hauth]
          cases herrors : pam.errorFrames with
          | nil => cases huser : pam.userName <;> simp [hfails, verdictOn]
          | cons frame frames => simp

/-- A display whose greeter is connected. -/
def Display.withGreeter : Display :=
  displayMachine.exec (create "seat0" 1 1 {})
    [.start {}, .displayServerStarted {}, .newConnection 7]

/-- alice asks for a new session. -/
def Display.aliceLogin : DisplayEvent :=
  .login {} 7 "alice" "secret" .plasma

open Display in
/-- An accepted password gets one verdict. -/
theorem login_oneVerdict_alice :
    (withGreeter.answer aliceLogin).1.OneVerdict
      ⟨⟨true, []⟩, ⟨[], ⟨true, []⟩⟩, [], .success, ⟨[], ⟨true, []⟩⟩, "alice",
        ⟨[], ⟨true, []⟩⟩, ⟨true, []⟩, ⟨[], ⟨true, []⟩⟩, true⟩
      { sessionPath := "startplasma-wayland", user := "alice" } :=
  (login_oneVerdict_iff "seat0" 1 1 {} withGreeter
    ⟨[.start {}, .displayServerStarted {}, .newConnection 7],
      by decide, rfl⟩ _ _ _ _ _ (by decide) (by decide) _ _).2
    (Or.inr ⟨rfl, rfl, by decide⟩)

open Display in
/-- A wrong password gets two verdicts: one on the error frame and one on the
end of the authentication. -/
theorem login_not_oneVerdict :
    ¬ ∀ (seatName : QString) (terminalId : Int32) (authId : Int64)
      (autologinSession : Session) (d : Display),
        displayMachine.Reachable
            (create seatName terminalId authId autologinSession) d →
          ∀ (ctx : Context) (s : SocketId) (user password : QString)
            (session : Session),
              d.Enabled (.login ctx s user password session) →
              (d.acceptedAttempt
                (.login ctx s user password session)).isSome = true →
                ∀ (pam : PamBehaviour) (app : HelperApp),
                  (d.answer (.login ctx s user password session)).1.OneVerdict
                    pam app := by
  intro hall
  have hone := hall "seat0" 1 1 {} withGreeter
    ⟨[.start {}, .displayServerStarted {}, .newConnection 7],
      by decide, rfl⟩ {} 7 "alice" "secret" .plasma
    (by decide) (by decide)
    { authenticate :=
        ⟨[⟨[⟨.promptEchoOff, "Password: "⟩], id⟩],
          ⟨false, "Authentication failure"⟩⟩,
      userName := "alice" } {}
    [.helperFrame (.request ⟨[.ask .loginPassword "Password: " true]⟩),
      .helperFrame (.error "Authentication failure" .authentication),
      .helperFrame (.authenticated [])]
    (by decide) (by decide) List.prefix_rfl
  exact absurd hone.1 (by decide)

end PlasmaLogin

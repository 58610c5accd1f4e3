/-
The `--start` option of the helpers a display starts.  The session path stays
in the handle from attempt to attempt and is only overwritten by an attempt
that finds no session to return to.
-/
import PlasmaLogin.Attempts

namespace PlasmaLogin

open Mealy

namespace Display

/-- An accepted attempt that is to open a new session. -/
def opensSession (d : Display) (e : DisplayEvent) : Bool :=
  (d.acceptedAttempt e).any fun t => t.reused.isNone

/-- An accepted attempt that is to return to an existing session. -/
def returnsToSession (d : Display) (e : DisplayEvent) : Bool :=
  (d.acceptedAttempt e).any fun t => t.reused.isSome

/-- Every helper a step starts gets the command of the session chosen in the
step's own attempt, or none when the attempt found a session to return to. -/
def StartsOwnCommand (st : Step Display DisplayEvent DisplayEffect) : Prop :=
  ∀ auth, DisplayEffect.helperStart auth ∈ st.outputs →
    ∃ t, st.before.attemptOf st.event = some t ∧
      auth.startOption =
        if t.reused.isNone then some t.session.exec else none

theorem attemptAuth_startOption_iff {d : Display} {t : Attempt}
    (ht : t.session.startable = true) :
    (d.attemptAuth t).startOption =
        (if t.reused.isNone then some t.session.exec else none) ↔
      (t.reused.isSome = true → d.auth.sessionPath = []) := by
  rw [Auth.startOption, attemptAuth_sessionPath]
  cases t.reused with
  | none => simp [Session.exec_ne_nil_of_startable ht]
  | some id => simp

/-- A step goes wrong exactly when it returns to a session while a path is
still stored. -/
theorem startsOwnCommand_fire_iff (d : Display) (e : DisplayEvent) :
    StartsOwnCommand (displayMachine.fire d e) ↔
      (d.returnsToSession e = true → d.auth.sessionPath = []) := by
  cases haccepted : d.acceptedAttempt e with
  | none =>
      refine iff_of_true ?_ (by simp [returnsToSession, haccepted])
      intro auth hstart
      exact absurd hstart ((answer_quiet haccepted).no_start auth)
  | some t =>
      obtain ⟨hattempt, hready⟩ := acceptedAttempt_eq_some_iff.1 haccepted
      rw [Bool.and_eq_true] at hready
      have hstarts : StartsOwnCommand (displayMachine.fire d e) ↔
          ((d.attemptBase e).attemptAuth t).startOption =
            if t.reused.isNone then some t.session.exec else none := by
        have houtputs : (displayMachine.fire d e).outputs =
            [.helperStart ((d.attemptBase e).attemptAuth t)] :=
          congrArg Prod.snd (answer_of_accepted haccepted)
        simp only [StartsOwnCommand, houtputs, List.mem_singleton,
          DisplayEffect.helperStart.injEq, forall_eq]
        change (∃ t', d.attemptOf e = some t' ∧ _) ↔ _
        simp [hattempt]
      rw [hstarts, attemptAuth_startOption_iff hready.2,
        attemptBase_sessionPath]
      simp [returnsToSession, haccepted]

/-- The stored path after a step. -/
theorem answer_sessionPath (d : Display) (e : DisplayEvent) :
    (d.answer e).1.auth.sessionPath ≠ [] ↔
      d.opensSession e = true ∨ d.auth.sessionPath ≠ [] := by
  cases haccepted : d.acceptedAttempt e with
  | none =>
      rw [(answer_quiet haccepted).kept.sessionPath, reported_sessionPath]
      simp [opensSession, haccepted]
  | some t =>
      have hready := (acceptedAttempt_eq_some_iff.1 haccepted).2
      rw [Bool.and_eq_true] at hready
      have hpath : (d.answer e).1.auth.sessionPath =
          ((d.attemptBase e).attemptAuth t).sessionPath := by
        rw [answer_of_accepted haccepted]
        exact Auth.start_sessionPath _
      rw [hpath, attemptAuth_sessionPath, attemptBase_sessionPath]
      cases hreused : t.reused with
      | none =>
          simp [opensSession, haccepted, hreused,
            Session.exec_ne_nil_of_startable hready.2]
      | some id => simp [opensSession, haccepted, hreused]

/-- A path is stored once an attempt has opened a session. -/
theorem exec_sessionPath (d : Display) (hd : d.auth.sessionPath = [])
    (es : List DisplayEvent) :
    (displayMachine.exec d es).auth.sessionPath ≠ [] ↔
      ∃ st ∈ displayMachine.steps d es,
        st.before.opensSession st.event = true := by
  refine displayMachine.history_invariant
    (J := fun history (d : Display) => d.auth.sessionPath ≠ [] ↔
      ∃ st ∈ history, st.before.opensSession st.event = true)
    (G := fun _ _ => True) ?_ (by simpa using hd) (fun _ _ => trivial)
  intro history d e hhistory _
  change (d.answer e).1.auth.sessionPath ≠ [] ↔ _
  rw [answer_sessionPath, hhistory]
  constructor
  · rintro (hopens | ⟨st, hst, hopens⟩)
    · exact ⟨displayMachine.fire d e, by simp, hopens⟩
    · exact ⟨st, List.mem_append_left _ hst, hopens⟩
  · rintro ⟨st, hst, hopens⟩
    rcases List.mem_append.1 hst with hst | hst
    · exact Or.inr ⟨st, hst, hopens⟩
    · rw [List.mem_singleton.1 hst] at hopens
      exact Or.inl hopens

end Display

open Display in
/-- In a run of a display every helper gets its own attempt's command if and
only if no attempt that returns to a session comes after one that opened a
session. -/
theorem steps_startsOwnCommand_iff (seatName : QString) (terminalId : Int32)
    (authId : Int64) (autologinSession : Session) (es : List DisplayEvent) :
    (∀ st ∈ displayMachine.steps
        (create seatName terminalId authId autologinSession) es,
      StartsOwnCommand st) ↔
      ∀ pre e post, es = pre ++ e :: post →
        returnsToSession (displayMachine.exec
          (create seatName terminalId authId autologinSession) pre) e = true →
        ∀ st ∈ displayMachine.steps
            (create seatName terminalId authId autologinSession) pre,
          st.before.opensSession st.event = false := by
  have hpath := exec_sessionPath
    (create seatName terminalId authId autologinSession) rfl
  have hstored : ∀ pre : List DisplayEvent,
      (displayMachine.exec
        (create seatName terminalId authId autologinSession)
          pre).auth.sessionPath = [] ↔
        ∀ st ∈ displayMachine.steps
            (create seatName terminalId authId autologinSession) pre,
          st.before.opensSession st.event = false := by
    intro pre
    rw [← not_iff_not, ← ne_eq, hpath pre]
    simp
  constructor
  · intro hall pre e post hes hreturns
    have hst := hall _ ((displayMachine.mem_steps_iff _ _ _).2
      ⟨pre, e, post, hes, rfl⟩)
    exact (hstored pre).1 ((startsOwnCommand_fire_iff _ e).1 hst hreturns)
  · intro hall st hst
    obtain ⟨pre, e, post, hes, rfl⟩ :=
      (displayMachine.mem_steps_iff _ _ _).1 hst
    rw [startsOwnCommand_fire_iff]
    exact fun hreturns => (hstored pre).2 (hall pre e post hes hreturns)

/-- alice mistypes her password, then bob returns to his session. -/
def Display.aliceThenBob : List DisplayEvent :=
  [.start {}, .displayServerStarted {}, .newConnection 7,
    .login {} 7 "alice" "secert" .plasma,
    .helperFrame (.authenticated []),
    .helperFinished ⟨1, .normalExit, []⟩ [],
    .login { logind := some [⟨"c2", "bob", "plasmalogin", "online"⟩] } 7 "bob"
      "hunter2" .plasma]

/-- The helper that was only to authenticate bob opens a session. -/
theorem steps_not_startsOwnCommand :
    ¬ ∀ (seatName : QString) (terminalId : Int32) (authId : Int64)
      (autologinSession : Session) (es : List DisplayEvent),
        displayMachine.Runs
            (.create seatName terminalId authId autologinSession) es →
          ∀ st ∈ displayMachine.steps
              (.create seatName terminalId authId autologinSession) es,
            Display.StartsOwnCommand st := by
  intro hall
  have hown := hall "seat0" 1 1 {} Display.aliceThenBob (by decide)
    _ ((displayMachine.mem_steps_iff _ _ _).2
      ⟨Display.aliceThenBob.dropLast, _, [], rfl, rfl⟩)
  rw [Display.startsOwnCommand_fire_iff] at hown
  exact absurd (hown (by decide)) (by decide)

end PlasmaLogin

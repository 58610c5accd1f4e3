/-
Whose session a successful login unlocks.  The session is looked up under the
requested name before authentication; the name that was authenticated comes
back later, and nothing compares the two.
-/
import PlasmaLogin.Attempts

namespace PlasmaLogin

open Mealy

namespace Display

/-- A history of a display. -/
abbrev History := List (Step Display DisplayEvent DisplayEffect)

/-- The last attempt of a history that got as far as the helper. -/
def lastAttempt (history : History) : Option Attempt :=
  (history.filterMap fun st => st.before.acceptedAttempt st.event).getLast?

/-- The session ids a step asks logind to unlock or to activate. -/
def unlocked (st : Step Display DisplayEvent DisplayEffect) : List QString :=
  st.outputs.filterMap fun
    | .unlockSession id | .activateSession id => some id
    | _ => none

/-- Whatever a step unlocks after a history is, in logind's list at the time
of the last attempt, a session of the user the step reports. -/
def UnlocksReportedUser (history : History)
    (st : Step Display DisplayEvent DisplayEffect) : Prop :=
  ∀ id ∈ unlocked st, ∃ user t, st.event = .helperFrame (.authenticated user) ∧
    lastAttempt history = some t ∧
      ∃ s ∈ t.logindSessions, s.sessionId = id ∧ s.userName = user

/-- A reported user is the one that was asked for, unless there is no session
to return to. -/
def ReportsRequestedUser (d : Display) (e : DisplayEvent) : Prop :=
  ∀ user, e = .helperFrame (.authenticated user) → user ≠ [] →
    d.reuseSessionId = none ∨ user = d.auth.user

theorem lastAttempt_concat (history : History)
    (st : Step Display DisplayEvent DisplayEffect) :
    lastAttempt (history ++ [st]) =
      (st.before.acceptedAttempt st.event).or (lastAttempt history) := by
  unfold lastAttempt
  rw [List.filterMap_append]
  cases h : st.before.acceptedAttempt st.event <;> simp [h]

/-- The session to return to and the user are those of the last attempt. -/
structure Remembers (history : History) (d : Display) : Prop where
  reuse : d.reuseSessionId = (lastAttempt history).bind Attempt.reused
  user : ∀ t, lastAttempt history = some t → d.reuseSessionId ≠ none →
    d.auth.user = t.user

theorem Remembers.step {history : History} {d : Display} {e : DisplayEvent}
    (h : Remembers history d) (he : ReportsRequestedUser d e) :
    Remembers (history ++ [displayMachine.fire d e]) (d.answer e).1 := by
  have hlast : lastAttempt (history ++ [displayMachine.fire d e]) =
      (d.acceptedAttempt e).or (lastAttempt history) :=
    lastAttempt_concat history _
  cases haccepted : d.acceptedAttempt e with
  | some t =>
      rw [haccepted, Option.some_or] at hlast
      constructor
      · rw [hlast, answer_of_accepted haccepted]
        rfl
      · intro t' ht' _
        rw [hlast, Option.some.injEq] at ht'
        subst ht'
        rw [answer_of_accepted haccepted]
        exact (Auth.start_user _).trans (attemptAuth_user _ t)
  | none =>
      rw [haccepted, Option.none_or] at hlast
      have hkept := (answer_quiet haccepted).kept
      have hreuse : (d.answer e).1.reuseSessionId = d.reuseSessionId := by
        rw [hkept.reuseSessionId, reported_reuseSessionId]
      constructor
      · rw [hreuse, hlast, h.reuse]
      · intro t ht hsome
        rw [hlast] at ht
        rw [hreuse] at hsome
        rw [hkept.user]
        unfold reported
        split
        next c user =>
          rcases he _ rfl (List.cons_ne_nil c user) with hnone | huser
          · exact absurd hnone hsome
          · exact huser.trans (h.user t ht hsome)
        · exact h.user t ht hsome

/-- Only the report of a user unlocks, and only the session to return to. -/
theorem mem_unlocked_fire {d : Display} {e : DisplayEvent} {id : QString}
    (hid : id ∈ unlocked (displayMachine.fire d e)) :
    ∃ user, e = .helperFrame (.authenticated user) ∧ user ≠ [] ∧
      d.reuseSessionId = some id := by
  obtain ⟨x, hx, hmatch⟩ := List.mem_filterMap.1 hid
  change x ∈ (d.answer e).2 at hx
  have hunlock : x = .unlockSession id ∨ x = .activateSession id := by
    cases x <;> simp_all
  have hkind : x.kind = .unlock := by
    rcases hunlock with rfl | rfl <;> rfl
  have hkinds := answer_kinds d e x hx
  rw [hkind] at hkinds
  unfold DisplayEvent.kinds at hkinds
  split at hkinds <;> simp at hkinds
  next c user =>
    refine ⟨c :: user, rfl, List.cons_ne_nil c user, ?_⟩
    simp only [answer, dataPending_authenticated, List.isEmpty_cons,
      Bool.false_eq_true, ↓reduceIte, andThen_snd,
      slotAuthenticationFinished, Bool.not_true, Bool.and_false] at hx
    cases hreuse : d.reuseSessionId with
    | none =>
        cases hs : d.socket <;>
          rcases hunlock with rfl | rfl <;> simp [hreuse, hs] at hx
    | some id' =>
        cases hs : d.socket <;>
          rcases hunlock with rfl | rfl <;> simp_all

end Display

open Display in
/-- In a run of a display whose helpers only ever report the requested user
while there is a session to return to, every unlocked session belongs to the
user reported at that moment. -/
theorem steps_unlocksReportedUser (seatName : QString) (terminalId : Int32)
    (authId : Int64) (autologinSession : Session) (es : List DisplayEvent)
    (hreports : displayMachine.Guarded ReportsRequestedUser
      (create seatName terminalId authId autologinSession) es)
    (pre : List DisplayEvent) (e : DisplayEvent) (post : List DisplayEvent)
    (hes : es = pre ++ e :: post) :
    UnlocksReportedUser
      (displayMachine.steps
        (create seatName terminalId authId autologinSession) pre)
      (displayMachine.fire (displayMachine.exec
        (create seatName terminalId authId autologinSession) pre) e) := by
  subst hes
  rw [Machine.guarded_append, Machine.guarded_cons] at hreports
  obtain ⟨hpre, hevent, _⟩ := hreports
  have hremembers := displayMachine.history_invariant
    (J := Remembers) (fun _ _ _ h he => h.step he)
    ⟨rfl, fun t ht => absurd ht (by simp [lastAttempt])⟩ hpre
  intro id hid
  obtain ⟨user, rfl, huser, hreuse⟩ := mem_unlocked_fire hid
  have hlast := hremembers.reuse
  rw [hreuse] at hlast
  obtain ⟨t, ht, hreused⟩ := Option.bind_eq_some_iff.1 hlast.symm
  obtain ⟨s, hs, hsession, hname⟩ := Attempt.exists_of_reused hreused
  refine ⟨user, t, rfl, ht, s, hs, hsession, ?_⟩
  rcases hevent user rfl huser with hnone | hsame
  · rw [hreuse] at hnone
    exact absurd hnone (by simp)
  · rw [hname, hsame]
    exact (hremembers.user t ht (by simp [hreuse])).symm

/-- bob asks for his session and `user` is authenticated. -/
def Display.bobReturns (user : QString) : List DisplayEvent :=
  [.start {}, .displayServerStarted {}, .newConnection 7,
    .login { logind := some [⟨"c2", "bob", "plasmalogin", "online"⟩] } 7 "bob"
      "hunter2" .plasma,
    .helperFrame (.authenticated user)]

open Display in
/-- bob returns to his own session. -/
theorem steps_unlocksReportedUser_bob :
    UnlocksReportedUser
      (displayMachine.steps (create "seat0" 1 1 {})
        (bobReturns "bob").dropLast)
      (displayMachine.fire (displayMachine.exec (create "seat0" 1 1 {})
        (bobReturns "bob").dropLast) (.helperFrame (.authenticated "bob"))) :=
  steps_unlocksReportedUser "seat0" 1 1 {} (bobReturns "bob")
    (by
      intro st hst user huser hne
      simp only [bobReturns, Machine.steps_cons, Machine.steps_nil,
        List.mem_cons, List.not_mem_nil, or_false] at hst
      rcases hst with rfl | rfl | rfl | rfl | rfl
      · exact absurd huser (by simp [Machine.fire])
      · exact absurd huser (by simp [Machine.fire])
      · exact absurd huser (by simp [Machine.fire])
      · exact absurd huser (by simp [Machine.fire])
      · cases huser
        exact Or.inr (by decide))
    _ _ [] rfl

open Display in
/-- A module maps bob to carol, and bob's session is unlocked for her. -/
theorem steps_not_unlocksReportedUser :
    ¬ ∀ (seatName : QString) (terminalId : Int32) (authId : Int64)
      (autologinSession : Session) (pre : List DisplayEvent)
      (e : DisplayEvent),
        displayMachine.Runs
            (create seatName terminalId authId autologinSession)
            (pre ++ [e]) →
          UnlocksReportedUser
            (displayMachine.steps
              (create seatName terminalId authId autologinSession) pre)
            (displayMachine.fire (displayMachine.exec
              (create seatName terminalId authId autologinSession) pre) e) := by
  intro hall
  have hunlocks := hall "seat0" 1 1 {} (bobReturns "carol").dropLast
    (.helperFrame (.authenticated "carol")) (by decide)
  obtain ⟨user, t, huser, ht, s, hs, _, hname⟩ := hunlocks "c2" (by decide)
  cases huser
  cases ht
  change s ∈ [LogindSession.mk "c2" "bob" "plasmalogin" "online"] at hs
  rw [List.mem_singleton] at hs
  subst hs
  exact absurd hname (by decide)

end PlasmaLogin

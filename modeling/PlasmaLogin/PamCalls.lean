/-
The calls a run of the helper makes to PAM, part by part: every early return
of the transaction, and what the destruction then undoes.
-/
import PlasmaLogin.PamTransaction

namespace PlasmaLogin

open Calls

/-- The calls the bracket is made of, with PAM's result codes.  Of the
variables only a refused one counts. -/
inductive BracketCall where
  | authenticate (result : Int)
  | acctMgmt (result : Int)
  | chauthtok (result : Int)
  | establish (result : Int)
  | refuseVariable (result : Int)
  | openSession (result : Int)
  | startProcess (started : Bool)
  | closeSession (result : Int)
  | delete (result : Int)
  | pamEnd (result : Int)
deriving DecidableEq

namespace BracketCall

def ofEvent : Event HelperCall.Answer → Option BracketCall
  | ⟨.pamAuthenticate, result⟩ => some (.authenticate result)
  | ⟨.pamAcctMgmt, result⟩ => some (.acctMgmt result)
  | ⟨.pamChauthtok _, result⟩ => some (.chauthtok result)
  | ⟨.pamSetcred .establish, result⟩ => some (.establish result)
  | ⟨.pamSetcred .delete, result⟩ => some (.delete result)
  | ⟨.pamPutenv _, result⟩ =>
      if result = PAM_SUCCESS then none else some (.refuseVariable result)
  | ⟨.pamOpenSession, result⟩ => some (.openSession result)
  | ⟨.pamCloseSession, result⟩ => some (.closeSession result)
  | ⟨.pamEnd, result⟩ => some (.pamEnd result)
  | ⟨.startProcess _ _, started⟩ => some (.startProcess started)
  | _ => none

end BracketCall

/-- The bracket calls of a run, in order. -/
def brackets (t : HelperTrace) : List BracketCall :=
  t.filterMap BracketCall.ofEvent

@[simp] theorem brackets_nil : brackets [] = [] := rfl

@[simp] theorem brackets_append (t₁ t₂ : HelperTrace) :
    brackets (t₁ ++ t₂) = brackets t₁ ++ brackets t₂ :=
  List.filterMap_append

@[simp] theorem brackets_cons (ev : Event HelperCall.Answer)
    (t : HelperTrace) :
    brackets (ev :: t) = (BracketCall.ofEvent ev).toList ++ brackets t := by
  unfold brackets
  rw [List.filterMap_cons]
  cases BracketCall.ofEvent ev <;> rfl

/-- What the helper asks PAM about the user, and whether the user is
accepted. -/
inductive AcceptCalls : Bool → List BracketCall → Prop where
  | refused (r : Int) : r ≠ PAM_SUCCESS → AcceptCalls false [.authenticate r]
  | account (r : Int) : r ≠ PAM_SUCCESS → r ≠ PAM_NEW_AUTHTOK_REQD →
      AcceptCalls false [.authenticate PAM_SUCCESS, .acctMgmt r]
  | expired (r : Int) : r ≠ PAM_SUCCESS → AcceptCalls false
      [.authenticate PAM_SUCCESS, .acctMgmt PAM_NEW_AUTHTOK_REQD, .chauthtok r]
  | accepted :
      AcceptCalls true [.authenticate PAM_SUCCESS, .acctMgmt PAM_SUCCESS]
  | changed : AcceptCalls true [.authenticate PAM_SUCCESS,
      .acctMgmt PAM_NEW_AUTHTOK_REQD, .chauthtok PAM_SUCCESS]

namespace PamHandle

theorem run_authenticate {pam pam' : PamHandle} {t : HelperTrace} :
    Run (authenticate pam) t (.ok pam') ↔
      ∃ r : Int, t = [⟨.pamAuthenticate, r⟩] ∧
        pam' = { pam with result := r } :=
  run_call_returns_iff.trans (by simp)

theorem run_chAuthTok {flags : Nat} {pam pam' : PamHandle}
    {t : HelperTrace} :
    Run (chAuthTok flags pam) t (.ok pam') ↔
      ∃ r : Int, t = [⟨.pamChauthtok flags, r⟩] ∧
        pam' = { pam with result := r } :=
  run_call_returns_iff.trans (by simp)

theorem run_setCred {flag : CredFlag} {pam pam' : PamHandle}
    {t : HelperTrace} :
    Run (setCred flag pam) t (.ok pam') ↔
      ∃ r : Int, t = [⟨.pamSetcred flag, r⟩] ∧
        pam' = { pam with result := r } :=
  run_call_returns_iff.trans (by simp)

theorem run_openSession {pam pam' : PamHandle} {t : HelperTrace} :
    Run (openSession pam) t (.ok pam') ↔
      ∃ r : Int, t = [⟨.pamOpenSession, r⟩] ∧
        pam' = { pam with result := r, isOpen := r = PAM_SUCCESS } :=
  run_call_returns_iff.trans (by simp)

theorem run_closeSession {pam pam' : PamHandle} {t : HelperTrace} :
    Run (closeSession pam) t (.ok pam') ↔
      ∃ r : Int, t = [⟨.pamCloseSession, r⟩] ∧
        pam' = { pam with result := r } :=
  run_call_returns_iff.trans (by simp)

theorem run_setItem {item : PamItem} {value : QString} {pam pam' : PamHandle}
    {t : HelperTrace} (h : Run (setItem item value pam) t (.ok pam')) :
    pam'.isOpen = pam.isOpen ∧ brackets t = [] := by
  obtain ⟨r, rfl, heq⟩ := run_call_returns_iff.1 h
  cases heq
  exact ⟨rfl, rfl⟩

/-- The variables are set up to the first one that is refused. -/
theorem run_putEnv {texts : List QString} {pam : PamHandle} {t : HelperTrace}
    {r : PamHandle × Bool} (h : Run (putEnv texts pam) t (.ok r)) :
    r.1.isOpen = pam.isOpen ∧
      (r.2 = true ∧ brackets t = [] ∨ r.2 = false ∧
        ∃ result, result ≠ PAM_SUCCESS ∧
          brackets t = [.refuseVariable result]) := by
  induction texts generalizing pam t with
  | nil =>
      obtain ⟨rfl, heq⟩ := run_returns_iff.1 h
      cases heq
      exact ⟨rfl, Or.inl ⟨rfl, rfl⟩⟩
  | cons text texts ih =>
      obtain ⟨result, t', rfl, hnext⟩ := run_call_bind_iff.1 h
      split at hnext
      next hset =>
        have hfirst : BracketCall.ofEvent ⟨.pamPutenv text, result⟩ = none :=
          if_pos hset
        rw [brackets_cons, hfirst]
        have hrest := ih hnext
        exact hrest
      next hset =>
        have hfirst : BracketCall.ofEvent ⟨.pamPutenv text, result⟩ =
            some (.refuseVariable result) := if_neg hset
        obtain ⟨rfl, heq⟩ := run_returns_iff.1 hnext
        cases heq
        rw [brackets_cons, hfirst]
        exact ⟨rfl, Or.inr ⟨rfl, result, hset, rfl⟩⟩

/-- The account is valid, or its password has been changed, or it is
refused. -/
theorem run_acctMgmt {pam pam' : PamHandle} {t : HelperTrace}
    (h : Run (acctMgmt pam) t (.ok pam')) :
    pam' = { pam with result := pam'.result } ∧
      ((∃ r, brackets t = [.acctMgmt r] ∧ r ≠ PAM_NEW_AUTHTOK_REQD ∧
          pam'.result = r) ∨
        ∃ r, brackets t = [.acctMgmt PAM_NEW_AUTHTOK_REQD, .chauthtok r] ∧
          pam'.result = r) := by
  obtain ⟨r, t', rfl, hnext⟩ := run_call_bind_iff.1 h
  split at hnext
  next hexpired =>
    obtain ⟨r', rfl, rfl⟩ := run_chAuthTok.1 hnext
    subst hexpired
    exact ⟨rfl, Or.inr ⟨r', rfl, rfl⟩⟩
  next hvalid =>
    obtain ⟨rfl, heq⟩ := run_returns_iff.1 hnext
    cases heq
    exact ⟨rfl, Or.inl ⟨r, rfl, hvalid, rfl⟩⟩

end PamHandle

namespace PamBackend

theorem run_authenticateUser {pam : PamHandle} {t : HelperTrace}
    {r : PamHandle × Bool} (h : Run (authenticateUser pam) t (.ok r)) :
    AcceptCalls r.2 (brackets t) ∧ r.1.isOpen = pam.isOpen := by
  obtain ⟨pam₁, t₁, t', h₁, hnext, rfl⟩ := run_bind_ok_iff.1 h
  obtain ⟨r₁, rfl, rfl⟩ := PamHandle.run_authenticate.1 h₁
  split at hnext
  next hauth =>
    have hr₁ : r₁ = PAM_SUCCESS := of_decide_eq_true hauth
    subst hr₁
    obtain ⟨pam₂, t₂, t₃, h₂, hlast, rfl⟩ := run_bind_ok_iff.1 hnext
    obtain ⟨hpam, hcalls⟩ := PamHandle.run_acctMgmt h₂
    have hkept : pam₂.isOpen = pam.isOpen := by rw [hpam]
    split at hlast
    next hacct =>
      have hsuccess : pam₂.result = PAM_SUCCESS := of_decide_eq_true hacct
      obtain ⟨rfl, heq⟩ := run_returns_iff.1 hlast
      cases heq
      refine ⟨?_, hkept⟩
      rcases hcalls with ⟨r₂, hcalls, _, hr₂⟩ | ⟨r₂, hcalls, hr₂⟩
      · rw [hsuccess] at hr₂
        simp only [brackets_append, brackets_cons, hcalls, ← hr₂]
        exact .accepted
      · rw [hsuccess] at hr₂
        simp only [brackets_append, brackets_cons, hcalls, ← hr₂]
        exact .changed
    next hacct =>
      have hrefused : pam₂.result ≠ PAM_SUCCESS :=
        fun h => hacct (decide_eq_true h)
      obtain ⟨_, rfl, heq⟩ := run_call_returns_iff.1 hlast
      cases heq
      refine ⟨?_, hkept⟩
      rcases hcalls with ⟨r₂, hcalls, hvalid, rfl⟩ | ⟨r₂, hcalls, rfl⟩
      · simp only [brackets_append, brackets_cons, hcalls]
        exact .account _ hrefused hvalid
      · simp only [brackets_append, brackets_cons, hcalls]
        exact .expired _ hrefused
  next hauth =>
    have hrefused : r₁ ≠ PAM_SUCCESS := fun h => hauth (decide_eq_true h)
    obtain ⟨_, rfl, heq⟩ := run_call_returns_iff.1 hnext
    cases heq
    exact ⟨.refused r₁ hrefused, rfl⟩

theorem run_start {app : HelperApp} {t : HelperTrace}
    {r : PamHandle × Bool} (h : Run (start app) t (.ok r)) :
    r.1.isOpen = false ∧ brackets t = [] := by
  obtain ⟨pam, t₁, t₂, h₁, h₂, rfl⟩ := run_bind_ok_iff.1 h
  obtain ⟨result, rfl, heq⟩ := run_call_returns_iff.1 h₁
  cases heq
  split at h₂
  · obtain ⟨rfl, heq⟩ := run_returns_iff.1 h₂
    cases heq
    exact ⟨rfl, rfl⟩
  · obtain ⟨_, rfl, heq⟩ := run_call_returns_iff.1 h₂
    cases heq
    exact ⟨rfl, rfl⟩

/-- The calls of `PamBackend::openSession`, and whether they leave a PAM
session open. -/
inductive OpenCalls : Bool → List BracketCall → Prop where
  | refused (r : Int) : r ≠ PAM_SUCCESS → OpenCalls false [.establish r]
  | unset (r : Int) : r ≠ PAM_SUCCESS →
      OpenCalls false [.establish PAM_SUCCESS, .refuseVariable r]
  | unopened (r : Int) : r ≠ PAM_SUCCESS →
      OpenCalls false [.establish PAM_SUCCESS, .openSession r]
  | idle : OpenCalls true [.establish PAM_SUCCESS, .openSession PAM_SUCCESS]
  | running (started : Bool) : OpenCalls true [.establish PAM_SUCCESS,
      .openSession PAM_SUCCESS, .startProcess started]

theorem run_kept {pam pam' : PamHandle} {t : HelperTrace}
    (h : Run (pure pam : HelperProgram PamHandle) t (.ok pam')) :
    pam'.isOpen = pam.isOpen ∧ brackets t = [] := by
  obtain ⟨rfl, heq⟩ := run_returns_iff.1 h
  cases heq
  exact ⟨rfl, rfl⟩

theorem run_setTty {vtnr : Option QString} {pam pam' : PamHandle}
    {t : HelperTrace} (h : Run (setTty vtnr pam) t (.ok pam')) :
    pam'.isOpen = pam.isOpen ∧ brackets t = [] := by
  cases vtnr with
  | some vt => exact PamHandle.run_setItem h
  | none => exact run_kept h

theorem run_setItems {env : QProcessEnvironment} {pam pam' : PamHandle}
    {t : HelperTrace} (h : Run (setItems env pam) t (.ok pam')) :
    pam'.isOpen = pam.isOpen ∧ brackets t = [] := by
  obtain ⟨pam₁, t₁, t₂, h₁, h₂, rfl⟩ := run_bind_ok_iff.1 h
  have htty := run_setTty h₁
  have hdisplay : pam'.isOpen = pam₁.isOpen ∧ brackets t₂ = [] := by
    simp only at h₂
    split at h₂
    · exact PamHandle.run_setItem h₂
    · exact run_kept h₂
  exact ⟨hdisplay.1.trans htty.1,
    by rw [brackets_append, htty.2, hdisplay.2, List.append_nil]⟩

/-- An open session starts one process at most. -/
theorem run_startSession {programs : SessionPrograms} {user path : QString}
    {env : QProcessEnvironment} {running : Bool} {t : HelperTrace}
    (h : Run (startSession programs user path env) t (.ok running)) :
    brackets t = [] ∨ ∃ started, brackets t = [.startProcess started] := by
  obtain ⟨pamEnv, t₁, t₂, h₁, h₂, rfl⟩ := run_bind_ok_iff.1 h
  obtain ⟨envlist, rfl, _⟩ := run_call_returns_iff.1 h₁
  obtain ⟨pw, t₃, rfl, h₃⟩ := run_call_bind_iff.1 h₂
  unfold UserSession.start at h₃
  split at h₃
  · obtain ⟨rfl, _⟩ := run_returns_iff.1 h₃
    exact Or.inl rfl
  · obtain ⟨started, rfl, _⟩ := run_call_returns_iff.1 h₃
    exact Or.inr ⟨started, rfl⟩

theorem run_openUserSession {programs : SessionPrograms} {user path : QString}
    {env : QProcessEnvironment} {pam : PamHandle} {t : HelperTrace}
    {r : PamHandle × Bool} (hopen : pam.isOpen = false)
    (h : Run (openUserSession programs user path env pam) t (.ok r)) :
    OpenCalls r.1.isOpen (brackets t) := by
  obtain ⟨pam₁, t₁, t', h₁, hnext, rfl⟩ := run_bind_ok_iff.1 h
  obtain ⟨r₁, rfl, rfl⟩ := PamHandle.run_setCred.1 h₁
  split at hnext
  next hcred =>
    have hr₁ : r₁ = PAM_SUCCESS := of_decide_eq_true hcred
    subst hr₁
    obtain ⟨pam₂, t₂, t₃, h₂, hset, rfl⟩ := run_bind_ok_iff.1 hnext
    obtain ⟨hitems, hquiet₂⟩ := run_setItems h₂
    obtain ⟨r₃, t₄, t₅, h₃, hput, rfl⟩ := run_bind_ok_iff.1 hset
    obtain ⟨htexts, hvars⟩ := PamHandle.run_putEnv h₃
    have hkept : r₃.1.isOpen = false := (htexts.trans hitems).trans hopen
    rcases hvars with ⟨hall, hquiet₃⟩ | ⟨hrefused, r', hr', hquiet₃⟩
    · rw [if_pos hall] at hput
      simp only [brackets_append, hquiet₂, hquiet₃, List.nil_append]
      obtain ⟨pam₄, t₆, t₇, h₄, hopening, rfl⟩ := run_bind_ok_iff.1 hput
      obtain ⟨r₄, rfl, rfl⟩ := PamHandle.run_openSession.1 h₄
      split at hopening
      next hopened =>
        have hr₄ : r₄ = PAM_SUCCESS := of_decide_eq_true hopened
        subst hr₄
        obtain ⟨running, t₈, t₉, h₅, hlast, rfl⟩ := run_bind_ok_iff.1 hopening
        obtain ⟨rfl, heq⟩ := run_returns_iff.1 hlast
        cases heq
        rcases run_startSession h₅ with hcalls | ⟨started, hcalls⟩
        · simp only [brackets_append, hcalls]
          exact .idle
        · simp only [brackets_append, hcalls]
          exact .running started
      next hopened =>
        have hrefused : r₄ ≠ PAM_SUCCESS := fun h => hopened (decide_eq_true h)
        obtain ⟨_, rfl, heq⟩ := run_call_returns_iff.1 hopening
        cases heq
        simp only [hrefused, decide_false]
        exact .unopened r₄ hrefused
    · rw [if_neg (by simp [hrefused])] at hput
      simp only [brackets_append, hquiet₂, hquiet₃, List.nil_append]
      obtain ⟨_, rfl, heq⟩ := run_call_returns_iff.1 hput
      cases heq
      rw [hkept]
      exact .unset r' hr'
  next hcred =>
    have hrefused : r₁ ≠ PAM_SUCCESS := fun h => hcred (decide_eq_true h)
    obtain ⟨_, rfl, heq⟩ := run_call_returns_iff.1 hnext
    cases heq
    simp only [hopen]
    exact .refused r₁ hrefused

end PamBackend

namespace HelperApp

/-- The calls of `HelperApp::doAuth`, and whether they leave a PAM session
open. -/
inductive TransactionCalls : Bool → List BracketCall → Prop where
  | unstarted : TransactionCalls false []
  | accepting (accepted : Bool) {l : List BracketCall} :
      AcceptCalls accepted l → TransactionCalls false l
  | opening (isOpen : Bool) {l l' : List BracketCall} :
      AcceptCalls true l → PamBackend.OpenCalls isOpen l' →
        TransactionCalls isOpen (l ++ l')

theorem run_authenticated {user : QString} {env : QProcessEnvironment}
    {t : HelperTrace} (h : Run (authenticated user) t (.ok env)) :
    brackets t = [] := by
  obtain ⟨_, rfl, _⟩ := run_call_returns_iff.1 h
  rfl

/-- A helper that gives up reports no user and leaves PAM alone. -/
theorem run_giveUp {pam : PamHandle} {status : HelperExitStatus}
    {t : HelperTrace} {r : PamHandle × Option HelperExitStatus}
    (h : Run ((authenticated []).bind fun _ => .returns (pam, some status)) t
      (.ok r)) : brackets t = [] ∧ r.1 = pam := by
  obtain ⟨env, t₁, t₂, h₁, h₂, rfl⟩ := run_bind_ok_iff.1 h
  obtain ⟨rfl, heq⟩ := run_returns_iff.1 h₂
  cases heq
  exact ⟨by rw [brackets_append, run_authenticated h₁]; rfl, rfl⟩

theorem run_transaction {programs : SessionPrograms} {app : HelperApp}
    {t : HelperTrace} {r : PamHandle × Option HelperExitStatus}
    (h : Run (transaction programs app) t (.ok r)) :
    TransactionCalls r.1.isOpen (brackets t) := by
  obtain ⟨_, t₁, rfl, h₁⟩ := run_call_bind_iff.1 h
  obtain ⟨r₂, t₂, t₃, h₂, h₃, rfl⟩ := run_bind_ok_iff.1 h₁
  obtain ⟨hclosed, hstart⟩ := PamBackend.run_start h₂
  split at h₃
  · obtain ⟨r₄, t₄, t₅, h₄, h₅, rfl⟩ := run_bind_ok_iff.1 h₃
    obtain ⟨haccept, hkept⟩ := PamBackend.run_authenticateUser h₄
    have hopen : r₄.1.isOpen = false := hkept.trans hclosed
    simp only [brackets_cons, brackets_append, hstart, List.nil_append]
    split at h₅
    next haccepted =>
      rw [haccepted] at haccept
      obtain ⟨user, t₆, rfl, h₆⟩ := run_call_bind_iff.1 h₅
      obtain ⟨env, t₇, t₈, h₇, h₈, rfl⟩ := run_bind_ok_iff.1 h₆
      simp only [brackets_cons, brackets_append, run_authenticated h₇]
      split at h₈
      · obtain ⟨rfl, heq⟩ := run_returns_iff.1 h₈
        cases heq
        rw [hopen]
        simpa [BracketCall.ofEvent] using
          TransactionCalls.accepting true haccept
      · obtain ⟨r₉, t₉, t₁₀, h₉, h₁₀, rfl⟩ := run_bind_ok_iff.1 h₈
        have hopening := PamBackend.run_openUserSession hopen h₉
        obtain ⟨_, rfl, heq⟩ := run_call_returns_iff.1 h₁₀
        cases heq
        simpa [BracketCall.ofEvent] using
          TransactionCalls.opening _ haccept hopening
    · obtain ⟨hquiet, heq⟩ := run_giveUp h₅
      rw [hquiet, heq, hopen]
      simpa [BracketCall.ofEvent] using
        TransactionCalls.accepting _ haccept
  · obtain ⟨hquiet, heq⟩ := run_giveUp h₃
    rw [heq, hclosed, brackets_cons, brackets_append, hstart, hquiet]
    exact .unstarted

/-- The calls of the destruction, with a PAM session open or without. -/
inductive ClosingCalls : Bool → List BracketCall → Prop where
  | untouched : ClosingCalls false []
  | ended (r : Int) : ClosingCalls false [.pamEnd r]
  | closing (r r' : Int) : ClosingCalls true [.closeSession r, .delete r']
  | closed (r r' r'' : Int) :
      ClosingCalls true [.closeSession r, .delete r', .pamEnd r'']

theorem run_finish {pam : PamHandle} {t : HelperTrace} {u : PUnit}
    (h : Run pam.finish t (.ok u)) :
    brackets t = [] ∨ ∃ r, brackets t = [.pamEnd r] := by
  rw [PamHandle.finish] at h
  split at h
  · obtain ⟨r, rfl, _⟩ := run_call_returns_iff.1 h
    exact Or.inr ⟨r, rfl⟩
  · obtain ⟨rfl, _⟩ := run_returns_iff.1 h
    exact Or.inl rfl

theorem run_destroy {pam : PamHandle} {t : HelperTrace} {u : PUnit}
    (h : Run (destroy pam) t (.ok u)) :
    ClosingCalls pam.isOpen (brackets t) := by
  obtain ⟨_, t₁, rfl, h₁⟩ := run_call_bind_iff.1 h
  obtain ⟨pam', t₂, t₃, h₂, h₃, rfl⟩ := run_bind_ok_iff.1 h₁
  unfold PamBackend.closeUserSession at h₂
  split at h₂
  next hopen =>
    obtain ⟨pam'', t₄, t₅, h₄, h₅, rfl⟩ := run_bind_ok_iff.1 h₂
    obtain ⟨r, rfl, rfl⟩ := PamHandle.run_closeSession.1 h₄
    obtain ⟨r', rfl, rfl⟩ := PamHandle.run_setCred.1 h₅
    rw [hopen]
    rcases run_finish h₃ with hend | ⟨r'', hend⟩
    · rw [brackets_cons, brackets_append, hend]
      exact .closing r r'
    · rw [brackets_cons, brackets_append, hend]
      exact .closed r r' r''
  next hclosed =>
    obtain ⟨rfl, heq⟩ := run_returns_iff.1 h₂
    cases heq
    rw [Bool.not_eq_true] at hclosed
    rw [hclosed]
    rcases run_finish h₃ with hend | ⟨r, hend⟩
    · rw [brackets_cons, brackets_append, hend]
      exact .untouched
    · rw [brackets_cons, brackets_append, hend]
      exact .ended r

theorem run_waitForExit {status : Option HelperExitStatus} {t : HelperTrace}
    {exit : HelperExitStatus} (h : Run (waitForExit status) t (.ok exit)) :
    brackets t = [] := by
  cases status with
  | some status =>
      obtain ⟨rfl, _⟩ := run_returns_iff.1 h
      rfl
  | none =>
      obtain ⟨_, rfl, _⟩ := run_perform_iff.1 h
      rfl

theorem run_whenConnected {programs : SessionPrograms} {app : HelperApp}
    {connected : Bool} {t : HelperTrace}
    {r : PamHandle × Option HelperExitStatus}
    (h : Run (whenConnected programs app connected) t (.ok r)) :
    TransactionCalls r.1.isOpen (brackets t) := by
  rw [whenConnected] at h
  split at h
  · exact run_transaction h
  · obtain ⟨rfl, heq⟩ := run_returns_iff.1 h
    cases heq
    exact .unstarted

/-- The bracket calls of a whole run. -/
theorem run_main {programs : SessionPrograms} {app : HelperApp}
    {t : HelperTrace} {o : Except Empty HelperExitStatus}
    (h : Run (main programs app) t o) :
    ∃ isOpen l l', brackets t = l ++ l' ∧ TransactionCalls isOpen l ∧
      ClosingCalls isOpen l' := by
  cases o with
  | error e => exact e.elim
  | ok status =>
      obtain ⟨connected, t₁, rfl, h₁⟩ := run_call_bind_iff.1 h
      obtain ⟨r, t₂, t₃, h₂, h₃, rfl⟩ := run_bind_ok_iff.1 h₁
      obtain ⟨_, t₄, t₅, h₄, h₅, rfl⟩ := run_bind_ok_iff.1 h₃
      obtain ⟨u, t₆, t₇, h₆, h₇, rfl⟩ := run_bind_ok_iff.1 h₅
      obtain ⟨rfl, _⟩ := run_returns_iff.1 h₇
      refine ⟨r.1.isOpen, brackets t₂, brackets t₆, ?_,
        run_whenConnected h₂, run_destroy h₆⟩
      simp [run_waitForExit h₄, BracketCall.ofEvent]

end HelperApp

end PlasmaLogin

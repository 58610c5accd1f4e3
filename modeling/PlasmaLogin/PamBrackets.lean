/-
The PAM transaction of the helper as a bracket: what is opened is closed, in
every run and whatever PAM and the daemon answer.
-/
import PlasmaLogin.PamCalls

namespace PlasmaLogin

open Calls

namespace BracketCall

def isClose : BracketCall → Bool
  | .closeSession _ => true
  | _ => false

def isDelete : BracketCall → Bool
  | .delete _ => true
  | _ => false

def isEnd : BracketCall → Bool
  | .pamEnd _ => true
  | _ => false

/-- A call that opens something. -/
def opens : BracketCall → Bool
  | .establish _ | .openSession _ => true
  | _ => false

/-- A step after the credentials that PAM refuses. -/
def refused : BracketCall → Bool
  | .openSession result | .refuseVariable result => result ≠ PAM_SUCCESS
  | _ => false

def isStart : BracketCall → Bool
  | .startProcess _ => true
  | _ => false

/-- A call that nothing is asked of. -/
def inert (c : BracketCall) : Bool := !c.opens && !c.isStart

/-- Whether a PAM session is open after a call. -/
def sessionAfter (isOpen : Bool) : BracketCall → Bool
  | .openSession result => result = PAM_SUCCESS
  | .closeSession _ => false
  | _ => isOpen

end BracketCall

/-- `P` holds at every place of a list, with what is before and after it. -/
def Everywhere {α : Type} (P : List α → α → List α → Prop) (l : List α) :
    Prop :=
  ∀ before a after, l = before ++ a :: after → P before a after

/-- The user and the account have been accepted. -/
def Accepted (past : List BracketCall) : Prop :=
  .authenticate PAM_SUCCESS ∈ past ∧
    (.acctMgmt PAM_SUCCESS ∈ past ∨
      .acctMgmt PAM_NEW_AUTHTOK_REQD ∈ past ∧ .chauthtok PAM_SUCCESS ∈ past)

/-- A PAM session is open. -/
def SessionOpen (past : List BracketCall) : Prop :=
  past.foldl BracketCall.sessionAfter false = true

/-- There is exactly one such call left, and it comes before the end of the
transaction. -/
def OnceBeforeEnd (p : BracketCall → Bool) (rest : List BracketCall) : Prop :=
  rest.countP p = 1 ∧
    (rest.takeWhile fun c => !c.isEnd).countP p = 1

/-- The transaction is well bracketed. -/
@[mk_iff]
structure WellBracketed (l : List BracketCall) : Prop where
  accepted : Everywhere (fun past c _ => c.opens = true → Accepted past) l
  running : Everywhere (fun past c _ => c.isStart = true → SessionOpen past) l
  closed : Everywhere (fun _ c rest => c = .openSession PAM_SUCCESS →
    OnceBeforeEnd BracketCall.isClose rest) l
  deleted : Everywhere (fun _ c rest => c = .establish PAM_SUCCESS →
    OnceBeforeEnd BracketCall.isDelete rest) l

/-- Once credentials are established PAM refuses nothing. -/
def NothingRefused (l : List BracketCall) : Prop :=
  .establish PAM_SUCCESS ∈ l → ∀ c ∈ l, c.refused = false

theorem everywhere_nil {α : Type} (P : List α → α → List α → Prop) :
    Everywhere P [] := by
  intro before a after h
  simp at h

theorem everywhere_cons {α : Type} (P : List α → α → List α → Prop) (b : α)
    (l : List α) :
    Everywhere P (b :: l) ↔
      P [] b l ∧ Everywhere (fun before => P (b :: before)) l := by
  constructor
  · intro h
    exact ⟨h [] b l rfl, fun before a after heq =>
      h (b :: before) a after (congrArg (b :: ·) heq)⟩
  · rintro ⟨hfirst, hrest⟩ before a after heq
    cases before with
    | nil =>
        obtain ⟨rfl, rfl⟩ := List.cons.inj heq
        exact hfirst
    | cons c before =>
        obtain ⟨rfl, rfl⟩ := List.cons.inj heq
        exact hrest before a after rfl

/-- Where a property holds of the calls themselves, only the rest matters. -/
theorem everywhere_append_iff {α : Type} {P : List α → α → List α → Prop}
    {l m : List α} (h : ∀ a ∈ l, ∀ before after, P before a after) :
    Everywhere P (l ++ m) ↔ Everywhere (fun before => P (l ++ before)) m := by
  induction l generalizing P with
  | nil => rfl
  | cons b l ih =>
      rw [List.forall_mem_cons] at h
      rw [List.cons_append, everywhere_cons,
        ih fun a ha before after => h.2 a ha (b :: before) after]
      exact and_iff_right (h.1 [] (l ++ m))

namespace BracketCall

/-- An inert call has no part in any of the four conditions. -/
theorem not_opens_of_inert {c : BracketCall} (h : c.inert = true) :
    c.opens = false ∧ c.isStart = false := by
  simpa [inert] using h

theorem sessionAfter_of_inert {c : BracketCall} (h : c.inert = true) :
    c.sessionAfter false = false := by
  cases c with
  | openSession r => cases h
  | _ => rfl

theorem foldl_sessionAfter_of_inert {l : List BracketCall}
    (h : ∀ c ∈ l, c.inert = true) : l.foldl sessionAfter false = false := by
  induction l with
  | nil => rfl
  | cons c l ih =>
      rw [List.forall_mem_cons] at h
      rw [List.foldl_cons, sessionAfter_of_inert h.1]
      exact ih h.2

end BracketCall

theorem AcceptCalls.inert {accepted : Bool} {l : List BracketCall}
    (h : AcceptCalls accepted l) : ∀ c ∈ l, c.inert = true := by
  cases h <;> simp [BracketCall.inert, BracketCall.opens, BracketCall.isStart]

theorem AcceptCalls.accepts {l : List BracketCall} (h : AcceptCalls true l) :
    Accepted l := by
  cases h <;> simp [Accepted]

theorem Accepted.append {l : List BracketCall} (h : Accepted l)
    (m : List BracketCall) : Accepted (l ++ m) := by
  obtain ⟨huser, haccount⟩ := h
  refine ⟨List.mem_append_left m huser, haccount.imp ?_ ?_⟩
  · exact List.mem_append_left m
  · exact And.imp (List.mem_append_left m) (List.mem_append_left m)

/-- After an accepted user the rest has to be bracketed by itself. -/
theorem wellBracketed_append_iff_of_accepts {l m : List BracketCall}
    (h : AcceptCalls true l) :
    WellBracketed (l ++ m) ↔
      Everywhere (fun past c _ => c.isStart = true → SessionOpen past) m ∧
      Everywhere (fun _ c rest => c = .openSession PAM_SUCCESS →
        OnceBeforeEnd BracketCall.isClose rest) m ∧
      Everywhere (fun _ c rest => c = .establish PAM_SUCCESS →
        OnceBeforeEnd BracketCall.isDelete rest) m := by
  have hinert := h.inert
  have hquiet : ∀ c ∈ l, c.opens = false ∧ c.isStart = false :=
    fun c hc => BracketCall.not_opens_of_inert (hinert c hc)
  have haccepted : Everywhere
      (fun past c _ => c.opens = true → Accepted (l ++ past)) m :=
    fun before _ _ _ _ => h.accepts.append before
  have hclosed : ∀ past, SessionOpen (l ++ past) ↔ SessionOpen past := by
    intro past
    unfold SessionOpen
    rw [List.foldl_append, BracketCall.foldl_sessionAfter_of_inert hinert]
  rw [wellBracketed_iff, everywhere_append_iff, everywhere_append_iff,
    everywhere_append_iff, everywhere_append_iff, and_iff_right haccepted]
  · simp only [hclosed]
  · rintro c hc _ _ rfl
    cases (hquiet _ hc).1
  · rintro c hc _ _ rfl
    cases (hquiet _ hc).1
  · intro c hc _ _ hstart
    rw [(hquiet c hc).2] at hstart
    cases hstart
  · intro c hc _ _ hopens
    rw [(hquiet c hc).1] at hopens
    cases hopens

/-- Where nobody is accepted nothing is opened. -/
theorem wellBracketed_of_inert {l : List BracketCall}
    (h : ∀ c ∈ l, c.inert = true) : WellBracketed l ∧ NothingRefused l := by
  have hquiet : ∀ c ∈ l, c.opens = false ∧ c.isStart = false :=
    fun c hc => BracketCall.not_opens_of_inert (h c hc)
  have hnone : Everywhere (fun _ c _ => c.opens = false ∧ c.isStart = false)
      l := by
    rintro before c after rfl
    exact hquiet c (by simp)
  refine ⟨⟨?_, ?_, ?_, ?_⟩, ?_⟩
  · intro before c after heq hopens
    cases (hnone before c after heq).1.symm.trans hopens
  · intro before c after heq hstart
    cases (hnone before c after heq).2.symm.trans hstart
  · rintro before c after heq rfl
    cases (hnone before _ after heq).1
  · rintro before c after heq rfl
    cases (hnone before _ after heq).1
  · intro hestablish
    cases (hquiet _ hestablish).1

attribute [local simp] everywhere_cons everywhere_nil NothingRefused
  SessionOpen OnceBeforeEnd BracketCall.opens BracketCall.isStart
  BracketCall.sessionAfter BracketCall.isClose BracketCall.isEnd
  BracketCall.isDelete BracketCall.refused

/-- Cleaning up closes what `doAuth` opened unless PAM refused the session
after the credentials, for cleaning up asks for an open session only. -/
theorem wellBracketed_append_iff {isOpen : Bool} {l l' : List BracketCall}
    (h : HelperApp.TransactionCalls isOpen l)
    (h' : HelperApp.ClosingCalls isOpen l') :
    WellBracketed (l ++ l') ↔ NothingRefused (l ++ l') := by
  have hclosing : ∀ c ∈ l', c.inert = true := by
    cases h' <;> simp [BracketCall.inert]
  cases h with
  | unstarted =>
      have hall := wellBracketed_of_inert hclosing
      exact iff_of_true hall.1 hall.2
  | accepting accepted haccept =>
      have hall := wellBracketed_of_inert
        (List.forall_mem_append.2 ⟨haccept.inert, hclosing⟩)
      exact iff_of_true hall.1 hall.2
  | @opening _ l₁ l₂ haccept hopen =>
      have hrefused : NothingRefused (l₁ ++ (l₂ ++ l')) ↔
          NothingRefused (l₂ ++ l') := by
        cases haccept <;> simp
      rw [List.append_assoc, wellBracketed_append_iff_of_accepts haccept,
        hrefused]
      cases hopen with
      | refused r hr => cases h' <;> simp [hr, hr.symm]
      | unset r hr => cases h' <;> simp [hr]
      | unopened r hr => cases h' <;> simp [hr]
      | idle => cases h' <;> simp [List.countP_cons]
      | running started => cases h' <;> simp [List.countP_cons]

/-- A run of the helper is well bracketed, whatever PAM, the daemon and the
session process answer, exactly when PAM refuses nothing between the
credentials and the open session. -/
theorem run_wellBracketed_iff {programs : SessionPrograms} {app : HelperApp}
    {t : HelperTrace} {o : Except Empty HelperExitStatus}
    (h : Run (HelperApp.main programs app) t o) :
    WellBracketed (brackets t) ↔ NothingRefused (brackets t) := by
  obtain ⟨isOpen, l, l', heq, hopen, hclose⟩ := HelperApp.run_main h
  rw [heq]
  exact wellBracketed_append_iff hopen hclose

/-- Surroundings in which everything goes well, but for what PAM says about
the session. -/
def answerWith (opened : Int) : (op : HelperCall) → op.Answer
  | .connected | .startProcess _ _ => true
  | .authenticated _ =>
      (∅ : QProcessEnvironment).insert "XDG_SESSION_TYPE" "wayland"
  | .pamOpenSession => opened
  | .pamStart _ _ | .pamAuthenticate | .pamAcctMgmt | .pamChauthtok _
  | .pamSetcred _ | .pamSetItem _ _ | .pamPutenv _ | .pamCloseSession
  | .pamEnd => PAM_SUCCESS
  | .exec => HelperExitStatus.success
  | .pamGetenvlist => []
  | .pamGetUser => "alice"
  | .getpwnam _ => none
  | .hello _ | .error _ _ | .sessionOpened _ | .stopProcess => ()

/-- The helper of a Wayland session. -/
def helperForAlice : HelperApp where
  id := 1
  user := "alice"
  sessionPath := "startplasma-wayland"

def buildPrograms : SessionPrograms where
  libexecDir := "/usr/libexec"
  sessionCommand := "/etc/plasmalogin/Xsession"
  waylandSessionCommand := "/etc/plasmalogin/wayland-session"

theorem run_wellBracketed_alice :
    WellBracketed (brackets ((HelperApp.main buildPrograms helperForAlice).exec
      (answerWith PAM_SUCCESS)).2) := by
  have hnothing : NothingRefused (brackets
      ((HelperApp.main buildPrograms helperForAlice).exec
        (answerWith PAM_SUCCESS)).2) := by
    unfold NothingRefused
    decide
  exact (run_wellBracketed_iff (run_exec _ _)).2 hnothing

/-- A module refuses to open the session, with `PAM_SESSION_ERR`: the
credentials stay. -/
theorem run_not_wellBracketed :
    ∃ t o, Run (HelperApp.main buildPrograms helperForAlice) t o ∧
      ¬ WellBracketed (brackets t) := by
  refine ⟨_, _, run_exec (answerWith 14) _, fun h => ?_⟩
  have hdeleted := h.deleted [.authenticate PAM_SUCCESS, .acctMgmt PAM_SUCCESS]
    _ [.openSession 14, .pamEnd PAM_SUCCESS] rfl rfl
  exact absurd hdeleted.1 (by decide)

end PlasmaLogin

/-
Submitting the login forms of several screens.  A screen closes its own form
until a reply arrives; the remembered user and session are shared, and the
reply says nothing about the `Login` it answers.
-/
import PlasmaLogin.Mealy
import PlasmaLogin.QString

namespace PlasmaLogin

open Mealy

/-- What `GreeterState.handleLoginRequest` is called with. -/
structure LoginRequest where
  username : QString
  password : QString
  sessionType : Int
  sessionFileName : QString
deriving DecidableEq

/-- A user and a session that are remembered. -/
structure LastLogin where
  user : QString := []
  session : QString := []
deriving DecidableEq

/-- The user and the session of a `Login`. -/
def LoginRequest.lastLogin (r : LoginRequest) : LastLogin :=
  ⟨r.username, r.sessionFileName⟩

/-- A reply of the daemon on its way, with the number of the `Login` it is
about, which the message does not have. -/
structure LoginReply where
  login : Nat
  succeeded : Bool
deriving DecidableEq

/-- The screens with `mainStack.enabled`, the last login of `GreeterState` and
that of `StateConfig`; `logins` are those submitted, and a `Login` is known by
its place among them.  Of the display there is the number of those it has
read, the one whose helper runs, those whose helpers it has started, those
whose helpers have not said yet whether the user is authenticated, and `asked`,
whether `m_socket` is set.  A `Login` is `unanswered` until a reply about it
arrives. -/
structure LoginFront where
  screens : List Bool
  remembered : LastLogin := {}
  saved : LastLogin
  logins : List LoginRequest := []
  unanswered : List Nat := []
  read : Nat := 0
  helper : Option Nat := none
  started : List Nat := []
  undecided : List Nat := []
  asked : Bool := false
  replies : List LoginReply := []
deriving DecidableEq

/-- What can happen.  A screen comes with an open form; `starts` says whether
the display would start a helper for the `Login` it reads; `authError` is an
error of the authentication that a helper reports, which need not be the end
of it. -/
inductive LoginFrontEvent where
  | screenAdded
  | screenRemoved (screen : Nat)
  | submit (screen : Nat) (request : LoginRequest)
  | received (starts : Bool)
  | authError (login : Nat)
  | authenticated (login : Nat) (success : Bool)
  | helperFinished
  | replied
deriving DecidableEq

def LoginFrontEvent.isSubmit : LoginFrontEvent → Bool
  | .submit _ _ => true
  | _ => false

namespace LoginFront

/-- The greeter with a number of screens. -/
def start (n : Nat) (saved : LastLogin) : LoginFront where
  screens := List.replicate n true
  saved := saved

/-- `startLogin` closes the form of its screen, `handleLoginRequest` remembers
the login and sends it. -/
def handleLoginRequest (screen : Nat) (request : LoginRequest)
    (c : LoginFront) : LoginFront :=
  { c with
      screens := c.screens.set screen false,
      remembered := request.lastLogin,
      logins := c.logins ++ [request],
      unanswered := c.unanswered ++ [c.logins.length] }

/-- A reply goes to the connection that asked last, if it is still known. -/
def tell (reply : LoginReply) (c : LoginFront) : LoginFront :=
  if c.asked then { c with replies := c.replies ++ [reply] } else c

/-- `Display::login`: the display remembers who has asked, and starts a helper
unless there is one or none can be started. -/
def loginReceived (starts : Bool) (request : LoginRequest) (c : LoginFront) :
    LoginFront :=
  let login := c.read
  let c := { c with read := c.read + 1, asked := true }
  if request.username = ("plasmalogin" : QString) then c.tell ⟨login, false⟩
  else if c.helper.isNone && starts then
    { c with
        helper := some login, started := login :: c.started,
        undecided := login :: c.undecided }
  else c

/-- `Display::slotAuthenticationFinished`, after which nobody is told any more
until the next `Login` is read. -/
def slotAuthenticationFinished (reply : LoginReply) (c : LoginFront) :
    LoginFront :=
  { c.tell reply with asked := false }

/-- `onLoginFailed` of every screen. -/
def onLoginFailed (c : LoginFront) : LoginFront :=
  { c with screens := c.screens.map fun _ => true }

/-- `onLoginSucceeded` of `GreeterState`. -/
def onLoginSucceeded (c : LoginFront) : LoginFront :=
  { c with saved := c.remembered }

/-- A reply arrives at the greeter. -/
def replyArrived (reply : LoginReply) (rest : List LoginReply)
    (c : LoginFront) : LoginFront :=
  let c := { c with
    replies := rest, unanswered := c.unanswered.filter (· ≠ reply.login) }
  if reply.succeeded then c.onLoginSucceeded else c.onLoginFailed

/-- A helper says once whether its user is authenticated.  Its frames may be
read when it has finished, but for the one that names the user, after which it
waits. -/
def Enabled (c : LoginFront) : LoginFrontEvent → Prop
  | .screenAdded => True
  | .screenRemoved screen => screen < c.screens.length
  | .submit screen _ => c.screens[screen]? = some true
  | .received _ => c.read < c.logins.length
  | .authError login => login ∈ c.started
  | .authenticated login success =>
      login ∈ c.undecided ∧ (success = true → c.helper = some login)
  | .helperFinished => c.helper.isSome = true
  | .replied => c.replies ≠ []

def step (c : LoginFront) : LoginFrontEvent → LoginFront
  | .screenAdded => { c with screens := c.screens ++ [true] }
  | .screenRemoved screen => { c with screens := c.screens.eraseIdx screen }
  | .submit screen request => c.handleLoginRequest screen request
  | .received starts =>
      match c.logins[c.read]? with
      | none => c
      | some request => c.loginReceived starts request
  | .authError login => c.tell ⟨login, false⟩
  | .authenticated login success =>
      { c with undecided := c.undecided.filter (· ≠ login)
        }.slotAuthenticationFinished ⟨login, success⟩
  | .helperFinished => { c with helper := none }
  | .replied =>
      match c.replies with
      | [] => c
      | reply :: rest => c.replyArrived reply rest

instance (c : LoginFront) (e : LoginFrontEvent) : Decidable (c.Enabled e) :=
  match e with
  | .screenAdded => inferInstanceAs (Decidable True)
  | .screenRemoved screen =>
      inferInstanceAs (Decidable (screen < c.screens.length))
  | .submit screen _ =>
      inferInstanceAs (Decidable (c.screens[screen]? = some true))
  | .received _ => inferInstanceAs (Decidable (c.read < c.logins.length))
  | .authError login => inferInstanceAs (Decidable (login ∈ c.started))
  | .authenticated login success =>
      inferInstanceAs (Decidable
        (login ∈ c.undecided ∧ (success = true → c.helper = some login)))
  | .helperFinished => inferInstanceAs (Decidable (c.helper.isSome = true))
  | .replied => inferInstanceAs (Decidable (c.replies ≠ []))

end LoginFront

/-- The screens of the greeter and the display as one machine. -/
def loginFront : Machine LoginFront LoginFrontEvent Empty where
  enabled := LoginFront.Enabled
  step c e := (c.step e, [])

namespace LoginFront

instance (c : LoginFront) (es : List LoginFrontEvent) :
    Decidable (loginFront.Runs c es) :=
  inferInstanceAs (Decidable (loginFront.Guarded Enabled c es))

/-- The user and the session of a `Login` by its number. -/
def lastLogin (c : LoginFront) (login : Nat) : Option LastLogin :=
  c.logins[login]?.map LoginRequest.lastLogin

/-- A reply of success is about to arrive. -/
def Succeeding (c : LoginFront) (e : LoginFrontEvent) (login : Nat) : Prop :=
  e = .replied ∧ ∃ rest, c.replies = ⟨login, true⟩ :: rest

/-- There is one `Login` at most without an answer, and success saves the one
that the daemon has authenticated. -/
def OneLogin (st : Step LoginFront LoginFrontEvent Empty) : Prop :=
  st.after.unanswered.length ≤ 1 ∧
    ∀ login, st.before.Succeeding st.event login →
      st.after.lastLogin login = some st.after.saved

/-- The daemon may still say that the `Login` has succeeded. -/
def MaySucceed (c : LoginFront) (login : Nat) : Prop :=
  (c.helper = some login ∧ login ∈ c.undecided) ∨ ⟨login, true⟩ ∈ c.replies

/-- Every `Login` that may still succeed, by its number. -/
def mayStillSucceed (c : LoginFront) : List Nat :=
  c.helper.toList.filter (· ∈ c.undecided) ++
    (c.replies.filter LoginReply.succeeded).map LoginReply.login

theorem mem_mayStillSucceed_iff {c : LoginFront} {login : Nat} :
    login ∈ c.mayStillSucceed ↔ c.MaySucceed login := by
  rw [mayStillSucceed, MaySucceed, List.mem_append, List.mem_filter,
    Option.mem_toList, decide_eq_true_eq]
  refine or_congr_right (List.mem_map.trans
    ⟨?_, fun h => ⟨⟨login, true⟩, List.mem_filter.2 ⟨h, rfl⟩, rfl⟩⟩)
  rintro ⟨⟨_, succeeded⟩, hreply, rfl⟩
  obtain ⟨hmem, rfl⟩ := List.mem_filter.1 hreply
  exact hmem

/-- A form is submitted when every `Login` has its answer, and for the same
user and session while one may still succeed. -/
def TakesTurns (c : LoginFront) : LoginFrontEvent → Prop
  | .submit _ request => c.unanswered = [] ∧
      ∀ login, c.MaySucceed login →
        c.lastLogin login = some request.lastLogin
  | _ => True

instance (c : LoginFront) (e : LoginFrontEvent) : Decidable (c.TakesTurns e) :=
  match e with
  | .submit _ request =>
      decidable_of_iff (c.unanswered = [] ∧ ∀ login ∈ c.mayStillSucceed,
          c.lastLogin login = some request.lastLogin)
        (and_congr_right fun _ => forall_congr' fun _ =>
          imp_congr_left mem_mayStillSucceed_iff)
  | .screenAdded | .screenRemoved _ | .received _ | .authError _
  | .authenticated _ _ | .helperFinished | .replied => .isTrue trivial

/-- There is one login as long as nothing else is submitted. -/
def StaysOneLogin (c : LoginFront) : Prop :=
  ∀ es, loginFront.Runs c es → (∀ e ∈ es, e.isSubmit = false) →
    ∀ st ∈ loginFront.steps c es, OneLogin st

/-- A `Login` that has not been read has no answer, and the display speaks of
those it has read; the one without an answer, and all that may still succeed,
are for the user and the session that are remembered. -/
structure Turns (c : LoginFront) : Prop where
  read : c.read ≤ c.logins.length
  unread : ∀ login, c.read ≤ login → login < c.logins.length →
    login ∈ c.unanswered
  started : ∀ login ∈ c.started, login < c.read
  undecided : ∀ login ∈ c.undecided, login ∈ c.started
  replies : ∀ reply ∈ c.replies, reply.login < c.read
  length : c.unanswered.length ≤ 1
  unanswered : ∀ login ∈ c.unanswered, c.lastLogin login = some c.remembered
  maySucceed : ∀ login, c.MaySucceed login →
    c.lastLogin login = some c.remembered

theorem turns_start (n : Nat) (saved : LastLogin) : Turns (start n saved) where
  read := Nat.le_refl 0
  unread _ _ h := absurd h (Nat.not_lt_zero _)
  started _ h := absurd h List.not_mem_nil
  undecided _ h := absurd h List.not_mem_nil
  replies _ h := absurd h List.not_mem_nil
  length := Nat.zero_le 1
  unanswered _ h := absurd h List.not_mem_nil
  maySucceed _ h := by
    rcases h with h | h
    · exact nomatch h.1
    · exact absurd h List.not_mem_nil

/-- Screens, the saved login and the connection play no part. -/
theorem Turns.congr {c : LoginFront} (h : c.Turns) (screens : List Bool)
    (saved : LastLogin) (asked : Bool) :
    Turns { c with screens := screens, saved := saved, asked := asked } :=
  ⟨h.read, h.unread, h.started, h.undecided, h.replies, h.length, h.unanswered,
    h.maySucceed⟩

/-- A helper that has said what it has to say will not say it again. -/
theorem Turns.decided {c : LoginFront} (h : c.Turns) (login : Nat) :
    Turns { c with undecided := c.undecided.filter (· ≠ login) } where
  read := h.read
  unread := h.unread
  started := h.started
  undecided login' hlogin' := h.undecided login' (List.mem_filter.1 hlogin').1
  replies := h.replies
  length := h.length
  unanswered := h.unanswered
  maySucceed login' hmay := by
    rcases hmay with ⟨hhelper, hundecided⟩ | hreply
    · exact h.maySucceed login'
        (Or.inl ⟨hhelper, (List.mem_filter.1 hundecided).1⟩)
    · exact h.maySucceed login' (Or.inr hreply)

theorem lastLogin_append {c : LoginFront} {login : Nat} {last : LastLogin}
    (h : c.lastLogin login = some last) (requests : List LoginRequest) :
    (c.logins ++ requests)[login]?.map LoginRequest.lastLogin = some last := by
  obtain ⟨request, hrequest, _⟩ := Option.map_eq_some_iff.1 h
  rw [List.getElem?_append_left (List.getElem?_eq_some_iff.1 hrequest).1]
  exact h

theorem Turns.submit {c : LoginFront} (h : c.Turns) {screen : Nat}
    {request : LoginRequest} (hturn : c.TakesTurns (.submit screen request)) :
    (c.step (.submit screen request)).Turns := by
  obtain ⟨hnone, hmay⟩ := hturn
  have hunanswered : (c.step (.submit screen request)).unanswered =
      [c.logins.length] := by
    rw [step, handleLoginRequest, hnone, List.nil_append]
  have hlength : (c.step (.submit screen request)).logins.length =
      c.logins.length + 1 := by
    simp [step, handleLoginRequest]
  refine ⟨?_, ?_, h.started, h.undecided, h.replies, ?_, ?_, ?_⟩
  · have hread : (c.step (.submit screen request)).read = c.read := rfl
    have hle := h.read
    omega
  · intro login hread hlt
    have hnot : ¬ login < c.logins.length := fun hlt =>
      List.not_mem_nil (hnone ▸ h.unread login hread hlt)
    rw [hunanswered, List.mem_singleton]
    omega
  · rw [hunanswered]
    exact Nat.le_refl 1
  · intro login hlogin
    rw [hunanswered, List.mem_singleton] at hlogin
    subst hlogin
    simp [lastLogin, step, handleLoginRequest]
  · intro login hlogin
    exact lastLogin_append (hmay login hlogin) [request]

/-- The display tells somebody of a `Login` that it has read. -/
theorem Turns.tell {c : LoginFront} (h : c.Turns) {reply : LoginReply}
    (hread : reply.login < c.read)
    (hlast : reply.succeeded = true →
      c.lastLogin reply.login = some c.remembered) :
    (c.tell reply).Turns := by
  rw [LoginFront.tell]
  split
  · refine ⟨h.read, h.unread, h.started, h.undecided, ?_, h.length,
      h.unanswered, ?_⟩
    · intro reply' hreply'
      rcases List.mem_append.1 hreply' with hreply' | hreply'
      · exact h.replies reply' hreply'
      · rw [List.mem_singleton.1 hreply']
        exact hread
    · intro login hlogin
      rcases hlogin with hhelper | hreply
      · exact h.maySucceed login (Or.inl hhelper)
      · rcases List.mem_append.1 hreply with hreply | hreply
        · exact h.maySucceed login (Or.inr hreply)
        · rw [← List.mem_singleton.1 hreply] at hlast
          exact hlast rfl
  · exact h

theorem Turns.received {c : LoginFront} (h : c.Turns) (starts : Bool) :
    (c.step (.received starts)).Turns := by
  rw [step]
  cases hrequest : c.logins[c.read]? with
  | none => exact h
  | some request =>
      have hlength : c.read < c.logins.length :=
        (List.getElem?_eq_some_iff.1 hrequest).1
      have hmem := h.unread c.read (Nat.le_refl _) hlength
      have hread : Turns { c with read := c.read + 1, asked := true } := by
        refine ⟨hlength, ?_, ?_, h.undecided, ?_, h.length, h.unanswered,
          h.maySucceed⟩
        · exact fun login hle => h.unread login (Nat.le_of_succ_le hle)
        · exact fun login hlogin =>
            Nat.lt_succ_of_lt (h.started login hlogin)
        · exact fun reply hreply =>
            Nat.lt_succ_of_lt (h.replies reply hreply)
      change (c.loginReceived starts request).Turns
      unfold loginReceived
      dsimp only
      split
      · exact hread.tell (Nat.lt_succ_self _) fun htrue => nomatch htrue
      · split
        · refine ⟨hlength, hread.unread, ?_, ?_, hread.replies, h.length,
            h.unanswered, ?_⟩
          · intro login hlogin
            rcases List.mem_cons.1 hlogin with rfl | hlogin
            · exact Nat.lt_succ_self _
            · exact hread.started login hlogin
          · intro login hlogin
            rcases List.mem_cons.1 hlogin with rfl | hlogin
            · exact List.mem_cons_self
            · exact List.mem_cons_of_mem _ (h.undecided login hlogin)
          · rintro login (⟨hhelper, -⟩ | hreply)
            · rw [← Option.some.inj hhelper]
              exact h.unanswered _ hmem
            · exact h.maySucceed login (Or.inr hreply)
        · exact hread

theorem Turns.replied {c : LoginFront} (h : c.Turns) :
    (c.step .replied).Turns := by
  rw [step]
  cases hreplies : c.replies with
  | nil => exact h
  | cons reply rest =>
      have hreply : reply.login < c.read :=
        h.replies reply (hreplies ▸ List.mem_cons_self)
      have hrest : ∀ reply' ∈ rest, reply' ∈ c.replies := fun reply' hmem =>
        hreplies ▸ List.mem_cons_of_mem reply hmem
      have harrived : Turns { c with
          replies := rest,
          unanswered := c.unanswered.filter (· ≠ reply.login) } := by
        refine ⟨h.read, ?_, h.started, h.undecided, ?_, ?_, ?_, ?_⟩
        · intro login (hle : c.read ≤ login) hlt
          have hne : login ≠ reply.login := by omega
          exact List.mem_filter.2
            ⟨h.unread login hle hlt, decide_eq_true hne⟩
        · exact fun reply' hmem => h.replies reply' (hrest reply' hmem)
        · exact (List.length_filter_le _ _).trans h.length
        · exact fun login hmem =>
            h.unanswered login (List.mem_filter.1 hmem).1
        · rintro login (hhelper | hmem)
          · exact h.maySucceed login (Or.inl hhelper)
          · exact h.maySucceed login (Or.inr (hrest _ hmem))
      change (c.replyArrived reply rest).Turns
      unfold replyArrived
      dsimp only
      split
      · exact harrived.congr c.screens c.remembered c.asked
      · exact harrived.congr (c.screens.map fun _ => true) c.saved c.asked

theorem Turns.step {c : LoginFront} {e : LoginFrontEvent} (h : c.Turns)
    (he : c.Enabled e) (hturn : c.TakesTurns e) : (c.step e).Turns := by
  cases e with
  | screenAdded => exact h.congr _ c.saved c.asked
  | screenRemoved screen => exact h.congr _ c.saved c.asked
  | submit screen request => exact h.submit hturn
  | received starts => exact h.received starts
  | authError login =>
      exact h.tell (h.started login he) fun htrue => nomatch htrue
  | authenticated login success =>
      have hlt : login < c.read :=
        h.started login (h.undecided login he.1)
      have hlast : success = true → c.lastLogin login = some c.remembered :=
        fun hsuccess => h.maySucceed login (Or.inl ⟨he.2 hsuccess, he.1⟩)
      have htold : (LoginFront.tell ⟨login, success⟩
          { c with undecided := c.undecided.filter (· ≠ login) }).Turns :=
        (h.decided login).tell hlt hlast
      exact htold.congr _ _ false
  | helperFinished =>
      refine ⟨h.read, h.unread, h.started, h.undecided, h.replies, h.length,
        h.unanswered, ?_⟩
      rintro login (⟨hnone, -⟩ | hreply)
      · have hnone : none = some login := hnone
        exact nomatch hnone
      · exact h.maySucceed login (Or.inr hreply)
  | replied => exact h.replied

/-- What success saves is what is remembered. -/
theorem saved_of_succeeding {c : LoginFront} {e : LoginFrontEvent}
    {login : Nat} (h : c.Succeeding e login) :
    (c.step e).saved = c.remembered ∧ (c.step e).logins = c.logins := by
  obtain ⟨rfl, rest, hreplies⟩ := h
  simp only [step, hreplies, replyArrived, onLoginSucceeded, if_true, and_self]

theorem Turns.oneLogin {c : LoginFront} {e : LoginFrontEvent} (h : c.Turns)
    (he : c.Enabled e) (hturn : c.TakesTurns e) :
    OneLogin (loginFront.fire c e) := by
  refine ⟨(h.step he hturn).length, fun login hlogin => ?_⟩
  have hlogin : c.Succeeding e login := hlogin
  obtain ⟨hsaved, hlogins⟩ := saved_of_succeeding hlogin
  obtain ⟨_, rest, hreplies⟩ := hlogin
  change (c.step e).lastLogin login = some (c.step e).saved
  rw [lastLogin, hlogins, hsaved]
  exact h.maySucceed login (Or.inr (hreplies ▸ List.mem_cons_self))

theorem Turns.steps {c : LoginFront} {es : List LoginFrontEvent}
    (h : c.Turns) (hes : loginFront.Runs c es)
    (hturns : loginFront.Guarded TakesTurns c es) :
    ∀ st ∈ loginFront.steps c es, OneLogin st ∧ st.after.Turns := by
  intro st hst
  have hbefore := loginFront.steps_invariant
    (G := fun c e => c.Enabled e ∧ c.TakesTurns e)
    (fun _ _ h he => h.step he.1 he.2) h
    (fun st hst => ⟨hes st hst, hturns st hst⟩) st hst
  have henabled : st.before.Enabled st.event := hes st hst
  have hturn : st.before.TakesTurns st.event := hturns st hst
  obtain ⟨pre, e, post, -, rfl⟩ := (loginFront.mem_steps_iff c es st).1 hst
  exact ⟨hbefore.oneLogin henabled hturn, hbefore.step henabled hturn⟩

theorem Turns.staysOneLogin {c : LoginFront} (h : c.Turns) :
    c.StaysOneLogin := by
  intro es hes hnone st hst
  have hturns : loginFront.Guarded TakesTurns c es := by
    intro st hst
    obtain ⟨pre, e, post, heq, rfl⟩ := (loginFront.mem_steps_iff c es st).1 hst
    have he := hnone e (by rw [heq]; simp)
    cases e with
    | submit screen request => exact nomatch he
    | _ => trivial
  exact (h.steps hes hturns st hst).1

section stays

variable {c : LoginFront} (h : c.StaysOneLogin) {e : LoginFrontEvent}
  (he : c.Enabled e) (hsubmit : e.isSubmit = false)

include h he hsubmit

theorem StaysOneLogin.oneLogin : OneLogin (loginFront.fire c e) :=
  h [e] ((loginFront.guarded_cons _ _ _ _).2 ⟨he, loginFront.guarded_nil _ _⟩)
    (by simpa using hsubmit) _ List.mem_cons_self

theorem StaysOneLogin.step : (c.step e).StaysOneLogin := by
  intro es hes hnone st hst
  refine h (e :: es) ((loginFront.guarded_cons _ _ _ _).2 ⟨he, hes⟩) ?_ st
    (List.mem_cons_of_mem _ hst)
  exact List.forall_mem_cons.2 ⟨hsubmit, hnone⟩

end stays

/-- A success on its way arrives, and is to save the right login. -/
theorem StaysOneLogin.lastLogin_of_reply {c : LoginFront}
    (h : c.StaysOneLogin) {login : Nat} (hreply : ⟨login, true⟩ ∈ c.replies) :
    c.lastLogin login = some c.remembered := by
  generalize hreplies : c.replies = replies at hreply
  induction replies generalizing c with
  | nil => exact absurd hreply List.not_mem_nil
  | cons reply rest ih =>
      have he : c.Enabled .replied := by
        rw [Enabled, hreplies]
        exact List.cons_ne_nil _ _
      have hsame : (c.step .replied).logins = c.logins ∧
          (c.step .replied).remembered = c.remembered ∧
            (c.step .replied).replies = rest := by
        simp only [LoginFront.step, hreplies, replyArrived, onLoginSucceeded,
          onLoginFailed]
        split <;> exact ⟨rfl, rfl, rfl⟩
      rcases List.mem_cons.1 hreply with rfl | hlater
      · have hsucceeding : c.Succeeding .replied login := ⟨rfl, rest, hreplies⟩
        have hone := (h.oneLogin he rfl).2 login hsucceeding
        change (c.step .replied).lastLogin login =
          some (c.step .replied).saved at hone
        rw [lastLogin, hsame.1, (saved_of_succeeding hsucceeding).1] at hone
        exact hone
      · have hlast := ih (h.step he rfl) hsame.2.2 hlater
        rw [lastLogin, hsame.1, hsame.2.1] at hlast
        exact hlast

/-- The helper that runs is to say that it succeeds, and somebody is told. -/
theorem StaysOneLogin.lastLogin_of_helper {c : LoginFront}
    (h : c.StaysOneLogin) (hasked : c.asked = true) {login : Nat}
    (hhelper : c.helper = some login) (hundecided : login ∈ c.undecided) :
    c.lastLogin login = some c.remembered := by
  have hafter := h.step (e := .authenticated login true)
    ⟨hundecided, fun _ => hhelper⟩ rfl
  have hreply : ⟨login, true⟩ ∈
      (c.step (.authenticated login true)).replies := by
    simp [LoginFront.step, slotAuthenticationFinished, tell, hasked]
  have hlast := hafter.lastLogin_of_reply hreply
  simp only [LoginFront.step, slotAuthenticationFinished, tell, hasked,
    if_true] at hlast
  exact hlast

/-- Whoever may succeed is the one that is remembered, if there is a `Login`
to be read: with that one the display knows whom to tell. -/
theorem StaysOneLogin.lastLogin_of_maySucceed {c : LoginFront}
    (h : c.StaysOneLogin) (hread : c.read < c.logins.length) {login : Nat}
    (hmay : c.MaySucceed login) : c.lastLogin login = some c.remembered := by
  rcases hmay with ⟨hhelper, hundecided⟩ | hreply
  · have hreceived : (c.step (.received false)).helper = some login ∧
        login ∈ (c.step (.received false)).undecided ∧
          (c.step (.received false)).asked = true ∧
            (c.step (.received false)).logins = c.logins ∧
              (c.step (.received false)).remembered = c.remembered := by
      rw [LoginFront.step, List.getElem?_eq_getElem hread]
      dsimp only [loginReceived, tell]
      rw [Bool.and_false]
      split
      · exact ⟨hhelper, hundecided, rfl, rfl, rfl⟩
      · exact ⟨hhelper, hundecided, rfl, rfl, rfl⟩
    obtain ⟨hhelper', hundecided', hasked, hlogins, hremembered⟩ := hreceived
    have hlast := (h.step (e := .received false) hread rfl).lastLogin_of_helper
      hasked hhelper' hundecided'
    rw [lastLogin, hlogins, hremembered] at hlast
    exact hlast
  · exact h.lastLogin_of_reply hreply

/-- A submission that leaves one login, whatever follows, takes its turn. -/
theorem Turns.takesTurns_of_stays {c : LoginFront} (hc : c.Turns)
    {e : LoginFrontEvent} (hone : OneLogin (loginFront.fire c e))
    (h : (c.step e).StaysOneLogin) : c.TakesTurns e := by
  cases e with
  | submit screen request =>
      have hlength : (c.unanswered ++ [c.logins.length]).length ≤ 1 := hone.1
      rw [List.length_append, List.length_singleton] at hlength
      refine ⟨List.length_eq_zero_iff.1 (by omega), fun login hmay => ?_⟩
      have hread : c.read < (c.logins ++ [request]).length := by
        have hle := hc.read
        simp only [List.length_append, List.length_singleton]
        omega
      have hlast : (c.step (.submit screen request)).lastLogin login =
          some request.lastLogin :=
        h.lastLogin_of_maySucceed hread hmay
      have hlt : login < c.logins.length := by
        have hlt : login < c.read := by
          rcases hmay with ⟨-, hundecided⟩ | hreply
          · exact hc.started login (hc.undecided login hundecided)
          · exact hc.replies _ hreply
        exact hlt.trans_le hc.read
      simp only [lastLogin, LoginFront.step, handleLoginRequest,
        List.getElem?_append_left hlt] at hlast
      exact hlast
  | _ => trivial

theorem Turns.guarded_of_stays {c : LoginFront} (hc : c.Turns)
    {es : List LoginFrontEvent} (hes : loginFront.Runs c es)
    (hall : ∀ st ∈ loginFront.steps c es, OneLogin st ∧ st.after.StaysOneLogin) :
    loginFront.Guarded TakesTurns c es := by
  induction es generalizing c with
  | nil => exact loginFront.guarded_nil _ _
  | cons e es ih =>
      obtain ⟨he, hrest⟩ := (loginFront.guarded_cons _ c e es).1 hes
      rw [Machine.steps_cons, List.forall_mem_cons] at hall
      have hturn := hc.takesTurns_of_stays hall.1.1 hall.1.2
      exact (loginFront.guarded_cons _ c e es).2
        ⟨hturn, ih (hc.step he hturn) hrest hall.2⟩

/-- In every run of any number of screens there is one `Login` at most without
an answer, and the one that succeeds is saved, whatever the daemon does until
the next submission, exactly when every submission takes its turn. -/
theorem steps_oneLogin_iff (n : Nat) (saved : LastLogin)
    {es : List LoginFrontEvent} (hes : loginFront.Runs (start n saved) es) :
    (∀ st ∈ loginFront.steps (start n saved) es,
      OneLogin st ∧ st.after.StaysOneLogin) ↔
        loginFront.Guarded TakesTurns (start n saved) es := by
  constructor
  · exact (turns_start n saved).guarded_of_stays hes
  · intro hturns st hst
    have hafter := (turns_start n saved).steps hes hturns st hst
    exact ⟨hafter.1, hafter.2.staysOneLogin⟩

def aliceRequest : LoginRequest := ⟨"alice", "secret", 1, "plasma.desktop"⟩

def bobRequest : LoginRequest := ⟨"bob", "hidden", 0, "openbox.desktop"⟩

/-- bob is shown a message and fails, alice logs in on the other screen, and
bob tries again while her helper runs. -/
def bobThenAlice : List LoginFrontEvent :=
  [.submit 0 bobRequest, .received true, .authError 0, .authenticated 0 false,
    .replied, .replied, .helperFinished, .submit 1 aliceRequest,
    .received true, .authenticated 1 true, .replied, .submit 0 bobRequest,
    .received true]

theorem steps_oneLogin_alice :
    loginFront.Runs (start 2 {}) bobThenAlice ∧
      ∀ st ∈ loginFront.steps (start 2 {}) bobThenAlice,
        OneLogin st ∧ st.after.StaysOneLogin :=
  ⟨by decide, (steps_oneLogin_iff 2 {} (by decide)).2 (by decide)⟩

/-- The second screen is submitted on before the first is answered, and on one
screen alone bob follows alice, who has been shown a message: the login of
alice is authenticated, that of bob is saved. -/
theorem steps_not_oneLogin :
    (∃ es, loginFront.Runs (start 2 {}) es ∧
      ∃ st ∈ loginFront.steps (start 2 {}) es,
        st.before.Succeeding st.event 0 ∧
          st.before.lastLogin 0 = some aliceRequest.lastLogin ∧
          st.after.saved = bobRequest.lastLogin ∧
          ¬ st.before.unanswered.length ≤ 1) ∧
    ∃ es, loginFront.Runs (start 1 {}) es ∧
      ∃ st ∈ loginFront.steps (start 1 {}) es,
        st.before.Succeeding st.event 0 ∧
          st.before.lastLogin 0 = some aliceRequest.lastLogin ∧
          st.after.saved = bobRequest.lastLogin := by
  refine ⟨⟨[.submit 0 aliceRequest, .submit 1 bobRequest, .received true,
    .received true, .authenticated 0 true, .replied], by decide, ?_⟩,
    [.submit 0 aliceRequest, .received true, .authError 0, .replied,
      .submit 0 bobRequest, .received true, .authenticated 0 true, .replied],
    by decide, ?_⟩
  · refine ⟨_, List.getLast_mem (List.cons_ne_nil _ _), ⟨rfl, [], rfl⟩, ?_⟩
    exact ⟨by decide, by decide, by decide⟩
  · refine ⟨_, List.getLast_mem (List.cons_ne_nil _ _), ⟨rfl, [], rfl⟩, ?_⟩
    exact ⟨by decide, by decide⟩

end LoginFront

end PlasmaLogin

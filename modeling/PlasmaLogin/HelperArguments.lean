/-
The helper's command line, from `Auth::start` through `HelperApp::setUp` to
the PAM service `PamBackend::start` selects.  The decoder looks every option
word up in the whole list, so a value that happens to be an option word can
be taken for one; the main theorem says exactly when that does not happen.
-/
import PlasmaLogin.ArgScan
import PlasmaLogin.Auth

namespace PlasmaLogin

open ArgScan

/-- The members of `HelperApp`, `UserSession` and `PamBackend` that
`HelperApp::setUp` fills in. -/
structure HelperApp where
  id : Int64 := -1
  user : QString := []
  sessionPath : QString := []
  autologin : Bool := false
  greeter : Bool := false
deriving DecidableEq

namespace HelperApp

/-- One option of `setUp` that takes a value: an option without its value ends
the helper, an option that is not given keeps what the member held. -/
def optionValue (option : HelperOption) (unset : QString)
    (args : List QString) : Except HelperExitStatus QString :=
  match find option.word args with
  | .absent => .ok unset
  | .dangling => .error HelperExitStatus.otherError
  | .value v => .ok v

/-- The `--id` option, read with `QString::toLongLong`. -/
def idValue (unset : Int64) (args : List QString) :
    Except HelperExitStatus Int64 :=
  match find HelperOption.id.word args with
  | .absent => .ok unset
  | .dangling => .error HelperExitStatus.otherError
  | .value v => .ok (QString.toLongLong v)

/-- `HelperApp::setUp` up to the connection: the members it fills in and the
server it would connect to, or the status it exits with. -/
def setUp (args : List QString) :
    Except HelperExitStatus (QString × HelperApp) := do
  let app : HelperApp := {}
  let server ← optionValue .socket [] args
  let id ← idValue app.id args
  let sessionPath ← optionValue .start app.sessionPath args
  let user ← optionValue .user app.user args
  -- the value of this option is only checked for, never used
  let _ ← optionValue .displayServer [] args
  let autologin := args.contains HelperOption.autologin.word
  let greeter := args.contains HelperOption.greeter.word
  if server.isEmpty ∨ id.toInt ≤ 0 then
    .error HelperExitStatus.otherError
  else
    .ok (server, { id, user, sessionPath, autologin, greeter })

end HelperApp

/-- The service `PamBackend::start` opens its PAM transaction with. -/
def PamBackend.service (user : QString) (greeter autologin : Bool) : QString :=
  if user = ("plasmalogin" : QString) ∧ greeter then "plasmalogin-greeter"
  else if autologin then "plasmalogin-autologin"
  else "plasmalogin"

/-- The helper ends up with what the daemon's `Auth` holds, and so with the
PAM service that `Auth`'s own flags call for. -/
def HelperApp.RoundTrip (libexecDir serverName : QString) (a : Auth) : Prop :=
  ∃ server app,
    HelperApp.setUp (a.helperArguments libexecDir serverName) =
      .ok (server, app) ∧
    app.id = a.id ∧ app.sessionPath = a.sessionPath ∧ app.user = a.user ∧
    app.autologin = a.autologin ∧ app.greeter = a.greeter ∧
    PamBackend.service app.user app.greeter app.autologin =
      PamBackend.service a.user a.greeter a.autologin

/-- No value of the command line is taken for an option word.  A value that
equals an option word is harmless where the search stops before it, or where
what it finds there is the value that belongs there. -/
def Auth.Unambiguous (serverName : QString) (a : Auth) : Prop :=
  serverName ≠ [] ∧
  (a.sessionPath = [] → a.user ≠ HelperOption.start.word) ∧
  (a.sessionPath = HelperOption.user.word →
    a.user = HelperOption.user.word) ∧
  (a.autologin = false → a.greeter = false →
    (a.sessionPath = HelperOption.displayServer.word → a.user ≠ []) ∧
    (a.sessionPath ≠ HelperOption.displayServer.word →
      a.user ≠ HelperOption.displayServer.word)) ∧
  (a.autologin = false → a.sessionPath ≠ HelperOption.autologin.word ∧
    a.user ≠ HelperOption.autologin.word) ∧
  (a.greeter = false → a.sessionPath ≠ HelperOption.greeter.word ∧
    a.user ≠ HelperOption.greeter.word)

namespace HelperArguments

variable {libexecDir serverName : QString} {a : Auth}

theorem word_ne_nil (o : HelperOption) : o.word ≠ [] := by
  cases o <;> exact List.cons_ne_nil _ _

/-- Every option word starts with a dash. -/
theorem head_word (o : HelperOption) : o.word.head? = some 45 := by
  cases o <;> rfl

theorem word_length_lt (o : HelperOption) : o.word.length < 19 := by
  cases o <;> decide

theorem helperProgram_ne_word (libexecDir : QString) (o : HelperOption) :
    Auth.helperProgram libexecDir ≠ o.word := by
  intro heq
  have hshort := word_length_lt o
  have hlong : (Auth.helperProgram libexecDir).length =
      libexecDir.length + 19 := by
    rw [Auth.helperProgram, List.length_append]
    rfl
  rw [← heq, hlong] at hshort
  omega

theorem number_ne_word {n : Int64} (hn : 0 < n.toInt) (o : HelperOption) :
    QString.number n ≠ o.word := by
  intro heq
  have hhead : (QString.number n).head? = some 45 := heq ▸ head_word o
  rw [QString.number, if_neg (by omega)] at hhead
  have hdigit := QString.decimal_isDigit _ 45 (List.mem_of_mem_head? hhead)
  exact absurd hdigit (by decide)

/-- The part of the command line whose shape depends on the attempt. -/
def tailWords (a : Auth) : List QString :=
  Auth.optionWords .start a.startOption ++
    Auth.optionWords .user a.userOption ++
    Auth.flagWords .autologin a.autologin ++ Auth.flagWords .greeter a.greeter

theorem helperArguments_eq (libexecDir serverName : QString) (a : Auth) :
    a.helperArguments libexecDir serverName =
      [Auth.helperProgram libexecDir, HelperOption.socket.word, serverName,
        HelperOption.id.word, QString.number a.id] ++ tailWords a := by
  simp [Auth.helperArguments, Auth.startArgs, tailWords]

theorem find_socket :
    find HelperOption.socket.word (a.helperArguments libexecDir serverName) =
      .value serverName := by
  rw [helperArguments_eq, List.cons_append,
    find_cons_of_ne (helperProgram_ne_word libexecDir _)]
  exact find_cons_self _ _ _

theorem find_id (hserver : ∀ o : HelperOption, serverName ≠ o.word) :
    find HelperOption.id.word (a.helperArguments libexecDir serverName) =
      .value (QString.number a.id) := by
  simp [helperArguments_eq, helperProgram_ne_word, hserver]

theorem not_mem_front (libexecDir : QString)
    (hserver : ∀ o : HelperOption, serverName ≠ o.word)
    (hid : 0 < a.id.toInt) {o : HelperOption} (hsocket : o ≠ .socket)
    (hoid : o ≠ .id) :
    o.word ∉ [Auth.helperProgram libexecDir, HelperOption.socket.word,
      serverName, HelperOption.id.word, QString.number a.id] := by
  simp only [List.mem_cons, List.not_mem_nil, or_false,
    HelperOption.word_inj, hsocket, hoid, false_or, not_or]
  exact ⟨Ne.symm (helperProgram_ne_word libexecDir o), Ne.symm (hserver o),
    Ne.symm (number_ne_word hid o)⟩

/-- Options other than the first two are searched for in the tail only. -/
theorem find_tail (hserver : ∀ o : HelperOption, serverName ≠ o.word)
    (hid : 0 < a.id.toInt) {o : HelperOption} (hsocket : o ≠ .socket)
    (hoid : o ≠ .id) :
    find o.word (a.helperArguments libexecDir serverName) =
      find o.word (tailWords a) := by
  rw [helperArguments_eq,
    find_append_of_not_mem
      (not_mem_front libexecDir hserver hid hsocket hoid)]

theorem contains_tail (libexecDir : QString)
    (hserver : ∀ o : HelperOption, serverName ≠ o.word)
    (hid : 0 < a.id.toInt) {o : HelperOption} (hsocket : o ≠ .socket)
    (hoid : o ≠ .id) :
    (a.helperArguments libexecDir serverName).contains o.word =
      (tailWords a).contains o.word := by
  have hfront := not_mem_front libexecDir hserver hid hsocket hoid
  rw [helperArguments_eq, Bool.eq_iff_iff, List.contains_iff_mem,
    List.contains_iff_mem, List.mem_append]
  exact or_iff_right hfront

theorem startOption_of_eq_nil (h : a.sessionPath = []) :
    a.startOption = none := by
  simp [Auth.startOption, h]

theorem startOption_of_ne_nil (h : a.sessionPath ≠ []) :
    a.startOption = some a.sessionPath := by
  simp [Auth.startOption, h]

theorem userOption_of_eq_nil (h : a.user = []) : a.userOption = none := by
  simp [Auth.userOption, h]

theorem userOption_of_ne_nil (h : a.user ≠ []) :
    a.userOption = some a.user := by
  simp [Auth.userOption, h]

/-- The bare flags that end the command line. -/
def trailingFlags (a : Auth) : List QString :=
  Auth.flagWords .autologin a.autologin ++ Auth.flagWords .greeter a.greeter

theorem mem_trailingFlags_iff {w : QString} :
    w ∈ trailingFlags a ↔
      (w = HelperOption.autologin.word ∧ a.autologin = true) ∨
        (w = HelperOption.greeter.word ∧ a.greeter = true) := by
  cases hauto : a.autologin <;> cases hgreeter : a.greeter <;>
    simp [trailingFlags, Auth.flagWords, hauto, hgreeter]

theorem trailingFlags_eq_nil_iff :
    trailingFlags a = [] ↔ a.autologin = false ∧ a.greeter = false := by
  cases hauto : a.autologin <;> cases hgreeter : a.greeter <;>
    simp [trailingFlags, Auth.flagWords, hauto, hgreeter]

/-- What an option word finds when it stands right before the flags is one of
their words or nothing, so never the empty string. -/
theorem find_self_cons_trailingFlags (o : HelperOption) :
    (find o.word (o.word :: trailingFlags a) = .dangling ∧
        trailingFlags a = []) ∨
      ∃ v ∈ trailingFlags a, v ≠ [] ∧
        find o.word (o.word :: trailingFlags a) = .value v := by
  cases hflags : trailingFlags a with
  | nil => exact Or.inl ⟨find_singleton_self _, rfl⟩
  | cons v rest =>
      have hv : v ∈ trailingFlags a := hflags ▸ List.mem_cons_self
      refine Or.inr ⟨v, List.mem_cons_self, ?_, find_cons_self _ _ _⟩
      rcases mem_trailingFlags_iff.1 hv with ⟨rfl, _⟩ | ⟨rfl, _⟩ <;>
        exact word_ne_nil _

theorem find_trailingFlags {o : HelperOption} (hauto : o ≠ .autologin)
    (hgreeter : o ≠ .greeter) :
    find o.word (trailingFlags a) = .absent := by
  apply find_of_not_mem
  simp [mem_trailingFlags_iff, hauto, hgreeter]

theorem tailWords_eq :
    tailWords a = Auth.optionWords .start a.startOption ++
      (Auth.optionWords .user a.userOption ++ trailingFlags a) := by
  simp [tailWords, trailingFlags]

/-- An option word that lands right before the flags takes one of them as
its value, or stops the helper. -/
theorem optionValue_cons_trailingFlags_ne (o : HelperOption)
    (unset : QString) :
    HelperApp.optionValue o unset (o.word :: trailingFlags a) ≠ .ok [] := by
  rcases find_self_cons_trailingFlags (a := a) o with ⟨h, _⟩ | ⟨v, _, hv, h⟩
  · simp [HelperApp.optionValue, h]
  · simpa [HelperApp.optionValue, h] using hv

theorem tailWords_of_sessionPath_eq_nil (hpath : a.sessionPath = []) :
    tailWords a = Auth.optionWords .user a.userOption ++ trailingFlags a := by
  rw [tailWords_eq, startOption_of_eq_nil hpath]
  rfl

theorem tailWords_of_sessionPath_ne_nil (hpath : a.sessionPath ≠ []) :
    tailWords a = HelperOption.start.word :: a.sessionPath ::
      (Auth.optionWords .user a.userOption ++ trailingFlags a) := by
  rw [tailWords_eq, startOption_of_ne_nil hpath]
  rfl

theorem optionWords_user_of_ne_nil (huser : a.user ≠ []) :
    Auth.optionWords .user a.userOption =
      [HelperOption.user.word, a.user] := by
  rw [userOption_of_ne_nil huser]
  rfl

theorem optionWords_user_of_eq_nil (huser : a.user = []) :
    Auth.optionWords .user a.userOption = [] := by
  rw [userOption_of_eq_nil huser]
  rfl

/-- Looking for `o` in the `--user` pair and the flags behind it. -/
theorem find_userWords {o : HelperOption} (huser : o ≠ .user)
    (hauto : o ≠ .autologin) (hgreeter : o ≠ .greeter) :
    find o.word (Auth.optionWords .user a.userOption ++ trailingFlags a) =
      if a.user = o.word then find o.word (o.word :: trailingFlags a)
      else .absent := by
  by_cases hnil : a.user = []
  · have hne : a.user ≠ o.word := fun h => word_ne_nil o (h ▸ hnil)
    rw [optionWords_user_of_eq_nil hnil, if_neg hne, List.nil_append,
      find_trailingFlags hauto hgreeter]
  · have hword : HelperOption.user.word ≠ o.word :=
      fun h => huser (HelperOption.word_injective h).symm
    rw [optionWords_user_of_ne_nil hnil, List.cons_append,
      find_cons_of_ne hword, List.singleton_append]
    by_cases heq : a.user = o.word
    · rw [if_pos heq, heq]
    · rw [if_neg heq, find_cons_of_ne heq, find_trailingFlags hauto hgreeter]

theorem optionValue_start_iff :
    HelperApp.optionValue .start [] (tailWords a) = .ok a.sessionPath ↔
      (a.sessionPath = [] → a.user ≠ HelperOption.start.word) := by
  by_cases hpath : a.sessionPath = []
  · have hfind := find_userWords (a := a) (o := .start)
      (by decide) (by decide) (by decide)
    rw [← tailWords_of_sessionPath_eq_nil hpath] at hfind
    by_cases huser : a.user = HelperOption.start.word
    · rw [if_pos huser] at hfind
      have hne := optionValue_cons_trailingFlags_ne (a := a) .start []
      simp only [HelperApp.optionValue, hfind, hpath, huser] at hne ⊢
      simp [hne]
    · rw [if_neg huser] at hfind
      simp [HelperApp.optionValue, hfind, hpath, huser]
  · rw [tailWords_of_sessionPath_ne_nil hpath]
    simp [HelperApp.optionValue, hpath]

theorem optionValue_user_iff :
    HelperApp.optionValue .user [] (tailWords a) = .ok a.user ↔
      (a.sessionPath = HelperOption.user.word →
        a.user = HelperOption.user.word) := by
  have hpair : HelperApp.optionValue .user []
      (Auth.optionWords .user a.userOption ++ trailingFlags a) =
        .ok a.user := by
    by_cases huser : a.user = []
    · rw [optionWords_user_of_eq_nil huser, List.nil_append,
        HelperApp.optionValue, find_trailingFlags (by decide) (by decide),
        huser]
    · rw [optionWords_user_of_ne_nil huser]
      simp [HelperApp.optionValue]
  by_cases hpath : a.sessionPath = []
  · have hne : a.sessionPath ≠ HelperOption.user.word :=
      fun h => word_ne_nil _ (h.symm.trans hpath)
    rw [tailWords_of_sessionPath_eq_nil hpath]
    simp [hpair, hne]
  · rw [tailWords_of_sessionPath_ne_nil hpath]
    have hword : HelperOption.start.word ≠ HelperOption.user.word := by decide
    by_cases hclash : a.sessionPath = HelperOption.user.word
    · by_cases huser : a.user = []
      · have hne := optionValue_cons_trailingFlags_ne (a := a) .user []
        rw [optionWords_user_of_eq_nil huser, List.nil_append, hclash,
          HelperApp.optionValue, find_cons_of_ne hword,
          ← HelperApp.optionValue, huser]
        simp [hne, Ne.symm (word_ne_nil .user)]
      · rw [optionWords_user_of_ne_nil huser, hclash, HelperApp.optionValue,
          find_cons_of_ne hword]
        simp [eq_comm]
    · rw [HelperApp.optionValue, find_cons_of_ne hword,
        find_cons_of_ne hclash, ← HelperApp.optionValue, hpair]
      simp [hclash]

theorem optionValue_displayServer_iff :
    (∃ v, HelperApp.optionValue .displayServer [] (tailWords a) = .ok v) ↔
      (a.autologin = false → a.greeter = false →
        (a.sessionPath = HelperOption.displayServer.word → a.user ≠ []) ∧
        (a.sessionPath ≠ HelperOption.displayServer.word →
          a.user ≠ HelperOption.displayServer.word)) := by
  have hfind := find_userWords (a := a) (o := .displayServer)
    (by decide) (by decide) (by decide)
  have hself : (∃ v, HelperApp.optionValue .displayServer []
      (HelperOption.displayServer.word :: trailingFlags a) = .ok v) ↔
        ¬ (a.autologin = false ∧ a.greeter = false) := by
    rw [← trailingFlags_eq_nil_iff]
    rcases find_self_cons_trailingFlags (a := a) .displayServer with
      ⟨h, hnil⟩ | ⟨v, hv, _, h⟩
    · simp [HelperApp.optionValue, hnil]
    · simp [HelperApp.optionValue, h, List.ne_nil_of_mem hv]
  by_cases hpath : a.sessionPath = []
  · have hne : a.sessionPath ≠ HelperOption.displayServer.word :=
      fun h => word_ne_nil _ (h.symm.trans hpath)
    rw [tailWords_of_sessionPath_eq_nil hpath]
    by_cases huser : a.user = HelperOption.displayServer.word
    · rw [if_pos huser] at hfind
      rw [HelperApp.optionValue, hfind, ← HelperApp.optionValue, hself]
      simp [hne, huser]
    · rw [if_neg huser] at hfind
      simp [HelperApp.optionValue, hfind, hne, huser]
  · rw [tailWords_of_sessionPath_ne_nil hpath]
    have hword : HelperOption.start.word ≠
        HelperOption.displayServer.word := by decide
    by_cases hclash : a.sessionPath = HelperOption.displayServer.word
    · by_cases huser : a.user = []
      · rw [optionWords_user_of_eq_nil huser, List.nil_append, hclash,
          HelperApp.optionValue, find_cons_of_ne hword,
          ← HelperApp.optionValue, hself]
        simp [huser]
      · rw [optionWords_user_of_ne_nil huser, hclash, HelperApp.optionValue,
          find_cons_of_ne hword]
        simp [huser]
    · by_cases huser : a.user = HelperOption.displayServer.word
      · rw [if_pos huser] at hfind
        rw [HelperApp.optionValue, find_cons_of_ne hword,
          find_cons_of_ne hclash, hfind, ← HelperApp.optionValue, hself]
        simp [hclash, huser]
      · rw [if_neg huser] at hfind
        rw [HelperApp.optionValue, find_cons_of_ne hword,
          find_cons_of_ne hclash, hfind]
        simp [hclash, huser]

theorem mem_tailWords_iff {o : HelperOption} (hstart : o ≠ .start)
    (huser : o ≠ .user) :
    o.word ∈ tailWords a ↔ a.sessionPath = o.word ∨ a.user = o.word ∨
      o.word ∈ trailingFlags a := by
  have hvalue : ∀ (p : HelperOption) (x : QString), o ≠ p →
      (o.word ∈ Auth.optionWords p (if x.isEmpty then none else some x) ↔
        x = o.word) := by
    intro p x hp
    by_cases hx : x = []
    · subst hx
      exact iff_of_false List.not_mem_nil (Ne.symm (word_ne_nil o))
    · have hempty : x.isEmpty = false := by simpa using hx
      simp only [hempty, Bool.false_eq_true, ↓reduceIte, Auth.optionWords,
        List.mem_cons, HelperOption.word_inj, hp, List.not_mem_nil, or_false,
        false_or]
      exact eq_comm
  rw [tailWords_eq, List.mem_append, List.mem_append, Auth.startOption,
    Auth.userOption, hvalue .start _ hstart, hvalue .user _ huser]

theorem contains_autologin_iff :
    (tailWords a).contains HelperOption.autologin.word = a.autologin ↔
      (a.autologin = false → a.sessionPath ≠ HelperOption.autologin.word ∧
        a.user ≠ HelperOption.autologin.word) := by
  rw [Bool.eq_iff_iff, List.contains_iff_mem,
    mem_tailWords_iff (by decide) (by decide), mem_trailingFlags_iff]
  cases a.autologin <;> simp

theorem contains_greeter_iff :
    (tailWords a).contains HelperOption.greeter.word = a.greeter ↔
      (a.greeter = false → a.sessionPath ≠ HelperOption.greeter.word ∧
        a.user ≠ HelperOption.greeter.word) := by
  rw [Bool.eq_iff_iff, List.contains_iff_mem,
    mem_tailWords_iff (by decide) (by decide), mem_trailingFlags_iff]
  cases a.greeter <;> simp

/-- `setUp` succeeds exactly when every option is found with its value and
the helper knows its server and a positive id. -/
theorem setUp_eq_ok_iff {args : List QString} {server : QString}
    {app : HelperApp} :
    HelperApp.setUp args = .ok (server, app) ↔
      HelperApp.optionValue .socket [] args = .ok server ∧
      HelperApp.idValue (-1) args = .ok app.id ∧
      HelperApp.optionValue .start [] args = .ok app.sessionPath ∧
      HelperApp.optionValue .user [] args = .ok app.user ∧
      (∃ v, HelperApp.optionValue .displayServer [] args = .ok v) ∧
      args.contains HelperOption.autologin.word = app.autologin ∧
      args.contains HelperOption.greeter.word = app.greeter ∧
      server ≠ [] ∧ 0 < app.id.toInt := by
  obtain ⟨id, user, sessionPath, autologin, greeter⟩ := app
  cases hserver : HelperApp.optionValue .socket [] args <;>
    cases hid : HelperApp.idValue (-1) args <;>
    cases hpath : HelperApp.optionValue .start [] args <;>
    cases huser : HelperApp.optionValue .user [] args <;>
    cases hdisplay : HelperApp.optionValue .displayServer [] args <;>
    simp only [HelperApp.setUp, hserver, hid, hpath, huser, hdisplay,
      bind, Except.bind, reduceCtorEq, exists_const, false_and, and_false]
  rename_i server' id' sessionPath' user' display'
  by_cases hbail : server'.isEmpty ∨ id'.toInt ≤ 0
  · rw [if_pos hbail]
    simp only [reduceCtorEq, false_iff]
    rintro ⟨hs, hi, -, -, -, -, -, hne, hpos⟩
    cases hs
    cases hi
    rcases hbail with hempty | hle
    · exact hne (List.isEmpty_iff.1 hempty)
    · exact absurd hpos (not_lt.2 hle)
  · rw [if_neg hbail]
    simp only [not_or, List.isEmpty_iff, not_le] at hbail
    simp only [Except.ok.injEq, Prod.mk.injEq, HelperApp.mk.injEq,
      exists_eq', true_and]
    constructor
    · rintro ⟨rfl, rfl, rfl, rfl, hauto, hgreeter⟩
      exact ⟨rfl, rfl, rfl, rfl, hauto, hgreeter, hbail⟩
    · rintro ⟨rfl, rfl, rfl, rfl, hauto, hgreeter, -⟩
      exact ⟨rfl, rfl, rfl, rfl, hauto, hgreeter⟩

end HelperArguments

open HelperArguments in
/-- The helper reads back exactly what the daemon's `Auth` holds if and only
if no value of its command line is taken for an option word. -/
theorem setUp_roundTrip_iff (libexecDir serverName : QString) (a : Auth)
    (hserver : ∀ o : HelperOption, serverName ≠ o.word)
    (hid : 0 < a.id.toInt) :
    HelperApp.RoundTrip libexecDir serverName a ↔
      a.Unambiguous serverName := by
  have hsocket : HelperApp.optionValue .socket []
      (a.helperArguments libexecDir serverName) = .ok serverName := by
    rw [HelperApp.optionValue, find_socket]
  have hidValue : HelperApp.idValue (-1)
      (a.helperArguments libexecDir serverName) = .ok a.id := by
    rw [HelperApp.idValue, find_id hserver]
    exact congrArg Except.ok (QString.toLongLong_number a.id)
  have htail : ∀ o : HelperOption, o ≠ .socket → o ≠ .id →
      HelperApp.optionValue o [] (a.helperArguments libexecDir serverName) =
        HelperApp.optionValue o [] (tailWords a) := by
    intro o hosocket hoid
    rw [HelperApp.optionValue, find_tail hserver hid hosocket hoid]
    rfl
  have hstart := optionValue_start_iff (a := a)
  have huser := optionValue_user_iff (a := a)
  have hdisplay := optionValue_displayServer_iff (a := a)
  have hauto := contains_autologin_iff (a := a)
  have hgreeter := contains_greeter_iff (a := a)
  rw [← htail .start (by decide) (by decide)] at hstart
  rw [← htail .user (by decide) (by decide)] at huser
  rw [← htail .displayServer (by decide) (by decide)] at hdisplay
  rw [← contains_tail libexecDir hserver hid
    (by decide) (by decide)] at hauto hgreeter
  rw [Auth.Unambiguous, ← hstart, ← huser, ← hdisplay, ← hauto, ← hgreeter]
  constructor
  · rintro ⟨server, app, happ, hi, hp, hu, ha, hg, -⟩
    obtain ⟨hs, -, hp', hu', hd', ha', hg', hne, -⟩ := setUp_eq_ok_iff.1 happ
    rw [hsocket, Except.ok.injEq] at hs
    subst hs
    exact ⟨hne, hp ▸ hp', hu ▸ hu', hd', ha ▸ ha', hg ▸ hg'⟩
  · rintro ⟨hne, hp, hu, hd, ha, hg⟩
    exact ⟨serverName,
      { id := a.id, user := a.user, sessionPath := a.sessionPath,
        autologin := a.autologin, greeter := a.greeter },
      setUp_eq_ok_iff.2 ⟨hsocket, hidValue, hp, hu, hd, ha, hg, hne, hid⟩,
      rfl, rfl, rfl, rfl, rfl, rfl⟩

/-- An ordinary password login survives the command line. -/
theorem setUp_roundTrip_password_login :
    HelperApp.RoundTrip "/usr/libexec" "/tmp/plasmalogin-auth"
      { id := 7, user := ("alice" : QString),
        sessionPath := ("startplasma-wayland" : QString) } :=
  (setUp_roundTrip_iff _ _ _ (by intro o; cases o <;> decide)
    (by decide)).2 (by
      refine ⟨by decide, ?_, ?_, ?_, ?_, ?_⟩ <;> decide)

/-- A user name that is an option word turns the flag on: the helper selects
the passwordless service although the daemon never asked for it. -/
theorem setUp_not_roundTrip_autologin_user :
    ¬ ∀ (libexecDir serverName : QString) (a : Auth),
      (∀ o : HelperOption, serverName ≠ o.word) → 0 < a.id.toInt →
        HelperApp.RoundTrip libexecDir serverName a := by
  intro hall
  obtain ⟨server, app, happ, -, -, -, hauto, -⟩ :=
    hall "/usr/libexec" "/tmp/plasmalogin-auth"
      { id := 7, user := ("--autologin" : QString) }
      (by intro o; cases o <;> decide) (by decide)
  have hflag : app.autologin = true := by
    have hset := (HelperArguments.setUp_eq_ok_iff.1 happ).2.2.2.2.2.1
    rw [← hset]
    decide
  rw [hflag] at hauto
  exact absurd hauto (by decide)

end PlasmaLogin

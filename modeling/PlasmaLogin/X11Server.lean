/-
The X server of a session that runs it as its own user.  `XOrgUserHelper` writes
the server's command into one string, splits it again, and starts the client as
soon as the server has told its display.
-/
import PlasmaLogin.Calls
import PlasmaLogin.X11Command

namespace PlasmaLogin

open Calls QuoteSplit

/-- The space character. -/
def space : UInt16 := 32

/-- The part of the configuration that `XOrgUserHelper` reads. -/
structure X11Config where
  x11ServerPath : QString := "/usr/bin/X"
  x11ServerArguments : QString := "-nolisten tcp"

/-- What `plasmalogin-helper-start-x11user` asks of the system. -/
inductive XorgCall where
  | setupAuth (directory : QString)
  | pipe
  | setCloexec (fd : Int32)
  | startProcess (program : QString) (args : List QString)
      (env : QProcessEnvironment)
  | close (fd : Int32)
  | readLine (fd : Int32)
  | startClient (program : QString) (args : List QString)
      (env : QProcessEnvironment)
  | writeCookie (fileName displayNumber : QString)
  | waitForFinished (msecs : Int32)
  | terminate
  | kill
  | exec

/-- What the system answers. -/
@[reducible] def XorgCall.Answer : XorgCall → Type
  | .setupAuth _ => Option QString
  | .pipe => Option (Int32 × Int32)
  | .readLine _ => Option QByteArray
  | .startProcess _ _ _ | .writeCookie _ _ | .waitForFinished _ => Bool
  | .exec => Int32
  | .setCloexec _ | .close _ | .startClient _ _ _ | .terminate | .kill => PUnit

/-- A part of the helper, which may abort. -/
abbrev XorgProgram (A : Type) := Program XorgCall.Answer PUnit A

abbrev XorgTrace := List (Event XorgCall.Answer)

/-- One call of the helper. -/
def xorgCall (op : XorgCall) : XorgProgram op.Answer := .perform op

/-- What the helper runs with: the configuration, its own environment and
arguments, and the directory of the scripts. -/
structure XOrgUserHelper where
  config : X11Config
  systemEnvironment : QProcessEnvironment
  arguments : List QString
  dataInstallDir : QString := "/usr/share/plasmalogin"
  fromLocal8Bit : QByteArray → QString

namespace XOrgUserHelper

open Program

variable (helper : XOrgUserHelper)

/-- `XOrgUserHelper::sessionEnvironment`. -/
def sessionEnvironment (display authPath : QString) : QProcessEnvironment :=
  ((helper.systemEnvironment.insert "DISPLAY" display).insert "XAUTHORITY"
    authPath).insert "QT_QPA_PLATFORM" "xcb"

/-- The words of the server's command that `XOrgUserHelper::start` puts
together. -/
def xorgArgs : List QString :=
  helper.config.x11ServerPath ::
    (helper.config.x11ServerArguments.splitOn space).filter (· ≠ []) ++
    [("-background" : QString), ("none" : QString), ("-seat" : QString),
      helper.systemEnvironment.value "XDG_SEAT", ("-noreset" : QString),
      ("-keeptty" : QString), ("-novtswitch" : QString),
      ("-verbose" : QString), ("3" : QString)]

def serverEnv : QProcessEnvironment :=
  helper.systemEnvironment.insert "XORG_RUN_AS_USER_OK" "1"

/-- The words `XOrgUserHelper::startServer` appends to them. -/
def serverArgs (authPath : QString) (fd : Int32) : List QString :=
  [("-auth" : QString), authPath, ("-displayfd" : QString),
    QString.number fd.toInt64,
    ("vt" : QString) ++ helper.serverEnv.value "XDG_VTNR"]

def serverCmd (authPath : QString) (fd : Int32) : QString :=
  join space helper.xorgArgs ++
    space :: join space (helper.serverArgs authPath fd)

/-- `XOrgUserHelper::startProcess`. -/
def startProcess (cmd : QString) (env : QProcessEnvironment) :
    XorgProgram Bool :=
  match QProcess.splitCommand cmd with
  | [] => .exits ⟨⟩
  | program :: args => xorgCall (.startProcess program args env)

/-- What `main` does on `displayChanged`. -/
def displayChanged (display authPath : QString) : XorgProgram PUnit :=
  match X11UserHelper.displayChanged helper.arguments with
  | none => .exits ⟨⟩
  | some (program, args) =>
      xorgCall (.startClient program args
        (helper.sessionEnvironment display authPath))

/-- `XAuth::addCookie`, once `XAuth::setup` has made a cookie. -/
def addCookie (display authPath : QString) : XorgProgram Bool :=
  match display with
  | 58 :: c :: number => xorgCall (.writeCookie authPath (c :: number))
  | _ => return false

/-- The display of the line the server has written. -/
def displayOf (line : QByteArray) : QString :=
  helper.fromLocal8Bit ((58 :: line).dropLast)

/-- What there is of the server: its process, the display the helper has for
it, and whether all has gone well. -/
structure XorgServer where
  running : Bool := false
  display : QString := ":0"
  started : Bool := false

/-- The end of `XOrgUserHelper::startServer`. -/
def awaitDisplay (authPath : QString) (readFd : Int32) :
    XorgProgram XorgServer := do
  let displayNumber : Option QByteArray ← xorgCall (.readLine readFd)
  match displayNumber.filter (2 ≤ ·.length) with
  | none => do
      xorgCall (.close readFd)
      return { running := true }
  | some line => do
      helper.displayChanged (helper.displayOf line) authPath
      let added : Bool ← addCookie (helper.displayOf line) authPath
      if added then do
        xorgCall (.close readFd)
        return ⟨true, helper.displayOf line, true⟩
      else return ⟨true, helper.displayOf line, false⟩

/-- `XOrgUserHelper::startServer`. -/
def startServer (authPath : QString) : XorgProgram XorgServer := do
  let pipeFds : Option (Int32 × Int32) ← xorgCall .pipe
  match pipeFds with
  | none => return {}
  | some (readFd, writeFd) => do
      xorgCall (.setCloexec readFd)
      let running : Bool ←
        startProcess (helper.serverCmd authPath writeFd) helper.serverEnv
      if running then do
        xorgCall (.close writeFd)
        helper.awaitDisplay authPath readFd
      else do
        xorgCall (.close readFd)
        return {}

/-- A script of the display, which has a while to end before it is killed. -/
def runScript (name : QString) (env : QProcessEnvironment) (msecs : Int32) :
    XorgProgram PUnit := do
  let running : Bool ← startProcess
    (helper.dataInstallDir ++ ("/scripts/" : QString) ++ name) env
  if running then do
    let finished : Bool ← xorgCall (.waitForFinished msecs)
    if finished then return ⟨⟩ else xorgCall .kill
  else return ⟨⟩

/-- `XOrgUserHelper::startDisplayCommand`. -/
def startDisplayCommand (display authPath : QString) : XorgProgram PUnit :=
  helper.runScript "Xsetup" ((helper.systemEnvironment.insert "DISPLAY"
    display).insert "XAUTHORITY" authPath) 30000

/-- `XOrgUserHelper::stop`. -/
def stop (server : XorgServer) (authPath : QString) : XorgProgram PUnit :=
  if server.running then do
    xorgCall .terminate
    let finished : Bool ← xorgCall (.waitForFinished 5000)
    if finished then pure ⟨⟩
    else do
      xorgCall .kill
      let _ : Bool ← xorgCall (.waitForFinished 25000)
    helper.runScript "Xstop"
      (helper.sessionEnvironment server.display authPath) 5000
  else return ⟨⟩

/-- `XOrgUserHelper::start` with the rest of `main`, which does not look at
its result. -/
def run (authPath : QString) : XorgProgram Int32 := do
  let server : XorgServer ← helper.startServer authPath
  if server.started then helper.startDisplayCommand server.display authPath
  else pure ⟨⟩
  let code : Int32 ← xorgCall .exec
  helper.stop server authPath
  return code

/-- `main` of the helper. -/
def main : XorgProgram Int32 :=
  if helper.arguments.length = 1 then do
    let authFile : Option QString ← xorgCall
      (.setupAuth (helper.systemEnvironment.value "XDG_RUNTIME_DIR"))
    match authFile with
    | none => .exits ⟨⟩
    | some authPath => helper.run authPath
  else return 33

/-- The words the server is to be started with. -/
def serverWords (authPath : QString) (fd : Int32) : List QString :=
  helper.xorgArgs ++ helper.serverArgs authPath fd

/-- Configuration, seat, terminal and authority file can be written without
quotes; the arguments of the configuration are only told apart by spaces. -/
structure Unquoted (authPath : QString) : Prop where
  path : UserSession.IsWord helper.config.x11ServerPath
  arguments : ∀ c ∈ helper.config.x11ServerArguments,
    c = space ∨ c ≠ quotationMark ∧ QString.isSpace c = false
  seat : UserSession.IsWord (helper.systemEnvironment.value "XDG_SEAT")
  terminal : ∀ c ∈ helper.serverEnv.value "XDG_VTNR",
    c ≠ quotationMark ∧ QString.isSpace c = false
  authority : UserSession.IsWord authPath

/-- A word without quotes and spaces. -/
abbrev PlainWord (word : QString) : Prop :=
  Plain quotationMark QString.isSpace word

theorem plainWord_iff {word : QString} :
    PlainWord word ↔ UserSession.IsWord word := by
  simp [Plain, UserSession.IsWord]

theorem plainWord_number (n : Int64) : PlainWord (QString.number n) := by
  have hdigit : ∀ c ∈ QString.decimal n.toInt.natAbs, c ≠ quotationMark := by
    rintro c hc rfl
    exact absurd (QString.decimal_isDigit _ _ hc) (by decide)
  have hquote : QString.number n ≠ [] ∧
      ∀ c ∈ QString.number n, c ≠ quotationMark := by
    rw [QString.number]
    split
    · refine ⟨List.cons_ne_nil _ _, fun c hc => ?_⟩
      rcases List.mem_cons.1 hc with rfl | hc
      · decide
      · exact hdigit c hc
    · exact ⟨QString.decimal_ne_nil _, hdigit⟩
  exact ⟨hquote.1, fun c hc => ⟨hquote.2 c hc, QString.number_no_space n c hc⟩⟩

/-- The characters of the words between spaces. -/
theorem exists_mem_splitOn_iff {text : QString} {c : UInt16} :
    (∃ word ∈ text.splitOn space, c ∈ word) ↔ c ∈ text ∧ c ≠ space := by
  induction text with
  | nil => simp
  | cons c' text ih =>
      rw [List.splitOn_cons_eq_if_modifyHead]
      split
      next hspace =>
        rw [beq_iff_eq] at hspace
        simp only [List.exists_mem_cons_iff, ih, hspace]
        grind
      next hspace =>
        rw [beq_iff_eq] at hspace
        cases hrest : text.splitOn space with
        | nil => exact absurd hrest (List.splitOn_ne_nil _ _)
        | cons first rest =>
            rw [hrest, List.exists_mem_cons_iff] at ih
            rw [List.modifyHead_cons, List.exists_mem_cons_iff,
              List.mem_cons, List.mem_cons, or_assoc, ih]
            grind

/-- The arguments of the configuration are never empty words. -/
theorem plainWords_arguments_iff {text : QString} :
    (∀ word ∈ (text.splitOn space).filter (· ≠ []), PlainWord word) ↔
      ∀ c ∈ text,
        c = space ∨ c ≠ quotationMark ∧ QString.isSpace c = false := by
  constructor
  · intro hwords c hc
    by_cases hspace : c = space
    · exact Or.inl hspace
    · obtain ⟨word, hword, hmem⟩ := exists_mem_splitOn_iff.2 ⟨hc, hspace⟩
      have hkept : word ∈ (text.splitOn space).filter (· ≠ []) := by
        simpa [hword] using List.ne_nil_of_mem hmem
      exact Or.inr ((hwords word hkept).2 c hmem)
  · intro htext word hword
    obtain ⟨hword, hne⟩ := List.mem_filter.1 hword
    refine ⟨of_decide_eq_true hne, fun c hc => ?_⟩
    obtain ⟨hmem, hspace⟩ := exists_mem_splitOn_iff.1 ⟨word, hword, hc⟩
    exact (htext c hmem).resolve_left hspace

theorem plainWord_terminal_iff {vtnr : QString} :
    PlainWord (("vt" : QString) ++ vtnr) ↔
      ∀ c ∈ vtnr, c ≠ quotationMark ∧ QString.isSpace c = false := by
  have hvt : UserSession.IsWord "vt" := by decide
  have hne : ("vt" : QString) ++ vtnr ≠ [] := by
    rw [Ne, List.append_eq_nil_iff]
    exact fun h => hvt.1 h.1
  constructor
  · exact fun h c hc => h.2 c (List.mem_append_right _ hc)
  · intro h
    refine ⟨hne, fun c hc => ?_⟩
    rcases List.mem_append.1 hc with hc | hc
    · exact hvt.chars c hc
    · exact h c hc

theorem plainWords_iff (authPath : QString) (fd : Int32) :
    (∀ word ∈ helper.serverWords authPath fd, PlainWord word) ↔
      helper.Unquoted authPath := by
  have hoptions : ∀ word ∈ [("-background" : QString), ("none" : QString),
      ("-seat" : QString), ("-noreset" : QString), ("-keeptty" : QString),
      ("-novtswitch" : QString), ("-verbose" : QString), ("3" : QString),
      ("-auth" : QString), ("-displayfd" : QString)], PlainWord word := by
    intro word hword
    rw [plainWord_iff]
    revert word
    decide
  simp only [List.forall_mem_cons] at hoptions
  obtain ⟨h1, h2, h3, h4, h5, h6, h7, h8, h9, h10, -⟩ := hoptions
  simp only [serverWords, xorgArgs, serverArgs, List.forall_mem_append,
    List.cons_append, List.forall_mem_cons, plainWords_arguments_iff,
    plainWord_terminal_iff, h1, h2, h3, h4, h5, h6, h7, h8, h9, h10,
    plainWord_number, true_and]
  simp only [plainWord_iff]
  constructor
  · rintro ⟨hpath, ⟨harguments, hseat, -⟩, hauthority, hterminal, -⟩
    exact ⟨hpath, harguments, hseat, hterminal, hauthority⟩
  · rintro ⟨hpath, harguments, hseat, hterminal, hauthority⟩
    exact ⟨hpath, ⟨harguments, hseat, by simp⟩, hauthority, hterminal, by simp⟩

/-- The command of the server comes apart into the words it was put together
from exactly when none of them needed quotes. -/
theorem splitCommand_serverCmd_iff (authPath : QString) (fd : Int32) :
    QProcess.splitCommand (helper.serverCmd authPath fd) =
        helper.serverWords authPath fd ↔
      helper.Unquoted authPath := by
  have hjoin : helper.serverCmd authPath fd =
      join space (helper.serverWords authPath fd) :=
    (join_append (List.cons_ne_nil _ _) (List.cons_ne_nil _ _)).symm
  rw [QProcess.splitCommand, hjoin, split_join_iff (by decide) (by decide),
    plainWords_iff]

/-- The start of a server that tells its display. -/
structure ServerStart where
  authPath : QString
  readFd : Int32
  writeFd : Int32
  program : QString
  args : List QString
  line : QByteArray

/-- The calls that lead to it. -/
def ServerStart.calls (s : ServerStart) : XorgTrace :=
  [⟨.setupAuth (helper.systemEnvironment.value "XDG_RUNTIME_DIR"),
      some s.authPath⟩,
    ⟨.pipe, some (s.readFd, s.writeFd)⟩, ⟨.setCloexec s.readFd, ⟨⟩⟩,
    ⟨.startProcess s.program s.args helper.serverEnv, true⟩,
    ⟨.close s.writeFd, ⟨⟩⟩, ⟨.readLine s.readFd, some s.line⟩]

/-- The call starts the client. -/
def startsClient : XorgCall → Bool
  | .startClient _ _ _ => true
  | _ => false

/-- A part of the helper that does not start the client. -/
abbrev NoClient {A : Type} (p : XorgProgram A) : Prop :=
  p.Only fun op => startsClient op = false

theorem noClient_startProcess (cmd : QString) (env : QProcessEnvironment) :
    NoClient (startProcess cmd env) := by
  rw [startProcess]
  split
  · trivial
  · exact only_perform rfl

theorem noClient_runScript (name : QString) (env : QProcessEnvironment)
    (msecs : Int32) :
    NoClient (helper.runScript name env msecs) := by
  refine only_bind (noClient_startProcess _ _) fun running => ?_
  cases running with
  | false => trivial
  | true =>
      refine only_bind (only_perform rfl) fun finished => ?_
      cases finished with
      | false => exact only_perform rfl
      | true => trivial

theorem noClient_stop (server : XorgServer) (authPath : QString) :
    NoClient (helper.stop server authPath) := by
  rw [stop]
  split
  · refine only_bind (only_perform rfl) fun _ => ?_
    refine only_bind (only_perform rfl) fun finished => ?_
    cases finished with
    | false =>
        exact only_bind (only_perform rfl) fun _ =>
          only_bind (only_perform rfl) fun _ => helper.noClient_runScript _ _ _
    | true => exact helper.noClient_runScript _ _ _
  · trivial

theorem noClient_addCookie (display authPath : QString) :
    NoClient (addCookie display authPath) := by
  unfold addCookie
  split
  · exact only_perform rfl
  · trivial

/-- The client of a run, which is its only one, and what has led to it. -/
structure StartsClient (s : ServerStart) (t : XorgTrace) (program : QString)
    (args : List QString) (env : QProcessEnvironment) : Prop where
  server : QProcess.splitCommand (helper.serverCmd s.authPath s.writeFd) =
    s.program :: s.args
  line : 2 ≤ s.line.length
  client : X11UserHelper.displayChanged helper.arguments = some (program, args)
  environment : env =
    helper.sessionEnvironment (helper.displayOf s.line) s.authPath
  calls : ∃ rest,
    t = s.calls helper ++ ⟨.startClient program args env, ⟨⟩⟩ :: rest ∧
      ∀ ev ∈ rest, startsClient ev.op = false

variable {helper} {t : XorgTrace} {program : QString} {args : List QString}
  {env : QProcessEnvironment}

/-- The client is started only behind a line of the server. -/
theorem client_of_awaitDisplay {authPath : QString} {readFd : Int32}
    {o : Except PUnit XorgServer}
    (hrun : Run (helper.awaitDisplay authPath readFd) t o)
    (hmem : ⟨.startClient program args env, ⟨⟩⟩ ∈ t) :
    ∃ line rest,
      t = ⟨.readLine readFd, some line⟩ ::
        ⟨.startClient program args env, ⟨⟩⟩ :: rest ∧
      (∀ ev ∈ rest, startsClient ev.op = false) ∧ 2 ≤ line.length ∧
      X11UserHelper.displayChanged helper.arguments = some (program, args) ∧
      env = helper.sessionEnvironment (helper.displayOf line) authPath := by
  obtain ⟨(displayNumber : Option QByteArray), t', rfl, h⟩ :=
    run_call_bind_iff.1 hrun
  have htail : ⟨.startClient program args env, ⟨⟩⟩ ∈ t' := by
    refine (List.mem_cons.1 hmem).resolve_left fun heq => ?_
    cases heq
  cases hline : displayNumber.filter (2 ≤ ·.length) with
  | none =>
      rw [hline] at h
      obtain ⟨_, t₁, rfl, h₁⟩ := run_call_bind_iff.1 h
      obtain ⟨rfl, -⟩ := run_returns_iff.1 h₁
      cases List.mem_singleton.1 htail
  | some line =>
      rw [hline] at h
      obtain ⟨rfl, hlength⟩ := Option.filter_eq_some_iff.1 hline
      obtain ⟨o', t₁, rest, h₁, rfl, hrest⟩ :=
        run_bind_of_only (show ∀ _, NoClient _ from fun _ => by
          refine only_bind (noClient_addCookie _ _) fun added => ?_
          cases added with
          | false => trivial
          | true => exact only_bind (only_perform rfl) fun _ => trivial) h
      have hfirst : ⟨.startClient program args env, ⟨⟩⟩ ∈ t₁ := by
        refine (List.mem_append.1 htail).resolve_right fun hmem => ?_
        cases hrest _ hmem
      rw [displayChanged] at h₁
      cases hclient : X11UserHelper.displayChanged helper.arguments with
      | none =>
          rw [hclient] at h₁
          obtain ⟨rfl, -⟩ := run_exits_iff.1 h₁
          cases hfirst
      | some client =>
          rw [hclient] at h₁
          obtain ⟨_, rfl, -⟩ := run_perform_iff.1 h₁
          cases List.mem_singleton.1 hfirst
          exact ⟨line, rest, rfl, hrest, of_decide_eq_true hlength, rfl, rfl⟩

theorem StartsClient.append {s : ServerStart} {t₂ : XorgTrace}
    (h : helper.StartsClient s t program args env)
    (hquiet : ∀ ev ∈ t₂, startsClient ev.op = false) :
    helper.StartsClient s (t ++ t₂) program args env := by
  obtain ⟨rest, rfl, hrest⟩ := h.calls
  refine ⟨h.server, h.line, h.client, h.environment, rest ++ t₂, by simp,
    fun ev hev => ?_⟩
  rcases List.mem_append.1 hev with hev | hev
  · exact hrest ev hev
  · exact hquiet ev hev

/-- A process is started with the words its command comes apart into. -/
theorem run_startProcess_bind {cmd : QString} {f : Bool → XorgProgram A}
    {o : Except PUnit A} (hrun : Run ((startProcess cmd env).bind f) t o) :
    t = [] ∨ ∃ program args running t',
      QProcess.splitCommand cmd = program :: args ∧
      t = ⟨.startProcess program args env, running⟩ :: t' ∧
      Run (f running) t' o := by
  rw [startProcess] at hrun
  split at hrun
  · exact Or.inl (run_exits_iff.1 hrun).1
  next program args hsplit =>
    obtain ⟨running, t', rfl, h⟩ := run_call_bind_iff.1 hrun
    exact Or.inr ⟨program, args, running, t', hsplit, rfl, h⟩

theorem client_of_startServer {authPath : QString}
    {o : Except PUnit XorgServer}
    (hrun : Run (helper.startServer authPath) t o)
    (hmem : ⟨.startClient program args env, ⟨⟩⟩ ∈ t) :
    ∃ s, helper.StartsClient s
      (⟨.setupAuth (helper.systemEnvironment.value "XDG_RUNTIME_DIR"),
        some authPath⟩ :: t) program args env := by
  obtain ⟨(pipeFds : Option (Int32 × Int32)), t₁, rfl, h₁⟩ :=
    run_call_bind_iff.1 hrun
  cases pipeFds with
  | none =>
      obtain ⟨rfl, -⟩ := run_returns_iff.1 h₁
      cases List.mem_singleton.1 hmem
  | some fds =>
      obtain ⟨_, t₂, rfl, h₂⟩ := run_call_bind_iff.1 h₁
      rcases run_startProcess_bind h₂ with
        rfl | ⟨server, serverArgs, running, t₃, hserver, rfl, h₃⟩
      · simp at hmem
      cases running with
      | false =>
          obtain ⟨_, t₄, rfl, h₄⟩ := run_call_bind_iff.1 h₃
          obtain ⟨rfl, -⟩ := run_returns_iff.1 h₄
          simp at hmem
      | true =>
          obtain ⟨_, t₄, rfl, h₄⟩ := run_call_bind_iff.1 h₃
          have hlast : ⟨.startClient program args env, ⟨⟩⟩ ∈ t₄ := by
            simpa using hmem
          obtain ⟨line, rest, rfl, hrest, hlength, hclient, henv⟩ :=
            client_of_awaitDisplay h₄ hlast
          exact ⟨⟨authPath, fds.1, fds.2, server, serverArgs, line⟩, hserver,
            hlength, hclient, henv, rest, rfl, hrest⟩

theorem noClient_after_startServer (authPath : QString) (server : XorgServer) :
    NoClient (do
      if server.started then helper.startDisplayCommand server.display authPath
      else pure ⟨⟩
      let code : Int32 ← xorgCall .exec
      helper.stop server authPath
      return code) := by
  have hend : NoClient (do
      let code : Int32 ← xorgCall .exec
      helper.stop server authPath
      return code) :=
    only_bind (only_perform rfl) fun _ =>
      only_bind (helper.noClient_stop server authPath) fun _ => trivial
  split
  · exact only_bind (helper.noClient_runScript _ _ _) fun _ => hend
  · exact hend

theorem client_of_main {o : Except PUnit Int32} (hrun : Run helper.main t o)
    (hmem : ⟨.startClient program args env, ⟨⟩⟩ ∈ t) :
    ∃ s, helper.StartsClient s t program args env := by
  rw [main] at hrun
  split at hrun
  · obtain ⟨(authFile : Option QString), t₁, rfl, h₁⟩ :=
      run_call_bind_iff.1 hrun
    cases authFile with
    | none =>
        obtain ⟨rfl, -⟩ := run_exits_iff.1 h₁
        cases List.mem_singleton.1 hmem
    | some authPath =>
        obtain ⟨o', t₂, t₃, h₂, rfl, hquiet⟩ :=
          run_bind_of_only (noClient_after_startServer authPath) h₁
        have hfirst : ⟨.startClient program args env, ⟨⟩⟩ ∈ t₂ := by
          rcases List.mem_cons.1 hmem with heq | hmem
          · cases heq
          · refine (List.mem_append.1 hmem).resolve_right fun hlate => ?_
            cases hquiet _ hlate
        obtain ⟨s, hs⟩ := client_of_startServer h₂ hfirst
        exact ⟨s, hs.append hquiet⟩
  · obtain ⟨rfl, -⟩ := run_returns_iff.1 hrun
    cases hmem

end XOrgUserHelper

/-- A client is only ever started behind a server that was started with the
words of its command and that has told its display. -/
theorem client_on_own_server {helper : XOrgUserHelper} {t : XorgTrace}
    {o : Except PUnit Int32} (hrun : Run helper.main t o) {program : QString}
    {args : List QString} {env : QProcessEnvironment}
    (hmem : ⟨.startClient program args env, ⟨⟩⟩ ∈ t) :
    ∃ s, helper.StartsClient s t program args env ∧
      (s.program :: s.args = helper.serverWords s.authPath s.writeFd ↔
        helper.Unquoted s.authPath) := by
  obtain ⟨s, hs⟩ := XOrgUserHelper.client_of_main hrun hmem
  refine ⟨s, hs, ?_⟩
  rw [← hs.server]
  exact helper.splitCommand_serverCmd_iff s.authPath s.writeFd

namespace XOrgUserHelper

/-- The helper of a session whose bytes are plain ASCII. -/
def firstSeatHelper : XOrgUserHelper where
  config := {}
  systemEnvironment := (QProcessEnvironment.insert ∅ "XDG_SEAT" "seat0").insert
    "XDG_VTNR" "2"
  arguments := ["kwin"]
  fromLocal8Bit := fun bytes => bytes.map fun b => UInt16.ofNat b.toNat

def answers : (op : XorgCall) → op.Answer
  | .setupAuth _ => some "/run/user/1000/xauth_Ab12Cd"
  | .pipe => some (5, 6)
  | .readLine _ => some [49, 10]
  | .startProcess _ _ _ | .writeCookie _ _ | .waitForFinished _ => true
  | .exec => (0 : Int32)
  | .setCloexec _ | .close _ | .startClient _ _ _ | .terminate | .kill => ⟨⟩

end XOrgUserHelper

set_option maxRecDepth 8000 in
open XOrgUserHelper in
theorem client_on_own_server_firstSeat :
    ∃ s, firstSeatHelper.StartsClient s
        (firstSeatHelper.main.exec answers).2 "kwin" []
        (firstSeatHelper.sessionEnvironment ":1"
          "/run/user/1000/xauth_Ab12Cd") ∧
      (s.program :: s.args =
          firstSeatHelper.serverWords s.authPath s.writeFd ↔
        firstSeatHelper.Unquoted s.authPath) :=
  client_on_own_server (run_exec answers firstSeatHelper.main)
    (List.mem_of_getElem? (i := 6) rfl)

end PlasmaLogin

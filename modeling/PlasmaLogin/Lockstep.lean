/-
The helper and the display at the two ends of their channel.  The display
replies to calls only and to each at most once, so the two stay in lockstep;
what can go wrong is a request the display has no answer for.
-/
import PlasmaLogin.HelperProcess
import PlasmaLogin.RequestReplies

namespace PlasmaLogin

open Mealy CallChannel

/-- The operation code a frame of the helper starts with. -/
def HelperFrame.msg : HelperFrame → Msg
  | .error _ _ => .error
  | .info _ _ => .info
  | .request _ => .request
  | .authenticated _ => .authenticated
  | .sessionStatus _ => .sessionStatus
  | .displayServerStarted _ => .displayServerStarted
  | .unexpected msg => msg

/-- The operation code a frame of the daemon starts with. -/
def DaemonFrame.msg : DaemonFrame → Msg
  | .request _ => .request
  | .authenticated _ => .authenticated
  | .sessionStatus => .sessionStatus
  | .displayServerStarted => .displayServerStarted

/-- The frames after which the helper waits. -/
def HelperFrame.expectsReply : HelperFrame → Bool
  | .request _ | .sessionStatus _ | .displayServerStarted _ => true
  | .authenticated user => !user.isEmpty
  | .error _ _ | .info _ _ | .unexpected _ => false

/-- A reply has the operation code of its call, and a reply to a request
repeats the request's questions in order. -/
structure DaemonFrame.Answers (reply : DaemonFrame) (frame : HelperFrame) :
    Prop where
  msg_eq : reply.msg = frame.msg
  repeats : ∀ r, frame = .request r →
    ∃ response, reply = .request response ∧
      PamData.repliesTo response r = true

def helperProtocol : Protocol HelperFrame DaemonFrame where
  expects := HelperFrame.expectsReply
  answers := DaemonFrame.Answers

/-- What can happen to a display besides a frame of its helper. -/
abbrev OtherEvent :=
  { e : DisplayEvent // ∀ frame, e ≠ .helperFrame frame }

/-- The display as the helper's server. -/
def displayServer : Server Display HelperFrame DaemonFrame OtherEvent where
  serve d frame :=
    ((d.dataPending frame).1, Display.helperReplies (d.dataPending frame).2)
  disturb d e := ((d.answer e).1, Display.helperReplies (d.answer e).2)

/-- A helper that has said hello to a display. -/
def helperLine {M : Type} (pam : PamModules M) (app : HelperApp)
    (d : Display) : Line HelperFrame DaemonFrame HelperExitStatus Display :=
  { phase := .acts (HelperProcess.doAuth pam app), server := d }

/-- The display speaks only when it is called. -/
theorem displayServer_obeys : displayServer.Obeys helperProtocol where
  silent d frame hframe := by
    change frame.expectsReply = false at hframe
    change Display.helperReplies (d.dataPending frame).2 = []
    rw [Display.helperReplies_dataPending]
    cases frame with
    | authenticated user =>
        simpa [HelperFrame.expectsReply] using hframe
    | _ => simp_all [HelperFrame.expectsReply]
  once d frame hframe := by
    change frame.expectsReply = true at hframe
    change Display.helperReplies (d.dataPending frame).2 = [] ∨
      ∃ reply, Display.helperReplies (d.dataPending frame).2 = [reply] ∧
        DaemonFrame.Answers reply frame
    rw [Display.helperReplies_dataPending]
    cases frame with
    | error message type => simp [HelperFrame.expectsReply] at hframe
    | info message type => simp [HelperFrame.expectsReply] at hframe
    | unexpected msg => simp [HelperFrame.expectsReply] at hframe
    | request r =>
        dsimp only
        cases hfill : Display.fillPrompts d.auth.user d.passPhrase
            r.prompts with
        | none => exact Or.inl rfl
        | some ps =>
            have hrepeats := Display.fillPrompts_sameQuestions hfill
            refine Or.inr ⟨.request ⟨ps⟩, rfl, rfl, ?_⟩
            intro r' hr'
            cases hr'
            exact ⟨⟨ps⟩, rfl, hrepeats⟩
    | authenticated user =>
        right
        have huser : user.isEmpty = false := by
          simpa [HelperFrame.expectsReply] using hframe
        simp only [huser, Bool.false_eq_true, ↓reduceIte]
        exact ⟨_, rfl, rfl, fun r hr => absurd hr (by simp)⟩
    | sessionStatus status =>
        exact Or.inr ⟨_, rfl, rfl, fun r hr => absurd hr (by simp)⟩
    | displayServerStarted name =>
        exact Or.inr ⟨_, rfl, rfl, fun r hr => absurd hr (by simp)⟩
  undisturbed d e := Display.helperReplies_answer d e.2

/-- The collecting loop of a conversation only sends notices. -/
theorem PamBackend.expectsReply_foldl_collectMessage {predict : Bool}
    (msgs : List PamMessage) {c : Collected}
    (hc : ∀ f ∈ c.frames, f.expectsReply = false) :
    ∀ f ∈ (msgs.foldl (collectMessage predict) c).frames,
      f.expectsReply = false := by
  induction msgs generalizing c with
  | nil => exact hc
  | cons msg rest ih =>
      apply ih
      rw [collectMessage]
      split
      · exact hc
      · exact hc
      · intro f hf
        rcases List.mem_append.1 hf with hf | hf
        · exact hc f hf
        · rw [List.mem_singleton.1 hf]
          rfl
      · intro f hf
        rcases List.mem_append.1 hf with hf | hf
        · exact hc f hf
        · rw [List.mem_singleton.1 hf]
          rfl
      · exact hc

theorem PamBackend.expectsReply_collect (d : PamData)
    (msgs : List PamMessage) :
    ∀ f ∈ (collect d msgs).frames, f.expectsReply = false :=
  expectsReply_foldl_collectMessage msgs
    (fun _ hf => absurd hf List.not_mem_nil)

namespace HelperProcess

theorem obeys_sendsAll {frames : List HelperFrame} {next : HelperProcess}
    (hframes : ∀ f ∈ frames, f.expectsReply = false)
    (hnext : next.Obeys helperProtocol) :
    (sendsAll frames next).Obeys helperProtocol := by
  induction frames with
  | nil => exact hnext
  | cons f frames ih =>
      rw [List.forall_mem_cons] at hframes
      exact ⟨hframes.1, ih hframes.2⟩

theorem obeys_request (r : Request) {next : Request → HelperProcess}
    (hnext : ∀ response, (next response).Obeys helperProtocol) :
    (request r next).Obeys helperProtocol := by
  refine ⟨rfl, fun reply => ?_⟩
  cases reply with
  | request response => exact hnext response
  | _ => exact hnext {}

theorem obeys_authenticated (user : QString)
    {next : QProcessEnvironment → HelperProcess}
    (hnext : ∀ env, (next env).Obeys helperProtocol) :
    (authenticated user next).Obeys helperProtocol := by
  rw [authenticated]
  split
  next hempty =>
    refine ⟨?_, hnext ∅⟩
    change (!user.isEmpty) = false
    rw [hempty, Bool.not_true]
  next huser =>
    refine ⟨?_, fun reply => ?_⟩
    · change (!user.isEmpty) = true
      rw [Bool.not_eq_true] at huser
      rw [huser, Bool.not_false]
    · cases reply with
      | authenticated env => exact hnext env
      | _ => exact hnext ∅

theorem obeys_sessionOpened (success : Bool) {next : HelperProcess}
    (hnext : next.Obeys helperProtocol) :
    (sessionOpened success next).Obeys helperProtocol :=
  ⟨rfl, fun _ => hnext⟩

theorem obeys_converse (msgs : List PamMessage)
    {next : ConvResult → PamData → HelperProcess}
    (hnext : ∀ result d, (next result d).Obeys helperProtocol)
    (d : PamData) : (converse msgs next d).Obeys helperProtocol := by
  rw [converse]
  split
  next hnone =>
    apply obeys_sendsAll _ (hnext _ _)
    rw [PamBackend.converse_frames]
    dsimp only
    rw [hnone]
    split
    · rw [Option.map_none, Option.toList_none, List.append_nil]
      exact PamBackend.expectsReply_collect d msgs
    · exact fun f hf => absurd hf List.not_mem_nil
  · apply obeys_sendsAll (PamBackend.expectsReply_collect d msgs)
    exact obeys_request _ fun _ => hnext _ _

theorem obeys_run {A : Type} {next : A → PamData → HelperProcess}
    (hnext : ∀ value d, (next value d).Obeys helperProtocol)
    (call : PamProcess A) (d : PamData) :
    (call.run next d).Obeys helperProtocol := by
  induction call generalizing d with
  | returns value => exact hnext value d
  | converses msgs rest ih =>
      exact obeys_converse msgs (fun result d => ih result d) d

variable {M : Type}

theorem obeys_perform (call : PamProcess (PamOutcome × M)) (error : AuthError)
    {next failed : M → PamData → HelperProcess}
    (hnext : ∀ m d, (next m d).Obeys helperProtocol)
    (hfailed : ∀ m d, (failed m d).Obeys helperProtocol) (d : PamData) :
    (perform call error next failed d).Obeys helperProtocol := by
  apply obeys_run
  intro r d
  split
  · exact hnext r.2 d
  · exact ⟨rfl, hfailed r.2 d⟩

theorem obeys_closeSession (pam : PamModules M) (status : HelperExitStatus)
    (m : M) (d : PamData) :
    (closeSession pam status m d).Obeys helperProtocol := by
  apply obeys_run
  intro r d
  apply obeys_run
  exact fun _ _ => trivial

theorem obeys_openSession (pam : PamModules M) (env : QProcessEnvironment)
    (m : M) (d : PamData) :
    (openSession pam env m d).Obeys helperProtocol := by
  have hfailed : (sessionOpened false (.ends .sessionError)).Obeys
      helperProtocol := obeys_sessionOpened false trivial
  rw [openSession]
  apply obeys_perform
  · intro m d
    split
    · apply obeys_perform
      · intro m d
        split
        · apply obeys_sessionOpened
          exact obeys_closeSession pam (pam.sessionStatus m) m d
        · apply obeys_sessionOpened
          exact obeys_closeSession pam .sessionError m d
      · exact fun _ _ => hfailed
    · exact ⟨rfl, hfailed⟩
  · exact fun _ _ => hfailed

/-- The helper waits after its calls and after nothing else. -/
theorem obeys_doAuth (pam : PamModules M) (app : HelperApp) :
    (doAuth pam app).Obeys helperProtocol := by
  have hrefused : (authenticated [] fun _ => .ends .authError).Obeys
      helperProtocol := obeys_authenticated [] fun _ => trivial
  rw [doAuth]
  split
  · exact ⟨rfl, hrefused⟩
  · apply obeys_perform
    · intro m d
      apply obeys_perform
      · intro m d
        apply obeys_authenticated
        intro env
        split
        · trivial
        · exact obeys_openSession pam env m d
      · exact fun _ _ => hrefused
    · exact fun _ _ => hrefused

end HelperProcess

/-- A reply to the request of a conversation is one `completeRequest`
accepts. -/
theorem DaemonFrame.Answers.completeRequest {d : PamData}
    {msgs : List PamMessage} {r : Request} {reply : DaemonFrame}
    (h : reply.Answers (.request r))
    (hr : PamBackend.sentRequest d msgs = some r) :
    ∃ response, reply = .request response ∧
      (PamBackend.collect d msgs).data.completeRequest response =
        { sent := true, currentRequest := response } := by
  obtain ⟨response, rfl, hrepeats⟩ := h.repeats r rfl
  obtain ⟨_, hcurrent, _⟩ := PamBackend.sentRequest_eq_some hr
  refine ⟨response, rfl, ?_⟩
  rw [PamData.completeRequest, hcurrent, if_pos hrepeats]

/-- Whatever PAM does, whatever else happens to the display and in whatever
order the two parties move: at most one frame is on its way to the helper, the
display sends none but to the one call it has just read, every call gets a
frame with its own operation code, and every reply to a request is one the
store that asked accepts. -/
theorem doAuth_lockstep {M : Type} (pam : PamModules M) (app : HelperApp)
    (d : Display) (es : List (Event OtherEvent)) :
    (displayServer.machine.exec (helperLine pam app d) es).toCaller.length
        ≤ 1 ∧
      ∀ st ∈ displayServer.machine.steps (helperLine pam app d) es,
        StepInLockstep helperProtocol st ∧
        ∀ store msgs r reply,
          Output.delivers (HelperFrame.request r) reply ∈ st.outputs →
          PamBackend.sentRequest store msgs = some r →
            ∃ response, reply = .request response ∧
              (PamBackend.collect store msgs).data.completeRequest response =
                { sent := true, currentRequest := response } := by
  have hstart : (helperLine pam app d).Lockstep helperProtocol :=
    ⟨HelperProcess.obeys_doAuth pam app, rfl,
      fun _ hg => absurd hg List.not_mem_nil⟩
  obtain ⟨hend, hsteps⟩ := hstart.run displayServer_obeys es
  refine ⟨hend.length_toCaller, fun st hst => ⟨hsteps st hst, ?_⟩⟩
  intro store msgs r reply hdelivers hr
  have hanswers : DaemonFrame.Answers reply (.request r) :=
    (hsteps st hst).1 _ _ hdelivers
  exact hanswers.completeRequest hr

/-- The display finishes a request with exactly one reply, and a helper that
waits for it can go on. -/
structure Display.AnswersRequest (d : Display) (r : Request) : Prop where
  finished : (d.dataPending (.request r)).1.auth.request.finished = true
  once : ∃ reply, helperReplies (d.dataPending (.request r)).2 =
    [.request reply]
  continues : ∀ next : DaemonFrame → HelperProcess, ∃ es caller,
    (displayServer.machine.exec
      ⟨.awaits (.request r) next, [.request r], [], d⟩ es).phase =
        .acts caller

namespace Display

theorem answersRequest_of_fillPrompts {d : Display} {r : Request}
    {ps : List Prompt}
    (hfill : fillPrompts d.auth.user d.passPhrase r.prompts = some ps) :
    d.AnswersRequest r := by
  have hreplies : helperReplies (d.dataPending (.request r)).2 =
      [.request ⟨ps⟩] := by
    rw [helperReplies_request, hfill]
    rfl
  refine ⟨?_, ⟨⟨ps⟩, hreplies⟩, ?_⟩
  · simp only [dataPending, slotRequestChanged, AuthRequest.setRequest, hfill]
    rfl
  · intro next
    refine ⟨[.serves, .receives], next (.request ⟨ps⟩), ?_⟩
    simp [Server.machine, Server.answer, displayServer, hreplies]

/-- A helper whose request the slot leaves open waits for ever, whatever else
happens. -/
theorem exec_of_fillPrompts_eq_none {d : Display} {r : Request}
    (hfill : fillPrompts d.auth.user d.passPhrase r.prompts = none)
    (next : DaemonFrame → HelperProcess) (es : List (Event OtherEvent)) :
    ∃ d', displayServer.machine.exec
        ⟨.awaits (.request r) next, [.request r], [], d⟩ (.serves :: es) =
      ⟨.awaits (.request r) next, [], [], d'⟩ := by
  have hreplies : helperReplies (d.dataPending (.request r)).2 = [] := by
    rw [helperReplies_request, hfill]
    rfl
  have hserved : (displayServer.machine.step
      ⟨.awaits (.request r) next, [.request r], [], d⟩ .serves).1 =
        ⟨.awaits (.request r) next, [], [], (d.dataPending (.request r)).1⟩ := by
    simp [Server.machine, Server.answer, displayServer, hreplies]
  rw [Machine.exec_cons, hserved]
  exact exec_unanswered displayServer_obeys _ next _ es

end Display

/-- A request the helper can send is answered if and only if it has at most
two prompts. -/
theorem sentRequest_answered_iff {store : PamData} {msgs : List PamMessage}
    {r : Request} (hr : PamBackend.sentRequest store msgs = some r)
    (d : Display) : d.AnswersRequest r ↔ r.prompts.length ≤ 2 := by
  obtain ⟨_, _, hvalid⟩ := PamBackend.sentRequest_eq_some hr
  have hpos : r.prompts ≠ [] := by simpa [Request.valid] using hvalid
  have hlength := List.length_pos_iff.2 hpos
  have hsome := Display.fillPrompts_isSome d.auth.user d.passPhrase r.prompts
  cases hfill : Display.fillPrompts d.auth.user d.passPhrase r.prompts with
  | none =>
      rw [hfill, Option.isSome_none] at hsome
      have hlong : ¬ (r.prompts.length = 1 ∨ r.prompts.length = 2) :=
        fun h => absurd (hsome.2 h) (by decide)
      refine iff_of_false ?_ (by omega)
      intro hanswers
      obtain ⟨reply, hreply⟩ := hanswers.once
      rw [Display.helperReplies_request, hfill] at hreply
      exact absurd hreply (by simp)
  | some ps =>
      rw [hfill, Option.isSome_some] at hsome
      apply iff_of_true (Display.answersRequest_of_fillPrompts hfill)
      rcases hsome.1 rfl with hone | htwo
      · omega
      · omega

/-- The predicted login is answered. -/
theorem sentRequest_answered_login :
    Display.AnswersRequest (.create "seat0" 1 1 {}) loginRequest :=
  (sentRequest_answered_iff
    (show PamBackend.sentRequest {} [⟨.promptEchoOn, "login: "⟩] =
      some loginRequest by decide) (.create "seat0" 1 1 {})).2 (by decide)

/-- The predicted change of a password has three prompts. -/
theorem sentRequest_not_answered :
    ¬ ∀ (store : PamData) (msgs : List PamMessage) (r : Request) (d : Display),
      PamBackend.Reachable store →
        PamBackend.sentRequest store msgs = some r → d.AnswersRequest r := by
  intro hall
  have hanswers := hall {}
    [⟨.promptEchoOff, "(current) UNIX password: "⟩] changePassRequest
    (.create "seat0" 1 1 {}) PamBackend.reachable_empty (by decide)
  obtain ⟨reply, hreply⟩ := hanswers.once
  rw [Display.helperReplies_request] at hreply
  exact absurd hreply (by simp [Display.fillPrompts, changePassRequest])

end PlasmaLogin

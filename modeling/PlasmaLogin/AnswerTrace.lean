/-
The prompt store with the origin of every answer: the conversation whose reply
had it, and its place in the reply.  Without the origins it is `PamData`, in
conversations of a single message with a daemon that echoes what it is asked.
-/
import PlasmaLogin.FailClosed

namespace PlasmaLogin

open FirstMatch Mealy

/-- An answer of an accepted reply. -/
structure AnswerId where
  conversation : Nat
  place : Nat
deriving DecidableEq, Repr

/-- A stored prompt; without an origin it carries no answer. -/
structure TracedPrompt where
  prompt : Prompt
  origin : Option AnswerId := none
deriving DecidableEq, Repr

/-- A message stands in for the text of a prompt. -/
def TracedPrompt.rename (msg : PamMessage) (t : TracedPrompt) : TracedPrompt :=
  { t with prompt := { t.prompt with message := msg.text } }

/-- `PamData` with the origins, and the number of conversations so far. -/
structure TracedData where
  sent : Bool := false
  stored : List TracedPrompt := []
  conversations : Nat := 0
deriving DecidableEq, Repr

/-- A conversation of one message in which every request is echoed. -/
structure EchoedMessage where
  msg : PamMessage
  reply : Request → Request
  echoes : ∀ request, PamData.repliesTo (reply request) request = true

def EchoedMessage.conversation (c : EchoedMessage) : Conversation where
  msgs := [c.msg]
  reply request := some (c.reply request)

theorem EchoedMessage.reply_valid (c : EchoedMessage) {request : Request}
    (h : request.valid = true) : (c.reply request).valid = true := by
  have hechoes := c.echoes request
  simp only [PamData.repliesTo, Bool.and_eq_true, decide_eq_true_eq] at hechoes
  rw [Request.valid, Bool.not_eq_true', List.isEmpty_eq_false_iff] at h ⊢
  rw [← List.length_pos_iff] at h ⊢
  omega

/-- What becomes of the answers. -/
inductive AnswerEvent where
  | answered (id : AnswerId) (prompt : Prompt)
  | discarded (id : AnswerId)
  | handed (id : AnswerId) (response : QByteArray)
deriving DecidableEq, Repr

namespace TracedData

/-- The store without the origins. -/
def forget (s : TracedData) : PamData :=
  ⟨s.sent, ⟨s.stored.map TracedPrompt.prompt⟩⟩

/-- The answers that are stored. -/
def origins (s : TracedData) : List AnswerId :=
  s.stored.filterMap TracedPrompt.origin

def matchesStored (msg : PamMessage) : TracedPrompt → Bool :=
  PamData.matchesPrompt msg ∘ TracedPrompt.prompt

/-- Prompts nobody has answered. -/
def unanswered (request : Request) : List TracedPrompt :=
  request.prompts.map fun p => { prompt := p }

/-- Drop the answers that the arriving prompt has no use for. -/
def discardAnswers (s : TracedData) : TracedData × List AnswerId :=
  if s.stored.length ≠ 0 ∧ s.sent then
    ({ s with sent := false, stored := [] }, s.origins)
  else (s, [])

/-- `PamData::insertPrompt` with prediction: the store, whether it is to be
sent, and the answers that are got rid of. -/
def insertPrompt (msg : PamMessage) (s : TracedData) :
    TracedData × Bool × List AnswerId :=
  if (s.forget.findPrompt msg).valid then
    if s.sent then (s, false, [])
    else
      ({ s with
          stored := modifyFirst (matchesStored msg) (TracedPrompt.rename msg)
            s.stored }, true, [])
  else
    let r := s.discardAnswers
    match PamData.predicted (PamData.detectPrompt msg) with
    | some request => ({ r.1 with stored := unanswered request }, true, r.2)
    | none =>
        ({ r.1 with
            stored := r.1.stored ++ [{ prompt := PamData.promptOf msg }] },
          true, r.2)

/-- The collecting loop on the one message. -/
def collect (msg : PamMessage) (s : TracedData) :
    TracedData × Bool × List AnswerId :=
  match msg.style with
  | .promptEchoOff | .promptEchoOn => s.insertPrompt msg
  | .textInfo =>
      if PromptPatterns.announcesPasswordChange msg.text then
        ({ s with stored := unanswered changePassRequest }, false, [])
      else (s, false, [])
  | .errorMsg | .other _ => (s, false, [])

/-- The reply to what is to be sent after the message, if it is sent. -/
def accepted (c : EchoedMessage) (s : TracedData) : Option Request :=
  let r := s.collect c.msg
  if r.2.1 && r.1.forget.getRequest.valid then
    some (c.reply r.1.forget.getRequest)
  else none

/-- `PamData::completeRequest` on a reply that is accepted. -/
def completeRequest (reply : Request) (s : TracedData) : TracedData :=
  { s with
    sent := true
    stored := reply.prompts.zipIdx.map fun p =>
      ⟨p.1, some ⟨s.conversations, p.2⟩⟩ }

/-- The answers of a reply. -/
def answers (conversation : Nat) (reply : Option Request) :
    List AnswerEvent :=
  ((reply.map Request.prompts).getD []).zipIdx.map fun p =>
    .answered ⟨conversation, p.2⟩ p.1

/-- The store when the daemon has been asked, if it is asked. -/
def ask (c : EchoedMessage) (s : TracedData) : TracedData :=
  match s.accepted c with
  | none => (s.collect c.msg).1
  | some reply => (s.collect c.msg).1.completeRequest reply

/-- `PamData::getResponse`. -/
def getResponse (msg : PamMessage) (s : TracedData) : TracedData :=
  let stored := s.stored.eraseP (matchesStored msg)
  { s with
    sent := if stored.length = 0 then false else s.sent
    stored := stored }

/-- The answer `getResponse` hands out. -/
def handed (msg : PamMessage) (s : TracedData) : List AnswerEvent :=
  match s.stored.find? (matchesStored msg) with
  | some ⟨p, some id⟩ => [.handed id p.response]
  | some ⟨_, none⟩ | none => []

/-- `PamBackend::converse`. -/
def converse (c : EchoedMessage) (s : TracedData) :
    TracedData × List AnswerEvent :=
  ({ (s.ask c).getResponse c.msg with conversations := s.conversations + 1 },
    (s.collect c.msg).2.2.map .discarded ++
      answers s.conversations (s.accepted c) ++ (s.ask c).handed c.msg)

end TracedData

/-- The traced store under conversations of one message. -/
def traceMachine : Machine TracedData EchoedMessage AnswerEvent where
  enabled _ _ := True
  step s c := s.converse c

namespace TracedData

theorem forget_findPrompt (msg : PamMessage) (s : TracedData) :
    s.forget.prompts.find? (PamData.matchesPrompt msg) =
      (s.stored.find? (matchesStored msg)).map TracedPrompt.prompt :=
  List.find?_map ..

theorem forget_unanswered (request : Request) :
    (unanswered request).map TracedPrompt.prompt = request.prompts := by
  simp [unanswered, Function.comp_def]

theorem forget_discardAnswers (s : TracedData) :
    s.forget.discardAnswers = s.discardAnswers.1.forget := by
  unfold PamData.discardAnswers discardAnswers
  have hlength : s.forget.prompts.length = s.stored.length :=
    List.length_map ..
  have hsent : s.forget.sent = s.sent := rfl
  rw [hlength, hsent]
  split <;> rfl

theorem forget_insertPrompt (msg : PamMessage) (s : TracedData) :
    s.forget.insertPrompt msg true =
      ((s.insertPrompt msg).1.forget, (s.insertPrompt msg).2.1) := by
  have hrename : (modifyFirst (matchesStored msg) (TracedPrompt.rename msg)
      s.stored).map TracedPrompt.prompt =
        modifyFirst (PamData.matchesPrompt msg)
          (fun p => { p with message := msg.text }) s.forget.prompts :=
    map_modifyFirst_comp (p := PamData.matchesPrompt msg)
      (g := TracedPrompt.prompt) (fun _ => rfl) s.stored
  have hsent : s.forget.sent = s.sent := rfl
  simp only [PamData.insertPrompt, insertPrompt, ↓reduceIte,
    forget_discardAnswers, hsent]
  split
  · split
    · rfl
    · simp only [forget, hrename]
  · cases PamData.predicted (PamData.detectPrompt msg) with
    | some request =>
        simp only [forget, forget_unanswered]
    | none =>
        simp only [forget, PamData.prompts, List.map_append, List.map_cons,
          List.map_nil]

/-- What `converse` collects from the one message. -/
theorem forget_collect (msg : PamMessage) (s : TracedData) :
    (PamBackend.collect s.forget [msg]).data = (s.collect msg).1.forget ∧
      (PamBackend.collect s.forget [msg]).newRequest =
        (s.collect msg).2.1 := by
  have hinsert := s.forget_insertPrompt msg
  simp only [PamBackend.collect, List.foldl_cons, List.foldl_nil,
    List.length_singleton, decide_true, PamBackend.collectMessage, collect]
  cases msg.style with
  | promptEchoOff => exact ⟨congrArg Prod.fst hinsert, congrArg Prod.snd hinsert⟩
  | promptEchoOn => exact ⟨congrArg Prod.fst hinsert, congrArg Prod.snd hinsert⟩
  | errorMsg => exact ⟨rfl, rfl⟩
  | textInfo =>
      simp only [PamData.handleInfo, ↓reduceIte]
      split
      · exact ⟨by simp only [forget, forget_unanswered], rfl⟩
      · exact ⟨rfl, rfl⟩
  | other style => exact ⟨rfl, rfl⟩

theorem forget_completeRequest {reply : Request} {s : TracedData}
    (h : PamData.repliesTo reply s.forget.currentRequest = true) :
    s.forget.completeRequest reply = (s.completeRequest reply).forget := by
  rw [PamData.completeRequest, if_pos h]
  simp [completeRequest, forget, Function.comp_def]

/-- The reply is the one `converse` accepts. -/
theorem acceptedReply_eq (c : EchoedMessage) (s : TracedData) :
    PamBackend.acceptedReply s.forget c.conversation = s.accepted c := by
  obtain ⟨hdata, hnew⟩ := s.forget_collect c.msg
  simp only [PamBackend.acceptedReply, PamBackend.sentRequest,
    EchoedMessage.conversation, hdata, hnew, accepted]
  have hcount : PamBackend.acceptsCount [c.msg] = true := rfl
  rw [hcount, Bool.true_and]
  split
  next hask =>
    have hvalid := (Bool.and_eq_true_iff.1 hask).2
    have hechoes := c.echoes (s.collect c.msg).1.forget.getRequest
    simp [Option.filter, hechoes, c.reply_valid hvalid]
  · rfl

theorem forget_getResponse {s : TracedData} (hs : s.forget.WellFormed)
    (msg : PamMessage) :
    (s.forget.getResponse msg).2 = (s.getResponse msg).forget := by
  have hprompts := hs.getResponse_prompts msg
  have hstored : s.forget.prompts.eraseP (PamData.matchesPrompt msg) =
      (s.stored.eraseP (matchesStored msg)).map TracedPrompt.prompt :=
    List.eraseP_map ..
  rw [hstored] at hprompts
  have hsent : (s.forget.getResponse msg).2.sent =
      if (s.forget.getResponse msg).2.prompts.length = 0 then false
        else s.sent := rfl
  rw [hprompts, List.length_map] at hsent
  exact congrArg₂ PamData.mk hsent (congrArg Request.mk hprompts)

theorem collect_wellFormed {s : TracedData} (hs : s.forget.WellFormed)
    (msg : PamMessage) : (s.collect msg).1.forget.WellFormed := by
  rw [← (s.forget_collect msg).1]
  exact PamBackend.collect_wellFormed hs [msg]

/-- A reply is only accepted for what is in the store, unsent. -/
theorem accepted_eq_some {c : EchoedMessage} {s : TracedData}
    {reply : Request} (h : s.accepted c = some reply) :
    (s.collect c.msg).1.sent = false ∧ reply.valid = true ∧
      PamData.repliesTo reply (s.collect c.msg).1.forget.currentRequest =
        true := by
  simp only [accepted, Option.ite_none_right_eq_some, Option.some.injEq,
    Bool.and_eq_true] at h
  obtain ⟨⟨_, hvalid⟩, rfl⟩ := h
  obtain ⟨hsent, heq⟩ := PamData.getRequest_of_valid hvalid
  refine ⟨hsent, c.reply_valid hvalid, ?_⟩
  rw [← heq]
  exact c.echoes _

theorem ask_wellFormed {s : TracedData} (hs : s.forget.WellFormed)
    (c : EchoedMessage) : (s.ask c).forget.WellFormed := by
  have hcollect := s.collect_wellFormed hs c.msg
  rw [ask]
  split
  · exact hcollect
  next reply hreply =>
    obtain ⟨_, hvalid, hmatch⟩ := accepted_eq_some hreply
    rw [← forget_completeRequest hmatch]
    exact hcollect.completeRequest hvalid

/-- Without the origins, a conversation of one message is `converse`. -/
theorem forget_converse {s : TracedData} (hs : s.forget.WellFormed)
    (c : EchoedMessage) :
    (PamBackend.converse s.forget c.conversation).1 =
        (s.converse c).1.forget ∧
      (PamBackend.converse s.forget c.conversation).2.2 =
        .success [((s.ask c).forget.getResponse c.msg).1] := by
  obtain ⟨hdata, hnew⟩ := s.forget_collect c.msg
  have hcount : PamBackend.acceptsCount [c.msg] = true := rfl
  have hresponse : ((s.ask c).forget.getResponse c.msg).2 =
      (s.converse c).1.forget :=
    forget_getResponse (ask_wellFormed hs c) c.msg
  rw [← hresponse]
  simp only [PamBackend.converse, EchoedMessage.conversation, hdata, hnew,
    hcount, Bool.not_true, Bool.false_eq_true, ↓reduceIte, ask]
  cases haccepted : s.accepted c with
  | none =>
      simp only [accepted, ite_eq_right_iff, reduceCtorEq, imp_false] at haccepted
      rw [if_neg haccepted]
      exact ⟨rfl, rfl⟩
  | some reply =>
      obtain ⟨hunsent, hvalid, hmatch⟩ := accepted_eq_some haccepted
      simp only [accepted, Option.ite_none_right_eq_some,
        Option.some.injEq] at haccepted
      obtain ⟨hask, rfl⟩ := haccepted
      simp only [hask, ↓reduceIte, hvalid, Bool.not_true, Bool.false_eq_true,
        forget_completeRequest hmatch]
      exact ⟨rfl, rfl⟩

/-- A whole run of conversations, without the origins. -/
theorem forget_exec (cs : List EchoedMessage) :
    (traceMachine.exec {} cs).forget =
        pamMachine.exec {} (cs.map EchoedMessage.conversation) ∧
      (traceMachine.exec {} cs).forget.WellFormed := by
  induction cs using List.reverseRecOn with
  | nil => exact ⟨rfl, PamData.wellFormed_empty⟩
  | append_singleton cs c ih =>
      obtain ⟨heq, hs⟩ := ih
      have hstep := (forget_converse hs c).1
      rw [Machine.exec_concat, List.map_append, List.map_singleton,
        Machine.exec_concat, ← heq]
      refine ⟨hstep.symm, ?_⟩
      change (((traceMachine.exec {} cs).converse c).1).forget.WellFormed
      rw [← hstep]
      exact PamBackend.converse_wellFormed hs c.conversation

theorem exec_conversations (cs : List EchoedMessage) :
    (traceMachine.exec {} cs).conversations = cs.length := by
  induction cs using List.reverseRecOn with
  | nil => rfl
  | append_singleton cs c ih =>
      rw [Machine.exec_concat, List.length_append, List.length_singleton, ← ih]
      rfl

end TracedData

end PlasmaLogin

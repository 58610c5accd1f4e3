/-
Whether a PAM conversation fails when the daemon's reply is not accepted.
The reply is judged in a method that returns nothing, and the answering loop
takes a prompt that is not there for one with an empty answer.
-/
import PlasmaLogin.AnsweredPrompts
import PlasmaLogin.MalformedRequests

namespace PlasmaLogin

open FirstMatch Mealy

namespace PamData

/-- Every message that asks for an answer finds, at its turn, a prompt that is
left for it; each message takes the first prompt it matches. -/
def Served : List Prompt → List PamMessage → Prop
  | _, [] => True
  | ps, msg :: rest =>
      (msg.isPrompt = true → (ps.find? (matchesPrompt msg)).isSome = true) ∧
        Served (ps.eraseP (matchesPrompt msg)) rest

instance decidableServed : (ps : List Prompt) → (msgs : List PamMessage) →
    Decidable (Served ps msgs)
  | _, [] => isTrue trivial
  | ps, msg :: rest =>
      have := decidableServed (ps.eraseP (matchesPrompt msg)) rest
      inferInstanceAs (Decidable (_ ∧ _))

/-- The prompt a message takes is the first one it matches. -/
theorem WellFormed.getResponse_prompts {d : PamData} (hd : d.WellFormed)
    (msg : PamMessage) :
    (d.getResponse msg).2.prompts = d.prompts.eraseP (matchesPrompt msg) := by
  change d.prompts.erase (d.findPrompt msg) = _
  rcases d.findPrompt_cases msg with ⟨hmiss, heq⟩ | ⟨p, hp, hfind, heq⟩
  · rw [heq, List.eraseP_of_forall_not (List.find?_eq_none.1 hmiss),
      List.erase_of_not_mem]
    exact fun hmem => hd.type_ne_none _ hmem rfl
  · rw [heq, erase_of_find? hfind]

theorem served_singleton {ps : List Prompt} {msg : PamMessage} :
    Served ps [msg] ↔
      (msg.isPrompt = true → (ps.find? (matchesPrompt msg)).isSome = true) := by
  simp [Served]

theorem WellFormed.respond_getElem {d : PamData} (hd : d.WellFormed)
    {msgs : List PamMessage} (hserved : Served d.prompts msgs) {i : Nat}
    {msg : PamMessage} (hmsg : msgs[i]? = some msg)
    (hprompt : msg.isPrompt = true) :
    ∃ p ∈ d.prompts, (PamBackend.respond d msgs).1[i]? = some p.response := by
  induction msgs generalizing d i with
  | nil => simp at hmsg
  | cons first rest ih =>
      obtain ⟨hfirst, hrest⟩ := hserved
      rw [← hd.getResponse_prompts first] at hrest
      cases i with
      | zero =>
          obtain rfl : first = msg := by simpa using hmsg
          have hfound := hfirst hprompt
          rcases d.findPrompt_cases first with ⟨hmiss, _⟩ | ⟨p, hp, _, heq⟩
          · rw [hmiss] at hfound
            exact absurd hfound (by decide)
          · refine ⟨p, hp, ?_⟩
            rw [← heq]
            rfl
      | succ i =>
          obtain ⟨p, hp, heq⟩ :=
            ih (hd.getResponse first) hrest (by simpa using hmsg)
          exact ⟨p, (d.getResponse_cases first).1 hp, heq⟩

theorem predicted_has_type {type : PromptType} {request : Request}
    (h : predicted type = some request) :
    ∃ p ∈ request.prompts, p.type = type := by
  cases type <;> simp only [predicted, reduceCtorEq, Option.some.injEq] at h
  all_goals
    subst h
    decide

/-- A message whose insertion is not suppressed has a prompt afterwards. -/
theorem insertPrompt_matches {d : PamData} (hd : d.WellFormed)
    {msg : PamMessage} {predict : Bool}
    (h : (d.insertPrompt msg predict).2 = true) :
    ∃ p ∈ (d.insertPrompt msg predict).1.prompts,
      matchesPrompt msg p = true := by
  unfold insertPrompt at h ⊢
  split
  next hvalid =>
    rw [if_pos hvalid] at h
    split
    next hsent =>
      rw [if_pos hsent] at h
      exact absurd h Bool.false_ne_true
    · rw [hd.findPrompt_valid msg] at hvalid
      obtain ⟨q, hq⟩ := Option.isSome_iff_exists.1 hvalid
      obtain ⟨p, hp, hmem⟩ := exists_mem_modifyFirst
        (f := fun p : Prompt => { p with message := msg.text })
        ⟨q, List.mem_of_find?_eq_some hq, List.find?_some hq⟩
      refine ⟨_, hmem, ?_⟩
      cases hunknown : detectPrompt msg <;>
        simp_all [matchesPrompt]
  · simp only
    split
    next request hrequest =>
      split at hrequest
      · obtain ⟨p, hp, htype⟩ := predicted_has_type hrequest
        exact ⟨p, hp, by simp [matchesPrompt, htype]⟩
      · exact absurd hrequest (by simp)
    · exact ⟨promptOf msg, by simp [prompts],
        by simp [matchesPrompt, promptOf_type]⟩

end PamData

namespace PamBackend

open PamData

/-- What has become of the store after some messages: every prompt so far was
suppressed, or something is to be asked. -/
def Collecting (d : PamData) (msgs : List PamMessage) (c : Collected) : Prop :=
  (c.data = d ∧ c.newRequest = false ∧
      ((∃ msg ∈ msgs, msg.isPrompt = true) → d.sent = true)) ∨
    (c.data.sent = false ∧ c.newRequest = true ∧ c.data.prompts ≠ [])

/-- A message that asks for an answer, inserted as `converse` does. -/
theorem Collecting.insert {d : PamData} {msgs : List PamMessage}
    {c : Collected} (h : Collecting d msgs c) (hc : c.data.WellFormed)
    (msg : PamMessage) (predict : Bool) :
    Collecting d (msgs ++ [msg])
      { c with
        data := (c.data.insertPrompt msg predict).1
        newRequest := (c.data.insertPrompt msg predict).2 } := by
  rcases insertPrompt_cases hc msg predict with ⟨hsent, _, heq⟩ | ⟨ps, heq, _⟩
  · rcases h with ⟨rfl, _, _⟩ | ⟨hunsent, _, _⟩
    · exact Or.inl ⟨by rw [heq], by rw [heq], fun _ => hsent⟩
    · rw [hunsent] at hsent
      exact absurd hsent (by decide)
  · obtain ⟨p, hp, _⟩ := insertPrompt_matches hc (congrArg Prod.snd heq)
    exact Or.inr ⟨by rw [heq], by rw [heq], List.ne_nil_of_mem hp⟩

theorem Collecting.step {d : PamData} {msgs : List PamMessage}
    {c : Collected} (h : Collecting d msgs c) (hc : c.data.WellFormed)
    {msg : PamMessage} {predict : Bool}
    (hinfo : msg.style = .textInfo → predict = false) :
    Collecting d (msgs ++ [msg]) (collectMessage predict c msg) := by
  have hother : msg.isPrompt = false → Collecting d (msgs ++ [msg]) c := by
    intro hprompt
    rcases h with ⟨hdata, hnew, hsent⟩ | hask
    · refine Or.inl ⟨hdata, hnew, fun ⟨m, hm, hisPrompt⟩ => ?_⟩
      rcases List.mem_append.1 hm with hm | hm
      · exact hsent ⟨m, hm, hisPrompt⟩
      · rw [List.mem_singleton.1 hm, hprompt] at hisPrompt
        exact absurd hisPrompt (by decide)
    · exact Or.inr hask
  unfold collectMessage
  cases hstyle : msg.style with
  | promptEchoOff => exact h.insert hc msg predict
  | promptEchoOn => exact h.insert hc msg predict
  | errorMsg => exact hother (by simp [PamMessage.isPrompt, hstyle])
  | textInfo =>
      have hsame : (c.data.handleInfo msg predict).1 = c.data := by
        rcases handleInfo_cases msg predict c.data with heq | ⟨hpredict, _⟩
        · exact heq
        · rw [hinfo hstyle] at hpredict
          exact absurd hpredict (by decide)
      simp only [hsame]
      exact hother (by simp [PamMessage.isPrompt, hstyle])
  | other style => exact hother (by simp [PamMessage.isPrompt, hstyle])

theorem foldl_collecting {d : PamData} {predict : Bool}
    {msgs : List PamMessage}
    (hinfo : ∀ msg ∈ msgs, msg.style = .textInfo → predict = false)
    {pre : List PamMessage} {c : Collected} (h : Collecting d pre c)
    (hc : c.data.WellFormed) :
    Collecting d (pre ++ msgs) (msgs.foldl (collectMessage predict) c) := by
  induction msgs generalizing pre c with
  | nil => rwa [List.append_nil]
  | cons msg rest ih =>
      have hstep := ih (fun other hother =>
          hinfo other (List.mem_cons_of_mem msg hother))
        (h.step hc (hinfo msg List.mem_cons_self))
        (collectMessage_wellFormed hc predict msg)
      rwa [List.append_assoc, List.singleton_append] at hstep

/-- What the collecting loop leaves when PAM asks for anything. -/
theorem collecting_collect {d : PamData} (hd : d.WellFormed)
    {msgs : List PamMessage} (hprompt : ∃ msg ∈ msgs, msg.isPrompt = true) :
    Collecting d msgs (collect d msgs) := by
  have hstart : Collecting d [] { data := d } :=
    Or.inl ⟨rfl, rfl, fun ⟨_, hm, _⟩ => absurd hm List.not_mem_nil⟩
  apply foldl_collecting _ hstart hd
  intro msg hmsg hstyle
  rw [decide_eq_false_iff_not]
  intro hlone
  obtain ⟨only, rfl⟩ := List.length_eq_one_iff.1 hlone
  obtain ⟨other, hother, hisPrompt⟩ := hprompt
  rw [List.mem_singleton.1 hother, ← List.mem_singleton.1 hmsg] at hisPrompt
  simp [PamMessage.isPrompt, hstyle] at hisPrompt

/-- The prompts a conversation hands answers out from: those of an accepted
reply when the daemon is asked, those that are left over otherwise. -/
def answerSource (d : PamData) (conv : Conversation) : Option (List Prompt) :=
  match sentRequest d conv.msgs with
  | none => if acceptsCount conv.msgs then some d.prompts else none
  | some _ => (acceptedReply d conv).map Request.prompts

/-- A reply that is valid repeats the questions it was asked. -/
def ReplyRepeats (d : PamData) (conv : Conversation) : Prop :=
  ∀ sent received, sentRequest d conv.msgs = some sent →
    conv.reply sent = some received → received.valid = true →
      repliesTo received sent = true

/-- A conversation that cannot lose an answer. -/
structure Answerable (d : PamData) (conv : Conversation) : Prop where
  repeats : ReplyRepeats d conv
  served : ∀ ps, answerSource d conv = some ps → Served ps conv.msgs
  fresh : AnnouncedFresh d conv

/-- The prompts of all replies accepted in a history. -/
def acceptedAnswers (history : History) : List Prompt :=
  history.flatMap fun st =>
    ((acceptedReply st.before st.event).map Request.prompts).getD []

/-- A conversation that fails closed, after a history: what it hands out for a
prompt was in an accepted reply, and without a reply it needs it ends with an
error. -/
structure FailsClosed (history : History) (d : PamData)
    (conv : Conversation) : Prop where
  contained : ∀ responses, (converse d conv).2.2 = .success responses →
    ∀ (i : Nat) (msg : PamMessage), conv.msgs[i]? = some msg →
      msg.isPrompt = true →
        ∃ p ∈ acceptedAnswers (history ++ [pamMachine.fire d conv]),
          responses[i]? = some p.response
  closed : ∀ sent received, sentRequest d conv.msgs = some sent →
    conv.reply sent = some received → acceptedReply d conv = none →
      (converse d conv).2.2 = .convErr

theorem acceptedAnswers_concat (history : History)
    (st : Step PamData Conversation HelperFrame) :
    acceptedAnswers (history ++ [st]) = acceptedAnswers history ++
      ((acceptedReply st.before st.event).map Request.prompts).getD [] := by
  rw [acceptedAnswers, List.flatMap_append, List.flatMap_singleton]
  rfl

theorem acceptedReply_eq_some {d : PamData} {conv : Conversation}
    {sent received : Request} (hsent : sentRequest d conv.msgs = some sent)
    (hreply : conv.reply sent = some received)
    (hvalid : received.valid = true) (hmatch : repliesTo received sent = true) :
    acceptedReply d conv = some received := by
  simp [acceptedReply, hsent, hreply, hvalid, hmatch, Option.filter]

theorem lastAnswers_subset (history : History) :
    lastAnswers history ⊆ acceptedAnswers history := by
  induction history using List.reverseRecOn with
  | nil => exact List.Subset.refl _
  | append_singleton history st ih =>
      rw [lastAnswers_concat, acceptedAnswers_concat]
      cases acceptedReply st.before st.event with
      | none => exact List.Subset.trans ih (List.subset_append_left _ _)
      | some reply => exact List.subset_append_right _ _

/-- A conversation that succeeds has answered from the collected store, or
from the reply it got. -/
theorem converse_success {d : PamData} {conv : Conversation}
    {responses : List QByteArray}
    (h : (converse d conv).2.2 = .success responses) :
    (sentRequest d conv.msgs = none ∧ acceptsCount conv.msgs = true ∧
        responses = (respond (collect d conv.msgs).data conv.msgs).1) ∨
      ∃ sent received, sentRequest d conv.msgs = some sent ∧
        conv.reply sent = some received ∧ received.valid = true ∧
          responses = (respond ((collect d conv.msgs).data.completeRequest
            received) conv.msgs).1 := by
  unfold converse at h
  by_cases hcount : acceptsCount conv.msgs = true
  · by_cases hask : ((collect d conv.msgs).newRequest &&
        (collect d conv.msgs).data.getRequest.valid) = true
    · right
      simp only [hcount, hask, Bool.not_true, Bool.false_eq_true,
        ↓reduceIte] at h
      cases hreply : conv.reply (collect d conv.msgs).data.getRequest with
      | none => simp [hreply] at h
      | some received =>
          cases hvalid : received.valid with
          | false => simp [hreply, hvalid] at h
          | true =>
              simp only [hreply, hvalid, Bool.not_true, Bool.false_eq_true,
                ↓reduceIte, ConvResult.success.injEq] at h
              refine ⟨_, received, ?_, hreply, hvalid, h.symm⟩
              rw [sentRequest, hcount, Bool.true_and, if_pos hask]
    · left
      simp only [hcount, hask, Bool.not_true, Bool.false_eq_true,
        ↓reduceIte, ConvResult.success.injEq] at h
      refine ⟨?_, hcount, h.symm⟩
      rw [sentRequest, hcount, Bool.true_and, if_neg hask]
  · simp [hcount] at h

/-- When PAM asks for something and the daemon is not asked, the store already
held everything. -/
theorem collect_of_sentRequest_eq_none {d : PamData} (hd : d.WellFormed)
    {msgs : List PamMessage} (hprompt : ∃ msg ∈ msgs, msg.isPrompt = true)
    (hcount : acceptsCount msgs = true) (h : sentRequest d msgs = none) :
    (collect d msgs).data = d ∧ d.sent = true := by
  rcases collecting_collect hd hprompt with ⟨hdata, _, hsent⟩ |
    ⟨hunsent, hnew, hne⟩
  · exact ⟨hdata, hsent hprompt⟩
  · have hvalid : (collect d msgs).data.getRequest.valid = true := by
      rw [getRequest, hunsent, if_neg Bool.false_ne_true, Request.valid,
        Bool.not_eq_true', List.isEmpty_eq_false_iff]
      exact hne
    simp [sentRequest, hcount, hnew, hvalid] at h

/-- Where valid replies repeat the questions, one that is not accepted ends
the call with an error. -/
theorem ReplyRepeats.closed {d : PamData} {conv : Conversation}
    (h : ReplyRepeats d conv) {sent received : Request}
    (hsent : sentRequest d conv.msgs = some sent)
    (hreply : conv.reply sent = some received)
    (hnone : acceptedReply d conv = none) :
    (converse d conv).2.2 = .convErr := by
  cases hvalid : received.valid with
  | true =>
      have hmatch := h sent received hsent hreply hvalid
      rw [acceptedReply_eq_some hsent hreply hvalid hmatch] at hnone
      exact absurd hnone (Option.some_ne_none received)
  | false => exact converse_of_invalid hsent hreply hvalid

section answerable

variable {d : PamData} {conv : Conversation} (h : Answerable d conv)
  (hd : d.WellFormed) {i : Nat} {msg : PamMessage}
  (hmsg : conv.msgs[i]? = some msg) (hprompt : msg.isPrompt = true)

include h hd hmsg hprompt

/-- When the daemon is not asked, the answers are those that are left over. -/
theorem Answerable.leftOver (hnone : sentRequest d conv.msgs = none)
    (hcount : acceptsCount conv.msgs = true) :
    d.sent = true ∧ ∃ p ∈ d.prompts,
      (respond (collect d conv.msgs).data conv.msgs).1[i]? =
        some p.response := by
  obtain ⟨hdata, hflag⟩ := collect_of_sentRequest_eq_none hd
    ⟨msg, List.mem_of_getElem? hmsg, hprompt⟩ hcount hnone
  have hsource : answerSource d conv = some d.prompts := by
    rw [answerSource, hnone]
    exact if_pos hcount
  rw [hdata]
  exact ⟨hflag, hd.respond_getElem (h.served _ hsource) hmsg hprompt⟩

/-- When it is asked, they are those of its reply. -/
theorem Answerable.replied {sent received : Request}
    (hsent : sentRequest d conv.msgs = some sent)
    (hreply : conv.reply sent = some received)
    (hvalid : received.valid = true) :
    acceptedReply d conv = some received ∧ ∃ p ∈ received.prompts,
      (respond ((collect d conv.msgs).data.completeRequest received)
        conv.msgs).1[i]? = some p.response := by
  have hmatch := h.repeats sent received hsent hreply hvalid
  obtain ⟨_, hcurrent, _⟩ := sentRequest_eq_some hsent
  have hcomplete : (collect d conv.msgs).data.completeRequest received =
      { sent := true, currentRequest := received } := by
    rw [completeRequest, hcurrent, if_pos hmatch]
  have hwellFormed : PamData.WellFormed
      { sent := true, currentRequest := received } :=
    hcomplete ▸ (collect_wellFormed hd conv.msgs).completeRequest hvalid
  have haccepted : acceptedReply d conv = some received :=
    acceptedReply_eq_some hsent hreply hvalid hmatch
  have hsource : answerSource d conv = some received.prompts := by
    rw [answerSource, hsent]
    simp only [haccepted, Option.map_some]
  rw [hcomplete]
  exact ⟨haccepted,
    hwellFormed.respond_getElem (h.served _ hsource) hmsg hprompt⟩

end answerable

/-- An answerable conversation fails closed. -/
theorem Answerable.failsClosed {history : History} {d : PamData}
    (hd : d.WellFormed) (hanswered : d.AnsweredFrom (lastAnswers history))
    {conv : Conversation} (h : Answerable d conv) :
    FailsClosed history d conv := by
  constructor
  · intro responses hsuccess i msg hmsg hprompt
    rw [acceptedAnswers_concat]
    rcases converse_success hsuccess with ⟨hnone, hcount, rfl⟩ |
      ⟨sent, received, hsent, hreply, hvalid, rfl⟩
    · obtain ⟨hflag, p, hp, heq⟩ :=
        h.leftOver hd hmsg hprompt hnone hcount
      exact ⟨p, List.mem_append_left _ (lastAnswers_subset history
        ((hanswered hflag).2 p hp)), heq⟩
    · obtain ⟨haccepted, p, hp, heq⟩ :=
        h.replied hd hmsg hprompt hsent hreply hvalid
      refine ⟨p, List.mem_append_right _ ?_, heq⟩
      change p ∈ ((acceptedReply d conv).map Request.prompts).getD []
      rw [haccepted]
      exact hp
  · exact fun sent received hsent hreply hnone =>
      h.repeats.closed hsent hreply hnone

/-- A reply that does not repeat the questions is ignored, and the answering
loop runs all the same. -/
theorem converse_of_not_repeats {d : PamData} {conv : Conversation}
    {sent received : Request} (hsent : sentRequest d conv.msgs = some sent)
    (hreply : conv.reply sent = some received)
    (hvalid : received.valid = true)
    (hmatch : repliesTo received sent = false) :
    (converse d conv).2.2 =
      .success (respond (collect d conv.msgs).data conv.msgs).1 := by
  obtain ⟨_, hcurrent, _⟩ := sentRequest_eq_some hsent
  simp only [sentRequest, Option.ite_none_right_eq_some, Option.some.injEq,
    Bool.and_eq_true] at hsent
  obtain ⟨⟨⟨hcount, hnew⟩, hasked⟩, rfl⟩ := hsent
  have hignored : (collect d conv.msgs).data.completeRequest received =
      (collect d conv.msgs).data := by
    rw [completeRequest, hcurrent, hmatch, if_neg Bool.false_ne_true]
  unfold converse
  simp [hcount, hnew, hasked, hreply, hvalid, hignored]

/-- Without a reply it needs, a conversation fails exactly when every valid
reply it could get repeats the questions. -/
theorem closed_iff_replyRepeats (d : PamData) (conv : Conversation) :
    (∀ sent received, sentRequest d conv.msgs = some sent →
      conv.reply sent = some received → acceptedReply d conv = none →
        (converse d conv).2.2 = .convErr) ↔ ReplyRepeats d conv := by
  constructor
  · intro hclosed sent received hsent hreply hvalid
    by_contra hmatch
    rw [Bool.not_eq_true] at hmatch
    have hnone : acceptedReply d conv = none := by
      simp [acceptedReply, hsent, hreply, hmatch, Option.filter]
    have herror := hclosed sent received hsent hreply hnone
    rw [converse_of_not_repeats hsent hreply hvalid hmatch] at herror
    exact absurd herror (by simp)
  · exact fun hrepeats sent received hsent hreply hnone =>
      hrepeats.closed hsent hreply hnone

/-- A reply that repeats the questions has a prompt for whatever the request
has one for. -/
theorem find?_of_repliesTo {reply request : Request}
    (h : repliesTo reply request = true) {msg : PamMessage}
    (hfound : ∃ p ∈ request.prompts, matchesPrompt msg p = true) :
    (reply.prompts.find? (matchesPrompt msg)).isSome = true := by
  have hpairs := repliesTo_map_eq h (g := fun p => (p.type, p.message))
    fun p q hpq => by
      obtain ⟨htype, hmessage, _⟩ := sameQuestion_iff.1 hpq
      rw [htype, hmessage]
  obtain ⟨p, hp, hmatches⟩ := hfound
  have hmem : (p.type, p.message) ∈
      reply.prompts.map fun p => (p.type, p.message) := by
    rw [hpairs]
    exact List.mem_map.2 ⟨p, hp, rfl⟩
  obtain ⟨q, hq, heq⟩ := List.mem_map.1 hmem
  obtain ⟨htype, hmessage⟩ := Prod.mk.inj heq
  exact List.find?_isSome.2 ⟨q, hq,
    by rwa [matchesPrompt, htype, hmessage, ← matchesPrompt]⟩

section single

variable {d : PamData} {msg : PamMessage} (hprompt : msg.isPrompt = true)

include hprompt

theorem collect_singleton : collect d [msg] =
    { data := (d.insertPrompt msg true).1
      newRequest := (d.insertPrompt msg true).2 } := by
  simp only [PamMessage.isPrompt, Bool.or_eq_true, decide_eq_true_eq]
    at hprompt
  rcases hprompt with hstyle | hstyle
  · simp [collect, collectMessage, hstyle]
  · simp [collect, collectMessage, hstyle]

/-- A lone question that is not asked finds its prompt in the store. -/
theorem find?_of_not_asked (hd : d.WellFormed)
    (hcount : acceptsCount [msg] = true) (hsent : sentRequest d [msg] = none) :
    (d.prompts.find? (matchesPrompt msg)).isSome = true := by
  obtain ⟨hdata, hflag⟩ := collect_of_sentRequest_eq_none hd
    ⟨msg, List.mem_singleton_self msg, hprompt⟩ hcount hsent
  rw [collect_singleton hprompt] at hdata
  rcases insertPrompt_cases hd msg true with ⟨_, hmem, _⟩ | ⟨_, heq, _⟩
  · rcases d.findPrompt_cases msg with ⟨_, hmiss⟩ | ⟨p, _, hfind, _⟩
    · exact absurd rfl (hd.type_ne_none _ (hmiss ▸ hmem))
    · rw [hfind]
      rfl
  · simp only [heq] at hdata
    rw [← hdata] at hflag
    exact absurd hflag Bool.false_ne_true

/-- One that is asked finds it in a reply that repeats it. -/
theorem find?_of_asked (hd : d.WellFormed) {sent received : Request}
    (hsent : sentRequest d [msg] = some sent)
    (hmatch : repliesTo received sent = true) :
    (received.prompts.find? (matchesPrompt msg)).isSome = true := by
  obtain ⟨_, hcurrent, _⟩ := sentRequest_eq_some hsent
  have hnew : (d.insertPrompt msg true).2 = true := by
    simp only [sentRequest, collect_singleton hprompt,
      Option.ite_none_right_eq_some, Bool.and_eq_true] at hsent
    exact hsent.1.1.2
  apply find?_of_repliesTo hmatch
  rw [← hcurrent, collect_singleton hprompt]
  exact insertPrompt_matches hd hnew

/-- PAM asks one question at a time: then only the reply decides. -/
theorem answerable_of_single (hd : d.WellFormed)
    {reply : Request → Option Request} (h : ReplyRepeats d ⟨[msg], reply⟩) :
    Answerable d ⟨[msg], reply⟩ := by
  refine ⟨h, fun ps hps => served_singleton.2 fun _ => ?_,
    fun other hmsgs hinfo => ?_⟩
  · unfold answerSource at hps
    cases hsent : sentRequest d [msg] with
    | none =>
        simp only [hsent, Option.ite_none_right_eq_some,
          Option.some.injEq] at hps
        obtain ⟨hcount, rfl⟩ := hps
        exact find?_of_not_asked hprompt hd hcount hsent
    | some sent =>
        simp only [hsent] at hps
        obtain ⟨received, haccepted, rfl⟩ := Option.map_eq_some_iff.1 hps
        simp only [acceptedReply, hsent, Option.bind_some,
          Option.filter_eq_some_iff, Bool.and_eq_true] at haccepted
        exact find?_of_asked hprompt hd hsent haccepted.2.2
  · obtain rfl := List.singleton_inj.1 hmsgs
    simp [PamMessage.isPrompt, hinfo] at hprompt

end single

end PamBackend

open PamBackend in
/-- In a run of conversations that are answerable every one fails closed. -/
theorem steps_failClosed (convs : List Conversation)
    (h : pamMachine.Guarded Answerable {} convs) :
    ∀ pre conv post, convs = pre ++ conv :: post →
      FailsClosed (pamMachine.steps {} pre) (pamMachine.exec {} pre) conv := by
  rintro pre conv post rfl
  rw [Machine.guarded_append, Machine.guarded_cons] at h
  obtain ⟨hpre, hconv, _⟩ := h
  have hfresh : pamMachine.Guarded AnnouncedFresh {} pre :=
    fun st hst => (hpre st hst).fresh
  obtain ⟨hd, hanswered⟩ := pamMachine.history_invariant
    (J := fun history d => d.WellFormed ∧
      d.AnsweredFrom (lastAnswers history))
    (fun _ _ conv h hfresh => ⟨converse_wellFormed h.1 conv,
      step_answeredFrom h.2 h.1 hfresh⟩)
    ⟨PamData.wellFormed_empty, fun hsent => absurd hsent (by decide)⟩ hfresh
  exact hconv.failsClosed hd hanswered

open PamBackend in
/-- PAM asks for the user name, and the reply answers it. -/
theorem steps_failClosed_alice :
    pamMachine.Guarded Answerable {} [aliceNamed] ∧
      FailsClosed (pamMachine.steps {} []) (pamMachine.exec {} [])
        aliceNamed := by
  have hanswerable : pamMachine.Guarded Answerable {} [aliceNamed] := by
    intro st hst
    obtain rfl := List.mem_singleton.1 hst
    apply answerable_of_single (by decide) PamData.wellFormed_empty
    intro sent received hsent hreply _
    obtain rfl : loginRequest = sent := Option.some.inj hsent
    obtain rfl := Option.some.inj hreply
    decide
  exact ⟨hanswerable,
    steps_failClosed [aliceNamed] hanswerable [] aliceNamed [] rfl⟩

/-- PAM asks for a password and the daemon answers another question. -/
def wrongQuestion : Conversation :=
  ⟨[⟨.promptEchoOff, "Password: "⟩], fun _ =>
    some ⟨[{ type := .loginUser, message := "login:",
             response := QString.qPrintable "alice" }]⟩⟩

open PamBackend in
/-- The reply is ignored and PAM is told that the password is empty. -/
theorem steps_not_failClosed :
    (converse {} wrongQuestion).2.2 = .success [[]] ∧
    ¬ ∀ (convs pre : List Conversation) (conv : Conversation)
      (post : List Conversation), convs = pre ++ conv :: post →
        FailsClosed (pamMachine.steps {} pre) (pamMachine.exec {} pre)
          conv := by
  have hresult : (converse {} wrongQuestion).2.2 = .success [[]] := by decide
  refine ⟨hresult, fun hall => ?_⟩
  have hclosed := (hall [wrongQuestion] [] wrongQuestion [] rfl).closed
    ⟨[.ask .loginPassword "Password: " true]⟩ _ (by decide) rfl (by decide)
  rw [Machine.exec_nil, hresult] at hclosed
  exact absurd hclosed (by simp)

end PlasmaLogin

/-
What the flag of the prompt store promises: while it is set, everything
stored is part of the last reply the helper accepted; while it is not set,
nothing stored carries an answer.
-/
import PlasmaLogin.Converse

namespace PlasmaLogin

open Mealy

namespace PamData

/-- While the store counts as answered it holds prompts, and only prompts of
the given list. -/
def AnsweredFrom (answers : List Prompt) (d : PamData) : Prop :=
  d.sent = true → d.prompts ≠ [] ∧ ∀ p ∈ d.prompts, p ∈ answers

/-- While the store does not count as answered it holds no answer. -/
def Unanswered (d : PamData) : Prop :=
  d.sent = false → ∀ p ∈ d.prompts, p.response = []

theorem predicted_unanswered {type : PromptType} {request : Request}
    (h : predicted type = some request) :
    ∀ p ∈ request.prompts, p.response = [] := by
  cases type <;> simp only [predicted, reduceCtorEq, Option.some.injEq] at h
  all_goals
    subst h
    decide

/-- Discarding answers leaves a store that waits for some. -/
theorem WellFormed.discardAnswers_sent {d : PamData} (hd : d.WellFormed) :
    d.discardAnswers.sent = false := by
  rw [PamData.discardAnswers]
  split
  · rfl
  next hkeep =>
    by_contra hsent
    rw [Bool.not_eq_false] at hsent
    apply hkeep
    exact ⟨fun hnil => hd.sent_nonempty hsent
      (List.length_eq_zero_iff.1 hnil), hsent⟩

/-- What is not discarded is no answer yet. -/
theorem mem_discardAnswers {d : PamData} {p : Prompt}
    (hp : p ∈ d.discardAnswers.prompts) : d.sent = false ∧ p ∈ d.prompts := by
  rw [discardAnswers] at hp
  split at hp
  · exact absurd hp List.not_mem_nil
  next hkeep =>
    have hlength : d.prompts.length ≠ 0 := by
      rw [ne_eq, List.length_eq_zero_iff]
      exact List.ne_nil_of_mem hp
    have hunsent : ¬ d.sent = true := fun hsent => hkeep ⟨hlength, hsent⟩
    exact ⟨by simpa using hunsent, hp⟩

/-- An inserted prompt is either suppressed, because the store holds an answer
for it, or it leaves a store that waits for answers. -/
theorem insertPrompt_cases {d : PamData} (hd : d.WellFormed)
    (msg : PamMessage) (predict : Bool) :
    (d.sent = true ∧ d.findPrompt msg ∈ d.prompts ∧
        d.insertPrompt msg predict = (d, false)) ∨
      ∃ ps, d.insertPrompt msg predict =
          ({ sent := false, currentRequest := ⟨ps⟩ }, true) ∧
        ∀ p ∈ ps, p.response = [] ∨
          d.sent = false ∧ ∃ q ∈ d.prompts, p.response = q.response := by
  have hvalid := hd.findPrompt_valid msg
  rcases d.findPrompt_cases msg with ⟨hmiss, _⟩ | ⟨q, hq, hfind, heq⟩
  · right
    rw [hmiss, Option.isSome_none] at hvalid
    simp only [insertPrompt, hvalid, Bool.false_eq_true, ↓reduceIte,
      hd.discardAnswers_sent]
    split
    next request hrequest =>
      split at hrequest
      · exact ⟨request.prompts, rfl,
          fun p hp => Or.inl (predicted_unanswered hrequest p hp)⟩
      · exact absurd hrequest (by simp)
    · refine ⟨_, rfl, fun p hp => ?_⟩
      rcases List.mem_append.1 hp with hp | hp
      · obtain ⟨hunsent, hmem⟩ := mem_discardAnswers hp
        exact Or.inr ⟨hunsent, p, hmem, rfl⟩
      · rw [List.mem_singleton.1 hp]
        exact Or.inl rfl
  · rw [hfind, Option.isSome_some] at hvalid
    by_cases hsent : d.sent = true
    · left
      refine ⟨hsent, heq ▸ hq, ?_⟩
      simp only [insertPrompt, hvalid, hsent, ↓reduceIte]
    · right
      rw [Bool.not_eq_true] at hsent
      simp only [insertPrompt, hvalid, hsent, Bool.false_eq_true, ↓reduceIte]
      refine ⟨_, rfl, fun p hp => Or.inr ⟨trivial, ?_⟩⟩
      rcases FirstMatch.mem_modifyFirst hp with hp | ⟨q', hq', _, rfl⟩
      · exact ⟨p, hp, rfl⟩
      · exact ⟨q', hq', rfl⟩

/-- An information message leaves the store alone or predicts a change of
password; the flag it never touches. -/
theorem handleInfo_cases (msg : PamMessage) (predict : Bool) (d : PamData) :
    (d.handleInfo msg predict).1 = d ∨
      predict = true ∧
        PromptPatterns.announcesPasswordChange msg.text = true ∧
        (d.handleInfo msg predict).1 =
          { d with currentRequest := changePassRequest } := by
  rw [handleInfo]
  split
  next hannounces =>
    split
    next hpredict => exact Or.inr ⟨hpredict, hannounces, rfl⟩
    · exact Or.inl rfl
  · exact Or.inl rfl

/-- Handing out an answer only takes prompts away. -/
theorem getResponse_cases (msg : PamMessage) (d : PamData) :
    (d.getResponse msg).2.prompts ⊆ d.prompts ∧
      (d.getResponse msg).2.sent =
        if (d.getResponse msg).2.prompts = [] then false else d.sent := by
  refine ⟨fun p hp => List.mem_of_mem_erase hp, ?_⟩
  simp only [getResponse, prompts, List.length_eq_zero_iff]

theorem AnsweredFrom.getResponse {answers : List Prompt} {d : PamData}
    (h : d.AnsweredFrom answers) (msg : PamMessage) :
    (d.getResponse msg).2.AnsweredFrom answers := by
  obtain ⟨hsubset, hflag⟩ := d.getResponse_cases msg
  intro hsent
  rw [hflag] at hsent
  split at hsent
  · exact absurd hsent (by decide)
  next hne => exact ⟨hne, fun p hp => (h hsent).2 p (hsubset hp)⟩

theorem Unanswered.getResponse {d : PamData} (h : d.Unanswered)
    (msg : PamMessage) : (d.getResponse msg).2.Unanswered := by
  obtain ⟨hsubset, hflag⟩ := d.getResponse_cases msg
  intro hsent p hp
  rw [hflag, if_neg (List.ne_nil_of_mem hp)] at hsent
  exact h hsent p (hsubset hp)

theorem AnsweredFrom.insertPrompt {answers : List Prompt} {d : PamData}
    (h : d.AnsweredFrom answers) (hd : d.WellFormed) (msg : PamMessage)
    (predict : Bool) :
    (d.insertPrompt msg predict).1.AnsweredFrom answers := by
  rcases insertPrompt_cases hd msg predict with ⟨_, _, heq⟩ | ⟨ps, heq, _⟩
  · rw [heq]
    exact h
  · rw [heq]
    exact fun hsent => absurd hsent (by simp)

theorem Unanswered.insertPrompt {d : PamData} (h : d.Unanswered)
    (hd : d.WellFormed) (msg : PamMessage) (predict : Bool) :
    (d.insertPrompt msg predict).1.Unanswered := by
  rcases insertPrompt_cases hd msg predict with ⟨_, _, heq⟩ | ⟨ps, heq, hps⟩
  · rw [heq]
    exact h
  · rw [heq]
    intro _ p hp
    rcases hps p hp with hempty | ⟨hsent, q, hq, hsame⟩
    · exact hempty
    · rw [hsame]
      exact h hsent q hq

theorem Unanswered.handleInfo {d : PamData} (h : d.Unanswered)
    (msg : PamMessage) (predict : Bool) :
    (d.handleInfo msg predict).1.Unanswered := by
  rcases handleInfo_cases msg predict d with heq | ⟨_, _, heq⟩
  · rw [heq]
    exact h
  · rw [heq]
    intro _
    have hpredicted : predicted .changeCurrent = some changePassRequest := rfl
    exact predicted_unanswered hpredicted

end PamData

namespace PamBackend

open PamData

/-- The reply `completeRequest` accepts in a conversation, if it does. -/
def acceptedReply (d : PamData) (conv : Conversation) : Option Request :=
  (sentRequest d conv.msgs).bind fun sent =>
    (conv.reply sent).filter fun received =>
      received.valid && repliesTo received sent

/-- A history of the prompt store. -/
abbrev History := List (Step PamData Conversation HelperFrame)

/-- The prompts of the last reply accepted in a history. -/
def lastAnswers (history : History) : List Prompt :=
  ((history.filterMap fun st => acceptedReply st.before st.event).getLast?.map
    Request.prompts).getD []

/-- The collecting loop in front of a message. -/
def collectedBefore (d : PamData) (msgs pre : List PamMessage) : PamData :=
  (pre.foldl (collectMessage (msgs.length = 1)) { data := d }).data

/-- Every prompt of a conversation that `insertPrompt` suppresses is one the
given answers contain. -/
def SuppressesAnswered (answers : List Prompt) (d : PamData)
    (msgs : List PamMessage) : Prop :=
  ∀ pre msg post, msgs = pre ++ msg :: post → msg.isPrompt = true →
    ((collectedBefore d msgs pre).insertPrompt msg (msgs.length = 1)).2 =
        false →
      (collectedBefore d msgs pre).findPrompt msg ∈ answers

/-- A lone announcement that the password must be changed only comes when no
answered prompt is left over. -/
def AnnouncedFresh (d : PamData) (conv : Conversation) : Prop :=
  ∀ msg, conv.msgs = [msg] → msg.style = .textInfo →
    PromptPatterns.announcesPasswordChange msg.text = true → d.sent = false

/-- What a conversation does to the store: it stops before or after the
collecting loop, or it goes on to hand out answers, either of the collected
store or of a reply it has accepted. -/
theorem converse_cases (d : PamData) (conv : Conversation) :
    (acceptedReply d conv = none ∧
      ((converse d conv).1 = d ∨
        (converse d conv).1 = (collect d conv.msgs).data ∨
        (converse d conv).1 =
          (respond (collect d conv.msgs).data conv.msgs).2)) ∨
      ∃ reply, acceptedReply d conv = some reply ∧ reply.prompts ≠ [] ∧
        (converse d conv).1 =
          (respond { sent := true, currentRequest := reply } conv.msgs).2 := by
  simp only [acceptedReply, converse, sentRequest]
  by_cases hcount : acceptsCount conv.msgs = true
  · by_cases hask : ((collect d conv.msgs).newRequest &&
        (collect d conv.msgs).data.getRequest.valid) = true
    · have hunsent : (collect d conv.msgs).data.getRequest =
          (collect d conv.msgs).data.currentRequest := by
        rw [Bool.and_eq_true] at hask
        exact (getRequest_of_valid hask.2).2
      simp only [hcount, hask, Bool.true_and, Bool.not_true,
        Bool.false_eq_true, ↓reduceIte, Option.bind_some, completeRequest]
      rw [hunsent]
      cases hreply : conv.reply (collect d conv.msgs).data.currentRequest with
      | none => exact Or.inl ⟨rfl, Or.inr (Or.inl rfl)⟩
      | some received =>
          by_cases hvalid : received.valid = true
          · by_cases hmatch : repliesTo received
                (collect d conv.msgs).data.currentRequest = true
            · right
              refine ⟨received, by simp [Option.filter, hvalid, hmatch], ?_,
                by simp [hvalid, hmatch]⟩
              simpa [Request.valid] using hvalid
            · left
              simp [Option.filter, hvalid, hmatch]
          · left
            simp [Option.filter, hvalid]
    · left
      simp [hcount, hask]
  · left
    simp [hcount]

theorem lastAnswers_concat (history : History)
    (st : Step PamData Conversation HelperFrame) :
    lastAnswers (history ++ [st]) =
      ((acceptedReply st.before st.event).map Request.prompts).getD
        (lastAnswers history) := by
  simp only [lastAnswers, List.filterMap_append]
  cases h : acceptedReply st.before st.event <;> simp [h]

theorem respond_answeredFrom {answers : List Prompt} (msgs : List PamMessage)
    {d : PamData} (h : d.AnsweredFrom answers) :
    (respond d msgs).2.AnsweredFrom answers := by
  induction msgs generalizing d with
  | nil => exact h
  | cons msg rest ih => exact ih (h.getResponse msg)

theorem respond_unanswered (msgs : List PamMessage) {d : PamData}
    (h : d.Unanswered) : (respond d msgs).2.Unanswered := by
  induction msgs generalizing d with
  | nil => exact h
  | cons msg rest ih => exact ih (h.getResponse msg)

/-- Without prediction the collecting loop keeps what is answered. -/
theorem foldl_collectMessage_answeredFrom {answers : List Prompt}
    (msgs : List PamMessage) {c : Collected} (hc : c.data.WellFormed)
    (h : c.data.AnsweredFrom answers) :
    (msgs.foldl (collectMessage false) c).data.AnsweredFrom answers := by
  induction msgs generalizing c with
  | nil => exact h
  | cons msg rest ih =>
      apply ih (collectMessage_wellFormed hc false msg)
      rw [collectMessage]
      split
      · exact h.insertPrompt hc msg false
      · exact h.insertPrompt hc msg false
      · exact h
      · rcases handleInfo_cases msg false c.data with heq | ⟨hpredict, _⟩
        · simp only [heq]
          exact h
        · exact absurd hpredict (by decide)
      · exact h

theorem foldl_collectMessage_unanswered (predict : Bool)
    (msgs : List PamMessage) {c : Collected} (hc : c.data.WellFormed)
    (h : c.data.Unanswered) :
    (msgs.foldl (collectMessage predict) c).data.Unanswered := by
  induction msgs generalizing c with
  | nil => exact h
  | cons msg rest ih =>
      apply ih (collectMessage_wellFormed hc predict msg)
      rw [collectMessage]
      split
      · exact h.insertPrompt hc msg predict
      · exact h.insertPrompt hc msg predict
      · exact h
      · exact h.handleInfo msg predict
      · exact h

/-- So does a conversation of one message, unless it announces a change of
password over an answer that is left. -/
theorem collect_answeredFrom {answers : List Prompt} {d : PamData}
    (h : d.AnsweredFrom answers) (hd : d.WellFormed) {conv : Conversation}
    (hfresh : AnnouncedFresh d conv) :
    (collect d conv.msgs).data.AnsweredFrom answers := by
  rw [collect]
  by_cases hlone : conv.msgs.length = 1
  · obtain ⟨msg, hmsgs⟩ := List.length_eq_one_iff.1 hlone
    simp only [hmsgs, List.length_singleton, decide_true, List.foldl_cons,
      List.foldl_nil, collectMessage]
    split
    · exact h.insertPrompt hd msg true
    · exact h.insertPrompt hd msg true
    · exact h
    next hstyle =>
      rcases handleInfo_cases msg true d with heq | ⟨_, hannounces, heq⟩
      · simp only [heq]
        exact h
      · simp only [heq]
        intro hsent
        rw [hfresh msg hmsgs hstyle hannounces] at hsent
        exact absurd hsent (by decide)
    · exact h
  · simp only [hlone, decide_false]
    exact foldl_collectMessage_answeredFrom conv.msgs hd h

/-- One conversation on: the reply it accepted, or the one before it, covers
what is stored. -/
theorem step_answeredFrom {history : History} {d : PamData}
    (h : d.AnsweredFrom (lastAnswers history)) (hd : d.WellFormed)
    {conv : Conversation} (hfresh : AnnouncedFresh d conv) :
    (pamMachine.step d conv).1.AnsweredFrom
      (lastAnswers (history ++ [pamMachine.fire d conv])) := by
  have hlast : lastAnswers (history ++ [pamMachine.fire d conv]) =
      ((acceptedReply d conv).map Request.prompts).getD
        (lastAnswers history) :=
    lastAnswers_concat history _
  change (converse d conv).1.AnsweredFrom _
  have hcollect := collect_answeredFrom h hd hfresh
  rcases converse_cases d conv with ⟨hnone, heq | heq | heq⟩ |
    ⟨reply, hsome, hne, heq⟩
  · rw [hlast, hnone, heq]
    exact h
  · rw [hlast, hnone, heq]
    exact hcollect
  · rw [hlast, hnone, heq]
    exact respond_answeredFrom conv.msgs hcollect
  · rw [hlast, hsome, heq]
    apply respond_answeredFrom
    exact fun _ => ⟨hne, fun p hp => hp⟩

theorem converse_unanswered {d : PamData} (h : d.Unanswered)
    (hd : d.WellFormed) (conv : Conversation) :
    (converse d conv).1.Unanswered := by
  have hcollect : (collect d conv.msgs).data.Unanswered :=
    foldl_collectMessage_unanswered _ conv.msgs hd h
  rcases converse_cases d conv with ⟨_, heq | heq | heq⟩ |
    ⟨reply, _, _, heq⟩
  · rw [heq]
    exact h
  · rw [heq]
    exact hcollect
  · rw [heq]
    exact respond_unanswered conv.msgs hcollect
  · rw [heq]
    apply respond_unanswered
    exact fun hsent => absurd hsent (by simp)

/-- A suppressed prompt is one the store holds an answer for. -/
theorem suppressesAnswered_of_answeredFrom {answers : List Prompt}
    {d : PamData} (h : d.AnsweredFrom answers) (hd : d.WellFormed)
    (msgs : List PamMessage) : SuppressesAnswered answers d msgs := by
  rintro pre msg post rfl _ hsuppressed
  have hbefore : (collectedBefore d (pre ++ msg :: post) pre).WellFormed ∧
      (collectedBefore d (pre ++ msg :: post) pre).AnsweredFrom answers := by
    cases pre with
    | nil => exact ⟨hd, h⟩
    | cons first pre =>
        have hlong : ¬ (first :: pre ++ msg :: post).length = 1 := by
          simp only [List.length_append, List.length_cons]
          omega
        simp only [collectedBefore, hlong, decide_false]
        exact ⟨foldl_collectMessage_wellFormed _ hd,
          foldl_collectMessage_answeredFrom _ hd h⟩
  rcases insertPrompt_cases hbefore.1 msg _ with ⟨hsent, hmem, _⟩ |
    ⟨ps, heq, _⟩
  · exact (hbefore.2 hsent).2 _ hmem
  · rw [heq] at hsuppressed
    exact absurd hsuppressed (by simp)

end PamBackend

open PamData PamBackend in
/-- In a run whose announcements of a password change never meet an answer
that is left over, a store that counts as answered holds prompts of the last
accepted reply and no others, and no prompt is suppressed that the reply does
not answer. -/
theorem steps_sentMeansAnswered (convs : List Conversation)
    (hfresh : pamMachine.Guarded AnnouncedFresh {} convs) :
    AnsweredFrom (lastAnswers (pamMachine.steps {} convs))
        (pamMachine.exec {} convs) ∧
      ∀ msgs, SuppressesAnswered (lastAnswers (pamMachine.steps {} convs))
        (pamMachine.exec {} convs) msgs := by
  obtain ⟨hd, hanswered⟩ := pamMachine.history_invariant
    (J := fun history d => d.WellFormed ∧
      d.AnsweredFrom (lastAnswers history))
    (fun _ _ conv h hfresh => ⟨converse_wellFormed h.1 conv,
      step_answeredFrom h.2 h.1 hfresh⟩)
    ⟨wellFormed_empty, fun hsent => absurd hsent (by decide)⟩ hfresh
  exact ⟨hanswered,
    fun msgs => suppressesAnswered_of_answeredFrom hanswered hd msgs⟩

/-- PAM asks for the user name alone; both prompts of the predicted login are
answered and the password is left over. -/
def aliceNamed : Conversation :=
  ⟨[⟨.promptEchoOn, "login: "⟩], fun request =>
    some (request.answered [QString.qPrintable "alice",
      QString.qPrintable "secret"])⟩

/-- PAM announces that the password has expired. -/
def passwordExpired : Conversation :=
  ⟨[⟨.textInfo, "Changing password for alice"⟩], fun _ => none⟩

open PamData PamBackend in
/-- The answered password is left over and covers the next prompt for it. -/
theorem steps_sentMeansAnswered_alice :
    AnsweredFrom (lastAnswers (pamMachine.steps {} [aliceNamed]))
        (pamMachine.exec {} [aliceNamed]) ∧
      ∀ msgs, SuppressesAnswered
        (lastAnswers (pamMachine.steps {} [aliceNamed]))
        (pamMachine.exec {} [aliceNamed]) msgs :=
  steps_sentMeansAnswered [aliceNamed] (by
    intro st hst msg _ _ _
    rw [Machine.steps_cons, Machine.steps_nil, List.mem_singleton] at hst
    subst hst
    rfl)

open PamData PamBackend in
/-- The announcement replaces the left-over password by three questions nobody
was asked, and they count as answered. -/
theorem steps_not_sentMeansAnswered :
    ¬ ∀ convs : List Conversation,
      AnsweredFrom (lastAnswers (pamMachine.steps {} convs))
          (pamMachine.exec {} convs) ∧
        ∀ msgs, SuppressesAnswered (lastAnswers (pamMachine.steps {} convs))
          (pamMachine.exec {} convs) msgs := by
  intro hall
  obtain ⟨hanswered, _⟩ := hall [aliceNamed, passwordExpired]
  obtain ⟨_, hmem⟩ := hanswered (by decide)
  have hcurrent := hmem
    (.ask .changeCurrent "(current) UNIX password: " true) (by decide)
  exact absurd hcurrent (by decide)

open PamData PamBackend in
/-- After any sequence of conversations a store that waits for answers holds
none, and none of the requests sent has carried one. -/
theorem exec_answersStay (convs : List Conversation) :
    Unanswered (pamMachine.exec {} convs) ∧
      ∀ r, HelperFrame.request r ∈ pamMachine.outputs {} convs →
        ∀ p ∈ r.prompts, p.response = [] := by
  have hall : ∀ convs : List Conversation,
      (pamMachine.exec {} convs).WellFormed ∧
        (pamMachine.exec {} convs).Unanswered := by
    intro convs
    apply pamMachine.exec_invariant (I := fun d => d.WellFormed ∧ d.Unanswered)
      (G := fun _ _ => True)
    · intro d conv h _
      exact ⟨converse_wellFormed h.1 conv, converse_unanswered h.2 h.1 conv⟩
    · exact ⟨wellFormed_empty, fun _ p hp => absurd hp List.not_mem_nil⟩
    · exact fun _ _ => trivial
  refine ⟨(hall convs).2, ?_⟩
  intro r hr p hp
  obtain ⟨st, hst, hr⟩ := List.mem_flatMap.1 hr
  obtain ⟨pre, conv, post, _, rfl⟩ :=
    (pamMachine.mem_steps_iff {} convs st).1 hst
  obtain ⟨hd, hunanswered⟩ := hall pre
  obtain ⟨hsent, rfl, _⟩ :=
    sentRequest_eq_some (sentRequest_of_mem_frames hr)
  exact foldl_collectMessage_unanswered _ conv.msgs hd hunanswered hsent p hp

end PlasmaLogin

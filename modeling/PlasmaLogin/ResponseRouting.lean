/-
Which answer reaches which message of a PAM conversation.  Prompts are stored
under a guessed type and looked up again by type or text, so answers go where
they belong exactly when no two messages of the conversation clash.
-/
import PlasmaLogin.Converse

namespace PlasmaLogin

namespace PamBackend

open PamData FirstMatch

/-- The responses a conversation should get: the next answer for every
prompt, an empty response for every other message. -/
def routed : List PamMessage → List QByteArray → List QByteArray
  | [], _ => []
  | msg :: rest, answers =>
      if msg.isPrompt then answers.headD [] :: routed rest answers.tail
      else [] :: routed rest answers

/-- The texts the daemon is asked for by a conversation. -/
def sentTexts (d : PamData) (msgs : List PamMessage) : List QString :=
  ((sentRequest d msgs).getD {}).prompts.map Prompt.message

/-- A conversation of two or more messages asks for each of its prompts, in
order and with its text, and every conversation hands the answers of an
echoed request to the prompts they were given for. -/
def Routes (d : PamData) (msgs : List PamMessage) : Prop :=
  (2 ≤ msgs.length → sentTexts d msgs =
    (msgs.filter PamMessage.isPrompt).map PamMessage.text) ∧
  ∀ answers : List QByteArray,
    (∀ request, sentRequest d msgs = some request →
      answers.length = request.prompts.length) →
    (converse d ⟨msgs, fun request => some (request.answered answers)⟩).2.2 =
      .success (routed msgs answers)

/-- Two messages of a conversation, the left one first, that do not get in
each other's way: two prompts differ in their guessed type, and the later one
does not repeat the text of the earlier without a type of its own; and no
visible prompt follows a message that asks nothing. -/
def Compatible (first second : PamMessage) : Prop :=
  (first.isPrompt = true → second.isPrompt = true →
    detectPrompt second ≠ detectPrompt first ∧
      ¬ (detectPrompt second = .unknown ∧ second.text = first.text)) ∧
  (first.isPrompt = false → second.style ≠ .promptEchoOn)

instance (first second : PamMessage) : Decidable (Compatible first second) :=
  inferInstanceAs (Decidable (_ ∧ _))

/-- `insertPrompt` on prompts nobody has answered and without prediction. -/
def insertUnsent (ps : List Prompt) (msg : PamMessage) : List Prompt :=
  if (ps.find? (matchesPrompt msg)).isSome then
    modifyFirst (matchesPrompt msg)
      (fun p => { p with message := msg.text }) ps
  else ps ++ [promptOf msg]

/-- No prompt of the list is taken for a stored or an earlier one. -/
def NoClash (ps : List Prompt) (qs : List PamMessage) : Prop :=
  (∀ q ∈ qs, ∀ p ∈ ps, matchesPrompt q p = false) ∧
  qs.Pairwise fun q q' => matchesPrompt q' (promptOf q) = false

theorem matchesPrompt_promptOf_eq_false_iff (first second : PamMessage) :
    matchesPrompt second (promptOf first) = false ↔
      detectPrompt second ≠ detectPrompt first ∧
        ¬ (detectPrompt second = .unknown ∧ second.text = first.text) := by
  change (detectPrompt second = .unknown && second.text = first.text ||
    detectPrompt second = detectPrompt first) = false ↔ _
  simp only [Bool.or_eq_false_iff, Bool.and_eq_false_imp, decide_eq_true_eq,
    decide_eq_false_iff_not, not_and]
  exact and_comm

theorem insertPrompt_unsent {d : PamData} (hd : d.WellFormed)
    (hsent : d.sent = false) (msg : PamMessage) :
    d.insertPrompt msg false =
      ({ sent := false, currentRequest := ⟨insertUnsent d.prompts msg⟩ },
        true) := by
  have hkeep : d.discardAnswers = d := by
    simp [discardAnswers, hsent]
  rw [insertPrompt, insertUnsent, hd.findPrompt_valid msg]
  split
  · simp [hsent]
  · simp [hkeep, hsent]

/-- Without prediction the collecting loop inserts the prompts one by one. -/
theorem foldl_collectMessage_unsent (msgs : List PamMessage)
    {c : Collected} (hc : c.data.WellFormed) (hsent : c.data.sent = false) :
    (msgs.foldl (collectMessage false) c).data =
        { sent := false, currentRequest :=
            ⟨(msgs.filter PamMessage.isPrompt).foldl insertUnsent
              c.data.prompts⟩ } ∧
      (msgs.foldl (collectMessage false) c).newRequest =
        (c.newRequest || msgs.any PamMessage.isPrompt) := by
  induction msgs generalizing c with
  | nil =>
      refine ⟨?_, by simp⟩
      obtain ⟨⟨sent, request⟩, new, frames⟩ := c
      simp only at hsent
      subst hsent
      rfl
  | cons msg rest ih =>
      have hinfo : (c.data.handleInfo msg false).1 = c.data := by
        unfold handleInfo
        split <;> rfl
      have hstep : collectMessage false c msg =
          { data := if msg.isPrompt then
                { sent := false,
                  currentRequest := ⟨insertUnsent c.data.prompts msg⟩ }
              else c.data,
            newRequest := c.newRequest || msg.isPrompt,
            frames := (collectMessage false c msg).frames } := by
        cases hstyle : msg.style <;>
          simp [collectMessage, PamMessage.isPrompt, hstyle, hinfo,
            insertPrompt_unsent hc hsent]
      have hwf := collectMessage_wellFormed hc false msg
      have hnext : (collectMessage false c msg).data.sent = false := by
        rw [hstep]
        cases msg.isPrompt
        · exact hsent
        · rfl
      obtain ⟨hdata, hnew⟩ := ih hwf hnext
      rw [List.foldl_cons, hdata, hnew, hstep]
      cases hprompt : msg.isPrompt <;> simp [hprompt, prompts]

theorem insertUnsent_of_clash {ps : List Prompt} {q : PamMessage}
    (hclash : (ps.find? (matchesPrompt q)).isSome = true) :
    (insertUnsent ps q).length = ps.length := by
  rw [insertUnsent, if_pos hclash, length_modifyFirst]

theorem insertUnsent_of_no_clash {ps : List Prompt} {q : PamMessage}
    (hfresh : ∀ p ∈ ps, matchesPrompt q p = false) :
    insertUnsent ps q = ps ++ [promptOf q] := by
  have hnone : ps.find? (matchesPrompt q) = none := by
    rw [List.find?_eq_none]
    intro p hp
    simp [hfresh p hp]
  simp [insertUnsent, hnone]

/-- Without a clash the request lists the prompts as they came. -/
theorem foldl_insertUnsent_of_noClash {ps : List Prompt}
    {qs : List PamMessage} (hclash : NoClash ps qs) :
    qs.foldl insertUnsent ps = ps ++ qs.map promptOf := by
  induction qs generalizing ps with
  | nil => simp
  | cons q qs ih =>
      obtain ⟨hstored, hpairs⟩ := hclash
      rw [List.pairwise_cons] at hpairs
      rw [List.foldl_cons,
        insertUnsent_of_no_clash (hstored q List.mem_cons_self),
        ih ⟨?_, hpairs.2⟩]
      · simp
      · intro q' hq' p hp
        rcases List.mem_append.1 hp with hp | hp
        · exact hstored q' (List.mem_cons_of_mem q hq') p hp
        · rw [List.mem_singleton.1 hp]
          exact hpairs.1 q' hq'

theorem length_foldl_insertUnsent_le (ps : List Prompt)
    (qs : List PamMessage) :
    (qs.foldl insertUnsent ps).length ≤ ps.length + qs.length := by
  induction qs generalizing ps with
  | nil => simp
  | cons q qs ih =>
      have hstep : (insertUnsent ps q).length ≤ ps.length + 1 := by
        unfold insertUnsent
        split <;> simp
      have htail := ih (insertUnsent ps q)
      simp only [List.foldl_cons, List.length_cons]
      omega

/-- A clash merges two prompts, and the request ends up too short. -/
theorem noClash_of_length_foldl {ps : List Prompt} {qs : List PamMessage}
    (hlength : (qs.foldl insertUnsent ps).length = ps.length + qs.length) :
    NoClash ps qs := by
  induction qs generalizing ps with
  | nil => exact ⟨fun q hq => absurd hq List.not_mem_nil, List.Pairwise.nil⟩
  | cons q qs ih =>
      rw [List.foldl_cons, List.length_cons] at hlength
      have hfresh : ∀ p ∈ ps, matchesPrompt q p = false := by
        by_contra hclash
        have hsome : (ps.find? (matchesPrompt q)).isSome = true := by
          rw [List.find?_isSome]
          simpa using hclash
        have hmerged := length_foldl_insertUnsent_le (insertUnsent ps q) qs
        rw [insertUnsent_of_clash hsome] at hmerged
        omega
      rw [insertUnsent_of_no_clash hfresh] at hlength
      have htail : (qs.foldl insertUnsent (ps ++ [promptOf q])).length =
          (ps ++ [promptOf q]).length + qs.length := by
        simp only [List.length_append, List.length_singleton]
        omega
      obtain ⟨hstored, hpairs⟩ := ih htail
      refine ⟨?_, List.pairwise_cons.2 ⟨?_, hpairs⟩⟩
      · intro q' hq' p hp
        rcases List.mem_cons.1 hq' with rfl | hq'
        · exact hfresh p hp
        · exact hstored q' hq' p (List.mem_append_left _ hp)
      · intro q' hq'
        exact hstored q' hq' (promptOf q) (by simp)

/-- The prompts of a request with the answers given to them. -/
def answeredPrompts (qs : List PamMessage) (answers : List QByteArray) :
    List Prompt :=
  qs.zipWith (fun q a => { promptOf q with response := a }) answers

theorem answered_map_promptOf (qs : List PamMessage)
    (answers : List QByteArray) :
    (Request.answered ⟨qs.map promptOf⟩ answers).prompts =
      answeredPrompts qs answers := by
  simp [Request.answered, answeredPrompts, List.zipWith_map_left]

/-- A request echoed with an answer for every prompt is accepted. -/
theorem repliesTo_answered (request : Request) (answers : List QByteArray)
    (hlength : answers.length = request.prompts.length) :
    repliesTo (request.answered answers) request = true := by
  obtain ⟨ps⟩ := request
  simp only at hlength
  have hall : ∀ (ps : List Prompt) (answers : List QByteArray),
      (((ps.zipWith (fun p a => { p with response := a }) answers).zip ps).all
        fun p : Prompt × Prompt => p.1.sameQuestion p.2) = true := by
    intro ps
    induction ps with
    | nil => simp
    | cons p ps ih =>
        intro answers
        cases answers with
        | nil => rfl
        | cons a answers =>
            rw [List.zipWith_cons_cons, List.zip_cons_cons, List.all_cons,
              ih answers, Bool.and_true]
            simp [Prompt.sameQuestion]
  simp [repliesTo, Request.answered, hall, hlength]

/-- The answer to the prompt at the head of the store. -/
theorem getResponse_head {d : PamData} {msg : PamMessage} {p : Prompt}
    {ps : List Prompt} (hprompts : d.prompts = p :: ps)
    (hp : matchesPrompt msg p = true) :
    (d.getResponse msg).1 = p.response ∧
      (d.getResponse msg).2.prompts = ps := by
  have hfind : d.findPrompt msg = p := by
    simp [findPrompt, hprompts, hp]
  have hleft : d.prompts.erase p = ps := by
    rw [hprompts, List.erase_cons_head]
  exact ⟨by rw [getResponse, hfind], by rw [getResponse, hfind]; exact hleft⟩

/-- A message nothing is stored for gets an empty response and takes no
prompt away. -/
theorem getResponse_miss {d : PamData} {msg : PamMessage}
    (htypes : ∀ p ∈ d.prompts, p.type ≠ .none)
    (hmiss : ∀ p ∈ d.prompts, matchesPrompt msg p = false) :
    (d.getResponse msg).1 = [] ∧
      (d.getResponse msg).2.prompts = d.prompts := by
  have hnone : d.prompts.find? (matchesPrompt msg) = none := by
    rw [List.find?_eq_none]
    intro p hp
    simp [hmiss p hp]
  have hfind : d.findPrompt msg = invalidPrompt := by
    simp [findPrompt, hnone]
  have habsent : invalidPrompt ∉ d.prompts :=
    fun hmem => htypes _ hmem rfl
  refine ⟨?_, ?_⟩
  · rw [getResponse, hfind]
    rfl
  · rw [getResponse, hfind]
    exact List.erase_of_not_mem habsent

theorem detectPrompt_of_not_isPrompt {msg : PamMessage}
    (hmsg : msg.isPrompt = false) : detectPrompt msg = .loginUser := by
  rw [detectPrompt_eq_loginUser_iff]
  intro hstyle
  simp [PamMessage.isPrompt, hstyle] at hmsg

theorem type_mem_answeredPrompts {qs : List PamMessage}
    {answers : List QByteArray} {p : Prompt}
    (hp : p ∈ answeredPrompts qs answers) :
    ∃ q ∈ qs, p.type = detectPrompt q := by
  induction qs generalizing answers with
  | nil => simp [answeredPrompts] at hp
  | cons q qs ih =>
      cases answers with
      | nil => simp [answeredPrompts] at hp
      | cons a answers =>
          simp only [answeredPrompts, List.zipWith_cons_cons,
            List.mem_cons] at hp
          rcases hp with rfl | hp
          · exact ⟨q, List.mem_cons_self, rfl⟩
          · obtain ⟨q', hq', htype⟩ := ih hp
            exact ⟨q', List.mem_cons_of_mem q hq', htype⟩

theorem answeredPrompts_type_ne_none (qs : List PamMessage)
    (answers : List QByteArray) :
    ∀ p ∈ answeredPrompts qs answers, p.type ≠ .none := by
  intro p hp
  obtain ⟨q, _, htype⟩ := type_mem_answeredPrompts hp
  rw [htype]
  exact detectPrompt_ne_none q

/-- No message without a question stands before a visible prompt. -/
def InfoLast (msgs : List PamMessage) : Prop :=
  msgs.Pairwise fun m m' => m.isPrompt = false → m'.style ≠ .promptEchoOn

theorem infoLast_miss {msg : PamMessage} {rest : List PamMessage}
    (hmsg : msg.isPrompt = false)
    (hrest : ∀ m ∈ rest, m.style ≠ .promptEchoOn)
    (answers : List QByteArray) :
    ∀ p ∈ answeredPrompts (rest.filter PamMessage.isPrompt) answers,
      matchesPrompt msg p = false := by
  intro p hp
  obtain ⟨q, hq, htype⟩ := type_mem_answeredPrompts hp
  rw [List.mem_filter] at hq
  have hoff : q.style = .promptEchoOff := by
    have hprompt := hq.2
    simp only [PamMessage.isPrompt, Bool.or_eq_true,
      decide_eq_true_eq] at hprompt
    exact hprompt.resolve_right (hrest q hq.1)
  have hne : p.type ≠ .loginUser := by
    rw [htype, ne_eq, detectPrompt_eq_loginUser_iff]
    exact not_not_intro hoff
  simp [matchesPrompt, detectPrompt_of_not_isPrompt hmsg, Ne.symm hne]

/-- The answering loop on a request with one prompt per prompting message. -/
theorem respond_of_infoLast (msgs : List PamMessage)
    (answers : List QByteArray) {d : PamData}
    (hprompts : d.prompts =
      answeredPrompts (msgs.filter PamMessage.isPrompt) answers)
    (hlength : (msgs.filter PamMessage.isPrompt).length ≤ answers.length)
    (hinfo : InfoLast msgs) : (respond d msgs).1 = routed msgs answers := by
  induction msgs generalizing answers d with
  | nil => rfl
  | cons msg rest ih =>
      rw [InfoLast, List.pairwise_cons] at hinfo
      cases hmsg : msg.isPrompt with
      | true =>
          simp only [List.filter_cons, hmsg, ↓reduceIte,
            List.length_cons] at hprompts hlength
          cases answers with
          | nil => simp at hlength
          | cons a answers =>
              simp only [List.length_cons, Nat.add_le_add_iff_right]
                at hlength
              simp only [answeredPrompts, List.zipWith_cons_cons] at hprompts
              have hmatch : matchesPrompt msg
                  { promptOf msg with response := a } = true := by
                simp [matchesPrompt, promptOf_type]
              obtain ⟨hresponse, hleft⟩ := getResponse_head hprompts hmatch
              simp only [respond, routed, hmsg, ↓reduceIte,
                List.headD_cons, List.tail_cons]
              rw [hresponse, ih answers hleft hlength hinfo.2]
      | false =>
          simp only [List.filter_cons, hmsg, Bool.false_eq_true,
            ↓reduceIte] at hprompts hlength
          have hmiss := infoLast_miss hmsg (fun m hm => hinfo.1 m hm hmsg)
            answers
          have htypes := answeredPrompts_type_ne_none
            (rest.filter PamMessage.isPrompt) answers
          rw [← hprompts] at hmiss htypes
          obtain ⟨hresponse, hleft⟩ := getResponse_miss htypes hmiss
          simp only [respond, routed, hmsg, Bool.false_eq_true, ↓reduceIte,
            hresponse]
          rw [ih answers (hleft.trans hprompts) hlength hinfo.2]

/-- A non-empty answer waiting for a visible prompt goes to the first message
without a question. -/
theorem getResponse_stolen {d : PamData} {msg : PamMessage}
    (hmsg : msg.isPrompt = false) {p : Prompt} (hp : p ∈ d.prompts)
    (htype : p.type = .loginUser)
    (hanswers : ∀ q ∈ d.prompts, q.response ≠ []) :
    (d.getResponse msg).1 ≠ [] := by
  have hmatch : matchesPrompt msg p = true := by
    simp [matchesPrompt, detectPrompt_of_not_isPrompt hmsg, htype]
  rcases d.findPrompt_cases msg with ⟨hnone, _⟩ | ⟨q, hq, _, heq⟩
  · exact absurd hmatch (List.find?_eq_none.1 hnone p hp)
  · rw [getResponse, heq]
    exact hanswers q hq

theorem response_mem_answeredPrompts {qs : List PamMessage}
    {answers : List QByteArray} {p : Prompt}
    (hp : p ∈ answeredPrompts qs answers) : p.response ∈ answers := by
  induction qs generalizing answers with
  | nil => simp [answeredPrompts] at hp
  | cons q qs ih =>
      cases answers with
      | nil => simp [answeredPrompts] at hp
      | cons a answers =>
          simp only [answeredPrompts, List.zipWith_cons_cons,
            List.mem_cons] at hp
          rcases hp with rfl | hp
          · exact List.mem_cons_self
          · exact List.mem_cons_of_mem a (ih hp)

theorem exists_answeredPrompt {qs : List PamMessage}
    {answers : List QByteArray} (hlength : qs.length ≤ answers.length)
    {q : PamMessage} (hq : q ∈ qs) :
    ∃ p ∈ answeredPrompts qs answers, p.type = detectPrompt q := by
  induction qs generalizing answers with
  | nil => exact absurd hq List.not_mem_nil
  | cons head qs ih =>
      cases answers with
      | nil => simp at hlength
      | cons a answers =>
          simp only [List.length_cons, Nat.add_le_add_iff_right] at hlength
          rcases List.mem_cons.1 hq with rfl | hq
          · exact ⟨_, List.mem_cons_self, rfl⟩
          · obtain ⟨p, hp, htype⟩ := ih hlength hq
            exact ⟨p, List.mem_cons_of_mem _ hp, htype⟩

/-- A message without a question that is handed nothing has no visible prompt
behind it. -/
theorem not_visible_of_response {msg : PamMessage} {rest : List PamMessage}
    {answers : List QByteArray} {d : PamData} (hmsg : msg.isPrompt = false)
    (hprompts : d.prompts =
      answeredPrompts (rest.filter PamMessage.isPrompt) answers)
    (hlength : (rest.filter PamMessage.isPrompt).length ≤ answers.length)
    (hanswers : ∀ a ∈ answers, a ≠ [])
    (hresponse : (d.getResponse msg).1 = []) :
    ∀ m ∈ rest, m.style ≠ .promptEchoOn := by
  have hstored : ∀ p ∈ d.prompts, p.response ≠ [] := by
    intro p hp
    rw [hprompts] at hp
    exact hanswers _ (response_mem_answeredPrompts hp)
  intro m hm hstyle
  have hm' : m ∈ rest.filter PamMessage.isPrompt := by
    simp [List.mem_filter, hm, PamMessage.isPrompt, hstyle]
  obtain ⟨p, hp, htype⟩ := exists_answeredPrompt hlength hm'
  rw [← hprompts] at hp
  have huser : p.type = .loginUser := by
    rw [htype, detectPrompt_eq_loginUser_iff, hstyle]
    simp
  exact getResponse_stolen hmsg hp huser hstored hresponse

/-- When every answer is non-empty, correct routing leaves no message without
a question before a visible prompt. -/
theorem infoLast_of_respond (msgs : List PamMessage)
    (answers : List QByteArray) {d : PamData}
    (hprompts : d.prompts =
      answeredPrompts (msgs.filter PamMessage.isPrompt) answers)
    (hlength : (msgs.filter PamMessage.isPrompt).length ≤ answers.length)
    (hanswers : ∀ a ∈ answers, a ≠ [])
    (hrespond : (respond d msgs).1 = routed msgs answers) :
    InfoLast msgs := by
  induction msgs generalizing answers d with
  | nil => exact List.Pairwise.nil
  | cons msg rest ih =>
      rw [InfoLast, List.pairwise_cons]
      cases hmsg : msg.isPrompt with
      | true =>
          refine ⟨fun _ _ h => absurd h (by simp), ?_⟩
          simp only [List.filter_cons, hmsg, ↓reduceIte,
            List.length_cons] at hprompts hlength
          cases answers with
          | nil => simp at hlength
          | cons a answers =>
              simp only [List.length_cons, Nat.add_le_add_iff_right]
                at hlength
              simp only [answeredPrompts, List.zipWith_cons_cons] at hprompts
              have hmatch : matchesPrompt msg
                  { promptOf msg with response := a } = true := by
                simp [matchesPrompt, promptOf_type]
              obtain ⟨_, hleft⟩ := getResponse_head hprompts hmatch
              simp only [respond, routed, hmsg, ↓reduceIte,
                List.tail_cons, List.cons.injEq] at hrespond
              exact ih answers hleft hlength
                (fun b hb => hanswers b (List.mem_cons_of_mem a hb))
                hrespond.2
      | false =>
          simp only [List.filter_cons, hmsg, Bool.false_eq_true,
            ↓reduceIte] at hprompts hlength
          simp only [respond, routed, hmsg, Bool.false_eq_true, ↓reduceIte,
            List.cons.injEq] at hrespond
          have hrest := not_visible_of_response hmsg hprompts hlength hanswers
            hrespond.1
          have hmiss := infoLast_miss hmsg hrest answers
          have htypes := answeredPrompts_type_ne_none
            (rest.filter PamMessage.isPrompt) answers
          rw [← hprompts] at hmiss htypes
          obtain ⟨_, hleft⟩ := getResponse_miss htypes hmiss
          exact ⟨fun m hm _ => hrest m hm, ih answers (hleft.trans hprompts)
            hlength hanswers hrespond.2⟩

theorem pairwise_compatible_iff (msgs : List PamMessage) :
    msgs.Pairwise Compatible ↔
      NoClash [] (msgs.filter PamMessage.isPrompt) ∧ InfoLast msgs := by
  have hclash : NoClash [] (msgs.filter PamMessage.isPrompt) ↔
      msgs.Pairwise fun m m' => m.isPrompt = true → m'.isPrompt = true →
        detectPrompt m' ≠ detectPrompt m ∧
          ¬ (detectPrompt m' = .unknown ∧ m'.text = m.text) := by
    simp only [NoClash, List.not_mem_nil, false_imp_iff, implies_true,
      true_and, List.pairwise_filter, matchesPrompt_promptOf_eq_false_iff]
  rw [hclash, InfoLast, ← List.pairwise_and_iff]
  rfl

/-- The store and the request flag after collecting two or more messages. -/
theorem collect_empty {msgs : List PamMessage} (hmany : 2 ≤ msgs.length) :
    (collect {} msgs).data =
        { sent := false, currentRequest :=
            ⟨(msgs.filter PamMessage.isPrompt).foldl insertUnsent []⟩ } ∧
      (collect {} msgs).newRequest = msgs.any PamMessage.isPrompt := by
  have hpredict : decide (msgs.length = 1) = false := by
    simp only [decide_eq_false_iff_not]
    omega
  rw [collect, hpredict]
  simpa [prompts] using foldl_collectMessage_unsent msgs
    (c := { data := {} }) wellFormed_empty rfl

theorem any_isPrompt_iff (msgs : List PamMessage) :
    msgs.any PamMessage.isPrompt = true ↔
      msgs.filter PamMessage.isPrompt ≠ [] := by
  rw [List.any_eq_true, ne_eq, List.filter_eq_nil_iff]
  simp

theorem insertUnsent_ne_nil (ps : List Prompt) (msg : PamMessage) :
    insertUnsent ps msg ≠ [] := by
  unfold insertUnsent
  split
  next hfound =>
    intro hnil
    rw [modifyFirst_eq_nil_iff] at hnil
    simp [hnil] at hfound
  · simp

theorem foldl_insertUnsent_ne_nil {ps : List Prompt} {qs : List PamMessage}
    (hps : ps ≠ [] ∨ qs ≠ []) : qs.foldl insertUnsent ps ≠ [] := by
  induction qs generalizing ps with
  | nil => exact hps.resolve_right (fun h => h rfl)
  | cons q qs ih => exact ih (Or.inl (insertUnsent_ne_nil ps q))

/-- The prompts a conversation of two or more messages asks for. -/
theorem sentRequest_empty {msgs : List PamMessage}
    (hcount : acceptsCount msgs = true) (hmany : 2 ≤ msgs.length) :
    sentRequest {} msgs =
      if msgs.filter PamMessage.isPrompt = [] then none
      else some ⟨(msgs.filter PamMessage.isPrompt).foldl insertUnsent []⟩ := by
  obtain ⟨hdata, hnew⟩ := collect_empty hmany
  rw [sentRequest, hdata, hnew, hcount, Bool.true_and]
  by_cases hnone : msgs.filter PamMessage.isPrompt = []
  · have hany : msgs.any PamMessage.isPrompt = false := by
      rw [← Bool.not_eq_true, any_isPrompt_iff]
      simpa using hnone
    simp [hany, hnone]
  · have hany := (any_isPrompt_iff msgs).2 hnone
    have hvalid : (msgs.filter PamMessage.isPrompt).foldl insertUnsent [] ≠ [] :=
      foldl_insertUnsent_ne_nil (Or.inr hnone)
    simp [hany, hnone, getRequest, Request.valid, hvalid]

theorem answered_valid {request : Request} {answers : List QByteArray}
    (hrequest : request.valid = true)
    (hlength : answers.length = request.prompts.length) :
    (request.answered answers).valid = true := by
  obtain ⟨ps⟩ := request
  cases ps with
  | nil => exact absurd hrequest (by decide)
  | cons p ps =>
      cases answers with
      | nil => simp at hlength
      | cons a answers => rfl

/-- A conversation whose request comes back with answers goes on to hand them
out from a store that holds just the answered request. -/
theorem converse_echo {d : PamData} {msgs : List PamMessage}
    {request : Request} (hsent : sentRequest d msgs = some request)
    (hcurrent : (collect d msgs).data.currentRequest = request)
    {answers : List QByteArray}
    (hlength : answers.length = request.prompts.length) :
    (converse d ⟨msgs, fun r => some (r.answered answers)⟩).2.2 =
      .success (respond ⟨true, request.answered answers⟩ msgs).1 := by
  simp only [sentRequest, Bool.and_eq_true, Option.ite_none_right_eq_some,
    Option.some.injEq] at hsent
  obtain ⟨⟨⟨hcount, hnew⟩, hvalid⟩, hrequest⟩ := hsent
  have hgood : (request.answered answers).valid = true :=
    answered_valid (hrequest ▸ hvalid) hlength
  have hcomplete :
      (collect d msgs).data.completeRequest (request.answered answers) =
        ⟨true, request.answered answers⟩ := by
    rw [completeRequest, hcurrent, if_pos (repliesTo_answered _ _ hlength)]
  simp [converse, hcount, hnew, hrequest, hrequest ▸ hvalid, hgood,
    hcomplete]

/-- A conversation that asks nothing hands out what the store holds. -/
theorem converse_silent {d : PamData} {msgs : List PamMessage}
    (hcount : acceptsCount msgs = true) (hsent : sentRequest d msgs = none)
    (reply : Request → Option Request) :
    (converse d ⟨msgs, reply⟩).2.2 =
      .success (respond (collect d msgs).data msgs).1 := by
  have hquiet : ((collect d msgs).newRequest &&
      (collect d msgs).data.getRequest.valid) = false := by
    simpa [sentRequest, hcount] using hsent
  simp [converse, hcount, hquiet]

/-- Two or more messages whose prompts do not clash are answered from a store
with one prompt for each of them. -/
theorem converse_of_noClash {msgs : List PamMessage}
    (hcount : acceptsCount msgs = true) (hmany : 2 ≤ msgs.length)
    (hclash : NoClash [] (msgs.filter PamMessage.isPrompt))
    {answers : List QByteArray}
    (hlength : msgs.filter PamMessage.isPrompt ≠ [] →
      answers.length = (msgs.filter PamMessage.isPrompt).length) :
    ∃ d : PamData,
      d.prompts =
        answeredPrompts (msgs.filter PamMessage.isPrompt) answers ∧
      (converse {} ⟨msgs, fun r => some (r.answered answers)⟩).2.2 =
        .success (respond d msgs).1 := by
  have hsent := sentRequest_empty hcount hmany
  have hdata := (collect_empty hmany).1
  rw [foldl_insertUnsent_of_noClash hclash, List.nil_append] at hsent hdata
  by_cases hnone : msgs.filter PamMessage.isPrompt = []
  · rw [if_pos hnone] at hsent
    refine ⟨_, ?_, converse_silent hcount hsent _⟩
    simp [hdata, hnone, prompts, answeredPrompts]
  · rw [if_neg hnone] at hsent
    have hcurrent := congrArg PamData.currentRequest hdata
    refine ⟨_, ?_, converse_echo hsent hcurrent (by simpa using hlength hnone)⟩
    exact answered_map_promptOf _ _

theorem sentTexts_of_noClash {msgs : List PamMessage}
    (hcount : acceptsCount msgs = true) (hmany : 2 ≤ msgs.length)
    (hclash : NoClash [] (msgs.filter PamMessage.isPrompt)) :
    sentTexts {} msgs =
      (msgs.filter PamMessage.isPrompt).map PamMessage.text := by
  rw [sentTexts, sentRequest_empty hcount hmany,
    foldl_insertUnsent_of_noClash hclash]
  by_cases hnone : msgs.filter PamMessage.isPrompt = []
  · simp [hnone]
  · simp [hnone, Function.comp_def, promptOf_message]

theorem noClash_of_sentTexts {msgs : List PamMessage}
    (hcount : acceptsCount msgs = true) (hmany : 2 ≤ msgs.length)
    (htexts : sentTexts {} msgs =
      (msgs.filter PamMessage.isPrompt).map PamMessage.text) :
    NoClash [] (msgs.filter PamMessage.isPrompt) := by
  apply noClash_of_length_foldl
  have hlength := congrArg List.length htexts
  rw [sentTexts, sentRequest_empty hcount hmany] at hlength
  by_cases hnone : msgs.filter PamMessage.isPrompt = []
  · simp [hnone]
  · simpa [hnone] using hlength

/-- Two or more messages are routed exactly when no two of them clash. -/
theorem routes_empty_iff_of_many {msgs : List PamMessage}
    (hcount : acceptsCount msgs = true) (hmany : 2 ≤ msgs.length) :
    Routes {} msgs ↔ msgs.Pairwise Compatible := by
  rw [pairwise_compatible_iff]
  constructor
  · rintro ⟨htexts, hanswers⟩
    have hclash := noClash_of_sentTexts hcount hmany (htexts hmany)
    refine ⟨hclash, ?_⟩
    -- any non-empty answers tell the messages apart
    let answers : List QByteArray :=
      (msgs.filter PamMessage.isPrompt).map fun _ => [1]
    have hlength :
        answers.length = (msgs.filter PamMessage.isPrompt).length :=
      List.length_map _
    obtain ⟨d, hd, hconverse⟩ := converse_of_noClash hcount hmany hclash
      (fun _ => hlength)
    have hrouted := hanswers answers (by
      intro request hrequest
      rw [sentRequest_empty hcount hmany,
        foldl_insertUnsent_of_noClash hclash] at hrequest
      split at hrequest
      · exact absurd hrequest (by simp)
      · rw [Option.some.injEq] at hrequest
        rw [← hrequest, hlength]
        simp)
    rw [hconverse, ConvResult.success.injEq] at hrouted
    have hnonempty : ∀ a ∈ answers, a ≠ [] := by
      intro a ha
      simp only [answers, List.mem_map] at ha
      obtain ⟨_, _, rfl⟩ := ha
      simp
    exact infoLast_of_respond msgs answers hd hlength.ge hnonempty hrouted
  · rintro ⟨hclash, hinfo⟩
    refine ⟨fun _ => sentTexts_of_noClash hcount hmany hclash, ?_⟩
    intro answers hlength
    have hlength' : msgs.filter PamMessage.isPrompt ≠ [] →
        answers.length = (msgs.filter PamMessage.isPrompt).length := by
      intro hsome
      have hrequest := sentRequest_empty hcount hmany
      rw [if_neg hsome, foldl_insertUnsent_of_noClash hclash] at hrequest
      simpa using hlength _ hrequest
    obtain ⟨d, hd, hconverse⟩ := converse_of_noClash hcount hmany hclash
      hlength'
    rw [hconverse, respond_of_infoLast msgs answers hd ?_ hinfo]
    by_cases hnone : msgs.filter PamMessage.isPrompt = []
    · simp [hnone]
    · exact (hlength' hnone).ge

/-- The request of a lone prompt starts with a prompt of its type. -/
theorem collect_single_prompt {msg : PamMessage}
    (hmsg : msg.isPrompt = true) :
    ∃ p ps, (collect {} [msg]).data =
        { sent := false, currentRequest := ⟨p :: ps⟩ } ∧
      (collect {} [msg]).newRequest = true ∧ p.type = detectPrompt msg := by
  have hinsert : ∃ p ps, PamData.insertPrompt msg true {} =
      ({ sent := false, currentRequest := ⟨p :: ps⟩ }, true) ∧
        p.type = detectPrompt msg := by
    cases htype : detectPrompt msg <;>
      simp [insertPrompt, findPrompt, prompts, invalidPrompt, Prompt.valid,
        discardAnswers, predicted, htype, loginRequest, changePassRequest,
        changePassNoOldRequest, Prompt.ask, promptOf]
  obtain ⟨p, ps, hinsert, htype⟩ := hinsert
  have hstep : collect {} [msg] =
      { data := { sent := false, currentRequest := ⟨p :: ps⟩ },
        newRequest := true, frames := [] } := by
    simp only [PamMessage.isPrompt, Bool.or_eq_true,
      decide_eq_true_eq] at hmsg
    rcases hmsg with hstyle | hstyle <;>
      simp [collect, collectMessage, hstyle, hinsert]
  exact ⟨p, ps, by rw [hstep], by rw [hstep], htype⟩

/-- A lone message that asks nothing leaves no request and nothing it could
be taken for. -/
theorem collect_single_other {msg : PamMessage}
    (hmsg : msg.isPrompt = false) :
    (collect {} [msg]).newRequest = false ∧
      ∀ p ∈ (collect {} [msg]).data.prompts,
        p.type ≠ .none ∧ matchesPrompt msg p = false := by
  have htype := detectPrompt_of_not_isPrompt hmsg
  cases hstyle : msg.style with
  | promptEchoOff => simp [PamMessage.isPrompt, hstyle] at hmsg
  | promptEchoOn => simp [PamMessage.isPrompt, hstyle] at hmsg
  | errorMsg => simp [collect, collectMessage, hstyle, prompts]
  | other style => simp [collect, collectMessage, hstyle, prompts]
  | textInfo =>
      refine ⟨by simp [collect, collectMessage, hstyle], ?_⟩
      intro p hp
      simp only [collect, collectMessage, hstyle, handleInfo, List.foldl_cons,
        List.foldl_nil, List.length_singleton, decide_true,
        ↓reduceIte] at hp
      split at hp
      · simp only [prompts, changePassRequest, Prompt.ask, List.mem_cons,
          List.not_mem_nil, or_false] at hp
        rcases hp with rfl | rfl | rfl <;> simp [matchesPrompt, htype]
      · simp [prompts] at hp

theorem acceptsCount_single (msg : PamMessage) :
    acceptsCount [msg] = true := rfl

/-- A lone message is always routed. -/
theorem routes_empty_single (msg : PamMessage) : Routes {} [msg] := by
  refine ⟨fun h => absurd h (by simp), ?_⟩
  intro answers hlength
  cases hmsg : msg.isPrompt with
  | true =>
      obtain ⟨p, ps, hdata, hnew, htype⟩ := collect_single_prompt hmsg
      have hsent : sentRequest {} [msg] = some ⟨p :: ps⟩ := by
        simp [sentRequest, acceptsCount_single, hnew, hdata, getRequest,
          Request.valid]
      have hcount := hlength _ hsent
      rw [converse_echo hsent (congrArg PamData.currentRequest hdata) hcount]
      cases answers with
      | nil => simp at hcount
      | cons a answers =>
          have hmatch : matchesPrompt msg { p with response := a } = true := by
            simp [matchesPrompt, htype]
          have hprompts : PamData.prompts
              ⟨true, Request.answered ⟨p :: ps⟩ (a :: answers)⟩ =
                { p with response := a } ::
                  (Request.answered ⟨ps⟩ answers).prompts := rfl
          have hhead := (getResponse_head hprompts hmatch).1
          simp [respond, routed, hmsg, hhead]
  | false =>
      obtain ⟨hnew, hmiss⟩ := collect_single_other hmsg
      have hsent : sentRequest {} [msg] = none := by
        simp [sentRequest, hnew]
      have hempty := (getResponse_miss (fun p hp => (hmiss p hp).1)
        (fun p hp => (hmiss p hp).2)).1
      rw [converse_silent (acceptsCount_single msg) hsent]
      simp [respond, routed, hmsg, hempty]

end PamBackend

open PamBackend in
/-- From a store without pending prompts, a conversation asks for exactly its
prompts and gives every answer to the prompt it was asked for if and only if
no two of its messages clash. -/
theorem converse_routes_iff {d : PamData} (hd : Reachable d)
    (hpending : d.prompts = []) {msgs : List PamMessage}
    (hcount : 1 ≤ msgs.length ∧ msgs.length ≤ pamMaxNumMsg) :
    Routes d msgs ↔ msgs.Pairwise Compatible := by
  have haccepts : acceptsCount msgs = true := by
    simpa [acceptsCount, Nat.one_le_iff_ne_zero, Nat.pos_iff_ne_zero]
      using hcount
  rw [hd.eq_empty hpending]
  match msgs, hcount, haccepts with
  | [msg], _, _ =>
      exact iff_of_true (routes_empty_single msg) (List.pairwise_singleton _ _)
  | first :: second :: rest, _, haccepts =>
      exact routes_empty_iff_of_many haccepts (by simp)

open PamBackend in
/-- A user name, a password and a closing remark in one conversation. -/
theorem converse_routes_login :
    Routes {} [⟨.promptEchoOn, "login: "⟩, ⟨.promptEchoOff, "Password: "⟩,
      ⟨.textInfo, "Welcome"⟩] :=
  (converse_routes_iff reachable_empty rfl (by decide)).2 (by decide)

open PamBackend in
/-- Two visible prompts in one conversation are merged into one. -/
theorem converse_merges_visible_prompts :
    ¬ ∀ (d : PamData) (msgs : List PamMessage), Reachable d →
      d.prompts = [] → (1 ≤ msgs.length ∧ msgs.length ≤ pamMaxNumMsg) →
        Routes d msgs := by
  intro hall
  have hroutes := (hall {} [⟨.promptEchoOn, "login: "⟩,
    ⟨.promptEchoOn, "Domain: "⟩] reachable_empty rfl (by decide)).1 (by decide)
  exact absurd hroutes (by decide)

end PlasmaLogin

/-
Answers are used at most once and for their own kind, over conversations of a
single message: what has been handed to PAM or discarded is stored no more, and
an answer is handed out only for a message that asks for its kind.
-/
import PlasmaLogin.AnswerTrace

namespace PlasmaLogin

open FirstMatch Mealy

/-- The answer that is gone. -/
def AnswerEvent.spent : AnswerEvent → Option AnswerId
  | .answered _ _ => none
  | .discarded id | .handed id _ => some id

/-- The answers that are gone, handed out or discarded. -/
def spentAnswers (outputs : List AnswerEvent) : List AnswerId :=
  outputs.filterMap AnswerEvent.spent

/-- Prompts that stay between conversations ask for a password. -/
def Lasting (p : Prompt) : Prop :=
  p.type ≠ .loginUser ∧ PromptPatterns.asksPassword p.message = true

instance : DecidablePred Lasting := fun _ =>
  inferInstanceAs (Decidable (_ ∧ _))

/-- During a conversation there is also the prompt of its message. -/
def Awaited (msg : PamMessage) (p : Prompt) : Prop :=
  Lasting p ∨ (msg.isPrompt = true ∧ p.type = PamData.detectPrompt msg)

/-- The answers that are got rid of because a different prompt arrives. -/
def TracedData.discardedFor (msg : PamMessage) (s : TracedData) :
    List AnswerId :=
  if msg.isPrompt && !(s.forget.findPrompt msg).valid && s.sent then s.origins
  else []

/-- What PAM is handed for a message: nothing, or what the accepted reply had
for a prompt of the kind the message asks for. -/
def HandsOwn (outputs : List AnswerEvent) (msg : PamMessage)
    (handed : List AnswerEvent) (response : QByteArray) : Prop :=
  (handed = [] ∧ response = []) ∨
    ∃ id p, handed = [.handed id response] ∧ .answered id p ∈ outputs ∧
      p.response = response ∧ msg.isPrompt = true ∧
      p.type = PamData.detectPrompt msg

namespace TracedData

/-- What is stored is not gone, and nothing is stored or gone twice; what is
stored was answered as it stands, or not at all. -/
structure Accounted (n : Nat) (outputs : List AnswerEvent) (s : TracedData) :
    Prop where
  blank : ∀ t ∈ s.stored, t.origin = none → t.prompt.response = []
  unsent : s.sent = false → s.origins = []
  answered : ∀ t ∈ s.stored, ∀ id, t.origin = some id →
    .answered id t.prompt ∈ outputs
  earlier : ∀ id ∈ spentAnswers outputs ++ s.origins, id.conversation < n
  nodup : (spentAnswers outputs ++ s.origins).Nodup

/-- Nobody has answered what is stored. -/
def Fresh (s : TracedData) : Prop :=
  ∀ t ∈ s.stored, t.origin = none ∧ t.prompt.response = []

theorem spentAnswers_append (first rest : List AnswerEvent) :
    spentAnswers (first ++ rest) = spentAnswers first ++ spentAnswers rest :=
  List.filterMap_append ..

theorem spentAnswers_discarded (ids : List AnswerId) :
    spentAnswers (ids.map .discarded) = ids := by
  simp [spentAnswers, List.filterMap_map, Function.comp_def,
    AnswerEvent.spent]

theorem spentAnswers_answers (n : Nat) (reply : Option Request) :
    spentAnswers (answers n reply) = [] := by
  simp [spentAnswers, answers, List.filterMap_map, Function.comp_def,
    AnswerEvent.spent]

theorem Fresh.origins_eq {s : TracedData} (h : s.Fresh) : s.origins = [] := by
  rw [origins, List.filterMap_eq_nil_iff]
  exact fun t ht => (h t ht).1

theorem fresh_unanswered {request : Request} {sent : Bool} {n : Nat}
    (h : ∀ p ∈ request.prompts, p.response = []) :
    Fresh ⟨sent, unanswered request, n⟩ := by
  intro t ht
  obtain ⟨p, hp, rfl⟩ := List.mem_map.1 ht
  exact ⟨rfl, h p hp⟩

theorem predicted_response {type : PromptType} {request : Request}
    (h : PamData.predicted type = some request) :
    ∀ p ∈ request.prompts, p.response = [] := by
  cases type <;>
    simp only [PamData.predicted, reduceCtorEq, Option.some.injEq] at h
  all_goals
    subst h
    decide

namespace Accounted

variable {n : Nat} {outputs : List AnswerEvent} {s s' : TracedData}

theorem fresh (h : Accounted n outputs s) (hempty : s.origins = []) :
    s.Fresh := by
  intro t ht
  have hnone : t.origin = none := List.filterMap_eq_nil_iff.1 hempty t ht
  exact ⟨hnone, h.blank t ht hnone⟩

/-- A store nobody has answered may take the place of another one. -/
theorem replace (h : Accounted n outputs s) (hfresh : s'.Fresh) :
    Accounted n outputs s' where
  blank t ht _ := (hfresh t ht).2
  unsent _ := hfresh.origins_eq
  answered t ht id hid := by
    rw [(hfresh t ht).1] at hid
    exact absurd hid (by simp)
  earlier id hid := by
    rw [hfresh.origins_eq, List.append_nil] at hid
    exact h.earlier id (List.mem_append_left _ hid)
  nodup := by
    rw [hfresh.origins_eq, List.append_nil]
    exact h.nodup.of_append_left

/-- The answers of the store before may be discarded on the way. -/
theorem discard (h : Accounted n outputs s) (hfresh : s'.Fresh) :
    Accounted n (outputs ++ s.origins.map .discarded) s' where
  blank t ht _ := (hfresh t ht).2
  unsent _ := hfresh.origins_eq
  answered t ht id hid := by
    rw [(hfresh t ht).1] at hid
    exact absurd hid (by simp)
  earlier id hid := by
    rw [hfresh.origins_eq, List.append_nil, spentAnswers_append,
      spentAnswers_discarded] at hid
    exact h.earlier id hid
  nodup := by
    rw [hfresh.origins_eq, List.append_nil, spentAnswers_append,
      spentAnswers_discarded]
    exact h.nodup

/-- Discarding leaves nothing that is answered. -/
theorem discardAnswers_fresh (h : Accounted n outputs s) :
    s.discardAnswers.1.Fresh := by
  unfold TracedData.discardAnswers
  split
  · exact fun t ht => absurd ht List.not_mem_nil
  next hkeep =>
    apply h.fresh
    by_cases hsent : s.sent = true
    · have hnil : s.stored = [] := by
        simpa [hsent] using hkeep
      simp [origins, hnil]
    · exact h.unsent (by simpa using hsent)

/-- Inserting a prompt leaves the store as it is, or it leaves a fresh one,
and then the answers may have been discarded. -/
theorem insertPrompt_cases (h : Accounted n outputs s) (msg : PamMessage) :
    ((s.insertPrompt msg).1 = s ∧ (s.insertPrompt msg).2.2 = []) ∨
      ((s.insertPrompt msg).1.Fresh ∧
        ((s.insertPrompt msg).2.2 = [] ∨
          (s.insertPrompt msg).2.2 = s.origins)) := by
  have hdiscarded : s.discardAnswers.2 = [] ∨
      s.discardAnswers.2 = s.origins := by
    unfold TracedData.discardAnswers
    split
    · exact Or.inr rfl
    · exact Or.inl rfl
  unfold insertPrompt
  split
  · split
    · exact Or.inl ⟨rfl, rfl⟩
    next hsent =>
      refine Or.inr ⟨fun t ht => ?_, Or.inl rfl⟩
      have hfresh := h.fresh (h.unsent (by simpa using hsent))
      rcases mem_modifyFirst ht with hkept | ⟨old, hold, _, rfl⟩
      · exact hfresh t hkept
      · exact hfresh old hold
  · right
    simp only
    split
    next request hrequest =>
      exact ⟨fresh_unanswered (predicted_response hrequest), hdiscarded⟩
    · refine ⟨fun t ht => ?_, hdiscarded⟩
      rcases List.mem_append.1 ht with ht | ht
      · exact h.discardAnswers_fresh t ht
      · rw [List.mem_singleton.1 ht]
        exact ⟨rfl, rfl⟩

theorem insertPrompt (h : Accounted n outputs s) (msg : PamMessage) :
    Accounted n (outputs ++ (s.insertPrompt msg).2.2.map .discarded)
      (s.insertPrompt msg).1 := by
  rcases h.insertPrompt_cases msg with ⟨hstore, hnone⟩ | ⟨hfresh, hnone | hall⟩
  · rw [hstore, hnone, List.map_nil, List.append_nil]
    exact h
  · rw [hnone, List.map_nil, List.append_nil]
    exact h.replace hfresh
  · rw [hall]
    exact h.discard hfresh

theorem collect (h : Accounted n outputs s) (msg : PamMessage) :
    Accounted n (outputs ++ (s.collect msg).2.2.map .discarded)
      (s.collect msg).1 := by
  have hsame : Accounted n (outputs ++ [].map .discarded) s := by
    rw [List.map_nil, List.append_nil]
    exact h
  unfold TracedData.collect
  split
  · exact h.insertPrompt msg
  · exact h.insertPrompt msg
  · split
    · have hpredicted : PamData.predicted .changeCurrent =
          some changePassRequest := rfl
      rw [List.map_nil, List.append_nil]
      exact h.replace (fresh_unanswered (predicted_response hpredicted))
    · exact hsame
  · exact hsame
  · exact hsame

theorem origins_completeRequest (reply : Request) (s : TracedData) :
    (s.completeRequest reply).origins =
      (List.range reply.prompts.length).map fun place =>
        ⟨s.conversations, place⟩ := by
  have hplaces : reply.prompts.zipIdx.map Prod.snd =
      List.range reply.prompts.length := by
    rw [List.zipIdx_map_snd, List.range_eq_range']
  rw [← hplaces, List.map_map, origins, TracedData.completeRequest,
    List.filterMap_map]
  exact congrFun (List.filterMap_eq_map (f := fun p : Prompt × Nat =>
    (⟨s.conversations, p.2⟩ : AnswerId))) _

/-- The answers of a reply are new. -/
theorem completeRequest (h : Accounted s.conversations outputs s)
    (reply : Request) :
    Accounted (s.conversations + 1)
      (outputs ++ answers s.conversations (some reply))
      (s.completeRequest reply) := by
  have hspent : spentAnswers (outputs ++ answers s.conversations (some reply)) =
      spentAnswers outputs := by
    rw [spentAnswers_append, spentAnswers_answers, List.append_nil]
  have hold : ∀ id ∈ spentAnswers outputs, id.conversation < s.conversations :=
    fun id hid => h.earlier id (List.mem_append_left _ hid)
  constructor
  · intro t ht hnone
    obtain ⟨p, hp, rfl⟩ := List.mem_map.1 ht
    exact absurd hnone (by simp)
  · intro hsent
    exact absurd hsent (by simp [TracedData.completeRequest])
  · intro t ht id hid
    obtain ⟨p, hp, rfl⟩ := List.mem_map.1 ht
    apply List.mem_append_right
    exact List.mem_map.2 ⟨p, hp, by rw [← Option.some.inj hid]⟩
  · intro id hid
    rw [hspent, origins_completeRequest] at hid
    rcases List.mem_append.1 hid with hid | hid
    · have := hold id hid
      omega
    · obtain ⟨place, _, rfl⟩ := List.mem_map.1 hid
      exact Nat.lt_succ_self _
  · rw [hspent, origins_completeRequest]
    apply (h.nodup.of_append_left).append
    · exact List.nodup_range.map fun a b hab => (AnswerId.mk.inj hab).2
    · intro id hid hnew
      obtain ⟨place, _, rfl⟩ := List.mem_map.1 hnew
      exact Nat.lt_irrefl _ (hold _ hid)

theorem mono {m : Nat} (h : Accounted n outputs s) (hnm : n ≤ m) :
    Accounted m outputs s :=
  { h with earlier := fun id hid => Nat.lt_of_lt_of_le (h.earlier id hid) hnm }

end Accounted

theorem handed_of_find? {msg : PamMessage} {s : TracedData} {t : TracedPrompt}
    (h : s.stored.find? (matchesStored msg) = some t) :
    s.handed msg =
      t.origin.toList.map fun id => .handed id t.prompt.response := by
  obtain ⟨p, origin⟩ := t
  cases origin <;> simp [handed, h]

/-- The answer that is handed out leaves the store. -/
theorem spent_handed_perm (msg : PamMessage) (s : TracedData) :
    (spentAnswers (s.handed msg) ++ (s.getResponse msg).origins).Perm
      s.origins := by
  simp only [origins, getResponse]
  cases hfind : s.stored.find? (matchesStored msg) with
  | none =>
      rw [List.eraseP_of_forall_not (List.find?_eq_none.1 hfind)]
      simp [handed, hfind, spentAnswers]
  | some t =>
      obtain ⟨pre, post, hstored, herase⟩ := exists_eraseP_of_find? hfind
      have hspent : spentAnswers (s.handed msg) = t.origin.toList := by
        rw [handed_of_find? hfind]
        simp [spentAnswers, List.filterMap_map, Function.comp_def,
          AnswerEvent.spent]
      have htaken : (pre ++ t :: post).filterMap TracedPrompt.origin =
          pre.filterMap TracedPrompt.origin ++
            (t.origin.toList ++ post.filterMap TracedPrompt.origin) := by
        rw [List.filterMap_append]
        cases horigin : t.origin <;> simp [horigin]
      rw [herase, hstored, hspent, htaken, List.filterMap_append]
      exact List.perm_append_comm_assoc ..

theorem Accounted.getResponse {n : Nat} {outputs : List AnswerEvent}
    {s : TracedData} (h : Accounted n outputs s) (msg : PamMessage) :
    Accounted n (outputs ++ s.handed msg) (s.getResponse msg) := by
  have hperm : (spentAnswers (outputs ++ s.handed msg) ++
      (s.getResponse msg).origins).Perm (spentAnswers outputs ++ s.origins) := by
    rw [spentAnswers_append, List.append_assoc]
    exact (spent_handed_perm msg s).append_left _
  constructor
  · exact fun t ht => h.blank t (List.mem_of_mem_eraseP ht)
  · intro hsent
    have hsub : ∀ id ∈ (s.getResponse msg).origins, id ∈ s.origins := by
      intro id hid
      obtain ⟨t, ht, horigin⟩ := List.mem_filterMap.1 hid
      exact List.mem_filterMap.2 ⟨t, List.mem_of_mem_eraseP ht, horigin⟩
    by_cases hlength : (s.getResponse msg).stored.length = 0
    · rw [origins, List.length_eq_zero_iff.1 hlength]
      rfl
    · have hunsent : s.sent = false := by
        rw [← hsent]
        exact (if_neg hlength).symm
      rw [h.unsent hunsent] at hsub
      exact List.eq_nil_iff_forall_not_mem.2 fun id hid =>
        absurd (hsub id hid) List.not_mem_nil
  · exact fun t ht id hid =>
      List.mem_append_left _ (h.answered t (List.mem_of_mem_eraseP ht) id hid)
  · exact fun id hid => h.earlier id (hperm.mem_iff.1 hid)
  · exact hperm.nodup_iff.2 h.nodup

end TracedData

namespace PamData

variable {d : PamData} {msg : PamMessage}

theorem repliesTo_self (request : Request) :
    repliesTo request request = true := by
  simp [repliesTo, List.zip_eq_zipWith, Prompt.sameQuestion]

/-- A message takes a prompt only if it asks for the prompt's kind. -/
theorem kind_of_matchesPrompt {p : Prompt} (hp : Awaited msg p)
    (h : matchesPrompt msg p = true) :
    msg.isPrompt = true ∧ p.type = detectPrompt msg := by
  rcases hp with ⟨hlogin, hpassword⟩ | hkind
  · have htype : detectPrompt msg = p.type := by
      rcases Bool.or_eq_true_iff.1 h with h | h
      · simp only [Bool.and_eq_true, decide_eq_true_eq] at h
        obtain ⟨hunknown, htext⟩ := h
        -- the text of a lasting prompt is never of unknown kind
        rw [← htext] at hpassword
        unfold detectPrompt at hunknown
        split_ifs at hunknown
      · exact of_decide_eq_true h
    rw [← htype, ne_eq, detectPrompt_eq_loginUser_iff, not_not] at hlogin
    exact ⟨by simp [PamMessage.isPrompt, hlogin], htype.symm⟩
  · exact hkind

theorem predicted_awaited {request : Request} (hprompt : msg.isPrompt = true)
    (h : predicted (detectPrompt msg) = some request) :
    ∀ p ∈ request.prompts, Awaited msg p := by
  cases htype : detectPrompt msg <;>
    simp only [htype, predicted, reduceCtorEq, Option.some.injEq] at h
  case loginUser =>
    subst h
    intro p hp
    rcases List.mem_cons.1 hp with rfl | hp
    · exact Or.inr ⟨hprompt, htype.symm⟩
    · left
      revert p
      decide
  all_goals
    subst h
    intro p hp
    left
    revert p
    decide

theorem insertPrompt_awaited (h : ∀ p ∈ d.prompts, Lasting p)
    (hprompt : msg.isPrompt = true) :
    ∀ p ∈ (d.insertPrompt msg true).1.prompts, Awaited msg p := by
  have hleft : ∀ p ∈ d.prompts, Awaited msg p := fun p hp => Or.inl (h p hp)
  unfold insertPrompt
  split
  · split
    · exact hleft
    · intro p hp
      rcases mem_modifyFirst hp with hkept | ⟨old, hold, hmatch, rfl⟩
      · exact hleft p hkept
      · have hkind := kind_of_matchesPrompt (hleft old hold) hmatch
        exact Or.inr hkind
  · simp only [↓reduceIte]
    split
    next request hrequest => exact predicted_awaited hprompt hrequest
    · intro p hp
      rcases List.mem_append.1 hp with hp | hp
      · exact hleft p (d.discardAnswers_prompts_subset p hp)
      · rw [List.mem_singleton.1 hp]
        exact Or.inr ⟨hprompt, promptOf_type msg⟩

theorem collect_awaited (h : ∀ p ∈ d.prompts, Lasting p) :
    ∀ p ∈ (PamBackend.collect d [msg]).data.prompts, Awaited msg p := by
  have hleft : ∀ p ∈ d.prompts, Awaited msg p := fun p hp => Or.inl (h p hp)
  simp only [PamBackend.collect, List.foldl_cons, List.foldl_nil,
    List.length_singleton, decide_true, PamBackend.collectMessage]
  cases hstyle : msg.style with
  | promptEchoOff =>
      exact insertPrompt_awaited h (by simp [PamMessage.isPrompt, hstyle])
  | promptEchoOn =>
      exact insertPrompt_awaited h (by simp [PamMessage.isPrompt, hstyle])
  | errorMsg => exact hleft
  | textInfo =>
      rcases handleInfo_cases msg true d with heq | ⟨_, _, heq⟩
      · simp only [heq]
        exact hleft
      · have hlasting : ∀ p ∈ changePassRequest.prompts, Lasting p := by
          decide
        simp only [heq]
        exact fun p hp => Or.inl (hlasting p hp)
  | other style => exact hleft

theorem completeRequest_awaited (h : ∀ p ∈ d.prompts, Awaited msg p)
    (reply : Request) :
    ∀ p ∈ (d.completeRequest reply).prompts, Awaited msg p := by
  unfold completeRequest
  split
  next hmatch =>
    have hpairs := repliesTo_map_eq hmatch
      (g := fun p => (p.type, p.message)) (fun p q hpq => by
        obtain ⟨ht, hm, _⟩ := sameQuestion_iff.1 hpq
        rw [ht, hm])
    intro p hp
    have hin : (p.type, p.message) ∈
        d.prompts.map fun q => (q.type, q.message) := by
      rw [prompts, ← hpairs]
      exact List.mem_map.2 ⟨p, hp, rfl⟩
    obtain ⟨q, hq, heq⟩ := List.mem_map.1 hin
    obtain ⟨htype, hmessage⟩ := Prod.mk.inj heq
    have hkind := h q hq
    rw [Awaited, Lasting, htype, hmessage] at hkind
    exact hkind
  · exact h

/-- The prompt of the message does not outlive its conversation. -/
theorem getResponse_lasting (hd : d.WellFormed)
    (h : ∀ p ∈ d.prompts, Awaited msg p) :
    ∀ p ∈ (d.getResponse msg).2.prompts, Lasting p := by
  intro p hp
  rw [hd.getResponse_prompts msg] at hp
  rcases h p (List.mem_of_mem_eraseP hp) with hlasting | ⟨_, htype⟩
  · exact hlasting
  · have hmatch : matchesPrompt msg p = true := by
      simp [matchesPrompt, htype]
    have hsome : (d.prompts.find? (matchesPrompt msg)).isSome = true :=
      List.find?_isSome.2 ⟨p, List.mem_of_mem_eraseP hp, hmatch⟩
    obtain ⟨q, hq⟩ := Option.isSome_iff_exists.1 hsome
    obtain ⟨pre, post, hprompts, herase⟩ := exists_eraseP_of_find? hq
    have hqtype := (kind_of_matchesPrompt
      (h q (List.mem_of_find?_eq_some hq)) (List.find?_some hq)).2
    -- two prompts of one type
    have hnodup := hd.types_nodup
    rw [hprompts, List.map_append, List.map_cons, List.nodup_middle,
      List.nodup_cons, ← List.map_append] at hnodup
    rw [herase] at hp
    exact absurd (List.mem_map.2 ⟨p, hp, htype.trans hqtype.symm⟩) hnodup.1

end PamData

namespace TracedData

/-- What holds between conversations. -/
structure Settled (outputs : List AnswerEvent) (s : TracedData) : Prop where
  wellFormed : s.forget.WellFormed
  lasting : ∀ p ∈ s.forget.prompts, Lasting p
  accounted : Accounted s.conversations outputs s

theorem conversations_collect (msg : PamMessage) (s : TracedData) :
    (s.collect msg).1.conversations = s.conversations := by
  have hdiscard : s.discardAnswers.1.conversations = s.conversations := by
    unfold discardAnswers
    split <;> rfl
  have hinsert : (s.insertPrompt msg).1.conversations = s.conversations := by
    unfold insertPrompt
    split
    · split <;> rfl
    · simp only
      split <;> exact hdiscard
  unfold collect
  split
  · exact hinsert
  · exact hinsert
  · split <;> rfl
  · rfl
  · rfl

variable {outputs : List AnswerEvent} {s : TracedData}

theorem Settled.ask_awaited (h : s.Settled outputs) (c : EchoedMessage) :
    ∀ p ∈ (s.ask c).forget.prompts, Awaited c.msg p := by
  have hcollect : ∀ p ∈ (PamBackend.collect s.forget [c.msg]).data.prompts,
      Awaited c.msg p := PamData.collect_awaited h.lasting
  rw [(s.forget_collect c.msg).1] at hcollect
  rw [ask]
  split
  · exact hcollect
  next reply hreply =>
    rw [← forget_completeRequest (accepted_eq_some hreply).2.2]
    exact PamData.completeRequest_awaited hcollect reply

theorem Settled.ask_accounted (h : s.Settled outputs) (c : EchoedMessage) :
    Accounted (s.conversations + 1)
      (outputs ++ ((s.collect c.msg).2.2.map .discarded ++
        answers s.conversations (s.accepted c))) (s.ask c) := by
  have hcollect := h.accounted.collect c.msg
  rw [← List.append_assoc, ask]
  split
  next hnone =>
    rw [hnone]
    exact (List.append_nil _).symm ▸ hcollect.mono (Nat.le_succ _)
  next reply hreply =>
    rw [← conversations_collect c.msg s] at hcollect ⊢
    rw [hreply]
    exact hcollect.completeRequest reply

theorem Settled.converse (h : s.Settled outputs) (c : EchoedMessage) :
    (s.converse c).1.Settled (outputs ++ (s.converse c).2) := by
  have hask := ask_wellFormed h.wellFormed c
  have hforget : (s.converse c).1.forget =
      ((s.ask c).forget.getResponse c.msg).2 :=
    (forget_getResponse hask c.msg).symm
  constructor
  · rw [hforget]
    exact hask.getResponse c.msg
  · rw [hforget]
    exact PamData.getResponse_lasting hask (h.ask_awaited c)
  · have haccounted := (h.ask_accounted c).getResponse c.msg
    rw [List.append_assoc] at haccounted
    exact { haccounted with }

/-- What PAM gets is the answer that is handed out. -/
theorem Settled.handsOwn (h : s.Settled outputs) (c : EchoedMessage) :
    HandsOwn (outputs ++ (s.converse c).2) c.msg ((s.ask c).handed c.msg)
      ((s.ask c).forget.getResponse c.msg).1 := by
  have hask := h.ask_accounted c
  have hresponse : ((s.ask c).forget.getResponse c.msg).1 =
      ((s.ask c).forget.findPrompt c.msg).response := rfl
  rw [hresponse, PamData.findPrompt, forget_findPrompt]
  cases hfind : (s.ask c).stored.find? (matchesStored c.msg) with
  | none => exact Or.inl ⟨by simp [handed, hfind], rfl⟩
  | some t =>
      have ht := List.mem_of_find?_eq_some hfind
      rw [handed_of_find? hfind]
      cases horigin : t.origin with
      | none => exact Or.inl ⟨rfl, hask.blank t ht horigin⟩
      | some id =>
          have hmatch : matchesStored c.msg t = true := List.find?_some hfind
          obtain ⟨hprompt, htype⟩ := PamData.kind_of_matchesPrompt
            (h.ask_awaited c t.prompt (List.mem_map.2 ⟨t, ht, rfl⟩)) hmatch
          have hanswered := hask.answered t ht id horigin
          refine Or.inr ⟨id, t.prompt, rfl, ?_, rfl, hprompt, htype⟩
          rw [TracedData.converse, ← List.append_assoc]
          exact List.mem_append_left _ hanswered

theorem settled_exec (cs : List EchoedMessage) :
    (traceMachine.exec {} cs).Settled (traceMachine.outputs {} cs) := by
  induction cs using List.reverseRecOn with
  | nil =>
      refine ⟨PamData.wellFormed_empty, fun p hp => absurd hp List.not_mem_nil,
        ?_⟩
      constructor
      · exact fun t ht => absurd ht List.not_mem_nil
      · exact fun _ => rfl
      · exact fun t ht => absurd ht List.not_mem_nil
      · exact fun id hid => absurd hid List.not_mem_nil
      · exact List.nodup_nil
  | append_singleton cs c ih =>
      rw [Machine.exec_concat, Machine.outputs_concat]
      exact ih.converse c

theorem discardAnswers_snd (s : TracedData) :
    s.discardAnswers.2 = if s.sent then s.origins else [] := by
  unfold discardAnswers
  by_cases hnil : s.stored = []
  · simp [hnil, origins]
  · by_cases hsent : s.sent = true <;> simp [hnil, hsent]

theorem collect_discarded (msg : PamMessage) (s : TracedData) :
    (s.collect msg).2.2 = s.discardedFor msg := by
  have hinsert : (s.insertPrompt msg).2.2 =
      if !(s.forget.findPrompt msg).valid && s.sent then s.origins else [] := by
    unfold insertPrompt
    split
    next hvalid =>
      rw [hvalid]
      split <;> rfl
    next hvalid =>
      rw [Bool.not_eq_true] at hvalid
      rw [hvalid, Bool.not_false, Bool.true_and, ← s.discardAnswers_snd]
      simp only
      split <;> rfl
  unfold collect discardedFor
  cases hstyle : msg.style with
  | promptEchoOff => simpa [PamMessage.isPrompt, hstyle] using hinsert
  | promptEchoOn => simpa [PamMessage.isPrompt, hstyle] using hinsert
  | errorMsg => simp [PamMessage.isPrompt, hstyle]
  | textInfo =>
      simp only [PamMessage.isPrompt, hstyle]
      split <;> rfl
  | other style => simp [PamMessage.isPrompt, hstyle]

end TracedData

/-- A conversation after some others.  The traced store is the store, and
what is in it is answered by a reply or has no response; the message discards
what is stored for other prompts, the answers of the accepted reply come in,
and PAM gets its own. -/
structure UsesAnswers (cs : List EchoedMessage) (c : EchoedMessage) :
    Prop where
  store : (traceMachine.exec {} cs).forget =
    pamMachine.exec {} (cs.map EchoedMessage.conversation)
  stored : ∀ t ∈ (traceMachine.exec {} cs).stored,
    match t.origin with
    | none => t.prompt.response = []
    | some id => .answered id t.prompt ∈ traceMachine.outputs {} cs
  handed : ∃ handed response,
    (PamBackend.converse
        (pamMachine.exec {} (cs.map EchoedMessage.conversation))
        c.conversation).2.2 = .success [response] ∧
    (traceMachine.step (traceMachine.exec {} cs) c).2 =
      ((traceMachine.exec {} cs).discardedFor c.msg).map .discarded ++
        TracedData.answers cs.length (PamBackend.acceptedReply
          (pamMachine.exec {} (cs.map EchoedMessage.conversation))
          c.conversation) ++ handed ∧
    HandsOwn (traceMachine.outputs {} (cs ++ [c])) c.msg handed response

/-- After any conversations every answer has been handed out or discarded at
most once, and the next conversation hands out an answer of its own kind. -/
theorem answers_used_once (cs : List EchoedMessage) :
    (spentAnswers (traceMachine.outputs {} cs)).Nodup ∧
      ∀ c, UsesAnswers cs c := by
  have hsettled := TracedData.settled_exec cs
  refine ⟨hsettled.accounted.nodup.of_append_left, fun c => ?_⟩
  obtain ⟨hstore, hwf⟩ := TracedData.forget_exec cs
  constructor
  · exact hstore
  · intro t ht
    cases horigin : t.origin with
    | none => exact hsettled.accounted.blank t ht horigin
    | some id => exact hsettled.accounted.answered t ht id horigin
  · have hown := hsettled.handsOwn c
    have houtputs := traceMachine.outputs_concat {} cs c
    refine ⟨_, _, ?_, ?_, houtputs ▸ hown⟩
    · rw [← hstore]
      exact (TracedData.forget_converse hwf c).2
    · rw [← hstore, TracedData.acceptedReply_eq,
        ← TracedData.collect_discarded, ← TracedData.exec_conversations]
      rfl

/-- The answer to the predicted password prompt is handed out in the second
conversation. -/
example : spentAnswers (traceMachine.outputs {}
    [⟨⟨.promptEchoOn, "login:"⟩, id, PamData.repliesTo_self⟩,
      ⟨⟨.promptEchoOff, "Password: "⟩, id, PamData.repliesTo_self⟩]) =
    [⟨0, 0⟩, ⟨0, 1⟩] := by
  decide

end PlasmaLogin

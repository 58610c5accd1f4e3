/-
`PamData`, the store of prompts the helper keeps between PAM conversations:
prompts are inserted as PAM asks, predicted ahead of PAM, replaced by the
daemon's reply and consumed one by one.
-/
import PlasmaLogin.FirstMatch
import PlasmaLogin.PromptPatterns

namespace PlasmaLogin

open FirstMatch

def loginRequest : Request :=
  ⟨[.ask .loginUser "login:" false, .ask .loginPassword "Password: " true]⟩

def changePassRequest : Request :=
  ⟨[.ask .changeCurrent "(current) UNIX password: " true,
    .ask .changeNew "New password: " true,
    .ask .changeRepeat "Retype new password: " true]⟩

def changePassNoOldRequest : Request :=
  ⟨[.ask .changeNew "New password: " true,
    .ask .changeRepeat "Retype new password: " true]⟩

def invalidRequest : Request := {}

def invalidPrompt : Prompt := {}

structure PamData where
  sent : Bool := false
  currentRequest : Request := {}
deriving DecidableEq, Repr

namespace PamData

def prompts (d : PamData) : List Prompt := d.currentRequest.prompts

/-- The test of `findPrompt`: a prompt of the guessed type, or, for a message
of unknown type, one with the same text. -/
def matchesPrompt (msg : PamMessage) (p : Prompt) : Bool :=
  (detectPrompt msg = .unknown && msg.text = p.message) ||
    detectPrompt msg = p.type

/-- `findPrompt`: the first match, or the invalid prompt. -/
def findPrompt (msg : PamMessage) (d : PamData) : Prompt :=
  (d.prompts.find? (matchesPrompt msg)).getD invalidPrompt

/-- The request predicted from the first prompt of a conversation. -/
def predicted : PromptType → Option Request
  | .loginUser => some loginRequest
  | .changeCurrent => some changePassRequest
  | .changeNew => some changePassNoOldRequest
  | _ => none

/-- The prompt for a message, exactly as it comes. -/
def promptOf (msg : PamMessage) : Prompt :=
  .ask (detectPrompt msg) msg.text (msg.style = .promptEchoOff)

/-- Drop the answers that the arriving prompt has no use for. -/
def discardAnswers (d : PamData) : PamData :=
  if d.prompts.length ≠ 0 ∧ d.sent then
    { sent := false, currentRequest := d.currentRequest.clear }
  else d

/-- `PamData::insertPrompt`. -/
def insertPrompt (msg : PamMessage) (predict : Bool) (d : PamData) :
    PamData × Bool :=
  if (d.findPrompt msg).valid then
    if d.sent then (d, false)
    else
      ({ d with currentRequest := ⟨modifyFirst (matchesPrompt msg)
          (fun p => { p with message := msg.text }) d.prompts⟩ }, true)
  else
    let d := d.discardAnswers
    match (if predict then predicted (detectPrompt msg) else none) with
    | some request => ({ d with currentRequest := request }, true)
    | none =>
        ({ d with currentRequest := ⟨d.prompts ++ [promptOf msg]⟩ }, true)

/-- `PamData::handleInfo`. -/
def handleInfo (msg : PamMessage) (predict : Bool) (d : PamData) :
    PamData × AuthInfo :=
  if PromptPatterns.announcesPasswordChange msg.text then
    if predict then
      ({ d with currentRequest := changePassRequest }, .passChangeRequired)
    else (d, .passChangeRequired)
  else (d, .unknown)

/-- `PamData::getResponse`: the answer to a message, whose prompt goes. -/
def getResponse (msg : PamMessage) (d : PamData) : QByteArray × PamData :=
  let p := d.findPrompt msg
  let prompts := d.prompts.erase p
  (p.response,
    { sent := if prompts.length = 0 then false else d.sent,
      currentRequest := ⟨prompts⟩ })

/-- `PamData::getRequest`. -/
def getRequest (d : PamData) : Request :=
  if d.sent then invalidRequest else d.currentRequest

/-- A reply repeats the questions of the request, in order. -/
def repliesTo (reply request : Request) : Bool :=
  reply.prompts.length = request.prompts.length &&
    (reply.prompts.zip request.prompts).all fun p => p.1.sameQuestion p.2

/-- `PamData::completeRequest`: any other reply is ignored. -/
def completeRequest (reply : Request) (d : PamData) : PamData :=
  if repliesTo reply d.currentRequest then
    { sent := true, currentRequest := reply }
  else d

/-- What the store keeps true between conversations: prompts have a real
type, no two the same one, exactly the user-name prompt may be shown, and
answers are only held for prompts that were sent. -/
structure WellFormed (d : PamData) : Prop where
  type_ne_none : ∀ p ∈ d.prompts, p.type ≠ .none
  hidden_iff : ∀ p ∈ d.prompts, p.hidden = true ↔ p.type ≠ .loginUser
  types_nodup : (d.prompts.map Prompt.type).Nodup
  sent_nonempty : d.sent = true → d.prompts ≠ []

theorem wellFormed_empty : WellFormed {} where
  type_ne_none p hp := absurd hp List.not_mem_nil
  hidden_iff p hp := absurd hp List.not_mem_nil
  types_nodup := List.nodup_nil
  sent_nonempty h := absurd h (by decide)

/-- Only a store that waits for answers has a request to send. -/
theorem getRequest_of_valid {d : PamData} (h : d.getRequest.valid = true) :
    d.sent = false ∧ d.getRequest = d.currentRequest := by
  rw [getRequest] at h ⊢
  split at h
  · exact absurd h (by decide)
  next hsent => exact ⟨by simpa using hsent, if_neg hsent⟩

theorem promptOf_type (msg : PamMessage) :
    (promptOf msg).type = detectPrompt msg := rfl

theorem promptOf_message (msg : PamMessage) :
    (promptOf msg).message = msg.text := rfl

theorem promptOf_hidden_iff (msg : PamMessage) :
    (promptOf msg).hidden = true ↔ (promptOf msg).type ≠ .loginUser := by
  rw [promptOf_type, ne_eq, detectPrompt_eq_loginUser_iff]
  simp [promptOf, Prompt.ask]

theorem predicted_wellFormed {type : PromptType} {request : Request}
    (h : predicted type = some request) (sent : Bool) :
    WellFormed { sent := sent, currentRequest := request } := by
  cases type <;> simp only [predicted, reduceCtorEq, Option.some.injEq] at h
  all_goals
    subst h
    constructor
    · simp [prompts, loginRequest, changePassRequest, changePassNoOldRequest,
        Prompt.ask]
    · simp [prompts, loginRequest, changePassRequest, changePassNoOldRequest,
        Prompt.ask]
    · simp [prompts, loginRequest, changePassRequest, changePassNoOldRequest,
        Prompt.ask]
    · intro _
      exact List.cons_ne_nil _ _

/-- The search either misses, and then the guessed type is not stored, or it
finds a stored prompt. -/
theorem findPrompt_cases (msg : PamMessage) (d : PamData) :
    (d.prompts.find? (matchesPrompt msg) = none ∧
        d.findPrompt msg = invalidPrompt) ∨
      ∃ p ∈ d.prompts, d.prompts.find? (matchesPrompt msg) = some p ∧
        d.findPrompt msg = p := by
  cases hfind : d.prompts.find? (matchesPrompt msg) with
  | none => exact Or.inl ⟨rfl, by simp [findPrompt, hfind]⟩
  | some p =>
      exact Or.inr ⟨p, List.mem_of_find?_eq_some hfind, rfl,
        by simp [findPrompt, hfind]⟩

theorem type_not_stored_of_find?_eq_none {msg : PamMessage} {d : PamData}
    (hfind : d.prompts.find? (matchesPrompt msg) = none) :
    ∀ p ∈ d.prompts, p.type ≠ detectPrompt msg := by
  intro p hp heq
  have hmiss := List.find?_eq_none.1 hfind p hp
  simp [matchesPrompt, heq] at hmiss

theorem WellFormed.findPrompt_valid {d : PamData} (hd : d.WellFormed)
    (msg : PamMessage) :
    (d.findPrompt msg).valid = (d.prompts.find? (matchesPrompt msg)).isSome := by
  rcases d.findPrompt_cases msg with ⟨hfind, hp⟩ | ⟨p, hp, hfind, heq⟩
  · rw [hp, hfind]
    rfl
  · rw [heq, hfind, Prompt.valid_of_type_ne_none (hd.type_ne_none p hp)]
    rfl

theorem WellFormed.clear {d : PamData} :
    WellFormed { sent := false, currentRequest := d.currentRequest.clear } :=
  wellFormed_empty

theorem WellFormed.discardAnswers {d : PamData} (hd : d.WellFormed) :
    d.discardAnswers.WellFormed := by
  unfold PamData.discardAnswers
  split
  · exact WellFormed.clear
  · exact hd

theorem discardAnswers_prompts_subset (d : PamData) :
    ∀ p ∈ d.discardAnswers.prompts, p ∈ d.prompts := by
  unfold PamData.discardAnswers
  split
  · intro p hp
    exact absurd hp List.not_mem_nil
  · exact fun p hp => hp

theorem WellFormed.append_prompt {d : PamData} (hd : d.WellFormed)
    {msg : PamMessage} (hnew : ∀ p ∈ d.prompts, p.type ≠ detectPrompt msg) :
    WellFormed { d with currentRequest := ⟨d.prompts ++ [promptOf msg]⟩ } where
  type_ne_none p hp := by
    rcases List.mem_append.1 hp with hp | hp
    · exact hd.type_ne_none p hp
    · rw [List.mem_singleton.1 hp, promptOf_type]
      exact detectPrompt_ne_none msg
  hidden_iff p hp := by
    rcases List.mem_append.1 hp with hp | hp
    · exact hd.hidden_iff p hp
    · rw [List.mem_singleton.1 hp]
      exact promptOf_hidden_iff msg
  types_nodup := by
    have hnodup := hd.types_nodup
    simp only [prompts, List.map_append, List.map_cons, List.map_nil,
      promptOf_type]
    apply hnodup.append (List.nodup_singleton _)
    simp only [List.disjoint_singleton]
    intro hmem
    obtain ⟨p, hp, heq⟩ := List.mem_map.1 hmem
    exact hnew p hp heq
  sent_nonempty _ := by simp [prompts]

theorem WellFormed.renamePrompt {d : PamData} (hd : d.WellFormed)
    (msg : PamMessage) :
    WellFormed { d with currentRequest := ⟨modifyFirst (matchesPrompt msg)
      (fun p => { p with message := msg.text }) d.prompts⟩ } where
  type_ne_none p hp := by
    rcases mem_modifyFirst hp with hp | ⟨q, hq, _, rfl⟩
    · exact hd.type_ne_none p hp
    · exact hd.type_ne_none q hq
  hidden_iff p hp := by
    rcases mem_modifyFirst hp with hp | ⟨q, hq, _, rfl⟩
    · exact hd.hidden_iff p hp
    · exact hd.hidden_iff q hq
  types_nodup := by
    have htypes := map_modifyFirst (p := matchesPrompt msg)
      (f := fun p : Prompt => { p with message := msg.text })
      (g := Prompt.type) (fun _ => rfl) d.prompts
    simp only [prompts] at htypes ⊢
    rw [htypes]
    exact hd.types_nodup
  sent_nonempty hsent := by
    simp only [prompts, ne_eq, modifyFirst_eq_nil_iff]
    exact hd.sent_nonempty hsent

theorem WellFormed.insertPrompt {d : PamData} (hd : d.WellFormed)
    (msg : PamMessage) (predict : Bool) :
    (d.insertPrompt msg predict).1.WellFormed := by
  unfold PamData.insertPrompt
  split
  · split
    · exact hd
    · exact hd.renamePrompt msg
  next hvalid =>
    have hfind : d.prompts.find? (matchesPrompt msg) = none := by
      rw [hd.findPrompt_valid msg] at hvalid
      simpa using hvalid
    have hnew : ∀ p ∈ d.discardAnswers.prompts,
        p.type ≠ detectPrompt msg := fun p hp =>
      type_not_stored_of_find?_eq_none hfind p
        (d.discardAnswers_prompts_subset p hp)
    simp only
    split
    next request hrequest =>
      split at hrequest
      · exact predicted_wellFormed hrequest _
      · exact absurd hrequest (by simp)
    · exact hd.discardAnswers.append_prompt hnew

theorem WellFormed.handleInfo {d : PamData} (hd : d.WellFormed)
    (msg : PamMessage) (predict : Bool) :
    (d.handleInfo msg predict).1.WellFormed := by
  unfold PamData.handleInfo
  split
  · split
    · have hpredicted : predicted .changeCurrent = some changePassRequest :=
        rfl
      exact predicted_wellFormed hpredicted d.sent
    · exact hd
  · exact hd

theorem WellFormed.getResponse {d : PamData} (hd : d.WellFormed)
    (msg : PamMessage) : (d.getResponse msg).2.WellFormed where
  type_ne_none p hp := hd.type_ne_none p (List.mem_of_mem_erase hp)
  hidden_iff p hp := hd.hidden_iff p (List.mem_of_mem_erase hp)
  types_nodup :=
    hd.types_nodup.sublist (List.Sublist.map _ List.erase_sublist)
  sent_nonempty hsent hnil := by
    simp only [PamData.getResponse, prompts] at hsent hnil
    simp [hnil] at hsent

/-- An accepted reply has the types and visibilities of the request. -/
theorem repliesTo_map_eq {reply request : Request}
    (h : repliesTo reply request = true) {B : Type} {g : Prompt → B}
    (hg : ∀ p q : Prompt, p.sameQuestion q = true → g p = g q) :
    reply.prompts.map g = request.prompts.map g := by
  obtain ⟨left⟩ := reply
  obtain ⟨right⟩ := request
  simp only [repliesTo, Bool.and_eq_true, decide_eq_true_eq] at h ⊢
  obtain ⟨hlength, hall⟩ := h
  induction left generalizing right with
  | nil => rw [List.length_eq_zero_iff.1 hlength.symm]
  | cons p left ih =>
      cases right with
      | nil => simp at hlength
      | cons q right =>
          simp only [List.length_cons, Nat.add_right_cancel_iff] at hlength
          simp only [List.zip_cons_cons, List.all_cons,
            Bool.and_eq_true] at hall
          simp only [List.map_cons, hg p q hall.1, ih right hlength hall.2]

theorem sameQuestion_iff {p q : Prompt} : p.sameQuestion q = true ↔
    p.type = q.type ∧ p.message = q.message ∧ p.hidden = q.hidden := by
  simp [Prompt.sameQuestion, and_assoc]

/-- What holds of every prompt's type and visibility survives a reply. -/
theorem WellFormed.completeRequest {d : PamData} (hd : d.WellFormed)
    {reply : Request} (hreply : reply.valid = true) :
    (d.completeRequest reply).WellFormed := by
  unfold PamData.completeRequest
  split
  next hmatch =>
    have hpairs := repliesTo_map_eq hmatch
      (g := fun p => (p.type, p.hidden)) (fun p q hpq => by
        obtain ⟨ht, _, hh⟩ := sameQuestion_iff.1 hpq
        rw [ht, hh])
    have hmem : ∀ p ∈ reply.prompts, ∃ q ∈ d.prompts,
        q.type = p.type ∧ q.hidden = p.hidden := by
      intro p hp
      have hin : (p.type, p.hidden) ∈
          d.prompts.map (fun q => (q.type, q.hidden)) := by
        rw [prompts, ← hpairs]
        exact List.mem_map.2 ⟨p, hp, rfl⟩
      obtain ⟨q, hq, heq⟩ := List.mem_map.1 hin
      exact ⟨q, hq, (Prod.mk.inj heq).1, (Prod.mk.inj heq).2⟩
    constructor
    · intro p hp
      obtain ⟨q, hq, htype, _⟩ := hmem p hp
      exact htype ▸ hd.type_ne_none q hq
    · intro p hp
      obtain ⟨q, hq, htype, hhidden⟩ := hmem p hp
      exact htype ▸ hhidden ▸ hd.hidden_iff q hq
    · have htypes := repliesTo_map_eq hmatch (g := Prompt.type)
        (fun p q hpq => (sameQuestion_iff.1 hpq).1)
      simp only [prompts, htypes]
      exact hd.types_nodup
    · intro _ hnil
      simp only [Request.valid, Bool.not_eq_true', List.isEmpty_eq_false_iff]
        at hreply
      exact hreply hnil
  · exact hd

end PamData

end PlasmaLogin

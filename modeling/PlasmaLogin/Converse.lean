/-
`PamBackend::converse`, one PAM conversation: the messages are collected into
the prompt store, the daemon is asked when something is missing, and the
answers are handed out message by message.  Memory allocation is taken to
succeed.
-/
import PlasmaLogin.Mealy
import PlasmaLogin.PamData

namespace PlasmaLogin

/-- `PAM_MAX_NUM_MSG`. -/
def pamMaxNumMsg : Nat := 32

/-- One call of the conversation function: the messages PAM passes, and what
`HelperApp::request` would return for a request, `none` when the daemon never
replies. -/
structure Conversation where
  msgs : List PamMessage
  reply : Request → Option Request

/-- How a conversation ends. -/
inductive ConvResult where
  | convErr
  | blocked
  | success (responses : List QByteArray)
deriving DecidableEq, Repr

namespace PamBackend

/-- The locals of the collecting loop with the frames it has sent. -/
structure Collected where
  data : PamData
  newRequest : Bool := false
  frames : List HelperFrame := []

/-- One turn of the collecting loop. -/
def collectMessage (predict : Bool) (c : Collected) (msg : PamMessage) :
    Collected :=
  match msg.style with
  | .promptEchoOff | .promptEchoOn =>
      let r := c.data.insertPrompt msg predict
      { c with data := r.1, newRequest := r.2 }
  | .errorMsg =>
      { c with frames := c.frames ++ [.error msg.text .authentication] }
  | .textInfo =>
      let r := c.data.handleInfo msg predict
      { c with data := r.1, frames := c.frames ++ [.info msg.text r.2] }
  | .other _ => c

/-- The collecting loop; only a single message is followed by a prediction. -/
def collect (d : PamData) (msgs : List PamMessage) : Collected :=
  msgs.foldl (collectMessage (msgs.length = 1)) { data := d }

/-- The answering loop. -/
def respond (d : PamData) : List PamMessage → List QByteArray × PamData
  | [] => ([], d)
  | msg :: rest =>
      let r := d.getResponse msg
      let t := respond r.2 rest
      (r.1 :: t.1, t.2)

/-- Whether PAM passed a number of messages `converse` accepts. -/
def acceptsCount (msgs : List PamMessage) : Bool :=
  0 < msgs.length && msgs.length ≤ pamMaxNumMsg

/-- The request a conversation sends to the daemon, if it sends one. -/
def sentRequest (d : PamData) (msgs : List PamMessage) : Option Request :=
  let c := collect d msgs
  if acceptsCount msgs && c.newRequest && c.data.getRequest.valid then
    some c.data.getRequest
  else none

/-- `PamBackend::converse`: the store afterwards, the frames sent and the
result. -/
def converse (d : PamData) (conv : Conversation) :
    PamData × List HelperFrame × ConvResult :=
  if !acceptsCount conv.msgs then (d, [], .convErr)
  else
    let c := collect d conv.msgs
    let sent := c.data.getRequest
    if c.newRequest && sent.valid then
      let frames := c.frames ++ [.request sent]
      match conv.reply sent with
      | none => (c.data, frames, .blocked)
      | some received =>
          if !received.valid then (c.data, frames, .convErr)
          else
            let r := respond (c.data.completeRequest received) conv.msgs
            (r.2, frames, .success r.1)
    else
      let r := respond c.data conv.msgs
      (r.2, c.frames, .success r.1)

end PamBackend

/-- The prompt store under any sequence of conversations; the outputs are the
frames sent to the daemon. -/
def pamMachine : Mealy.Machine PamData Conversation HelperFrame where
  enabled _ _ := True
  step d conv :=
    let r := PamBackend.converse d conv
    (r.1, r.2.1)

namespace PamBackend

open PamData

theorem collectMessage_wellFormed {c : Collected}
    (hc : c.data.WellFormed) (predict : Bool) (msg : PamMessage) :
    (collectMessage predict c msg).data.WellFormed := by
  unfold collectMessage
  split
  · exact hc.insertPrompt msg predict
  · exact hc.insertPrompt msg predict
  · exact hc
  · exact hc.handleInfo msg predict
  · exact hc

theorem foldl_collectMessage_wellFormed {predict : Bool}
    (msgs : List PamMessage) {c : Collected} (hc : c.data.WellFormed) :
    (msgs.foldl (collectMessage predict) c).data.WellFormed := by
  induction msgs generalizing c with
  | nil => exact hc
  | cons msg rest ih => exact ih (collectMessage_wellFormed hc predict msg)

theorem collect_wellFormed {d : PamData} (hd : d.WellFormed)
    (msgs : List PamMessage) : (collect d msgs).data.WellFormed :=
  foldl_collectMessage_wellFormed msgs hd

theorem respond_wellFormed {d : PamData} (hd : d.WellFormed)
    (msgs : List PamMessage) : (respond d msgs).2.WellFormed := by
  induction msgs generalizing d with
  | nil => exact hd
  | cons msg rest ih => exact ih (hd.getResponse msg)

/-- A request that is sent is the store it was collected into. -/
theorem sentRequest_eq_some {d : PamData} {msgs : List PamMessage}
    {r : Request} (hr : sentRequest d msgs = some r) :
    (collect d msgs).data.sent = false ∧
      (collect d msgs).data.currentRequest = r ∧ r.valid = true := by
  simp only [sentRequest, Option.ite_none_right_eq_some, Option.some.injEq,
    Bool.and_eq_true] at hr
  obtain ⟨⟨_, hvalid⟩, rfl⟩ := hr
  obtain ⟨hsent, heq⟩ := getRequest_of_valid hvalid
  exact ⟨hsent, heq.symm, hvalid⟩

/-- The collecting loop sends no requests. -/
theorem request_mem_foldl_collectMessage {predict : Bool} {r : Request}
    (msgs : List PamMessage) {c : Collected}
    (h : HelperFrame.request r ∈
      (msgs.foldl (collectMessage predict) c).frames) :
    HelperFrame.request r ∈ c.frames := by
  induction msgs generalizing c with
  | nil => exact h
  | cons msg rest ih =>
      have hstep := ih h
      rw [collectMessage] at hstep
      split at hstep
      · exact hstep
      · exact hstep
      · simpa using hstep
      · simpa using hstep
      · exact hstep

/-- The frames of a conversation: those of the messages, then the request. -/
theorem converse_frames (d : PamData) (conv : Conversation) :
    (converse d conv).2.1 =
      if acceptsCount conv.msgs then
        (collect d conv.msgs).frames ++
          ((sentRequest d conv.msgs).map HelperFrame.request).toList
      else [] := by
  unfold converse sentRequest
  by_cases hcount : acceptsCount conv.msgs = true
  · by_cases hask : ((collect d conv.msgs).newRequest &&
        (collect d conv.msgs).data.getRequest.valid) = true
    · simp only [hcount, hask, Bool.not_true, Bool.false_eq_true, ↓reduceIte,
        Bool.true_and, Option.map_some, Option.toList_some]
      cases conv.reply (collect d conv.msgs).data.getRequest with
      | none => rfl
      | some received => cases hvalid : received.valid <;> simp [hvalid]
    · simp [hcount, hask]
  · simp [hcount]

/-- A request among the frames is the one the conversation sends. -/
theorem sentRequest_of_mem_frames {d : PamData} {conv : Conversation}
    {r : Request} (h : HelperFrame.request r ∈ (converse d conv).2.1) :
    sentRequest d conv.msgs = some r := by
  rw [converse_frames] at h
  split at h
  · rcases List.mem_append.1 h with h | h
    · exact absurd (request_mem_foldl_collectMessage conv.msgs h)
        List.not_mem_nil
    · simpa using h
  · exact absurd h List.not_mem_nil

/-- Every conversation keeps the store well formed, whatever the daemon
replies. -/
theorem converse_wellFormed {d : PamData} (hd : d.WellFormed)
    (conv : Conversation) : (converse d conv).1.WellFormed := by
  have hcollect := collect_wellFormed hd conv.msgs
  unfold converse
  split
  · exact hd
  · simp only
    split
    · split
      · exact hcollect
      · split
        · exact hcollect
        next hvalid =>
          simp only [Bool.not_eq_true, Bool.not_eq_false'] at hvalid
          exact respond_wellFormed (hcollect.completeRequest hvalid) _
    · exact respond_wellFormed hcollect _

/-- A store any sequence of conversations leads to from the empty one. -/
def Reachable (d : PamData) : Prop := pamMachine.Reachable {} d

theorem Reachable.wellFormed {d : PamData} (hd : Reachable d) :
    d.WellFormed :=
  hd.invariant wellFormed_empty fun _ conv h _ => converse_wellFormed h conv

theorem reachable_empty : Reachable {} := Mealy.Machine.Reachable.refl _ _

/-- A store without prompts is the initial one. -/
theorem Reachable.eq_empty {d : PamData} (hd : Reachable d)
    (hprompts : d.prompts = []) : d = {} := by
  have hsent : d.sent = false := by
    by_contra h
    simp only [Bool.not_eq_false] at h
    exact hd.wellFormed.sent_nonempty h hprompts
  obtain ⟨sent, ⟨ps⟩⟩ := d
  simp only [prompts] at hprompts hsent
  subst hprompts hsent
  rfl

end PamBackend

end PlasmaLogin

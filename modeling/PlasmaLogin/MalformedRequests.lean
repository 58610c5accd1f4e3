/-
What the helper makes of a reply that is no encoding of a request.  The
decoder counts the prompts it has appended, not those it could read, so only a
negative count shows.
-/
import PlasmaLogin.AuthWire
import PlasmaLogin.Converse

namespace PlasmaLogin

open DataStream

/-- `AuthPrompt::Type` of a number; the numbers without an enumerator are the
type of no prompt that is asked. -/
def PromptType.ofCode (code : Int32) : PromptType :=
  if code = 1 then .unknown
  else if code = 0x10 then .changeCurrent
  else if code = 0x11 then .changeNew
  else if code = 0x12 then .changeRepeat
  else if code = 0x80 then .loginUser
  else if code = 0x81 then .loginPassword
  else .none

theorem PromptType.ofCode_code (type : PromptType) : ofCode type.code = type := by
  cases type <;> decide

/-- A decoded prompt. -/
def WirePrompt.prompt (m : WirePrompt) : Prompt :=
  ⟨.ofCode m.type, m.response, m.message, m.hidden⟩

theorem WirePrompt.prompt_wire (p : Prompt) : p.wire.prompt = p := by
  rw [WirePrompt.prompt, Prompt.wire, PromptType.ofCode_code]

/-- A decoded request. -/
def Request.ofWire (prompts : List WirePrompt) : Request :=
  ⟨prompts.map WirePrompt.prompt⟩

/-- `HelperApp::request` after it has received a frame. -/
def HelperApp.request (payload : QByteArray) : Request :=
  let m := Msg.read .unknown ⟨payload, .ok⟩
  let response := WirePrompt.readRequest [] m.2
  if m.1 ≠ .request then {} else .ofWire response.1

namespace WirePrompt

/-- The number of prompts that bytes announce. -/
def announced (bytes : QByteArray) : Int :=
  (readInt32 ⟨bytes, .ok⟩).1.toInt

/-- The announced prompts as the loop of the decoder reads them, with what is
left. -/
def announcedPrompts (bytes : QByteArray) : List WirePrompt × DataStream :=
  readMany read (announced bytes).toNat (readInt32 ⟨bytes, .ok⟩).2

/-- Bytes that no request begins with: their number is negative, or they run
out or are corrupt before the announced prompts have been read. -/
def Malformed (bytes : QByteArray) : Prop :=
  announced bytes < 0 ∨ (announcedPrompts bytes).2.status ≠ .ok

instance (bytes : QByteArray) : Decidable (Malformed bytes) :=
  inferInstanceAs (Decidable (_ ∨ _))

/-- The decoder leaves the request alone and shows the failure. -/
def LeavesTarget (bytes : QByteArray) : Prop :=
  ∀ target, (readRequest target ⟨bytes, .ok⟩).1 = target ∧
    (readRequest target ⟨bytes, .ok⟩).2.status ≠ .ok

/-- The helper takes a reply with these bytes for no reply, and PAM hears of
the failure. -/
structure Refused (bytes : QByteArray) : Prop where
  invalid : (HelperApp.request (Msg.request.write ++ bytes)).valid = false
  convErr : ∀ (d : PamData) (msgs : List PamMessage),
    (PamBackend.sentRequest d msgs).isSome = true →
      (PamBackend.converse d ⟨msgs, fun _ =>
        some (HelperApp.request (Msg.request.write ++ bytes))⟩).2.2 = .convErr

theorem length_readMany {α : Type} (read : DataStream → α × DataStream)
    (count : Nat) (s : DataStream) :
    (readMany read count s).1.length = count := by
  induction count generalizing s with
  | zero => rfl
  | succ count ih => rw [readMany, List.length_cons, ih]

/-- The decoder accepts every number of prompts that is not negative. -/
theorem readRequest_eq (target : List WirePrompt) (bytes : QByteArray) :
    readRequest target ⟨bytes, .ok⟩ =
      if announced bytes < 0 then
        (target, (announcedPrompts bytes).2.setStatus .readCorruptData)
      else announcedPrompts bytes := by
  have hlength : ((announcedPrompts bytes).1.length : Int) =
      (announced bytes).toNat := by
    rw [announcedPrompts, length_readMany]
  change (if ((announcedPrompts bytes).1.length : Int) ≠ announced bytes then
    _ else _) = _
  rw [hlength]
  split
  next hne => rw [if_pos (by omega)]; rfl
  next heq => rw [if_neg (by omega)]; rfl

/-- An encoding is not malformed, whatever follows it. -/
theorem not_malformed_writeRequest {prompts : List WirePrompt}
    (hfits : ∀ p ∈ prompts, p.Fits) (h : prompts.length < 2 ^ 31)
    (rest : QByteArray) : ¬ Malformed (writeRequest prompts ++ rest) := by
  have hcount : (Int32.ofNat prompts.length).toInt = prompts.length :=
    Int32.toInt_ofNat_of_lt h
  have hread := reads_readInt32 (Int32.ofNat prompts.length)
    (prompts.flatMap write ++ rest) .ok
  rw [← List.append_assoc] at hread
  have hannounced : announced (writeRequest prompts ++ rest) =
      prompts.length := by
    rw [announced, writeRequest, hread, hcount]
  have hprompts : announcedPrompts (writeRequest prompts ++ rest) =
      (prompts, ⟨rest, .ok⟩) := by
    rw [announcedPrompts, hannounced, Int.toNat_natCast, writeRequest, hread]
    exact Reads.many (fun p hp => reads_read (hfits p hp)) rest .ok
  rintro (hnegative | hstatus)
  · omega
  · exact hstatus (by rw [hprompts])

theorem request_eq (bytes : QByteArray) :
    HelperApp.request (Msg.request.write ++ bytes) =
      .ofWire (readRequest [] ⟨bytes, .ok⟩).1 := by
  have hread := Msg.reads_read .unknown (m := .request) (by decide) bytes .ok
  rw [HelperApp.request, hread]
  rfl

theorem valid_ofWire (prompts : List WirePrompt) :
    (Request.ofWire prompts).valid = false ↔ prompts = [] := by
  simp [Request.ofWire, Request.valid]

end WirePrompt

/-- A conversation that needs a reply and gets an invalid one fails. -/
theorem PamBackend.converse_of_invalid {d : PamData} {conv : Conversation}
    {sent received : Request} (hsent : sentRequest d conv.msgs = some sent)
    (hreply : conv.reply sent = some received)
    (hinvalid : received.valid = false) :
    (converse d conv).2.2 = .convErr := by
  simp only [sentRequest, Option.ite_none_right_eq_some, Option.some.injEq,
    Bool.and_eq_true] at hsent
  obtain ⟨⟨⟨hcount, hnew⟩, hvalid⟩, rfl⟩ := hsent
  unfold converse
  simp [hcount, hnew, hvalid, hreply, hinvalid]

namespace WirePrompt

/-- Without prompts the conversation fails. -/
theorem refused_iff (bytes : QByteArray) :
    Refused bytes ↔ (readRequest [] ⟨bytes, .ok⟩).1 = [] := by
  constructor
  · intro h
    have hinvalid := h.invalid
    rwa [request_eq, valid_ofWire] at hinvalid
  · intro h
    have hinvalid :
        (HelperApp.request (Msg.request.write ++ bytes)).valid = false := by
      rwa [request_eq, valid_ofWire]
    refine ⟨hinvalid, fun d msgs hneeded => ?_⟩
    obtain ⟨sent, hsent⟩ := Option.isSome_iff_exists.1 hneeded
    exact PamBackend.converse_of_invalid hsent rfl hinvalid

/-- A number that is cut off reads as zero. -/
theorem announced_of_short {bytes : QByteArray} (h : bytes.length < 4) :
    announced bytes = 0 := by
  have hblock : (readBlock 4 ⟨bytes, .ok⟩).1.length ≠ 4 := by
    change (bytes.take 4).length ≠ 4
    rw [List.length_take]
    omega
  rw [announced, readInt32, readUInt32]
  simp only [if_neg hblock]
  decide

theorem malformed_of_zero {bytes : QByteArray} (hmalformed : Malformed bytes)
    (hzero : announced bytes = 0) : bytes.length < 4 := by
  rcases hmalformed with hnegative | hstatus
  · omega
  · by_contra hlong
    apply hstatus
    rw [announcedPrompts, hzero]
    change (readBlock 4 ⟨bytes, .ok⟩).2.status = .ok
    simp only [readBlock, if_neg hlong]

end WirePrompt

open WirePrompt in
/-- A malformed request is rejected whole if and only if the number it begins
with is negative; the helper, which decodes into an empty request, also
refuses one whose number is cut off. -/
theorem malformed_rejected_iff {bytes : QByteArray} (h : Malformed bytes) :
    (LeavesTarget bytes ∧ Refused bytes ↔ announced bytes < 0) ∧
      (Refused bytes ↔ announced bytes < 0 ∨ bytes.length < 4) := by
  have hlength : (announcedPrompts bytes).1.length = (announced bytes).toNat :=
    length_readMany read _ _
  have hrefused : Refused bytes ↔ announced bytes < 0 ∨ bytes.length < 4 := by
    rw [refused_iff, readRequest_eq]
    split
    next hnegative => exact ⟨fun _ => Or.inl hnegative, fun _ => rfl⟩
    next hcount =>
      rw [← List.length_eq_zero_iff, hlength]
      constructor
      · exact fun hzero => Or.inr (malformed_of_zero h (by omega))
      · rintro (hnegative | hshort)
        · exact absurd hnegative hcount
        · rw [announced_of_short hshort]
          rfl
  refine ⟨⟨fun ⟨htarget, _⟩ => ?_, fun hnegative => ⟨fun target => ?_, ?_⟩⟩,
    hrefused⟩
  · by_contra hcount
    have hsame := (htarget (⟨0, [], false, []⟩ :: (announcedPrompts bytes).1)).1
    rw [readRequest_eq, if_neg hcount] at hsame
    exact absurd (congrArg List.length hsame) (by simp)
  · rw [readRequest_eq, if_pos hnegative]
    exact ⟨rfl, setStatus_status_ne_ok (by decide) _⟩
  · exact hrefused.2 (Or.inl hnegative)

/-- A request that announces one prompt and ends inside its response. -/
def WirePrompt.cutResponse : QByteArray :=
  writeInt32 1 ++ writeInt32 PromptType.loginPassword.code ++
    writeString "Password: " ++ writeBool true ++ writeInt32 6

open WirePrompt in
/-- A negative number. -/
theorem malformed_rejected_negative :
    LeavesTarget (writeInt32 (-1)) ∧ Refused (writeInt32 (-1)) :=
  (malformed_rejected_iff (by decide)).1.2 (by decide)

open WirePrompt in
/-- A reply that is cut off inside the password is taken for one with an empty
password, and it even repeats the question. -/
theorem malformed_not_rejected :
    (¬ ∀ bytes, Malformed bytes → LeavesTarget bytes ∧ Refused bytes) ∧
      HelperApp.request (Msg.request.write ++ cutResponse) =
        ⟨[.ask .loginPassword "Password: " true]⟩ := by
  have hread : HelperApp.request (Msg.request.write ++ cutResponse) =
      ⟨[.ask .loginPassword "Password: " true]⟩ := by decide
  refine ⟨fun hall => ?_, hread⟩
  have hrefused := (hall cutResponse (by decide)).2
  exact absurd hrefused.invalid (by rw [hread]; decide)

end PlasmaLogin

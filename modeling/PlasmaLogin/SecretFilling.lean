/-
Which secret the daemon puts into which prompt of a request.  It answers by
the number of prompts, the helper builds the list by guessed type; the two
agree exactly on requests that name the user first or ask for one secret.
-/
import PlasmaLogin.Converse
import PlasmaLogin.DisplayRuns

namespace PlasmaLogin

open PamBackend

namespace Display

/-- The reply among the effects of a slot. -/
def requestReply : List DisplayEffect → Option Request :=
  List.findSome? fun e =>
    match e with
    | .helperReply (.request reply) => some reply
    | _ => none

/-- The answer a display gives to the prompt at a position of a request that
has just arrived. -/
def answerAt (d : Display) (r : Request) (i : Nat) : Option QByteArray :=
  (requestReply (d.dataPending (.request r)).2).bind fun reply =>
    (reply.prompts[i]?).map Prompt.response

/-- Two displays that differ in a secret only answer a prompt alike unless
the secret belongs there: the pass phrase into prompts that are not shown,
the user name into prompts for a user name. -/
structure SecretsConfined (r : Request) : Prop where
  passPhrase : ∀ d d' : Display, d.auth.user = d'.auth.user →
    ∀ i p, r.prompts[i]? = some p → p.hidden = false →
      d.answerAt r i = d'.answerAt r i
  user : ∀ d d' : Display, d.passPhrase = d'.passPhrase →
    ∀ i p, r.prompts[i]? = some p → p.type ≠ .loginUser →
      d.answerAt r i = d'.answerAt r i

/-- A request that arrives is answered with the prompts `slotRequestChanged`
fills in. -/
theorem requestReply_request (d : Display) (r : Request) :
    requestReply (d.dataPending (.request r)).2 =
      (fillPrompts d.auth.user d.passPhrase r.prompts).map Request.mk := by
  simp only [dataPending, slotRequestChanged, AuthRequest.setRequest]
  cases fillPrompts d.auth.user d.passPhrase r.prompts with
  | none => rfl
  | some ps => simp [requestReply, AuthRequest.done]

theorem answerAt_eq (d : Display) (r : Request) (i : Nat) :
    d.answerAt r i =
      (fillPrompts d.auth.user d.passPhrase r.prompts).bind fun ps =>
        (ps[i]?).map Prompt.response := by
  rw [answerAt, requestReply_request, Option.bind_map]
  rfl

theorem answerAt_one (d : Display) (p : Prompt) :
    d.answerAt ⟨[p]⟩ 0 = some d.passPhrase.qPrintable := by
  simp [answerAt_eq, fillPrompts]

theorem answerAt_two_first (d : Display) (p q : Prompt) :
    d.answerAt ⟨[p, q]⟩ 0 = some d.auth.user.qPrintable := by
  simp [answerAt_eq, fillPrompts]

theorem answerAt_two_second (d : Display) (p q : Prompt) :
    d.answerAt ⟨[p, q]⟩ 1 = some d.passPhrase.qPrintable := by
  simp [answerAt_eq, fillPrompts]

theorem answerAt_other (d : Display) {r : Request}
    (hr : r.prompts = [] ∨ 3 ≤ r.prompts.length) (i : Nat) :
    d.answerAt r i = none := by
  rw [answerAt_eq]
  match hprompts : r.prompts, hr with
  | [], _ => simp [fillPrompts]
  | [_], h => simp at h
  | [_, _], h => simp at h
  | _ :: _ :: _ :: _, _ => simp [fillPrompts]

/-- A display with a given user name and pass phrase. -/
def holding (user passPhrase : QString) : Display :=
  { auth := { id := 1, user := user }, passPhrase := passPhrase,
    seatName := "seat0" }

theorem secretsConfined_one_iff (p : Prompt) :
    SecretsConfined ⟨[p]⟩ ↔ p.hidden = true := by
  constructor
  · intro h
    by_contra hhidden
    simp only [Bool.not_eq_true] at hhidden
    have hsame := h.passPhrase (holding [] []) (holding [] "x") rfl 0 p rfl
      hhidden
    simp only [answerAt_one] at hsame
    exact absurd hsame (by decide)
  · intro hhidden
    constructor
    · intro d d' _ i q hq hshown
      cases i with
      | zero =>
          obtain rfl : p = q := by simpa using hq
          exact absurd hshown (by simp [hhidden])
      | succ i => simp at hq
    · intro d d' hphrase i q hq _
      cases i with
      | zero => rw [answerAt_one, answerAt_one, hphrase]
      | succ i => simp at hq

theorem secretsConfined_two_iff (p q : Prompt) :
    SecretsConfined ⟨[p, q]⟩ ↔ p.type = .loginUser ∧ q.hidden = true := by
  constructor
  · intro h
    constructor
    · by_contra htype
      have hsame := h.user (holding [] []) (holding "x" []) rfl 0 p rfl htype
      simp only [answerAt_two_first] at hsame
      exact absurd hsame (by decide)
    · by_contra hhidden
      simp only [Bool.not_eq_true] at hhidden
      have hsame := h.passPhrase (holding [] []) (holding [] "x") rfl 1 q rfl
        hhidden
      simp only [answerAt_two_second] at hsame
      exact absurd hsame (by decide)
  · rintro ⟨htype, hhidden⟩
    constructor
    · intro d d' huser i s hs hshown
      match i with
      | 0 => rw [answerAt_two_first, answerAt_two_first, huser]
      | 1 =>
          obtain rfl : q = s := by simpa using hs
          exact absurd hshown (by simp [hhidden])
      | i + 2 => simp at hs
    · intro d d' hphrase i s hs hother
      match i with
      | 0 =>
          obtain rfl : p = s := by simpa using hs
          exact absurd htype hother
      | 1 => rw [answerAt_two_second, answerAt_two_second, hphrase]
      | i + 2 => simp at hs

theorem secretsConfined_other {r : Request}
    (hr : r.prompts = [] ∨ 3 ≤ r.prompts.length) : SecretsConfined r where
  passPhrase d d' _ i _ _ _ := by
    rw [d.answerAt_other hr, d'.answerAt_other hr]
  user d d' _ i _ _ _ := by
    rw [d.answerAt_other hr, d'.answerAt_other hr]

end Display

/-- A request that is sent is as well formed as the store. -/
theorem PamBackend.sentRequest_wellFormed {d : PamData} (hd : d.WellFormed)
    {msgs : List PamMessage} {r : Request}
    (hr : sentRequest d msgs = some r) :
    (∀ p ∈ r.prompts, p.hidden = true ↔ p.type ≠ .loginUser) ∧
      (r.prompts.map Prompt.type).Nodup := by
  have hcollect := collect_wellFormed hd msgs
  obtain ⟨_, rfl, _⟩ := sentRequest_eq_some hr
  exact ⟨hcollect.hidden_iff, hcollect.types_nodup⟩

open Display in
/-- The answers to a request of the helper keep the secrets where they belong
if and only if a lone prompt does not ask for the user name and the first of
two prompts does. -/
theorem slotRequestChanged_confined_iff {d : PamData} (hd : Reachable d)
    {msgs : List PamMessage} {r : Request}
    (hr : sentRequest d msgs = some r) :
    SecretsConfined r ↔
      (∀ p, r.prompts = [p] → p.type ≠ .loginUser) ∧
        ∀ p q, r.prompts = [p, q] → p.type = .loginUser := by
  obtain ⟨hhidden, hnodup⟩ := sentRequest_wellFormed hd.wellFormed hr
  obtain ⟨ps⟩ := r
  match ps with
  | [] => exact iff_of_true (secretsConfined_other (Or.inl rfl)) (by simp)
  | [p] =>
      rw [secretsConfined_one_iff, hhidden p (by simp)]
      simp
  | [p, q] =>
      have hq : p.type = .loginUser → q.hidden = true := by
        intro hp
        rw [hhidden q (by simp)]
        intro hsame
        simp [hp, hsame] at hnodup
      rw [secretsConfined_two_iff]
      simpa using hq
  | p :: q :: s :: rest =>
      exact iff_of_true (secretsConfined_other (Or.inr (by simp))) (by simp)

open Display in
/-- The predicted login request. -/
theorem slotRequestChanged_confined_login : SecretsConfined loginRequest :=
  (slotRequestChanged_confined_iff reachable_empty
    (show sentRequest {} [⟨.promptEchoOn, "login: "⟩] = some loginRequest by
      decide)).2
    (by simp [loginRequest, Prompt.ask])

open Display in
/-- A lone prompt for a new password is taken for a change of password, and
its first prompt gets the user name. -/
theorem slotRequestChanged_not_confined :
    ¬ ∀ (d : PamData) (msgs : List PamMessage) (r : Request), Reachable d →
      sentRequest d msgs = some r → SecretsConfined r := by
  intro hall
  have hconfined := hall {} [⟨.promptEchoOff, "New password: "⟩]
    changePassNoOldRequest reachable_empty (by decide)
  have hsame := hconfined.user (holding [] []) (holding "x" []) rfl 0
    (.ask .changeNew "New password: " true) rfl (by decide)
  exact absurd hsame (by decide)

end PlasmaLogin

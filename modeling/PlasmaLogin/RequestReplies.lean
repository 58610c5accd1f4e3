/-
The daemon's side of a request.  `AuthRequest` calls itself: the slot that is
told of new prompts answers them, finishing them sends the reply and clears
the prompts, and that is announced again.  The second announcement finds no
prompts, so one request is answered once or not at all.
-/
import PlasmaLogin.Attempts
import PlasmaLogin.PamData

namespace PlasmaLogin

open Mealy

namespace Display

/-- The prompts of the request being answered. -/
def setPrompts (ps : List Prompt) (d : Display) : Display :=
  { d with auth := { d.auth with
    request := { d.auth.request with prompts := ps } } }

/-- `Auth::Private::requestFinished`: the reply is sent, then the prompts are
cleared, which `announce` reports. -/
def requestFinished (announce : Display → Display × List DisplayEffect)
    (d : Display) : Display × List DisplayEffect :=
  andThen (d, [.helperReply (.request ⟨d.auth.request.prompts⟩)])
    fun d => announce (d.setPrompts [])

/-- `AuthRequest::done` with the slot of its signal. -/
def requestDone (announce : Display → Display × List DisplayEffect)
    (d : Display) : Display × List DisplayEffect :=
  if d.auth.request.finished then (d, [])
  else
    requestFinished announce { d with auth := { d.auth with
      request := { d.auth.request with finished := true } } }

/-- `AuthRequest::promptsChanged` with its slot, to a depth of nesting. -/
def promptsChanged : Nat → Display → Display × List DisplayEffect
  | 0, d => (d, [])
  | depth + 1, d =>
      match fillPrompts d.auth.user d.passPhrase d.auth.request.prompts with
      | none => (d, [])
      | some ps => requestDone (promptsChanged depth) (d.setPrompts ps)

/-- Cleared prompts are announced to no effect. -/
theorem promptsChanged_cleared (depth : Nat) (d : Display) :
    promptsChanged depth (d.setPrompts []) = (d.setPrompts [], []) := by
  rcases depth with _ | depth
  · rfl
  · rfl

theorem requestDone_promptsChanged (depth : Nat) (d : Display) :
    requestDone (promptsChanged depth) d =
      ({ d with auth := { d.auth with request := d.auth.request.done.1 } },
        (d.auth.request.done.2.map fun reply =>
          .helperReply (.request reply)).toList) := by
  by_cases hfinished : d.auth.request.finished = true
  · rw [requestDone, AuthRequest.done, if_pos hfinished, if_pos hfinished]
    rfl
  · rw [requestDone, AuthRequest.done, if_neg hfinished, if_neg hfinished,
      requestFinished, andThen, promptsChanged_cleared]
    rfl

/-- The nested announcement ends the recursion: however deep it may go, the
slot answers once. -/
theorem promptsChanged_eq (depth : Nat) (d : Display) :
    promptsChanged (depth + 1) d = d.slotRequestChanged := by
  rw [promptsChanged, slotRequestChanged]
  cases fillPrompts d.auth.user d.passPhrase d.auth.request.prompts with
  | none => rfl
  | some ps => exact requestDone_promptsChanged depth (d.setPrompts ps)

/-- The frames a slot sends to the helper. -/
def helperReplies (effects : List DisplayEffect) : List DaemonFrame :=
  effects.filterMap fun
    | .helperReply frame => some frame
    | _ => none

@[simp] theorem helperReplies_append (xs ys : List DisplayEffect) :
    helperReplies (xs ++ ys) = helperReplies xs ++ helperReplies ys :=
  List.filterMap_append

theorem mem_helperReplies {frame : DaemonFrame} {xs : List DisplayEffect} :
    frame ∈ helperReplies xs ↔ .helperReply frame ∈ xs := by
  rw [helperReplies, List.mem_filterMap]
  constructor
  · rintro ⟨x, hx, hframe⟩
    cases x <;> simp_all
  · intro hmem
    exact ⟨_, hmem, rfl⟩

theorem helperReplies_eq_nil {xs : List DisplayEffect}
    (h : ∀ x ∈ xs, x.kind ≠ .reply) : helperReplies xs = [] := by
  rw [helperReplies, List.filterMap_eq_nil_iff]
  intro x hx
  have hkind := h x hx
  cases x <;> first | rfl | exact absurd rfl hkind

/-- Only a frame of the helper is replied to. -/
theorem helperReplies_answer (d : Display) {e : DisplayEvent}
    (he : ∀ frame, e ≠ .helperFrame frame) :
    helperReplies (d.answer e).2 = [] := by
  apply helperReplies_eq_nil
  intro x hx hreply
  have hkinds := answer_kinds d e x hx
  rw [hreply] at hkinds
  cases e with
  | helperFrame frame => exact he frame rfl
  | _ => simp [DisplayEvent.kinds] at hkinds

theorem helperReplies_slotAuthenticationFinished (success : Bool)
    (d : Display) :
    helperReplies (d.slotAuthenticationFinished success).2 = [] := by
  apply helperReplies_eq_nil
  intro x hx hreply
  rcases slotAuthenticationFinished_kinds success d x hx with hkind |
    ⟨_, hkind⟩
  · rw [hkind] at hreply
    exact absurd hreply (by decide)
  · rw [hkind] at hreply
    exact absurd hreply (by decide)

theorem helperReplies_slotAuthError (message : QString) (error : AuthError)
    (d : Display) : helperReplies (d.slotAuthError message error) = [] := by
  apply helperReplies_eq_nil
  intro x hx hreply
  rcases slotAuthError_kinds message error d x hx with hkind | ⟨_, hkind⟩
  · rw [hkind] at hreply
    exact absurd hreply (by decide)
  · rw [hkind] at hreply
    exact absurd hreply (by decide)

/-- A request is answered with the prompts the slot fills in, if it does. -/
theorem helperReplies_request (d : Display) (r : Request) :
    helperReplies (d.dataPending (.request r)).2 =
      ((fillPrompts d.auth.user d.passPhrase r.prompts).map fun ps =>
        .request ⟨ps⟩).toList := by
  simp only [dataPending, slotRequestChanged, AuthRequest.setRequest]
  cases fillPrompts d.auth.user d.passPhrase r.prompts with
  | none => rfl
  | some ps => rfl

theorem helperReplies_authenticated (d : Display) (user : QString) :
    helperReplies (d.dataPending (.authenticated user)).2 =
      if user.isEmpty then [] else [.authenticated d.auth.environment] := by
  rw [dataPending_authenticated]
  split
  · exact helperReplies_slotAuthenticationFinished false d
  · have hkept := (quiet_slotAuthenticationFinished true
      { d with auth := d.auth.setUser user }).kept.environment
    rw [andThen_snd, helperReplies_append,
      helperReplies_slotAuthenticationFinished, hkept]
    rfl

/-- The reply to a frame, for each kind of frame. -/
theorem helperReplies_dataPending (d : Display) (frame : HelperFrame) :
    helperReplies (d.dataPending frame).2 =
      match frame with
      | .error _ _ | .info _ _ | .unexpected _ => []
      | .request r =>
          ((fillPrompts d.auth.user d.passPhrase r.prompts).map fun ps =>
            .request ⟨ps⟩).toList
      | .authenticated user =>
          if user.isEmpty then [] else [.authenticated d.auth.environment]
      | .sessionStatus _ => [.sessionStatus]
      | .displayServerStarted _ => [.displayServerStarted] := by
  cases frame with
  | error message type => exact helperReplies_slotAuthError message type d
  | info message type =>
      simp only [dataPending, slotAuthInfo]
      cases d.socket <;> rfl
  | request r => exact helperReplies_request d r
  | authenticated user => exact helperReplies_authenticated d user
  | sessionStatus status => rfl
  | displayServerStarted name => rfl
  | unexpected msg => exact helperReplies_slotAuthError _ .internal d

/-- A reply repeats the questions it answers. -/
theorem fillPrompts_sameQuestions {user passPhrase : QString}
    {ps answers : List Prompt}
    (h : fillPrompts user passPhrase ps = some answers) :
    PamData.repliesTo ⟨answers⟩ ⟨ps⟩ = true := by
  rcases ps with _ | ⟨p, _ | ⟨q, _ | ⟨s, rest⟩⟩⟩
  · simp [fillPrompts] at h
  · obtain rfl : _ = answers := by simpa [fillPrompts] using h
    simp [PamData.repliesTo, Prompt.sameQuestion]
  · obtain rfl : _ = answers := by simpa [fillPrompts] using h
    simp [PamData.repliesTo, Prompt.sameQuestion]
  · simp [fillPrompts] at h

/-- Only requests of one or two prompts are answered. -/
theorem fillPrompts_isSome (user passPhrase : QString) (ps : List Prompt) :
    (fillPrompts user passPhrase ps).isSome = true ↔
      ps.length = 1 ∨ ps.length = 2 := by
  rcases ps with _ | ⟨p, _ | ⟨q, _ | ⟨s, rest⟩⟩⟩ <;>
    simp [fillPrompts]

end Display

end PlasmaLogin

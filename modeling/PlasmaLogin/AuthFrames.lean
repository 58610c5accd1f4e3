/-
The loop of `Auth::Private::dataPending`, from the bytes of each frame to the
signals and replies they cause.  Decoding an operation code that is none fails
and leaves the variable of the loop as the frame before it has.
-/
import PlasmaLogin.Auth
import PlasmaLogin.MalformedRequests
import PlasmaLogin.Mealy

namespace PlasmaLogin

open DataStream Mealy

/-- What the loop does for a frame: signals of `Auth` and frames sent back. -/
inductive AuthEffect where
  | error (message : QString) (type : AuthError)
  | info (message : QString) (type : AuthInfo)
  | requestChanged
  | authentication (user : QString) (success : Bool)
  | sessionStarted (status : Bool)
  | displayServerReady (displayName : QString)
  | reply (m : Message)

/-- The loop's variable and the `Auth` it works for. -/
structure PendingLoop where
  m : Msg := .unknown
  auth : Auth

namespace PendingLoop

/-- The text of the default case. -/
def unexpected (m : Msg) : QString :=
  ("Auth: Unexpected value received: " : QString) ++
    QString.decimal m.code.toNat

/-- The cases of the loop, for what has been read with the operation code. -/
def dispatch (loop : PendingLoop) :
    Option Message → PendingLoop × List AuthEffect
  | some (.error message type) => (loop, [.error message type])
  | some (.info message type) => (loop, [.info message type])
  | some (.request prompts) =>
      ({ loop with auth := { loop.auth with
          request := loop.auth.request.setRequest (.ofWire prompts) } },
        [.requestChanged])
  | some (.authenticated user) =>
      if user.isEmpty then (loop, [.authentication user false])
      else ({ loop with auth := loop.auth.setUser user },
        [.authentication user true,
          .reply (.environment loop.auth.environment)])
  | some (.sessionStatus status) =>
      (loop, [.sessionStarted status, .reply .sessionStatusReply])
  | some (.displayServerStarted displayName) =>
      (loop, [.displayServerReady displayName,
        .reply .displayServerStartedReply])
  | _ => (loop, [.error (unexpected loop.m) .internal])

/-- One turn of the loop, with the payload `receive` leaves in the stream. -/
def turn (loop : PendingLoop) (payload : QByteArray) :
    PendingLoop × List AuthEffect :=
  let m := Msg.read loop.m ⟨payload, .ok⟩
  dispatch { loop with m := m.1 } (Receiver.readFrame m.1 m.2).1

end PendingLoop

/-- The loop on the frames of one call. -/
def pendingMachine : Machine PendingLoop QByteArray AuthEffect where
  enabled _ _ := True
  step := PendingLoop.turn

namespace PendingLoop

/-- The operation code a payload begins with. -/
def opcode (payload : QByteArray) : Int :=
  (readInt32 ⟨payload, .ok⟩).1.toInt

/-- Whether that is a message code of the protocol. -/
def isKnown (payload : QByteArray) : Bool :=
  0 < opcode payload && opcode payload < 8

/-- The code of the last of some payloads to have one. -/
def lastKnown (payloads : List QByteArray) : Msg :=
  ((payloads.filter isKnown).getLast?.map fun payload =>
    Msg.ofCode (opcode payload)).getD .unknown

/-- The stream behind an operation code that could not be decoded. -/
def afterUnknown (payload : QByteArray) : DataStream :=
  (readInt32 ⟨payload, .ok⟩).2.setStatus .readCorruptData

/-- A payload that goes on with a text and the kind of an internal error. -/
def spellsInternal (payload : QByteArray) : Bool :=
  (AuthError.read .none (readString (afterUnknown payload)).2).1 = .internal

/-- A turn that reports an operation code that is none, and nothing else. -/
def Refuses (st : Step PendingLoop QByteArray AuthEffect) : Prop :=
  isKnown st.event = false → ∃ text, st.outputs = [.error text .internal]

theorem read_eq (m : Msg) (payload : QByteArray) :
    (Msg.read m ⟨payload, .ok⟩).1 =
      if isKnown payload then Msg.ofCode (opcode payload) else m := by
  change (if (decide (opcode payload ≥ 8) || decide (opcode payload ≤ 0)) = true
    then ((m, _) : Msg × DataStream) else _).1 = _
  by_cases hknown : isKnown payload = true
  · rw [if_pos hknown]
    simp only [isKnown, Bool.and_eq_true, decide_eq_true_eq] at hknown
    rw [if_neg (by simp only [Bool.or_eq_true, decide_eq_true_eq]; omega)]
    rfl
  · rw [if_neg hknown]
    simp only [isKnown, Bool.and_eq_true, decide_eq_true_eq] at hknown
    rw [if_pos (by simp only [Bool.or_eq_true, decide_eq_true_eq]; omega)]

theorem read_of_not_isKnown (m : Msg) {payload : QByteArray}
    (h : isKnown payload = false) :
    Msg.read m ⟨payload, .ok⟩ = (m, afterUnknown payload) := by
  simp only [isKnown, Bool.and_eq_false_iff, decide_eq_false_iff_not] at h
  change (if (decide (opcode payload ≥ 8) || decide (opcode payload ≤ 0)) = true
    then ((m, _) : Msg × DataStream) else _) = _
  rw [if_pos (by simp only [Bool.or_eq_true, decide_eq_true_eq]; omega)]
  rfl

@[simp] theorem dispatch_m (loop : PendingLoop) (message : Option Message) :
    (loop.dispatch message).1.m = loop.m := by
  unfold dispatch
  split
  · rfl
  · rfl
  · rfl
  · split <;> rfl
  · rfl
  · rfl
  · rfl

/-- The variable holds the last code that was one. -/
theorem exec_m (auth : Auth) (payloads : List QByteArray) :
    (pendingMachine.exec ⟨.unknown, auth⟩ payloads).m = lastKnown payloads := by
  induction payloads using List.reverseRecOn with
  | nil => rfl
  | append_singleton payloads payload ih =>
      have hturn : (pendingMachine.exec ⟨.unknown, auth⟩
          (payloads ++ [payload])).m =
            if isKnown payload then Msg.ofCode (opcode payload)
            else lastKnown payloads := by
        rw [Machine.exec_concat, ← ih, ← read_eq]
        exact dispatch_m _ _
      rw [hturn, lastKnown, lastKnown, List.filter_append]
      by_cases hknown : isKnown payload = true
      · simp [hknown]
      · simp [hknown]

theorem turn_of_not_isKnown (loop : PendingLoop) {payload : QByteArray}
    (h : isKnown payload = false) :
    loop.turn payload =
      loop.dispatch (Receiver.readFrame loop.m (afterUnknown payload)).1 := by
  rw [turn, read_of_not_isKnown loop.m h]

/-- With the variable as it is before the turn, an operation code that is none
runs the case of that variable. -/
theorem refuses_fire_iff (loop : PendingLoop) {payload : QByteArray}
    (h : isKnown payload = false) :
    Refuses (pendingMachine.fire loop payload) ↔
      loop.m = .unknown ∨ loop.m = .hello ∨
        loop.m = .error ∧ spellsInternal payload = true := by
  have houtputs : (pendingMachine.fire loop payload).outputs =
      (loop.dispatch (Receiver.readFrame loop.m (afterUnknown payload)).1).2 :=
    congrArg Prod.snd (turn_of_not_isKnown loop h)
  have hrefuses : Refuses (pendingMachine.fire loop payload) ↔
      ∃ text, (loop.dispatch
        (Receiver.readFrame loop.m (afterUnknown payload)).1).2 =
          [.error text .internal] := by
    rw [← houtputs]
    exact ⟨fun hall => hall h, fun hexists _ => hexists⟩
  rw [hrefuses]
  cases hm : loop.m with
  | unknown => simp [Receiver.readFrame, dispatch]
  | hello => simp [Receiver.readFrame, dispatch]
  | error => simp [Receiver.readFrame, dispatch, spellsInternal]
  | info => simp [Receiver.readFrame, dispatch]
  | request => simp [Receiver.readFrame, dispatch]
  | authenticated =>
      simp only [Receiver.readFrame, dispatch]
      split <;> simp
  | sessionStatus => simp [Receiver.readFrame, dispatch]
  | displayServerStarted => simp [Receiver.readFrame, dispatch]

/-- In a call no operation code that is none follows one that is, unless that
is of a kind whose case cannot be told from the default one. -/
def UnknownFirst (payloads : List QByteArray) : Prop :=
  ∀ pre payload post, payloads = pre ++ payload :: post →
    isKnown payload = false →
      lastKnown pre = .unknown ∨ lastKnown pre = .hello ∨
        lastKnown pre = .error ∧ spellsInternal payload = true

/-- Every operation code of a call that is none causes one internal error and
nothing else if and only if the last code before it that is one was a greeting,
or an error whose parts the payload repeats, or there was none. -/
theorem steps_refuses_iff (auth : Auth) (payloads : List QByteArray) :
    (∀ st ∈ pendingMachine.steps ⟨.unknown, auth⟩ payloads, Refuses st) ↔
      UnknownFirst payloads := by
  constructor
  · rintro hall pre payload post rfl hunknown
    have hstep := hall (pendingMachine.fire
      (pendingMachine.exec ⟨.unknown, auth⟩ pre) payload)
        ((pendingMachine.mem_steps_iff _ _ _).2 ⟨pre, payload, post, rfl, rfl⟩)
    rwa [refuses_fire_iff _ hunknown, exec_m] at hstep
  · intro hfirst st hst hunknown
    obtain ⟨pre, payload, post, heq, rfl⟩ :=
      (pendingMachine.mem_steps_iff _ _ _).1 hst
    have hcase := hfirst pre payload post heq hunknown
    rw [← exec_m auth] at hcase
    exact (refuses_fire_iff _ hunknown).2 hcase hunknown

/-- A user, and then a payload with no operation code that names another. -/
def twoUsers : List QByteArray :=
  [Msg.authenticated.write ++ writeString "alice",
    writeInt32 99 ++ writeString "mallory"]

/-- The second payload authenticates the other user. -/
theorem steps_not_refuses :
    ¬ ∀ (auth : Auth) (payloads : List QByteArray),
      ∀ st ∈ pendingMachine.steps ⟨.unknown, auth⟩ payloads, Refuses st := by
  intro hall
  have hstep := hall { id := 1 } twoUsers (pendingMachine.fire
    (pendingMachine.exec ⟨.unknown, { id := 1 }⟩ (twoUsers.take 1))
      (writeInt32 99 ++ writeString "mallory")) (List.mem_of_getLast? rfl)
  obtain ⟨text, htext⟩ := hstep (by decide)
  have hlength : (pendingMachine.fire
      (pendingMachine.exec ⟨.unknown, { id := 1 }⟩ (twoUsers.take 1))
        (writeInt32 99 ++ writeString "mallory")).outputs.length = 1 :=
    congrArg List.length htext
  exact absurd hlength (by decide)

end PendingLoop

end PlasmaLogin

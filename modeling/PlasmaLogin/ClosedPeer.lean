/-
`SafeDataStream::receive` on a socket whose peer is gone.  What the peer has
sent can still be read; after that a wait ends at once and a read gets nothing,
and the loop asks for neither.
-/
import PlasmaLogin.AuthFrames
import PlasmaLogin.SafeDataStream
import PlasmaLogin.WhileLoop

namespace PlasmaLogin

open WhileLoop

namespace Device

/-- The device when `receive` reads: with nothing to read it has waited, for
the next chunk or for nothing. -/
def ready (d : Device) : Device :=
  if d.available ≠ [] then d
  else
    match d.coming with
    | [] => d
    | c :: cs => ⟨c, cs⟩

/-- `QIODevice::read` of up to `n` bytes. -/
def read (n : Nat) (d : Device) : QByteArray × Device :=
  (d.available.take n, ⟨d.available.drop n, d.coming⟩)

theorem unread_ready (d : Device) : d.ready.unread = d.unread := by
  rw [ready]
  split
  · rfl
  next hempty =>
    rw [ne_eq, not_not] at hempty
    cases hcoming : d.coming with
    | nil => simp
    | cons c cs => simp [unread, hempty, hcoming]

/-- A wait that does not last for ever is one that the peer cannot spoil. -/
theorem ready_eq_of_wait {d d' : Device} (h : d.wait = some d') :
    d.ready = d' := by
  rw [ready]
  rw [wait] at h
  by_cases havailable : d.available = []
  · rw [if_neg (not_not.2 havailable)] at h ⊢
    cases hcoming : d.coming with
    | nil => simp [hcoming] at h
    | cons c cs => simpa [hcoming] using h
  · rw [if_pos havailable] at h ⊢
    exact Option.some.inj h

theorem read_append_unread (n : Nat) (d : Device) :
    (d.read n).1 ++ (d.read n).2.unread = d.unread := by
  simp only [read, unread]
  rw [← List.append_assoc, List.take_append_drop]

end Device

namespace SafeDataStream

/-- One turn of the loop of `SafeDataStream::receive`. -/
def receiveTurn (length : Nat) (s : SafeDataStream) : SafeDataStream :=
  let r := s.device.ready.read (length - s.data.length)
  ⟨s.data ++ r.1, r.2⟩

/-- The condition of the loop. -/
def wantsMore (length : Nat) (s : SafeDataStream) : Bool :=
  s.data.length < length

/-- `SafeDataStream::receive` once the peer is gone, with whether it got to the
end of a frame, if its loop makes no more than `turns` turns. -/
def receiveClosed (order : ByteOrder) (turns : Nat) (s : SafeDataStream) :
    Option (Bool × SafeDataStream) :=
  let d := s.device.ready
  let length := order.ofMemory (lengthMemory d.available)
  let rest := (d.read 8).2
  if length < 0 then some (false, ⟨s.data, rest⟩)
  else
    (run (wantsMore length.toInt.toNat) (receiveTurn length.toInt.toNat) turns
      ⟨[], rest⟩).map (true, ·)

/-- The loop comes to an end. -/
def ReceiveEnds (order : ByteOrder) (s : SafeDataStream) : Prop :=
  ∃ turns, (receiveClosed order turns s).isSome = true

/-- The length a frame announces with the bytes that are there for it. -/
def announced (order : ByteOrder) (d : Device) : Int :=
  (order.ofMemory (lengthMemory d.ready.available)).toInt

/-- The bytes behind its header. -/
def behindHeader (d : Device) : QByteArray := (d.ready.read 8).2.unread

/-- The frame announces no more than there is. -/
def FrameComplete (order : ByteOrder) (d : Device) : Prop :=
  announced order d ≤ (behindHeader d).length

instance (order : ByteOrder) (d : Device) :
    Decidable (FrameComplete order d) :=
  inferInstanceAs (Decidable (_ ≤ _))

/-- A turn takes bytes from the device, and loses none. -/
theorem receiveTurn_append (length : Nat) (s : SafeDataStream) :
    (receiveTurn length s).data ++ (receiveTurn length s).device.unread =
      s.data ++ s.device.unread := by
  rw [receiveTurn, List.append_assoc, Device.read_append_unread,
    Device.unread_ready]

/-- With bytes to come, a turn gets nearer to them. -/
theorem receiveTurn_nearer {length : Nat} {s : SafeDataStream}
    (hmore : s.data.length < length)
    (hthere : length ≤ (s.data ++ s.device.unread).length) :
    (receiveTurn length s).device.unread.length +
        (receiveTurn length s).device.coming.length <
      s.device.unread.length + s.device.coming.length := by
  rw [List.length_append] at hthere
  simp only [receiveTurn, Device.read, Device.unread, Device.ready,
    List.length_append, List.length_drop] at hthere ⊢
  by_cases havailable : s.device.available = []
  · rw [if_neg (not_not.2 havailable)]
    rw [havailable, List.length_nil, Nat.zero_add] at hthere ⊢
    cases hcoming : s.device.coming with
    | nil =>
        rw [hcoming, List.flatten_nil, List.length_nil] at hthere
        omega
    | cons c cs =>
        simp only [List.flatten_cons, List.length_append, List.length_cons]
        omega
  · have hpos := List.length_pos_iff.2 havailable
    rw [if_pos havailable]
    omega

/-- The loop ends if and only if the announced bytes are there. -/
theorem loop_ends_iff (length : Nat) (s : SafeDataStream) :
    Ends (wantsMore length) (receiveTurn length) s ↔
      length ≤ (s.data ++ s.device.unread).length := by
  constructor
  · intro hends
    by_contra hmissing
    refine not_ends_of_invariant
      (I := fun s => (s.data ++ s.device.unread).length < length) ?_ ?_
      (Nat.lt_of_not_le hmissing) hends
    · intro s hs
      rw [List.length_append] at hs
      exact decide_eq_true (by omega)
    · intro s hs
      rwa [receiveTurn_append]
  · intro hthere
    refine ends_of_variant
      (I := fun s => length ≤ (s.data ++ s.device.unread).length)
      (fun s => s.device.unread.length + s.device.coming.length) ?_ hthere
    intro s hs hguard
    refine ⟨?_, receiveTurn_nearer (of_decide_eq_true hguard) hs⟩
    rwa [receiveTurn_append]

/-- A call that finds the peer gone returns if and only if its frame is
complete. -/
theorem receiveEnds_iff (order : ByteOrder) (s : SafeDataStream) :
    ReceiveEnds order s ↔ FrameComplete order s.device := by
  rw [ReceiveEnds, FrameComplete, announced, behindHeader]
  by_cases hnegative : order.ofMemory (lengthMemory s.device.ready.available) < 0
  · refine iff_of_true ⟨0, by rw [receiveClosed, if_pos hnegative]; rfl⟩ ?_
    rw [Int64.lt_iff_toInt_lt, Int64.toInt_zero] at hnegative
    omega
  · simp only [receiveClosed, if_neg hnegative, Option.isSome_map]
    have hiff := loop_ends_iff
      (order.ofMemory (lengthMemory s.device.ready.available)).toInt.toNat
      ⟨[], (s.device.ready.read 8).2⟩
    rw [List.nil_append, Ends] at hiff
    exact hiff.trans Int.toNat_le

/-- A chunk that has become readable, or will be with the next wait. -/
theorem endsIn_of_next {length : Nat} {data c : QByteArray}
    {cs : List QByteArray} {t : SafeDataStream} (hmore : data.length < length)
    (h : EndsIn (wantsMore length) (receiveTurn length) ⟨data, ⟨c, cs⟩⟩ t) :
    EndsIn (wantsMore length) (receiveTurn length) ⟨data, ⟨[], c :: cs⟩⟩
      t := by
  have hguard : ∀ d, wantsMore length ⟨data, d⟩ = true := fun d =>
    decide_eq_true hmore
  by_cases hc : c = []
  · apply EndsIn.turn (hguard _)
    have hturn : receiveTurn length ⟨data, ⟨[], c :: cs⟩⟩ =
        ⟨data, ⟨c, cs⟩⟩ := by
      simp [receiveTurn, Device.ready, Device.read, hc]
    rwa [hturn]
  · obtain ⟨turns, hrun⟩ := h
    have hturn : receiveTurn length ⟨data, ⟨[], c :: cs⟩⟩ =
        receiveTurn length ⟨data, ⟨c, cs⟩⟩ := by
      simp [receiveTurn, Device.ready, hc]
    cases turns with
    | zero => simp [run, hguard] at hrun
    | succ turns =>
        rw [run_succ_of_guard (hguard _)] at hrun
        exact EndsIn.turn (hguard _) ⟨turns, hturn ▸ hrun⟩

/-- A turn that finds all that is missing is the last one. -/
theorem endsIn_of_le {missing : Nat} {data available : QByteArray}
    {cs : List QByteArray} (hle : missing ≤ available.length) :
    EndsIn (wantsMore (data.length + missing))
      (receiveTurn (data.length + missing)) ⟨data, ⟨available, cs⟩⟩
      ⟨data ++ available.take missing, ⟨available.drop missing, cs⟩⟩ := by
  by_cases hzero : missing = 0
  · subst hzero
    have hdone : wantsMore (data.length + 0)
        ⟨data, ⟨available, cs⟩⟩ = false := by simp [wantsMore]
    simpa using (EndsIn.of_not hdone : EndsIn _
      (receiveTurn (data.length + 0)) _ _)
  · have hne : available ≠ [] := by
      rintro rfl
      exact hzero (Nat.le_zero.1 hle)
    apply EndsIn.turn (by simpa [wantsMore] using Nat.pos_of_ne_zero hzero)
    have hturn : receiveTurn (data.length + missing)
        ⟨data, ⟨available, cs⟩⟩ =
          ⟨data ++ available.take missing,
            ⟨available.drop missing, cs⟩⟩ := by
      simp [receiveTurn, Device.ready, Device.read, hne]
    rw [hturn]
    apply EndsIn.of_not
    simp [wantsMore, hle]

/-- As long as there is no wait for ever, the loop is the one that reads from
a peer that may go on sending. -/
theorem endsIn_of_receivePayload {missing : Nat} {data available : QByteArray}
    {cs : List QByteArray} {t : SafeDataStream}
    (h : receivePayload missing data available cs = some t) :
    EndsIn (wantsMore (data.length + missing))
      (receiveTurn (data.length + missing)) ⟨data, ⟨available, cs⟩⟩ t := by
  induction cs generalizing missing data available with
  | nil =>
      rw [receivePayload, Option.ite_none_right_eq_some, Option.some_inj] at h
      obtain ⟨hle, rfl⟩ := h
      exact endsIn_of_le hle
  | cons c cs ih =>
      rw [receivePayload] at h
      split at h
      next hle =>
        obtain rfl := Option.some.inj h
        exact endsIn_of_le hle
      next hmore =>
        have hrest := ih h
        have hlength : (data ++ available).length +
            (missing - available.length) = data.length + missing := by
          rw [List.length_append]
          omega
        rw [hlength] at hrest
        have hnext := endsIn_of_next (by rw [List.length_append]; omega) hrest
        by_cases hempty : available = []
        · simpa [hempty] using hnext
        · have hguard : wantsMore (data.length + missing)
              ⟨data, ⟨available, c :: cs⟩⟩ = true :=
            decide_eq_true (Nat.lt_add_of_pos_right (by omega))
          apply EndsIn.turn hguard
          have hturn : receiveTurn (data.length + missing)
              ⟨data, ⟨available, c :: cs⟩⟩ =
                ⟨data ++ available, ⟨[], c :: cs⟩⟩ := by
            have hall : available.length ≤ missing := by omega
            simp [receiveTurn, Device.ready, Device.read, hempty,
              List.take_of_length_le hall, List.drop_eq_nil_of_le hall]
          rwa [hturn]

/-- A call that does not wait for ever is the same whether or not the peer is
still there. -/
theorem receiveClosed_of_receive {order : ByteOrder} {s : SafeDataStream}
    {r : Bool × SafeDataStream} (h : receive order s = some r) :
    ∃ turns, receiveClosed order turns s = some r := by
  obtain ⟨d, hwait, h⟩ := Option.bind_eq_some_iff.1 h
  obtain rfl := Device.ready_eq_of_wait hwait
  simp only at h
  split at h
  next hnegative => exact ⟨0, by rwa [receiveClosed, if_pos hnegative]⟩
  next hlength =>
    obtain ⟨t, hpayload, rfl⟩ := Option.map_eq_some_iff.1 h
    obtain ⟨turns, hrun⟩ := endsIn_of_receivePayload hpayload
    rw [List.length_nil, Nat.zero_add] at hrun
    refine ⟨turns, ?_⟩
    rw [receiveClosed, if_neg hlength, Option.map_eq_some_iff]
    exact ⟨t, hrun, rfl⟩

theorem receiveClosed_mono {order : ByteOrder} {turns turns' : Nat}
    (hle : turns ≤ turns') {s : SafeDataStream} {r : Bool × SafeDataStream}
    (h : receiveClosed order turns s = some r) :
    receiveClosed order turns' s = some r := by
  rw [receiveClosed] at h ⊢
  split at h
  next hnegative => rwa [if_pos hnegative]
  next hlength =>
    obtain ⟨t, hrun, rfl⟩ := Option.map_eq_some_iff.1 h
    rw [if_neg hlength, run_mono hle hrun]
    rfl

end SafeDataStream

namespace Device

/-- The device behind the next `n` bytes. -/
def skip (n : Nat) (available : QByteArray) : List QByteArray → Device
  | [] => ⟨available.drop n, []⟩
  | c :: cs =>
      if n ≤ available.length then ⟨available.drop n, c :: cs⟩
      else skip (n - available.length) c cs

/-- The device behind a frame, or behind a header that announces none. -/
def behindFrame (order : ByteOrder) (d : Device) : Device :=
  let rest := (d.ready.read 8).2
  let length := SafeDataStream.announced order d
  if length < 0 then rest else skip length.toNat rest.available rest.coming

theorem skip_eq_of_receivePayload {missing : Nat} {data available : QByteArray}
    {cs : List QByteArray} {t : SafeDataStream}
    (h : SafeDataStream.receivePayload missing data available cs = some t) :
    t.device = skip missing available cs := by
  induction cs generalizing missing data available with
  | nil =>
      rw [SafeDataStream.receivePayload, Option.ite_none_right_eq_some,
        Option.some_inj] at h
      obtain ⟨_, rfl⟩ := h
      rfl
  | cons c cs ih =>
      rw [SafeDataStream.receivePayload] at h
      rw [skip]
      split at h
      next hle =>
        obtain rfl := Option.some.inj h
        rw [if_pos hle]
      next hmore =>
        rw [if_neg hmore]
        exact ih h

end Device

namespace SafeDataStream

/-- A call that ends leaves the device behind its frame. -/
theorem receiveClosed_device {order : ByteOrder} {turns : Nat}
    {s : SafeDataStream} {r : Bool × SafeDataStream}
    (h : receiveClosed order turns s = some r) :
    r.2.device = s.device.behindFrame order := by
  have hcomplete := (receiveEnds_iff order s).1 ⟨turns, by rw [h]; rfl⟩
  rw [receiveClosed] at h
  rw [Device.behindFrame, announced]
  split at h
  next hnegative =>
    obtain rfl := Option.some.inj h
    rw [Int64.lt_iff_toInt_lt, Int64.toInt_zero] at hnegative
    exact (if_pos hnegative).symm
  next hlength =>
    obtain ⟨t, hrun, rfl⟩ := Option.map_eq_some_iff.1 h
    rw [Int64.lt_iff_toInt_lt, Int64.toInt_zero] at hlength
    rw [if_neg hlength]
    rw [FrameComplete, announced, behindHeader] at hcomplete
    obtain ⟨t', hpayload⟩ := Option.isSome_iff_exists.1
      (receivePayload_isSome [] (Int.toNat_le.2 hcomplete))
    have hends := endsIn_of_receivePayload hpayload
    rw [List.length_nil, Nat.zero_add] at hends
    obtain rfl := EndsIn.unique ⟨turns, hrun⟩ hends
    exact Device.skip_eq_of_receivePayload hpayload

end SafeDataStream

/-- `HelperApp::request` behind its `send`, on a socket whose daemon is gone. -/
def HelperApp.requestClosed (order : ByteOrder) (turns : Nat) (d : Device) :
    Option Request :=
  (SafeDataStream.receiveClosed order turns ⟨[], d⟩).map fun r =>
    HelperApp.request r.2.data

def HelperApp.RequestEnds (order : ByteOrder) (d : Device) : Prop :=
  ∃ turns, (HelperApp.requestClosed order turns d).isSome = true

namespace PendingLoop

/-- One turn of the loop behind its `receive`, with what is left in the
stream; a reply that is sent leaves nothing. -/
def resume (loop : PendingLoop) (stream : DataStream) :
    PendingLoop × DataStream × List AuthEffect :=
  let m := Msg.read loop.m stream
  let message := Receiver.readFrame m.1 m.2
  let r := dispatch { loop with m := m.1 } message.1
  let replies := r.2.any fun
    | .reply _ => true
    | _ => false
  (r.1, if replies then ⟨[], .ok⟩ else message.2, r.2)

/-- The loop of `Auth::Private::dataPending` on a socket whose helper is gone,
if it makes no more than `calls` calls of `receive` with no more than `turns`
turns each. -/
def pendingClosed (order : ByteOrder) (turns : Nat) :
    Nat → Device → PendingLoop → DataStream →
      Option (PendingLoop × List AuthEffect × Device)
  | 0, d, loop, _ => if d.available = [] then some (loop, [], d) else none
  | calls + 1, d, loop, stream =>
      if d.available = [] then some (loop, [], d)
      else
        (SafeDataStream.receiveClosed order turns ⟨[], d⟩).bind fun r =>
          let t := loop.resume (if r.1 then ⟨r.2.data, .ok⟩ else stream)
          (pendingClosed order turns calls r.2.device t.1 t.2.1).map
            fun rest => (rest.1, t.2.2 ++ rest.2.1, rest.2.2)

def PendingEnds (order : ByteOrder) (d : Device) (loop : PendingLoop)
    (stream : DataStream) : Prop :=
  ∃ turns calls, (pendingClosed order turns calls d loop stream).isSome = true

/-- Every frame that starts with bytes to read is complete. -/
inductive FramesComplete (order : ByteOrder) : Device → Prop where
  | idle {d : Device} (h : d.available = []) : FramesComplete order d
  | frame {d : Device} (h : SafeDataStream.FrameComplete order d)
      (rest : FramesComplete order (d.behindFrame order)) :
      FramesComplete order d

/-- A turn of the loop is the one on a frame that has been received. -/
theorem resume_turn (loop : PendingLoop) (payload : QByteArray) :
    ((loop.resume ⟨payload, .ok⟩).1, (loop.resume ⟨payload, .ok⟩).2.2) =
      loop.turn payload :=
  rfl

theorem pendingClosed_isSome_succ {order : ByteOrder} {turns calls : Nat}
    {d : Device} {loop : PendingLoop} {stream : DataStream}
    (h : d.available ≠ []) :
    (pendingClosed order turns (calls + 1) d loop stream).isSome = true ↔
      ∃ r, SafeDataStream.receiveClosed order turns ⟨[], d⟩ = some r ∧
        (pendingClosed order turns calls r.2.device
          (loop.resume (if r.1 then ⟨r.2.data, .ok⟩ else stream)).1
          (loop.resume (if r.1 then ⟨r.2.data, .ok⟩ else stream)).2.1).isSome
            = true := by
  rw [pendingClosed, if_neg h]
  cases SafeDataStream.receiveClosed order turns ⟨[], d⟩ with
  | none => simp
  | some r => simp

theorem pendingClosed_isSome_mono {order : ByteOrder} {turns turns' : Nat}
    (hle : turns ≤ turns') {calls : Nat} {d : Device} {loop : PendingLoop}
    {stream : DataStream}
    (h : (pendingClosed order turns calls d loop stream).isSome = true) :
    (pendingClosed order turns' calls d loop stream).isSome = true := by
  induction calls generalizing d loop stream with
  | zero => exact h
  | succ calls ih =>
      by_cases havailable : d.available = []
      · rw [pendingClosed, if_pos havailable]
        rfl
      · rw [pendingClosed_isSome_succ havailable] at h ⊢
        obtain ⟨r, hreceived, hrest⟩ := h
        exact ⟨r, SafeDataStream.receiveClosed_mono hle hreceived, ih hrest⟩

theorem framesComplete_of_isSome {order : ByteOrder} {turns calls : Nat}
    {d : Device} {loop : PendingLoop} {stream : DataStream}
    (h : (pendingClosed order turns calls d loop stream).isSome = true) :
    FramesComplete order d := by
  induction calls generalizing d loop stream with
  | zero =>
      rw [pendingClosed] at h
      split at h
      next havailable => exact .idle havailable
      next => cases h
  | succ calls ih =>
      by_cases havailable : d.available = []
      · exact .idle havailable
      · rw [pendingClosed_isSome_succ havailable] at h
        obtain ⟨r, hreceived, hrest⟩ := h
        refine .frame ?_ ?_
        · exact (SafeDataStream.receiveEnds_iff order ⟨[], d⟩).1
            ⟨turns, by rw [hreceived]; rfl⟩
        · rw [← SafeDataStream.receiveClosed_device hreceived]
          exact ih hrest

theorem pendingEnds_of_framesComplete {order : ByteOrder} {d : Device}
    (h : FramesComplete order d) (loop : PendingLoop) (stream : DataStream) :
    PendingEnds order d loop stream := by
  induction h generalizing loop stream with
  | idle havailable =>
      exact ⟨0, 0, by rw [pendingClosed, if_pos havailable]; rfl⟩
  | @frame d hframe rest ih =>
      by_cases havailable : d.available = []
      · exact ⟨0, 0, by rw [pendingClosed, if_pos havailable]; rfl⟩
      obtain ⟨turns, hends⟩ :=
        (SafeDataStream.receiveEnds_iff order ⟨[], d⟩).2 hframe
      obtain ⟨r, hreceived⟩ := Option.isSome_iff_exists.1 hends
      obtain ⟨turns', calls, hrest⟩ := ih
        (loop.resume (if r.1 then ⟨r.2.data, .ok⟩ else stream)).1
        (loop.resume (if r.1 then ⟨r.2.data, .ok⟩ else stream)).2.1
      refine ⟨max turns turns', calls + 1, ?_⟩
      rw [pendingClosed_isSome_succ havailable]
      refine ⟨r, SafeDataStream.receiveClosed_mono
        (Nat.le_max_left ..) hreceived, ?_⟩
      rw [SafeDataStream.receiveClosed_device hreceived]
      exact pendingClosed_isSome_mono (Nat.le_max_right ..) hrest

end PendingLoop

/-- Where the peer is gone, `receive`, the helper that waits for a reply and
the daemon that takes what is pending come to an end if and only if the frames
they find are complete. -/
theorem peerGone_ends_iff (order : ByteOrder) (s : SafeDataStream)
    (loop : PendingLoop) (stream : DataStream) :
    (SafeDataStream.ReceiveEnds order s ↔
        SafeDataStream.FrameComplete order s.device) ∧
      (HelperApp.RequestEnds order s.device ↔
        SafeDataStream.FrameComplete order s.device) ∧
      (PendingLoop.PendingEnds order s.device loop stream ↔
        PendingLoop.FramesComplete order s.device) := by
  refine ⟨SafeDataStream.receiveEnds_iff order s, ?_, ?_⟩
  · have hiff := SafeDataStream.receiveEnds_iff order ⟨[], s.device⟩
    rw [← hiff]
    simp only [HelperApp.RequestEnds, HelperApp.requestClosed,
      Option.isSome_map, SafeDataStream.ReceiveEnds]
  · constructor
    · rintro ⟨turns, calls, h⟩
      exact PendingLoop.framesComplete_of_isSome h
    · intro h
      exact PendingLoop.pendingEnds_of_framesComplete h loop stream

/-- A length of four, and the peer is gone. -/
def cutFrame : Device := ⟨[4, 0, 0, 0, 0, 0, 0, 0], []⟩

theorem cutFrame_never_ends :
    ¬ SafeDataStream.ReceiveEnds .little ⟨[], cutFrame⟩ ∧
      ¬ HelperApp.RequestEnds .little cutFrame ∧
      ¬ PendingLoop.PendingEnds .little cutFrame ⟨.unknown, { id := 1 }⟩
        ⟨[], .ok⟩ := by
  have hcut : ¬ SafeDataStream.FrameComplete .little cutFrame := by
    decide +kernel
  have hreceive : ¬ SafeDataStream.ReceiveEnds .little ⟨[], cutFrame⟩ :=
    fun h =>
      hcut ((SafeDataStream.receiveEnds_iff .little ⟨[], cutFrame⟩).1 h)
  refine ⟨hreceive, ?_, ?_⟩
  · simpa only [HelperApp.RequestEnds, HelperApp.requestClosed,
      Option.isSome_map, SafeDataStream.ReceiveEnds] using hreceive
  · rintro ⟨turns, calls, h⟩
    cases PendingLoop.framesComplete_of_isSome h with
    | idle havailable => exact absurd havailable (by decide)
    | frame hframe _ => exact hcut hframe

end PlasmaLogin

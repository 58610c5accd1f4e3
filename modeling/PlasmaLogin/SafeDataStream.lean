/-
`SafeDataStream`: payloads framed by their length, written in as many pieces
as the device takes and read from chunks as they become readable.  The payload
is written and read in loops; the length is written once and read once, with
whatever that transfers.
-/
import PlasmaLogin.Chunks
import PlasmaLogin.DataStream
import Mathlib.Data.List.Induction

namespace PlasmaLogin

open DataStream

namespace DataStream

theorem ofBigEndian_concat (bytes : QByteArray) (b : UInt8) :
    ofBigEndian (bytes ++ [b]) = ofBigEndian bytes * 256 + b.toNat := by
  simp [ofBigEndian]

theorem ofBigEndian_lt (bytes : QByteArray) :
    ofBigEndian bytes < 256 ^ bytes.length := by
  induction bytes using List.reverseRecOn with
  | nil => exact Nat.one_pos
  | append_singleton bytes b ih =>
      have hb := b.toNat_lt
      rw [ofBigEndian_concat, List.length_append, List.length_singleton,
        pow_succ]
      omega

/-- Numbers are the same when their bytes are. -/
theorem ofBigEndian_injective {bytes bytes' : QByteArray}
    (hlength : bytes.length = bytes'.length)
    (h : ofBigEndian bytes = ofBigEndian bytes') : bytes = bytes' := by
  induction bytes using List.reverseRecOn generalizing bytes' with
  | nil => exact (List.length_eq_zero_iff.1 hlength.symm).symm
  | append_singleton bytes b ih =>
      rcases List.eq_nil_or_concat bytes' with rfl | ⟨bytes', b', rfl⟩
      · simp at hlength
      · rw [List.concat_eq_append] at *
        rw [ofBigEndian_concat, ofBigEndian_concat] at h
        have hb := b.toNat_lt
        have hb' := b'.toNat_lt
        obtain rfl : b = b' := UInt8.toNat_inj.1 (by omega)
        rw [ih (by simpa using hlength) (by omega)]

end DataStream

/-- The order in which the hosts keep the bytes of a number. -/
inductive ByteOrder where
  | little
  | big
deriving DecidableEq, Repr

namespace ByteOrder

/-- Between the order of the host and the most significant byte first. -/
def arrange : ByteOrder → QByteArray → QByteArray
  | .little, bytes => bytes.reverse
  | .big, bytes => bytes

@[simp] theorem arrange_arrange (order : ByteOrder) (bytes : QByteArray) :
    order.arrange (order.arrange bytes) = bytes := by
  cases order
  · exact List.reverse_reverse bytes
  · rfl

@[simp] theorem length_arrange (order : ByteOrder) (bytes : QByteArray) :
    (order.arrange bytes).length = bytes.length := by
  cases order
  · exact List.length_reverse
  · rfl

/-- The bytes of a `qint64` in memory. -/
def toMemory (order : ByteOrder) (n : Int64) : QByteArray :=
  order.arrange (toBigEndian 8 n.toUInt64.toNat)

/-- The `qint64` in eight bytes of memory. -/
def ofMemory (order : ByteOrder) (memory : QByteArray) : Int64 :=
  (UInt64.ofNat (ofBigEndian (order.arrange memory))).toInt64

@[simp] theorem length_toMemory (order : ByteOrder) (n : Int64) :
    (order.toMemory n).length = 8 := by
  rw [toMemory, length_arrange, length_toBigEndian]

@[simp] theorem ofMemory_toMemory (order : ByteOrder) (n : Int64) :
    order.ofMemory (order.toMemory n) = n := by
  rw [ofMemory, toMemory, arrange_arrange,
    ofBigEndian_toBigEndian n.toUInt64.toNat_lt, UInt64.ofNat_toNat,
    Int64.toInt64_toUInt64]

/-- Eight bytes are those of the number in them. -/
theorem eq_toMemory {order : ByteOrder} {memory : QByteArray} {n : Int64}
    (hlength : memory.length = 8) (h : order.ofMemory memory = n) :
    memory = order.toMemory n := by
  have hbytes := ofBigEndian_lt (order.arrange memory)
  have hword : UInt64.ofNat (ofBigEndian (order.arrange memory)) =
      n.toUInt64 := by
    rw [← h, ofMemory, UInt64.toUInt64_toInt64]
  have hvalue : ofBigEndian (order.arrange memory) = n.toUInt64.toNat := by
    rw [← hword, UInt64.toNat_ofNat_of_lt']
    rwa [length_arrange, hlength] at hbytes
  have harranged : order.arrange memory = toBigEndian 8 n.toUInt64.toNat := by
    apply ofBigEndian_injective
    · rw [length_arrange, hlength, length_toBigEndian]
    · rw [hvalue, ofBigEndian_toBigEndian n.toUInt64.toNat_lt]
  rw [toMemory, ← harranged, arrange_arrange]

end ByteOrder

/-- A payload with the bytes of its frame that the device has taken. -/
structure SentFrame where
  payload : QByteArray
  bytes : QByteArray
deriving DecidableEq

/-- The device with the bytes that are readable and the chunks to come. -/
structure Device where
  available : QByteArray := []
  coming : List QByteArray := []
deriving DecidableEq

structure SafeDataStream where
  data : QByteArray := []
  device : Device
deriving DecidableEq

namespace SafeDataStream

/-- The eight bytes of the length of a payload. -/
def header (order : ByteOrder) (payload : QByteArray) : QByteArray :=
  order.toMemory (Int64.ofNat payload.length)

/-- The loop of `SafeDataStream::send`.  Each write is taken up to a number of
bytes; when the list is used up, writes are taken whole. -/
def sendPayload : List Nat → QByteArray → QByteArray × List Nat
  | [], rest => (rest, [])
  | accepted :: accepts, rest =>
      if rest = [] then ([], accepted :: accepts)
      else
        let r := sendPayload accepts (rest.drop accepted)
        (rest.take accepted ++ r.1, r.2)

/-- `SafeDataStream::send`: the length in one write, whatever is taken of it,
then the payload. -/
def send (order : ByteOrder) (accepts : List Nat) (payload : QByteArray) :
    SentFrame × List Nat :=
  let r := sendPayload accepts.tail payload
  (⟨payload, (header order payload).take (accepts.headD 8) ++ r.1⟩, r.2)

/-- The frames of payloads that are sent one after the other. -/
def sendAll (order : ByteOrder) : List Nat → List QByteArray → List SentFrame
  | _, [] => []
  | accepts, payload :: payloads =>
      let r := send order accepts payload
      r.1 :: sendAll order r.2 payloads

/-- The loop sends all of the payload. -/
theorem sendPayload_fst (accepts : List Nat) (rest : QByteArray) :
    (sendPayload accepts rest).1 = rest := by
  induction accepts generalizing rest with
  | nil => rfl
  | cons accepted accepts ih =>
      rw [sendPayload]
      split
      next hempty => exact hempty.symm
      · change rest.take accepted ++ (sendPayload accepts _).1 = rest
        rw [ih, List.take_append_drop]

/-- A frame is a first part of the length and then the payload. -/
theorem exists_of_mem_sendAll {order : ByteOrder} {accepts : List Nat}
    {payloads : List QByteArray} {f : SentFrame}
    (h : f ∈ sendAll order accepts payloads) :
    f.payload ∈ payloads ∧
      ∃ k, f.bytes = (header order f.payload).take k ++ f.payload := by
  induction payloads generalizing accepts with
  | nil => exact absurd h List.not_mem_nil
  | cons payload payloads ih =>
      rcases List.mem_cons.1 h with rfl | h
      · refine ⟨List.mem_cons_self, accepts.headD 8, ?_⟩
        rw [send, sendPayload_fst]
      · obtain ⟨hmem, hbytes⟩ := ih h
        exact ⟨List.mem_cons_of_mem _ hmem, hbytes⟩

end SafeDataStream

namespace Device

/-- `waitForReadyRead` when there is nothing to read. -/
def wait (d : Device) : Option Device :=
  if d.available ≠ [] then some d
  else
    match d.coming with
    | [] => none
    | c :: cs => some ⟨c, cs⟩

/-- The chunks a reader has before it. -/
def chunks (d : Device) : List QByteArray :=
  Chunks.advance 0 (d.available :: d.coming)

/-- The bytes that have not been read. -/
def unread (d : Device) : QByteArray := d.available ++ d.coming.flatten

theorem flatten_chunks (d : Device) : d.chunks.flatten = d.unread := by
  rw [chunks, Chunks.flatten_advance, List.drop_zero, List.flatten_cons,
    unread]

theorem chunks_eq {d : Device} (h : ∀ c ∈ d.coming, c ≠ []) :
    d.chunks =
      if d.available = [] then d.coming else d.available :: d.coming := by
  rw [chunks]
  split
  next hempty =>
    rw [hempty, Chunks.advance_cons_of_le (Nat.zero_le 0), Nat.zero_sub,
      Chunks.advance_zero h]
  next havailable =>
    rw [Chunks.advance_cons_of_lt (List.length_pos_iff.2 havailable),
      List.drop_zero]

theorem ne_nil_of_mem_chunks {d : Device} (h : ∀ c ∈ d.coming, c ≠ []) :
    ∀ c ∈ d.chunks, c ≠ [] := by
  rw [chunks_eq h]
  split
  · exact h
  next havailable => exact List.forall_mem_cons.2 ⟨havailable, h⟩

/-- A wait finds the next chunk, or lasts for ever. -/
theorem wait_eq {d : Device} (h : ∀ c ∈ d.coming, c ≠ []) :
    d.wait = d.chunks.head?.map fun c => ⟨c, d.chunks.tail⟩ := by
  rw [chunks_eq h, wait]
  by_cases havailable : d.available = []
  · rw [if_neg (not_not.2 havailable), if_pos havailable]
    cases d.coming <;> rfl
  · rw [if_pos havailable, if_neg havailable]
    rfl

end Device

namespace SafeDataStream

/-- The loop of `SafeDataStream::receive`.  A turn reads what there is, up to
what is missing, or waits for the next chunk. -/
def receivePayload (missing : Nat) (data available : QByteArray) :
    List QByteArray → Option SafeDataStream
  | [] =>
      if missing ≤ available.length then
        some ⟨data ++ available.take missing, ⟨available.drop missing, []⟩⟩
      else none
  | c :: cs =>
      if missing ≤ available.length then
        some ⟨data ++ available.take missing,
          ⟨available.drop missing, c :: cs⟩⟩
      else receivePayload (missing - available.length) (data ++ available) c cs

/-- The memory of `length` when the header has been read from what there is:
the bytes that are missing are those of minus one. -/
def lengthMemory (available : QByteArray) : QByteArray :=
  available.take 8 ++ List.replicate (8 - (available.take 8).length) 0xFF

/-- `SafeDataStream::receive`, with whether it got to the end of a frame: a
negative length makes it return with the data of the frame before.  Nothing
comes of a wait that lasts for ever. -/
def receive (order : ByteOrder) (s : SafeDataStream) :
    Option (Bool × SafeDataStream) :=
  s.device.wait.bind fun d =>
    let length := order.ofMemory (lengthMemory d.available)
    let rest := d.available.drop 8
    if length < 0 then some (false, ⟨s.data, ⟨rest, d.coming⟩⟩)
    else (receivePayload length.toInt.toNat [] rest d.coming).map (true, ·)

theorem receivePayload_eq_some {missing : Nat} {data available : QByteArray}
    {cs : List QByteArray} {s : SafeDataStream}
    (h : receivePayload missing data available cs = some s) :
    missing ≤ (available ++ cs.flatten).length ∧
      s.data = data ++ (available ++ cs.flatten).take missing ∧
        s.device.chunks = Chunks.advance missing (available :: cs) ∧
          s.device.coming ⊆ cs := by
  induction cs generalizing missing data available with
  | nil =>
      rw [receivePayload, Option.ite_none_right_eq_some, Option.some_inj] at h
      obtain ⟨hle, rfl⟩ := h
      rw [List.flatten_nil, List.append_nil]
      exact ⟨hle, rfl, Chunks.advance_zero_drop hle [], List.Subset.refl _⟩
  | cons c cs ih =>
      rw [receivePayload] at h
      split at h
      next hle =>
        obtain rfl := Option.some.inj h
        rw [List.take_append_of_le_length hle, List.length_append]
        exact ⟨Nat.le_add_right_of_le hle, rfl,
          Chunks.advance_zero_drop hle _, List.Subset.refl _⟩
      next hlong =>
        have hle := Nat.le_of_not_le hlong
        obtain ⟨hmissing, hdata, hchunks, hcoming⟩ := ih h
        have htake : (available ++ (c ++ cs.flatten)).take missing =
            available ++ (c ++ cs.flatten).take
              (missing - available.length) := by
          rw [List.take_append, List.take_of_length_le hle]
        rw [List.flatten_cons, htake]
        refine ⟨?_, ?_, ?_, List.subset_cons_of_subset c hcoming⟩
        · rw [List.length_append]
          omega
        · rw [hdata, List.append_assoc]
        · rw [hchunks, Chunks.advance_cons_of_le hle]

/-- What is missing comes when it is in the stream. -/
theorem receivePayload_isSome {missing : Nat} {available : QByteArray}
    {cs : List QByteArray} (data : QByteArray)
    (h : missing ≤ (available ++ cs.flatten).length) :
    (receivePayload missing data available cs).isSome = true := by
  induction cs generalizing missing data available with
  | nil =>
      rw [List.flatten_nil, List.append_nil] at h
      rw [receivePayload, if_pos h]
      rfl
  | cons c cs ih =>
      rw [receivePayload]
      split
      · rfl
      · apply ih
        rw [List.flatten_cons, List.length_append] at h
        omega

/-- The header of a frame can be read when its turn comes: the bytes there
are, eight at most, are those it was written with, and those that are missing
are the ones the memory already has. -/
def HeaderAtHand (order : ByteOrder) (f : SentFrame) :
    List QByteArray → Prop
  | [] => False
  | c :: _ =>
      f.bytes = (header order f.payload).take (min 8 c.length) ++ f.payload ∧
        (header order f.payload).drop (min 8 c.length) =
          List.replicate (8 - min 8 c.length) 0xFF

instance (order : ByteOrder) (f : SentFrame) (cs : List QByteArray) :
    Decidable (HeaderAtHand order f cs) := by
  cases cs <;> unfold HeaderAtHand <;> infer_instance

@[simp] theorem length_header (order : ByteOrder) (payload : QByteArray) :
    (header order payload).length = 8 :=
  order.length_toMemory _

@[simp] theorem length_lengthMemory (c : QByteArray) :
    (lengthMemory c).length = 8 := by
  rw [lengthMemory, List.length_append, List.length_replicate,
    List.length_take]
  omega

theorem take_eight (c : QByteArray) : c.take 8 = c.take (min 8 c.length) := by
  rw [← List.take_take, List.take_length]

theorem drop_eight (c : QByteArray) : c.drop 8 = c.drop (min 8 c.length) := by
  rcases Nat.le_total 8 c.length with h | h
  · rw [Nat.min_eq_left h]
  · rw [Nat.min_eq_right h, List.drop_length, List.drop_eq_nil_of_le h]

/-- In a stream that starts with a frame, the memory holds the length and just
the header is read if and only if the header is at hand. -/
theorem lengthMemory_eq_header_iff {order : ByteOrder} {f : SentFrame}
    {c : QByteArray} {cs : List QByteArray} {rest : QByteArray}
    (hbytes : ∃ k, f.bytes = (header order f.payload).take k ++ f.payload)
    (hstream : c ++ cs.flatten = f.bytes ++ rest) :
    lengthMemory c = header order f.payload ∧
        min 8 c.length + f.payload.length = f.bytes.length ↔
      HeaderAtHand order f (c :: cs) := by
  have hlength := length_header order f.payload
  rw [lengthMemory, take_eight, HeaderAtHand]
  constructor
  · rintro ⟨hmemory, hread⟩
    obtain ⟨k, hk⟩ := hbytes
    have hcut : min k 8 = min 8 c.length := by
      rw [hk, List.length_append, List.length_take, hlength] at hread
      omega
    refine ⟨?_, ?_⟩
    · rw [hk, ← hcut, ← hlength, ← List.take_take, List.take_length]
    · rw [← hmemory, List.drop_append_of_le_length (by simp)]
      simp
  · rintro ⟨hbytes, hmissing⟩
    have hfirst : c.take (min 8 c.length) =
        (header order f.payload).take (min 8 c.length) := by
      have htake := congrArg (List.take (min 8 c.length)) hstream
      rw [List.take_append_of_le_length (Nat.min_le_right ..), hbytes,
        List.append_assoc, List.take_append_of_le_length (by simp)] at htake
      rw [htake, List.take_take, Nat.min_self]
    refine ⟨?_, ?_⟩
    · rw [hfirst, List.length_take, hlength, Nat.min_right_comm,
        Nat.min_self, ← hmissing, List.take_append_drop]
    · rw [hbytes, List.length_append, List.length_take, hlength]
      omega

theorem toInt_ofMemory_header (order : ByteOrder) {payload : QByteArray}
    (h : payload.length < 2 ^ 63) :
    (order.ofMemory (header order payload)).toInt = payload.length := by
  rw [header, ByteOrder.ofMemory_toMemory, Int64.toInt_ofNat_of_lt h]

/-- The stream behind the header. -/
theorem drop_eight_append (c : QByteArray) (cs : List QByteArray) :
    c.drop 8 ++ cs.flatten = (c ++ cs.flatten).drop (min 8 c.length) := by
  rw [drop_eight, List.drop_append_of_le_length (Nat.min_le_right ..)]

theorem advance_drop_eight (n : Nat) (c : QByteArray)
    (cs : List QByteArray) :
    Chunks.advance n (c.drop 8 :: cs) =
      Chunks.advance (min 8 c.length + n) (c :: cs) := by
  have hzero := Chunks.advance_zero_drop (Nat.min_le_right 8 c.length) cs
  rw [← Chunks.advance_advance, ← hzero, ← drop_eight,
    Chunks.advance_advance, Nat.zero_add]

/-- A call that finds a chunk before it. -/
theorem receive_of_chunks {order : ByteOrder} {s : SafeDataStream}
    {c : QByteArray} {cs : List QByteArray}
    (hcoming : ∀ c ∈ s.device.coming, c ≠ [])
    (hchunks : s.device.chunks = c :: cs) :
    receive order s =
      let length := order.ofMemory (lengthMemory c)
      if length < 0 then some (false, ⟨s.data, ⟨c.drop 8, cs⟩⟩)
      else (receivePayload length.toInt.toNat [] (c.drop 8) cs).map
        (true, ·) := by
  rw [receive, Device.wait_eq hcoming, hchunks]
  rfl

/-- What a call that gets to the end of a frame has read. -/
theorem receive_eq_some {order : ByteOrder} {s s' : SafeDataStream}
    {c : QByteArray} {cs : List QByteArray}
    (hcoming : ∀ c ∈ s.device.coming, c ≠ [])
    (hchunks : s.device.chunks = c :: cs)
    (h : receive order s = some (true, s')) :
    ∃ n : Nat, (order.ofMemory (lengthMemory c)).toInt = n ∧
      s'.data.length = n ∧
      min 8 c.length + n ≤ (c ++ cs.flatten).length ∧
      s'.device.chunks = Chunks.advance (min 8 c.length + n) (c :: cs) := by
  rw [receive_of_chunks hcoming hchunks] at h
  simp only at h
  split at h
  · simp at h
  next hnonneg =>
    rw [Option.map_eq_some_iff] at h
    obtain ⟨s'', hreceived, heq⟩ := h
    obtain rfl : s'' = s' := (Prod.mk.inj heq).2
    obtain ⟨hle, hdata, hchunks', _⟩ := receivePayload_eq_some hreceived
    rw [Int64.lt_iff_toInt_lt, Int64.toInt_zero] at hnonneg
    refine ⟨_, (Int.toNat_of_nonneg (by omega)).symm, ?_, ?_, ?_⟩
    · rw [hdata, List.nil_append, List.length_take, Nat.min_eq_left hle]
    · rw [drop_eight_append, List.length_drop] at hle
      have hfirst : min 8 c.length ≤ (c ++ cs.flatten).length := by
        rw [List.length_append]
        omega
      omega
    · rw [hchunks', advance_drop_eight]

/-- A frame whose header is at hand is delivered, and nothing else is read. -/
theorem receive_of_headerAtHand {order : ByteOrder} {f : SentFrame}
    {s : SafeDataStream} {rest : QByteArray}
    (hcoming : ∀ c ∈ s.device.coming, c ≠ [])
    (hlength : f.payload.length < 2 ^ 63)
    (hbytes : ∃ k, f.bytes = (header order f.payload).take k ++ f.payload)
    (hstream : s.device.unread = f.bytes ++ rest)
    (h : HeaderAtHand order f s.device.chunks) :
    ∃ s', receive order s = some (true, s') ∧ s'.data = f.payload ∧
      s'.device.unread = rest ∧
      s'.device.chunks =
        Chunks.advance f.bytes.length s.device.chunks ∧
      ∀ c ∈ s'.device.coming, c ≠ [] := by
  rw [← Device.flatten_chunks] at hstream
  cases hchunks : s.device.chunks with
  | nil =>
      rw [hchunks] at h
      exact False.elim h
  | cons c cs =>
      rw [hchunks] at h hstream
      obtain ⟨hmemory, hread⟩ :=
        (lengthMemory_eq_header_iff hbytes hstream).2 h
      have hvalue := toInt_ofMemory_header order hlength
      have hnonneg : ¬ order.ofMemory (header order f.payload) < 0 := by
        rw [Int64.lt_iff_toInt_lt, hvalue, Int64.toInt_zero]
        omega
      have hpayload : c.drop 8 ++ cs.flatten = f.payload ++ rest := by
        rw [List.flatten_cons] at hstream
        rw [drop_eight_append, hstream, h.1, List.append_assoc]
        exact List.drop_left' (by simp)
      have hreadable :
          f.payload.length ≤ (c.drop 8 ++ cs.flatten).length := by
        rw [hpayload, List.length_append]
        omega
      obtain ⟨s', hs'⟩ :=
        Option.isSome_iff_exists.1 (receivePayload_isSome [] hreadable)
      obtain ⟨_, hdata, hchunks', hcoming'⟩ := receivePayload_eq_some hs'
      rw [advance_drop_eight, hread] at hchunks'
      refine ⟨s', ?_, ?_, ?_, hchunks', ?_⟩
      · rw [receive_of_chunks hcoming hchunks, hmemory]
        simp only [hnonneg, ↓reduceIte, hvalue, Int.toNat_natCast, hs']
        rfl
      · rw [hdata, hpayload, List.nil_append, List.take_left]
      · rw [← Device.flatten_chunks, hchunks', Chunks.flatten_advance,
          hstream, List.drop_left]
      · intro c' hc'
        apply Device.ne_nil_of_mem_chunks hcoming
        rw [hchunks]
        exact List.mem_cons_of_mem c (hcoming' hc')

/-- A frame that is delivered had its header at hand. -/
theorem headerAtHand_of_receive {order : ByteOrder} {f : SentFrame}
    {s s' : SafeDataStream} {rest : QByteArray}
    (hcoming : ∀ c ∈ s.device.coming, c ≠ [])
    (hlength : f.payload.length < 2 ^ 63)
    (hbytes : ∃ k, f.bytes = (header order f.payload).take k ++ f.payload)
    (hstream : s.device.unread = f.bytes ++ rest)
    (hreceive : receive order s = some (true, s'))
    (hdata : s'.data = f.payload) (hrest : s'.device.unread = rest) :
    HeaderAtHand order f s.device.chunks := by
  rw [← Device.flatten_chunks] at hstream
  cases hchunks : s.device.chunks with
  | nil =>
      rw [receive, Device.wait_eq hcoming, hchunks] at hreceive
      simp at hreceive
  | cons c cs =>
      obtain ⟨n, hvalue, hcount, hle, hchunks'⟩ :=
        receive_eq_some hcoming hchunks hreceive
      rw [hdata] at hcount
      rw [hchunks] at hstream
      apply (lengthMemory_eq_header_iff hbytes hstream).1
      constructor
      · apply ByteOrder.eq_toMemory (length_lengthMemory c)
        rw [← Int64.toInt_inj, hvalue, ← hcount,
          Int64.toInt_ofNat_of_lt hlength]
      · have hdrop := congrArg List.flatten hchunks'
        rw [Device.flatten_chunks, hrest, Chunks.flatten_advance,
          hstream] at hdrop
        rw [List.flatten_cons] at hstream
        have htotal := congrArg List.length hstream
        have hleft := congrArg List.length hdrop
        have hframe := @List.length_append _ f.bytes rest
        rw [List.length_drop] at hleft
        omega

/-- Each call delivers the payload of its frame, to the last byte, and reads
nothing beyond the frame. -/
def Delivers (order : ByteOrder) :
    List SentFrame → SafeDataStream → Prop
  | [], _ => True
  | f :: fs, s => ∃ s', receive order s = some (true, s') ∧
      s'.data = f.payload ∧
        s'.device.unread = fs.flatMap SentFrame.bytes ∧ Delivers order fs s'

/-- Every header is at hand in the chunks its frame begins with. -/
def HeadersAtHand (order : ByteOrder) :
    List SentFrame → List QByteArray → Prop
  | [], _ => True
  | f :: fs, cs => HeaderAtHand order f cs ∧
      HeadersAtHand order fs (Chunks.advance f.bytes.length cs)

instance (order : ByteOrder) (frames : List SentFrame)
    (cs : List QByteArray) : Decidable (HeadersAtHand order frames cs) := by
  induction frames generalizing cs with
  | nil => exact isTrue trivial
  | cons f fs ih => exact inferInstanceAs (Decidable (_ ∧ _))

theorem delivers_iff_headersAtHand {order : ByteOrder}
    {frames : List SentFrame} {s : SafeDataStream}
    (hframes : ∀ f ∈ frames, f.payload.length < 2 ^ 63 ∧
      ∃ k, f.bytes = (header order f.payload).take k ++ f.payload)
    (hcoming : ∀ c ∈ s.device.coming, c ≠ [])
    (hstream : s.device.unread = frames.flatMap SentFrame.bytes) :
    Delivers order frames s ↔ HeadersAtHand order frames s.device.chunks := by
  induction frames generalizing s with
  | nil => exact Iff.rfl
  | cons f fs ih =>
      rw [List.forall_mem_cons] at hframes
      rw [List.flatMap_cons] at hstream
      constructor
      · rintro ⟨s', hreceive, hdata, hrest, hdelivers⟩
        have hhand := headerAtHand_of_receive hcoming hframes.1.1
          hframes.1.2 hstream hreceive hdata hrest
        obtain ⟨s'', hreceive', _, _, hchunks, hcoming'⟩ :=
          receive_of_headerAtHand hcoming hframes.1.1 hframes.1.2 hstream
            hhand
        obtain rfl : s' = s'' := by
          rw [hreceive] at hreceive'
          exact (Prod.mk.inj (Option.some.inj hreceive')).2
        exact ⟨hhand, hchunks ▸ (ih hframes.2 hcoming' hrest).1 hdelivers⟩
      · rintro ⟨hhand, hhands⟩
        obtain ⟨s', hreceive, hdata, hrest, hchunks, hcoming'⟩ :=
          receive_of_headerAtHand hcoming hframes.1.1 hframes.1.2 hstream
            hhand
        exact ⟨s', hreceive, hdata, hrest,
          (ih hframes.2 hcoming' hrest).2 (hchunks ▸ hhands)⟩

end SafeDataStream

open SafeDataStream in
/-- Payloads that are sent one after the other are delivered if and only if
every header is at hand when its turn comes. -/
theorem sendAll_delivers_iff (order : ByteOrder) (accepts : List Nat)
    (payloads : List QByteArray) (data : QByteArray)
    (chunks : List QByteArray)
    (hlength : ∀ payload ∈ payloads, payload.length < 2 ^ 63)
    (hchunks : ∀ c ∈ chunks, c ≠ [])
    (hstream : chunks.flatten =
      (sendAll order accepts payloads).flatMap SentFrame.bytes) :
    Delivers order (sendAll order accepts payloads) ⟨data, ⟨[], chunks⟩⟩ ↔
      HeadersAtHand order (sendAll order accepts payloads) chunks := by
  have hframes : ∀ f ∈ sendAll order accepts payloads,
      f.payload.length < 2 ^ 63 ∧
        ∃ k, f.bytes = (header order f.payload).take k ++ f.payload := by
    intro f hf
    obtain ⟨hmem, hbytes⟩ := exists_of_mem_sendAll hf
    exact ⟨hlength f.payload hmem, hbytes⟩
  have hfirst : (Device.mk [] chunks).chunks = chunks :=
    Device.chunks_eq hchunks
  have hiff := delivers_iff_headersAtHand (s := ⟨data, ⟨[], chunks⟩⟩)
    hframes hchunks hstream
  rwa [hfirst] at hiff

open SafeDataStream in
/-- The payloads may be cut. -/
theorem sendAll_delivers_cut :
    Delivers .little (sendAll .little [8, 1] [[1, 2], []])
      ⟨[], ⟨[], [[2, 0, 0, 0, 0, 0, 0, 0, 1], [2],
        [0, 0, 0, 0, 0, 0, 0, 0]]⟩⟩ :=
  (sendAll_delivers_iff .little [8, 1] [[1, 2], []] []
    [[2, 0, 0, 0, 0, 0, 0, 0, 1], [2], [0, 0, 0, 0, 0, 0, 0, 0]]
    (by decide) (by decide) (by decide)).2 (by decide)

open SafeDataStream in
/-- A header that arrives in two chunks is given up. -/
theorem sendAll_not_delivers :
    ¬ ∀ (order : ByteOrder) (accepts : List Nat)
      (payloads : List QByteArray) (data : QByteArray)
      (chunks : List QByteArray),
        (∀ payload ∈ payloads, payload.length < 2 ^ 63) →
          (∀ c ∈ chunks, c ≠ []) →
            chunks.flatten =
                (sendAll order accepts payloads).flatMap SentFrame.bytes →
              Delivers order (sendAll order accepts payloads)
                ⟨data, ⟨[], chunks⟩⟩ := by
  intro hall
  have hdelivers := hall .little [] [[7]] []
    [[1, 0, 0], [0, 0, 0, 0, 0, 7]] (by decide) (by decide) (by decide)
  obtain ⟨s', hreceive, _⟩ := hdelivers
  have hgiven : receive .little ⟨[], ⟨[], [[1, 0, 0],
      [0, 0, 0, 0, 0, 7]]⟩⟩ =
        some (false, ⟨[], ⟨[], [[0, 0, 0, 0, 0, 7]]⟩⟩) := by decide
  rw [hgiven] at hreceive
  exact absurd hreceive (by simp)

end PlasmaLogin

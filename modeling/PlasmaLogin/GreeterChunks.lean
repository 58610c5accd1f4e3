/-
The greeter protocol in both directions, when its bytes become readable in
portions.  Neither reader keeps anything from one notification to the next, so
the messages that were sent come out if and only if no portion ends inside of
one.
-/
import PlasmaLogin.DataStreamTypes
import PlasmaLogin.SessionFiles
import PlasmaLogin.Unframed

namespace PlasmaLogin

open DataStream

namespace DataStream

universe u v w

variable {α : Type u} {β : Type v} {γ : Type w}

/-- A read of the first part of some bytes takes all of it, and can only find
their value if the rest is zeros. -/
def Cuts (read : DataStream → α × DataStream) (bytes : QByteArray)
    (value : α) : Prop :=
  ∀ n < bytes.length, ∀ status,
    (read ⟨bytes.take n, status⟩).2.bytes = [] ∧
      ((read ⟨bytes.take n, status⟩).1 = value →
        ∀ b ∈ bytes.drop n, b = 0)

/-- Two reads, one after the other. -/
def seq (first : DataStream → α × DataStream)
    (second : DataStream → β × DataStream) (s : DataStream) :
    (α × β) × DataStream :=
  let a := first s
  let b := second a.2
  ((a.1, b.1), b.2)

/-- A read with a function of what it finds. -/
def mapRead (f : α → γ) (read : DataStream → α × DataStream)
    (s : DataStream) : γ × DataStream :=
  (f (read s).1, (read s).2)

theorem Reads.seq {first : DataStream → α × DataStream}
    {second : DataStream → β × DataStream} {bytes bytes' : QByteArray}
    {a : α} {b : β} (hfirst : Reads first bytes a)
    (hsecond : Reads second bytes' b) :
    Reads (seq first second) (bytes ++ bytes') (a, b) := by
  intro rest status
  rw [List.append_assoc, DataStream.seq, hfirst, hsecond]

theorem Reads.map {read : DataStream → α × DataStream} {bytes : QByteArray}
    {a : α} (h : Reads read bytes a) (f : α → γ) :
    Reads (mapRead f read) bytes (f a) := by
  intro rest status
  rw [mapRead, h]

theorem Cuts.map {read : DataStream → α × DataStream} {bytes : QByteArray}
    {a : α} (h : Cuts read bytes a) {f : α → γ}
    (hf : ∀ x, f x = f a → x = a) : Cuts (mapRead f read) bytes (f a) := by
  intro n hn status
  obtain ⟨hrest, hzeros⟩ := h n hn status
  exact ⟨hrest, fun heq => hzeros (hf _ heq)⟩

theorem Cuts.seq {first : DataStream → α × DataStream}
    {second : DataStream → β × DataStream} {bytes bytes' : QByteArray}
    {a : α} {b : β} (hreads : Reads first bytes a)
    (hfirst : Cuts first bytes a) (hsecond : Cuts second bytes' b)
    (hne : bytes' ≠ []) :
    Cuts (seq first second) (bytes ++ bytes') (a, b) := by
  intro n hn status
  rw [List.length_append] at hn
  rcases Nat.lt_or_ge n bytes.length with hlt | hle
  · obtain ⟨hrest, hzeros⟩ := hfirst n hlt status
    rw [List.take_append_of_le_length (Nat.le_of_lt hlt),
      List.drop_append_of_le_length (Nat.le_of_lt hlt)]
    have hempty : (first ⟨bytes.take n, status⟩).2 =
        ⟨bytes'.take 0, (first ⟨bytes.take n, status⟩).2.status⟩ := by
      rw [List.take_zero, ← hrest]
    obtain ⟨hrest', hzeros'⟩ := hsecond 0 (List.length_pos_iff.2 hne)
      (first ⟨bytes.take n, status⟩).2.status
    rw [← hempty] at hrest' hzeros'
    refine ⟨hrest', fun heq => ?_⟩
    obtain ⟨ha, hb⟩ := Prod.mk.inj heq
    rw [List.forall_mem_append]
    exact ⟨hzeros ha, hzeros' hb⟩
  · rw [List.take_append, List.take_of_length_le hle, List.drop_append,
      List.drop_eq_nil_of_le hle, List.nil_append, DataStream.seq, hreads]
    obtain ⟨hrest, hzeros⟩ :=
      hsecond (n - bytes.length) (by omega) status
    exact ⟨hrest, fun heq => hzeros (Prod.mk.inj heq).2⟩

theorem readUInt32_of_short {bytes : QByteArray} (h : bytes.length < 4)
    (status : StreamStatus) :
    (readUInt32 ⟨bytes, status⟩).1 = 0 ∧
      (readUInt32 ⟨bytes, status⟩).2.bytes = [] := by
  have htake : (bytes.take 4).length ≠ 4 := by
    rw [List.length_take]
    omega
  constructor
  · simp only [readUInt32, readBlock]
    rw [if_neg htake]
  · rw [readUInt32_bytes]
    exact List.drop_eq_nil_of_le (Nat.le_of_lt h)

theorem length_writeUInt32 (n : UInt32) : (writeUInt32 n).length = 4 :=
  length_toBigEndian 4 _

theorem eq_zero_of_mem_drop {n : Nat} {b : UInt8}
    (h : b ∈ (writeUInt32 0).drop n) : b = 0 := by
  have hzeros : writeUInt32 0 = List.replicate 4 0 := rfl
  rw [hzeros] at h
  exact List.eq_of_mem_replicate (List.mem_of_mem_drop h)

/-- A small number begins with zeros. -/
theorem begins_writeUInt32 {n : UInt32} (h : n.toNat < 256)
    (body : QByteArray) :
    4 ≤ (writeUInt32 n ++ body).length ∧
      ∀ b ∈ (writeUInt32 n ++ body).take 3, b = 0 := by
  have hlength := length_writeUInt32 n
  have hthird : n.toNat / 256 ^ 1 = 0 := Nat.div_eq_of_lt h
  have hsecond : n.toNat / 256 ^ 2 = 0 := Nat.div_eq_of_lt (by omega)
  have hfirst : n.toNat / 256 ^ 3 = 0 := Nat.div_eq_of_lt (by omega)
  have hwrite : (writeUInt32 n).take 3 = List.replicate 3 0 := by
    simp only [writeUInt32, toBigEndian, hfirst, hsecond, hthird]
    rfl
  constructor
  · rw [List.length_append]
    omega
  · rw [List.take_append_of_le_length (by omega), hwrite]
    exact fun b hb => List.eq_of_mem_replicate hb

theorem cuts_readUInt32 (n : UInt32) : Cuts readUInt32 (writeUInt32 n) n := by
  intro k hk status
  rw [length_writeUInt32] at hk
  have hshort : ((writeUInt32 n).take k).length < 4 := by
    rw [List.length_take, length_writeUInt32]
    omega
  obtain ⟨hvalue, hrest⟩ := readUInt32_of_short hshort status
  refine ⟨hrest, fun heq => ?_⟩
  obtain rfl : (0 : UInt32) = n := hvalue.symm.trans heq
  intro b hb
  exact eq_zero_of_mem_drop hb

theorem reads_readUInt32 (n : UInt32) : Reads readUInt32 (writeUInt32 n) n :=
  readUInt32_writeUInt32 n

theorem readQSizeType_of_short {bytes : QByteArray} (h : bytes.length < 4)
    (status : StreamStatus) :
    (readQSizeType ⟨bytes, status⟩).1 = 0 ∧
      (readQSizeType ⟨bytes, status⟩).2.bytes = [] := by
  obtain ⟨hvalue, hrest⟩ := readUInt32_of_short h status
  rw [readQSizeType, hvalue, if_neg (by decide), if_pos (by decide)]
  exact ⟨rfl, hrest⟩

/-- A length that is cut is read as none. -/
theorem readQSizeType_cut {n k : Nat} (hk : k < (writeQSizeType n).length)
    (status : StreamStatus) :
    (readQSizeType ⟨(writeQSizeType n).take k, status⟩).1 = 0 ∧
      (readQSizeType ⟨(writeQSizeType n).take k, status⟩).2.bytes = [] := by
  by_cases hshort : k < 4
  · apply readQSizeType_of_short
    rw [List.length_take]
    omega
  · rw [writeQSizeType] at hk ⊢
    split at hk
    · rw [length_toBigEndian] at hk
      exact absurd hk hshort
    next hlong =>
      have hmark := length_writeUInt32 0xFFFFFFFE
      rw [List.length_append, hmark, length_toBigEndian] at hk
      rw [if_neg hlong, List.take_append, List.take_of_length_le (by omega),
        readQSizeType, readUInt32_writeUInt32,
        if_neg (show ¬ (0xFFFFFFFE : UInt32) = 0xFFFFFFFF by decide),
        if_neg (show ¬ (0xFFFFFFFE : UInt32) < 0xFFFFFFFE by decide)]
      have hblock : ((toBigEndian 8 n).take
          (k - (writeUInt32 0xFFFFFFFE).length)).length < 8 := by
        rw [List.length_take, length_toBigEndian, hmark]
        omega
      have htake : (((toBigEndian 8 n).take
          (k - (writeUInt32 0xFFFFFFFE).length)).take 8).length ≠ 8 := by
        rw [List.length_take]
        omega
      constructor
      · simp only [readInt64, readBlock]
        rw [if_neg htake]
        rfl
      · change (readBlock 8 _).2.bytes = []
        rw [readBlock_bytes]
        exact List.drop_eq_nil_of_le (Nat.le_of_lt hblock)

/-- A string that is cut is read as the empty one. -/
theorem readString_cut {s : QString} (h : 2 * s.length < 2 ^ 63) {k : Nat}
    (hk : k < (writeString s).length) (status : StreamStatus) :
    (readString ⟨(writeString s).take k, status⟩).1 = [] ∧
      (readString ⟨(writeString s).take k, status⟩).2.bytes = [] := by
  have hunits := length_flatMap_toBigEndian s
  rw [writeString] at hk ⊢
  rcases Nat.lt_or_ge k (writeQSizeType (2 * s.length)).length with
    hsize | hsize
  · obtain ⟨hvalue, hrest⟩ := readQSizeType_cut hsize status
    rw [List.take_append_of_le_length (Nat.le_of_lt hsize), readString,
      hvalue, if_neg (by decide), if_pos (by decide)]
    exact ⟨rfl, hrest⟩
  · rw [List.length_append, hunits] at hk
    rw [List.take_append, List.take_of_length_le hsize, readString,
      readQSizeType_writeQSizeType h]
    simp only [Int.toNat_natCast]
    rw [if_neg (by omega), if_neg (by omega), if_neg (by omega)]
    have hblock : ((s.flatMap fun c => toBigEndian 2 c.toNat).take
        (k - (writeQSizeType (2 * s.length)).length)).length <
          2 * s.length := by
      rw [List.length_take, hunits]
      omega
    constructor
    · simp only [readBlock]
      rw [if_neg (by
        rw [List.length_take]
        omega)]
    · rw [readBlock_bytes]
      exact List.drop_eq_nil_of_le (Nat.le_of_lt hblock)

theorem cuts_readString {s : QString} (h : 2 * s.length < 2 ^ 63) :
    Cuts readString (writeString s) s := by
  intro k hk status
  obtain ⟨hvalue, hrest⟩ := readString_cut h hk status
  refine ⟨hrest, fun heq => ?_⟩
  obtain rfl : [] = s := hvalue.symm.trans heq
  intro b hb
  have hempty : writeString [] = writeUInt32 0 := rfl
  rw [hempty] at hb
  exact eq_zero_of_mem_drop hb

theorem writeString_ne_nil (s : QString) : writeString s ≠ [] := by
  rw [writeString, writeQSizeType]
  apply List.append_ne_nil_of_left_ne_nil
  split <;> exact List.cons_ne_nil _ _

theorem ofBigEndian_of_zeros {bytes : QByteArray} (h : ∀ b ∈ bytes, b = 0) :
    ofBigEndian bytes = 0 := by
  rw [List.eq_replicate_of_mem h]
  induction bytes.length with
  | zero => rfl
  | succ n ih => exact ih

/-- Zeros are the number zero, however many there are. -/
theorem readUInt32_of_zeros {s : DataStream}
    (h : ∀ b ∈ s.bytes.take 4, b = 0) :
    s.readUInt32.1 = 0 := by
  have hvalue := ofBigEndian_of_zeros h
  simp only [readUInt32, readBlock, hvalue]
  exact ite_self 0

/-- A message whose number is cut. -/
theorem readUInt32_cut (n : UInt32) (body : QByteArray) {k : Nat} (hk : k < 4)
    (status : StreamStatus) :
    (readUInt32 ⟨(writeUInt32 n ++ body).take k, status⟩).1 = 0 ∧
      (readUInt32 ⟨(writeUInt32 n ++ body).take k, status⟩).2.bytes = [] := by
  apply readUInt32_of_short
  rw [List.length_take]
  omega

/-- A message whose number is not cut. -/
theorem readUInt32_take (n : UInt32) (body : QByteArray) {k : Nat}
    (hk : 4 ≤ k) (status : StreamStatus) :
    readUInt32 ⟨(writeUInt32 n ++ body).take k, status⟩ =
      (n, ⟨body.take (k - 4), status⟩) := by
  have hlength := length_writeUInt32 n
  rw [List.take_append, List.take_of_length_le (by omega), hlength,
    readUInt32_writeUInt32]

theorem drop_writeUInt32_append {n : UInt32} {body : QByteArray} {k : Nat}
    (hk : 4 ≤ k) : (writeUInt32 n ++ body).drop k = body.drop (k - 4) := by
  have hlength := length_writeUInt32 n
  rw [List.drop_append, List.drop_eq_nil_of_le (by omega), hlength,
    List.nil_append]

end DataStream

namespace GreeterMessage

/-- What a greeter writes for a message: `GreeterProxy::connected` and
`GreeterProxy::login`. -/
def write : GreeterMessage → QByteArray
  | .connect => writeUInt32 0
  | .login user password sessionType fileName =>
      GreeterProxy.login user password sessionType fileName
  | .unknown message => writeUInt32 message

/-- Whether the socket server emits a signal for a message. -/
def emits : GreeterMessage → Bool
  | .unknown _ => false
  | _ => true

/-- The messages of a greeter, with strings whose lengths can be written. -/
def Sendable : GreeterMessage → Prop
  | .connect => True
  | .login user password _ fileName =>
      2 * user.length < 2 ^ 63 ∧ 2 * password.length < 2 ^ 63 ∧
        2 * fileName.length < 2 ^ 63
  | .unknown _ => False

instance (m : GreeterMessage) : Decidable m.Sendable := by
  cases m <;> unfold Sendable <;> infer_instance

end GreeterMessage

namespace SocketServer

/-- The messages in what is readable that `SocketServer::readyRead` emits a
signal for. -/
def signalled (portion : QByteArray) : List GreeterMessage :=
  (readMessages ⟨portion, .ok⟩).filter GreeterMessage.emits

/-- The signals carry the messages, with the session looked up. -/
theorem readyRead_eq {ν : Type} (inst : Installation ν)
    (portion : QByteArray) :
    readyRead inst portion = (signalled portion).filterMap fun
      | .connect => some .connected
      | .login user password sessionType fileName =>
          some (.login user password
            (Session.create inst (.ofNumber sessionType) fileName))
      | .unknown _ => none := by
  rw [readyRead, signalled, List.filterMap_filter]
  apply List.filterMap_congr
  intro m _
  cases m <;> rfl

/-- The fields of a login. -/
def loginFields : DataStream →
    (QString × QString × UInt32 × QString) × DataStream :=
  seq readString (seq readString (seq readUInt32 readString))

def loginOf (fields : QString × QString × UInt32 × QString) :
    GreeterMessage :=
  .login fields.1 fields.2.1 fields.2.2.1 fields.2.2.2

theorem readLogin_eq : readLogin = mapRead loginOf loginFields := by
  funext input
  simp only [readLogin, mapRead, loginOf, loginFields, seq]

theorem readLogin_emits (input : DataStream) :
    (readLogin input).1.emits = true := by
  rw [readLogin_eq]
  rfl

section Login

variable {user password fileName : QString} (sessionType : UInt32)
  (huser : 2 * user.length < 2 ^ 63)
  (hpassword : 2 * password.length < 2 ^ 63)
  (hfileName : 2 * fileName.length < 2 ^ 63)

include huser hpassword hfileName

theorem reads_readLogin :
    Reads readLogin (writeString user ++ (writeString password ++
      (writeUInt32 sessionType ++ writeString fileName)))
        (.login user password sessionType fileName) := by
  rw [readLogin_eq]
  exact ((reads_readString huser).seq ((reads_readString hpassword).seq
    ((reads_readUInt32 sessionType).seq
      (reads_readString hfileName)))).map loginOf

theorem cuts_readLogin :
    Cuts readLogin (writeString user ++ (writeString password ++
      (writeUInt32 sessionType ++ writeString fileName)))
        (.login user password sessionType fileName) := by
  have hname := cuts_readString hfileName
  have htype := Cuts.seq (reads_readUInt32 sessionType)
    (cuts_readUInt32 sessionType) hname (writeString_ne_nil fileName)
  have hrest := Cuts.seq (reads_readString hpassword)
    (cuts_readString hpassword) htype
    (List.append_ne_nil_of_right_ne_nil _ (writeString_ne_nil fileName))
  have hall := Cuts.seq (reads_readString huser) (cuts_readString huser)
    hrest (List.append_ne_nil_of_left_ne_nil (writeString_ne_nil password) _)
  rw [readLogin_eq]
  refine hall.map (f := loginOf) fun fields heq => ?_
  obtain ⟨h₁, h₂, h₃, h₄⟩ := GreeterMessage.login.inj heq
  exact Prod.ext h₁ (Prod.ext h₂ (Prod.ext h₃ h₄))

end Login

theorem readMessage_of_zero {input : DataStream}
    (h : input.readUInt32.1 = 0) :
    readMessage input = (.connect, input.readUInt32.2) := by
  rw [readMessage, if_pos h]

theorem readMessage_of_one {input body : DataStream}
    (h : input.readUInt32 = (1, body)) :
    readMessage input = readLogin body := by
  rw [readMessage, h]
  rfl

/-- What a greeter writes is read back. -/
theorem reads_readMessage {m : GreeterMessage} (hm : m.Sendable) :
    Reads readMessage m.write m := by
  intro rest status
  cases m with
  | connect =>
      have hnumber := readUInt32_writeUInt32 0 rest status
      rw [GreeterMessage.write, readMessage_of_zero (by rw [hnumber]), hnumber]
  | login user password sessionType fileName =>
      have hnumber := readUInt32_writeUInt32 1
        (writeString user ++ (writeString password ++
          (writeUInt32 sessionType ++ writeString fileName)) ++ rest) status
      rw [GreeterMessage.write, GreeterProxy.login, List.append_assoc,
        readMessage_of_one hnumber,
        reads_readLogin sessionType hm.1 hm.2.1 hm.2.2]
  | unknown message => exact False.elim hm

/-- A message that is cut is read as a connection or as a login, and as what
it was only if zeros are missing. -/
theorem readMessage_cut {m : GreeterMessage} (hm : m.Sendable) {n : Nat}
    (hn : n < m.write.length) (status : StreamStatus) :
    (readMessage ⟨m.write.take n, status⟩).1.emits = true ∧
      (readMessage ⟨m.write.take n, status⟩).2.bytes = [] ∧
        ((readMessage ⟨m.write.take n, status⟩).1 = m →
          ∀ b ∈ m.write.drop n, b = 0) := by
  cases m with
  | connect =>
      have hshort : ((writeUInt32 0).take n).length < 4 := by
        rw [List.length_take]
        exact Nat.lt_of_le_of_lt (Nat.min_le_left ..)
          (length_writeUInt32 0 ▸ hn)
      obtain ⟨hvalue, hrest⟩ := readUInt32_of_short hshort status
      rw [GreeterMessage.write, readMessage_of_zero hvalue]
      exact ⟨rfl, hrest, fun _ b hb => eq_zero_of_mem_drop hb⟩
  | login user password sessionType fileName =>
      rw [GreeterMessage.write, GreeterProxy.login] at hn ⊢
      rcases Nat.lt_or_ge n 4 with hlt | hle
      · obtain ⟨hvalue, hrest⟩ := readUInt32_cut 1
          (writeString user ++ (writeString password ++
            (writeUInt32 sessionType ++ writeString fileName))) hlt status
        rw [readMessage_of_zero hvalue]
        exact ⟨rfl, hrest, fun heq => absurd heq (by simp)⟩
      · have hnumber := readUInt32_take 1
          (writeString user ++ (writeString password ++
            (writeUInt32 sessionType ++ writeString fileName))) hle status
        rw [readMessage_of_one hnumber, drop_writeUInt32_append hle]
        rw [List.length_append, length_writeUInt32] at hn
        obtain ⟨hrest, hzeros⟩ := cuts_readLogin sessionType hm.1 hm.2.1
          hm.2.2 (n - 4) (by omega) status
        exact ⟨readLogin_emits _, hrest, hzeros⟩
  | unknown message => exact False.elim hm

end SocketServer

/-- The reader of a greeter's messages. -/
def greeterReader : Unframed.Reader DataStream GreeterMessage UInt8 where
  bytes := DataStream.bytes
  fresh portion := ⟨portion, .ok⟩
  read := SocketServer.readMessage
  loop := SocketServer.readMessages
  known := GreeterMessage.emits
  encode := GreeterMessage.write

open SocketServer in
theorem greeterReader_lawful :
    greeterReader.Lawful GreeterMessage.Sendable 0 4 .connect where
  bytes_fresh _ := rfl
  loop_nil s hs := by
    change s.bytes = [] at hs
    change readMessages s = []
    rw [readMessages, dif_pos hs]
  loop_cons s hs := readMessages_of_ne_nil hs
  known m hm := by
    cases m with
    | unknown message => exact False.elim hm
    | _ => rfl
  whole m s rest hm hs := by
    obtain ⟨bytes, status⟩ := s
    obtain rfl : bytes = m.write ++ rest := hs
    change (readMessage _).1 = m ∧ (readMessage _).2.bytes = rest
    rw [reads_readMessage hm]
    exact ⟨rfl, rfl⟩
  cut m s n hm _ hn hs := by
    obtain ⟨bytes, status⟩ := s
    obtain rfl : bytes = m.write.take n := hs
    exact readMessage_cut hm hn status
  width_pos := by decide
  valid_first := trivial
  encode_first := rfl
  begins m hm := by
    cases m with
    | connect => exact begins_writeUInt32 (n := 0) (by decide) []
    | login user password sessionType fileName =>
        exact begins_writeUInt32 (n := 1) (by decide) _
    | unknown message => exact False.elim hm
  zeros s _ hzeros := by
    change (readMessage s).1 = _ ∧ (readMessage s).2.bytes = s.bytes.drop 4
    rw [readMessage_of_zero (readUInt32_of_zeros hzeros), readUInt32_bytes]
    exact ⟨rfl, rfl⟩

/-- A message of `DaemonMessages` with what follows its number. -/
inductive DaemonMessage where
  | loginSucceeded
  | loginFailed
  | informationMessage (message : QString)
  | unknown (message : UInt32)
deriving DecidableEq

namespace DaemonMessage

/-- What the socket server writes for a message. -/
def write : DaemonMessage → QByteArray
  | .loginSucceeded => writeUInt32 0
  | .loginFailed => writeUInt32 1
  | .informationMessage message => writeUInt32 2 ++ writeString message
  | .unknown message => writeUInt32 message

/-- Whether the greeter emits a signal for a message. -/
def emits : DaemonMessage → Bool
  | .unknown _ => false
  | _ => true

/-- The messages of the daemon, with a text whose length can be written. -/
def Sendable : DaemonMessage → Prop
  | .informationMessage message => 2 * message.length < 2 ^ 63
  | .unknown _ => False
  | _ => True

instance (m : DaemonMessage) : Decidable m.Sendable := by
  cases m <;> unfold Sendable <;> infer_instance

end DaemonMessage

namespace GreeterProxy

/-- One turn of the loop in `GreeterProxy::readyRead`. -/
def readMessage (input : DataStream) : DaemonMessage × DataStream :=
  let message := input.readUInt32
  if message.1 = 0 then (.loginSucceeded, message.2)
  else if message.1 = 1 then (.loginFailed, message.2)
  else if message.1 = 2 then
    let text := message.2.readString
    (.informationMessage text.1, text.2)
  else (.unknown message.1, message.2)

theorem readMessage_of_zero {input : DataStream}
    (h : input.readUInt32.1 = 0) :
    readMessage input = (.loginSucceeded, input.readUInt32.2) := by
  rw [readMessage, if_pos h]

theorem readMessage_of_one {input rest : DataStream}
    (h : input.readUInt32 = (1, rest)) :
    readMessage input = (.loginFailed, rest) := by
  rw [readMessage, h]
  rfl

theorem readMessage_of_two {input body : DataStream}
    (h : input.readUInt32 = (2, body)) :
    readMessage input =
      (.informationMessage body.readString.1, body.readString.2) := by
  rw [readMessage, h]
  rfl

/-- A turn reads the message's number at least. -/
theorem readMessage_suffix (input : DataStream) :
    (readMessage input).2.bytes <:+ input.bytes.drop 4 := by
  rw [← readUInt32_bytes]
  unfold readMessage
  simp only
  split
  · exact List.suffix_rfl
  · split
    · exact List.suffix_rfl
    · split
      · exact readString_suffix _
      · exact List.suffix_rfl

theorem readMessage_length_lt {input : DataStream}
    (h : input.bytes ≠ []) :
    (readMessage input).2.bytes.length < input.bytes.length :=
  length_lt_of_suffix_drop (by decide) (readMessage_suffix input) h

/-- The loop in `GreeterProxy::readyRead`. -/
def readMessages (input : DataStream) : List DaemonMessage :=
  if _h : input.bytes = [] then []
  else (readMessage input).1 :: readMessages (readMessage input).2
termination_by input.bytes.length
decreasing_by exact readMessage_length_lt _h

/-- `GreeterProxy::readyRead` on what is readable: the signals it emits. -/
def readyRead (portion : QByteArray) : List DaemonMessage :=
  (readMessages ⟨portion, .ok⟩).filter DaemonMessage.emits

/-- What the daemon writes is read back. -/
theorem reads_readMessage {m : DaemonMessage} (hm : m.Sendable) :
    Reads readMessage m.write m := by
  intro rest status
  cases m with
  | loginSucceeded =>
      have hnumber := readUInt32_writeUInt32 0 rest status
      rw [DaemonMessage.write, readMessage_of_zero (by rw [hnumber]), hnumber]
  | loginFailed =>
      have hnumber := readUInt32_writeUInt32 1 rest status
      rw [DaemonMessage.write, readMessage_of_one hnumber]
  | informationMessage message =>
      have hnumber := readUInt32_writeUInt32 2 (writeString message ++ rest)
        status
      rw [DaemonMessage.write, List.append_assoc, readMessage_of_two hnumber,
        readString_writeString hm]
  | unknown message => exact False.elim hm

/-- A number that is cut is read as a success. -/
theorem readMessage_cut_number (n : UInt32) (body : QByteArray) {k : Nat}
    (hk : k < 4) (status : StreamStatus) :
    (readMessage ⟨(writeUInt32 n ++ body).take k, status⟩).1 =
        .loginSucceeded ∧
      (readMessage ⟨(writeUInt32 n ++ body).take k, status⟩).2.bytes =
        [] := by
  obtain ⟨hvalue, hrest⟩ := readUInt32_cut n body hk status
  rw [readMessage_of_zero hvalue]
  exact ⟨rfl, hrest⟩

/-- A message that is cut is read as a success or as a text, and as what it
was only if zeros are missing. -/
theorem readMessage_cut {m : DaemonMessage} (hm : m.Sendable) {n : Nat}
    (hn : n < m.write.length) (status : StreamStatus) :
    (readMessage ⟨m.write.take n, status⟩).1.emits = true ∧
      (readMessage ⟨m.write.take n, status⟩).2.bytes = [] ∧
        ((readMessage ⟨m.write.take n, status⟩).1 = m →
          ∀ b ∈ m.write.drop n, b = 0) := by
  cases m with
  | loginSucceeded =>
      obtain ⟨hvalue, hrest⟩ := readMessage_cut_number 0 []
        (length_writeUInt32 0 ▸ hn) status
      rw [List.append_nil] at hvalue hrest
      rw [DaemonMessage.write, hvalue]
      exact ⟨rfl, hrest, fun _ b hb => eq_zero_of_mem_drop hb⟩
  | loginFailed =>
      obtain ⟨hvalue, hrest⟩ := readMessage_cut_number 1 []
        (length_writeUInt32 1 ▸ hn) status
      rw [List.append_nil] at hvalue hrest
      rw [DaemonMessage.write, hvalue]
      exact ⟨rfl, hrest, fun heq => absurd heq (by simp)⟩
  | informationMessage message =>
      rw [DaemonMessage.write] at hn ⊢
      rcases Nat.lt_or_ge n 4 with hlt | hle
      · obtain ⟨hvalue, hrest⟩ := readMessage_cut_number 2
          (writeString message) hlt status
        rw [hvalue]
        exact ⟨rfl, hrest, fun heq => absurd heq (by simp)⟩
      · have hnumber := readUInt32_take 2 (writeString message) hle status
        rw [readMessage_of_two hnumber, drop_writeUInt32_append hle]
        rw [List.length_append, length_writeUInt32] at hn
        obtain ⟨hrest, hzeros⟩ :=
          cuts_readString hm (n - 4) (by omega) status
        exact ⟨rfl, hrest,
          fun heq => hzeros (DaemonMessage.informationMessage.inj heq)⟩
  | unknown message => exact False.elim hm

end GreeterProxy

/-- The reader of the daemon's messages. -/
def daemonReader : Unframed.Reader DataStream DaemonMessage UInt8 where
  bytes := DataStream.bytes
  fresh portion := ⟨portion, .ok⟩
  read := GreeterProxy.readMessage
  loop := GreeterProxy.readMessages
  known := DaemonMessage.emits
  encode := DaemonMessage.write

open GreeterProxy in
theorem daemonReader_lawful :
    daemonReader.Lawful DaemonMessage.Sendable 0 4 .loginSucceeded where
  bytes_fresh _ := rfl
  loop_nil s hs := by
    change s.bytes = [] at hs
    change readMessages s = []
    rw [readMessages, dif_pos hs]
  loop_cons s hs := by
    change s.bytes ≠ [] at hs
    change readMessages s = _
    rw [readMessages, dif_neg hs]
    rfl
  known m hm := by
    cases m with
    | unknown message => exact False.elim hm
    | _ => rfl
  whole m s rest hm hs := by
    obtain ⟨bytes, status⟩ := s
    obtain rfl : bytes = m.write ++ rest := hs
    change (readMessage _).1 = m ∧ (readMessage _).2.bytes = rest
    rw [reads_readMessage hm]
    exact ⟨rfl, rfl⟩
  cut m s n hm _ hn hs := by
    obtain ⟨bytes, status⟩ := s
    obtain rfl : bytes = m.write.take n := hs
    exact readMessage_cut hm hn status
  width_pos := by decide
  valid_first := trivial
  encode_first := rfl
  begins m hm := by
    cases m with
    | loginSucceeded => exact begins_writeUInt32 (n := 0) (by decide) []
    | loginFailed => exact begins_writeUInt32 (n := 1) (by decide) []
    | informationMessage message =>
        exact begins_writeUInt32 (n := 2) (by decide) _
    | unknown message => exact False.elim hm
  zeros s _ hzeros := by
    change (readMessage s).1 = _ ∧ (readMessage s).2.bytes = s.bytes.drop 4
    rw [readMessage_of_zero (readUInt32_of_zeros hzeros), readUInt32_bytes]
    exact ⟨rfl, rfl⟩

/-- In both directions, the signals are those of the messages that were sent
if and only if each portion is a number of whole messages. -/
theorem portions_signalled_iff (ms : List GreeterMessage)
    (ds : List DaemonMessage) (portions replies : List QByteArray)
    (hms : ∀ m ∈ ms, m.Sendable) (hds : ∀ m ∈ ds, m.Sendable)
    (hportions : portions.flatten = ms.flatMap GreeterMessage.write)
    (hreplies : replies.flatten = ds.flatMap DaemonMessage.write) :
    (portions.flatMap SocketServer.signalled = ms ↔
      greeterReader.Whole ms portions) ∧
    (replies.flatMap GreeterProxy.readyRead = ds ↔
      daemonReader.Whole ds replies) :=
  ⟨greeterReader_lawful.emitted_eq_iff hms hportions,
    daemonReader_lawful.emitted_eq_iff hds hreplies⟩

/-- Two messages of a greeter in one portion, and two of the daemon in a
portion each. -/
theorem portions_signalled_alice :
    ([GreeterMessage.write .connect ++
        GreeterMessage.write (.login "alice" "secret" 1 "plasma")].flatMap
          SocketServer.signalled =
      [.connect, .login "alice" "secret" 1 "plasma"]) ∧
    ([DaemonMessage.write (.informationMessage "Sorry"),
        DaemonMessage.write .loginFailed].flatMap GreeterProxy.readyRead =
      [.informationMessage "Sorry", .loginFailed]) := by
  have hiff := portions_signalled_iff
    [.connect, .login "alice" "secret" 1 "plasma"]
    [.informationMessage "Sorry", .loginFailed]
    [GreeterMessage.write .connect ++
      GreeterMessage.write (.login "alice" "secret" 1 "plasma")]
    [DaemonMessage.write (.informationMessage "Sorry"),
      DaemonMessage.write .loginFailed]
    (by decide) (by decide) (by decide) (by decide)
  exact ⟨hiff.1.2 ⟨[[.connect, .login "alice" "secret" 1 "plasma"]], rfl,
      by decide⟩,
    hiff.2.2 ⟨[[.informationMessage "Sorry"], [.loginFailed]], rfl,
      by decide⟩⟩

/-- A login that is cut in its password is signalled without it. -/
theorem portions_not_signalled :
    ¬ ∀ (ms : List GreeterMessage) (portions : List QByteArray),
      (∀ m ∈ ms, m.Sendable) →
        portions.flatten = ms.flatMap GreeterMessage.write →
          portions.flatMap SocketServer.signalled = ms := by
  intro hall
  have hstream : [(GreeterMessage.write
        (.login "alice" "secret" 1 "plasma")).take 24,
      (GreeterMessage.write (.login "alice" "secret" 1 "plasma")).drop
        24].flatten =
      [.login "alice" "secret" 1 "plasma"].flatMap GreeterMessage.write := by
    decide
  have hsignalled := hall _ _ (by decide) hstream
  obtain ⟨groups, hflatten, hgroups⟩ :=
    (greeterReader_lawful.emitted_eq_iff (by decide) hstream).1 hsignalled
  obtain ⟨g, gs, rfl, hg, hgs⟩ := List.map_eq_cons_iff.1 hgroups
  obtain ⟨g', gs', rfl, hg', hgs'⟩ := List.map_eq_cons_iff.1 hgs
  obtain rfl := List.map_eq_nil_iff.1 hgs'
  rw [List.flatten_cons, List.flatten_cons, List.flatten_nil,
    List.append_nil, List.append_eq_singleton_iff] at hflatten
  rcases hflatten with ⟨rfl, _⟩ | ⟨_, rfl⟩
  · exact absurd hg (by decide)
  · exact absurd hg' (by decide)

end PlasmaLogin

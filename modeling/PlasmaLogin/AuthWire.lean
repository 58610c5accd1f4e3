/-
The payloads of the daemon/helper protocol: the operators of `AuthMessages.h`
and the places that read with them.  Every message comes back from its bytes,
up to the number of prompts a request can announce.
-/
import PlasmaLogin.AuthMessages
import PlasmaLogin.DataStreamTypes

namespace PlasmaLogin

open DataStream

/-- `operator>>` of the enumerations: a number outside the range is corrupt
data and leaves the variable as it is. -/
def readEnum {α : Type} (rejects : Int → Bool) (cast : Int → α) (m : α)
    (s : DataStream) : α × DataStream :=
  let i := s.readInt32
  if rejects i.1.toInt then (m, i.2.setStatus .readCorruptData)
  else (cast i.1.toInt, i.2)

theorem reads_readEnum {α : Type} {rejects : Int → Bool} {cast : Int → α}
    (m : α) {i : Int32} (h : rejects i.toInt = false) :
    Reads (readEnum rejects cast m) (writeInt32 i) (cast i.toInt) := by
  intro rest status
  rw [readEnum, reads_readInt32 i]
  simp [h]

namespace Msg

/-- `Msg(i)` for the numbers that get that far. -/
def ofCode : Int → Msg
  | 1 => .hello
  | 2 => .error
  | 3 => .info
  | 4 => .request
  | 5 => .authenticated
  | 6 => .sessionStatus
  | 7 => .displayServerStarted
  | _ => .unknown

def write (m : Msg) : QByteArray := writeInt32 (Int32.ofInt m.code)

def read : Msg → DataStream → Msg × DataStream :=
  readEnum (fun i => i ≥ 8 || i ≤ 0) ofCode

theorem reads_read (first : Msg) {m : Msg} (hm : m ≠ .unknown) :
    Reads (read first) m.write m := by
  cases m with
  | unknown => exact absurd rfl hm
  | _ => exact reads_readEnum first rfl

end Msg

namespace AuthError

def code : AuthError → Int
  | .none => 0
  | .unknown => 1
  | .authentication => 2
  | .internal => 3

/-- `Auth::Error(i)` for the numbers that get that far. -/
def ofCode : Int → AuthError
  | 1 => .unknown
  | 2 => .authentication
  | 3 => .internal
  | _ => .none

def write (m : AuthError) : QByteArray := writeInt32 (Int32.ofInt m.code)

def read : AuthError → DataStream → AuthError × DataStream :=
  readEnum (fun i => i ≥ 4 || i < 0) ofCode

theorem reads_read (first m : AuthError) : Reads (read first) m.write m := by
  cases m <;> exact reads_readEnum first rfl

end AuthError

namespace AuthInfo

def code : AuthInfo → Int
  | .none => 0
  | .unknown => 1
  | .passChangeRequired => 2

/-- `Auth::Info(i)` for the numbers that get that far. -/
def ofCode : Int → AuthInfo
  | 1 => .unknown
  | 2 => .passChangeRequired
  | _ => .none

def write (m : AuthInfo) : QByteArray := writeInt32 (Int32.ofInt m.code)

def read : AuthInfo → DataStream → AuthInfo × DataStream :=
  readEnum (fun i => i ≥ 3 || i < 0) ofCode

theorem reads_read (first m : AuthInfo) : Reads (read first) m.write m := by
  cases m <;> exact reads_readEnum first rfl

end AuthInfo

namespace QString

/-- `QString::indexOf` of a character; minus one when there is none. -/
def indexOf (c : UInt16) (s : QString) : Int :=
  if c ∈ s then s.idxOf c else -1

/-- `QString::left`; a negative length is the whole string. -/
def left (n : Int) (s : QString) : QString :=
  if n < 0 then s else s.take n.toNat

/-- `QString::mid` from a position on. -/
def mid (position : Int) (s : QString) : QString := s.drop position.toNat

/-- The first separator splits a string in two. -/
theorem left_mid_indexOf {c : UInt16} {name : QString} (h : c ∉ name)
    (value : QString) :
    left (indexOf c (name ++ c :: value)) (name ++ c :: value) = name ∧
      mid (indexOf c (name ++ c :: value) + 1) (name ++ c :: value) =
        value := by
  have hposition : indexOf c (name ++ c :: value) = (name.length : Int) := by
    rw [indexOf, if_pos (by simp), List.idxOf_append_of_notMem h,
      List.idxOf_cons_self, Nat.add_zero]
  have hnonneg : ¬ ((name.length : Int) < 0) := by omega
  rw [hposition]
  constructor
  · rw [left, if_neg hnonneg, Int.toNat_natCast, List.take_left]
  · rw [mid, show ((name.length : Int) + 1).toNat = name.length + 1 by omega]
    simp [List.drop_append]

end QString

namespace QProcessEnvironment

/-- `NAME=VALUE`. -/
def entry (v : Sigma fun _ : QString => QString) : QString :=
  v.1 ++ 61 :: v.2

/-- `QProcessEnvironment::toStringList`. -/
def toStringList (env : QProcessEnvironment) : List QString :=
  env.entries.map entry

def write (env : QProcessEnvironment) : QByteArray :=
  writeStringList env.toStringList

/-- One turn of the loop in `operator>>`. -/
def insertEntry (env : QProcessEnvironment) (s : QString) :
    QProcessEnvironment :=
  let pos := s.indexOf 61
  env.insert (s.left pos) (s.mid (pos + 1))

def read (env : QProcessEnvironment) (s : DataStream) :
    QProcessEnvironment × DataStream :=
  let l := s.readStringList
  (l.1.foldl insertEntry env, l.2)

theorem insertEntry_entry {v : Sigma fun _ : QString => QString}
    (h : 61 ∉ v.1) (env : QProcessEnvironment) :
    env.insertEntry (entry v) =
      env.insert v.1 v.2 := by
  obtain ⟨hname, hvalue⟩ := QString.left_mid_indexOf h v.2
  rw [insertEntry, entry, hname, hvalue]

/-- The listed variables win over those that are there. -/
theorem lookup_foldl_insertEntry
    {vars : List (Sigma fun _ : QString => QString)}
    (hkeys : vars.NodupKeys) (h : ∀ v ∈ vars, 61 ∉ v.1)
    (env : QProcessEnvironment) (name : QString) :
    ((vars.map entry).foldl insertEntry env).lookup name =
      (vars.dlookup name).or (env.lookup name) := by
  induction vars generalizing env with
  | nil => rfl
  | cons v vars ih =>
      rw [List.nodupKeys_cons] at hkeys
      rw [List.forall_mem_cons] at h
      rw [List.map_cons, List.foldl_cons, insertEntry_entry h.1,
        ih hkeys.2 h.2]
      by_cases hname : name = v.1
      · subst hname
        rw [List.dlookup_eq_none.2 hkeys.1, List.dlookup_cons_eq]
        exact AList.lookup_insert _
      · rw [List.dlookup_cons_ne _ _ hname]
        exact congrArg _ (AList.lookup_insert_ne hname)

/-- Whether the strings the environment is sent as can be written. -/
structure Fits (env : QProcessEnvironment) : Prop where
  count : env.entries.length < 2 ^ 63
  strings : ∀ v ∈ env.entries, 2 * (entry v).length < 2 ^ 63

/-- The strings of a list are inserted one by one. -/
theorem read_writeStringList {l : List QString} (hcount : l.length < 2 ^ 63)
    (hfits : ∀ s ∈ l, 2 * s.length < 2 ^ 63) (env : QProcessEnvironment)
    (rest : QByteArray) (status : StreamStatus) :
    read env ⟨writeStringList l ++ rest, status⟩ =
      (l.foldl insertEntry env, ⟨rest, status⟩) := by
  have hlist : Reads readStringList (writeStringList l) l :=
    reads_readStringList hcount hfits
  rw [read, hlist]

/-- An environment whose names have no separator comes back. -/
theorem read_write {env : QProcessEnvironment} (hfits : env.Fits)
    (hnames : ∀ v ∈ env.entries, 61 ∉ v.1) (rest : QByteArray)
    (status : StreamStatus) :
    ∃ env' : QProcessEnvironment,
      read ∅ ⟨env.write ++ rest, status⟩ = (env', ⟨rest, status⟩) ∧
        ∀ name, env'.lookup name = env.lookup name := by
  have hcount : env.toStringList.length < 2 ^ 63 := by
    rw [toStringList, List.length_map]
    exact hfits.count
  rw [write, read_writeStringList hcount
    (List.forall_mem_map.2 hfits.strings)]
  refine ⟨_, rfl, fun name => ?_⟩
  exact (lookup_foldl_insertEntry env.nodupKeys hnames ∅ name).trans
    (Option.or_none ..)

end QProcessEnvironment

/-- `AuthPrompt::Type` as a number. -/
def PromptType.code : PromptType → Int32
  | .none => 0
  | .unknown => 1
  | .changeCurrent => 0x10
  | .changeNew => 0x11
  | .changeRepeat => 0x12
  | .loginUser => 0x80
  | .loginPassword => 0x81

/-- A prompt with its type as the number that is sent; any number is taken
for a type when it arrives. -/
structure WirePrompt where
  type : Int32
  message : QString
  hidden : Bool
  response : QByteArray
deriving DecidableEq

theorem PromptType.code_injective {t t' : PromptType}
    (h : t.code = t'.code) : t = t' := by
  cases t <;> cases t' <;> first | rfl | exact absurd h (by decide)

def Prompt.wire (p : Prompt) : WirePrompt :=
  ⟨p.type.code, p.message, p.hidden, p.response⟩

/-- No two prompts are sent alike. -/
theorem Prompt.wire_injective {p q : Prompt} (h : p.wire = q.wire) : p = q := by
  obtain ⟨type, response, message, hidden⟩ := p
  obtain ⟨type', response', message', hidden'⟩ := q
  rw [wire, wire, WirePrompt.mk.injEq] at h
  obtain ⟨hcode, rfl, rfl, rfl⟩ := h
  obtain rfl : type = type' := PromptType.code_injective hcode
  rfl

namespace WirePrompt

def write (m : WirePrompt) : QByteArray :=
  writeInt32 m.type ++ (writeString m.message ++
    (writeBool m.hidden ++ writeByteArray m.response))

def read (s : DataStream) : WirePrompt × DataStream :=
  let type := s.readInt32
  let message := type.2.readString
  let hidden := message.2.readBool
  let response := hidden.2.readByteArray
  (⟨type.1, message.1, hidden.1, response.1⟩, response.2)

/-- Whether the texts of a prompt can be written. -/
structure Fits (m : WirePrompt) : Prop where
  message : 2 * m.message.length < 2 ^ 63
  response : m.response.length < 2 ^ 63

theorem reads_read {m : WirePrompt} (h : m.Fits) : Reads read m.write m := by
  intro rest status
  rw [write]
  simp only [List.append_assoc]
  rw [read, reads_readInt32, readString_writeString h.message,
    reads_readBool, reads_readByteArray h.response]

/-- `operator<<` of a `Request`, whose number of prompts is cut to 32 bits. -/
def writeRequest (prompts : List WirePrompt) : QByteArray :=
  writeInt32 (Int32.ofNat prompts.length) ++ prompts.flatMap write

/-- `operator>>` of a `Request`. -/
def readRequest (m : List WirePrompt) (s : DataStream) :
    List WirePrompt × DataStream :=
  let length := s.readInt32
  let prompts := readMany read length.1.toInt.toNat length.2
  if (prompts.1.length : Int) ≠ length.1.toInt then
    (m, prompts.2.setStatus .readCorruptData)
  else (prompts.1, prompts.2)

theorem reads_readRequest (m : List WirePrompt) {prompts : List WirePrompt}
    (hfits : ∀ p ∈ prompts, p.Fits) (h : prompts.length < 2 ^ 31) :
    Reads (readRequest m) (writeRequest prompts) prompts := by
  intro rest status
  have hcount : (Int32.ofNat prompts.length).toInt = prompts.length :=
    Int32.toInt_ofNat_of_lt h
  rw [writeRequest, List.append_assoc, readRequest, reads_readInt32]
  simp only [hcount, Int.toNat_natCast]
  rw [Reads.many (fun p hp => reads_read (hfits p hp))]
  simp

/-- A request of more prompts does not come back. -/
theorem readRequest_of_long (m : List WirePrompt) {prompts : List WirePrompt}
    (h : ¬ prompts.length < 2 ^ 31) (rest : QByteArray) :
    readRequest m ⟨writeRequest prompts ++ rest, .ok⟩ ≠
      (prompts, ⟨rest, .ok⟩) := by
  rw [writeRequest, List.append_assoc, readRequest, reads_readInt32]
  simp only
  intro hread
  split at hread
  next hwrong =>
    have hstatus := congrArg (fun r => r.2.status) hread
    exact setStatus_status_ne_ok (by decide) _ hstatus
  next hcount =>
    rw [not_not] at hcount
    have hlength := congrArg (fun r => r.1.length) hread
    have hlt := (Int32.ofNat prompts.length).toInt_lt
    simp only at hlength
    omega

end WirePrompt

/-- The messages of the protocol, with what follows their operation codes.
The daemon answers a user with an environment, and two more messages with
their bare codes. -/
inductive Message where
  | hello (id : Int64)
  | error (message : QString) (type : AuthError)
  | info (message : QString) (type : AuthInfo)
  | request (prompts : List WirePrompt)
  | authenticated (user : QString)
  | environment (env : QProcessEnvironment)
  | sessionStatus (success : Bool)
  | sessionStatusReply
  | displayServerStarted (displayName : QString)
  | displayServerStartedReply

/-- The places that read a frame: the socket server and the daemon's loop, and
in the helper one for each message that is replied to. -/
inductive Receiver where
  | handleNewConnection
  | dataPending
  | request
  | authenticated
  | sessionOpened
  | displayServerStarted
deriving DecidableEq

namespace Message

def write : Message → QByteArray
  | .hello id => Msg.hello.write ++ writeInt64 id
  | .error message type =>
      Msg.error.write ++ (writeString message ++ type.write)
  | .info message type =>
      Msg.info.write ++ (writeString message ++ type.write)
  | .request prompts => Msg.request.write ++ WirePrompt.writeRequest prompts
  | .authenticated user => Msg.authenticated.write ++ writeString user
  | .environment env => Msg.authenticated.write ++ env.write
  | .sessionStatus success => Msg.sessionStatus.write ++ writeBool success
  | .sessionStatusReply => Msg.sessionStatus.write
  | .displayServerStarted displayName =>
      Msg.displayServerStarted.write ++ writeString displayName
  | .displayServerStartedReply => Msg.displayServerStarted.write

/-- Whether a message is of a kind that a place waits for. -/
def awaitedBy : Message → Receiver → Bool
  | .hello _, .handleNewConnection => true
  | .error _ _, .dataPending | .info _ _, .dataPending
  | .request _, .dataPending | .authenticated _, .dataPending
  | .sessionStatus _, .dataPending | .displayServerStarted _, .dataPending =>
      true
  | .request _, .request => true
  | .environment _, .authenticated => true
  | .sessionStatusReply, .sessionOpened => true
  | .displayServerStartedReply, .displayServerStarted => true
  | _, _ => false

/-- Two messages with the same contents; an environment is a map. -/
def Same : Message → Message → Prop
  | .environment env, .environment env' =>
      ∀ name, env.lookup name = env'.lookup name
  | m, m' => m = m'

theorem Same.refl (m : Message) : m.Same m := by
  cases m <;> first | rfl | exact fun _ => rfl

/-- Whether the lengths of a message's parts can be written and the names of
its variables have no separator. -/
def Fits : Message → Prop
  | .error text _ | .info text _ | .authenticated text
  | .displayServerStarted text => 2 * text.length < 2 ^ 63
  | .request prompts => ∀ p ∈ prompts, p.Fits
  | .environment env => env.Fits ∧ ∀ v ∈ env.entries, 61 ∉ v.1
  | _ => True

/-- The number of prompts of a message. -/
def promptCount : Message → Nat
  | .request prompts => prompts.length
  | _ => 0

end Message

namespace Receiver

/-- The cases of the loop in `Auth::Private::dataPending`; other codes have no
message. -/
def readFrame (m : Msg) (s : DataStream) : Option Message × DataStream :=
  match m with
  | .error =>
      let message := s.readString
      let type := AuthError.read .none message.2
      (some (.error message.1 type.1), type.2)
  | .info =>
      let message := s.readString
      let type := AuthInfo.read .none message.2
      (some (.info message.1 type.1), type.2)
  | .request =>
      let r := WirePrompt.readRequest [] s
      (some (.request r.1), r.2)
  | .authenticated =>
      let user := s.readString
      (some (.authenticated user.1), user.2)
  | .sessionStatus =>
      let status := s.readBool
      (some (.sessionStatus status.1), status.2)
  | .displayServerStarted =>
      let displayName := s.readString
      (some (.displayServerStarted displayName.1), displayName.2)
  | _ => (none, s)

/-- What a place reads; nothing when the operation code is a wrong one. -/
def read (r : Receiver) (s : DataStream) : Option Message × DataStream :=
  let m := Msg.read .unknown s
  match r with
  | .handleNewConnection =>
      let id := m.2.readInt64
      (if m.1 = .hello then some (.hello id.1) else none, id.2)
  | .dataPending => readFrame m.1 m.2
  | .request =>
      let response := WirePrompt.readRequest [] m.2
      (if m.1 = .request then some (.request response.1) else none,
        response.2)
  | .authenticated =>
      let env := QProcessEnvironment.read ∅ m.2
      (if m.1 = .authenticated then some (.environment env.1) else none,
        env.2)
  | .sessionOpened =>
      (if m.1 = .sessionStatus then some .sessionStatusReply else none, m.2)
  | .displayServerStarted =>
      (if m.1 = .displayServerStarted then some .displayServerStartedReply
        else none, m.2)

end Receiver

namespace Message

/-- A place finds a message with the same contents, and nothing has gone wrong
or been read beyond it. -/
def Restored (m : Message) (r : Receiver) (rest : QByteArray) : Prop :=
  ∃ m' : Message, r.read ⟨m.write ++ rest, .ok⟩ = (some m', ⟨rest, .ok⟩) ∧
    m'.Same m

theorem restored_of_reads {m : Message} {r : Receiver} {rest : QByteArray}
    (h : r.read ⟨m.write ++ rest, .ok⟩ = (some m, ⟨rest, .ok⟩)) :
    m.Restored r rest :=
  ⟨m, h, Same.refl m⟩

/-- What the daemon's loop reads of a frame, its code taken off. -/
theorem restored_of_readFrame {m : Message} {c : Msg} (hc : c ≠ .unknown)
    {bytes rest : QByteArray} (hwrite : m.write = c.write ++ bytes)
    (h : Receiver.readFrame c ⟨bytes ++ rest, .ok⟩ =
      (some m, ⟨rest, .ok⟩)) : m.Restored .dataPending rest := by
  apply restored_of_reads
  rw [hwrite, List.append_assoc, Receiver.read, Msg.reads_read .unknown hc]
  exact h

theorem restored_dataPending {m : Message}
    (hawaited : m.awaitedBy .dataPending = true) (hfits : m.Fits)
    (h : m.promptCount < 2 ^ 31) (rest : QByteArray) :
    m.Restored .dataPending rest := by
  cases m with
  | error message type =>
      apply restored_of_readFrame (c := .error) (by decide) rfl
      rw [List.append_assoc, Receiver.readFrame, readString_writeString hfits,
        AuthError.reads_read]
  | info message type =>
      apply restored_of_readFrame (c := .info) (by decide) rfl
      rw [List.append_assoc, Receiver.readFrame, readString_writeString hfits,
        AuthInfo.reads_read]
  | request prompts =>
      apply restored_of_readFrame (c := .request) (by decide) rfl
      rw [Receiver.readFrame, WirePrompt.reads_readRequest [] hfits h]
  | authenticated user =>
      apply restored_of_readFrame (c := .authenticated) (by decide) rfl
      rw [Receiver.readFrame, readString_writeString hfits]
  | sessionStatus success =>
      apply restored_of_readFrame (c := .sessionStatus) (by decide) rfl
      rw [Receiver.readFrame, reads_readBool]
  | displayServerStarted displayName =>
      apply restored_of_readFrame (c := .displayServerStarted) (by decide) rfl
      rw [Receiver.readFrame, readString_writeString hfits]
  | _ => simp [awaitedBy] at hawaited

/-- The places that wait for a request read its prompts. -/
theorem read_request {r : Receiver} {prompts : List WirePrompt}
    (hawaited : (request prompts).awaitedBy r = true) (rest : QByteArray) :
    r.read ⟨(request prompts).write ++ rest, .ok⟩ =
      (some (request (WirePrompt.readRequest []
          ⟨WirePrompt.writeRequest prompts ++ rest, .ok⟩).1),
        (WirePrompt.readRequest []
          ⟨WirePrompt.writeRequest prompts ++ rest, .ok⟩).2) := by
  have hcode := Msg.reads_read .unknown (m := .request) (by decide)
    (WirePrompt.writeRequest prompts ++ rest) .ok
  cases r with
  | dataPending =>
      rw [write, List.append_assoc, Receiver.read, hcode]
      rfl
  | request =>
      rw [write, List.append_assoc, Receiver.read, hcode]
      rfl
  | _ => simp [awaitedBy] at hawaited

/-- A message with a count that fits is restored. -/
theorem restored {m : Message} {r : Receiver}
    (hawaited : m.awaitedBy r = true) (hfits : m.Fits)
    (h : m.promptCount < 2 ^ 31) (rest : QByteArray) :
    m.Restored r rest := by
  cases r with
  | dataPending => exact restored_dataPending hawaited hfits h rest
  | handleNewConnection =>
      cases m with
      | hello id =>
          apply restored_of_reads
          rw [write, List.append_assoc, Receiver.read,
            Msg.reads_read .unknown (by decide), reads_readInt64]
          rfl
      | _ => simp [awaitedBy] at hawaited
  | request =>
      cases m with
      | request prompts =>
          apply restored_of_reads
          rw [read_request hawaited, WirePrompt.reads_readRequest [] hfits h]
      | _ => simp [awaitedBy] at hawaited
  | authenticated =>
      cases m with
      | environment env =>
          obtain ⟨env', hread, hsame⟩ :=
            QProcessEnvironment.read_write hfits.1 hfits.2 rest .ok
          refine ⟨.environment env', ?_, hsame⟩
          rw [write, List.append_assoc, Receiver.read,
            Msg.reads_read .unknown (by decide), hread]
          rfl
      | _ => simp [awaitedBy] at hawaited
  | sessionOpened =>
      cases m with
      | sessionStatusReply =>
          apply restored_of_reads
          rw [write, Receiver.read, Msg.reads_read .unknown (by decide)]
          rfl
      | _ => simp [awaitedBy] at hawaited
  | displayServerStarted =>
      cases m with
      | displayServerStartedReply =>
          apply restored_of_reads
          rw [write, Receiver.read, Msg.reads_read .unknown (by decide)]
          rfl
      | _ => simp [awaitedBy] at hawaited

/-- A request with a count that does not fit is not restored. -/
theorem not_restored_of_long {m : Message} {r : Receiver}
    (hawaited : m.awaitedBy r = true) (h : ¬ m.promptCount < 2 ^ 31)
    (rest : QByteArray) : ¬ m.Restored r rest := by
  cases m with
  | request prompts =>
      rintro ⟨m', hread, hsame⟩
      obtain rfl : m' = .request prompts := by
        cases m' <;> exact hsame
      rw [read_request hawaited] at hread
      obtain ⟨hprompts, hrest⟩ := Prod.mk.inj hread
      have hprompts := Message.request.inj (Option.some.inj hprompts)
      exact WirePrompt.readRequest_of_long [] h rest (Prod.ext hprompts hrest)
  | _ => exact absurd (Nat.two_pow_pos 31) h

end Message

/-- A message is restored if and only if its number of prompts fits the count
it is sent with. -/
theorem message_restored_iff {m : Message} {r : Receiver}
    (hawaited : m.awaitedBy r = true) (hfits : m.Fits) (rest : QByteArray) :
    m.Restored r rest ↔ m.promptCount < 2 ^ 31 := by
  constructor
  · intro h
    by_contra hlong
    exact Message.not_restored_of_long hawaited hlong rest h
  · exact fun h => Message.restored hawaited hfits h rest

/-- A value with a separator in it is restored. -/
theorem message_restored_environment :
    Message.Restored
      (.environment (QProcessEnvironment.insert ∅ "XDG_SEAT_PATH" "a=b"))
      .authenticated [1, 2, 3] :=
  (message_restored_iff (m := .environment _) (r := .authenticated) rfl
    ⟨⟨by decide, by decide⟩, by decide⟩ [1, 2, 3]).2 (by decide)

/-- A request of `2 ^ 31` prompts is not. -/
theorem message_not_restored :
    ¬ ∀ (m : Message) (r : Receiver) (rest : QByteArray),
      m.awaitedBy r = true → m.Fits → m.Restored r rest := by
  intro hall
  obtain ⟨prompts, hlength, hfits⟩ : ∃ prompts : List WirePrompt,
      prompts.length = 2 ^ 31 ∧ ∀ p ∈ prompts, p.Fits := by
    refine ⟨List.replicate (2 ^ 31) (Prompt.wire {}), List.length_replicate,
      fun p hp => ?_⟩
    obtain rfl := List.eq_of_mem_replicate hp
    exact ⟨by decide, by decide⟩
  have hlong : ¬ (Message.request prompts).promptCount < 2 ^ 31 := by
    rw [Message.promptCount, hlength]
    exact Nat.lt_irrefl _
  exact Message.not_restored_of_long (r := .dataPending) rfl hlong []
    (hall _ .dataPending [] rfl hfits)

end PlasmaLogin

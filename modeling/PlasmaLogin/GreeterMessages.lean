/-
What a greeter writes for a login and what a display's socket server reads
from a greeter: the messages in the bytes of one notification, read one after
the other until none are left.
-/
import PlasmaLogin.DataStream

namespace PlasmaLogin

/-- A message of `GreeterMessages` with what follows its number. -/
inductive GreeterMessage where
  | connect
  | login (user password : QString) (sessionType : UInt32)
      (fileName : QString)
  | unknown (message : UInt32)
deriving DecidableEq

namespace SocketServer

open DataStream

/-- The `Login` case of the loop in `SocketServer::readyRead`. -/
def readLogin (input : DataStream) : GreeterMessage × DataStream :=
  let user := input.readString
  let password := user.2.readString
  let sessionType := password.2.readUInt32
  let fileName := sessionType.2.readString
  (.login user.1 password.1 sessionType.1 fileName.1, fileName.2)

/-- One turn of the loop in `SocketServer::readyRead`. -/
def readMessage (input : DataStream) : GreeterMessage × DataStream :=
  let message := input.readUInt32
  if message.1 = 0 then (.connect, message.2)
  else if message.1 = 1 then readLogin message.2
  else (.unknown message.1, message.2)

theorem readLogin_suffix (input : DataStream) :
    (readLogin input).2.bytes <:+ input.bytes := by
  unfold readLogin
  simp only
  have huser := input.readString_suffix
  have hpassword := input.readString.2.readString_suffix
  have htype := input.readString.2.readString.2.readUInt32_suffix
  have hname := input.readString.2.readString.2.readUInt32.2.readString_suffix
  exact hname.trans (htype.trans (hpassword.trans huser))

/-- A turn reads the message's number at least. -/
theorem readMessage_suffix (input : DataStream) :
    (readMessage input).2.bytes <:+ input.bytes.drop 4 := by
  rw [← readUInt32_bytes]
  unfold readMessage
  simp only
  split
  · exact List.suffix_rfl
  · split
    · exact readLogin_suffix _
    · exact List.suffix_rfl

theorem readMessage_length_lt {input : DataStream}
    (h : input.bytes ≠ []) :
    (readMessage input).2.bytes.length < input.bytes.length :=
  length_lt_of_suffix_drop (by decide) (readMessage_suffix input) h

/-- The loop in `SocketServer::readyRead`. -/
def readMessages (input : DataStream) : List GreeterMessage :=
  if _h : input.bytes = [] then []
  else (readMessage input).1 :: readMessages (readMessage input).2
termination_by input.bytes.length
decreasing_by exact readMessage_length_lt _h

theorem readMessages_of_ne_nil {input : DataStream} (h : input.bytes ≠ []) :
    readMessages input =
      (readMessage input).1 :: readMessages (readMessage input).2 := by
  rw [readMessages, dif_neg h]

end SocketServer

/-- The bytes of `GreeterProxy::login`. -/
def GreeterProxy.login (user password : QString) (sessionType : UInt32)
    (fileName : QString) : QByteArray :=
  DataStream.writeUInt32 1 ++ (DataStream.writeString user ++
    (DataStream.writeString password ++ (DataStream.writeUInt32 sessionType ++
      DataStream.writeString fileName)))

/-- A login a greeter writes is read as it was written. -/
theorem SocketServer.readMessages_login (user password fileName : QString)
    (huser : 2 * user.length < 2 ^ 63)
    (hpassword : 2 * password.length < 2 ^ 63)
    (hfileName : 2 * fileName.length < 2 ^ 63) (sessionType : UInt32)
    (rest : QByteArray) (status : StreamStatus) :
    readMessages
        ⟨GreeterProxy.login user password sessionType fileName ++ rest,
          status⟩ =
      .login user password sessionType fileName ::
        readMessages ⟨rest, status⟩ := by
  have hread : readMessage
      ⟨GreeterProxy.login user password sessionType fileName ++ rest,
        status⟩ =
      (.login user password sessionType fileName, ⟨rest, status⟩) := by
    rw [GreeterProxy.login]
    simp only [List.append_assoc]
    simp only [readMessage, readLogin, DataStream.readUInt32_writeUInt32,
      DataStream.readString_writeString huser,
      DataStream.readString_writeString hpassword,
      DataStream.readString_writeString hfileName]
    rfl
  rw [readMessages_of_ne_nil (List.cons_ne_nil _ _), hread]

end PlasmaLogin

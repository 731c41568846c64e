import ChatServer.Wire.ProtoWire
import ChatServer.Model.Protocol

/-!
The envelopes of chat.proto on the wire, and the check that both readers make on the
length of a body. The serializer is the protobuf library's: only the sizes that the proto3
encoding gives are assumed of it. A writer of that encoding stands at the end.
-/
namespace ChatWire
open ProtoWire ChatProtocol

def operationValue : RoomOperation → Int
  | .join => 0
  | .leave => 1
  | .create => 2
  | .other value => value

def eventValue : UserEventType → Int
  | .userJoined => 0
  | .userLeft => 1

def flag (b : Bool) : Int := if b then 1 else 0

def payloadNumber : Payload → Nat
  | .loginRequest _ => 10
  | .loginResponse _ => 11
  | .registrationRequest _ => 12
  | .registrationResponse _ => 13
  | .changePasswordRequest _ => 14
  | .changePasswordResponse _ => 15
  | .changeUsernameRequest _ => 16
  | .changeUsernameResponse _ => 17
  | .publicMessage _ => 18
  | .messageBroadcast _ => 19
  | .privateMessageRequest _ => 20
  | .roomOperationRequest _ => 21
  | .roomOperationResponse _ => 22
  | .historyMessageRequest _ => 23
  | .historyMessageResponse _ => 24
  | .serverNotification _ => 90
  | .errorResponse _ => 99

abbrev size (s : String) : Nat := s.utf8ByteSize

def timestampSize (t : Timestamp) : Nat := integerSize t.seconds + integerSize t.nanos

def broadcastSize (m : MessageBroadcast) : Nat :=
  stringSize (size m.fromUserId) + (stringSize (size m.fromUsername) +
    (stringSize (size m.content) +
      ((m.timestamp.map (fun t => blockSize (timestampSize t))).getD 0 +
        (m.roomName.map (fun r => blockSize (size r))).getD 0)))

def payloadSize : Payload → Nat
  | .loginRequest m => stringSize (size m.username) + stringSize (size m.password)
  | .loginResponse m =>
    integerSize (flag m.success) + (stringSize (size m.message) + stringSize (size m.userId))
  | .registrationRequest m => stringSize (size m.username) + stringSize (size m.password)
  | .registrationResponse m => integerSize (flag m.success) + stringSize (size m.message)
  | .changePasswordRequest m => stringSize (size m.oldPassword) + stringSize (size m.newPassword)
  | .changePasswordResponse m => integerSize (flag m.success) + stringSize (size m.message)
  | .changeUsernameRequest m => stringSize (size m.newUsername)
  | .changeUsernameResponse m =>
    integerSize (flag m.success) + (stringSize (size m.message) + stringSize (size m.newUsername))
  | .publicMessage m => stringSize (size m.content)
  | .messageBroadcast m => broadcastSize m
  | .privateMessageRequest m => stringSize (size m.toUsername) + stringSize (size m.content)
  | .roomOperationRequest m =>
    integerSize (operationValue m.operation) + stringSize (size m.roomName)
  | .roomOperationResponse m =>
    integerSize (flag m.success) + (integerSize (operationValue m.operation) +
      (stringSize (size m.roomName) + stringSize (size m.message)))
  | .historyMessageRequest m => stringSize (size m.roomName) + integerSize m.limit
  | .historyMessageResponse m =>
    stringSize (size m.roomName) + (m.messages.map (fun b => blockSize (broadcastSize b))).sum
  | .serverNotification m =>
    integerSize (eventValue m.eventType) + (stringSize (size m.userId) +
      (stringSize (size m.username) + stringSize (size m.message)))
  | .errorResponse m =>
    stringSize (size m.originalMessageId) + (integerSize m.errorCode +
      stringSize (size m.errorMessage))

/-- The bytes a payload adds to a one-byte tag: its number decides. -/
def extraTag (p : Payload) : Nat := if payloadNumber p < 16 then 0 else 1

theorem payload_number_bounds (p : Payload) : 10 ≤ payloadNumber p ∧ payloadNumber p < 2048 := by
  cases p <;> simp [payloadNumber]

def encodedSize (e : Envelope) : Nat :=
  stringSize (size e.messageId) +
    (e.payload.map fun p => blockSize (payloadSize p) + extraTag p).getD 0

/-- `SerializeToString`. It gives up on a message of 2 GiB and leaves the string empty. -/
class Serializer where
  serialize : Envelope → Bytes
  length_serialize : ∀ e, (serialize e).length =
    if encodedSize e < 2 ^ 31 then encodedSize e else 0

export Serializer (serialize length_serialize)

def maxBodyLength : Nat := 8192

theorem block_fits_iff {body : Nat} {tag : Nat} (short : tag ≤ 1) :
    (0 < blockSize body + tag ∧ blockSize body + tag < maxBodyLength) ↔
      body + tag ≤ 8188 := by
  have around : blockSize body ≤ 8191 - tag ↔ body + 3 ≤ 8191 - tag :=
    block_size_le_iff (by omega) (by omega)
  have positive : 0 < blockSize body := by
    unfold blockSize
    omega
  unfold maxBodyLength
  omega

section Readers
variable [Serializer]

/-- `do_read_header` of the client and of the server goes on to read the body. -/
def Accepted (e : Envelope) : Prop :=
  0 < (serialize e).length ∧ (serialize e).length < maxBodyLength

theorem accepted_iff (p : Payload) :
    Accepted (envelope p) ↔ payloadSize p + extraTag p ≤ 8188 := by
  have total : encodedSize (envelope p) = blockSize (payloadSize p) + extraTag p := by
    simp [encodedSize, envelope]
  have tag : extraTag p ≤ 1 := by
    unfold extraTag
    split <;> omega
  rw [← block_fits_iff tag, ← total]
  unfold Accepted maxBodyLength
  rw [length_serialize]
  split <;> omega

end Readers

section Writer

def timestampBytes (t : Timestamp) : Bytes := integerField 1 t.seconds ++ integerField 2 t.nanos

def timestampField (number : Nat) : Option Timestamp → Bytes
  | none => []
  | some t => lengthDelimited number (timestampBytes t)

def broadcastBytes (m : MessageBroadcast) : Bytes :=
  stringField 1 m.fromUserId ++ (stringField 2 m.fromUsername ++ (stringField 3 m.content ++
    (timestampField 4 m.timestamp ++ optionalString 5 m.roomName)))

def payloadBytes : Payload → Bytes
  | .loginRequest m => stringField 1 m.username ++ stringField 2 m.password
  | .loginResponse m =>
    integerField 1 (flag m.success) ++ (stringField 2 m.message ++ stringField 3 m.userId)
  | .registrationRequest m => stringField 1 m.username ++ stringField 2 m.password
  | .registrationResponse m => integerField 1 (flag m.success) ++ stringField 2 m.message
  | .changePasswordRequest m => stringField 1 m.oldPassword ++ stringField 2 m.newPassword
  | .changePasswordResponse m => integerField 1 (flag m.success) ++ stringField 2 m.message
  | .changeUsernameRequest m => stringField 1 m.newUsername
  | .changeUsernameResponse m =>
    integerField 1 (flag m.success) ++ (stringField 2 m.message ++ stringField 3 m.newUsername)
  | .publicMessage m => stringField 1 m.content
  | .messageBroadcast m => broadcastBytes m
  | .privateMessageRequest m => stringField 1 m.toUsername ++ stringField 2 m.content
  | .roomOperationRequest m =>
    integerField 1 (operationValue m.operation) ++ stringField 2 m.roomName
  | .roomOperationResponse m =>
    integerField 1 (flag m.success) ++ (integerField 2 (operationValue m.operation) ++
      (stringField 3 m.roomName ++ stringField 4 m.message))
  | .historyMessageRequest m => stringField 1 m.roomName ++ integerField 2 m.limit
  | .historyMessageResponse m =>
    stringField 1 m.roomName ++ m.messages.flatMap (fun b => lengthDelimited 2 (broadcastBytes b))
  | .serverNotification m =>
    integerField 1 (eventValue m.eventType) ++ (stringField 2 m.userId ++
      (stringField 3 m.username ++ stringField 4 m.message))
  | .errorResponse m =>
    stringField 1 m.originalMessageId ++ (integerField 2 m.errorCode ++
      stringField 3 m.errorMessage)

def encode (e : Envelope) : Bytes :=
  stringField 1 e.messageId ++ match e.payload with
    | some payload => lengthDelimited (payloadNumber payload) (payloadBytes payload)
    | none => []

theorem broadcast_bytes_length (m : MessageBroadcast) :
    (broadcastBytes m).length = broadcastSize m := by
  obtain ⟨fromUserId, fromUsername, content, timestamp, roomName⟩ := m
  cases timestamp <;> cases roomName <;>
    simp [broadcastBytes, broadcastSize, timestampField, timestampBytes, timestampSize,
      optionalString, string_field_length, integer_field_length, length_delimited_length]

theorem payload_bytes_length (p : Payload) : (payloadBytes p).length = payloadSize p := by
  cases p <;>
    simp [payloadBytes, payloadSize, string_field_length, integer_field_length,
      length_delimited_length, broadcast_bytes_length, List.length_flatMap]

theorem encode_length (e : Envelope) : (encode e).length = encodedSize e := by
  obtain ⟨messageId, payload⟩ := e
  cases payload with
  | none => simp [encode, encodedSize, string_field_length]
  | some p =>
    have bounds := payload_number_bounds p
    by_cases short : payloadNumber p < 16
    · simp [encode, encodedSize, extraTag, short, string_field_length, length_delimited_length,
        payload_bytes_length]
    · have large : 16 ≤ payloadNumber p := by omega
      simp [encode, encodedSize, extraTag, short, string_field_length, payload_bytes_length,
        length_delimited_length_two large bounds.2]

/-- A serializer that writes the proto3 encoding, the fields in the order of their numbers. -/
abbrev fieldsInOrder : Serializer where
  serialize := fun e => if encodedSize e < 2 ^ 31 then encode e else []
  length_serialize := by
    intro e
    split
    · exact encode_length e
    · rfl

end Writer

end ChatWire

import ChatServer.Atomic.Program

/-!
The messages of chat.proto and the rows of the three tables. Protobuf strings are
valid UTF-8, so they are `String`; `long long` ids are `Int`. A proto3 enum is open:
a client may send any integer, kept in `other`.
-/
namespace ChatProtocol

inductive RoomOperation where
  | join
  | leave
  | create
  | other (value : Int)
  deriving DecidableEq, Repr

inductive UserEventType where
  | userJoined
  | userLeft
  deriving DecidableEq, Repr

structure Timestamp where
  seconds : Int
  nanos : Int
  deriving DecidableEq, Repr

structure LoginRequest where
  username : String
  password : String
  deriving DecidableEq, Repr

structure LoginResponse where
  success : Bool
  message : String
  userId : String
  deriving DecidableEq, Repr

structure RegistrationRequest where
  username : String
  password : String
  deriving DecidableEq, Repr

structure RegistrationResponse where
  success : Bool
  message : String
  deriving DecidableEq, Repr

structure ChangePasswordRequest where
  oldPassword : String
  newPassword : String
  deriving DecidableEq, Repr

structure ChangePasswordResponse where
  success : Bool
  message : String
  deriving DecidableEq, Repr

structure ChangeUsernameRequest where
  newUsername : String
  deriving DecidableEq, Repr

structure ChangeUsernameResponse where
  success : Bool
  message : String
  newUsername : String
  deriving DecidableEq, Repr

structure PublicMessage where
  content : String
  deriving DecidableEq, Repr

structure MessageBroadcast where
  fromUserId : String
  fromUsername : String
  content : String
  timestamp : Option Timestamp
  roomName : Option String
  deriving DecidableEq, Repr

structure PrivateMessageRequest where
  toUsername : String
  content : String
  deriving DecidableEq, Repr

structure RoomOperationRequest where
  operation : RoomOperation
  roomName : String
  deriving DecidableEq, Repr

/-- An unset operation reads as `join`, the value 0 of the enum. -/
structure RoomOperationResponse where
  success : Bool
  operation : RoomOperation
  roomName : String
  message : String
  deriving DecidableEq, Repr

structure HistoryMessageRequest where
  roomName : String
  limit : Int
  deriving DecidableEq, Repr

structure HistoryMessageResponse where
  roomName : String
  messages : List MessageBroadcast
  deriving DecidableEq, Repr

structure ServerNotification where
  eventType : UserEventType
  userId : String
  username : String
  message : String
  deriving DecidableEq, Repr

structure ErrorResponse where
  originalMessageId : String
  errorCode : Int
  errorMessage : String
  deriving DecidableEq, Repr

/-- The oneof of an envelope; `none` of it is an envelope without a payload. -/
inductive Payload where
  | loginRequest (m : LoginRequest)
  | loginResponse (m : LoginResponse)
  | registrationRequest (m : RegistrationRequest)
  | registrationResponse (m : RegistrationResponse)
  | changePasswordRequest (m : ChangePasswordRequest)
  | changePasswordResponse (m : ChangePasswordResponse)
  | changeUsernameRequest (m : ChangeUsernameRequest)
  | changeUsernameResponse (m : ChangeUsernameResponse)
  | publicMessage (m : PublicMessage)
  | messageBroadcast (m : MessageBroadcast)
  | privateMessageRequest (m : PrivateMessageRequest)
  | roomOperationRequest (m : RoomOperationRequest)
  | roomOperationResponse (m : RoomOperationResponse)
  | historyMessageRequest (m : HistoryMessageRequest)
  | historyMessageResponse (m : HistoryMessageResponse)
  | serverNotification (m : ServerNotification)
  | errorResponse (m : ErrorResponse)
  deriving DecidableEq, Repr

structure Envelope where
  messageId : String
  payload : Option Payload
  deriving DecidableEq, Repr

/-- What the services send: an envelope whose message id was never set. -/
def envelope (payload : Payload) : Envelope := ⟨"", some payload⟩

def errorEnvelope (message : String) : Envelope :=
  envelope (.errorResponse ⟨"", 0, message⟩)

def codedError (message : String) (code : Int) : Envelope :=
  envelope (.errorResponse ⟨"", code, message⟩)

structure User where
  id : Int
  username : String
  hashedPassword : String
  salt : String
  deriving DecidableEq, Repr

structure Room where
  id : Int
  name : String
  creatorId : Int
  deriving DecidableEq, Repr

/-- `createdAt` counts the nanoseconds of the time point since the epoch. -/
structure Message where
  id : Int
  roomId : Int
  senderId : Int
  content : String
  createdAt : Int
  deriving DecidableEq, Repr

end ChatProtocol

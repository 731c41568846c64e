import ChatServer.Model.Calls

/-!
The handlers of `AuthService`, `RoomService`, `MessageService` and `Server`, branch by
branch as the source writes them. Log lines are kept only where building them reads a
session field, since such a read is a call that can throw. SHA-256 is a parameter:
the hex digest of a string.
-/
namespace ChatServices
open AtomicCalls ChatProtocol ChatState ChatCalls

abbrev Handler := Program Call Call.Answer Unit

class Sha256 where
  hexDigest : String → String

def hashPassword [Sha256] (password salt : String) : String :=
  Sha256.hexDigest (password ++ salt)

def sendError (session : SessionId) (message : String) : Handler :=
  call (.send session (errorEnvelope message))

def sendCodedError (session : SessionId) (message : String) (code : Int) : Handler :=
  call (.send session (codedError message code))

section Auth
variable [Sha256]

def handleLogin (session : SessionId) (request : LoginRequest) : Handler := do
  match ← ask (.findByUsername request.username) with
  | none => sendError session "User not found."
  | some user =>
    if hashPassword request.password user.salt = user.hashedPassword then
      call (.registerAuthenticatedSession session user.id user.username)
      call (.send session (envelope (.loginResponse ⟨true,
        "Login successful. Welcome, " ++ user.username ++ "!", toString user.id⟩)))
    else sendError session "Password incorrect."

/-- `addUser` inserts the three named columns, so the id of its argument stays unread. -/
def handleRegister (session : SessionId) (request : RegistrationRequest) : Handler := do
  match ← ask (.findByUsername request.username) with
  | some _ => sendError session "Username already taken."
  | none =>
    let salt ← call .generateSalt
    let newUser : User := ⟨0, request.username, hashPassword request.password salt, salt⟩
    match ← ask (.addUser newUser) with
    | some _ => call (.send session (envelope (.registrationResponse ⟨true,
        "Registration successful. You can now log in, " ++ newUser.username ++ "!"⟩)))
    | none => call (.send session (envelope (.registrationResponse ⟨false,
        "Registration failed due to a server-side error."⟩)))

/-- The answer of `updateUser` is dropped here and in `handleChangeUsername`. -/
def handleChangePassword (session : SessionId) (request : ChangePasswordRequest) : Handler := do
  if ← call (.isAuthenticated session) then
    let username ← call (.getUsername session)
    match ← ask (.findByUsername username) with
    | none => sendError session "User not found."
    | some user =>
      if hashPassword request.oldPassword user.salt ≠ user.hashedPassword then
        sendError session "Old password is incorrect."
      else if request.oldPassword = "" ∨ request.newPassword = "" then
        sendError session "Old password and new password must be provided."
      else if request.oldPassword = request.newPassword then
        sendError session "New password must be different from old password."
      else
        let salt ← call .generateSalt
        let _ ← ask (.updateUser
          { user with salt := salt, hashedPassword := hashPassword request.newPassword salt })
        call (.send session (envelope (.changePasswordResponse ⟨true,
          "Password changed successfully."⟩)))
  else sendError session "Not authenticated."

def handleChangeUsername (session : SessionId) (request : ChangeUsernameRequest) : Handler := do
  if ← call (.isAuthenticated session) then
    let username ← call (.getUsername session)
    match ← ask (.findByUsername username) with
    | none => sendError session "User not found."
    | some user =>
      match ← ask (.findByUsername request.newUsername) with
      | some _ => sendError session "Username already taken."
      | none =>
        if request.newUsername = "" then
          sendError session "New username must be provided."
        else if request.newUsername = user.username then
          sendError session "New username must be different from current username."
        else
          let _ ← ask (.updateUser { user with username := request.newUsername })
          call (.updateUsername session request.newUsername)
          call (.send session (envelope (.changeUsernameResponse ⟨true,
            "Username changed successfully to " ++ request.newUsername ++ ".", ""⟩)))
  else sendError session "Not authenticated."

end Auth

def sendAll : List SessionId → Envelope → Handler
  | [], _ => pure ()
  | session :: rest, e => do
    call (.send session e)
    sendAll rest e

def broadcastToRoom (roomName : String) (e : Envelope) (excludeUserId : Int) : Handler := do
  let recipients ← call (.recipients roomName excludeUserId)
  sendAll recipients e

def sendRoomResponse (session : SessionId) (success : Bool) (operation : RoomOperation)
    (roomName message : String) : Handler :=
  call (.send session (envelope
    (.roomOperationResponse ⟨success, operation, roomName, message⟩)))

def notifyRoom (session : SessionId) (event : UserEventType) (userId : Int)
    (roomname : String) : Handler := do
  let username ← call (.getUsername session)
  let shown ← call (.getUsername session)
  broadcastToRoom roomname (presence event userId username shown) userId

/-- A JOIN of an unknown room returns before the operation and the room name of the
    response are set. -/
def handleRoomOperation (session : SessionId) (request : RoomOperationRequest) : Handler := do
  if ← call (.isAuthenticated session) then
    let userId ← call (.getUserId session)
    let roomname := request.roomName
    match request.operation with
    | .join =>
      match ← ask (.findByRoomName roomname) with
      | none =>
        sendRoomResponse session false .join "" ("Room '" ++ roomname ++ "' does not exist.")
      | some room =>
        call (.joinRoom userId roomname room session)
        notifyRoom session .userJoined userId roomname
        sendRoomResponse session true .join roomname ("Joined room " ++ roomname ++ " successfully.")
    | .leave =>
      call (.leaveRoom userId roomname)
      notifyRoom session .userLeft userId roomname
      sendRoomResponse session true .leave roomname ("Left room " ++ roomname ++ " successfully.")
    | .create =>
      match ← ask (.findByRoomName roomname) with
      | some _ =>
        sendRoomResponse session false .create roomname
          ("Room name '" ++ roomname ++ "' is already taken.")
      | none =>
        match ← ask (.addRoom ⟨0, roomname, userId⟩) with
        | some roomId =>
          call (.createRoom userId roomname roomId session)
          sendRoomResponse session true .create roomname
            ("Created room " ++ roomname ++ " successfully.")
        | none =>
          sendRoomResponse session false .create roomname
            ("Created room " ++ roomname ++ " failed.")
    | .other value => sendRoomResponse session false (.other value) roomname "Unknown operation."
  else pure ()

/-- `convertTimePointToTimestamp`: whole seconds truncated toward zero, and the rest. -/
def convertTimePointToTimestamp (nanoseconds : Int) : Timestamp :=
  ⟨nanoseconds.tdiv 1000000000, nanoseconds.tmod 1000000000⟩

/-- The name shown for a sender: looked up twice, the second answer used unchecked. -/
def senderName (senderId : Int) : Program Call Call.Answer String := do
  match ← ask (.findByUserId senderId) with
  | none => pure "Unknown"
  | some _ =>
    match ← ask (.findByUserId senderId) with
    | some user => pure user.username
    | none => do
      let impossible ← call .dereferenceEmpty
      nomatch impossible

def historyMessages (roomname : String) : List Message →
    Program Call Call.Answer (List MessageBroadcast)
  | [] => pure []
  | msg :: rest => do
    let name ← senderName msg.senderId
    let others ← historyMessages roomname rest
    pure (⟨toString msg.senderId, name, msg.content,
      some (convertTimePointToTimestamp msg.createdAt), some roomname⟩ :: others)

def handleHistoryRequest (session : SessionId) (request : HistoryMessageRequest) : Handler := do
  if ← call (.isAuthenticated session) then
    let roomname := request.roomName
    let userId ← call (.getUserId session)
    if ← call (.isInRoom userId roomname) then
      let current ← call (.getUserId session)
      let roomId ← call (.getUserCurrentRoomId current)
      let limit := if 0 < request.limit then request.limit else 50
      let messages ← ask (.findLatestByRoomId roomId limit)
      let history ← historyMessages roomname messages.reverse
      call (.send session (envelope (.historyMessageResponse ⟨roomname, history⟩)))
    else pure ()
  else pure ()

def handleDisconnect (session : SessionId) : Handler := do
  if ← call (.isAuthenticated session) then
    let userId ← call (.getUserId session)
    call (.disconnectRoom session userId)
  else pure ()

def notInRoom : String := "You are not in any room. Join a room to send messages."

/-- The answer of `addMessage` is dropped, and the room is looked up three times. -/
def handlePublicMessage (session : SessionId) (message : PublicMessage) : Handler := do
  if ← call (.isAuthenticated session) then
    let senderId ← call (.getUserId session)
    let roomName ← call (.getUserCurrentRoomName senderId)
    if roomName = "" then
      let _ ← call (.getUsername session)
      sendCodedError session notInRoom 403
    else
      let roomId ← call (.getUserCurrentRoomId senderId)
      let _ ← ask (.addMessage ⟨0, roomId, senderId, message.content, 0⟩)
      let username ← call (.getUsername session)
      let now ← call .getCurrentTime
      let userId ← call (.getUserId session)
      let target ← call (.getUserCurrentRoomName userId)
      broadcastToRoom target (envelope (.messageBroadcast
        ⟨toString senderId, username, message.content, some now, some roomName⟩)) 0
  else pure ()

def handlePrivateMessage (session : SessionId) (message : PrivateMessageRequest) : Handler := do
  if ← call (.isAuthenticated session) then
    let senderId ← call (.getUserId session)
    let senderName ← call (.getUsername session)
    let roomname ← call (.getUserCurrentRoomName senderId)
    if roomname = "" then
      let _ ← call (.getUsername session)
      sendCodedError session notInRoom 403
    else
      let missing := do
        let _ ← call (.getUsername session)
        sendCodedError session ("The user " ++ message.toUsername ++
          " you are trying to message does not exist or is not online.") 404
      match ← call (.findSession message.toUsername) with
      | none => missing
      | some acceptSession =>
        if ← call (.isAuthenticated acceptSession) then
          if (← call (.getUserId acceptSession)) = senderId then
            let _ ← call (.getUsername session)
            sendCodedError session "You cannot send a private message to yourself." 400
          else
            let now ← call .getCurrentTime
            let broadcast := envelope (.messageBroadcast
              ⟨toString senderId, senderName, message.content, some now, some roomname⟩)
            call (.send acceptSession broadcast)
            call (.send session broadcast)
        else missing
  else pure ()

def dispatchAuthenticated [Sha256] (session : SessionId) : Option Payload → Handler
  | some (.changePasswordRequest m) => handleChangePassword session m
  | some (.changeUsernameRequest m) => handleChangeUsername session m
  | some (.publicMessage m) => handlePublicMessage session m
  | some (.privateMessageRequest m) => handlePrivateMessage session m
  | some (.roomOperationRequest m) => handleRoomOperation session m
  | some (.historyMessageRequest m) => handleHistoryRequest session m
  | _ => pure ()

def requireAuthentication (session : SessionId) (handler : Handler) : Handler := do
  if ← call (.isAuthenticated session) then handler
  else sendError session "Authentication required."

def dispatchMessage [Sha256] (session : SessionId) (e : Envelope) : Handler :=
  match e.payload with
  | some (.loginRequest m) => handleLogin session m
  | some (.registrationRequest m) => handleRegister session m
  | payload => requireAuthentication session (dispatchAuthenticated session payload)

def onDisconnect (session : SessionId) : Handler := do
  if ← call (.isAuthenticated session) then
    let _ ← call (.getUsername session)
    let _ ← call (.getUserId session)
    handleDisconnect session
  else pure ()
  call (.removeSession session)

/-- What `Server::onMessage` reads for its log line before it posts the dispatch. -/
def onMessage (session : SessionId) : Handler := do
  if ← call (.isAuthenticated session) then
    let _ ← call (.getUsername session)
    let _ ← call (.getUserId session)
    pure ()
  else pure ()

inductive Job where
  | dispatch (session : SessionId) (e : Envelope)
  | disconnect (session : SessionId)
  deriving DecidableEq

def Job.session : Job → SessionId
  | .dispatch session _ => session
  | .disconnect session => session

def Job.handler [Sha256] : Job → Handler
  | .dispatch session e => dispatchMessage session e
  | .disconnect session => onDisconnect session

end ChatServices

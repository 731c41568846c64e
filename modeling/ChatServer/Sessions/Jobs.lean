import ChatServer.Accounts.Handlers

/-!
What a whole posted job leaves in memory. Only login, rename, the room operations and
the disconnect touch it; every other request leaves it as it was.
-/
namespace JobEffects
open AtomicCalls ChatProtocol ChatState ChatCalls ChatServices ChatEffects AccountHandlers

@[simp] def KeepsMemory : Call → Prop
  | .registerAuthenticatedSession _ _ _ => False
  | .updateUsername _ _ => False
  | .removeSession _ => False
  | .joinRoom _ _ _ _ => False
  | .leaveRoom _ _ => False
  | .createRoom _ _ _ _ => False
  | .disconnectRoom _ _ => False
  | _ => True

theorem serverNext_keepsMemory {c : Call} (keeps : KeepsMemory c) (s : Server) :
    serverNext c s = s := by
  cases c <;> simp_all

variable {E : Environment}

theorem final_keepsMemory {p : Program Call Call.Answer α} (keeps : p.Uses KeepsMemory)
    (choices : Nat → Choice E) (w : World E) :
    (p.final (chat E) choices w).server = w.server :=
  final_keeps (M := chat E) (fun now => now.server = w.server)
    (fun _ _ _ ok same => (serverNext_keepsMemory ok _).trans same) keeps choices rfl

@[simp] def MessageCall : Call → Prop
  | .registerAuthenticatedSession _ _ _ => False
  | .updateUsername _ _ => False
  | .removeSession _ => False
  | .joinRoom _ _ _ _ => False
  | .leaveRoom _ _ => False
  | .createRoom _ _ _ _ => False
  | .disconnectRoom _ _ => False
  | .repository (.addUser _) => False
  | .repository (.updateUser _) => False
  | .repository (.addRoom _) => False
  | .generateSalt => False
  | _ => True

theorem keepsMemory_messageCall (c : Call) (ok : MessageCall c) : KeepsMemory c := by
  cases c <;> simp_all

theorem messageCalls_sendAll (recipients : List SessionId) (e : Envelope) :
    (sendAll recipients e).Uses MessageCall :=
  uses_sendAll (fun _ => trivial) recipients

theorem messageCalls_handlePublicMessage (session : SessionId) (m : PublicMessage) :
    (handlePublicMessage session m).Uses MessageCall := by
  simp only [handlePublicMessage, perform_bind, Program.Uses, MessageCall, true_and]
  intro present
  split
  · simp only [Program.Uses, MessageCall, true_and]
    intro senderId roomName
    split
    · simp [sendCodedError]
    · simp [broadcastToRoom, messageCalls_sendAll]
  · trivial

theorem messageCalls_handlePrivateMessage (session : SessionId) (m : PrivateMessageRequest) :
    (handlePrivateMessage session m).Uses MessageCall := by
  simp only [handlePrivateMessage, perform_bind, Program.Uses, MessageCall, true_and]
  intro present
  split
  · simp only [Program.Uses, MessageCall, true_and]
    intro senderId senderName roomname
    split
    · simp [sendCodedError]
    · simp only [Program.Uses, MessageCall, true_and]
      intro found
      cases found with
      | none => simp [sendCodedError]
      | some acceptSession =>
        simp only [Program.Uses, MessageCall, true_and]
        intro online
        split
        · simp only [Program.Uses, MessageCall, true_and]
          intro acceptId
          split <;> simp [sendCodedError]
        · simp [sendCodedError]
  · trivial

@[simp] def HistoryCall (session : SessionId) : Call → Prop
  | .isAuthenticated _ => True
  | .getUserId id => id = session
  | .isInRoom _ _ => True
  | .getUserCurrentRoomId _ => True
  | .repository (.findLatestByRoomId _ _) => True
  | .repository (.findByUserId _) => True
  | .dereferenceEmpty => True
  | .send id e => id = session ∧ ∃ response, e = envelope (.historyMessageResponse response)
  | _ => False

theorem historyCalls_handleHistoryRequest (session : SessionId) (m : HistoryMessageRequest) :
    (handleHistoryRequest session m).Uses (HistoryCall session) := by
  simp only [handleHistoryRequest, perform_bind, Program.Uses, HistoryCall, true_and]
  intro present
  split
  · simp only [Program.Uses, HistoryCall, true_and]
    intro userId inRoom
    split
    · simp only [Program.Uses, HistoryCall, true_and]
      intro current roomId messages
      exact uses_bind (uses_historyMessages (fun _ => trivial) trivial m.roomName messages.reverse)
        (fun history => ⟨⟨rfl, _, rfl⟩, fun _ => trivial⟩)
    · trivial
  · trivial

theorem messageCall_of_historyCall (session : SessionId) (c : Call)
    (history : HistoryCall session c) : MessageCall c := by
  cases c with
  | repository q => cases q <;> simp_all
  | _ => simp_all

theorem messageCalls_handleHistoryRequest (session : SessionId) (m : HistoryMessageRequest) :
    (handleHistoryRequest session m).Uses MessageCall :=
  uses_mono (messageCall_of_historyCall session) (historyCalls_handleHistoryRequest session m)

theorem server_messageCalls {p : Handler} (calls : p.Uses MessageCall)
    (choices : Nat → Choice E) (w : World E) : (p.final (chat E) choices w).server = w.server :=
  final_keepsMemory (uses_mono keepsMemory_messageCall calls) choices w

section Jobs
variable [Sha256]

def afterLogin (session : SessionId) (m : LoginRequest) (choices : Nat → Choice E)
    (w : World E) : Server :=
  match opened m (answered (choices 0) (.findByUsername m.username) w.store) with
  | some user => w.server.registerAuthenticatedSession session user.id user.username
  | none => w.server

def afterRename (session : SessionId) (m : ChangeUsernameRequest) (choices : Nat → Choice E)
    (w : World E) (username : String) : Server :=
  match renamed m (answered (choices 3) (.findByUsername username) w.store)
    (answered (choices 4) (.findByUsername m.newUsername) w.store) with
  | some user => serverRenamed session m.newUsername w.server
    (answered (choices 5) (.updateUser user) w.store)
  | none => w.server

def afterRooms (session : SessionId) (m : RoomOperationRequest) (choices : Nat → Choice E)
    (w : World E) (userId : Int) : Server :=
  { w.server with
    roomService := roomAfter session userId m (roomFound (later choices) m.roomName w.store)
      (roomAdded (later choices) userId m.roomName w.store) w.server.roomService }

def afterDisconnect (session : SessionId) (s : Server) : Server :=
  match (s.session session).identity with
  | some (userId, _) =>
    { s with roomService := s.roomService.disconnect userId }.removeSession session
  | none => s.removeSession session

def afterRequest (session : SessionId) (payload : Option Payload) (choices : Nat → Choice E)
    (w : World E) (userId : Int) (username : String) : Server :=
  match payload with
  | some (.changeUsernameRequest m) => afterRename session m choices w username
  | some (.roomOperationRequest m) => afterRooms session m choices w userId
  | _ => w.server

def serverAfter (job : Job) (choices : Nat → Choice E) (w : World E) : Server :=
  match job with
  | .disconnect session => afterDisconnect session w.server
  | .dispatch session e =>
    match e.payload with
    | some (.loginRequest m) => afterLogin session m choices w
    | payload => match (w.server.session session).identity with
      | some (userId, username) => afterRequest session payload choices w userId username
      | none => w.server

omit [Sha256] in
theorem final_onDisconnect (session : SessionId) (choices : Nat → Choice E) (w : World E) :
    (onDisconnect session).final (chat E) choices w =
      { w with server := afterDisconnect session w.server } := by
  cases who : (w.server.session session).identity with
  | none =>
    unfold onDisconnect
    simp [identity_none who, afterDisconnect, who]
  | some identity =>
    obtain ⟨userId, username⟩ := identity
    obtain ⟨present, id, name⟩ := identity_some who
    unfold onDisconnect handleDisconnect
    simp [afterDisconnect, who, present, id, name]
    cases w.server.roomService.userToRoomMap[userId]? <;> rfl

section Requests
variable (session : SessionId) (choices : Nat → Choice E) (w : World E) {userId : Int}
  {username : String} (who : (w.server.session session).identity = some (userId, username))
include who

theorem server_changePassword (m : ChangePasswordRequest) :
    ((handleChangePassword session m).final (chat E) choices w).server = w.server := by
  rw [final_handleChangePassword session choices w who]
  split <;> rfl

omit [Sha256] in
theorem server_changeUsername (m : ChangeUsernameRequest) :
    ((handleChangeUsername session m).final (chat E) (later choices) w).server =
      afterRename session m choices w username := by
  rw [final_handleChangeUsername session (later choices) w who]
  simp only [afterRename, later_apply]
  cases renamed m (answered (choices 3) (.findByUsername username) w.store)
    (answered (choices 4) (.findByUsername m.newUsername) w.store) <;> rfl

theorem server_dispatchAuthenticated (payload : Option Payload) :
    ((dispatchAuthenticated session payload).final (chat E) (later choices) w).server =
      afterRequest session payload choices w userId username := by
  cases payload with
  | none => rfl
  | some payload =>
    cases payload with
    | changePasswordRequest m => exact server_changePassword session (later choices) w who m
    | changeUsernameRequest m => exact server_changeUsername session choices w who m
    | publicMessage m =>
      exact server_messageCalls (messageCalls_handlePublicMessage session m) (later choices) w
    | privateMessageRequest m =>
      exact server_messageCalls (messageCalls_handlePrivateMessage session m) (later choices) w
    | roomOperationRequest m => exact final_handleRoomOperation session m (later choices) w who
    | historyMessageRequest m =>
      exact server_messageCalls (messageCalls_handleHistoryRequest session m) (later choices) w
    | _ => rfl

end Requests

theorem server_requireAuthentication (session : SessionId) (payload : Option Payload)
    (choices : Nat → Choice E) (w : World E) :
    ((requireAuthentication session (dispatchAuthenticated session payload)).final
      (chat E) choices w).server =
      match (w.server.session session).identity with
      | some (userId, username) => afterRequest session payload choices w userId username
      | none => w.server := by
  rw [final_requireAuthentication]
  cases who : (w.server.session session).identity with
  | none => simp [identity_none who]
  | some identity =>
    simp only [(identity_some who).1, ↓reduceIte]
    exact server_dispatchAuthenticated session choices w who payload

theorem server_login (session : SessionId) (m : LoginRequest) (choices : Nat → Choice E)
    (w : World E) :
    ((handleLogin session m).final (chat E) choices w).server =
      afterLogin session m choices w := by
  rw [final_handleLogin, afterLogin]
  cases opened m (answered (choices 0) (.findByUsername m.username) w.store) <;> rfl

theorem server_register (session : SessionId) (m : RegistrationRequest)
    (choices : Nat → Choice E) (w : World E) :
    ((handleRegister session m).final (chat E) choices w).server = w.server := by
  rw [final_handleRegister]
  split <;> rfl

theorem final_job (job : Job) (choices : Nat → Choice E) (w : World E) :
    (job.handler.final (chat E) choices w).server = serverAfter job choices w := by
  cases job with
  | disconnect session => exact congrArg World.server (final_onDisconnect session choices w)
  | dispatch session e =>
    obtain ⟨messageId, payload⟩ := e
    cases payload with
    | none => exact server_requireAuthentication session none choices w
    | some payload =>
      cases payload with
      | loginRequest m => exact server_login session m choices w
      | registrationRequest m =>
        apply (server_register session m choices w).trans
        simp only [serverAfter, afterRequest]
        cases (w.server.session session).identity <;> rfl
      | _ => exact server_requireAuthentication session (some _) choices w

/-- A job that runs on its own, with what the repositories answer it. -/
structure JobEvent where
  job : Job
  choices : Nat → Choice anyAnswers

def jobStep (w : World anyAnswers) (e : JobEvent) : World anyAnswers :=
  e.job.handler.final (chat anyAnswers) e.choices w

end Jobs

/-- What the handlers other than that of histories call, when they read the fields of
    `known` sessions. -/
@[simp] def OtherCall (known : SessionId → Prop) : Call → Prop
  | .getUserId id => known id
  | .getUsername id => known id
  | .updateUsername id _ => known id
  | .disconnectRoom id _ => known id
  | .repository (.findByUserId _) => False
  | .repository (.findLatestByRoomId _ _) => False
  | .dereferenceEmpty => False
  | .send _ e => ∀ response, e ≠ envelope (.historyMessageResponse response)
  | _ => True

section Others
variable {known : SessionId → Prop} (session : SessionId)

theorem others_sendError (message : String) :
    (sendError session message).Uses (OtherCall known) := by
  simp [sendError, errorEnvelope, envelope]

theorem others_sendCodedError (message : String) (code : Int) :
    (sendCodedError session message code).Uses (OtherCall known) := by
  simp [sendCodedError, codedError, envelope]

theorem others_sendRoomResponse (success : Bool) (operation : RoomOperation)
    (roomName message : String) :
    (sendRoomResponse session success operation roomName message).Uses (OtherCall known) := by
  simp [sendRoomResponse, envelope]

theorem others_broadcast (roomName : String) (m : MessageBroadcast) (exclude : Int) :
    (broadcastToRoom roomName (envelope (.messageBroadcast m)) exclude).Uses (OtherCall known) :=
  ⟨trivial, fun recipients => uses_sendAll (by simp [envelope]) recipients⟩

theorem others_handlePrivateMessage (m : PrivateMessageRequest) (all : ∀ id, known id) :
    (handlePrivateMessage session m).Uses (OtherCall known) := by
  simp only [handlePrivateMessage, perform_bind, Program.Uses, OtherCall, true_and]
  intro present
  split
  · simp only [Program.Uses, OtherCall, all, true_and]
    intro senderId senderName roomname
    split
    · simp [all, others_sendCodedError]
    · simp only [Program.Uses, OtherCall, true_and]
      intro found
      cases found with
      | none => simp [all, others_sendCodedError]
      | some acceptSession =>
        simp only [Program.Uses, OtherCall, true_and]
        intro online
        split
        · simp only [Program.Uses, OtherCall, all, true_and]
          intro acceptId
          split
          · simp [all, others_sendCodedError]
          · simp [envelope]
        · simp [all, others_sendCodedError]
  · trivial

section Own
variable {session} (own : known session)
include own

theorem others_notifyRoom (event : UserEventType) (userId : Int) (roomname : String) :
    (notifyRoom session event userId roomname).Uses (OtherCall known) := by
  have named : OtherCall known (.getUsername session) := own
  have sent : ∀ username shown id,
      OtherCall known (.send id (presence event userId username shown)) := by
    simp [presence, envelope]
  exact uses_notifyRoom named (fun _ => trivial) sent roomname

theorem others_handlePublicMessage (m : PublicMessage) :
    (handlePublicMessage session m).Uses (OtherCall known) := by
  simp only [handlePublicMessage, perform_bind, Program.Uses, OtherCall, true_and]
  intro present
  split
  · simp only [Program.Uses, OtherCall, own, true_and]
    intro senderId roomName
    split
    · simp [own, others_sendCodedError]
    · simp [own, others_broadcast]
  · trivial

theorem others_handleRoomOperation (m : RoomOperationRequest) :
    (handleRoomOperation session m).Uses (OtherCall known) := by
  simp only [handleRoomOperation, perform_bind, Program.Uses, OtherCall, true_and]
  intro present
  split
  · simp only [Program.Uses, OtherCall, own, true_and]
    intro userId
    cases m.operation with
    | join =>
      simp only [Program.Uses, OtherCall, true_and]
      intro found
      cases found with
      | none => exact others_sendRoomResponse session _ _ _ _
      | some room =>
        exact ⟨trivial, fun _ => uses_bind (others_notifyRoom own _ _ _)
          (fun _ => others_sendRoomResponse session _ _ _ _)⟩
    | leave =>
      exact ⟨trivial, fun _ => uses_bind (others_notifyRoom own _ _ _)
        (fun _ => others_sendRoomResponse session _ _ _ _)⟩
    | create =>
      simp only [Program.Uses, OtherCall, true_and]
      intro found
      cases found with
      | some room => exact others_sendRoomResponse session _ _ _ _
      | none =>
        simp only [Program.Uses, OtherCall, true_and]
        intro added
        cases added with
        | none => exact others_sendRoomResponse session _ _ _ _
        | some roomId => exact ⟨trivial, fun _ => others_sendRoomResponse session _ _ _ _⟩
    | other value => exact others_sendRoomResponse session _ _ _ _
  · trivial

theorem others_onDisconnect : (onDisconnect session).Uses (OtherCall known) := by
  simp only [onDisconnect, handleDisconnect, perform_bind, Program.Uses, OtherCall, true_and]
  intro present
  cases present with
  | false => exact ⟨trivial, fun _ => trivial⟩
  | true =>
    refine ⟨own, fun _ => ⟨own, fun _ => ⟨trivial, fun still => ?_⟩⟩⟩
    cases still with
    | false => exact ⟨trivial, fun _ => trivial⟩
    | true => exact ⟨own, fun _ => ⟨own, fun _ => ⟨trivial, fun _ => trivial⟩⟩⟩

theorem otherCall_of_accountCall (c : Call) (account : AccountCall session c) :
    OtherCall known c := by
  cases c with
  | getUsername id => exact account ▸ own
  | updateUsername id newUsername => exact account ▸ own
  | repository q => cases q <;> simp_all
  | send id e =>
    intro response same
    rw [same] at account
    exact account.2
  | _ => simp_all

theorem others_accountCalls {p : Handler} (calls : p.Uses (AccountCall session)) :
    p.Uses (OtherCall known) := uses_mono (otherCall_of_accountCall own) calls

end Own

section Accounts
variable [Sha256]

theorem others_handleLogin (m : LoginRequest) :
    (handleLogin session m).Uses (OtherCall known) := by
  simp only [handleLogin, perform_bind, Program.Uses, OtherCall, true_and]
  intro found
  cases found with
  | none => exact others_sendError session _
  | some user =>
    dsimp only
    split
    · simp [envelope]
    · exact others_sendError session _

theorem others_handleRegister (m : RegistrationRequest) :
    (handleRegister session m).Uses (OtherCall known) := by
  simp only [handleRegister, perform_bind, Program.Uses, OtherCall, true_and]
  intro found
  cases found with
  | some user => exact others_sendError session _
  | none =>
    simp only [Program.Uses, OtherCall, true_and]
    intro salt added
    cases added <;> simp [envelope]

theorem others_dispatchAuthenticated {payload : Option Payload} {session : SessionId}
    (own : known session) (no_history : ∀ m, payload ≠ some (.historyMessageRequest m))
    (private_known : ∀ m, payload = some (.privateMessageRequest m) → ∀ id, known id) :
    (dispatchAuthenticated session payload).Uses (OtherCall known) := by
  cases payload with
  | none => trivial
  | some payload =>
    cases payload with
    | changePasswordRequest m => exact others_accountCalls own (accountCalls_handleChangePassword m)
    | changeUsernameRequest m => exact others_accountCalls own (accountCalls_handleChangeUsername m)
    | publicMessage m => exact others_handlePublicMessage own m
    | privateMessageRequest m =>
      exact others_handlePrivateMessage session m (private_known m rfl)
    | roomOperationRequest m => exact others_handleRoomOperation own m
    | historyMessageRequest m => exact absurd rfl (no_history m)
    | _ => trivial

/-- Only the handler of histories makes the calls it makes. -/
theorem others_job {job : Job}
    (other : ∀ session messageId m,
      job ≠ .dispatch session ⟨messageId, some (.historyMessageRequest m)⟩) :
    job.handler.Uses (OtherCall (fun _ => True)) := by
  have all : ∀ _ : SessionId, True := fun _ => trivial
  cases job with
  | disconnect session => exact others_onDisconnect trivial
  | dispatch session e =>
    obtain ⟨messageId, payload⟩ := e
    have gate : (∀ m, payload ≠ some (.historyMessageRequest m)) →
        (requireAuthentication session (dispatchAuthenticated session payload)).Uses
          (OtherCall (fun _ => True)) := by
      intro no_history
      refine ⟨trivial, ?_⟩
      intro present
      cases present with
      | false => exact others_sendError session _
      | true => exact others_dispatchAuthenticated trivial no_history (fun _ _ => all)
    cases payload with
    | none => exact gate (by simp)
    | some payload =>
      cases payload with
      | loginRequest m => exact others_handleLogin session m
      | registrationRequest m => exact others_handleRegister session m
      | historyMessageRequest m => exact absurd rfl (other session messageId m)
      | _ => exact gate (by simp)

end Accounts

end Others

end JobEffects
